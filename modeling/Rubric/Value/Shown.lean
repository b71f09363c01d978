import Rubric.Binary64.Shortest
import Rubric.Text.Integer
import Rubric.Text.Quoted
import Rubric.Value

/-!
# Values in messages

The text by which a message shows a value. There is none if an integer in the value has too many
digits, or if more values stand in one another than there is room for. Members are shown in order,
so the first fault decides.
-/

namespace Rubric.Value

mutual

def shown : Nat → Value → Except Unshowable String
  | 0, _ => .error .tooDeep
  | _ + 1, .null => .ok "None"
  | _ + 1, .bool b => .ok (if b then "True" else "False")
  | _ + 1, .int n => Text.decimal n
  | _ + 1, .float x => .ok (x.text Binary64.inMessages)
  | _ + 1, .string s => .ok (Text.quoted s)
  | _ + 1, .moment m => .ok m.text
  | room + 1, .array items =>
    (shownItems room items).map fun texts => "[" ++ ", ".intercalate texts ++ "]"
  | room + 1, .object members =>
    (shownMembers room members).map fun texts => "\x7b" ++ ", ".intercalate texts ++ "\x7d"

def shownItems (room : Nat) : List Value → Except Unshowable (List String)
  | [] => .ok []
  | value :: rest => do
    let text ← shown room value
    return text :: (← shownItems room rest)

def shownMembers (room : Nat) : List (String × Value) → Except Unshowable (List String)
  | [] => .ok []
  | (key, value) :: rest => do
    let text ← shown room value
    return (Text.quoted key ++ ": " ++ text) :: (← shownMembers room rest)

end

mutual

/-- Whether a value holds an integer that has too many digits to be written. -/
def isOversized : Value → Bool
  | .int n => Text.isOversized n
  | .array items => anyOversized items
  | .object members => anyMemberOversized members
  | _ => false

def anyOversized : List Value → Bool
  | [] => false
  | value :: rest => isOversized value || anyOversized rest

def anyMemberOversized : List (String × Value) → Bool
  | [] => false
  | (_, value) :: rest => isOversized value || anyMemberOversized rest

end

end Rubric.Value
