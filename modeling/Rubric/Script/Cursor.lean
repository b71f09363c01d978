import Rubric.SyntaxFault

/-!
# Places in a source text

A cursor is a place in a source text: the characters that follow it, how many came before, and the
line it is on. Between two tokens there may be a gap of blanks, line ends and comments; `skipGap`
moves a cursor over it in one pass.
-/

namespace Rubric.Script

def isLineEnd (c : Char) : Bool :=
  c == '\n' || c == '\r' || c.toNat == 0x2028 || c.toNat == 0x2029

/-- Whether a character is blank between tokens and does not end a line. -/
def isBlankInLine (c : Char) : Bool :=
  let n := c.toNat
  n == 0x20 || n == 0x09 || n == 0x0B || n == 0x0C || n == 0xA0 || n == 0x1680 || n == 0x180E ||
    (0x2000 ≤ n && n ≤ 0x200A) || n == 0x202F || n == 0x205F || n == 0x3000 || n == 0xFEFF

structure Cursor where
  rest : List Char
  index : Nat
  line : Nat
  lineStart : Nat
deriving Inhabited

def faultAt (index line : Nat) (column : Int) (text : String) : SyntaxFault :=
  { description := "Line " ++ toString line ++ ": " ++ text
    line := some line, column := some column, index := some index }

def illegalText : String := "Unexpected token ILLEGAL"

namespace Cursor

/-- The start of a source text. The lines of an empty text are counted from zero. -/
def start (text : List Char) : Cursor :=
  ⟨text, 0, if text.isEmpty then 0 else 1, 0⟩

/-- Moves over a number of characters, none of which ends a line. -/
def skip (cursor : Cursor) (count : Nat) : Cursor :=
  { cursor with rest := cursor.rest.drop count, index := cursor.index + count }

def newLine (cursor : Cursor) : Cursor :=
  { cursor with line := cursor.line + 1, lineStart := cursor.index }

/-- The next character; a null character stands for the end of the text. -/
def peek (cursor : Cursor) : Char :=
  cursor.rest.headD '\x00'

def peekSecond (cursor : Cursor) : Char :=
  (cursor.rest.drop 1).headD '\x00'

def column (cursor : Cursor) : Int :=
  (cursor.index : Int) - cursor.lineStart

def fault (cursor : Cursor) (text : String) : SyntaxFault :=
  faultAt cursor.index cursor.line (cursor.column + 1) text

def illegal {α : Type} (cursor : Cursor) : Except SyntaxFault α :=
  .error (cursor.fault illegalText)

end Cursor

mutual

/-- Skips blanks, line ends and comments. `legacy` allows comments that open with `<!--`; `fresh`
says that only blanks and comments stand before on the line, so that `-->` opens a comment. -/
def skipGapFrom (legacy fresh : Bool) (index line lineStart : Nat) :
    List Char → Except SyntaxFault Cursor
  | [] => .ok ⟨[], index, line, lineStart⟩
  | '\r' :: '\n' :: rest => skipGapFrom legacy true (index + 2) (line + 1) (index + 2) rest
  | '/' :: '/' :: rest => skipLineFrom legacy true (index + 2) line lineStart rest
  | '/' :: '*' :: rest => skipBlockFrom legacy fresh (index + 2) line lineStart rest
  | '-' :: '-' :: '>' :: rest =>
    if fresh then skipLineFrom legacy fresh (index + 3) line lineStart rest
    else .ok ⟨'-' :: '-' :: '>' :: rest, index, line, lineStart⟩
  | '<' :: '!' :: '-' :: '-' :: rest =>
    if legacy then skipLineFrom legacy fresh (index + 4) line lineStart rest
    else .ok ⟨'<' :: '!' :: '-' :: '-' :: rest, index, line, lineStart⟩
  | c :: rest =>
    if isLineEnd c then skipGapFrom legacy true (index + 1) (line + 1) (index + 1) rest
    else if isBlankInLine c then skipGapFrom legacy fresh (index + 1) line lineStart rest
    else .ok ⟨c :: rest, index, line, lineStart⟩

/-- Skips the rest of a line, which is a comment, and the gap after it. -/
def skipLineFrom (legacy fresh : Bool) (index line lineStart : Nat) :
    List Char → Except SyntaxFault Cursor
  | [] => .ok ⟨[], index, line, lineStart⟩
  | '\r' :: '\n' :: rest => skipGapFrom legacy fresh (index + 2) (line + 1) (index + 2) rest
  | c :: rest =>
    if isLineEnd c then skipGapFrom legacy fresh (index + 1) (line + 1) (index + 1) rest
    else skipLineFrom legacy fresh (index + 1) line lineStart rest

/-- Skips the rest of a comment that ends with `*/`, and the gap after it. -/
def skipBlockFrom (legacy fresh : Bool) (index line lineStart : Nat) :
    List Char → Except SyntaxFault Cursor
  | [] => Cursor.illegal ⟨[], index, line, lineStart⟩
  | '*' :: '/' :: rest => skipGapFrom legacy fresh (index + 2) line lineStart rest
  | '\r' :: '\n' :: rest => skipBlockFrom legacy fresh (index + 2) (line + 1) (index + 2) rest
  | c :: rest =>
    if isLineEnd c then skipBlockFrom legacy fresh (index + 1) (line + 1) (index + 1) rest
    else skipBlockFrom legacy fresh (index + 1) line lineStart rest

end

def Cursor.skipGap (legacy : Bool) (cursor : Cursor) : Except SyntaxFault Cursor :=
  skipGapFrom legacy (cursor.index == 0) cursor.index cursor.line cursor.lineStart cursor.rest

end Rubric.Script
