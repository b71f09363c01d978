/-!
# Halves of pairs

Texts of sixteen-bit units write a character beyond the basic plane as a pair of halves, and an
escape may name a half on its own. A half is no character, so it is kept as a stand-in: the
character at the same place of plane 13, where no characters are assigned. Stand-ins keep different
halves apart; where a text is shown, two of them that make a pair become the character it writes.
-/

namespace Rubric.Text

def isHighHalf (code : Nat) : Bool := 0xD800 ≤ code && code ≤ 0xDBFF

def isLowHalf (code : Nat) : Bool := 0xDC00 ≤ code && code ≤ 0xDFFF

def ofHalves (high low : Nat) : Char :=
  Char.ofNat (0x10000 + (high - 0xD800) * 0x400 + (low - 0xDC00))

def standInPlane : Nat := 0xD0000

/-- The character of a code; a stand-in for a half. -/
def ofCode (code : Nat) : Char :=
  Char.ofNat (if isHighHalf code || isLowHalf code then standInPlane + code else code)

def half? (c : Char) : Option Nat :=
  let code := c.toNat - standInPlane
  if isHighHalf code || isLowHalf code then some code else none

/-- The characters with each pair of halves as the character it writes. -/
def joinHalves : List Char → List Char
  | c :: d :: rest =>
    match half? c, half? d with
    | some high, some low =>
      if isHighHalf high && isLowHalf low then ofHalves high low :: joinHalves rest
      else c :: joinHalves (d :: rest)
    | _, _ => c :: joinHalves (d :: rest)
  | rest => rest

def shown (text : String) : String :=
  String.ofList (joinHalves text.toList)

/-- Whether a text that quotes from another holds half a pair: a stand-in that the other has not
got as a character of its own. -/
def quotesHalf (source text : String) : Bool :=
  text.toList.any fun c => (half? c).isSome && !source.toList.contains c

end Rubric.Text
