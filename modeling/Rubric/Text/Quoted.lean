import Rubric.Text.Printable

/-!
# Quoted text

How messages quote a text: in single quotes, or in double quotes if it holds a single quote and no
double one. Characters that do not print are escaped.
-/

namespace Rubric.Text

namespace Quoted

/-- The hexadecimal digits of a number, padded with zeros to a width. -/
def hex (width n : Nat) : List Char :=
  let digits := Nat.toDigits 16 n
  List.replicate (width - digits.length) '0' ++ digits

def mark (chars : List Char) : Char :=
  if chars.contains '\'' && !chars.contains '"' then '"' else '\''

def escape (quote c : Char) : List Char :=
  if c == quote || c == '\\' then ['\\', c]
  else if c == '\n' then ['\\', 'n']
  else if c == '\r' then ['\\', 'r']
  else if c == '\t' then ['\\', 't']
  else if isPrintable c then [c]
  else if c.toNat < 0x100 then '\\' :: 'x' :: hex 2 c.toNat
  else if c.toNat < 0x10000 then '\\' :: 'u' :: hex 4 c.toNat
  else '\\' :: 'U' :: hex 8 c.toNat

end Quoted

def quoted (text : String) : String :=
  let chars := text.toList
  let quote := Quoted.mark chars
  String.ofList (quote :: chars.flatMap (Quoted.escape quote) ++ [quote])

end Rubric.Text
