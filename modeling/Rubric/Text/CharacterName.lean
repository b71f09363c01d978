import Rubric.Text.CharacterName.Alias
import Rubric.Text.CharacterName.Ancient
import Rubric.Text.CharacterName.Eastern
import Rubric.Text.CharacterName.Letters
import Rubric.Text.CharacterName.Marks
import Rubric.Text.CharacterName.Pictures
import Rubric.Text.CharacterName.Symbols
import Rubric.Text.Digit
import Rubric.Text.Parts

/-!
# Names of characters

The character that a name of the Unicode standard stands for. Ideographs and Korean syllables are
named by rule. The names of all others are kept in tables, in the order of their characters. An
entry of a table is

* `@` and a code, where the codes do not simply go on;
* a digit and words: as many words of the name before as the digit says, and then the words;
* `~`: the name before with the word `SMALL` for `CAPITAL`;
* `+`: the name before with the number at its end one greater.
-/

namespace Rubric.Text.CharacterName

/-! ## Reading a table -/

def entries (table : String) : List (List Char) :=
  parts (fun c => c == ' ' || c == '\n') table.toList

abbrev Words := List (List Char)

/-- The words of a name, with single blanks between them. -/
def wordsOf (name : List Char) : Words :=
  name.foldr (fun c words =>
    match words with
    | [] => [[c]]
    | word :: words => if c == ' ' then [] :: word :: words else (c :: word) :: words) [[]]

/-- The word with the number at its end one greater, in as many digits. -/
def successor (word : List Char) : List Char :=
  let digits := (word.reverse.takeWhile Char.isDigit).reverse
  let next := Nat.toDigits 10 (ofDigits 10 digits + 1)
  word.take (word.length - digits.length) ++
    List.replicate (digits.length - next.length) '0' ++ next

def nameAfter (words : Words) : List Char → Words
  | [] => words
  | c :: rest =>
    if c == '~' then
      words.map fun word => if word == "CAPITAL".toList then "SMALL".toList else word
    else if c == '+' then words.dropLast ++ words.getLast?.toList.map successor
    else words.take ((hexValue? c).getD 0) ++ parts (· == '_') rest

/-- The code of a name among the entries of a table, of which the code and the name before are
known. -/
def codeAmong (name : Words) (code : Nat) (before : Words) : List (List Char) → Option Nat
  | [] => none
  | ('@' :: digits) :: rest => codeAmong name (ofDigits 16 digits) before rest
  | entry :: rest =>
    let words := nameAfter before entry
    if words == name then some code else codeAmong name (code + 1) words rest

def codeOfAlias (name : Words) : List (List Char) → Option Nat
  | [] => none
  | entry :: rest =>
    if parts (· == '_') ((entry.dropWhile (· != '=')).drop 1) == name then
      some (ofDigits 16 (entry.takeWhile (· != '=')))
    else codeOfAlias name rest

def codeInTables (name : Words) : Option Nat :=
  ([letters, symbols, eastern, ancient, marks, pictures].firstM fun table =>
    codeAmong name 0 [] (entries table)).or (codeOfAlias name (entries aliases))

/-! ## Names by rule -/

def afterBeginning? (beginning : String) (chars : List Char) : Option (List Char) :=
  if beginning.toList.isPrefixOf chars then some (chars.drop beginning.length) else none

def ideographs : Ranges := #[
  (0x3400, 0x4DBF), (0x4E00, 0x9FFF), (0x20000, 0x2A6DF), (0x2A700, 0x2B738),
  (0x2B740, 0x2B81D), (0x2B820, 0x2CEA1), (0x2CEB0, 0x2EBE0), (0x30000, 0x3134A)]

/-- The characters named by a phrase and their codes, with the phrases. -/
def families : List (String × Ranges) := [
  ("CJK COMPATIBILITY IDEOGRAPH-", #[(0xF900, 0xFA6D), (0xFA70, 0xFAD9), (0x2F800, 0x2FA1D)]),
  ("KHITAN SMALL SCRIPT CHARACTER-", #[(0x18B00, 0x18CD5)]),
  ("NUSHU CHARACTER-", #[(0x1B170, 0x1B2FB)])]

def capitalHex? (digits : List Char) : Option Nat :=
  if digits.all fun c => c.isDigit || ('A' ≤ c && c ≤ 'F') then some (ofDigits 16 digits) else none

/-- The ideograph of a code in four or five digits. -/
def ideograph? (digits : List Char) : Option Nat :=
  if digits.length == 4 || digits.length == 5 then
    (capitalHex? digits).filter fun code => ideographs.contains (Char.ofNat code)
  else none

/-- The code of a character that is named by a phrase and its code. -/
def codeInFamilies (name : List Char) : Option Nat :=
  families.firstM fun (phrase, ranges) => do
    let digits ← afterBeginning? phrase name
    let code ← capitalHex? digits
    guard (digits.head? != some '0' && ranges.contains (Char.ofNat code))
    return code

def initials : List String := [
  "G", "GG", "N", "D", "DD", "R", "M", "B", "BB", "S", "SS", "", "J", "JJ", "C", "K", "T", "P", "H"]

def vowels : List String := [
  "A", "AE", "YA", "YAE", "EO", "E", "YEO", "YE", "O", "WA", "WAE", "OE", "YO", "U", "WEO", "WE",
  "WI", "YU", "EU", "YI", "I"]

def finals : List String := [
  "", "G", "GG", "GS", "N", "NJ", "NH", "D", "L", "LG", "LM", "LB", "LS", "LT", "LP", "LH", "M",
  "B", "BS", "S", "SS", "NG", "J", "C", "K", "T", "P", "H"]

/-- The number of the longest sound at the front, and what follows it. -/
def longest? (sounds : List String) (chars : List Char) : Option (Nat × List Char) :=
  let fitting := sounds.zipIdx.filter fun (sound, _) => sound.toList.isPrefixOf chars
  let longest := fitting.foldl (fun best candidate =>
    match best with
    | none => some candidate
    | some (sound, _) => if sound.length < candidate.1.length then some candidate else best) none
  longest.map fun (sound, number) => (number, chars.drop sound.length)

def syllable? (chars : List Char) : Option Nat := do
  let (initial, chars) ← longest? initials chars
  let (vowel, chars) ← longest? vowels chars
  let (final, chars) ← longest? finals chars
  guard chars.isEmpty
  return 0xAC00 + (initial * vowels.length + vowel) * finals.length + final

/-! ## All names -/

/-- The code of the character with a name. Small letters count as capitals in the names that are not
given by rule. -/
def code? (name : List Char) : Option Nat :=
  match afterBeginning? "CJK UNIFIED IDEOGRAPH-" name, afterBeginning? "HANGUL SYLLABLE " name with
  | some digits, _ => ideograph? digits
  | none, some sounds => syllable? sounds
  | none, none =>
    let capitals := name.map Char.toUpper
    if name.all fun c => c.toNat < 128 then
      (codeInFamilies capitals).or (codeInTables (wordsOf capitals))
    else none

end Rubric.Text.CharacterName
