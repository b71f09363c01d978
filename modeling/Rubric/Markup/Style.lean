import Rubric.Markup.Color
import Rubric.Text.Blank
import Rubric.Text.Lower
import Rubric.Text.Parts

/-!
# Styles

A style is written as words: what it turns on, what it turns off behind `not`, a colour, a
background behind `on`, and an address behind `link`. Styles that mean the same have one normal
form, by which a closing tag finds the tag that it closes.
-/

namespace Rubric.Markup

inductive Accent where
  | bold
  | dim
  | italic
  | underline
  | blink
  | blink2
  | reverse
  | conceal
  | strike
  | underline2
  | frame
  | encircle
  | overline
deriving DecidableEq

namespace Accent

/-- All accents, in the order in which styles list them. -/
def all : List Accent :=
  [bold, dim, italic, underline, blink, blink2, reverse, conceal, strike, underline2, frame,
    encircle, overline]

def word : Accent → String
  | bold => "bold"
  | dim => "dim"
  | italic => "italic"
  | underline => "underline"
  | blink => "blink"
  | blink2 => "blink2"
  | reverse => "reverse"
  | conceal => "conceal"
  | strike => "strike"
  | underline2 => "underline2"
  | frame => "frame"
  | encircle => "encircle"
  | overline => "overline"

def short? : Accent → Option String
  | bold => some "b"
  | dim => some "d"
  | italic => some "i"
  | underline => some "u"
  | reverse => some "r"
  | conceal => some "c"
  | strike => some "s"
  | underline2 => some "uu"
  | overline => some "o"
  | _ => none

def ofWord? (word : String) : Option Accent :=
  all.find? fun accent => accent.word == word || accent.short? == some word

end Accent

structure Style where
  /-- The accents with a setting; of several settings the first counts. -/
  accents : List (Accent × Bool) := []
  color : Option String := none
  background : Option String := none
  link : Option String := none

namespace Style

/-- The style after some words, given the style before them; nothing if they are no style. -/
def ofWords (style : Style) : List String → Except Color.Fault (Option Style)
  | [] => .ok (some style)
  | given :: words =>
    let word := Text.lower given
    match word, words with
    | "on", [] => .ok none
    | "on", next :: words => do
      let color := Text.lower next
      if ← Color.isColor color then ofWords { style with background := some color } words
      else return none
    | "not", [] => .ok none
    | "not", next :: words =>
      match Accent.ofWord? next with
      | some accent =>
        ofWords { style with accents := (accent, false) :: style.accents } words
      | none => .ok none
    | "link", [] => .ok none
    | "link", next :: words => ofWords { style with link := some next } words
    | word, words =>
      match Accent.ofWord? word with
      | some accent =>
        ofWords { style with accents := (accent, true) :: style.accents } words
      | none => do
        if ← Color.isColor word then ofWords { style with color := some word } words
        else return none

def words (chars : List Char) : List String :=
  (Text.parts Text.isBlank chars).map String.ofList

/-- The style that a text describes; nothing if it describes none. -/
def read (chars : List Char) : Except Color.Fault (Option Style) :=
  if words chars == ["none"] then .ok (some {}) else ofWords {} (words chars)

def description (style : Style) : List String :=
  let accents := Accent.all.flatMap fun accent =>
    match style.accents.lookup accent with
    | some true => [accent.word]
    | some false => ["not", accent.word]
    | none => []
  let background := match style.background with
    | some color => ["on", color]
    | none => []
  let link := match style.link with
    | some address => ["link", address]
    | none => []
  accents ++ style.color.toList ++ background ++ link

def text (style : Style) : String :=
  match style.description with
  | [] => "none"
  | words => " ".intercalate words

/-- The normal form of what a tag names. What is no style is taken in lower case, without blanks at
its ends. -/
def normalized (chars : List Char) : Except Color.Fault String := do
  match ← read chars with
  | some style => return style.text
  | none => return Text.lower (String.ofList (Text.strip Text.isBlank chars))

end Style

end Rubric.Markup
