/-!
# Dates and times

The dates and times a settings or requirements file may hold. They are never valid where a setting
is expected, but a message that rejects one shows it.
-/

namespace Rubric

structure Clock where
  hour : Nat
  minute : Nat
  second : Nat
  microsecond : Nat
deriving DecidableEq

structure Day where
  year : Nat
  month : Nat
  day : Nat
deriving DecidableEq

/-- A day, a time of day, or both, perhaps with an offset from universal time in minutes. -/
inductive Moment where
  | day (day : Day)
  | clock (clock : Clock)
  | both (day : Day) (clock : Clock) (offset : Option Int)
deriving DecidableEq

namespace Day

def isLeap (year : Nat) : Bool :=
  year % 4 == 0 && (year % 100 != 0 || year % 400 == 0)

def daysIn (year month : Nat) : Nat :=
  if month == 2 then (if isLeap year then 29 else 28)
  else if month == 4 || month == 6 || month == 9 || month == 11 then 30
  else 31

/-- Whether the day is on the calendar, which starts with the year 1. -/
def isValid (d : Day) : Bool :=
  1 ≤ d.year && 1 ≤ d.month && d.month ≤ 12 && 1 ≤ d.day && d.day ≤ daysIn d.year d.month

end Day

namespace Moment

def listed (numbers : List Nat) : String :=
  ", ".intercalate (numbers.map toString)

/-- The parts of a time of day that are shown: seconds and microseconds only if they are needed. -/
def shownParts (c : Clock) : List Nat :=
  if c.microsecond != 0 then [c.hour, c.minute, c.second, c.microsecond]
  else if c.second != 0 then [c.hour, c.minute, c.second]
  else [c.hour, c.minute]

/-- The text of an offset in minutes, counted in seconds from the start of its day. -/
def offsetText (minutes : Int) : String :=
  if minutes == 0 then "datetime.timezone.utc"
  else
    let seconds := minutes * 60
    let days := seconds.fdiv 86400
    let rest := seconds.fmod 86400
    let parts := (if days == 0 then [] else [s!"days={days}"]) ++
      (if rest == 0 then [] else [s!"seconds={rest}"])
    "datetime.timezone(datetime.timedelta(" ++ ", ".intercalate parts ++ "))"

def text : Moment → String
  | .day d => "datetime.date(" ++ listed [d.year, d.month, d.day] ++ ")"
  | .clock c => "datetime.time(" ++ listed (shownParts c) ++ ")"
  | .both d c offset =>
    let zone := match offset with
      | none => ""
      | some minutes => ", tzinfo=" ++ offsetText minutes
    "datetime.datetime(" ++ listed ([d.year, d.month, d.day] ++ shownParts c) ++ zone ++ ")"

end Moment

end Rubric
