/-
Vocabulary — the words of dates and times in free form.

Words are compared without regard to case.  A word has at most one meaning in each of the roles
below; the reader of a text decides which role is asked for first.
-/

namespace Winnow.FreeForm

/-- A lexical unit of a text: a word, a number, or a single character. -/
abbrev Lexeme := List Char

/-- A unit of the time of day. -/
inductive ClockUnit where
  | hour
  | minute
  | second
deriving DecidableEq, Repr

/-- The half of a day that a clock of twelve hours is in. -/
inductive HalfDay where
  | morning
  | afternoon
deriving DecidableEq, Repr

/-- A word in lower case. -/
def lowered (t : Lexeme) : String := String.ofList (t.map Char.toLower)

/-- The weekday that a word names, where Monday is 0. -/
def weekday? (t : Lexeme) : Option Nat :=
  match lowered t with
  | "mon" | "monday" => some 0
  | "tue" | "tuesday" => some 1
  | "wed" | "wednesday" => some 2
  | "thu" | "thursday" => some 3
  | "fri" | "friday" => some 4
  | "sat" | "saturday" => some 5
  | "sun" | "sunday" => some 6
  | _ => none

/-- The month that a word names. -/
def month? (t : Lexeme) : Option Nat :=
  match lowered t with
  | "jan" | "january" => some 1
  | "feb" | "february" => some 2
  | "mar" | "march" => some 3
  | "apr" | "april" => some 4
  | "may" => some 5
  | "jun" | "june" => some 6
  | "jul" | "july" => some 7
  | "aug" | "august" => some 8
  | "sep" | "sept" | "september" => some 9
  | "oct" | "october" => some 10
  | "nov" | "november" => some 11
  | "dec" | "december" => some 12
  | _ => none

/-- The unit of the time of day that a word names. -/
def clockUnit? (t : Lexeme) : Option ClockUnit :=
  match lowered t with
  | "h" | "hour" | "hours" => some .hour
  | "m" | "minute" | "minutes" => some .minute
  | "s" | "second" | "seconds" => some .second
  | _ => none

/-- The half of the day that a word names. -/
def halfDay? (t : Lexeme) : Option HalfDay :=
  match lowered t with
  | "am" | "a" => some .morning
  | "pm" | "p" => some .afternoon
  | _ => none

/-- A word or character without a meaning of its own. -/
def isFiller (t : Lexeme) : Bool :=
  [" ", ".", ",", ";", "-", "/", "'", "at", "on", "and", "ad", "m", "t", "of", "st", "nd", "rd",
    "th"].contains (lowered t)

/-- The word between a month and its year. -/
def isOf (t : Lexeme) : Bool := lowered t = "of"

/-- A name of the zone without an offset. -/
def isUtc (t : Lexeme) : Bool := ["UTC", "GMT", "Z", "z"].contains (String.ofList t)

/-- A word that may name a time zone. -/
def isZoneName (t : Lexeme) : Bool :=
  t.length ≤ 5 && (t.all (fun c => 'A' ≤ c && c ≤ 'Z') || isUtc t)

/-- A word that reads as a number but has no digits. -/
def isNumberWord (t : Lexeme) : Bool := ["inf", "infinity", "nan"].contains (lowered t)

/-- The sign that a lexeme is: whether it is a minus. -/
def sign? : Lexeme → Option Bool
  | ['+'] => some false
  | ['-'] => some true
  | _ => none

/-- The hour on a clock of 24 hours; an hour that does not fit the half of the day stays. -/
def HalfDay.adjust : HalfDay → Nat → Nat
  | .morning, h => if h = 12 then 0 else h
  | .afternoon, h => if h < 12 then h + 12 else h

end Winnow.FreeForm
