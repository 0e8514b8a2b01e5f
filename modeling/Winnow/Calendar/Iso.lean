/-
Iso — dates and times in the international standard form, written and read.

The reader takes `YYYY-MM-DD`, alone or with a time of day after one of four separators.  The
seconds, their fraction and the offset are optional; digits of the fraction after the sixth are
dropped.
-/
import Winnow.Calendar.DateTime
import Winnow.Number.Numeral

namespace Winnow

/-! ## Writing -/

/-- A number with leading zeros up to a width. -/
def padded (width n : Nat) : List Char :=
  let digits := decimalDigits n
  List.replicate (width - digits.length) '0' ++ digits

namespace Date

/-- The standard form of a date, `YYYY-MM-DD`. -/
def iso (date : Date) : List Char :=
  padded 4 date.year ++ '-' :: padded 2 date.month ++ '-' :: padded 2 date.day

end Date

namespace TimeOfDay

/-- The standard form of a time of day: `HH:MM:SS`, then six digits of a fraction unless it is
zero. -/
def iso (t : TimeOfDay) : List Char :=
  padded 2 t.hour ++ ':' :: padded 2 t.minute ++ ':' :: padded 2 t.second
    ++ if t.microsecond = 0 then [] else '.' :: padded 6 t.microsecond

end TimeOfDay

/-- The sign, hours and minutes of an offset, and its seconds unless they are zero. -/
def offsetIso (offset : Int) : List Char :=
  let n := offset.natAbs
  (if offset < 0 then '-' else '+') :: padded 2 (n / 3600) ++ ':' :: padded 2 (n / 60 % 60)
    ++ if n % 60 = 0 then [] else ':' :: padded 2 (n % 60)

namespace DateTime

/-- Date and time of day without the offset. -/
def wallIso (t : DateTime) : List Char := t.date.iso ++ 'T' :: t.time.iso

/-- Date, time of day and the offset if there is one. -/
def iso (t : DateTime) : List Char :=
  t.wallIso ++ (t.offset.map offsetIso).getD []

end DateTime

/-! ## Reading -/

namespace Iso

/-- Exactly so many digits at the start of a text: their number, and what follows them. -/
def takeNumber? (width : Nat) (cs : List Char) : Option (Nat × List Char) :=
  let digits := cs.take width
  if digits.length = width && digits.all Char.isDigit then some (digitsValue digits, cs.drop width)
  else none

/-- What follows a character that must come next. -/
def takeMark? (mark : Char) : List Char → Option (List Char)
  | c :: rest => if c = mark then some rest else none
  | [] => none

/-- A date `YYYY-MM-DD` at the start of a text. -/
def takeDate? (cs : List Char) : Option (Date × List Char) := do
  let (y, cs) ← takeNumber? 4 cs
  let (m, cs) ← takeNumber? 2 (← takeMark? '-' cs)
  let (d, cs) ← takeNumber? 2 (← takeMark? '-' cs)
  return (← Date.of? y m d, cs)

/-- The microseconds that fraction digits write; digits after the sixth are dropped. -/
def fractionMicroseconds (digits : List Char) : Nat :=
  let six := digits.take 6
  digitsValue six * Nat.pow 10 (6 - six.length)

/-- Seconds with an optional fraction, after a colon; without a colon they are zero. -/
def takeSeconds? : List Char → Option (Nat × Nat × List Char)
  | ':' :: cs => do
    let (s, rest) ← takeNumber? 2 cs
    match rest with
    | c :: afterMark =>
      if c = '.' || c = ',' then
        match splitDigits afterMark with
        | ([], _) => none
        | (digits, rest) => return (s, fractionMicroseconds digits, rest)
      else return (s, 0, rest)
    | [] => return (s, 0, [])
  | cs => some (0, 0, cs)

/-- A time of day at the start of a text. -/
def takeTime? (cs : List Char) : Option (TimeOfDay × List Char) := do
  let (h, cs) ← takeNumber? 2 cs
  let (m, cs) ← takeNumber? 2 (← takeMark? ':' cs)
  let (s, us, cs) ← takeSeconds? cs
  return (← TimeOfDay.of? h m s us, cs)

/-- Hours and minutes of an offset, with or without a colon, to the end of the text. -/
def readOffset? (negative : Bool) (cs : List Char) : Option Int := do
  let (h, cs) ← takeNumber? 2 cs
  let (m, cs) ← takeNumber? 2 ((takeMark? ':' cs).getD cs)
  let seconds := h * 3600 + m * 60
  if cs.isEmpty && m < 60 && seconds < 86400 then
    return if negative then -(seconds : Int) else seconds
  else none

/-- An offset to the end of the text: nothing, `Z`, or a signed one.  The minus sign U+2212 is a
sign too. -/
def readZone? : List Char → Option (Option Int)
  | [] => some none
  | [c] => if c = 'Z' || c = 'z' then some (some 0) else none
  | c :: cs =>
    if c = '+' then some <$> readOffset? false cs
    else if c = '-' || c = '−' then some <$> readOffset? true cs
    else none

/-- A time of day and an offset to the end of the text. -/
def readClock? (date : Date) (cs : List Char) : Option DateTime := do
  let (time, cs) ← takeTime? cs
  return ⟨date, time, ← readZone? cs⟩

/-- The separators between date and time of day. -/
def isSeparator (c : Char) : Bool := c = 'T' || c = 't' || c = ' ' || c = '_'

/-- A date, alone or with a time of day. -/
def read? (cs : List Char) : Option DateTime := do
  let (date, rest) ← takeDate? cs
  match rest with
  | [] => return ⟨date, .midnight, none⟩
  | c :: clock => if isSeparator c then readClock? date clock else none

end Iso

end Winnow
