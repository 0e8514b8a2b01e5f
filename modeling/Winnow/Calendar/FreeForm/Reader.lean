/-
Reader — dates and times in free form, lexeme by lexeme.

Each lexeme is asked for its role in a fixed order and may take some of the following ones with
it.  The outcome is a record of fields; a date is read only if the text names year and month, which
shows in that two default dates of different years and months lead to the same result.
-/
import Winnow.Calendar.FreeForm.Parts

namespace Winnow.FreeForm

variable [Present]

/-! ## Units of the time of day -/

/-- The next smaller unit. -/
def ClockUnit.smaller : ClockUnit → Option ClockUnit
  | .hour => some .minute
  | .minute => some .second
  | .second => none

/-- The unit that the lexemes around a number give it, and how many of the following ones do so:
a unit after it, directly or after a blank, or else the one below a unit before it, where a blank
between is allowed to the last number of a text. -/
def unitAround? (before rest : List Lexeme) : Option (Option ClockUnit × Nat) :=
  let direct := (rest.head? >>= clockUnit?).map fun u => (some u, 1)
  let spaced := match rest with
    | [' '] :: w :: _ => (clockUnit? w).map fun u => (some u, 2)
    | _ => none
  let preceding := (before.head? >>= clockUnit?).map fun u => (u.smaller, 0)
  let precedingSpaced := match before, rest with
    | [' '] :: w :: _, [] => (clockUnit? w).map fun u => (u.smaller, 0)
    | _, _ => none
  direct <|> spaced <|> preceding <|> precedingSpaced

/-! ## Numbers -/

/-- Hours and minutes without a colon. -/
def readHourMinute (t : Lexeme) (p : Parts) : Step := do
  let hour ← need (natural? (t.take 2))
  if t.length = 4 then
    return (p.withClock hour (← need (natural? (t.drop 2))), 0)
  else return ({ p with hour := some hour }, 0)

/-- Six digits: year, month and day at the start of a date, else a time of day. -/
def readSix (t : Lexeme) (p : Parts) : Step := do
  if p.entries.isEmpty && !t.contains '.' then
    let p ← p.addText .unmarked (t.take 2)
    let p ← p.addText .unmarked ((t.drop 2).take 2)
    return (← p.addText .unmarked (t.drop 4), 0)
  else
    let hour ← need (natural? (t.take 2))
    let minute ← need (natural? ((t.drop 2).take 2))
    return (← (p.withClock hour minute).setSecond (t.drop 4), 0)

/-- Year, month and day without separators, and the time of day after them. -/
def readCompact (t : Lexeme) (p : Parts) : Step := do
  let p ← p.addText .year (t.take 4)
  let p ← p.addText .unmarked ((t.drop 4).take 2)
  let p ← p.addText .unmarked ((t.drop 6).take 2)
  if t.length = 8 then return (p, 0)
  else
    let hour ← need (natural? ((t.drop 8).take 2))
    let minute ← need (natural? ((t.drop 10).take 2))
    let p := p.withClock hour minute
    if t.length = 12 then return (p, 0)
    else return ({ p with second := some (← need (natural? (t.drop 12))) }, 0)

/-- An hour before a colon, with the minutes and perhaps the seconds after it. -/
def readColon (q : Quantity) (minutes : Lexeme) (rest : List Lexeme) (p : Parts) : Step := do
  let m ← need (quantity? minutes)
  let p ← ({ p with hour := some q.whole } : Parts).setMinute m
  match rest with
  | [':'] :: seconds :: _ => return (← p.setSecond seconds, 4)
  | _ => return (p, 2)

/-- A number of the date that stands third, after a repeated separator. -/
def readThird (third : Lexeme) (p : Parts) : Except Failure Parts :=
  match month? third with
  | some m => p.add .month m
  | none => p.addText .unmarked third

/-- Numbers of the date with separators between them. -/
def readSeparated (t mark : Lexeme) (rest : List Lexeme) (p : Parts) : Step := do
  let p ← p.addText .unmarked t
  match rest with
  | [] => return (p, 1)
  | second :: more =>
    if isFiller second then return (p, 1)
    else
      let p ← if second.all Text.isDigit then p.addText .unmarked second
        else p.add .month (← need (month? second))
      match more with
      | again :: third =>
        if again = mark then return (← readThird (← need third.head?) p, 4) else return (p, 2)
      | [] => return (p, 2)

/-- A number before a filler or at the end: an hour if the half of the day follows, else a number
of the date. -/
def readAlone (q : Quantity) (rest : List Lexeme) (p : Parts) : Step :=
  match (rest.drop 1).head? >>= halfDay? with
  | some half => .ok ({ p with hour := some (half.adjust q.whole) }, 2)
  | none => do return (← p.addQuantity q, 1)

/-- A separator between numbers of a date. -/
def isDateMark (t : Lexeme) : Bool := t = ['-'] || t = ['/'] || t = ['.']

/-- Neither a colon nor a unit of the time of day comes next. -/
def noClockNext (rest : List Lexeme) : Bool :=
  rest.head?.all fun t => t ≠ [':'] && (clockUnit? t).isNone

/-- A number that no unit and no mark gives a meaning to. -/
def readPlain (q : Quantity) (rest : List Lexeme) (p : Parts) : Step :=
  if rest.head?.all isFiller then readAlone q rest p
  else match rest.head? >>= halfDay? with
    | some half =>
      if !q.reaches 24 then .ok ({ p with hour := some (half.adjust q.whole) }, 1)
      else if p.couldBeDay q then do return (← p.addQuantity q, 0)
      else .error .unreadable
    | none => if p.couldBeDay q then do return (← p.addQuantity q, 0) else .error .unreadable

/-- A number before a colon, a separator, or anything else. -/
def readMarked (t : Lexeme) (q : Quantity) (rest : List Lexeme) (p : Parts) : Step :=
  match rest with
  | [':'] :: minutes :: more => readColon q minutes more p
  | mark :: more =>
    if isDateMark mark then readSeparated t mark more p else readPlain q rest p
  | [] => readPlain q rest p

/-- A number. -/
def readNumber (before : List Lexeme) (t : Lexeme) (q : Quantity) (rest : List Lexeme)
    (p : Parts) : Step :=
  let n := t.length
  if p.entries.length = 3 && (n = 2 || n = 4) && p.hour.isNone && noClockNext rest then
    readHourMinute t p
  else if n = 6 || (6 < n && t[6]? = some '.') then readSix t p
  else if n = 8 || n = 12 || n = 14 then readCompact t p
  else match unitAround? before rest with
    | some (unit, taken) => do return (← p.setUnit unit t q, taken)
    | none => readMarked t q rest p

/-! ## Words and signs -/

/-- A month, with the numbers of the date that a separator or the word "of" ties to it. -/
def readMonth (m : Nat) (rest : List Lexeme) (p : Parts) : Step := do
  let p ← p.add .month m
  match rest with
  | [' '] :: o :: [' '] :: year :: _ =>
    if isOf o then
      if year.all Text.isDigit then
        let y := nearestYear (← need (natural? year))
        return (← p.withFullYear.add .year y, 4)
      else return (p, 4)
    else return (p, 0)
  | mark :: more =>
    if mark = ['-'] || mark = ['/'] then
      let p ← p.addText .unmarked (← need more.head?)
      match more.drop 1 with
      | again :: third =>
        if again = mark then return (← p.addText .unmarked (← need third.head?), 4)
        else return (p, 2)
      | [] => return (p, 2)
    else return (p, 0)
  | [] => return (p, 0)

/-- The half of the day, which needs an hour of a clock of twelve hours before it. -/
def readHalfDay (half : HalfDay) (p : Parts) : Step :=
  match p.hour with
  | some h =>
    if h ≤ 12 then .ok ({ p with hour := some (half.adjust h) }, 0) else .error .unreadable
  | none => .error .unreadable

/-- The name of a zone may stand here: the hour is known and no zone is. -/
def Parts.admitsZoneName (p : Parts) (t : Lexeme) : Bool :=
  p.hour.isSome && p.zoneName.isNone && isZoneName t

/-- Hours and minutes of an offset, and how many lexemes they are. -/
def offsetParts (rest : List Lexeme) : Except Failure (Nat × Nat × Nat) :=
  match rest with
  | [] => .error .unreadable
  | d :: more =>
    if d.length = 4 then do
      return (← need (natural? (d.take 2)), ← need (natural? (d.drop 2)), 1)
    else match more with
      | [':'] :: more => do
        return (← need (natural? d), ← need (more.head? >>= natural?), 3)
      | _ => if d.length ≤ 2 then do return (← need (natural? d), 0, 1) else .error .unreadable

/-- The offset after a sign, and the name of its zone in parentheses. -/
def readOffset (negative : Bool) (rest : List Lexeme) (p : Parts) : Step := do
  let (hours, minutes, taken) ← offsetParts rest
  let seconds : Int := hours * 3600 + minutes * 60
  let p := { p with zoneOffset := some (if negative then -seconds else seconds) }
  match rest.drop taken with
  | gap :: ['('] :: name :: [')'] :: _ =>
    if isFiller gap && 3 ≤ name.length && p.admitsZoneName name then
      return ({ p with zoneName := some name }, taken + 4)
    else return (p, taken)
  | _ => return (p, taken)

/-- The name of a zone.  A sign right after it counts the other way round, since "GMT+3" says what
has to be added to get to Greenwich; the zone is then not that of Greenwich itself. -/
def readZoneName (t : Lexeme) (rest : List Lexeme) (p : Parts) : Step :=
  match rest with
  | next :: more => match sign? next with
    | some negative => do
      let (p, taken) ← readOffset (!negative) more
        { p with zoneName := if isUtc t then none else some t }
      return (p, taken + 1)
    | none => .ok ({ p with zoneName := some t }, 0)
  | [] => .ok ({ p with zoneName := some t }, 0)

/-- A sign or a filler. -/
def readRest (t : Lexeme) (rest : List Lexeme) (p : Parts) : Step :=
  match p.hour, sign? t with
  | some _, some negative => readOffset negative rest p
  | _, _ => if isFiller t then .ok (p, 0) else .error .unreadable

/-- A lexeme that is no number. -/
def readWord (t : Lexeme) (rest : List Lexeme) (p : Parts) : Step :=
  match weekday? t with
  | some w => .ok ({ p with weekday := some w }, 0)
  | none => match month? t with
    | some m => readMonth m rest p
    | none => match halfDay? t with
      | some half => readHalfDay half p
      | none =>
        if p.zoneOffset.isNone && p.admitsZoneName t then readZoneName t rest p
        else readRest t rest p

/-- One lexeme, between those before it (the last one first) and those after it. -/
def readLexeme (before : List Lexeme) (t : Lexeme) (rest : List Lexeme) (p : Parts) : Step :=
  if isNumberWord t then .error .unreadable
  else match quantity? t with
    | some q => readNumber before t q rest p
    | none => readWord t rest p

/-! ## The whole text -/

/-- The parts of the lexemes after those before them (the last one first). -/
def readLexemes (before : List Lexeme) (rest : List Lexeme) (p : Parts) : Except Failure Parts :=
  match rest with
  | [] => .ok p
  | t :: rest =>
    match readLexeme before t rest p with
    | .error e => .error e
    | .ok (p, taken) => readLexemes ((rest.take taken).reverse ++ t :: before) (rest.drop taken) p
termination_by rest.length
decreasing_by simp only [List.length_drop, List.length_cons]; omega

/-- Offsets are kept up to this number of days. -/
def offsetLimit : Nat := 999999999

/-- The offset of the parts: a name of the zone without an offset overrides a written one. -/
def Parts.offset (p : Parts) : Option Int :=
  if p.zoneName.any isUtc then some 0 else p.zoneOffset

/-- The fields of the parts. -/
def Parts.fields (p : Parts) : Except Failure Fields := do
  let named ← need (resolve? p.entries)
  if p.offset.any fun s => (s / 86400).natAbs > offsetLimit then .error .unreadable
  else
    return {
      year := named.year.map fun y => if p.fullYear then y else nearestYear y
      month := named.month
      day := named.day
      weekday := p.weekday
      hour := p.hour
      minute := p.minute
      second := p.second
      microsecond := p.microsecond
      offset := p.offset }

/-- The fields of a text. -/
def fields (cs : List Char) : Except Failure Fields := do
  (← readLexemes [] (lexemes cs) .empty).fields

/-- The two default dates, which differ in year and month. -/
def defaults : Date × Date := (⟨2000, 1, 1, by decide⟩, ⟨2001, 2, 1, by decide⟩)

/-- The time that fields name without regard to the default. -/
def Fields.settled? (f : Fields) : Option DateTime := do
  let first ← f.fill? defaults.1
  let second ← f.fill? defaults.2
  if first = second then return first else none

/-- A text in free form as a date: none if it is not one.  The only failure left is a number too
long to be computed with. -/
def read (cs : List Char) : Except Failure (Option DateTime) :=
  match fields cs with
  | .ok f => .ok f.settled?
  | .error .unreadable => .ok none
  | .error .imprecise => .error .imprecise

end Winnow.FreeForm
