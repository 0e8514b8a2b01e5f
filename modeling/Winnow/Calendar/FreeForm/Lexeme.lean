/-
Lexeme — splitting a text in free form into words, numbers and single characters.

A word is a run of letters, a number a run of digits.  Points bind both kinds of run together, and
a comma after at least two digits binds a number, until it is clear what they were: a run with
letters, with several points or with a mark at its end is cut at its marks, otherwise it is one
number, whose comma becomes a point.
-/
import Winnow.Calendar.FreeForm.Vocabulary
import Winnow.Number.Basic
import Winnow.Number.Quantity
import Winnow.Text.Blank
import Winnow.Text.Digit
import Winnow.Text.Letter

namespace Winnow.FreeForm

/-- What a run consists of; a dotted run has met a mark. -/
inductive RunKind where
  | letters
  | digits
  | dottedLetters
  | dottedDigits
deriving DecidableEq, Repr

/-- A run that is being read: its characters in reverse, and whether the text went on after a
letter of it. -/
structure Run where
  kind : RunKind
  seen : List Char
  lettersMet : Bool

namespace Run

/-- The run as the next character is looked at. -/
def met (r : Run) : Run :=
  match r.kind with
  | .letters | .dottedLetters => { r with lettersMet := true }
  | _ => r

/-- The run that a character continues. -/
def extend? (r : Run) (c : Char) : Option Run :=
  let kind? : Option RunKind := match r.kind with
    | .letters =>
      if Text.isLetter c then some .letters else if c = '.' then some .dottedLetters else none
    | .digits =>
      if Text.isDigit c then some .digits
      else if c = '.' || (c = ',' && 2 ≤ r.seen.length) then some .dottedDigits
      else none
    | .dottedLetters =>
      if c = '.' || Text.isLetter c then some .dottedLetters
      else if Text.isDigit c && r.seen.head? = some '.' then some .dottedDigits
      else none
    | .dottedDigits =>
      if c = '.' || Text.isDigit c then some .dottedDigits
      else if Text.isLetter c && r.seen.head? = some '.' then some .dottedLetters
      else none
  kind?.map fun kind => { r with kind := kind, seen := c :: r.seen }

/-- A point or a comma. -/
def isMark (c : Char) : Bool := c = '.' || c = ','

/-- The pieces between the marks of a run, and the marks. -/
def cut (cs : List Char) : List Lexeme := cs.splitBy fun a b => !isMark a && !isMark b

/-- The lexemes of a complete run. -/
def lexemes (r : Run) : List Lexeme :=
  let text := r.seen.reverse
  let dotted := r.kind = .dottedLetters || r.kind = .dottedDigits
  if dotted && (r.lettersMet || 1 < text.count '.' || r.seen.head?.any isMark) then cut text
  else if r.kind = .dottedDigits && !text.contains '.' then
    [text.map fun c => if c = ',' then '.' else c]
  else [text]

end Run

/-- What a character outside a run makes: a lexeme of its own, or a new run. -/
def openRun (c : Char) : List Lexeme × Option Run :=
  if Text.isLetter c then ([], some ⟨.letters, [c], false⟩)
  else if Text.isDigit c then ([], some ⟨.digits, [c], false⟩)
  else if Text.isBlank c then ([[' ']], none)
  else ([[c]], none)

/-- The lexemes of the rest of a text; null characters do not count. -/
def lexemesFrom : Option Run → List Char → List Lexeme
  | none, [] => []
  | some r, [] => r.lexemes
  | none, c :: rest =>
    if c = '\x00' then lexemesFrom none rest
    else
      let (out, run) := openRun c
      out ++ lexemesFrom run rest
  | some r, c :: rest =>
    if c = '\x00' then lexemesFrom (some r) rest
    else match r.met.extend? c with
      | some longer => lexemesFrom (some longer) rest
      | none =>
        let (out, run) := openRun c
        r.met.lexemes ++ (out ++ lexemesFrom run rest)

/-- The lexemes of a text. -/
def lexemes (cs : List Char) : List Lexeme := lexemesFrom none cs

/-! ## Numbers -/

/-- The value of digits of any script, at most as many as an integer may have. -/
def natural? (cs : List Char) : Option Nat :=
  if cs.isEmpty || Number.digitLimit < cs.length then none
  else cs.foldlM (fun n c => (10 * n + ·) <$> Text.decimalValue? c) 0

/-- The number that a lexeme writes: digits, possibly with a point between them. -/
def quantity? (t : Lexeme) : Option Quantity := do
  let (whole, rest) := t.span (· ≠ '.')
  let fraction := rest.drop 1
  if whole.isEmpty || (!rest.isEmpty && fraction.isEmpty) then none
  else
    let digits ← (whole ++ fraction).mapM Text.decimalValue?
    return ⟨digits.foldl (fun n d => 10 * n + d) 0, fraction.length⟩

/-- Seconds and microseconds of a lexeme: digits, possibly with a point between them. -/
def secondsOf? (t : Lexeme) : Option (Nat × Nat) :=
  match t.span (· ≠ '.') with
  | (whole, []) => do return (← natural? whole, 0)
  | (whole, _ :: fraction) => do
    let six := (fraction ++ List.replicate (6 - fraction.length) '0').take 6
    return (← natural? whole, ← natural? six)

end Winnow.FreeForm
