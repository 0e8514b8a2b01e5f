/-
Punycode — text of any characters written in letters, digits and hyphens.

The ASCII characters stand first.  The others follow as insertions into them, by code point and then
by place.  All possible insertions, in this order, are counted, and each is written as the number of
those that are passed over since the one before.  A number is a row of digits to base 36, the least
one first; a digit below the threshold of its place ends it, and the thresholds move with the size
of the numbers so far.
-/

namespace Winnow.Domain.Punycode

/-! ## Numbers -/

/-- The digits, letters first. -/
def digits : List Char := "abcdefghijklmnopqrstuvwxyz0123456789".toList

/-- The digit of a value. -/
def digit (n : Nat) : Char := digits.getD n 'a'

/-- The value of a digit. -/
def digitValue? (c : Char) : Option Nat := digits.idxOf? c

/-- At a place, counted from zero, a digit below this ends a number. -/
def threshold (bias place : Nat) : Nat := max 1 (min 26 (36 * (place + 1) - bias))

theorem threshold_pos (bias place : Nat) : 0 < threshold bias place := by
  unfold threshold
  omega

/-- The digits of a number from a place on. -/
def writeNumber (bias place n : Nat) : List Char :=
  if h : n < threshold bias place then [digit n]
  else
    digit (threshold bias place + (n - threshold bias place) % (36 - threshold bias place))
      :: writeNumber bias (place + 1) ((n - threshold bias place) / (36 - threshold bias place))
termination_by n
decreasing_by
  have hpos := threshold_pos bias place
  have hle := Nat.div_le_self (n - threshold bias place) (36 - threshold bias place)
  omega

/-- Reads the digits of a number from a place on, where a unit stands for `weight`, and gives what
follows them. -/
def readNumber? (bias place weight : Nat) : List Char → Option (Nat × List Char)
  | [] => none
  | c :: rest => do
    let value ← digitValue? c
    if value < threshold bias place then return (value * weight, rest)
    let (n, rest) ← readNumber? bias (place + 1) (weight * (36 - threshold bias place)) rest
    return (value * weight + n, rest)

/-- A number takes at least one digit. -/
theorem length_lt_of_readNumber? {bias place weight n : Nat} {cs rest : List Char}
    (h : readNumber? bias place weight cs = some (n, rest)) : rest.length < cs.length := by
  induction cs generalizing place weight n with
  | nil => simp [readNumber?] at h
  | cons c cs ih =>
    simp only [readNumber?, Option.bind_eq_bind, Option.bind_eq_some_iff] at h
    obtain ⟨value, _, h⟩ := h
    split at h
    case isTrue => simp_all
    case isFalse =>
      simp only [Option.bind_eq_some_iff] at h
      obtain ⟨⟨m, later⟩, hm, h⟩ := h
      simp only [pure, Option.some.injEq, Prod.mk.injEq] at h
      have := ih (h.2 ▸ hm)
      simp only [List.length_cons]
      omega

/-- Cuts a number down by its upper places, each of which adds to the bias. -/
def settle (n bias : Nat) : Nat × Nat :=
  if 455 < n then settle (n / 35) (bias + 36) else (n, bias)
termination_by n
decreasing_by exact Nat.div_lt_self (by omega) (by omega)

/-- The bias after a number, by which the text has grown to a length.  The first number counts
little, since it is mostly about the script. -/
def adapt (n : Nat) (isFirst : Bool) (length : Nat) : Nat :=
  let scaled := if isFirst then n / 700 else n / 2
  let (small, bias) := settle (scaled + scaled / length) 0
  bias + 36 * small / (small + 38)

/-- The bias of the first number. -/
def firstBias : Nat := 72

/-- The first code point that is not ASCII. -/
def firstCode : Nat := 0x80

/-! ## Writing -/

/-- An ASCII character. -/
def isBasic (c : Char) : Bool := c.toNat < firstCode

/-- Where a character is inserted each time, if all lesser ones are there already; `seen` of those
have been passed. -/
def placesFrom (c : Char) (seen : Nat) : List Char → List Nat
  | [] => []
  | d :: rest =>
    if d = c then seen :: placesFrom c (seen + 1) rest
    else placesFrom c (if d < c then seen + 1 else seen) rest

/-- The insertions that make a text of its ASCII characters: code points, each with a place. -/
def insertions (text : List Char) : List (Nat × Nat) :=
  let others := (text.filter (!isBasic ·)).eraseDups.mergeSort (· ≤ ·)
  others.flatMap fun c => (placesFrom c 0 text).map fun place => (c.toNat, place)

/-- The insertions from a code point and place on, into a text of a length. -/
def writeFrom (bias : Nat) (isFirst : Bool) (code place length : Nat) :
    List (Nat × Nat) → List Char
  | [] => []
  | (nextCode, nextPlace) :: rest =>
    let passed := (nextCode - code) * (length + 1) + nextPlace - place
    writeNumber bias 0 passed
      ++ writeFrom (adapt passed isFirst (length + 1)) false nextCode (nextPlace + 1) (length + 1)
        rest

/-- The written form of a text. -/
def encode (text : List Char) : List Char :=
  let basic := text.filter isBasic
  (if basic.isEmpty then [] else basic ++ ['-'])
    ++ writeFrom firstBias true firstCode 0 basic.length (insertions text)

/-! ## Reading -/

/-- The character of a code point, if there is one. -/
def charOf? (n : Nat) : Option Char := if n.isValidChar then some (Char.ofNat n) else none

/-- Does the insertions that are written, from a code point and place on, in a text. -/
def readFrom? (bias : Nat) (isFirst : Bool) (code place : Nat) (text : List Char)
    (cs : List Char) : Option (List Char) :=
  if cs.isEmpty then some text
  else match _h : readNumber? bias 0 1 cs with
    | none => none
    | some (passed, rest) =>
      let slots := text.length + 1
      let nextCode := code + (place + passed) / slots
      let nextPlace := (place + passed) % slots
      match charOf? nextCode with
      | none => none
      | some c =>
        readFrom? (adapt passed isFirst slots) false nextCode (nextPlace + 1)
          (text.insertIdx nextPlace c) rest
termination_by cs.length
decreasing_by exact length_lt_of_readNumber? _h

/-- The ASCII characters before the last hyphen, and the insertions after it. -/
def splitBasic (cs : List Char) : List Char × List Char :=
  match cs.reverse.span (· ≠ '-') with
  | (tail, []) => ([], tail.reverse)
  | (tail, _ :: head) => (head.reverse, tail.reverse)

/-- The text of a written form. -/
def decode? (cs : List Char) : Option (List Char) :=
  let (basic, written) := splitBasic cs
  readFrom? firstBias true firstCode 0 basic written

end Winnow.Domain.Punycode
