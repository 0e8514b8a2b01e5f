/-
Direction — which way the characters of a label run.

A label with characters that run to the left is admitted only if it starts with such a letter,
holds nothing that runs to the right, ends in a letter or digit up to marks, and does not mix two
kinds of digits.  A label without such characters is always admitted.
-/
import Winnow.Text.Range
import Winnow.Web.Domain.Mark

namespace Winnow.Domain

/-- How a character runs. -/
inductive Direction where
  /-- Letters that run to the right. -/
  | rightward
  /-- Letters that run to the left. -/
  | leftward
  /-- Digits that belong to text that runs to the left. -/
  | leftwardDigit
  /-- Digits of either kind of text. -/
  | digit
  /-- Marks go with the letter before them. -/
  | mark
  | neutral
deriving DecidableEq, Repr

/-- The letters that run to the left. -/
def leftwardRanges : List (Nat × Nat) := [
  (0x5d0, 0x5ea), (0x5ef, 0x5f4), (0x620, 0x63f), (0x641, 0x64a), (0x66e, 0x66f), (0x671, 0x674),
  (0x679, 0x6d3), (0x6d5, 0x6d5), (0x6e5, 0x6e6), (0x6ee, 0x6ef), (0x6fa, 0x6ff), (0x710, 0x710),
  (0x712, 0x72f), (0x74d, 0x7a5), (0x7b1, 0x7b1), (0x7c0, 0x7ea), (0x7f4, 0x7f5), (0x800, 0x815),
  (0x81a, 0x81a), (0x824, 0x824), (0x828, 0x828), (0x840, 0x858), (0x860, 0x86a), (0x870, 0x887),
  (0x889, 0x88e), (0x8a0, 0x8c9), (0xfe73, 0xfe73), (0x10800, 0x10805), (0x10808, 0x10808),
  (0x1080a, 0x10835), (0x10837, 0x10838), (0x1083c, 0x1083c), (0x1083f, 0x10855),
  (0x10860, 0x10876), (0x10880, 0x1089e), (0x108e0, 0x108f2), (0x108f4, 0x108f5),
  (0x10900, 0x10915), (0x10920, 0x10939), (0x10980, 0x109b7), (0x109be, 0x109bf),
  (0x10a00, 0x10a00), (0x10a10, 0x10a13), (0x10a15, 0x10a17), (0x10a19, 0x10a35),
  (0x10a60, 0x10a7c), (0x10a80, 0x10a9c), (0x10ac0, 0x10ac7), (0x10ac9, 0x10ae4),
  (0x10b00, 0x10b35), (0x10b40, 0x10b55), (0x10b60, 0x10b72), (0x10b80, 0x10b91),
  (0x10c00, 0x10c48), (0x10cc0, 0x10cf2), (0x10d00, 0x10d23), (0x10e80, 0x10ea9),
  (0x10eb0, 0x10eb1), (0x10f00, 0x10f1c), (0x10f27, 0x10f27), (0x10f30, 0x10f45),
  (0x10f70, 0x10f81), (0x10fb0, 0x10fc4), (0x10fe0, 0x10ff6), (0x1e800, 0x1e8c4),
  (0x1e922, 0x1e943), (0x1e94b, 0x1e94b), (0x1e950, 0x1e959)]

/-- The digits that belong to text that runs to the left. -/
def leftwardDigitRanges : List (Nat × Nat) := [
  (0x660, 0x669), (0x10d30, 0x10d39)]

/-- The digits of either kind of text. -/
def digitRanges : List (Nat × Nat) := [
  (0x30, 0x39), (0x6f0, 0x6f9)]

/-- The characters that have no direction of their own. -/
def neutralRanges : List (Nat × Nat) := [
  (0x2d, 0x2d), (0xb7, 0xb7), (0x2b9, 0x2ba), (0x2c6, 0x2cf), (0x2ec, 0x2ec), (0x375, 0x375),
  (0x200c, 0x200d), (0x2e2f, 0x2e2f), (0x30fb, 0x30fb), (0xa67f, 0xa67f), (0xa717, 0xa71f),
  (0xa788, 0xa788)]

/-- The direction of a permitted character. -/
def directionOf (c : Char) : Direction :=
  if Text.inRanges leftwardRanges c.toNat then .leftward
  else if Text.inRanges leftwardDigitRanges c.toNat then .leftwardDigit
  else if Text.inRanges digitRanges c.toNat then .digit
  else if Text.inRanges neutralRanges c.toNat then .neutral
  else if isNonspacing c then .mark
  else .rightward

/-- Directions that a label may end in. -/
def Direction.mayEnd : Direction → Bool
  | .leftward | .leftwardDigit | .digit => true
  | _ => false

/-- The directions of a label fit together. -/
def isDirected (label : List Char) : Bool :=
  let directions := label.map directionOf
  if directions.any fun d => d = .leftward || d = .leftwardDigit then
    directions.head? = some .leftward
      && !directions.contains .rightward
      && ((directions.reverse.dropWhile (· = .mark)).head?.any Direction.mayEnd)
      && !(directions.contains .leftwardDigit && directions.contains .digit)
  else true

end Winnow.Domain
