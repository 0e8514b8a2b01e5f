/-
Range — looking up a character in a table of code point ranges.

Tables are lists in increasing order of code points.  A range table holds inclusive pairs, a rule
table says for each range, walked in steps, how far its characters move.
-/

namespace Winnow.Text

/-- Membership in a table of inclusive ranges. -/
def inRanges (ranges : List (Nat × Nat)) (code : Nat) : Bool :=
  ranges.any fun (first, last) => first ≤ code && code ≤ last

/-- The character moved by the distance of the rule that covers it, itself without such a rule. -/
def moveBy (rules : List (Nat × Nat × Nat × Int)) (c : Char) : Char :=
  let covers : Nat × Nat × Nat × Int → Bool := fun (first, last, step, _) =>
    first ≤ c.toNat && c.toNat ≤ last && (c.toNat - first) % step = 0
  match rules.find? covers with
  | some (_, _, _, distance) => Char.ofNat ((c.toNat : Int) + distance).toNat
  | none => c

end Winnow.Text
