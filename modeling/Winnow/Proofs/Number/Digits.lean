/-
# `Digits` — how large a number its digits can write

An integer that is read from at most 4300 digits can be written as text again, since its shortest
text has no more digits than the one it was read from.  The digits that are written read back as the
number, and they start with a zero for zero only.
-/
import Mathlib
import Winnow.Number.Numeral

namespace Winnow

/-- Reading on from `n`, each digit shifts it by one place. -/
theorem foldl_lt_pow {digits : List Nat} (h : ∀ d ∈ digits, d < 10) (n : Nat) :
    digits.foldl (fun n d => 10 * n + d) n < (n + 1) * 10 ^ digits.length := by
  induction digits generalizing n with
  | nil => simp
  | cons d rest ih =>
      obtain ⟨hd, hrest⟩ := List.forall_mem_cons.mp h
      calc (d :: rest).foldl (fun n d => 10 * n + d) n
          < (10 * n + d + 1) * 10 ^ rest.length := ih hrest _
        _ ≤ (n + 1) * 10 * 10 ^ rest.length := Nat.mul_le_mul_right _ (by omega)
        _ = (n + 1) * 10 ^ (d :: rest).length := by
            rw [List.length_cons, Nat.pow_succ', Nat.mul_assoc]

theorem digitsValue_eq_foldl_map (cs : List Char) :
    digitsValue cs = (cs.map fun c => c.toNat - 0x30).foldl (fun n d => 10 * n + d) 0 :=
  List.foldl_map.symm

theorem digitsValue_lt {cs : List Char} (h : ∀ c ∈ cs, c.isDigit) :
    digitsValue cs < 10 ^ cs.length := by
  have hdigits : ∀ d ∈ cs.map fun c => c.toNat - 0x30, d < 10 := by
    refine List.forall_mem_map.mpr fun c hc => ?_
    have hle : c.toNat ≤ 57 := (Char.isDigit_iff_toNat.mp (h c hc)).2
    omega
  have hlt := foldl_lt_pow hdigits 0
  rwa [← digitsValue_eq_foldl_map, List.length_map, Nat.zero_add, Nat.one_mul] at hlt

theorem natAbs_signedValue (negative : Bool) (digits : List Char) :
    (signedValue negative digits).natAbs = digitsValue digits := by
  cases negative <;> simp [signedValue]

theorem length_decimalDigits_le {n k : Nat} (hk : 0 < k) (h : n < 10 ^ k) :
    (decimalDigits n).length ≤ k :=
  (Nat.length_toDigits_le_iff (by decide) hk).mpr h

/-! ## Digits that are written -/

theorem isDigit_of_mem_decimalDigits {n : Nat} {c : Char} (h : c ∈ decimalDigits n) : c.isDigit :=
  Nat.isDigit_of_mem_toDigits (by decide) (by decide) h

theorem digitsValue_decimalDigits (n : Nat) : digitsValue (decimalDigits n) = n :=
  Nat.ofDigitChars_toDigits (by decide) (by decide)

theorem signedValue_decimalDigits (i : Int) :
    signedValue (i < 0) (decimalDigits i.natAbs) = i := by
  rw [signedValue, digitsValue_decimalDigits]
  by_cases h : i < 0
  · rw [if_pos (decide_eq_true h)]
    omega
  · rw [if_neg (by simpa using h)]
    omega

theorem decimalDigits_ne_nil (n : Nat) : decimalDigits n ≠ [] := Nat.toDigits_ne_nil

/-- No number but zero starts with a zero. -/
theorem head?_decimalDigits_ne {n : Nat} (h : 0 < n) : (decimalDigits n).head? ≠ some '0' := by
  induction n using Nat.strongRecOn with
  | ind n ih =>
      rw [decimalDigits, Nat.toDigits_eq_if (by decide)]
      split
      · intro hhead
        have hzero : n = 0 := Nat.digitChar_eq_zero.mp (Option.some.inj hhead)
        omega
      · next hten =>
        rw [List.head?_append_of_ne_nil _ Nat.toDigits_ne_nil]
        exact ih (n / 10) (by omega) (by omega)

/-- A number has no more digits than the ones that it was read from. -/
theorem length_decimalDigits_digitsValue_le {cs : List Char} (hne : cs ≠ [])
    (h : ∀ c ∈ cs, c.isDigit) : (decimalDigits (digitsValue cs)).length ≤ cs.length :=
  length_decimalDigits_le (List.length_pos_of_ne_nil hne) (digitsValue_lt h)

namespace Number

/-- The text of an integer has its sign and its digits. -/
theorem integerText?_eq_some_iff {i : Int} {cs : List Char} : integerText? i = some cs ↔
    (decimalDigits i.natAbs).length ≤ digitLimit ∧
      cs = (if i < 0 then ['-'] else []) ++ decimalDigits i.natAbs := by
  have hsign : (if i < 0 then '-' :: decimalDigits i.natAbs else decimalDigits i.natAbs)
      = (if i < 0 then ['-'] else []) ++ decimalDigits i.natAbs := by
    split <;> rfl
  unfold integerText?
  dsimp only
  rw [hsign]
  split
  · next hlength => simp [hlength, eq_comm]
  · next hlength => simp [hlength]

/-- An integer of so many digits has a text. -/
theorem isSome_integerText? {i : Int} (h : i.natAbs < 10 ^ digitLimit) :
    (integerText? i).isSome :=
  Option.isSome_iff_exists.mpr
    ⟨_, integerText?_eq_some_iff.mpr ⟨length_decimalDigits_le (by decide) h, rfl⟩⟩

/-- An integer that is read from so many digits has a text. -/
theorem isSome_integerText?_signedValue {negative : Bool} {digits : List Char}
    (h : ∀ c ∈ digits, c.isDigit) (hlen : digits.length ≤ digitLimit) :
    (integerText? (signedValue negative digits)).isSome := by
  refine isSome_integerText? ?_
  rw [natAbs_signedValue]
  exact Nat.lt_of_lt_of_le (digitsValue_lt h) (Nat.pow_le_pow_right (by decide) hlen)

end Number

end Winnow
