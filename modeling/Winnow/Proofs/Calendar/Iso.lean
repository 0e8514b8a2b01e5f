/-
# `Iso` — a date in the standard form is read as that date

A number that is filled up with zeros to a width has just that width if it fits, and so the reader,
which takes a fixed number of digits at a time, finds the same numbers again.  All lemmas admit a
rest behind what is read, since a time of day may follow a date.
-/
import Winnow.Calendar.Iso
import Winnow.Proofs.Number.Digits

namespace Winnow

/-! ## Padded numbers -/

section

variable {width n : Nat}

theorem isDigit_of_mem_padded {c : Char} (h : c ∈ padded width n) : c.isDigit := by
  rcases List.mem_append.mp h with hzero | hdigit
  · rw [List.eq_of_mem_replicate hzero]
    rfl
  · exact isDigit_of_mem_decimalDigits hdigit

/-- Leading zeros do not count. -/
theorem digitsValue_replicate_append (k : Nat) (cs : List Char) :
    digitsValue (List.replicate k '0' ++ cs) = digitsValue cs := by
  induction k with
  | zero => rfl
  | succ k ih => exact ih

theorem digitsValue_padded (width n : Nat) : digitsValue (padded width n) = n := by
  rw [padded, digitsValue_replicate_append, digitsValue_decimalDigits]

theorem length_padded (hwidth : 0 < width) (h : n < 10 ^ width) :
    (padded width n).length = width := by
  have hle := length_decimalDigits_le hwidth h
  rw [padded, List.length_append, List.length_replicate]
  omega

end

/-! ## Reading -/

theorem monthLength_le (y m : Nat) : monthLength y m ≤ 31 := by
  unfold monthLength
  split
  · split <;> decide
  all_goals decide

/-- A day of the calendar is found by its year, month and day. -/
theorem Date.of?_self (d : Date) : of? d.year d.month d.day = some d := dif_pos d.valid

namespace Iso

theorem takeNumber?_padded {width n : Nat} (hwidth : 0 < width) (h : n < 10 ^ width)
    (rest : List Char) : takeNumber? width (padded width n ++ rest) = some (n, rest) := by
  have htake : (padded width n ++ rest).take width = padded width n :=
    List.take_left' (length_padded hwidth h)
  have hdrop : (padded width n ++ rest).drop width = rest :=
    List.drop_left' (length_padded hwidth h)
  have hdigits : (padded width n).all Char.isDigit = true :=
    List.all_eq_true.mpr fun _ => isDigit_of_mem_padded
  simp [takeNumber?, htake, hdrop, hdigits, length_padded hwidth h, digitsValue_padded]

theorem takeMark?_cons (mark : Char) (rest : List Char) :
    takeMark? mark (mark :: rest) = some rest :=
  if_pos rfl

theorem takeDate?_iso (d : Date) (rest : List Char) :
    takeDate? (d.iso ++ rest) = some (d, rest) := by
  obtain ⟨⟨-, hyear⟩, ⟨-, hmonth⟩, -, hday⟩ := d.valid
  have hlength := monthLength_le d.year d.month
  have hsplit : d.iso ++ rest = padded 4 d.year ++
      '-' :: (padded 2 d.month ++ '-' :: (padded 2 d.day ++ rest)) := by
    simp [Date.iso]
  have hfour : d.year < 10 ^ 4 := by omega
  have htwo : d.month < 10 ^ 2 := by omega
  have htwo' : d.day < 10 ^ 2 := by omega
  rw [hsplit, takeDate?]
  simp [takeNumber?_padded (by decide) hfour, takeNumber?_padded (by decide) htwo,
    takeNumber?_padded (by decide) htwo', takeMark?_cons, Date.of?_self]

/-- A date alone is the midnight that it starts with. -/
theorem read?_iso (d : Date) : read? d.iso = some ⟨d, .midnight, none⟩ := by
  have htake := takeDate?_iso d []
  rw [List.append_nil] at htake
  simp [read?, htake]

end Iso

/-! ## Writing -/

/-- A date is written with digits and hyphens. -/
theorem Date.isDigit_or_eq_of_mem_iso {d : Date} {c : Char} (h : c ∈ d.iso) :
    c.isDigit ∨ c = '-' := by
  have hsplit : c ∈ padded 4 d.year ∨ c = '-' ∨ c ∈ padded 2 d.month ∨ c = '-' ∨
      c ∈ padded 2 d.day := by
    simpa [Date.iso] using h
  rcases hsplit with hyear | hmark | hmonth | hmark | hday
  · exact Or.inl (isDigit_of_mem_padded hyear)
  · exact Or.inr hmark
  · exact Or.inl (isDigit_of_mem_padded hmonth)
  · exact Or.inr hmark
  · exact Or.inl (isDigit_of_mem_padded hday)

end Winnow
