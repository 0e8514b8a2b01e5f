/-
# `Blank` — what trimming leaves

A trimmed text is what remains of a text between characters that are dropped at its two ends, and
neither its first character nor its last one is one to be dropped.  There is only one such text
(`trimWhile_eq_iff`).
-/
import Mathlib
import Winnow.Text.Blank

namespace Winnow.Text

variable {p : Char → Bool}

/-- Neither end of the text is a character to be dropped. -/
structure IsTrimmed (p : Char → Bool) (cs : List Char) : Prop where
  head : ∀ c ∈ cs.head?, p c = false
  last : ∀ c ∈ cs.getLast?, p c = false

theorem dropWhile_eq_self_of_head? {cs : List Char} (h : ∀ c ∈ cs.head?, p c = false) :
    cs.dropWhile p = cs := by
  cases cs with
  | nil => rfl
  | cons c rest => rw [List.dropWhile_cons_of_neg (by simp [h c rfl])]

theorem isTrimmed_of_forall {cs : List Char} (h : ∀ c ∈ cs, p c = false) : IsTrimmed p cs :=
  ⟨fun c hc => h c (List.mem_of_head? hc), fun c hc => h c (List.mem_of_getLast? hc)⟩

theorem isTrimmed_append {front back : List Char} {c : Char} (hfront : front ≠ [])
    (hback : back ≠ []) (h : ∀ c ∈ front, p c = false) (h' : ∀ c ∈ back, p c = false) :
    IsTrimmed p (front ++ c :: back) := by
  constructor
  · rw [List.head?_append_of_ne_nil front hfront]
    exact (isTrimmed_of_forall h).head
  · rw [List.append_cons, List.getLast?_append_of_ne_nil (front ++ [c]) hback]
    exact (isTrimmed_of_forall h').last

/-- What is dropped at the two ends of a trimmed text does not matter. -/
theorem trimWhile_append {left cs right : List Char} (hleft : ∀ c ∈ left, p c = true)
    (hright : ∀ c ∈ right, p c = true) (h : IsTrimmed p cs) :
    trimWhile p (left ++ cs ++ right) = cs := by
  cases cs with
  | nil =>
      have hall : ∀ c ∈ left ++ right, p c = true := fun c hc =>
        (List.mem_append.mp hc).elim (hleft c) (hright c)
      rw [List.append_nil, trimWhile, List.dropWhile_eq_nil_iff.mpr hall]
      rfl
  | cons c rest =>
      have hfront : (left ++ (c :: rest ++ right)).dropWhile p = c :: rest ++ right := by
        rw [List.dropWhile_append_of_pos hleft]
        exact dropWhile_eq_self_of_head? h.head
      have hback : (right.reverse ++ (c :: rest).reverse).dropWhile p = (c :: rest).reverse := by
        rw [List.dropWhile_append_of_pos fun d hd => hright d (List.mem_reverse.mp hd)]
        refine dropWhile_eq_self_of_head? ?_
        rw [List.head?_reverse]
        exact h.last
      rw [trimWhile, List.append_assoc, hfront, List.reverse_append, hback, List.reverse_reverse]

theorem head?_dropWhile {cs : List Char} : ∀ c ∈ (cs.dropWhile p).head?, p c = false := by
  intro c hc
  have hnot := List.head?_dropWhile_not p cs
  rw [Option.mem_def.mp hc] at hnot
  exact hnot

theorem trimWhile_eq_rdropWhile (cs : List Char) :
    trimWhile p cs = (cs.dropWhile p).rdropWhile p := rfl

theorem trimWhile_sublist (p : Char → Bool) (cs : List Char) : (trimWhile p cs).Sublist cs :=
  (List.rdropWhile_prefix p _).sublist.trans (List.dropWhile_sublist p)

theorem isTrimmed_trimWhile (p : Char → Bool) (cs : List Char) : IsTrimmed p (trimWhile p cs) := by
  constructor
  · intro c hc
    have hprefix : trimWhile p cs <+: cs.dropWhile p := List.rdropWhile_prefix p _
    have hfirst : [c] <+: trimWhile p cs := List.singleton_prefix_iff_head?_eq_some.mpr hc
    exact head?_dropWhile c
      (List.singleton_prefix_iff_head?_eq_some.mp (hfirst.trans hprefix))
  · intro c hc
    rw [trimWhile, List.getLast?_reverse] at hc
    exact head?_dropWhile c hc

/-- What trimming drops stands at the two ends. -/
theorem exists_eq_append_trimWhile (p : Char → Bool) (cs : List Char) :
    ∃ left right, cs = left ++ trimWhile p cs ++ right ∧ (∀ c ∈ left, p c = true) ∧
      ∀ c ∈ right, p c = true := by
  refine ⟨cs.takeWhile p, (cs.dropWhile p).rtakeWhile p, ?_, ?_, ?_⟩
  · rw [trimWhile_eq_rdropWhile, List.append_assoc, List.rdropWhile_append_rtakeWhile,
      List.takeWhile_append_dropWhile]
  · exact fun c hc => List.mem_takeWhile_imp hc
  · exact fun c hc => List.mem_rtakeWhile_imp hc

/-- A text has one trimmed text: what stands in it between characters to be dropped. -/
theorem trimWhile_eq_iff {cs item : List Char} : trimWhile p cs = item ↔
    IsTrimmed p item ∧ ∃ left right, cs = left ++ item ++ right ∧
      (∀ c ∈ left, p c = true) ∧ ∀ c ∈ right, p c = true := by
  constructor
  · rintro rfl
    exact ⟨isTrimmed_trimWhile p cs, exists_eq_append_trimWhile p cs⟩
  · rintro ⟨h, left, right, rfl, hleft, hright⟩
    exact trimWhile_append hleft hright h

theorem trimWhile_eq_self {cs : List Char} (h : IsTrimmed p cs) : trimWhile p cs = cs :=
  trimWhile_eq_iff.mpr ⟨h, [], [], (List.append_nil cs).symm, nofun, nofun⟩

/-! ## White space -/

theorem isSpace_of_isBlank {c : Char} (h : isBlank c = false) : isSpace c = false :=
  (Bool.or_eq_false_iff.mp h).1

theorem isBlank_of_isDigit {c : Char} (h : c.isDigit) : isBlank c = false := by
  obtain ⟨hlow, hhigh⟩ : 48 ≤ c.toNat ∧ c.toNat ≤ 57 := Char.isDigit_iff_toNat.mp h
  simp only [isBlank, isSpace, Bool.or_eq_false_iff, Bool.and_eq_false_iff,
    decide_eq_false_iff_not]
  omega

end Winnow.Text
