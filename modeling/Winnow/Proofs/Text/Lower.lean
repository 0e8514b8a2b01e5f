/-
# `Lower` — lower-casing a part of a text

The lower-case form of a character is its own affair, the capital sigma apart: at the end of a word
it becomes another letter than inside of one.  So a text that stands in a larger one becomes there
what it becomes on its own exactly if each of its sigmas ends a word in both or in neither
(`lowerWithin_eq_iff`).
-/
import Mathlib
import Winnow.Text.Lower

namespace Winnow.Text

/-! ## Ends of words -/

/-- The character is passed over when the end of a word is looked for. -/
def IsSkipped (c : Char) : Prop := inRanges caseIgnorableRanges c.toNat = true

/-- The character has a case, and it is not passed over. -/
def IsLetterWithCase (c : Char) : Prop := inRanges casedRanges c.toNat = true ∧ ¬ IsSkipped c

/-- Up to characters that are passed over, the text starts with a cased letter. -/
def StartsCased (cs : List Char) : Prop :=
  ∃ skipped c rest, cs = skipped ++ c :: rest ∧ (∀ d ∈ skipped, IsSkipped d) ∧ IsLetterWithCase c

/-- Up to characters that are passed over, the text ends with a cased letter. -/
def EndsCased (cs : List Char) : Prop :=
  ∃ rest c skipped, cs = rest ++ c :: skipped ∧ (∀ d ∈ skipped, IsSkipped d) ∧ IsLetterWithCase c

/-- A letter between two texts ends a word. -/
def EndsWord (before after : List Char) : Prop := EndsCased before ∧ ¬ StartsCased after

theorem endsCased_iff_reverse {cs : List Char} : EndsCased cs ↔ StartsCased cs.reverse := by
  constructor
  · rintro ⟨rest, c, skipped, rfl, hskipped, hc⟩
    refine ⟨skipped.reverse, c, rest.reverse, by simp, ?_, hc⟩
    exact fun d hd => hskipped d (List.mem_reverse.mp hd)
  · rintro ⟨skipped, c, rest, h, hskipped, hc⟩
    refine ⟨rest.reverse, c, skipped.reverse, ?_, ?_, hc⟩
    · rw [← List.reverse_reverse cs, h]
      simp
    · exact fun d hd => hskipped d (List.mem_reverse.mp hd)

theorem StartsCased.append {cs : List Char} (h : StartsCased cs) (after : List Char) :
    StartsCased (cs ++ after) := by
  obtain ⟨skipped, c, rest, rfl, hskipped, hc⟩ := h
  exact ⟨skipped, c, rest ++ after, by simp, hskipped, hc⟩

theorem EndsCased.append {cs : List Char} (h : EndsCased cs) (before : List Char) :
    EndsCased (before ++ cs) := by
  obtain ⟨rest, c, skipped, rfl, hskipped, hc⟩ := h
  exact ⟨before ++ rest, c, skipped, by simp, hskipped, hc⟩

/-- What follows a text only matters if all of the text is passed over. -/
theorem forall_isSkipped_of_startsCased_append {cs after : List Char} (h : StartsCased (cs ++ after))
    (hnot : ¬ StartsCased cs) : ∀ c ∈ cs, IsSkipped c := by
  obtain ⟨skipped, c, rest, hsplit, hskipped, hc⟩ := h
  rcases List.append_eq_append_iff.mp hsplit with ⟨middle, rfl, -⟩ | ⟨middle, rfl, hmiddle⟩
  · exact fun d hd => hskipped d (List.mem_append_left _ hd)
  · cases middle with
    | nil => simpa using hskipped
    | cons d middle =>
        obtain ⟨rfl, -⟩ := List.cons.inj hmiddle
        exact absurd ⟨skipped, c, middle, rfl, hskipped, hc⟩ hnot

theorem forall_isSkipped_of_endsCased_append {before cs : List Char}
    (h : EndsCased (before ++ cs)) (hnot : ¬ EndsCased cs) : ∀ c ∈ cs, IsSkipped c := by
  rw [endsCased_iff_reverse, List.reverse_append] at h
  rw [endsCased_iff_reverse] at hnot
  exact fun c hc => forall_isSkipped_of_startsCased_append h hnot c (List.mem_reverse.mpr hc)

theorem casedNext_iff {cs : List Char} : casedNext cs = true ↔ StartsCased cs := by
  induction cs with
  | nil =>
      refine ⟨nofun, ?_⟩
      rintro ⟨skipped, c, rest, h, -⟩
      exact absurd h.symm (List.append_ne_nil_of_right_ne_nil skipped (List.cons_ne_nil c rest))
  | cons c cs ih =>
      let skips : Char → Bool := fun c => inRanges caseIgnorableRanges c.toNat
      by_cases hc : IsSkipped c
      · have hnext : casedNext (c :: cs) = casedNext cs := by
          unfold casedNext
          rw [@List.dropWhile_cons_of_pos _ skips _ _ hc]
        rw [hnext, ih]
        constructor
        · rintro ⟨skipped, d, rest, rfl, hskipped, hd⟩
          exact ⟨c :: skipped, d, rest, rfl, List.forall_mem_cons.mpr ⟨hc, hskipped⟩, hd⟩
        · rintro ⟨skipped, d, rest, h, hskipped, hd⟩
          cases skipped with
          | nil =>
              cases h
              exact absurd hc hd.2
          | cons _ skipped =>
              cases h
              exact ⟨skipped, d, rest, rfl, (List.forall_mem_cons.mp hskipped).2, hd⟩
      · have hnext : casedNext (c :: cs) = inRanges casedRanges c.toNat := by
          unfold casedNext
          rw [@List.dropWhile_cons_of_neg _ skips _ _ hc]
        rw [hnext]
        constructor
        · intro hcased
          exact ⟨[], c, cs, rfl, List.forall_mem_nil _, hcased, hc⟩
        · rintro ⟨skipped, d, rest, h, hskipped, hd⟩
          cases skipped with
          | nil =>
              cases h
              exact hd.1
          | cons _ skipped =>
              cases h
              exact absurd (hskipped c List.mem_cons_self) hc

/-- A sigma takes its form from whether it ends a word. -/
theorem lowerSigma_eq_iff {before after before' after' : List Char} :
    lowerSigma before.reverse after = lowerSigma before'.reverse after' ↔
      (EndsWord before after ↔ EndsWord before' after') := by
  have hiff : ∀ before after : List Char, EndsWord before after ↔
      (casedNext before.reverse && !casedNext after) = true := by
    intro before after
    rw [EndsWord, endsCased_iff_reverse, ← casedNext_iff, ← casedNext_iff]
    simp
  rw [hiff, hiff]
  unfold lowerSigma
  generalize (casedNext before.reverse && !casedNext after) = b
  generalize (casedNext before'.reverse && !casedNext after') = b'
  cases b <;> cases b' <;> decide

/-! ## Parts of a text -/

/-- The lower-case form of a text between two others, the first of which is given last character
first. -/
def lowerWithin (before after : List Char) : List Char → List Char
  | [] => []
  | c :: rest =>
    (if c.toNat = 0x3a3 then [lowerSigma before (rest ++ after)] else lowerChar c)
      ++ lowerWithin (c :: before) after rest

theorem lowerFrom_append (before cs after : List Char) : lowerFrom before (cs ++ after)
    = lowerWithin before after cs ++ lowerFrom (cs.reverse ++ before) after := by
  induction cs generalizing before with
  | nil => rfl
  | cons c cs ih =>
      rw [List.cons_append, lowerFrom, lowerWithin, ih, List.append_assoc, List.reverse_cons,
        List.append_assoc]
      rfl

theorem lower_eq_lowerWithin (cs : List Char) : lower cs = lowerWithin [] [] cs := by
  have h := lowerFrom_append [] cs []
  rwa [List.append_nil, lowerFrom, List.append_nil] at h

theorem lowerWithin_append (before after cs ds : List Char) : lowerWithin before after (cs ++ ds)
    = lowerWithin before (ds ++ after) cs ++ lowerWithin (cs.reverse ++ before) after ds := by
  induction cs generalizing before with
  | nil => rfl
  | cons c cs ih =>
      rw [List.cons_append, lowerWithin, lowerWithin, ih, List.append_assoc, List.reverse_cons,
        List.append_assoc, List.append_assoc]
      rfl

theorem length_lowerWithin (before after before' after' cs : List Char) :
    (lowerWithin before after cs).length = (lowerWithin before' after' cs).length := by
  induction cs generalizing before before' with
  | nil => rfl
  | cons c cs ih =>
      rw [lowerWithin, lowerWithin, List.length_append, List.length_append, ih]
      split <;> rfl

/-- A part of a text becomes a part of its lower-case form. -/
theorem lower_append (before cs after : List Char) : ∃ first last,
    lower (before ++ cs ++ after) = first ++ lowerWithin before.reverse after cs ++ last := by
  refine ⟨lowerWithin [] (cs ++ after) before, lowerWithin (before ++ cs).reverse [] after, ?_⟩
  simp only [lower_eq_lowerWithin, lowerWithin_append, List.append_nil, List.reverse_append]

/-- A part has the same lower-case form in two places if each of its sigmas has the same form. -/
theorem lowerWithin_eq_iff {before after before' after' cs : List Char} :
    lowerWithin before after cs = lowerWithin before' after' cs ↔
      ∀ u v, cs = u ++ 'Σ' :: v → lowerSigma (u.reverse ++ before) (v ++ after)
        = lowerSigma (u.reverse ++ before') (v ++ after') := by
  constructor
  · rintro h u v rfl
    rw [lowerWithin_append, lowerWithin_append before'] at h
    have htail := (List.append_inj h (length_lowerWithin _ _ _ _ u)).2
    exact (List.cons.inj htail).1
  · intro h
    induction cs generalizing before before' with
    | nil => rfl
    | cons c cs ih =>
        have hrest : lowerWithin (c :: before) after cs = lowerWithin (c :: before') after' cs := by
          refine ih fun u v hcs => ?_
          have hsigma := h (c :: u) v (by rw [hcs, List.cons_append])
          rwa [List.reverse_cons, List.append_assoc, List.append_assoc] at hsigma
        rw [lowerWithin, lowerWithin, hrest]
        split
        · next hc =>
          obtain rfl : c = 'Σ' := Char.toNat_inj.mp hc
          exact congrArg (· ++ _) (congrArg (fun x => [x]) (h [] cs rfl))
        · rfl

/-! ## A letter with a case -/

theorem isLetterWithCase_a : IsLetterWithCase 'a' := by
  constructor
  · decide +kernel
  · have hskipped : inRanges caseIgnorableRanges 'a'.toNat = false := by decide +kernel
    rw [IsSkipped, hskipped]
    exact Bool.false_ne_true

theorem moveBy_lowerRules_ne_a {c : Char} (hc : 0x80 ≤ c.toNat) : moveBy lowerRules c ≠ 'a' := by
  -- Beyond the first block all rules lead to characters above the small letter a.
  have hrules : ∀ rule ∈ lowerRules, rule.2.1 < 0x80 ∨ 0x61 < (rule.1 : Int) + rule.2.2.2 := by
    decide +kernel
  intro h
  unfold moveBy at h
  dsimp only at h
  split at h
  · next first last step distance hfound =>
    have hcovers := List.find?_some hfound
    simp only [Bool.and_eq_true, decide_eq_true_eq] at hcovers
    have hcode := congrArg Char.toNat h
    rw [Char.toNat_ofNat] at hcode
    split at hcode
    · have hmoved : ((c.toNat : Int) + distance).toNat = 0x61 := hcode
      rcases hrules _ (List.mem_of_find?_eq_some hfound) with hrule | hrule
      · dsimp only at hrule
        omega
      · dsimp only at hrule
        omega
    · cases hcode
  · rw [h] at hc
    exact absurd hc (by decide)

/-- No character that is passed over becomes the small letter a. -/
theorem a_not_mem_lowerChar {c : Char} (h : IsSkipped c) : 'a' ∉ lowerChar c := by
  have hascii : ∀ code < 0x80, (Char.ofNat code).toLower = 'a' →
      inRanges caseIgnorableRanges code = false := by
    decide +kernel
  unfold lowerChar
  split
  · next hc =>
    intro hmem
    have hskipped := hascii c.toNat hc
    rw [Char.ofNat_toNat] at hskipped
    exact absurd h (Bool.eq_false_iff.mp (hskipped (List.mem_singleton.mp hmem).symm))
  · split
    · decide
    · exact fun hmem => moveBy_lowerRules_ne_a (by omega) (List.mem_singleton.mp hmem).symm

theorem a_not_mem_lowerWithin {before after cs : List Char}
    (h : ∀ c ∈ cs, IsSkipped c ∨ c = 'Σ') : 'a' ∉ lowerWithin before after cs := by
  have hsigma : ∀ before after, lowerSigma before after ≠ 'a' := by
    intro before after
    unfold lowerSigma
    split <;> decide
  induction cs generalizing before with
  | nil => exact List.not_mem_nil
  | cons c cs ih =>
      obtain ⟨hc, hcs⟩ := List.forall_mem_cons.mp h
      rw [lowerWithin, List.mem_append, not_or]
      refine ⟨?_, ih hcs⟩
      split
      · exact fun hmem => hsigma _ _ (List.mem_singleton.mp hmem).symm
      · next hnot =>
        rcases hc with hc | rfl
        · exact a_not_mem_lowerChar hc
        · exact absurd rfl hnot

end Winnow.Text
