/-
# `Containment` — which texts are found in an answer that contains them

An answer is searched for the text of a filter after both have been lower-cased, each as a whole.
A text that stands in the answer is found there if lower-casing does not tell the two apart, and it
only does so by a capital sigma that ends a word in one of them and not in the other
(`KeepsSigmas`).  A text that cannot be told apart in any answer is found in all that contain it;
for any other text there is an answer that contains it and in which it is not found, neither where
it stands nor elsewhere (`contained_text_is_found_iff`).
-/
import Winnow.Filter.Comparison
import Winnow.Proofs.Text.Lower

namespace Winnow

open Text

/-! ## Searching -/

theorem occursIn_iff {part whole : List Char} : occursIn part whole = true ↔ part <:+: whole := by
  induction whole with
  | nil => rw [occursIn, List.isEmpty_iff, List.infix_nil]
  | cons c whole ih =>
      rw [occursIn, Bool.or_eq_true, ih, List.isPrefixOf_iff_prefix, List.infix_cons_iff]

/-- The answer is found to contain the text. -/
def Finds (part whole : String) : Prop :=
  compareText (.string part) (.string whole) .equals = .ok true ∧
    compareText (.string part) (.string whole) .differs = .ok false

theorem finds_iff {part whole : String} :
    Finds part whole ↔ lower part.toList <:+: lower whole.toList := by
  have hequals : compareText (.string part) (.string whole) .equals
      = .ok (occursIn (lower part.toList) (lower whole.toList)) := rfl
  have hdiffers : compareText (.string part) (.string whole) .differs
      = .ok !occursIn (lower part.toList) (lower whole.toList) := rfl
  rw [Finds, hequals, hdiffers, ← occursIn_iff]
  cases occursIn (lower part.toList) (lower whole.toList) <;> simp

/-! ## Sigmas -/

/-- Each capital sigma of the part ends a word between the two texts if and only if it does so in
the part alone. -/
def KeepsSigmas (before part after : List Char) : Prop :=
  ∀ u v, part = u ++ 'Σ' :: v → (EndsWord (before ++ u) (v ++ after) ↔ EndsWord u v)

variable {before part after : List Char}

theorem lowerWithin_eq_lower_iff :
    lowerWithin before.reverse after part = lower part ↔ KeepsSigmas before part after := by
  rw [lower_eq_lowerWithin, lowerWithin_eq_iff]
  refine forall_congr' fun u => forall_congr' fun v => imp_congr_right fun _ => ?_
  rw [List.append_nil, List.append_nil, ← List.reverse_append, lowerSigma_eq_iff]

/-- What keeps its form is found where it stands. -/
theorem infix_lower_of_keepsSigmas (h : KeepsSigmas before part after) :
    lower part <:+: lower (before ++ part ++ after) := by
  obtain ⟨first, last, hsplit⟩ := lower_append before part after
  rw [lowerWithin_eq_lower_iff.mpr h] at hsplit
  exact ⟨first, last, hsplit.symm⟩

/-! ## Texts that are told apart -/

theorem lowerWithin_sigma_ne_nil (before after v : List Char) :
    lowerWithin before after ('Σ' :: v) ≠ [] :=
  List.cons_ne_nil _ _

/-- A sigma that ends a word no longer does so when a letter follows. -/
theorem not_infix_lower_concat {u v : List Char} (h : EndsWord u v) (hv : ∀ c ∈ v, IsSkipped c) :
    ¬ lower (u ++ 'Σ' :: v) <:+: lower (u ++ 'Σ' :: v ++ ['a']) := by
  set part := u ++ 'Σ' :: v with hpart
  have hwhole : lower (part ++ ['a']) = lowerWithin [] ['a'] part ++ ['a'] := by
    rw [lower_eq_lowerWithin, lowerWithin_append]
    rfl
  have hsplit : lower part
      = lowerWithin [] ('Σ' :: v) u ++ lowerWithin u.reverse [] ('Σ' :: v) := by
    rw [lower_eq_lowerWithin, hpart, lowerWithin_append, List.append_nil, List.append_nil]
  have hne : lower part ≠ lowerWithin [] ['a'] part := by
    intro heq
    have hkeeps : KeepsSigmas [] part ['a'] := lowerWithin_eq_lower_iff.mp heq.symm
    exact ((hkeeps u v hpart).mpr h).2 ⟨v, 'a', [], rfl, hv, isLetterWithCase_a⟩
  have hlength : (lower part).length = (lowerWithin [] ['a'] part).length := by
    rw [lower_eq_lowerWithin]
    exact length_lowerWithin _ _ _ _ _
  have hnot : 'a' ∉ lowerWithin u.reverse [] ('Σ' :: v) :=
    a_not_mem_lowerWithin (List.forall_mem_cons.mpr ⟨Or.inr rfl, fun c hc => Or.inl (hv c hc)⟩)
  rw [hwhole, List.infix_concat_iff, List.suffix_concat_iff]
  rintro ((hnil | ⟨rest, hlast, -⟩) | hinner)
  · rw [hsplit, List.append_eq_nil_iff] at hnil
    exact lowerWithin_sigma_ne_nil _ _ _ hnil.2
  · have hends := congrArg List.getLast? (hsplit.symm.trans hlast)
    rw [List.getLast?_append_of_ne_nil _ (lowerWithin_sigma_ne_nil _ _ _),
      List.getLast?_concat] at hends
    exact hnot (List.mem_of_getLast? hends)
  · exact hne (hinner.eq_of_length hlength)

/-- A sigma that starts a word, but for characters that are passed over, ends one when a letter
precedes. -/
theorem not_infix_lower_cons {u v : List Char} (h : ¬ StartsCased v) (hnot : ¬ EndsCased u)
    (hu : ∀ c ∈ u, IsSkipped c) :
    ¬ lower (u ++ 'Σ' :: v) <:+: lower ('a' :: (u ++ 'Σ' :: v)) := by
  set part := u ++ 'Σ' :: v with hpart
  have hwhole : lower ('a' :: part) = 'a' :: lowerWithin ['a'] [] part := by
    rw [lower_eq_lowerWithin]
    rfl
  have hsplit : lower part
      = lowerWithin [] v (u ++ ['Σ']) ++ lowerWithin (u ++ ['Σ']).reverse [] v := by
    rw [lower_eq_lowerWithin, hpart, List.append_cons, lowerWithin_append, List.append_nil,
      List.append_nil]
  have hne : lower part ≠ lowerWithin ['a'] [] part := by
    intro heq
    have hkeeps : KeepsSigmas ['a'] part [] := lowerWithin_eq_lower_iff.mp heq.symm
    have hends : EndsWord (['a'] ++ u) (v ++ []) := by
      refine ⟨⟨[], 'a', u, rfl, hu, isLetterWithCase_a⟩, ?_⟩
      rwa [List.append_nil]
    exact hnot ((hkeeps u v hpart).mp hends).1
  have hlength : (lower part).length = (lowerWithin ['a'] [] part).length := by
    rw [lower_eq_lowerWithin]
    exact length_lowerWithin _ _ _ _ _
  have hnone : 'a' ∉ lowerWithin [] v (u ++ ['Σ']) := by
    refine a_not_mem_lowerWithin fun c hc => ?_
    rcases List.mem_append.mp hc with hc | hc
    · exact Or.inl (hu c hc)
    · exact Or.inr (List.mem_singleton.mp hc)
  have hsome : lowerWithin [] v (u ++ ['Σ']) ≠ [] := by
    rw [lowerWithin_append, ne_eq, List.append_eq_nil_iff]
    exact fun hnil => lowerWithin_sigma_ne_nil _ _ _ hnil.2
  rw [hwhole, List.infix_cons_iff, List.prefix_cons_iff]
  rintro ((hnil | ⟨rest, hfirst, -⟩) | hinner)
  · rw [hsplit, List.append_eq_nil_iff] at hnil
    exact hsome hnil.1
  · have hstarts := congrArg List.head? (hsplit.symm.trans hfirst)
    rw [List.head?_append_of_ne_nil _ hsome, List.head?_cons] at hstarts
    exact hnone (List.mem_of_head? hstarts)
  · exact hne (hinner.eq_of_length hlength)

/-- A part that does not keep its sigmas somewhere is not found next to some letter. -/
theorem exists_not_infix_of_not_keepsSigmas (h : ¬ KeepsSigmas before part after) :
    ∃ before' after', ¬ lower part <:+: lower (before' ++ part ++ after') := by
  unfold KeepsSigmas at h
  push Not at h
  obtain ⟨u, v, rfl, ⟨hends, hnot⟩ | ⟨hnot, hends⟩⟩ := h
  · have hv : ¬ StartsCased v := fun hstarts => hends.2 (hstarts.append after)
    have hu : ¬ EndsCased u := fun hcased => hnot ⟨hcased, hv⟩
    refine ⟨['a'], [], ?_⟩
    rw [List.append_nil]
    exact not_infix_lower_cons hv hu (forall_isSkipped_of_endsCased_append hends.1 hu)
  · have hstarts : StartsCased (v ++ after) := by
      by_contra hnone
      exact hnot ⟨hends.1.append before, hnone⟩
    exact ⟨[], ['a'], not_infix_lower_concat hends
      (forall_isSkipped_of_startsCased_append hstarts hends.2)⟩

/-- A text is found in an answer that contains it if its sigmas keep their form there.  It is found
in all such answers exactly if they keep it in all of them. -/
theorem contained_text_is_found_iff (part : String) :
    (∀ before after : String, KeepsSigmas before.toList part.toList after.toList →
      Finds part (before ++ part ++ after)) ∧
    ((∀ before after : String, Finds part (before ++ part ++ after)) ↔
      ∀ before after : String, KeepsSigmas before.toList part.toList after.toList) := by
  have hfinds : ∀ before after : String, Finds part (before ++ part ++ after) ↔
      lower part.toList <:+: lower (before.toList ++ part.toList ++ after.toList) := by
    intro before after
    rw [finds_iff, String.toList_append, String.toList_append]
  have hkept : ∀ before after : String, KeepsSigmas before.toList part.toList after.toList →
      Finds part (before ++ part ++ after) := fun before after h =>
    (hfinds before after).mpr (infix_lower_of_keepsSigmas h)
  refine ⟨hkept, fun hall before after => ?_, fun hall before after => hkept _ _ (hall _ _)⟩
  by_contra hnot
  obtain ⟨before', after', hmissed⟩ := exists_not_infix_of_not_keepsSigmas hnot
  have hfound := (hfinds (String.ofList before') (String.ofList after')).mp (hall _ _)
  rw [String.toList_ofList, String.toList_ofList] at hfound
  exact hmissed hfound

/-- A sigma that ends a word inside the text is found between other words. -/
theorem sigma_before_blank_is_found :
    KeepsSigmas "Η ".toList "ΟΔΟΣ Α".toList "ΥΤΗ".toList ∧ Finds "ΟΔΟΣ Α" "Η ΟΔΟΣ ΑΥΤΗ" := by
  have hkeeps : KeepsSigmas "Η ".toList "ΟΔΟΣ Α".toList "ΥΤΗ".toList :=
    lowerWithin_eq_lower_iff.mp (by decide +kernel)
  exact ⟨hkeeps, (contained_text_is_found_iff "ΟΔΟΣ Α").1 "Η " "ΥΤΗ" hkeeps⟩

/-- A sigma at the end of the text ends a word there and is not found inside of one. -/
theorem sigma_inside_word_is_not_found :
    compareText (.string "ΟΣ") (.string ("" ++ "ΟΣ" ++ "Α")) .equals = .ok false ∧
      compareText (.string "ΟΣ") (.string ("" ++ "ΟΣ" ++ "Α")) .differs = .ok true := by
  decide +kernel

end Winnow
