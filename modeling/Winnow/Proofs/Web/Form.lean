/-
# `Form` — a query that needs no encoding is read as the fields that it was written from

Fields are written as they are, so that reading them back takes texts in which nothing is a mark or
an escape.  Such are the texts of unreserved characters: decoding leaves them alone
(`decode_of_isPlain`), and neither the ampersand nor the equals sign is among them.
-/
import Winnow.Proofs.Web.Paths
import Winnow.Web.Form

namespace Winnow

open Text

/-! ## Texts -/

namespace Percent

/-- All characters of the text are unreserved. -/
def IsPlain (cs : List Char) : Prop := ∀ c ∈ cs, isUnreserved c = true

instance (cs : List Char) : Decidable (IsPlain cs) :=
  decidable_of_iff (cs.all isUnreserved = true) List.all_eq_true

theorem IsPlain.not_mem {cs : List Char} {c : Char} (h : IsPlain cs) (hc : isUnreserved c = false) :
    c ∉ cs := by
  intro hmem
  rw [h c hmem] at hc
  cases hc

theorem isUnreserved_of_isDigit {c : Char} (h : c.isDigit = true) : isUnreserved c = true := by
  simp [isUnreserved, Char.isAlphanum, h]

theorem toNat_lt_of_isUnreserved {c : Char} (h : isUnreserved c = true) : c.toNat < 0x80 := by
  rcases Bool.or_eq_true _ _ ▸ h with halphanum | hmark
  · simp only [Char.isAlphanum, Char.isAlpha, Char.isUpper, Char.isLower, Char.isDigit,
      Bool.or_eq_true, Bool.and_eq_true, decide_eq_true_eq, UInt32.le_iff_toNat_le] at halphanum
    have hcode : c.toNat = c.val.toNat := rfl
    have hupper : 'Z'.val.toNat = 90 := rfl
    have hlower : 'z'.val.toNat = 122 := rfl
    have hdigit : '9'.val.toNat = 57 := rfl
    omega
  · have hmem : c = '-' ∨ c = '.' ∨ c = '_' ∨ c = '~' := by simpa using hmark
    rcases hmem with rfl | rfl | rfl | rfl <;> decide

theorem isPathChar_ofNat_of_isUnreserved :
    ∀ n < 0x80, isUnreserved (Char.ofNat n) = true → Url.isPathChar (Char.ofNat n) = true := by
  decide

theorem isPathChar_of_isUnreserved {c : Char} (h : isUnreserved c = true) :
    Url.isPathChar c = true := by
  have hlt := toNat_lt_of_isUnreserved h
  rw [← Char.ofNat_toNat c] at h ⊢
  exact isPathChar_ofNat_of_isUnreserved c.toNat hlt h

/-- There is nothing to decode in a plain text. -/
theorem decode_of_isPlain {cs : List Char} (h : IsPlain cs) : decode cs = cs := by
  have hself : encode Url.isPathChar cs = cs :=
    encode_eq_self fun c hc => isPathChar_of_isUnreserved (h c hc)
  have hescapes : ¬ HasEscape cs := by
    rintro ⟨before, a, b, after, rfl, -⟩
    exact h.not_mem (by decide) (List.mem_append_right before List.mem_cons_self)
  have hdecoded := (decode_encode_iff Url.keepsEscapes_isPathChar).mpr hescapes
  rwa [hself] at hdecoded

end Percent

/-! ## Fields -/

namespace Form

/-- The names and values of the fields need no encoding. -/
def IsPlain (fields : Fields) : Prop :=
  ∀ f ∈ fields, Percent.IsPlain f.1.toList ∧ Percent.IsPlain f.2.toList

/-! ### Values -/

/-- A field is found by its name, if no other one has that name. -/
theorem value?_of_mem {fields : Fields} {name value : String}
    (hnames : (fields.map Prod.fst).Nodup) (h : (name, value) ∈ fields) :
    value? fields name = some value := by
  obtain ⟨before, after, rfl⟩ := List.append_of_mem h
  rw [List.map_append, List.map_cons] at hnames
  have hafter : ∀ f ∈ after, f.1 ≠ name := by
    intro f hf heq
    have hmem : name ∈ after.map Prod.fst := heq ▸ List.mem_map_of_mem hf
    exact (List.nodup_cons.mp (List.nodup_append.mp hnames).2.1).1 hmem
  refine List.lookup_eq_some_iff.mpr ⟨after.reverse, before.reverse, by simp, ?_⟩
  intro f hf
  exact bne_iff_ne.mpr (hafter f (List.mem_reverse.mp hf)).symm

theorem value?_eq_none {fields : Fields} {name : String} (h : name ∉ fields.map Prod.fst) :
    value? fields name = none := by
  refine List.lookup_eq_none_iff.mpr fun f hf => bne_iff_ne.mpr ?_
  rintro rfl
  exact h (List.mem_map_of_mem (List.mem_reverse.mp hf))

/-! ### Reading what is written -/

/-- A field as it is written. -/
def writeField (f : String × String) : List Char := f.1.toList ++ '=' :: f.2.toList

theorem write_eq (fields : Fields) : write fields = List.intercalate ['&'] (fields.map writeField) :=
  rfl

theorem decodePart_of_isPlain {s : String} (h : Percent.IsPlain s.toList) :
    decodePart s.toList = s := by
  have hplus : s.toList.map (fun c => if c = '+' then ' ' else c) = s.toList := by
    refine (List.map_congr_left fun c hc => if_neg ?_).trans (List.map_id _)
    rintro rfl
    exact h.not_mem (by decide) hc
  rw [decodePart, hplus, Percent.decode_of_isPlain h, String.ofList_toList]

theorem readField_writeField {f : String × String} (hname : Percent.IsPlain f.1.toList)
    (hvalue : Percent.IsPlain f.2.toList) : readField (writeField f) = f := by
  rw [readField, writeField, cutAt_append _ (hname.not_mem (by decide))]
  simp only [Option.getD_some, decodePart_of_isPlain hname, decodePart_of_isPlain hvalue]

theorem ampersand_not_mem_writeField {f : String × String} (hname : Percent.IsPlain f.1.toList)
    (hvalue : Percent.IsPlain f.2.toList) : '&' ∉ writeField f := by
  intro hmem
  rcases List.mem_append.mp hmem with h | h
  · exact hname.not_mem (by decide) h
  · rcases List.mem_cons.mp h with h | h
    · exact absurd h (by decide)
    · exact hvalue.not_mem (by decide) h

/-- The pieces between the ampersands of a query that are not empty. -/
theorem pieces_write {fields : Fields} (h : IsPlain fields) :
    (pieces '&' (write fields)).filter (!·.isEmpty) = fields.map writeField := by
  have hne : ∀ f ∈ fields.map writeField, (!f.isEmpty) = true := by
    intro piece hpiece
    obtain ⟨f, -, rfl⟩ := List.mem_map.mp hpiece
    simp [writeField]
  cases fields with
  | nil => rfl
  | cons f rest =>
      have hpieces : pieces '&' (write (f :: rest)) = (f :: rest).map writeField := by
        refine pieces_eq_iff.mpr ⟨by simp, ?_, (write_eq _).symm⟩
        intro piece hpiece
        obtain ⟨g, hg, rfl⟩ := List.mem_map.mp hpiece
        exact ampersand_not_mem_writeField (h g hg).1 (h g hg).2
      rw [hpieces, List.filter_eq_self.mpr hne]

/-- Fields that need no encoding are read as they were written. -/
theorem read_write {fields : Fields} (h : IsPlain fields) :
    read (String.ofList (write fields)) = fields := by
  rw [read, String.toList_ofList, pieces_write h, List.map_map]
  have hfields : ∀ f ∈ fields, (readField ∘ writeField) f = id f :=
    fun f hf => readField_writeField (h f hf).1 (h f hf).2
  rw [List.map_congr_left hfields, List.map_id]

end Form

end Winnow
