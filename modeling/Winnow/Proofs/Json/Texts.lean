/-
# `Texts` — the values that have a text

A value has no text if there is an integer in it of more than 4300 digits.  No such integer is ever
read from JSON, so every value that comes from JSON has a text: it can be shown in a message, and
compared as text with the value of a filter.
-/
import Mathlib
import Winnow.Proofs.Json.Limits
import Winnow.Proofs.Number.Digits

namespace Winnow.Json

/-- The value can be written as text. -/
def HasText (v : Json) : Prop := v.quoted?.isSome

/-! ## Containers -/

theorem isSome_quotedItems? :
    ∀ (items : List Json), (quotedItems? items).isSome ↔ ∀ v ∈ items, v.HasText
  | [] => by simp [quotedItems?]
  | v :: rest => by
      rw [List.forall_mem_cons, ← isSome_quotedItems? rest, quotedItems?, HasText]
      cases quoted? v <;> cases quotedItems? rest <;> simp

theorem isSome_quotedMembers? :
    ∀ (members : List (String × Json)),
      (quotedMembers? members).isSome ↔ ∀ m ∈ members, m.2.HasText
  | [] => by simp [quotedMembers?]
  | (key, v) :: rest => by
      rw [List.forall_mem_cons, ← isSome_quotedMembers? rest, quotedMembers?, HasText]
      cases quoted? v <;> cases quotedMembers? rest <;> simp

theorem hasText_array {items : List Json} :
    HasText (.array items) ↔ ∀ v ∈ items, v.HasText := by
  rw [← isSome_quotedItems?, HasText, quoted?]
  cases quotedItems? items <;> simp

theorem hasText_object {members : List (String × Json)} :
    HasText (.object members) ↔ ∀ m ∈ members, m.2.HasText := by
  rw [← isSome_quotedMembers?, HasText, quoted?]
  cases quotedMembers? members <;> simp

/-- What holds of the values of an object holds after a member is set to such a value. -/
theorem forall_mem_put {p : Json → Prop} {key : String} {value : Json} (hv : p value) :
    ∀ {members : List (String × Json)}, (∀ m ∈ members, p m.2) →
      ∀ m ∈ put members key value, p m.2
  | [], _ => by
      intro m hm
      rw [List.mem_singleton.mp hm]
      exact hv
  | (k, v) :: rest, h => by
      intro m hm
      rw [put] at hm
      split at hm
      · rcases List.mem_cons.mp hm with rfl | hm
        · exact hv
        · exact h m (List.mem_cons_of_mem _ hm)
      · rcases List.mem_cons.mp hm with rfl | hm
        · exact h _ List.mem_cons_self
        · exact forall_mem_put hv (fun m hm => h m (List.mem_cons_of_mem _ hm)) m hm

theorem hasText_of_lookup {members : List (String × Json)} (h : HasText (.object members))
    {key : String} {v : Json} (hv : members.lookup key = some v) : v.HasText := by
  obtain ⟨before, after, rfl, -⟩ := List.lookup_eq_some_iff.mp hv
  exact hasText_object.mp h (key, v) (List.mem_append_right before List.mem_cons_self)

theorem hasText_get {members : List (String × Json)} (h : HasText (.object members))
    (key : String) : (get members key).HasText := by
  rw [get]
  cases hv : members.lookup key with
  | none => rfl
  | some v => exact hasText_of_lookup h hv

/-- A value with a text has one also where a string is its own text. -/
theorem isSome_text? {v : Json} (h : v.HasText) : v.text?.isSome := by
  cases v with
  | string s => rfl
  | _ => exact h

/-- The value stands somewhere in another one, or is that value. -/
inductive PartOf (v : Json) : Json → Prop
  | whole : PartOf v v
  | item {items : List Json} {item : Json} : item ∈ items → PartOf v item →
      PartOf v (.array items)
  | member {members : List (String × Json)} {m : String × Json} : m ∈ members → PartOf v m.2 →
      PartOf v (.object members)

theorem hasText_of_partOf {v whole : Json} (h : v.PartOf whole) (htext : whole.HasText) :
    v.HasText := by
  induction h with
  | whole => exact htext
  | item hitem _ ih => exact ih (hasText_array.mp htext _ hitem)
  | member hm _ ih => exact ih (hasText_object.mp htext _ hm)

/-! ## Tokens -/

/-- The value is no container and has a text. -/
def IsPlain : Json → Prop
  | .array _ | .object _ => False
  | v => v.HasText

theorem IsPlain.hasText {v : Json} (h : v.IsPlain) : v.HasText := by
  cases v with
  | array _ | object _ => cases h
  | _ => exact h

/-- The value of a token, if it is one, is no container and has a text. -/
def Token.IsPlain : Token → Prop
  | .scalar v => v.IsPlain
  | _ => True

theorem isPlain_wordValue? {s : String} {v : Json} (h : wordValue? s = some v) : v.IsPlain := by
  unfold wordValue? at h
  split at h <;> cases h <;> rfl

theorem isDigit_of_mem_splitDigits {cs : List Char} {c : Char} (h : c ∈ (splitDigits cs).1) :
    c.isDigit := by
  rw [splitDigits, List.span_eq_takeWhile_dropWhile] at h
  exact List.mem_takeWhile_imp h

/-- The digits of an integer that is read are not too many. -/
theorem isPlain_splitNumber? {cs : List Char} {t : Token} {rest : List Char}
    (h : splitNumber? cs = some (t, rest)) : t.IsPlain := by
  unfold splitNumber? at h
  split at h
  next negative unsigned _ =>
  split at h
  next whole afterWhole hwhole =>
  split at h
  next fraction afterFraction _ =>
  split at h
  next exponent rest' _ =>
  have hdigits : ∀ c ∈ whole, c.isDigit := by
    intro c hc
    split at hwhole
    · cases hwhole
      rw [List.mem_singleton.mp hc]
      rfl
    · have hfst : (splitDigits unsigned).1 = whole := congrArg Prod.fst hwhole
      exact isDigit_of_mem_splitDigits (hfst ▸ hc)
  split at h
  · cases h
  · split at h
    · cases h
      rfl
    · split at h
      · cases h
        trivial
      · cases h
        exact Number.isSome_integerText?_signedValue hdigits (by omega)

theorem isPlain_wordTokens {cs : List Char} : ∀ t ∈ wordTokens cs, t.IsPlain := by
  intro t ht
  unfold wordTokens at ht
  split at ht
  next v hv =>
    rw [List.mem_singleton.mp ht]
    exact isPlain_wordValue? hv
  next =>
    split at ht
    next token hsplit =>
      rw [List.mem_singleton.mp ht]
      exact isPlain_splitNumber? hsplit
    next token rest _ hsplit =>
      rcases List.mem_cons.mp ht with rfl | ht
      · exact isPlain_splitNumber? hsplit
      · rw [List.mem_singleton.mp ht]
        trivial
    next =>
      rw [List.mem_singleton.mp ht]
      trivial

theorem isPlain_textToken (body : List Char) : (textToken body).IsPlain := by
  unfold textToken
  split <;> trivial

theorem isPlain_openToken (c : Char) : ∀ t ∈ (openToken c).1, t.IsPlain := by
  unfold openToken
  split
  case h_12 => split <;> simp [Token.IsPlain]
  all_goals simp [Token.IsPlain]

theorem isPlain_tokensFrom (scan : Scan) (cs : List Char) :
    ∀ t ∈ tokensFrom scan cs, t.IsPlain := by
  fun_induction tokensFrom scan cs with
  | case1 => exact List.forall_mem_nil _
  | case2 seen => exact isPlain_wordTokens
  | case3 => exact List.forall_mem_singleton.mpr trivial
  | case4 c rest out scan hopen ih =>
      have hout : ∀ t ∈ out, t.IsPlain := by
        simpa [hopen] using isPlain_openToken c
      exact List.forall_mem_append.mpr ⟨hout, ih⟩
  | case5 seen c rest _ ih => exact ih
  | case6 seen c rest _ out scan hopen ih =>
      have hout : ∀ t ∈ out, t.IsPlain := by
        simpa [hopen] using isPlain_openToken c
      exact List.forall_mem_append.mpr
        ⟨isPlain_wordTokens, List.forall_mem_append.mpr ⟨hout, ih⟩⟩
  | case7 seen c rest ih => exact ih
  | case8 seen rest ih => exact List.forall_mem_cons.mpr ⟨isPlain_textToken _, ih⟩
  | case9 seen c rest _ ih => exact ih

/-! ## The reader

Each token that the reader takes leaves it with values that have a text, in its open containers and
in its stage. -/

/-- The values in an open container have a text. -/
def Frame.HasText : Frame → Prop
  | .array items => ∀ v ∈ items, v.HasText
  | .object members _ => ∀ m ∈ members, m.2.HasText

/-- The values that a stage carries have a text. -/
def Stage.HasText : Stage → Prop
  | .key members | .colon members _ => ∀ m ∈ members, m.2.HasText
  | .after v => v.HasText
  | _ => True

variable {limit : Nat}

namespace Reading

/-- All values that have been read have a text. -/
structure HasText (r : Reading) : Prop where
  stage : r.stage.HasText
  frames : ∀ f ∈ r.frames, f.HasText

theorem hasText_start : start.HasText := ⟨trivial, List.forall_mem_nil _⟩

theorem hasText_takeValue {frames : List Frame} {t : Token} {r : Reading}
    (hframes : ∀ f ∈ frames, f.HasText) (ht : t.IsPlain) (h : takeValue limit frames t = .ok r) :
    r.HasText := by
  cases t with
  | openArray =>
      simp only [takeValue] at h
      split at h <;> cases h
      exact ⟨trivial, List.forall_mem_cons.mpr ⟨List.forall_mem_nil _, hframes⟩⟩
  | openObject =>
      simp only [takeValue] at h
      split at h <;> cases h
      exact ⟨trivial, hframes⟩
  | scalar v =>
      cases h
      exact ⟨ht.hasText, hframes⟩
  | text units =>
      cases h
      exact ⟨rfl, hframes⟩
  | _ => cases h

theorem hasText_takeAfter {v : Json} {frames : List Frame} {t : Token} {r : Reading}
    (hv : v.HasText) (hframes : ∀ f ∈ frames, f.HasText) (h : takeAfter v frames t = .ok r) :
    r.HasText := by
  cases frames with
  | nil => cases h
  | cons frame frames =>
      obtain ⟨hframe, hrest⟩ := List.forall_mem_cons.mp hframes
      cases frame with
      | array items =>
          have hitems : ∀ w ∈ v :: items, w.HasText := List.forall_mem_cons.mpr ⟨hv, hframe⟩
          cases t <;> cases h
          · exact ⟨hasText_array.mpr (fun w hw => hitems w (List.mem_reverse.mp hw)), hrest⟩
          · exact ⟨trivial, List.forall_mem_cons.mpr ⟨hitems, hrest⟩⟩
      | object members key =>
          have hmembers : ∀ m ∈ put members key v, m.2.HasText := forall_mem_put hv hframe
          cases t <;> cases h
          · exact ⟨hasText_object.mpr hmembers, hrest⟩
          · exact ⟨hmembers, hrest⟩

/-- What a step keeps. -/
theorem hasText_take {r r' : Reading} {t : Token} (hr : r.HasText) (ht : t.IsPlain)
    (h : r.take limit t = .ok r') : r'.HasText := by
  obtain ⟨stage, frames⟩ := r
  obtain ⟨hstage, hframes⟩ := hr
  cases stage with
  | value => exact hasText_takeValue hframes ht h
  | firstItem =>
      rcases take_firstItem frames t with ⟨items, rest, rfl, rfl, hok⟩ | hval
      · cases hok.symm.trans h
        exact ⟨hasText_array.mpr (List.forall_mem_nil _), (List.forall_mem_cons.mp hframes).2⟩
      · exact hasText_takeValue hframes ht (hval ▸ h)
  | firstKey =>
      cases t <;> cases h
      · exact ⟨hasText_object.mpr (List.forall_mem_nil _), hframes⟩
      · exact ⟨List.forall_mem_nil _, hframes⟩
  | key members =>
      cases t <;> cases h
      exact ⟨hstage, hframes⟩
  | colon members key =>
      cases t <;> cases h
      exact ⟨trivial, List.forall_mem_cons.mpr ⟨hstage, hframes⟩⟩
  | after v => exact hasText_takeAfter hstage hframes h

end Reading

/-- A value that is read has a text. -/
theorem hasText_of_read {cs : List Char} {v : Json} (h : read limit cs = .ok v) : v.HasText := by
  obtain ⟨r, hrun, hfinish⟩ := ofTokens_eq_ok_iff.mp h
  have hr : r.HasText := Outcome.foldlM_invariant
    (fun _ t _ ht hr hstep => Reading.hasText_take hr (isPlain_tokensFrom .between cs t ht) hstep)
    Reading.hasText_start hrun
  obtain ⟨stage, frames⟩ := r
  cases stage with
  | after w =>
      cases frames <;> cases hfinish
      exact hr.stage
  | _ => cases hfinish

end Winnow.Json
