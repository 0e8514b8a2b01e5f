/-
# `Depth` — a value is nested no deeper than its text

How deeply a text is nested is the number of brackets that are open in it at once (`NestedWithin`),
and what is read from it is nested no deeper (`depth_le_of_ofTokens`).  The reader makes containers
from the inside out, so while they are open what bounds the values in them is the number of frames
around them: `Reading.IsWithin` asks of every value that the reader holds that it fits into the frames
below it, and a token that does not open too many containers keeps that (`isWithin_take`).  Bounding
the values alone would not do, since a value that is shallow now ends up inside all the frames.
-/
import Mathlib
import Winnow.Limits
import Winnow.Proofs.Json.Texts

namespace Winnow

namespace Json

/-! ## Depth -/

mutual

/-- How deeply containers are nested in a value; an empty one counts. -/
def depth : Json → Nat
  | .array items => depthOfItems items + 1
  | .object members => depthOfMembers members + 1
  | _ => 0

/-- The depth of the deepest item. -/
def depthOfItems : List Json → Nat
  | [] => 0
  | item :: rest => max (depth item) (depthOfItems rest)

/-- The depth of the deepest value of a member. -/
def depthOfMembers : List (String × Json) → Nat
  | [] => 0
  | (_, value) :: rest => max (depth value) (depthOfMembers rest)

end

theorem depthOfItems_le_iff {n : Nat} :
    ∀ {items : List Json}, depthOfItems items ≤ n ↔ ∀ item ∈ items, item.depth ≤ n
  | [] => by simp [depthOfItems]
  | item :: rest => by
      rw [depthOfItems, max_le_iff, depthOfItems_le_iff, List.forall_mem_cons]

theorem depthOfMembers_le_iff {n : Nat} :
    ∀ {members : List (String × Json)}, depthOfMembers members ≤ n ↔ ∀ m ∈ members, m.2.depth ≤ n
  | [] => by simp [depthOfMembers]
  | (key, value) :: rest => by
      rw [depthOfMembers, max_le_iff, depthOfMembers_le_iff, List.forall_mem_cons]

theorem depth_array_le_iff {items : List Json} {n : Nat} :
    (array items).depth ≤ n + 1 ↔ ∀ item ∈ items, item.depth ≤ n := by
  rw [depth, Nat.add_le_add_iff_right, depthOfItems_le_iff]

theorem depth_object_le_iff {members : List (String × Json)} {n : Nat} :
    (object members).depth ≤ n + 1 ↔ ∀ m ∈ members, m.2.depth ≤ n := by
  rw [depth, Nat.add_le_add_iff_right, depthOfMembers_le_iff]

theorem IsPlain.depth_eq_zero {v : Json} (h : v.IsPlain) : v.depth = 0 := by
  cases v with
  | array _ | object _ => cases h
  | _ => rfl

/-- A member is not as deep as its object. -/
theorem depth_get_le {members : List (String × Json)} {n : Nat} (key : String)
    (h : (object members).depth ≤ n + 1) : (get members key).depth ≤ n := by
  rw [get]
  cases hv : members.lookup key with
  | none => exact Nat.zero_le n
  | some v =>
      obtain ⟨before, after, rfl, -⟩ := List.lookup_eq_some_iff.mp hv
      exact depth_object_le_iff.mp h (key, v) (List.mem_append_right before List.mem_cons_self)

/-! ## What the reader holds -/

variable {limit bound : Nat}

/-- What is in an open container fits into it and the containers around it, which are `around`
together. -/
def Frame.IsWithin (bound around : Nat) : Frame → Prop
  | .array items => ∀ item ∈ items, item.depth + around ≤ bound
  | .object members _ => ∀ m ∈ members, m.2.depth + around ≤ bound

/-- The open containers fit, with what is in each of them. -/
def FramesWithin (bound : Nat) : List Frame → Prop
  | [] => True
  | frame :: rest =>
    rest.length + 1 ≤ bound ∧ frame.IsWithin bound (rest.length + 1) ∧ FramesWithin bound rest

/-- What a stage carries fits into the open containers; between two members an object has no frame
and counts itself. -/
def Stage.IsWithin (bound around : Nat) : Stage → Prop
  | .firstKey => around + 1 ≤ bound
  | .key members | .colon members _ =>
    around + 1 ≤ bound ∧ ∀ m ∈ members, m.2.depth + (around + 1) ≤ bound
  | .after v => v.depth + around ≤ bound
  | _ => True

/-- A closed array fits if it fitted while it was open. -/
theorem depth_array_add_le {items : List Json} {around : Nat} (hopen : around + 1 ≤ bound)
    (h : ∀ item ∈ items, item.depth + (around + 1) ≤ bound) :
    (array items).depth + around ≤ bound := by
  have hdeep : (array items).depth ≤ bound - (around + 1) + 1 :=
    depth_array_le_iff.mpr fun item hitem => Nat.le_sub_of_add_le (h item hitem)
  omega

/-- A closed object fits if it fitted while it was open. -/
theorem depth_object_add_le {members : List (String × Json)} {around : Nat}
    (hopen : around + 1 ≤ bound) (h : ∀ m ∈ members, m.2.depth + (around + 1) ≤ bound) :
    (object members).depth + around ≤ bound := by
  have hdeep : (object members).depth ≤ bound - (around + 1) + 1 :=
    depth_object_le_iff.mpr fun m hm => Nat.le_sub_of_add_le (h m hm)
  omega

namespace Reading

/-- All that the reader holds fits below the bound. -/
structure IsWithin (bound : Nat) (r : Reading) : Prop where
  stage : r.stage.IsWithin bound r.frames.length
  frames : FramesWithin bound r.frames

theorem isWithin_start : start.IsWithin bound := ⟨trivial, trivial⟩

theorem isWithin_takeValue {frames : List Frame} {t : Token} {r : Reading}
    (hframes : FramesWithin bound frames) (hopen : frames.length ≤ bound) (ht : t.IsPlain)
    (h : takeValue limit frames t = .ok r) (hdepth : r.depth ≤ bound) : r.IsWithin bound := by
  cases t with
  | openArray =>
      simp only [takeValue] at h
      split at h <;> cases h
      exact ⟨trivial, hdepth, List.forall_mem_nil _, hframes⟩
  | openObject =>
      simp only [takeValue] at h
      split at h <;> cases h
      exact ⟨hdepth, hframes⟩
  | scalar v =>
      cases h
      refine ⟨?_, hframes⟩
      rw [Stage.IsWithin, ht.depth_eq_zero, Nat.zero_add]
      exact hopen
  | text units =>
      cases h
      refine ⟨?_, hframes⟩
      exact (Nat.zero_add _).le.trans hopen
  | _ => cases h

theorem isWithin_takeAfter {v : Json} {frames : List Frame} {t : Token} {r : Reading}
    (hv : v.depth + frames.length ≤ bound) (hframes : FramesWithin bound frames)
    (h : takeAfter v frames t = .ok r) : r.IsWithin bound := by
  cases frames with
  | nil => cases h
  | cons frame frames =>
      obtain ⟨hopen, hframe, hrest⟩ := hframes
      cases frame with
      | array items =>
          have hitems : ∀ w ∈ v :: items, w.depth + (frames.length + 1) ≤ bound :=
            List.forall_mem_cons.mpr ⟨hv, hframe⟩
          cases t <;> cases h
          · refine ⟨depth_array_add_le hopen ?_, hrest⟩
            exact fun w hw => hitems w (List.mem_reverse.mp hw)
          · exact ⟨trivial, hopen, hitems, hrest⟩
      | object members key =>
          have hmembers : ∀ m ∈ put members key v, m.2.depth + (frames.length + 1) ≤ bound :=
            forall_mem_put (p := fun w => w.depth + (frames.length + 1) ≤ bound) hv hframe
          cases t <;> cases h
          · exact ⟨depth_object_add_le hopen hmembers, hrest⟩
          · exact ⟨⟨hopen, hmembers⟩, hrest⟩

theorem length_le_of_framesWithin {frames : List Frame} (h : FramesWithin bound frames) :
    frames.length ≤ bound := by
  cases frames with
  | nil => exact Nat.zero_le bound
  | cons frame rest => exact h.1

/-- What a step keeps, if it does not open too many containers. -/
theorem isWithin_take {r r' : Reading} {t : Token} (hr : r.IsWithin bound) (ht : t.IsPlain)
    (h : r.take limit t = .ok r') (hdepth : r'.depth ≤ bound) : r'.IsWithin bound := by
  obtain ⟨stage, frames⟩ := r
  obtain ⟨hstage, hframes⟩ := hr
  have hopen := length_le_of_framesWithin hframes
  cases stage with
  | value => exact isWithin_takeValue hframes hopen ht h hdepth
  | firstItem =>
      rcases take_firstItem frames t with ⟨items, rest, rfl, rfl, hok⟩ | hval
      · cases hok.symm.trans h
        exact ⟨depth_array_add_le hopen (List.forall_mem_nil _), hframes.2.2⟩
      · exact isWithin_takeValue hframes hopen ht (hval ▸ h) hdepth
  | firstKey =>
      cases t <;> cases h
      · exact ⟨depth_object_add_le hstage (List.forall_mem_nil _), hframes⟩
      · exact ⟨⟨hstage, List.forall_mem_nil _⟩, hframes⟩
  | key members =>
      cases t <;> cases h
      exact ⟨hstage, hframes⟩
  | colon members key =>
      cases t <;> cases h
      exact ⟨trivial, hstage.1, hstage.2, hframes⟩
  | after v => exact isWithin_takeAfter hstage hframes h

end Reading

open Outcome Reading

/-- What a run keeps: the induction is on the tokens that are left, and the bound is on the containers
that are open after each of them. -/
theorem isWithin_of_run {r' : Reading} :
    ∀ (ts : List Token) (r : Reading), r.IsWithin bound → (∀ t ∈ ts, t.IsPlain) →
      (∀ before, before <+: ts → r.depth + openings before ≤ closings before + bound) →
      ts.foldlM (take limit) r = .ok r' → r'.IsWithin bound
  | [], r, hr, _, _, h => by
      cases h
      exact hr
  | t :: ts, r, hr, hplain, hnested, h => by
      obtain ⟨next, hstep, hrest⟩ := foldlM_cons_eq_ok_iff.mp h
      obtain ⟨ht, hts⟩ := List.forall_mem_cons.mp hplain
      have hmoved := depth_take hstep
      have hone := hnested [t] (List.prefix_append [t] ts)
      rw [openings_cons, closings_cons] at hone
      change r.depth + (0 + t.opens.toNat) ≤ 0 + t.closes.toNat + bound at hone
      refine isWithin_of_run ts next (isWithin_take hr ht hstep (by omega)) hts ?_ hrest
      intro before hbefore
      have hlater := hnested (t :: before) (List.cons_prefix_cons.mpr ⟨rfl, hbefore⟩)
      rw [openings_cons, closings_cons] at hlater
      omega

/-- A value is nested no deeper than the tokens that it is read from. -/
theorem depth_le_of_ofTokens {ts : List Token} {v : Json} (hplain : ∀ t ∈ ts, t.IsPlain)
    (hnested : NestedWithin bound ts) (h : ofTokens limit ts = .ok v) : v.depth ≤ bound := by
  obtain ⟨r, hrun, hfinish⟩ := ofTokens_eq_ok_iff.mp h
  have hr := isWithin_of_run ts start isWithin_start hplain
    (fun before hbefore => (Nat.zero_add _).le.trans (hnested before hbefore)) hrun
  obtain ⟨stage, frames⟩ := r
  cases stage with
  | after w =>
      cases frames <;> cases hfinish
      exact hr.stage
  | _ => cases hfinish

/-- A value is nested no deeper than its text. -/
theorem depth_le_of_read {cs : List Char} {v : Json} (hnested : NestedWithin bound (tokens cs))
    (h : read limit cs = .ok v) : v.depth ≤ bound :=
  depth_le_of_ofTokens (isPlain_tokensFrom .between cs) hnested h

end Json

/-! ## What a machine bears -/

namespace Limits

/-- What is nested no deeper than `depth` can be read, logged and shown. -/
structure Admit [Limits] (depth : Nat) : Prop where
  filters : depth ≤ Limits.filters
  reply : depth ≤ Limits.reply
  logs : ∀ text : String, Json.NestedWithin depth (Json.tokens text.toList) →
    Limits.logs text = true
  shows : ∀ responses, (Json.array responses).depth ≤ depth → Limits.shows responses = true

/-- The limits of an interpreter with a stack of about a thousand calls: the reader has most of it, the
log takes three calls for each container, and what shows responses stops at a depth of its own. -/
@[reducible]
def usual : Limits where
  filters := 980
  reply := 980
  logs text := Json.NestedWithin 300 (Json.tokens text.toList)
  shows responses := (Json.array responses).depth ≤ 254

theorem usual_admit :
    let _ : Limits := usual
    Admit 100 := by
  intro limits
  refine ⟨by decide, by decide, ?_, ?_⟩
  · intro text h
    exact decide_eq_true fun before hbefore => (h before hbefore).trans (by omega)
  · intro responses h
    exact decide_eq_true (h.trans (by decide))

end Limits

end Winnow
