/-
# `Shape` — which texts write the clauses of a filter

`WritesClauses text cs` says what it means for a text to write the clauses `cs`, member by member
and without a word about faults: the text is the JSON text of an array, and each element is an
object with an id, the name of a condition and perhaps a value.  The reader is shown to agree: it
gives `cs` exactly for the texts that write them, refuses all other texts as an invalid query, and
does neither only where a limit is met (`IsSettled`): by the reader of JSON, or by the log, which
shows what is wrong with a text that is read but has the wrong shape.

That the fault `unshowable` never comes from a text is not obvious from the reader, which would have
to show the value at fault: it rests on `Json.hasText_of_read`.
-/
import Mathlib
import Winnow.Filter.Field
import Winnow.Proofs.Json.Texts

namespace Winnow

theorem Condition.ofName?_eq_some_iff {s : String} {c : Condition} :
    Condition.ofName? s = some c ↔ s = c.name := by
  constructor
  · intro h
    unfold Condition.ofName? at h
    split at h <;> cases h <;> rfl
  · intro h
    rw [h, Condition.ofName?_name]

/-! ## What writes a clause -/

/-- The element writes the clause; members of other names do not count. -/
def WritesClause (element : Json) (c : Clause) : Prop :=
  ∃ members, element = .object members ∧ members.lookup "id" = some (.string c.id) ∧
    members.lookup "condition" = some (.string c.condition.name) ∧
    members.lookup "value" = c.value

section

variable [Limits]

/-- The text writes the clauses. -/
def WritesClauses (text : String) (cs : List Clause) : Prop :=
  ∃ items, Json.read Limits.filters text.toList = .ok (.array items) ∧
    List.Forall₂ WritesClause items cs

/-- The text is that of an array of clauses. -/
def IsClauseText (text : String) : Prop := ∃ cs, WritesClauses text cs

/-- The reader of JSON stops at a limit before it comes to the end of the text or to a fault. -/
def StopsAtLimit (text : String) : Prop :=
  Json.MeetsLimit Limits.filters (Json.tokens text.toList)

/-- The text is JSON, but not that of an array of clauses. -/
def IsMisshapen (text : String) : Prop :=
  (∃ v, Json.read Limits.filters text.toList = .ok v) ∧ ¬ IsClauseText text

/-- No limit keeps the text from being read or refused: the reader of JSON does not stop at one, and
if the text has the wrong shape, the refusal can be logged. -/
def IsSettled (text : String) : Prop :=
  ¬ StopsAtLimit text ∧ (IsMisshapen text → Limits.logs text = true)

/-- The field for filters holds the clauses.  Without a text it holds none. -/
inductive HoldsClauses : Option String → List Clause → Prop
  | missing : HoldsClauses none []
  | empty : HoldsClauses (some "") []
  | written {text : String} {cs : List Clause} : text ≠ "" → WritesClauses text cs →
      HoldsClauses (some text) cs

theorem stopsAtLimit_iff {text : String} : StopsAtLimit text ↔
    Json.read Limits.filters text.toList = .error .longInteger ∨
      Json.read Limits.filters text.toList = .error .tooDeep :=
  Json.meetsLimit_iff

/-- A text of too many digits stops the reader. -/
theorem stopsAtLimit_of_digits {digit : Char} {digits : List Char} (hzero : digit ≠ '0')
    (h : ∀ c ∈ digit :: digits, c.isDigit) (hlen : Number.digitLimit ≤ digits.length) :
    StopsAtLimit (String.ofList (digit :: digits)) := by
  rw [stopsAtLimit_iff, String.toList_ofList]
  exact Or.inl (Json.read_of_digits hzero h hlen)

theorem not_stopsAtLimit_empty : ¬ StopsAtLimit "" := by
  rintro ⟨before, t, after, h, -⟩
  cases before <;> cases h

end

/-! ## Elements -/

theorem ofElement?_eq_some_iff {element : Json} {c : Clause} :
    Clause.ofElement? element = some c ↔ WritesClause element c := by
  constructor
  · intro h
    unfold Clause.ofElement? at h
    split at h
    next members =>
      split at h
      next id name hid hname =>
        obtain ⟨condition, hc, h⟩ := Option.bind_eq_some_iff.mp h
        cases h
        rw [Condition.ofName?_eq_some_iff.mp hc] at hname
        exact ⟨members, rfl, hid, hname, rfl⟩
      next => cases h
    next => cases h
  · rintro ⟨members, rfl, hid, hname, hvalue⟩
    simp only [Clause.ofElement?, hid, hname, Condition.ofName?_name, hvalue]
    rfl

theorem elementFaults_eq_nil {element : Json} {c : Clause} (h : WritesClause element c) :
    elementFaults element = [] := by
  obtain ⟨members, rfl, hid, hname, -⟩ := h
  simp [elementFaults, hid, hname, Condition.ofName?_name]

theorem exists_clause_of_elementFaults {element : Json} (h : elementFaults element = []) :
    ∃ c, WritesClause element c := by
  unfold elementFaults at h
  split at h
  next members =>
    obtain ⟨hid, hname⟩ := List.append_eq_nil_iff.mp h
    split at hid
    next id hid' =>
      split at hname
      next name hname' =>
        split at hname
        next hsome =>
          obtain ⟨condition, hc⟩ := Option.isSome_iff_exists.mp hsome
          rw [Condition.ofName?_eq_some_iff.mp hc] at hname'
          exact ⟨⟨id, condition, members.lookup "value"⟩, members, rfl, hid', hname', rfl⟩
        next => cases hname
      next => cases hname
      next => cases hname
    next => cases hid
    next => cases hid
  next => cases h

/-! ## Faults -/

theorem ofValue_of_hasText {v : Json} (h : v.HasText) : ClauseFault.ofValue v = .wrongShape :=
  if_pos h

/-- An element with a text can always be shown. -/
theorem elementFaults_of_hasText {element : Json} (h : element.HasText) :
    ∀ fault ∈ elementFaults element, fault = .wrongShape := by
  unfold elementFaults
  split
  next members =>
    refine List.forall_mem_append.mpr ⟨?_, ?_⟩
    · split
      · exact List.forall_mem_nil _
      · next v hv =>
        exact List.forall_mem_singleton.mpr (ofValue_of_hasText (Json.hasText_of_lookup h hv))
      · exact List.forall_mem_singleton.mpr rfl
    · split
      · split
        · exact List.forall_mem_nil _
        · exact List.forall_mem_singleton.mpr rfl
      · next v hv =>
        exact List.forall_mem_singleton.mpr (ofValue_of_hasText (Json.hasText_of_lookup h hv))
      · exact List.forall_mem_singleton.mpr rfl
  next => exact List.forall_mem_singleton.mpr (ofValue_of_hasText h)

theorem filterFaults_of_hasText {v : Json} (h : v.HasText) :
    ∀ fault ∈ filterFaults v, fault = .wrongShape := by
  cases v with
  | array items =>
      intro fault hfault
      obtain ⟨item, hitem, hfault⟩ := List.mem_flatMap.mp hfault
      exact elementFaults_of_hasText (Json.hasText_array.mp h item hitem) fault hfault
  | _ => exact List.forall_mem_singleton.mpr (ofValue_of_hasText h)

/-! ## The whole filter -/

theorem filterMap_ofElement? {items : List Json} {cs : List Clause}
    (h : List.Forall₂ WritesClause items cs) : items.filterMap Clause.ofElement? = cs := by
  induction h with
  | nil => rfl
  | cons hc _ ih => rw [List.filterMap_cons_some (ofElement?_eq_some_iff.mpr hc), ih]

theorem forall₂_of_elementFaults {items : List Json}
    (h : ∀ item ∈ items, elementFaults item = []) :
    ∃ cs, List.Forall₂ WritesClause items cs :=
  Outcome.exists_forall₂_iff.mpr fun item hitem => exists_clause_of_elementFaults (h item hitem)

theorem filterFaults_eq_nil {items : List Json} {cs : List Clause}
    (h : List.Forall₂ WritesClause items cs) : filterFaults (.array items) = [] := by
  induction h with
  | nil => rfl
  | cons hc _ ih =>
      rw [filterFaults, List.flatMap_cons, elementFaults_eq_nil hc]
      exact ih

theorem ofJson_of_writes {items : List Json} {cs : List Clause}
    (h : List.Forall₂ WritesClause items cs) : Clause.ofJson (.array items) = .ok cs := by
  rw [Clause.ofJson, filterFaults_eq_nil h, filterMap_ofElement? h]
  rfl

/-- A value with a text is that of clauses, or it has the wrong shape. -/
theorem ofJson_of_hasText {v : Json} (h : v.HasText) :
    (∃ items cs, v = .array items ∧ List.Forall₂ WritesClause items cs) ∨
      Clause.ofJson v = .error .wrongShape := by
  have hfaults := filterFaults_of_hasText h
  cases hlist : filterFaults v with
  | nil =>
      cases v with
      | array items =>
          obtain ⟨cs, hcs⟩ := forall₂_of_elementFaults (List.flatMap_eq_nil_iff.mp hlist)
          exact Or.inl ⟨items, cs, rfl, hcs⟩
      | _ => cases hlist
  | cons fault rest =>
      refine Or.inr ?_
      have hshown : (filterFaults v).contains .unshowable = false := by
        rw [List.contains_eq_mem, decide_eq_false_iff_not]
        intro hmem
        cases hfaults _ hmem
      have hsome : (!(filterFaults v).isEmpty) = true := by
        rw [hlist]
        rfl
      unfold Clause.ofJson
      rw [if_neg (Bool.eq_false_iff.mp hshown), if_pos hsome]

/-! ## The field -/

section

variable [Limits]

theorem readField_some {text : String} (h : text ≠ "") :
    Clause.readField (some text) = (Clause.read text).mapError (.ofClauseFault text) := by
  have hempty : text.isEmpty = false := by simpa using h
  rw [Clause.readField, hempty]
  rfl

theorem readField_eq_ok {text : String} {cs : List Clause} (hne : text ≠ "")
    (h : WritesClauses text cs) : Clause.readField (some text) = .ok cs := by
  obtain ⟨items, hread, hcs⟩ := h
  rw [readField_some hne, Clause.read, hread]
  simp only [ofJson_of_writes hcs]
  rfl

theorem not_stopsAtLimit_of_read {text : String} {v : Json}
    (h : Json.read Limits.filters text.toList = .ok v) : ¬ StopsAtLimit text := by
  rw [stopsAtLimit_iff, h]
  rintro (h | h) <;> cases h

/-- What comes of a text, and the condition for each outcome.  Only one can hold, since the text
that writes clauses is read to its end. -/
theorem readField_cases {text : String} (hne : text ≠ "") :
    (∃ cs, WritesClauses text cs ∧ Clause.readField (some text) = .ok cs) ∨
      (¬ IsClauseText text ∧ IsSettled text ∧
        Clause.readField (some text) = .error .invalid) ∨
      ¬ IsClauseText text ∧ ¬ IsSettled text ∧
        ∃ fault, fault ≠ .invalid ∧ Clause.readField (some text) = .error fault := by
  cases hread : Json.read Limits.filters text.toList with
  | error u =>
      have hnot : ¬ IsClauseText text := by
        rintro ⟨_, _, hitems, _⟩
        cases hread.symm.trans hitems
      have hshape : ¬ IsMisshapen text := by
        rintro ⟨⟨_, hv⟩, _⟩
        cases hread.symm.trans hv
      have hfield : Clause.readField (some text)
          = .error (.ofClauseFault text (.unreadable u)) := by
        rw [readField_some hne, Clause.read, hread]
        rfl
      rw [IsSettled, stopsAtLimit_iff, hread, hfield]
      cases u with
      | malformed => exact Or.inr (Or.inl ⟨hnot, ⟨by simp, fun h => absurd h hshape⟩, rfl⟩)
      | longInteger =>
          exact Or.inr (Or.inr ⟨hnot, fun h => h.1 (Or.inl rfl), .stopped _, nofun, rfl⟩)
      | tooDeep =>
          exact Or.inr (Or.inr ⟨hnot, fun h => h.1 (Or.inr rfl), .stopped _, nofun, rfl⟩)
  | ok v =>
      have hreads := not_stopsAtLimit_of_read hread
      rcases ofJson_of_hasText (Json.hasText_of_read hread) with ⟨items, cs, rfl, hcs⟩ | hfault
      · exact Or.inl ⟨cs, ⟨items, hread, hcs⟩, readField_eq_ok hne ⟨items, hread, hcs⟩⟩
      have hnot : ¬ IsClauseText text := by
        rintro ⟨cs, items, hitems, hcs⟩
        cases hread.symm.trans hitems
        cases (ofJson_of_writes hcs).symm.trans hfault
      have hfield : Clause.readField (some text)
          = .error (.ofClauseFault text .wrongShape) := by
        rw [readField_some hne, Clause.read, hread]
        simp only [hfault]
        rfl
      rw [hfield, FieldFault.ofClauseFault]
      by_cases hlogs : Limits.logs text = true
      · exact Or.inr (Or.inl ⟨hnot, ⟨hreads, fun _ => hlogs⟩, by rw [if_pos hlogs]⟩)
      · exact Or.inr (Or.inr ⟨hnot, fun h => hlogs (h.2 ⟨⟨v, hread⟩, hnot⟩), .unlogged, nofun,
          by rw [if_neg hlogs]⟩)

/-- The reader of the field gives the clauses that it holds. -/
theorem readField_eq_ok_iff {field : Option String} {cs : List Clause} :
    Clause.readField field = .ok cs ↔ HoldsClauses field cs := by
  constructor
  · intro h
    cases field with
    | none =>
        cases h
        exact .missing
    | some text =>
        by_cases hne : text = ""
        · subst hne
          cases h
          exact .empty
        · rcases readField_cases hne with ⟨_, hcs, hread⟩ | ⟨-, -, hread⟩ | ⟨-, -, _, -, hread⟩
          · cases hread.symm.trans h
            exact .written hne hcs
          · cases hread.symm.trans h
          · cases hread.symm.trans h
  · rintro (_ | _ | ⟨hne, hcs⟩)
    · rfl
    · rfl
    · exact readField_eq_ok hne hcs

/-- A field that holds no clauses has a text, and that is not the text of clauses. -/
theorem exists_text_of_not_holds {field : Option String} (h : ¬ ∃ cs, HoldsClauses field cs) :
    ∃ text, field = some text ∧ text ≠ "" ∧ ¬ IsClauseText text := by
  cases field with
  | none => exact absurd ⟨[], .missing⟩ h
  | some text =>
      have hne : text ≠ "" := by
        rintro rfl
        exact h ⟨[], .empty⟩
      exact ⟨text, rfl, hne, fun ⟨cs, hcs⟩ => h ⟨cs, .written hne hcs⟩⟩

theorem isSettled_of_isClauseText {text : String} (h : IsClauseText text) : IsSettled text := by
  obtain ⟨_, _, hread, _⟩ := id h
  exact ⟨not_stopsAtLimit_of_read hread, fun hshape => absurd h hshape.2⟩

theorem isSettled_empty : IsSettled "" := by
  refine ⟨not_stopsAtLimit_empty, ?_⟩
  rintro ⟨⟨_, hread⟩, -⟩
  cases hread

/-- Reading the field fails in another way than by refusing it exactly if a limit is met. -/
theorem exists_fault_iff {text : String} :
    (∃ fault, fault ≠ .invalid ∧ Clause.readField (some text) = .error fault) ↔
      ¬ IsSettled text := by
  by_cases hne : text = ""
  · subst hne
    constructor
    · rintro ⟨_, -, h⟩
      cases h
    · exact fun h => absurd isSettled_empty h
  · rcases readField_cases hne with ⟨cs, hcs, hread⟩ | ⟨-, hsettled, hread⟩ | ⟨-, hnot, hread⟩
    · rw [hread]
      constructor
      · rintro ⟨_, -, h⟩
        cases h
      · exact fun h => absurd (isSettled_of_isClauseText ⟨cs, hcs⟩) h
    · rw [hread]
      constructor
      · rintro ⟨_, hother, h⟩
        cases h
        exact absurd rfl hother
      · exact fun h => absurd hsettled h
    · exact ⟨fun _ => hnot, fun _ => hread⟩

end

end Winnow
