/-
# `Decoded` — which decoded values are clauses

A filter is checked as a whole before any clause is made of it, and the two must agree: the faults
that are looked for are exactly what would keep an element from making a clause.  They do, for every
value (`Clause.ofJson_eq_ok_iff`).  What else can come of a value depends on whether the value at
fault can be shown; one that was decoded from a text always can.
-/
import Winnow.Proofs.Filter.Shape
import Winnow.Proofs.Json.Depth

namespace Winnow

/-- The value is an array, and each element an object with a text for its id and the name of a
condition. -/
def IsClauseArray (v : Json) : Prop :=
  ∃ items, v = .array items ∧ ∀ item ∈ items, ∃ members, item = .object members ∧
    (∃ id, members.lookup "id" = some (.string id)) ∧
    ∃ c : Condition, members.lookup "condition" = some (.string c.name)

/-- An element writes a clause if it has an id and a condition; it may do without a value. -/
theorem exists_writesClause_iff {element : Json} : (∃ c, WritesClause element c) ↔
    ∃ members, element = .object members ∧
      (∃ id, members.lookup "id" = some (.string id)) ∧
      ∃ c : Condition, members.lookup "condition" = some (.string c.name) := by
  constructor
  · rintro ⟨c, members, rfl, hid, hname, -⟩
    exact ⟨members, rfl, ⟨c.id, hid⟩, c.condition, hname⟩
  · rintro ⟨members, rfl, ⟨id, hid⟩, condition, hname⟩
    exact ⟨⟨id, condition, members.lookup "value"⟩, members, rfl, hid, hname, rfl⟩

/-- The clauses of a value are those that its elements write, one by one. -/
theorem Clause.ofJson_eq_ok_iff {v : Json} {cs : List Clause} : Clause.ofJson v = .ok cs ↔
    ∃ items, v = .array items ∧ List.Forall₂ WritesClause items cs := by
  constructor
  · intro h
    have hfaults : filterFaults v = [] := by
      unfold Clause.ofJson at h
      dsimp only at h
      split at h
      · cases h
      · split at h
        · cases h
        · next hnone => simpa using hnone
    cases v with
    | array items =>
        obtain ⟨written, hwritten⟩ :=
          forall₂_of_elementFaults (List.flatMap_eq_nil_iff.mp hfaults)
        cases (ofJson_of_writes hwritten).symm.trans h
        exact ⟨items, rfl, hwritten⟩
    | _ => cases hfaults
  · rintro ⟨items, rfl, hwritten⟩
    exact ofJson_of_writes hwritten

theorem exists_ofJson_iff {v : Json} : (∃ cs, Clause.ofJson v = .ok cs) ↔ IsClauseArray v := by
  simp only [Clause.ofJson_eq_ok_iff, IsClauseArray, ← exists_writesClause_iff]
  rw [exists_comm]
  refine exists_congr fun items => ?_
  rw [exists_and_left, Outcome.exists_forall₂_iff]

/-- A value makes clauses exactly if it is an array of objects with an id and a condition each, and
then they are the elements themselves: id, condition, and the value, null or left out as it is
there.  Any other value that is decoded from a text has the wrong shape, a text as well as all
else. -/
theorem decoded_value_is_clauses_iff [Limits] (v : Json) :
    ((∃ cs, Clause.ofJson v = .ok cs) ↔ IsClauseArray v) ∧
    (∀ cs, Clause.ofJson v = .ok cs ↔
      ∃ items, v = .array items ∧ List.Forall₂ WritesClause items cs) ∧
    ∀ text, Json.read Limits.filters text.toList = .ok v →
      (¬ IsClauseArray v → Clause.ofJson v = .error .wrongShape) ∧
      Clause.read text = Clause.ofJson v ∧
      ∀ s, v = .string s → Clause.read text = .error .wrongShape := by
  refine ⟨exists_ofJson_iff, fun _ => Clause.ofJson_eq_ok_iff, fun text hread => ?_⟩
  have hshape : ¬ IsClauseArray v → Clause.ofJson v = .error .wrongShape := by
    intro hnot
    rcases ofJson_of_hasText (Json.hasText_of_read hread) with ⟨items, cs, rfl, hcs⟩ | hwrong
    · exact absurd (exists_ofJson_iff.mp ⟨cs, ofJson_of_writes hcs⟩) hnot
    · exact hwrong
  have hsame : Clause.read text = Clause.ofJson v := by
    rw [Clause.read, hread]
  refine ⟨hshape, hsame, ?_⟩
  rintro s rfl
  rw [hsame]
  refine hshape ?_
  rintro ⟨items, hitems, -⟩
  cases hitems

set_option maxRecDepth 2000 in
/-- A value that is left out stays apart from null, and a member of another name does not count. -/
theorem null_is_not_left_out :
    let _ : Limits := .usual
    let text := "[\x7b\"id\":\"q\",\"condition\":\"equals\"\x7d,"
      ++ "\x7b\"note\":1,\"value\":null,\"condition\":\"less_than\",\"id\":\"r\"\x7d]"
    let v : Json := .array [.object [("id", .string "q"), ("condition", .string "equals")],
      .object [("note", .ofInt 1), ("value", .null), ("condition", .string "less_than"),
        ("id", .string "r")]]
    Json.read Limits.filters text.toList = .ok v ∧
      Clause.read text = .ok [⟨"q", .equals, none⟩, ⟨"r", .less, some .null⟩] := by
  intro limits text v
  have hread : Json.read 980 text.toList = .ok v := by cbv
  obtain ⟨-, hclauses, htext⟩ := decoded_value_is_clauses_iff v
  refine ⟨hread, (htext text hread).2.1.trans ((hclauses _).mpr ⟨_, rfl, ?_⟩)⟩
  exact .cons ⟨_, rfl, rfl, rfl, rfl⟩ (.cons ⟨_, rfl, rfl, rfl, rfl⟩ .nil)

end Winnow
