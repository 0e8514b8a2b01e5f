/-
Pieces — splitting a text at a character, and at its first occurrence.
-/

namespace Winnow.Text

/-- The pieces between the occurrences of a character, of which there is at least one. -/
def pieces (mark : Char) : List Char → List (List Char)
  | [] => [[]]
  | c :: rest =>
    if c = mark then [] :: pieces mark rest
    else match pieces mark rest with
      | piece :: later => (c :: piece) :: later
      | [] => [[c]]

/-- There is at least one piece. -/
theorem pieces_ne_nil (mark : Char) (cs : List Char) : pieces mark cs ≠ [] := by
  cases cs with
  | nil => simp [pieces]
  | cons c rest =>
    unfold pieces
    split
    case isTrue => simp
    case isFalse => split <;> simp

/-- The pieces with the character between them are the text again. -/
theorem intercalate_pieces (mark : Char) (cs : List Char) :
    List.intercalate [mark] (pieces mark cs) = cs := by
  induction cs with
  | nil => rfl
  | cons c rest ih =>
    unfold pieces
    split
    case isTrue h =>
      obtain ⟨piece, later, hp⟩ := List.exists_cons_of_ne_nil (pieces_ne_nil mark rest)
      rw [hp] at ih ⊢
      simp [List.intercalate, List.intersperse, h] at ih ⊢
      exact ih
    case isFalse h =>
      split
      case h_1 piece later hp =>
        rw [hp] at ih
        cases later <;> simp [List.intercalate, List.intersperse] at ih ⊢ <;> exact ih
      case h_2 hp => exact absurd hp (pieces_ne_nil mark rest)

/-- What stands before the first character that satisfies `p`, and from there on. -/
def splitBefore (p : Char → Bool) (cs : List Char) : List Char × List Char :=
  cs.span fun c => !p c

/-- What stands before and after the first occurrence of a character. -/
def cutAt (mark : Char) (cs : List Char) : List Char × Option (List Char) :=
  match splitBefore (· = mark) cs with
  | (before, []) => (before, none)
  | (before, _ :: after) => (before, some after)

end Winnow.Text
