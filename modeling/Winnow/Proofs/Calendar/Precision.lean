/-
# `Precision` — which texts have too many digits to be read as a date

A text in free form is given up, instead of found to be no date, where the fraction of an hour or a
minute has to be computed and the number has more whole digits than are computed with.  That is the
only step that fails so (`Computes` goes through all the others), and the digits stand in one
lexeme, so that a text with no more than 28 decimal digits is always read
(`DateTime.precision_lt_of_read`).
-/
import Winnow.Calendar.Reader
import Winnow.Proofs.Number.Digits
import Winnow.Proofs.Outcome

namespace Winnow

open Outcome

namespace FreeForm

/-! ## Digits of a lexeme -/

/-- The character is a decimal digit of some script. -/
def isDecimal (c : Char) : Bool := (Text.decimalValue? c).isSome

theorem decimalValue?_lt {c : Char} {d : Nat} (h : Text.decimalValue? c = some d) : d < 10 := by
  obtain ⟨z, hz, rfl⟩ := Option.map_eq_some_iff.mp h
  have hrange := List.find?_some hz
  simp only [Bool.and_eq_true, decide_eq_true_eq] at hrange
  omega

/-- Digits that are read are read one by one. -/
theorem forall₂_of_mapM {cs : List Char} {digits : List Nat}
    (h : cs.mapM Text.decimalValue? = some digits) :
    List.Forall₂ (fun c d => Text.decimalValue? c = some d) cs digits := by
  induction cs generalizing digits with
  | nil =>
      cases h
      exact .nil
  | cons c rest ih =>
      rw [List.mapM_cons] at h
      obtain ⟨d, hd, h⟩ := Option.bind_eq_some_iff.mp h
      obtain ⟨later, hlater, h⟩ := Option.bind_eq_some_iff.mp h
      cases h
      exact .cons hd (ih hlater)

/-- The whole part of a quantity has no more digits than its lexeme. -/
theorem whole_lt_of_quantity? {t : Lexeme} {q : Quantity} (h : quantity? t = some q) :
    q.whole < 10 ^ t.countP isDecimal := by
  unfold quantity? at h
  rw [List.span_eq_takeWhile_dropWhile] at h
  dsimp only at h
  set whole := t.takeWhile (· ≠ '.') with hwhole
  set fraction := (t.dropWhile (· ≠ '.')).drop 1
  split at h
  · cases h
  · obtain ⟨digits, hdigits, h⟩ := Option.bind_eq_some_iff.mp h
    cases h
    have hread := forall₂_of_mapM hdigits
    have hten : ∀ d ∈ digits, d < 10 := by
      intro d hd
      obtain ⟨c, hc⟩ := exists_forall₂_iff.mp ⟨_, hread.flip⟩ d hd
      exact decimalValue?_lt hc
    have hlength : digits.length = whole.length + fraction.length := by
      rw [← hread.length_eq, List.length_append]
    have hcoefficient := foldl_lt_pow hten 0
    rw [hlength, Nat.pow_add', Nat.zero_add, Nat.one_mul] at hcoefficient
    have hdecimal : ∀ c ∈ whole, isDecimal c = true := by
      intro c hc
      obtain ⟨d, hd⟩ := exists_forall₂_iff.mp ⟨_, hread⟩ c (List.mem_append_left _ hc)
      rw [isDecimal, hd]
      rfl
    have hcount : whole.length ≤ t.countP isDecimal := by
      rw [← List.countP_eq_length.mpr hdecimal]
      exact (List.takeWhile_sublist _).countP_le
    calc Quantity.whole ⟨digits.foldl (fun n d => 10 * n + d) 0, fraction.length⟩
        < 10 ^ whole.length := Nat.div_lt_of_lt_mul hcoefficient
      _ ≤ 10 ^ t.countP isDecimal := Nat.pow_le_pow_right (by decide) hcount

/-! ## Readings that need no fraction -/

section

variable {α β : Type}

/-- Whatever comes of it, no number had too many digits. -/
def Computes (x : Except Failure α) : Prop := x ≠ .error .imprecise

theorem computes_ok (a : α) : Computes (.ok a) := nofun

theorem computes_unreadable : Computes (.error .unreadable : Except Failure α) := nofun

theorem Computes.bind {x : Except Failure α} {f : α → Except Failure β} (hx : Computes x)
    (hf : ∀ a, x = .ok a → Computes (f a)) : Computes (x >>= f) := by
  intro h
  rcases bind_eq_error_iff.mp h with h | ⟨a, ha, h⟩
  · exact hx h
  · exact hf a ha h

theorem Computes.ite {c : Prop} [Decidable c] {x y : Except Failure α} (hx : Computes x)
    (hy : Computes y) : Computes (if c then x else y) := by
  split
  · exact hx
  · exact hy

theorem computes_need (o : Option α) : Computes (need o) := by
  cases o with
  | none => exact computes_unreadable
  | some a => exact computes_ok a

theorem need_eq_ok_iff {o : Option α} {a : α} : need o = .ok a ↔ o = some a := by
  cases o with
  | none => exact ⟨nofun, nofun⟩
  | some b => simp [need]

end

/-- The fraction of a quantity is found if its whole part leaves room for one. -/
theorem exists_fraction? {q : Quantity} (h : q.whole < 10 ^ Quantity.precision) :
    ∃ f, q.fraction? = some f :=
  ⟨_, if_neg (Nat.not_le.mpr h)⟩

namespace Parts

theorem computes_add (p : Parts) (role : Role) (n : Nat) : Computes (p.add role n) :=
  .ite computes_unreadable (computes_ok _)

theorem computes_addQuantity (p : Parts) (q : Quantity) : Computes (p.addQuantity q) :=
  .ite (computes_add _ _ _) (computes_add _ _ _)

theorem computes_addText (p : Parts) (role : Role) (t : Lexeme) : Computes (p.addText role t) :=
  (computes_need _).bind fun _ _ => .ite (computes_add _ _ _) (computes_add _ _ _)

theorem computes_setSecond (p : Parts) (t : Lexeme) : Computes (p.setSecond t) :=
  (computes_need _).bind fun _ _ => computes_ok _

theorem computes_setMinute (p : Parts) {q : Quantity} (h : q.whole < 10 ^ Quantity.precision) :
    Computes (p.setMinute q) := by
  obtain ⟨f, hf⟩ := exists_fraction? h
  rw [setMinute, hf]
  exact computes_ok _

theorem computes_setHour (p : Parts) {q : Quantity} (h : q.whole < 10 ^ Quantity.precision) :
    Computes (p.setHour q) := by
  obtain ⟨f, hf⟩ := exists_fraction? h
  rw [setHour, hf]
  exact computes_ok _

theorem computes_setUnit (p : Parts) (unit : Option ClockUnit) (t : Lexeme) {q : Quantity}
    (h : q.whole < 10 ^ Quantity.precision) : Computes (p.setUnit unit t q) := by
  unfold setUnit
  split
  · exact computes_setHour p h
  · exact computes_setMinute p h
  · exact computes_setSecond p t
  · exact computes_ok _

end Parts

/-! ## Numbers -/

/-- The number that the lexeme writes, if it writes one, is not too long to be computed with. -/
def IsShort (t : Lexeme) : Prop :=
  ∀ q, quantity? t = some q → q.whole < 10 ^ Quantity.precision

section

variable {t : Lexeme} {q : Quantity} {rest : List Lexeme} (p : Parts)

theorem computes_readHourMinute : Computes (readHourMinute t p) := by
  refine (computes_need _).bind fun hour _ => ?_
  split
  · exact (computes_need _).bind fun _ _ => computes_ok _
  · exact computes_ok _

theorem computes_readSix : Computes (readSix t p) := by
  unfold readSix
  split
  · refine (p.computes_addText _ _).bind fun p _ => ?_
    refine (p.computes_addText _ _).bind fun p _ => ?_
    exact (p.computes_addText _ _).bind fun _ _ => computes_ok _
  · refine (computes_need _).bind fun hour _ => ?_
    refine (computes_need _).bind fun minute _ => ?_
    exact (Parts.computes_setSecond _ _).bind fun _ _ => computes_ok _

theorem computes_readCompact : Computes (readCompact t p) := by
  refine (p.computes_addText _ _).bind fun p _ => ?_
  refine (p.computes_addText _ _).bind fun p _ => ?_
  refine (p.computes_addText _ _).bind fun p _ => ?_
  split
  · exact computes_ok _
  · refine (computes_need _).bind fun hour _ => ?_
    refine (computes_need _).bind fun minute _ => ?_
    split
    · exact computes_ok _
    · exact (computes_need _).bind fun _ _ => computes_ok _

theorem computes_readColon {minutes : Lexeme} (h : IsShort minutes) :
    Computes (readColon q minutes rest p) := by
  refine (computes_need _).bind fun m hm => ?_
  refine (Parts.computes_setMinute _ (h m (need_eq_ok_iff.mp hm))).bind fun p _ => ?_
  split
  · exact (p.computes_setSecond _).bind fun _ _ => computes_ok _
  · exact computes_ok _

theorem computes_readThird : Computes (readThird t p) := by
  unfold readThird
  split
  · exact p.computes_add _ _
  · exact p.computes_addText _ _

theorem computes_readSeparated {mark : Lexeme} : Computes (readSeparated t mark rest p) := by
  refine (p.computes_addText _ _).bind fun p _ => ?_
  split
  · exact computes_ok _
  · next second more =>
    split
    · exact computes_ok _
    · -- the second part of the date is settled in two ways, and both go on alike
      have hsecond : ∀ f : Parts → Step, (∀ p, Computes (f p)) →
          Computes (if second.all Text.isDigit then p.addText .unmarked second >>= f
            else do f (← p.add .month (← need (month? second)))) := by
        intro f hf
        refine Computes.ite ?_ ?_
        · exact (p.computes_addText _ _).bind fun p _ => hf p
        · refine (computes_need _).bind fun m _ => ?_
          exact (p.computes_add _ _).bind fun p _ => hf p
      refine hsecond _ fun p => ?_
      split
      · refine Computes.ite ?_ (computes_ok _)
        refine (computes_need _).bind fun third _ => ?_
        exact (computes_readThird p).bind fun _ _ => computes_ok _
      · exact computes_ok _

theorem computes_readAlone : Computes (readAlone q rest p) := by
  unfold readAlone
  split
  · exact computes_ok _
  · exact (p.computes_addQuantity q).bind fun _ _ => computes_ok _

theorem computes_readPlain : Computes (readPlain q rest p) := by
  have hday : Computes (if p.couldBeDay q then do return (← p.addQuantity q, 0)
      else .error .unreadable : Step) := by
    split
    · exact (p.computes_addQuantity q).bind fun _ _ => computes_ok _
    · exact computes_unreadable
  unfold readPlain
  split
  · exact computes_readAlone p
  · split
    · split
      · exact computes_ok _
      · exact hday
    · exact hday

theorem computes_readMarked (h : ∀ u ∈ rest, IsShort u) : Computes (readMarked t q rest p) := by
  unfold readMarked
  split
  · exact computes_readColon p (h _ (List.mem_cons_of_mem _ List.mem_cons_self))
  · split
    · exact computes_readSeparated p
    · exact computes_readPlain p
  · exact computes_readPlain p

theorem computes_readNumber {before : List Lexeme} (hq : q.whole < 10 ^ Quantity.precision)
    (h : ∀ u ∈ rest, IsShort u) : Computes (readNumber before t q rest p) := by
  unfold readNumber
  dsimp only
  split
  · exact computes_readHourMinute p
  · split
    · exact computes_readSix p
    · split
      · exact computes_readCompact p
      · split
        · exact (p.computes_setUnit _ t hq).bind fun _ _ => computes_ok _
        · exact computes_readMarked p h

end

/-! ## Words and signs -/

section

variable {t : Lexeme} {rest : List Lexeme} (p : Parts)

theorem computes_readMonth [Present] (m : Nat) : Computes (readMonth m rest p) := by
  refine (p.computes_add _ _).bind fun p _ => ?_
  split
  · split
    · split
      · refine (computes_need _).bind fun n _ => ?_
        exact (Parts.computes_add _ _ _).bind fun _ _ => computes_ok _
      · exact computes_ok _
    · exact computes_ok _
  · split
    · refine (computes_need _).bind fun next _ => ?_
      refine (p.computes_addText _ _).bind fun p _ => ?_
      split
      · split
        · refine (computes_need _).bind fun third _ => ?_
          exact (p.computes_addText _ _).bind fun _ _ => computes_ok _
        · exact computes_ok _
      · exact computes_ok _
    · exact computes_ok _
  · exact computes_ok _

theorem computes_readHalfDay (half : HalfDay) : Computes (readHalfDay half p) := by
  unfold readHalfDay
  split
  · split
    · exact computes_ok _
    · exact computes_unreadable
  · exact computes_unreadable

theorem computes_offsetParts : Computes (offsetParts rest) := by
  unfold offsetParts
  split
  · exact computes_unreadable
  · split
    · refine (computes_need _).bind fun hours _ => ?_
      exact (computes_need _).bind fun _ _ => computes_ok _
    · split
      · refine (computes_need _).bind fun hours _ => ?_
        exact (computes_need _).bind fun _ _ => computes_ok _
      · split
        · exact (computes_need _).bind fun _ _ => computes_ok _
        · exact computes_unreadable

theorem computes_readOffset (negative : Bool) : Computes (readOffset negative rest p) := by
  refine computes_offsetParts.bind fun ⟨hours, minutes, taken⟩ _ => ?_
  dsimp only
  split
  · exact .ite (computes_ok _) (computes_ok _)
  · exact computes_ok _

theorem computes_readZoneName : Computes (readZoneName t rest p) := by
  unfold readZoneName
  split
  · split
    · exact (computes_readOffset _ _).bind fun _ _ => computes_ok _
    · exact computes_ok _
  · exact computes_ok _

theorem computes_readRest : Computes (readRest t rest p) := by
  unfold readRest
  split
  · exact computes_readOffset p _
  · split
    · exact computes_ok _
    · exact computes_unreadable

theorem computes_readWord [Present] : Computes (readWord t rest p) := by
  unfold readWord
  split
  · exact computes_ok _
  · split
    · exact computes_readMonth p _
    · split
      · exact computes_readHalfDay p _
      · split
        · exact computes_readZoneName p
        · exact computes_readRest p

theorem computes_readLexeme [Present] {before : List Lexeme} (h : ∀ u ∈ t :: rest, IsShort u) :
    Computes (readLexeme before t rest p) := by
  obtain ⟨ht, hrest⟩ := List.forall_mem_cons.mp h
  unfold readLexeme
  split
  · exact computes_unreadable
  · split
    · next q hq => exact computes_readNumber p (ht q hq) hrest
    · exact computes_readWord p

end

/-! ## Texts -/

theorem computes_readLexemes [Present] (before rest : List Lexeme) (p : Parts)
    (h : ∀ u ∈ rest, IsShort u) :
    Computes (readLexemes before rest p) := by
  fun_induction readLexemes before rest p with
  | case1 => exact computes_ok _
  | case2 before p t rest e he =>
      rintro ⟨⟩
      exact computes_readLexeme p h he
  | case3 before p t rest next taken _ ih =>
      exact ih fun u hu => h u (List.mem_cons_of_mem _ (List.mem_of_mem_drop hu))

theorem computes_fields [Present] {cs : List Char} (h : ∀ t ∈ lexemes cs, IsShort t) :
    Computes (fields cs) := by
  refine (computes_readLexemes _ _ _ h).bind fun p _ => ?_
  refine (computes_need _).bind fun named _ => ?_
  split
  · exact computes_unreadable
  · exact computes_ok _

/-- A text whose numbers are not too long is read. -/
theorem computes_read [Present] {cs : List Char} (h : ∀ t ∈ lexemes cs, IsShort t) :
    Computes (read cs) := by
  have hfields := computes_fields h
  unfold read
  split
  · exact computes_ok _
  · exact computes_ok _
  · next himprecise => exact absurd himprecise hfields

/-! ## Lexemes of a text -/

/-- No lexeme of a run has more digits than the run; a comma that becomes a point is no digit. -/
theorem countP_le_of_mem_lexemes {r : Run} {t : Lexeme} (h : t ∈ r.lexemes) :
    t.countP isDecimal ≤ r.seen.countP isDecimal := by
  have hmap : ∀ cs : List Char, (cs.map fun c => if c = ',' then '.' else c).countP isDecimal
      ≤ cs.countP isDecimal := by
    intro cs
    rw [List.countP_map]
    refine List.countP_mono_left fun c _ hc => ?_
    by_cases hcomma : c = ','
    · rw [Function.comp_apply, if_pos hcomma] at hc
      cases hc
    · rwa [Function.comp_apply, if_neg hcomma] at hc
  unfold Run.lexemes at h
  dsimp only at h
  rw [← List.countP_reverse (l := r.seen)]
  split at h
  · have hpiece := (List.sublist_flatten_of_mem h).countP_le (p := isDecimal)
    rwa [Run.cut, List.flatten_splitBy] at hpiece
  · split at h
    · rw [List.mem_singleton.mp h]
      exact hmap _
    · rw [List.mem_singleton.mp h]

/-- The digits of the run that is being read. -/
def digitsSeen : Option Run → Nat
  | none => 0
  | some r => r.seen.countP isDecimal

theorem countP_openRun (c : Char) :
    (∀ t ∈ (openRun c).1, t.countP isDecimal ≤ [c].countP isDecimal) ∧
      digitsSeen (openRun c).2 ≤ [c].countP isDecimal := by
  unfold openRun
  split
  · exact ⟨List.forall_mem_nil _, le_rfl⟩
  · split
    · exact ⟨List.forall_mem_nil _, le_rfl⟩
    · split
      · exact ⟨List.forall_mem_singleton.mpr (Nat.zero_le _), Nat.zero_le _⟩
      · exact ⟨List.forall_mem_singleton.mpr le_rfl, Nat.zero_le _⟩

theorem seen_met (r : Run) : r.met.seen = r.seen := by
  unfold Run.met
  split <;> rfl

theorem seen_of_extend? {r longer : Run} {c : Char} (h : r.extend? c = some longer) :
    longer.seen = c :: r.seen := by
  obtain ⟨kind, -, rfl⟩ := Option.map_eq_some_iff.mp h
  rfl

theorem countP_cons_eq (c : Char) (cs : List Char) :
    (c :: cs).countP isDecimal = [c].countP isDecimal + cs.countP isDecimal := by
  rw [← List.countP_append, List.singleton_append]

/-- What a character opens, and what the text makes of it, has no more digits than the text. -/
theorem countP_le_of_opened {c : Char} {rest : List Char} {out : List Lexeme} {run : Option Run}
    (hopen : openRun c = (out, run))
    (h : ∀ t ∈ lexemesFrom run rest,
      t.countP isDecimal ≤ digitsSeen run + rest.countP isDecimal) :
    ∀ t ∈ out ++ lexemesFrom run rest, t.countP isDecimal ≤ (c :: rest).countP isDecimal := by
  obtain ⟨hout, hrun⟩ := countP_openRun c
  rw [hopen] at hout hrun
  rw [countP_cons_eq]
  refine List.forall_mem_append.mpr ⟨fun t ht => ?_, fun t ht => ?_⟩
  · exact (hout t ht).trans (Nat.le_add_right _ _)
  · exact (h t ht).trans (Nat.add_le_add_right hrun _)

/-- No lexeme has more digits than the run that it starts with and the rest of the text. -/
theorem countP_lexemesFrom_le (run : Option Run) (cs : List Char) :
    ∀ t ∈ lexemesFrom run cs, t.countP isDecimal ≤ digitsSeen run + cs.countP isDecimal := by
  fun_induction lexemesFrom run cs with
  | case1 => exact List.forall_mem_nil _
  | case2 r => exact fun t ht => (countP_le_of_mem_lexemes ht).trans (Nat.le_add_right _ _)
  | case3 rest ih => exact ih
  | case4 c rest _ out run hopen ih =>
      rw [digitsSeen, Nat.zero_add]
      exact countP_le_of_opened hopen ih
  | case5 r rest ih => exact ih
  | case6 r c rest _ longer hlonger ih =>
      have hseen : longer.seen = c :: r.seen := by
        rw [seen_of_extend? hlonger, seen_met]
      rw [digitsSeen, hseen, countP_cons_eq] at ih
      rw [digitsSeen, countP_cons_eq]
      exact fun t ht => (ih t ht).trans (by omega)
  | case7 r c rest _ _ out run hopen ih =>
      refine List.forall_mem_append.mpr ⟨fun t ht => ?_, fun t ht => ?_⟩
      · have hrun := countP_le_of_mem_lexemes ht
        rw [seen_met] at hrun
        exact hrun.trans (Nat.le_add_right _ _)
      · exact (countP_le_of_opened hopen ih t ht).trans (Nat.le_add_left _ _)

/-- A text is given up only if it has more decimal digits than are computed with. -/
theorem precision_lt_of_read [Present] {cs : List Char} (h : read cs = .error .imprecise) :
    Quantity.precision < cs.countP isDecimal := by
  by_contra hfew
  refine computes_read (fun t ht q hq => ?_) h
  have hcount := countP_lexemesFrom_le none cs t ht
  rw [digitsSeen, Nat.zero_add] at hcount
  calc q.whole < 10 ^ t.countP isDecimal := whole_lt_of_quantity? hq
    _ ≤ 10 ^ Quantity.precision :=
        Nat.pow_le_pow_right (by decide) (hcount.trans (Nat.not_lt.mp hfew))

/-- A text that is only unreadable is no date, which is no failure. -/
theorem failure_of_read [Present] {cs : List Char} {failure : Failure}
    (h : read cs = .error failure) :
    failure = .imprecise := by
  unfold read at h
  split at h
  · cases h
  · cases h
  · cases h
    rfl

end FreeForm

/-- Of the three forms of a date only the free one is given up. -/
theorem DateTime.precision_lt_of_read [Present] {cs : List Char} {failure : FreeForm.Failure}
    (h : DateTime.read cs = .error failure) :
    Quantity.precision < cs.countP FreeForm.isDecimal := by
  unfold DateTime.read at h
  split at h
  · cases h
  · split at h
    · cases h
    · cases FreeForm.failure_of_read h
      exact FreeForm.precision_lt_of_read h

end Winnow
