/-
# `Limits` — where the reader of JSON stops although the text may be well formed

Two of the three failures of the reader say nothing about the grammar: an integer literal of more
than 4300 digits, and a container inside as many others as may be open.  Both are met only where a
value may stand, and only if the tokens before them are in order; whatever is wrong with the text
after that point is never seen.

What stands before such a point is described without the reader's states: `AwaitsValue limit before`
says that with `null` at its end `before` can be completed to the text of a value.  The number of
containers that are open there is the number of opening brackets less that of closing ones, which
every step of the reader keeps (`depth_take`).
-/
import Mathlib
import Winnow.Json.Reader
import Winnow.Proofs.Outcome

namespace Winnow.Json

/-! ## Brackets -/

/-- The token opens a container. -/
def Token.opens : Token → Bool
  | .openArray | .openObject => true
  | _ => false

/-- The token closes a container. -/
def Token.closes : Token → Bool
  | .closeArray | .closeObject => true
  | _ => false

/-- The token is an integer of too many digits. -/
def Token.isLongInteger : Token → Bool
  | .longInteger => true
  | _ => false

theorem Token.closes_of_opens {t : Token} (h : t.opens) : t.closes = false := by
  cases t with
  | openArray | openObject => rfl
  | _ => cases h

/-- How many containers are opened. -/
def openings (ts : List Token) : Nat := ts.countP Token.opens

/-- How many containers are closed. -/
def closings (ts : List Token) : Nat := ts.countP Token.closes

theorem openings_cons (t : Token) (ts : List Token) :
    openings (t :: ts) = openings ts + t.opens.toNat := by
  rw [openings, List.countP_cons]
  cases t.opens <;> rfl

theorem closings_cons (t : Token) (ts : List Token) :
    closings (t :: ts) = closings ts + t.closes.toNat := by
  rw [closings, List.countP_cons]
  cases t.closes <;> rfl

theorem openings_append (ts ts' : List Token) :
    openings (ts ++ ts') = openings ts + openings ts' := List.countP_append

theorem closings_append (ts ts' : List Token) :
    closings (ts ++ ts') = closings ts + closings ts' := List.countP_append

/-- At no point are more containers open than `depth`. -/
def NestedWithin (depth : Nat) (ts : List Token) : Prop :=
  ∀ before, before <+: ts → openings before ≤ closings before + depth

instance (depth : Nat) (ts : List Token) : Decidable (NestedWithin depth ts) :=
  decidable_of_iff (∀ before ∈ ts.inits, openings before ≤ closings before + depth) (by
    simp only [NestedWithin, List.mem_inits])

/-- A value may come next: with `null` in its place the tokens can be completed. -/
def AwaitsValue (limit : Nat) (before : List Token) : Prop :=
  ∃ rest v, ofTokens limit (before ++ .scalar .null :: rest) = .ok v

/-- Reading stops at a limit: where a value may stand, there is an integer of too many digits, or a
container is opened inside as many as there may be. -/
def MeetsLimit (limit : Nat) (ts : List Token) : Prop :=
  ∃ before t after, ts = before ++ t :: after ∧ AwaitsValue limit before ∧
    (t.isLongInteger ∨ t.opens ∧ closings before + limit ≤ openings before)

/-! ## One token -/

variable {limit : Nat}

namespace Reading

/-- A value must come next. -/
def awaitsValue (r : Reading) : Bool :=
  match r.stage with
  | .value | .firstItem => true
  | _ => false

/-- How many containers are open; an object has no frame while its next key is read. -/
def depth (r : Reading) : Nat :=
  r.frames.length +
    match r.stage with
    | .firstKey | .key _ | .colon _ _ => 1
    | _ => 0

theorem depth_of_awaitsValue {r : Reading} (h : r.awaitsValue) : r.depth = r.frames.length := by
  obtain ⟨stage, frames⟩ := r
  cases stage with
  | value | firstItem => rfl
  | _ => cases h

theorem depth_takeValue {frames : List Frame} {t : Token} {r : Reading}
    (h : takeValue limit frames t = .ok r) :
    r.depth + t.closes.toNat = frames.length + t.opens.toNat := by
  cases t with
  | openArray | openObject =>
      simp only [takeValue] at h
      split at h <;> cases h
      rfl
  | scalar v =>
      cases h
      rfl
  | text s =>
      cases h
      rfl
  | _ => cases h

theorem depth_takeAfter {v : Json} {frames : List Frame} {t : Token} {r : Reading}
    (h : takeAfter v frames t = .ok r) :
    r.depth + t.closes.toNat = frames.length + t.opens.toNat := by
  cases frames with
  | nil => cases t <;> cases h
  | cons frame frames =>
      cases frame <;> cases t <;> cases h <;> rfl

/-- At the start of an array a value comes next, unless the array ends at once. -/
theorem take_firstItem (frames : List Frame) (t : Token) :
    (∃ items rest, frames = .array items :: rest ∧ t = .closeArray ∧
        take limit ⟨.firstItem, frames⟩ t = .ok ⟨.after (.array []), rest⟩) ∨
      take limit ⟨.firstItem, frames⟩ t = takeValue limit frames t := by
  cases frames with
  | nil => exact Or.inr rfl
  | cons frame rest =>
      cases frame with
      | object members key => exact Or.inr rfl
      | array items =>
          cases t with
          | closeArray => exact Or.inl ⟨items, rest, rfl, rfl, rfl⟩
          | _ => exact Or.inr rfl

/-- Each token moves the depth by the bracket that it is. -/
theorem depth_take {r r' : Reading} {t : Token} (h : r.take limit t = .ok r') :
    r'.depth + t.closes.toNat = r.depth + t.opens.toNat := by
  obtain ⟨stage, frames⟩ := r
  cases stage with
  | value => exact depth_takeValue h
  | firstItem =>
      rcases take_firstItem frames t with ⟨_, _, rfl, rfl, hok⟩ | hval
      · cases hok.symm.trans h
        rfl
      · exact depth_takeValue (hval ▸ h)
  | firstKey => cases t <;> cases h <;> rfl
  | key members => cases t <;> cases h; rfl
  | colon members key => cases t <;> cases h; rfl
  | after v => exact depth_takeAfter h

theorem takeValue_eq_longInteger_iff {frames : List Frame} {t : Token} :
    takeValue limit frames t = .error .longInteger ↔ t.isLongInteger := by
  cases t with
  | openArray | openObject =>
      simp only [takeValue, Token.isLongInteger]
      split <;> simp
  | _ => simp [takeValue, Token.isLongInteger]

theorem takeValue_eq_tooDeep_iff {frames : List Frame} {t : Token} :
    takeValue limit frames t = .error .tooDeep ↔ t.opens ∧ limit ≤ frames.length := by
  cases t with
  | openArray | openObject =>
      simp only [takeValue, Token.opens, true_and]
      split <;> simp <;> omega
  | _ => simp [takeValue, Token.opens]

theorem takeAfter_error {v : Json} {frames : List Frame} {t : Token} {u : Unreadable}
    (h : takeAfter v frames t = .error u) : u = .malformed := by
  cases frames with
  | nil =>
      cases h
      rfl
  | cons frame frames => cases frame <;> cases t <;> cases h <;> rfl

/-- Outside the places of values nothing but the grammar can be at fault. -/
theorem take_error_of_not_awaitsValue {r : Reading} {t : Token} {u : Unreadable}
    (hr : ¬ r.awaitsValue) (h : r.take limit t = .error u) : u = .malformed := by
  obtain ⟨stage, frames⟩ := r
  cases stage with
  | value | firstItem => exact absurd rfl hr
  | firstKey | key _ | colon _ _ =>
      cases t <;> cases h <;> rfl
  | after v => exact takeAfter_error h

/-- A token fails for another reason than the grammar only in the place of a value, and there it
fails as a value. -/
theorem take_eq_error_iff {r : Reading} {t : Token} {u : Unreadable} (hu : u ≠ .malformed) :
    r.take limit t = .error u ↔ r.awaitsValue ∧ takeValue limit r.frames t = .error u := by
  by_cases hr : r.awaitsValue
  · rw [and_iff_right hr]
    obtain ⟨stage, frames⟩ := r
    cases stage with
    | value => exact Iff.rfl
    | firstItem =>
        rcases take_firstItem frames t with ⟨_, _, rfl, rfl, hok⟩ | hval
        · rw [hok]
          constructor
          · intro h
            cases h
          · intro h
            cases h
            exact absurd rfl hu
        · rw [hval]
    | _ => cases hr
  · constructor
    · intro h
      exact absurd (take_error_of_not_awaitsValue hr h) hu
    · intro h
      exact absurd h.1 hr

/-- `null` is taken where a value must come next. -/
theorem take_null {r : Reading} (hr : r.awaitsValue) :
    r.take limit (.scalar .null) = .ok ⟨.after .null, r.frames⟩ := by
  obtain ⟨stage, frames⟩ := r
  cases stage with
  | value => rfl
  | firstItem =>
      rcases take_firstItem frames (.scalar .null) with ⟨_, _, _, h, _⟩ | h
      · cases h
      · exact h
  | _ => cases hr

/-- `null` is taken nowhere else. -/
theorem awaitsValue_of_take_null {r r' : Reading} (h : r.take limit (.scalar .null) = .ok r') :
    r.awaitsValue := by
  obtain ⟨stage, frames⟩ := r
  cases stage with
  | value | firstItem => rfl
  | firstKey | key _ | colon _ _ => cases h
  | after v =>
      cases frames with
      | nil => cases h
      | cons frame frames => cases frame <;> cases h

theorem finish_error {r : Reading} {u : Unreadable} (h : r.finish = .error u) :
    u = .malformed := by
  obtain ⟨stage, frames⟩ := r
  cases stage with
  | after v =>
      cases frames <;> cases h
      rfl
  | _ =>
      cases h
      rfl

end Reading

/-! ## All tokens -/

open Outcome Reading

theorem depth_of_run {r' : Reading} :
    ∀ (ts : List Token) (r : Reading), ts.foldlM (take limit) r = .ok r' →
      r'.depth + closings ts = r.depth + openings ts
  | [], r, h => by
      cases h
      rfl
  | t :: ts, r, h => by
      obtain ⟨next, h1, h2⟩ := foldlM_cons_eq_ok_iff.mp h
      have hstep := depth_take h1
      have hrest := depth_of_run ts next h2
      rw [openings_cons, closings_cons]
      omega

/-- The bracket that closes an open container. -/
def Frame.closing : Frame → Token
  | .array _ => .closeArray
  | .object _ _ => .closeObject

/-- After a value the open containers can be closed one by one. -/
theorem exists_run_closing :
    ∀ (frames : List Frame) (v : Json),
      ∃ w, (frames.map Frame.closing).foldlM (take limit) ⟨.after v, frames⟩ = .ok ⟨.after w, []⟩
  | [], v => ⟨v, rfl⟩
  | .array items :: frames, v => exists_run_closing frames (.array (v :: items).reverse)
  | .object members key :: frames, v => exists_run_closing frames (.object (put members key v))

theorem ofTokens_eq_ok_iff {ts : List Token} {v : Json} :
    ofTokens limit ts = .ok v ↔ ∃ r, ts.foldlM (take limit) start = .ok r ∧ r.finish = .ok v :=
  bind_eq_ok_iff

/-- A value may come next exactly if the reader is in a state that waits for one. -/
theorem awaitsValue_iff {before : List Token} :
    AwaitsValue limit before ↔ ∃ r, before.foldlM (take limit) start = .ok r ∧ r.awaitsValue := by
  constructor
  · rintro ⟨rest, v, h⟩
    obtain ⟨last, hrun, -⟩ := ofTokens_eq_ok_iff.mp h
    obtain ⟨r, hbefore, hrest⟩ := foldlM_append_eq_ok_iff.mp hrun
    obtain ⟨next, hnull, -⟩ := foldlM_cons_eq_ok_iff.mp hrest
    exact ⟨r, hbefore, awaitsValue_of_take_null hnull⟩
  · rintro ⟨r, hbefore, hr⟩
    obtain ⟨w, hclosed⟩ := exists_run_closing r.frames .null
    refine ⟨r.frames.map Frame.closing, w, ofTokens_eq_ok_iff.mpr ⟨⟨.after w, []⟩, ?_, rfl⟩⟩
    exact foldlM_append_eq_ok_iff.mpr
      ⟨r, hbefore, foldlM_cons_eq_ok_iff.mpr ⟨⟨.after .null, r.frames⟩, take_null hr, hclosed⟩⟩

/-- A failure that is not the grammar's is that of some token in the place of a value. -/
theorem ofTokens_eq_error_iff {ts : List Token} {u : Unreadable} (hu : u ≠ .malformed) :
    ofTokens limit ts = .error u ↔ ∃ before t after r, ts = before ++ t :: after ∧
      before.foldlM (take limit) start = .ok r ∧ r.awaitsValue ∧
        takeValue limit r.frames t = .error u := by
  simp only [← take_eq_error_iff hu]
  rw [ofTokens, bind_eq_error_iff, foldlM_eq_error_iff]
  constructor
  · rintro (h | ⟨r, -, h⟩)
    · exact h
    · exact absurd (finish_error h) hu
  · exact Or.inl

theorem ofTokens_eq_longInteger_iff {ts : List Token} :
    ofTokens limit ts = .error .longInteger ↔ ∃ before t after, ts = before ++ t :: after ∧
      AwaitsValue limit before ∧ t.isLongInteger := by
  rw [ofTokens_eq_error_iff (by decide)]
  constructor
  · rintro ⟨before, t, after, r, hts, hrun, hr, h⟩
    exact ⟨before, t, after, hts, awaitsValue_iff.mpr ⟨r, hrun, hr⟩,
      takeValue_eq_longInteger_iff.mp h⟩
  · rintro ⟨before, t, after, hts, hbefore, ht⟩
    obtain ⟨r, hrun, hr⟩ := awaitsValue_iff.mp hbefore
    exact ⟨before, t, after, r, hts, hrun, hr, takeValue_eq_longInteger_iff.mpr ht⟩

/-- Where a value must come next, the frames are the containers that are open. -/
theorem length_frames_of_run {before : List Token} {r : Reading}
    (hrun : before.foldlM (take limit) start = .ok r) (hr : r.awaitsValue) :
    r.frames.length + closings before = openings before := by
  have h := depth_of_run before start hrun
  rw [depth_of_awaitsValue hr] at h
  exact h.trans (Nat.zero_add _)

theorem ofTokens_eq_tooDeep_iff {ts : List Token} :
    ofTokens limit ts = .error .tooDeep ↔ ∃ before t after, ts = before ++ t :: after ∧
      AwaitsValue limit before ∧ t.opens ∧ closings before + limit ≤ openings before := by
  rw [ofTokens_eq_error_iff (by decide)]
  constructor
  · rintro ⟨before, t, after, r, hts, hrun, hr, h⟩
    obtain ⟨ht, hlimit⟩ := takeValue_eq_tooDeep_iff.mp h
    have hlen := length_frames_of_run hrun hr
    exact ⟨before, t, after, hts, awaitsValue_iff.mpr ⟨r, hrun, hr⟩, ht, by omega⟩
  · rintro ⟨before, t, after, hts, hbefore, ht, hlimit⟩
    obtain ⟨r, hrun, hr⟩ := awaitsValue_iff.mp hbefore
    have hlen := length_frames_of_run hrun hr
    exact ⟨before, t, after, r, hts, hrun, hr, takeValue_eq_tooDeep_iff.mpr ⟨ht, by omega⟩⟩

/-- The reader stops at a limit exactly if the text meets one. -/
theorem meetsLimit_iff {ts : List Token} :
    MeetsLimit limit ts ↔
      ofTokens limit ts = .error .longInteger ∨ ofTokens limit ts = .error .tooDeep := by
  rw [ofTokens_eq_longInteger_iff, ofTokens_eq_tooDeep_iff]
  constructor
  · rintro ⟨before, t, after, hts, hbefore, ht | ht⟩
    · exact Or.inl ⟨before, t, after, hts, hbefore, ht⟩
    · exact Or.inr ⟨before, t, after, hts, hbefore, ht⟩
  · rintro (⟨before, t, after, hts, hbefore, ht⟩ | ⟨before, t, after, hts, hbefore, ht⟩)
    · exact ⟨before, t, after, hts, hbefore, Or.inl ht⟩
    · exact ⟨before, t, after, hts, hbefore, Or.inr ht⟩

/-- Text that is nested within the limit is not too deep for the reader. -/
theorem ofTokens_ne_tooDeep {depth : Nat} {ts : List Token} (hdepth : depth ≤ limit)
    (hnested : NestedWithin depth ts) : ofTokens limit ts ≠ .error .tooDeep := by
  intro h
  obtain ⟨before, t, after, rfl, -, hopens, hdeep⟩ := ofTokens_eq_tooDeep_iff.mp h
  -- The container that is opened last counts too.
  have hprefix : before ++ [t] <+: before ++ t :: after :=
    (List.prefix_append_right_inj before).mpr (List.prefix_append [t] after)
  have hwithin := hnested (before ++ [t]) hprefix
  rw [openings_append, closings_append, openings_cons, closings_cons, hopens,
    Token.closes_of_opens hopens] at hwithin
  change openings before + (0 + 1) ≤ closings before + (0 + 0) + depth at hwithin
  omega

/-- Text that is nested within the limit and has no integers of too many digits meets no limit. -/
theorem not_meetsLimit {depth : Nat} {ts : List Token} (hdepth : depth ≤ limit)
    (hnested : NestedWithin depth ts) (hshort : ∀ t ∈ ts, ¬ t.isLongInteger) :
    ¬ MeetsLimit limit ts := by
  rw [meetsLimit_iff]
  rintro (h | h)
  · obtain ⟨before, t, after, rfl, -, ht⟩ := ofTokens_eq_longInteger_iff.mp h
    exact hshort t (List.mem_append_right before List.mem_cons_self) ht
  · exact ofTokens_ne_tooDeep hdepth hnested h

/-! ## Integers of too many digits -/

theorem isWordChar_of_isDigit {c : Char} (h : c.isDigit) : isWordChar c := by
  simp [isWordChar, Char.isAlphanum, h]

theorem openToken_of_isWordChar {c : Char} (h : isWordChar c) :
    openToken c = ([], .word [c]) := by
  unfold openToken
  split
  all_goals exact if_pos h

theorem tokensFrom_word :
    ∀ (cs seen : List Char), (∀ c ∈ cs, isWordChar c) →
      tokensFrom (.word seen) cs = wordTokens (seen.reverse ++ cs)
  | [], seen, _ => by rw [tokensFrom, List.append_nil]
  | c :: rest, seen, h => by
      obtain ⟨hc, hrest⟩ := List.forall_mem_cons.mp h
      rw [tokensFrom, if_pos hc, tokensFrom_word rest (c :: seen) hrest, List.reverse_cons,
        List.append_assoc, List.singleton_append]

/-- No word starts with a digit. -/
theorem wordValue?_of_isDigit {digit : Char} (digits : List Char) (h : digit.isDigit) :
    wordValue? (String.ofList (digit :: digits)) = none := by
  have hword : ∀ word : String, word.toList.head?.any Char.isDigit = false →
      String.ofList (digit :: digits) ≠ word := by
    rintro _ hfirst rfl
    rw [String.toList_ofList] at hfirst
    exact Bool.eq_false_iff.mp hfirst h
  unfold wordValue?
  split
  case h_7 => rfl
  all_goals
    next heq => exact absurd heq (hword _ (by decide))

theorem splitNumber?_of_digits {digit : Char} {digits : List Char} (hzero : digit ≠ '0')
    (h : ∀ c ∈ digit :: digits, c.isDigit) (hlen : Number.digitLimit ≤ digits.length) :
    splitNumber? (digit :: digits) = some (.longInteger, []) := by
  have hsplit : splitDigits (digit :: digits) = (digit :: digits, []) := by
    rw [splitDigits, List.span_eq_takeWhile_dropWhile, Prod.mk.injEq, List.takeWhile_eq_self_iff,
      List.dropWhile_eq_nil_iff]
    exact ⟨h, h⟩
  have hminus : digit ≠ '-' := by
    rintro rfl
    exact absurd (h '-' List.mem_cons_self) (by decide)
  unfold splitNumber?
  split
  next negative unsigned hsign =>
  split at hsign
  · next h' => exact absurd (List.cons.inj h').1 hminus
  cases hsign
  split
  next whole afterWhole hwhole =>
  split at hwhole
  · next h' => exact absurd (List.cons.inj h').1 hzero
  cases hsplit.symm.trans hwhole
  simp [splitExponent, Nat.lt_succ_of_le hlen]

/-- An integer of too many digits is the only token of its text. -/
theorem wordTokens_of_digits {digit : Char} {digits : List Char} (hzero : digit ≠ '0')
    (h : ∀ c ∈ digit :: digits, c.isDigit) (hlen : Number.digitLimit ≤ digits.length) :
    wordTokens (digit :: digits) = [.longInteger] := by
  rw [wordTokens, wordValue?_of_isDigit digits (h digit List.mem_cons_self),
    splitNumber?_of_digits hzero h hlen]

theorem read_of_digits {digit : Char} {digits : List Char} (hzero : digit ≠ '0')
    (h : ∀ c ∈ digit :: digits, c.isDigit) (hlen : Number.digitLimit ≤ digits.length) :
    read limit (digit :: digits) = .error .longInteger := by
  obtain ⟨hc, hrest⟩ := List.forall_mem_cons.mp fun c hc => isWordChar_of_isDigit (h c hc)
  rw [read, tokens, tokensFrom, openToken_of_isWordChar hc]
  dsimp only
  rw [tokensFrom_word digits [digit] hrest]
  have := wordTokens_of_digits hzero h hlen
  rw [List.nil_append, List.reverse_singleton, List.singleton_append, this]
  rfl

end Winnow.Json
