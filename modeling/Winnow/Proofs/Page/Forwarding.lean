/-
# `Forwarding` — what is forwarded of a page is read as that page

Every value that a parameter can have is forwarded in one spelling: an integer as its shortest text,
a truth value as `true` or `false`, a date in the standard form.  The lenient readers take that
spelling for the value that it came from, although it is another piece of code that writes it
(`read?_forwarded`).

The one thing that could go wrong is the length.  An integer without bounds is only read from so many
characters, a minus sign included, and its shortest text has no more of them than the text that was
read (`length_shortText_le`).
-/
import Winnow.Proofs.Calendar.Iso
import Winnow.Proofs.Page.Rules
import Winnow.Proofs.Text.Blank
import Winnow.Proofs.Web.Form

namespace Winnow

open Text

/-! ## Integers -/

/-- The sign in front of the digits of an integer. -/
def minus (negative : Bool) : List Char := if negative then ['-'] else []

/-- The shortest text of an integer. -/
def shortText (i : Int) : List Char := minus (i < 0) ++ decimalDigits i.natAbs

theorem isDigit_or_eq_of_mem_shortText {i : Int} {c : Char} (h : c ∈ shortText i) :
    c.isDigit ∨ c = '-' := by
  rcases List.mem_append.mp h with hminus | hdigit
  · unfold minus at hminus
    split at hminus
    · exact Or.inr (List.mem_singleton.mp hminus)
    · cases hminus
  · exact Or.inl (isDigit_of_mem_decimalDigits hdigit)

theorem not_mem_shortText {i : Int} {c : Char} (hdigit : c.isDigit = false) (hmark : c ≠ '-') :
    c ∉ shortText i := by
  intro h
  rcases isDigit_or_eq_of_mem_shortText h with h | h
  · rw [hdigit] at h
    cases h
  · exact hmark h

theorem integerText?_eq_shortText {i : Int} (h : (shortText i).length ≤ Number.digitLimit) :
    Number.integerText? i = some (shortText i) := by
  have hle : (decimalDigits i.natAbs).length ≤ Number.digitLimit := by
    rw [shortText, List.length_append] at h
    omega
  exact Number.integerText?_eq_some_iff.mpr ⟨hle, by simp [shortText, minus]⟩

namespace Lenient

variable {cs : List Char}

theorem trim_eq_self (h : ∀ c ∈ cs, isSpace c = false) : trim cs = cs :=
  trimWhile_eq_self (isTrimmed_of_forall h)

theorem isSpace_of_mem_shortText {i : Int} : ∀ c ∈ shortText i, isSpace c = false := by
  intro c hc
  rcases isDigit_or_eq_of_mem_shortText hc with hdigit | rfl
  · exact isSpace_of_isBlank (isBlank_of_isDigit hdigit)
  · decide

theorem dropFraction_eq_self (h : '.' ∉ cs) : dropFraction cs = cs := by
  rw [dropFraction, cutAt_of_not_mem h]

theorem joinGroups?_eq_some_self (h : '_' ∉ cs) : joinGroups? cs = some cs := by
  have hhead : cs.head? ≠ some '_' := fun hhead => h (List.mem_of_head? hhead)
  have hlast : cs.getLast? ≠ some '_' := fun hlast => h (List.mem_of_getLast? hlast)
  have hstray : hasStrayUnderscore cs = false := by
    simp only [hasStrayUnderscore, hhead, hlast, decide_false, Bool.false_or]
    refine List.any_eq_false.mpr fun p hp => ?_
    have hfirst : p.1 ≠ '_' := fun heq => h (heq ▸ (List.of_mem_zip hp).1)
    simp [hfirst]
  have hkept : cs.filter (· ≠ '_') = cs := by
    refine List.filter_eq_self.mpr fun c hc => decide_eq_true ?_
    rintro rfl
    exact h hc
  rw [joinGroups?, hstray, hkept]
  rfl

theorem dropPlus_eq_self (h : '+' ∉ cs) : dropPlus cs = cs := by
  unfold dropPlus
  split
  · exact absurd List.mem_cons_self h
  · rfl

theorem dropZeros_shortText (i : Int) : dropZeros (shortText i) = some (shortText i) := by
  by_cases hzero : i = 0
  · subst hzero
    decide
  · refine if_pos ?_
    unfold shortText minus
    split
    · exact nofun
    · exact head?_decimalDigits_ne (Int.natAbs_pos.mpr hzero)

/-- A short form is a sign and digits, without a superfluous zero at their start. -/
theorem readShortInteger?_eq_some_iff {n : Int} :
    readShortInteger? cs = some n ↔ ∃ negative digits, cs = minus negative ++ digits ∧
      digits ≠ [] ∧ (∀ c ∈ digits, c.isDigit) ∧ cs.length ≤ Number.digitLimit ∧
      (digits.length = 1 ∨ digits.head? ≠ some '0') ∧ signedValue negative digits = n := by
  constructor
  · intro h
    unfold readShortInteger? at h
    split at h
    next negative digits hsplit =>
    have hcs : cs = minus negative ++ digits := by
      split at hsplit <;> cases hsplit <;> rfl
    split at h
    · cases h
    · next hguard =>
      split at h
      · cases h
      · next hzeros =>
        simp only [Bool.or_eq_true, Bool.not_eq_true', decide_eq_true_eq, not_or,
          Bool.not_eq_false, List.all_eq_true, List.isEmpty_iff] at hguard
        simp only [Bool.and_eq_true, decide_eq_true_eq, not_and_or, not_not] at hzeros
        exact ⟨negative, digits, hcs, hguard.1.1, hguard.1.2, Nat.le_of_not_lt hguard.2, hzeros,
          Option.some.inj h⟩
  · rintro ⟨negative, digits, rfl, hne, hdigits, hlength, hzeros, rfl⟩
    have hall : digits.all Char.isDigit = true := List.all_eq_true.mpr hdigits
    have hempty : digits.isEmpty = false := List.isEmpty_eq_false_iff.mpr hne
    have hguard : ¬ (digits.isEmpty || !digits.all Char.isDigit ||
        decide (Number.digitLimit < (minus negative ++ digits).length)) = true := by
      simp only [hall, hempty, Bool.not_true, Bool.false_or, decide_eq_true_eq]
      exact Nat.not_lt.mpr hlength
    have hstart : ¬ (digits.length ≠ 1 && digits.head? = some '0') = true := by
      simp only [Bool.and_eq_true, decide_eq_true_eq, not_and_or, not_not]
      exact hzeros
    unfold readShortInteger?
    cases negative with
    | true => exact (if_neg hguard).trans (if_neg hstart)
    | false =>
        obtain ⟨c, rest, rfl⟩ := List.exists_cons_of_ne_nil hne
        have hc : c ≠ '-' := by
          rintro rfl
          exact absurd (hdigits '-' List.mem_cons_self) (by decide)
        split
        next negative digits hsplit =>
        split at hsplit
        · next hminus => exact absurd (List.cons.inj hminus).1 hc
        · cases hsplit
          exact (if_neg hguard).trans (if_neg hstart)

theorem readShortInteger?_shortText {i : Int} (h : (shortText i).length ≤ Number.digitLimit) :
    readShortInteger? (shortText i) = some i := by
  refine readShortInteger?_eq_some_iff.mpr ⟨_, _, rfl, decimalDigits_ne_nil _,
    fun _ => isDigit_of_mem_decimalDigits, h, ?_, signedValue_decimalDigits i⟩
  by_cases hzero : i = 0
  · subst hzero
    exact Or.inl (by decide)
  · exact Or.inr (head?_decimalDigits_ne (Int.natAbs_pos.mpr hzero))

/-- The shortest text of an integer is read as that integer. -/
theorem readInteger?_shortText {i : Int} (h : (shortText i).length ≤ Number.digitLimit) :
    readInteger? (shortText i) = some i := by
  have hplus : '+' ∉ shortText i := not_mem_shortText (by decide) (by decide)
  have hpoint : '.' ∉ shortText i := not_mem_shortText (by decide) (by decide)
  have hunderscore : '_' ∉ shortText i := not_mem_shortText (by decide) (by decide)
  have hhead : (shortText i).head? ≠ some '+' := fun hhead => hplus (List.mem_of_head? hhead)
  simp [readInteger?, trim_eq_self isSpace_of_mem_shortText, dropPlus_eq_self hplus, hhead,
    dropZeros_shortText, dropFraction_eq_self hpoint, joinGroups?_eq_some_self hunderscore,
    readShortInteger?_shortText h]

/-- An integer has no more characters than the ones that it was read from. -/
theorem length_shortText_of_readShort {n : Int} (h : readShortInteger? cs = some n) :
    (shortText n).length ≤ Number.digitLimit := by
  obtain ⟨negative, digits, rfl, hne, hdigits, hlength, -, rfl⟩ :=
    readShortInteger?_eq_some_iff.mp h
  refine Nat.le_trans ?_ hlength
  have hle := length_decimalDigits_digitsValue_le hne hdigits
  rw [shortText, natAbs_signedValue, List.length_append, List.length_append]
  -- A number that is not negative has no sign, whether one was read or not.
  have hminus : (minus (signedValue negative digits < 0)).length ≤ (minus negative).length := by
    cases negative with
    | true => cases decide (signedValue true digits < 0) <;> decide
    | false =>
        have hsign : ¬ signedValue false digits < 0 := Int.not_lt.mpr (Int.natCast_nonneg _)
        rw [decide_eq_false hsign]
  omega

theorem length_shortText_of_readInteger {n : Int} (h : readInteger? cs = some n) :
    (shortText n).length ≤ Number.digitLimit := by
  unfold readInteger? at h
  dsimp only at h
  split at h
  · cases h
  · simp only [Option.bind_eq_bind, Option.bind_eq_some_iff] at h
    obtain ⟨_, -, _, -, h⟩ := h
    exact length_shortText_of_readShort h

/-! ## Dates and truth values -/

/-- A date in the standard form is read as that date. -/
theorem readDate?_iso (d : Date) : readDate? d.iso = some d := by
  have hread : DateTime.readStandard? d.iso = some ⟨d, .midnight, none⟩ := by
    rw [DateTime.readStandard?, Iso.read?_iso]
    rfl
  simp [readDate?, hread, isMidnight, TimeOfDay.midnight]

/-- The name of a truth value. -/
def truthName (b : Bool) : String := if b then "true" else "false"

theorem readTruth?_truthName (b : Bool) : readTruth? (truthName b).toList = some b := by
  cases b <;> rfl

end Lenient

/-! ## Parameters -/

namespace Parameter

theorem text_ofInt {i : Int} (h : (shortText i).length ≤ Number.digitLimit) :
    (ofInt i).text = .ok (some (shortText i)) := by
  simp only [text, ofInt, Json.ofInt, Json.shown, Json.text?, Json.quoted?, Number.text?,
    integerText?_eq_shortText h]
  rfl

theorem text_ofDate? (d : Option Date) : (ofDate? d).text = .ok (d.map Date.iso) := by
  cases d <;> rfl

theorem text_bool (b : Bool) :
    (Parameter.json (.bool b)).text = .ok (some (Lenient.truthName b).toList) := by
  cases b <;> rfl

/-- A parameter is forwarded in one field, or in none if it has no text. -/
theorem forward_cons {name : String} {value : Parameter} {text? : Option (List Char)}
    {rest : List (String × Parameter)} {fields : Form.Fields} (h : value.text = .ok text?)
    (hrest : forward rest = .ok fields) : forward ((name, value) :: rest)
      = .ok ((text?.map fun cs => (name, String.ofList cs)).toList ++ fields) := by
  simp only [forward, h, hrest]
  cases text? <;> rfl

end Parameter

/-! ## Pages -/

namespace PageQuery

/-- The names of the parameters of a page. -/
def names : List String :=
  ["limit", "offset", "status", "sort", "afterDate", "beforeDate", "includeEditLink"]

/-- The field for a date, if there is one. -/
def dateField (name : String) (d : Option Date) : Form.Fields :=
  (d.map fun d => (name, String.ofList d.iso)).toList

/-- The fields that forward a page. -/
def forwarded (q : PageQuery) : Form.Fields :=
  [("limit", String.ofList (shortText q.limit)), ("offset", String.ofList (shortText q.offset)),
    ("status", q.status.name), ("sort", q.order.name)] ++
  dateField "afterDate" q.after ++ dateField "beforeDate" q.before ++
  [("includeEditLink", Lenient.truthName q.editLink)]

/-- Each parameter is forwarded once at most, and in its place. -/
theorem names_forwarded (q : PageQuery) : (q.forwarded.map Prod.fst).Sublist names := by
  unfold forwarded dateField
  cases q.after <;> cases q.before <;> simp [names]

theorem length_shortText_limit (q : PageQuery) :
    (shortText q.limit).length ≤ Number.digitLimit := by
  have hbound : q.limit.natAbs < 10 ^ 3 := by
    have hpos := q.limit_pos
    have hle := q.limit_le
    unfold pageLimit at hle
    omega
  have hsign : (minus (q.limit < 0)).length ≤ 1 := by cases decide (q.limit < 0) <;> decide
  have hdigits := length_decimalDigits_le (by decide) hbound
  rw [shortText, List.length_append, Number.digitLimit]
  omega

theorem length_shortText_offset {fields : Form.Fields} {q : PageQuery}
    (h : read? fields = some q) : (shortText q.offset).length ≤ Number.digitLimit := by
  obtain ⟨-, hoffset, -⟩ := read?_eq_some_iff.mp h
  unfold fieldOr at hoffset
  split at hoffset
  · exact Lenient.length_shortText_of_readInteger hoffset
  · rw [← Option.some.inj hoffset]
    decide

/-- What is accepted is forwarded in these fields. -/
theorem forward_parameters {fields : Form.Fields} {q : PageQuery} (h : read? fields = some q) :
    Parameter.forward q.parameters = .ok q.forwarded := by
  have hlimit := Parameter.text_ofInt (length_shortText_limit q)
  have hoffset := Parameter.text_ofInt (length_shortText_offset h)
  unfold parameters
  refine (Parameter.forward_cons hlimit <| Parameter.forward_cons hoffset <|
    Parameter.forward_cons rfl <| Parameter.forward_cons rfl <|
    Parameter.forward_cons (Parameter.text_ofDate? _) <|
    Parameter.forward_cons (Parameter.text_ofDate? _) <|
    Parameter.forward_cons (Parameter.text_bool _) rfl).trans ?_
  simp [forwarded, dateField, Function.comp_def]

theorem value?_forwarded {q : PageQuery} {name value : String} (h : (name, value) ∈ q.forwarded) :
    Form.value? q.forwarded name = some value :=
  Form.value?_of_mem ((names_forwarded q).nodup (by decide)) h

theorem value?_limit_forwarded (q : PageQuery) :
    Form.value? q.forwarded "limit" = some (String.ofList (shortText q.limit)) :=
  value?_forwarded (by simp [forwarded])

/-- There are no filters among the fields that forward a page. -/
theorem value?_filters_forwarded (q : PageQuery) : Form.value? q.forwarded "filters" = none :=
  Form.value?_eq_none fun h => absurd ((names_forwarded q).mem h) (by decide)

/-! ### Reading what is forwarded -/

theorem fieldOr_of_some {α : Type} {fields : Form.Fields} {name text : String} {a : α}
    {default : α} {reader : String → Option α} (h : Form.value? fields name = some text)
    (hread : reader text = some a) : fieldOr fields name default reader = some a := by
  rw [fieldOr, h]
  exact hread

theorem fieldOr_readDay?_of_mem {q : PageQuery} {name : String} {d : Date}
    (h : (name, String.ofList d.iso) ∈ q.forwarded) :
    fieldOr q.forwarded name none readDay? = some (some d) := by
  refine fieldOr_of_some (value?_forwarded h) ?_
  rw [readDay?, String.toList_ofList, Lenient.readDate?_iso]
  rfl

theorem fieldOr_afterDate (q : PageQuery) :
    fieldOr q.forwarded "afterDate" none readDay? = some q.after := by
  cases hdate : q.after with
  | none =>
      rw [fieldOr, Form.value?_eq_none (by simp [forwarded, dateField, hdate])]
  | some d => exact fieldOr_readDay?_of_mem (by simp [forwarded, dateField, hdate])

theorem fieldOr_beforeDate (q : PageQuery) :
    fieldOr q.forwarded "beforeDate" none readDay? = some q.before := by
  cases hdate : q.before with
  | none =>
      rw [fieldOr, Form.value?_eq_none (by simp [forwarded, dateField, hdate])]
  | some d => exact fieldOr_readDay?_of_mem (by simp [forwarded, dateField, hdate])

/-- The fields that forward a page are read as that page. -/
theorem read?_forwarded {fields : Form.Fields} {q : PageQuery} (h : read? fields = some q) :
    read? q.forwarded = some q := by
  have hlimit := Lenient.readInteger?_shortText (length_shortText_limit q)
  have hoffset := Lenient.readInteger?_shortText (length_shortText_offset h)
  rw [← String.toList_ofList (l := shortText _)] at hlimit hoffset
  exact read?_eq_some_iff.mpr
    ⟨fieldOr_of_some q.value?_limit_forwarded hlimit,
      fieldOr_of_some (value?_forwarded (by simp [forwarded])) hoffset,
      fieldOr_of_some (value?_forwarded (by simp [forwarded])) (Progress.ofName?_name _),
      fieldOr_of_some (value?_forwarded (by simp [forwarded])) (SortOrder.ofName?_name _),
      fieldOr_afterDate q, fieldOr_beforeDate q,
      fieldOr_of_some (value?_forwarded (by simp [forwarded])) (Lenient.readTruth?_truthName _)⟩

/-- A date that a field gives is there. -/
theorem exists_date_of_fieldOr {fields : Form.Fields} {name text : String} {d : Option Date}
    (htext : Form.value? fields name = some text)
    (h : fieldOr fields name none readDay? = some d) : ∃ day, d = some day := by
  rw [fieldOr, htext] at h
  obtain ⟨day, -, rfl⟩ := Option.map_eq_some_iff.mp h
  exact ⟨day, rfl⟩

/-- A parameter that is given is forwarded. -/
theorem exists_value?_forwarded {fields : Form.Fields} {q : PageQuery} {name text : String}
    (h : read? fields = some q) (hname : name ∈ names)
    (htext : Form.value? fields name = some text) :
    ∃ sent, Form.value? q.forwarded name = some sent := by
  obtain ⟨-, -, -, -, hafter, hbefore, -⟩ := read?_eq_some_iff.mp h
  simp only [names, List.mem_cons, List.not_mem_nil, or_false] at hname
  rcases hname with rfl | rfl | rfl | rfl | rfl | rfl | rfl
  · exact ⟨_, q.value?_limit_forwarded⟩
  · exact ⟨String.ofList (shortText q.offset), value?_forwarded (by simp [forwarded])⟩
  · exact ⟨q.status.name, value?_forwarded (by simp [forwarded])⟩
  · exact ⟨q.order.name, value?_forwarded (by simp [forwarded])⟩
  · obtain ⟨day, hday⟩ := exists_date_of_fieldOr htext hafter
    exact ⟨String.ofList day.iso, value?_forwarded (by simp [forwarded, dateField, hday])⟩
  · obtain ⟨day, hday⟩ := exists_date_of_fieldOr htext hbefore
    exact ⟨String.ofList day.iso, value?_forwarded (by simp [forwarded, dateField, hday])⟩
  · exact ⟨Lenient.truthName q.editLink, value?_forwarded (by simp [forwarded])⟩

/-! ### Encoding -/

theorem isPlain_shortText (i : Int) : Percent.IsPlain (shortText i) := by
  intro c hc
  rcases isDigit_or_eq_of_mem_shortText hc with hdigit | rfl
  · exact Percent.isUnreserved_of_isDigit hdigit
  · decide

theorem isPlain_iso (d : Date) : Percent.IsPlain d.iso := by
  intro c hc
  rcases Date.isDigit_or_eq_of_mem_iso hc with hdigit | rfl
  · exact Percent.isUnreserved_of_isDigit hdigit
  · decide

theorem isPlain_name : ∀ name ∈ names, Percent.IsPlain name.toList := by
  decide

theorem isPlain_of_mem_dateField {name : String} {d : Option Date} :
    ∀ f ∈ dateField name d, Percent.IsPlain f.2.toList := by
  intro f hf
  cases d with
  | none => cases hf
  | some d =>
      rw [List.mem_singleton.mp hf, String.toList_ofList]
      exact isPlain_iso d

theorem isPlain_value (q : PageQuery) : ∀ f ∈ q.forwarded, Percent.IsPlain f.2.toList := by
  have hstatus : Percent.IsPlain q.status.name.toList := by cases q.status <;> decide
  have hsort : Percent.IsPlain q.order.name.toList := by cases q.order <;> decide
  have hlink : Percent.IsPlain (Lenient.truthName q.editLink).toList := by
    cases q.editLink <;> decide
  refine List.forall_mem_append.mpr ⟨List.forall_mem_append.mpr ⟨List.forall_mem_append.mpr
    ⟨?_, isPlain_of_mem_dateField⟩, isPlain_of_mem_dateField⟩, ?_⟩
  · simp only [List.forall_mem_cons, String.toList_ofList]
    exact ⟨isPlain_shortText _, isPlain_shortText _, hstatus, hsort, List.forall_mem_nil _⟩
  · exact List.forall_mem_singleton.mpr hlink

/-- There is nothing to encode in the fields that forward a page. -/
theorem isPlain_forwarded (q : PageQuery) : Form.IsPlain q.forwarded := by
  intro f hf
  exact ⟨isPlain_name _ ((names_forwarded q).mem (List.mem_map_of_mem hf)), isPlain_value q f hf⟩

end PageQuery

end Winnow
