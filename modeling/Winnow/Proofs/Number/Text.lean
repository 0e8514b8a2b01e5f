/-
# `Text` — the text of a number is read as the number nearest to it

A numeral has digits, and it may have a fraction and a power of ten (`WritesValue`).  All texts of
positive decimals are numerals that write their value, be they positional or scientific
(`Decimal.writesValue_text`).  What reads numerals makes a decimal of them that has that value
(`readUnsigned?_of_writesValue`), and what is made of a decimal depends on its value only.  So a
floating point number is read back from its text as it was (`Binary64.read?_text`), and the text of
an integer is read as the floating point number nearest to it (`Number.readReal?_text`).
-/
import Winnow.Proofs.Number.Decimal
import Winnow.Proofs.Text.Blank

namespace Winnow

/-! ## Digits -/

theorem digitsValue_append (cs ds : List Char) :
    digitsValue (cs ++ ds) = 10 ^ ds.length * digitsValue cs + digitsValue ds := by
  have happend := Nat.ofDigitChars_append (b := 10) (l := cs) (m := ds) 0
  rw [Nat.ofDigitChars_eq_ofDigitChars_zero (l := ds)] at happend
  exact happend

theorem digitsValue_zeros (k : Nat) : digitsValue (List.replicate k '0') = 0 :=
  (Nat.ofDigitChars_replicate_zero : Nat.ofDigitChars 10 (List.replicate k '0') 0 = 10 ^ k * 0)

theorem isDigit_of_mem_zeros {k : Nat} {c : Char} (h : c ∈ List.replicate k '0') : c.isDigit := by
  rw [List.eq_of_mem_replicate h]
  rfl

/-- Zeros before the digits do not count. -/
theorem digitsValue_zeros_append (k : Nat) (ds : List Char) :
    digitsValue (List.replicate k '0' ++ ds) = digitsValue ds := by
  rw [digitsValue_append, digitsValue_zeros, Nat.mul_zero, Nat.zero_add]

/-- Zeros after the digits multiply by ten. -/
theorem digitsValue_append_zeros (cs : List Char) (k : Nat) :
    digitsValue (cs ++ List.replicate k '0') = 10 ^ k * digitsValue cs := by
  rw [digitsValue_append, digitsValue_zeros, List.length_replicate, Nat.add_zero]

namespace Decimal

variable (d : Decimal)

/-- The digits of the coefficient are the significant ones and zeros. -/
theorem exists_decimalDigits_eq :
    ∃ k, decimalDigits d.coefficient = d.significant ++ List.replicate k '0' := by
  set tail := (decimalDigits d.coefficient).rtakeWhile (· = '0') with htail
  have hsplit : d.significant ++ tail = decimalDigits d.coefficient :=
    List.rdropWhile_append_rtakeWhile
  have hzeros : tail = List.replicate tail.length '0' :=
    List.eq_replicate_length.mpr fun c hc => by simpa using List.mem_rtakeWhile_imp hc
  exact ⟨tail.length, hzeros ▸ hsplit.symm⟩

theorem isDigit_of_mem_significant : ∀ c ∈ d.significant, c.isDigit := by
  intro c hc
  obtain ⟨k, hk⟩ := d.exists_decimalDigits_eq
  exact isDigit_of_mem_decimalDigits (hk ▸ List.mem_append_left _ hc)

theorem significant_ne_nil (h : 0 < d.coefficient) : d.significant ≠ [] := by
  intro hnil
  obtain ⟨k, hk⟩ := d.exists_decimalDigits_eq
  have hvalue := digitsValue_decimalDigits d.coefficient
  rw [hk, hnil, List.nil_append, digitsValue_zeros] at hvalue
  exact h.ne hvalue

/-- The significant digits, with the power of ten of the leading one, have the value of the
decimal. -/
theorem digitsValue_significant :
    (digitsValue d.significant : ℚ) * 10 ^ (d.leading + 1 - d.significant.length) = d.value := by
  obtain ⟨k, hk⟩ := d.exists_decimalDigits_eq
  have hcoefficient : (d.coefficient : ℚ) = 10 ^ k * digitsValue d.significant := by
    have hvalue := digitsValue_decimalDigits d.coefficient
    rw [hk, digitsValue_append_zeros] at hvalue
    exact_mod_cast hvalue.symm
  have hexponent : d.leading + 1 - d.significant.length = k + d.exponent := by
    rw [leading, hk, List.length_append, List.length_replicate]
    push_cast
    ring
  rw [value, hcoefficient, hexponent, zpow_add₀ (by norm_num), zpow_natCast]
  ring

end Decimal

/-! ## Numerals -/

/-- The text after whole digits is nothing, or a point and the digits of a fraction. -/
inductive IsFraction : List Char → List Char → Prop
  | none : IsFraction [] []
  | digits {ds : List Char} : (∀ c ∈ ds, c.isDigit) → IsFraction ('.' :: ds) ds

/-- The text at the end of a numeral is nothing, or a power of ten with its sign. -/
inductive IsPower : List Char → Int → Prop
  | none : IsPower [] 0
  | digits {ds : List Char} (negative : Bool) : ds ≠ [] → (∀ c ∈ ds, c.isDigit) →
      IsPower ('e' :: (if negative then '-' else '+') :: ds) (signedValue negative ds)

/-- The text is a numeral of the value, without a sign. -/
inductive WritesValue : List Char → ℚ → Prop
  | mk {whole point fraction power : List Char} {k : Int} : whole ≠ [] →
      (∀ c ∈ whole, c.isDigit) → IsFraction point fraction → IsPower power k →
      WritesValue (whole ++ (point ++ power))
        (digitsValue (whole ++ fraction) * 10 ^ (k - fraction.length))

/-! ## Reading -/

theorem splitDigits_append {ds rest : List Char} (h : ∀ c ∈ ds, c.isDigit)
    (hrest : ∀ c ∈ rest.head?, c.isDigit = false) : splitDigits (ds ++ rest) = (ds, rest) := by
  rw [splitDigits, List.span_eq_takeWhile_dropWhile, List.takeWhile_append_of_pos h,
    List.dropWhile_append_of_pos h, Text.dropWhile_eq_self_of_head? hrest]
  cases rest with
  | nil => simp
  | cons c rest => simp [hrest c rfl]

theorem splitDigits_eq_self {ds : List Char} (h : ∀ c ∈ ds, c.isDigit) :
    splitDigits ds = (ds, []) := by
  have hsplit := @splitDigits_append ds [] h nofun
  rwa [List.append_nil] at hsplit

theorem IsPower.head? {power : List Char} {k : Int} (h : IsPower power k) :
    ∀ c ∈ power.head?, c = 'e' := by
  cases h with
  | none => exact nofun
  | digits _ _ _ => exact fun c hc => (Option.some.inj hc).symm

theorem splitExponent_of_isPower {power : List Char} {k : Int} (h : IsPower power k) :
    splitExponent power = (k, []) := by
  cases h with
  | none => rfl
  | @digits ds negative hne hdigits =>
      have hsign : splitSign ((if negative then '-' else '+') :: ds) = (negative, ds) := by
        cases negative <;> rfl
      rw [splitExponent, if_pos (by decide)]
      simp only [hsign, splitDigits_eq_self hdigits]

theorem isDigit_head?_of_isPower {power : List Char} {k : Int} (h : IsPower power k) :
    ∀ c ∈ power.head?, c.isDigit = false := by
  intro c hc
  rw [h.head? c hc]
  rfl

namespace Binary64

/-- A numeral is read as a decimal of its value. -/
theorem readUnsigned?_of_writesValue {cs : List Char} {v : ℚ} (h : WritesValue cs v)
    (negative : Bool) :
    ∃ c k, readUnsigned? negative cs = some (ofDecimal negative c k) ∧ (c : ℚ) * 10 ^ k = v := by
  obtain @⟨whole, point, fraction, power, k, hne, hwhole, hfraction, hpower⟩ := h
  refine ⟨digitsValue (whole ++ fraction), k - fraction.length, ?_, rfl⟩
  have hdigits : ∀ c ∈ (point ++ power).head?, c.isDigit = false := by
    cases hfraction with
    | none => exact isDigit_head?_of_isPower hpower
    | digits _ =>
        intro c hc
        cases hc
        rfl
  have hempty : (whole ++ fraction).isEmpty = false := by simp [hne]
  rw [readUnsigned?, splitDigits_append hwhole hdigits]
  cases hfraction with
  | none =>
      -- Without a fraction what follows the digits must not be taken for one.
      have hpoint : ∀ rest, power ≠ '.' :: rest := by
        rintro rest rfl
        exact absurd (hpower.head? '.' rfl) (by decide)
      simp only [List.nil_append, splitExponent_of_isPower hpower, hempty]
      rfl
  | digits hds =>
      simp only [List.cons_append, splitDigits_append hds (isDigit_head?_of_isPower hpower),
        splitExponent_of_isPower hpower, hempty]
      rfl

end Binary64

/-! ## Writing -/

namespace Decimal

variable {ds : List Char}

/-- A numeral without a power of ten writes its digits, moved by the length of its fraction. -/
theorem writesValue_point {whole fraction : List Char} (hne : whole ≠ [])
    (hwhole : ∀ c ∈ whole, c.isDigit) (hfraction : ∀ c ∈ fraction, c.isDigit) :
    WritesValue (whole ++ '.' :: fraction)
      (digitsValue (whole ++ fraction) * 10 ^ (-fraction.length : Int)) := by
  have h := WritesValue.mk hne hwhole (.digits hfraction) .none
  rwa [List.append_nil, Int.zero_sub] at h

theorem isDigit_of_mem_zero : ∀ c ∈ ['0'], c.isDigit := fun _ hc =>
  isDigit_of_mem_zeros (k := 1) hc

/-- Before all digits the point stands after a zero, and zeros fill the places behind it. -/
theorem writesValue_point_zeros (h : ∀ c ∈ ds, c.isDigit) (k : Nat) :
    WritesValue ('0' :: '.' :: (List.replicate k '0' ++ ds))
      (digitsValue ds * 10 ^ (-k - ds.length : Int)) := by
  have hfraction : ∀ c ∈ List.replicate k '0' ++ ds, c.isDigit := fun c hc =>
    (List.mem_append.mp hc).elim isDigit_of_mem_zeros (h c)
  have hwrites := writesValue_point (List.cons_ne_nil '0' []) isDigit_of_mem_zero hfraction
  have hvalue : digitsValue (['0'] ++ (List.replicate k '0' ++ ds)) = digitsValue ds :=
    (digitsValue_zeros_append 1 _).trans (digitsValue_zeros_append k ds)
  have hexponent : (-(List.replicate k '0' ++ ds).length : Int) = -k - ds.length := by
    rw [List.length_append, List.length_replicate]
    omega
  rwa [hvalue, hexponent] at hwrites

section

variable (hne : ds ≠ []) (h : ∀ c ∈ ds, c.isDigit)
include hne h

/-- Behind all digits zeros fill the places before the point, and a zero stands after it. -/
theorem writesValue_zeros_point (k : Nat) :
    WritesValue (ds ++ List.replicate k '0' ++ ['.', '0']) (digitsValue ds * 10 ^ (k : Int)) := by
  have hwhole : ∀ c ∈ ds ++ List.replicate k '0', c.isDigit := fun c hc =>
    (List.mem_append.mp hc).elim (h c) isDigit_of_mem_zeros
  have hwrites := writesValue_point (List.append_ne_nil_of_left_ne_nil hne _) hwhole
    isDigit_of_mem_zero
  have hvalue : digitsValue (ds ++ List.replicate k '0' ++ ['0'])
      = 10 ^ 1 * (10 ^ k * digitsValue ds) := by
    rw [← digitsValue_append_zeros, ← digitsValue_append_zeros]
    rfl
  -- The zero after the point multiplies by ten, and its place divides by ten.
  have htens : ((10 ^ 1 * (10 ^ k * digitsValue ds) : Nat) : ℚ) * 10 ^ (-(1 : Nat) : Int)
      = digitsValue ds * 10 ^ (k : Int) := by
    rw [zpow_neg, zpow_natCast, zpow_natCast]
    push_cast
    field_simp
  rwa [hvalue, List.length_singleton, htens] at hwrites

/-- Among the digits the point splits them. -/
theorem writesValue_split {k : Nat} (hpos : 0 < k) (hlt : k < ds.length) :
    WritesValue (ds.take k ++ '.' :: ds.drop k) (digitsValue ds * 10 ^ (k - ds.length : Int)) := by
  have hwhole : ds.take k ≠ [] := by
    rw [ne_eq, List.take_eq_nil_iff]
    exact not_or.mpr ⟨hpos.ne', hne⟩
  have hwrites := writesValue_point hwhole (fun c hc => h c (List.mem_of_mem_take hc))
    (fun c hc => h c (List.mem_of_mem_drop hc) : ∀ c ∈ ds.drop k, c.isDigit)
  have hexponent : (-(ds.drop k).length : Int) = k - ds.length := by
    rw [List.length_drop]
    omega
  rwa [List.take_append_drop, hexponent] at hwrites

/-- Digits with a point have the value of the digits, moved to the place of the point. -/
theorem writesValue_positional (places : Int) :
    WritesValue (positional ds places) (digitsValue ds * 10 ^ (places - ds.length)) := by
  unfold positional
  dsimp only
  split
  · next hplaces =>
    have hwrites := writesValue_point_zeros h (-places).toNat
    rwa [Int.toNat_of_nonneg (by omega), neg_neg] at hwrites
  · next hplaces =>
    have hcast : (places.toNat : Int) = places := Int.toNat_of_nonneg (by omega)
    split
    · next hlength =>
      have hwrites := writesValue_zeros_point hne h (places.toNat - ds.length)
      rwa [Nat.cast_sub hlength, hcast] at hwrites
    · next hlength =>
      have hwrites := writesValue_split hne h (by omega) (not_le.mp hlength)
      rwa [hcast] at hwrites

end

theorem isPower_exponentText (width : Nat) (x : Int) : IsPower ('e' :: exponentText width x) x := by
  set zeros := List.replicate (width - (decimalDigits x.natAbs).length) '0' with hzeros
  have hne : zeros ++ decimalDigits x.natAbs ≠ [] := by simp [decimalDigits_ne_nil]
  have hdigits : ∀ c ∈ zeros ++ decimalDigits x.natAbs, c.isDigit := fun c hc =>
    (List.mem_append.mp hc).elim isDigit_of_mem_zeros isDigit_of_mem_decimalDigits
  have hpower := IsPower.digits (decide (x < 0)) hne hdigits
  rw [signedValue, hzeros, digitsValue_zeros_append, ← signedValue, signedValue_decimalDigits]
    at hpower
  simp only [decide_eq_true_eq] at hpower
  exact hpower

/-- One digit before the point, and a power of ten after all of them. -/
theorem writesValue_scientific (hne : ds ≠ []) (h : ∀ c ∈ ds, c.isDigit) (width : Nat) (x : Int) :
    WritesValue (scientific width ds x) (digitsValue ds * 10 ^ (x + 1 - ds.length)) := by
  have hpower := isPower_exponentText width x
  match ds, hne, h with
  | [first], hne, h =>
      have hwrites := WritesValue.mk hne h .none hpower
      have hexponent : x + 1 - ([first].length : Int) = x - ([] : List Char).length := by simp
      rwa [hexponent]
  | first :: second :: rest, _, h =>
      have hfirst : ∀ c ∈ [first], c.isDigit := fun c hc =>
        h c (List.mem_of_mem_take (i := 1) hc)
      have hwrites := WritesValue.mk (List.cons_ne_nil first []) hfirst
        (.digits fun c hc => h c (List.mem_cons_of_mem _ hc)) hpower
      have hexponent : x + 1 - ((first :: second :: rest).length : Int)
          = x - (second :: rest).length := by
        push_cast [List.length_cons]
        ring
      rwa [hexponent]

/-- The text of a decimal writes its value. -/
theorem writesValue_text {d : Decimal} (layout : DecimalLayout) (h : 0 < d.coefficient) :
    WritesValue (d.text layout) d.value := by
  have hne := d.significant_ne_nil h
  rw [← d.digitsValue_significant]
  unfold text
  dsimp only
  split
  · exact writesValue_positional hne d.isDigit_of_mem_significant _
  · exact writesValue_scientific hne d.isDigit_of_mem_significant _ _

end Decimal

/-! ## Signs and words -/

section

variable {cs : List Char} {v : ℚ}

theorem exists_digit_of_writesValue (h : WritesValue cs v) :
    ∃ c rest, cs = c :: rest ∧ c.isDigit := by
  obtain @⟨whole, point, fraction, power, k, hne, hwhole, -, -⟩ := h
  obtain ⟨c, rest, rfl⟩ := List.exists_cons_of_ne_nil hne
  exact ⟨c, _, rfl, hwhole c List.mem_cons_self⟩

theorem splitSign_of_writesValue (h : WritesValue cs v) (negative : Bool) :
    splitSign ((if negative then ['-'] else []) ++ cs) = (negative, cs) := by
  obtain ⟨c, rest, rfl, hc⟩ := exists_digit_of_writesValue h
  cases negative with
  | true => rfl
  | false =>
      have hminus : c ≠ '-' := by
        rintro rfl
        exact absurd hc (by decide)
      have hplus : c ≠ '+' := by
        rintro rfl
        exact absurd hc (by decide)
      simp [splitSign, hminus, hplus]

theorem toLower_of_isDigit {c : Char} (h : c.isDigit) : c.toLower = c := by
  have hhigh : c.toNat ≤ 57 := (Char.isDigit_iff_toNat.mp h).2
  refine dif_neg fun hupper => ?_
  have hlow : 65 ≤ c.toNat := UInt32.le_iff_toNat_le.mp hupper.1
  omega

/-- The words begin with two letters only. -/
theorem readWord?_cons_eq_none {c : Char} (hi : c.toLower ≠ 'i') (hn : c.toLower ≠ 'n')
    (negative : Bool) (rest : List Char) : Binary64.readWord? negative (c :: rest) = none := by
  have hword : ∀ first word, c.toLower ≠ first →
      String.ofList ((c :: rest).map Char.toLower) ≠ String.ofList (first :: word) := by
    intro first word hfirst heq
    rw [String.ofList_inj, List.map_cons] at heq
    exact hfirst (List.cons.inj heq).1
  unfold Binary64.readWord?
  split
  · next heq => exact absurd heq (hword 'i' ['n', 'f'] hi)
  · next heq => exact absurd heq (hword 'i' "nfinity".toList hi)
  · next heq => exact absurd heq (hword 'n' ['a', 'n'] hn)
  · rfl

/-- A numeral is none of the words. -/
theorem readWord?_of_writesValue (h : WritesValue cs v) (negative : Bool) :
    Binary64.readWord? negative cs = none := by
  obtain ⟨c, rest, rfl, hc⟩ := exists_digit_of_writesValue h
  have hlower := toLower_of_isDigit hc
  refine readWord?_cons_eq_none ?_ ?_ negative rest
  all_goals
    rw [hlower]
    rintro rfl
    exact absurd hc (by decide)

/-- A numeral with a sign is read as a decimal of its value with that sign. -/
theorem read?_of_writesValue (h : WritesValue cs v) (negative : Bool) :
    ∃ c k, Binary64.read? ((if negative then ['-'] else []) ++ cs)
      = some (.ofDecimal negative c k) ∧ (c : ℚ) * 10 ^ k = v := by
  obtain ⟨c, k, hread, hvalue⟩ := Binary64.readUnsigned?_of_writesValue h negative
  refine ⟨c, k, ?_, hvalue⟩
  rw [Binary64.read?, splitSign_of_writesValue h]
  simp only [readWord?_of_writesValue h, hread]
  rfl

end

namespace Binary64

theorem writesValue_shortest {m : Nat} (hm : 0 < m) (e : Int) :
    WritesValue ((shortest m e).text realLayout) (shortest m e).value := by
  refine Decimal.writesValue_text realLayout (Nat.pos_of_ne_zero fun hc => ?_)
  have hpos := pos_of_roundsTo hm (roundsTo_shortest hm e)
  rw [Decimal.value, hc, Nat.cast_zero, zero_mul] at hpos
  exact lt_irrefl 0 hpos

/-- A floating point number is read from its text as it was. -/
theorem read?_text (x : Binary64) : read? x.text = some x := by
  cases x with
  | nan => rfl
  | infinite negative => cases negative <;> rfl
  | finite negative m e canonical =>
      by_cases hzero : m = 0
      · subst hzero
        obtain rfl : e = -1074 := canonical.2.2.2.resolve_left (by decide)
        cases negative <;> rfl
      · have hm : 0 < m := Nat.pos_of_ne_zero hzero
        obtain ⟨c, k, hread, hvalue⟩ := read?_of_writesValue (writesValue_shortest hm e) negative
        have hrounds : RoundsTo m e (c * 10 ^ k) := hvalue.symm ▸ roundsTo_shortest hm e
        rw [text, if_neg hzero, hread, ofDecimal_of_roundsTo canonical hm hrounds]

end Binary64

/-! ## Lenient reading -/

/-- The character is in ASCII, and it is neither a blank nor an underscore, so that the lenient
reader leaves it as it is. -/
def IsPlain (c : Char) : Prop := c.toNat < 0x80 ∧ Text.isBlank c = false ∧ c ≠ '_'

instance (c : Char) : Decidable (IsPlain c) := inferInstanceAs (Decidable (_ ∧ _))

theorem isPlain_of_isDigit {c : Char} (h : c.isDigit) : IsPlain c := by
  have hhigh : c.toNat ≤ 57 := (Char.isDigit_iff_toNat.mp h).2
  refine ⟨by omega, Text.isBlank_of_isDigit h, ?_⟩
  rintro rfl
  exact absurd hhigh (by decide)

theorem IsFraction.isPlain {point fraction : List Char} (h : IsFraction point fraction) :
    ∀ c ∈ point, IsPlain c := by
  cases h with
  | none => exact nofun
  | digits hds =>
      intro c hc
      rcases List.mem_cons.mp hc with rfl | hc
      · decide
      · exact isPlain_of_isDigit (hds c hc)

theorem IsPower.isPlain {power : List Char} {k : Int} (h : IsPower power k) :
    ∀ c ∈ power, IsPlain c := by
  cases h with
  | none => exact nofun
  | digits negative _ hds =>
      intro c hc
      rcases List.mem_cons.mp hc with rfl | hc
      · decide
      rcases List.mem_cons.mp hc with rfl | hc
      · cases negative <;> decide
      · exact isPlain_of_isDigit (hds c hc)

theorem isPlain_of_writesValue {cs : List Char} {v : ℚ} (h : WritesValue cs v) (negative : Bool) :
    ∀ c ∈ (if negative then ['-'] else []) ++ cs, IsPlain c := by
  obtain ⟨-, hwhole, hfraction, hpower⟩ := h
  intro c hc
  simp only [List.mem_append] at hc
  rcases hc with hc | hc | hc | hc
  · cases negative with
    | true =>
        rw [List.mem_singleton.mp hc]
        decide
    | false => cases hc
  · exact isPlain_of_isDigit (hwhole c hc)
  · exact hfraction.isPlain c hc
  · exact hpower.isPlain c hc

theorem Binary64.isPlain_text (x : Binary64) : ∀ c ∈ x.text, IsPlain c := by
  cases x with
  | nan => simp [text, IsPlain, Text.isBlank, Text.isSpace]
  | infinite negative => cases negative <;> simp [text, IsPlain, Text.isBlank, Text.isSpace]
  | finite negative m e canonical =>
      rw [text]
      by_cases hzero : m = 0
      · rw [if_pos hzero]
        cases negative <;> simp [IsPlain, Text.isBlank, Text.isSpace]
      · rw [if_neg hzero]
        exact isPlain_of_writesValue (writesValue_shortest (Nat.pos_of_ne_zero hzero) e) negative

namespace Numeral

variable {cs : List Char}

theorem joinGroups?_eq_some_self (h : '_' ∉ cs) (before : Char) :
    joinGroups? before cs = some cs := by
  induction cs generalizing before with
  | nil => rfl
  | cons c rest ih =>
      unfold joinGroups?
      split
      · next heq => cases heq
      · next heq =>
        rw [(List.cons.inj heq).1] at h
        exact absurd List.mem_cons_self h
      · next heq =>
        obtain ⟨rfl, rfl⟩ := List.cons.inj heq
        rw [ih (List.not_mem_of_not_mem_cons h)]
        rfl

/-- A text of plain characters is read as it is. -/
theorem readReal?_strip (h : ∀ c ∈ cs, IsPlain c) :
    readReal? (Text.strip cs) = Binary64.read? cs := by
  have hstrip : Text.strip cs = cs :=
    Text.trimWhile_eq_self (Text.isTrimmed_of_forall fun c hc => (h c hc).2.1)
  have htrim : Text.trim cs = cs := by
    refine Text.trimWhile_eq_self (Text.isTrimmed_of_forall fun c hc => ?_)
    exact Text.isSpace_of_isBlank (h c hc).2.1
  have hdigits : cs.map Text.toAsciiDigit = cs :=
    (List.map_congr_left fun c hc => if_pos (h c hc).1).trans (List.map_id cs)
  have hunderscore : '_' ∉ cs := fun hmem => (h '_' hmem).2.2 rfl
  rw [readReal?, plain?, hstrip, hdigits, htrim, joinGroups?_eq_some_self hunderscore]
  rfl

end Numeral

namespace Number

/-- The floating point number nearest to a number. -/
def nearestReal : Number → Binary64
  | .integer i => .ofIntRatio i 1
  | .real x => x

theorem writesValue_decimalDigits (n : Nat) : WritesValue (decimalDigits n) n := by
  have hwrites := WritesValue.mk (decimalDigits_ne_nil n) (fun _ => isDigit_of_mem_decimalDigits)
    .none .none
  simpa [digitsValue_decimalDigits] using hwrites

/-- The text of a number is read as the floating point number nearest to it. -/
theorem readReal?_text {n : Number} {cs : List Char} (h : n.text? = some cs) :
    Numeral.readReal? (Text.strip cs) = some n.nearestReal := by
  cases n with
  | integer i =>
      obtain ⟨-, rfl⟩ := integerText?_eq_some_iff.mp h
      have hwrites := writesValue_decimalDigits i.natAbs
      obtain ⟨c, k, hread, hvalue⟩ := read?_of_writesValue hwrites (decide (i < 0))
      have hone : (c : ℚ) * 10 ^ k = (i.natAbs : ℚ) / (1 : Nat) := by
        rw [hvalue, Nat.cast_one, div_one]
      have hplain := isPlain_of_writesValue hwrites (decide (i < 0))
      simp only [decide_eq_true_eq] at hread hplain
      rw [Numeral.readReal?_strip hplain, hread, Binary64.ofDecimal_eq_ofRatio Nat.one_pos hone]
      rfl
  | real x =>
      cases h
      rw [Numeral.readReal?_strip (Binary64.isPlain_text x), Binary64.read?_text]
      rfl

end Number

end Winnow
