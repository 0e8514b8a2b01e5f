/-
# `Rendering` — what is written in the standard form is read back

The standard form of a time leaves three choices open: the separator before the time of day,
whether a fraction of zero is written, and how an offset of zero is given.  The texts of a time are
all those that come about by such a choice (`WritesIso`).  Each part is read back in front of any
rest that cannot be taken for more of it, and hence a text of a time is read as just that time
(`Iso.read?_of_writesIso`); the readers of other forms are never asked.  And since a text starts and
ends with characters that are no blanks, dropping the blanks around it leaves all of it.
-/
import Winnow.Filter.Rule
import Winnow.Proofs.Calendar.Instant
import Winnow.Proofs.Number.Text
import Winnow.Proofs.Text.Blank

namespace Winnow

/-! ## Texts of a time -/

/-- The text is the fraction of a second; zero need not be written. -/
inductive WritesFraction : Nat → List Char → Prop
  | none : WritesFraction 0 []
  | six (microsecond : Nat) : WritesFraction microsecond ('.' :: padded 6 microsecond)

/-- The text is an offset in whole minutes of less than a day, or there is none. -/
inductive WritesZone : Option Int → List Char → Prop
  | none : WritesZone none []
  | utc : WritesZone (some 0) ['Z']
  | signed (negative : Bool) {h m : Nat} : h < 24 → m < 60 →
      WritesZone
        (some (if negative then -((h * 3600 + m * 60 : Nat) : Int) else (h * 3600 + m * 60 : Nat)))
        ((if negative then '-' else '+') :: (padded 2 h ++ ':' :: padded 2 m))

/-- The text is the time in the standard form; a date alone is its midnight. -/
inductive WritesIso : DateTime → List Char → Prop
  | date (d : Date) : WritesIso ⟨d, .midnight, none⟩ d.iso
  | clock (t : DateTime) {separator : Char} {fraction zone : List Char} :
      separator = 'T' ∨ separator = ' ' → WritesFraction t.time.microsecond fraction →
      WritesZone t.offset zone →
      WritesIso t (t.date.iso ++ separator :: (padded 2 t.time.hour ++
        ':' :: (padded 2 t.time.minute ++ ':' :: (padded 2 t.time.second ++ (fraction ++ zone)))))

namespace DateTime

/-- The offset from UTC, if there is one, is a number of minutes. -/
def HasMinuteOffset (t : DateTime) : Prop := ∀ offset, t.offset = some offset → 60 ∣ offset

theorem writesFraction_iso (t : TimeOfDay) : WritesFraction t.microsecond
    (if t.microsecond = 0 then [] else '.' :: padded 6 t.microsecond) := by
  split
  · rename_i hzero
    rw [hzero]
    exact .none
  · exact .six _

theorem writesZone_offsetIso {offset : Int} (hlow : -86400 < offset) (hhigh : offset < 86400)
    (hminute : 60 ∣ offset) : WritesZone (some offset) (offsetIso offset) := by
  have hwhole : offset.natAbs % 60 = 0 := by omega
  have hhour : offset.natAbs / 3600 < 24 := by omega
  have hminutes : offset.natAbs / 60 % 60 < 60 := by omega
  have hparts : offset.natAbs / 3600 * 3600 + offset.natAbs / 60 % 60 * 60 = offset.natAbs := by
    omega
  have hsign :
      (if decide (offset < 0) then -(offset.natAbs : Int) else offset.natAbs) = offset := by
    rcases lt_or_ge offset 0 with hnegative | hpositive
    · rw [if_pos (decide_eq_true hnegative)]
      omega
    · rw [if_neg (by simpa using hpositive)]
      omega
  have hsigned := WritesZone.signed (decide (offset < 0)) hhour hminutes
  rw [hparts, hsign] at hsigned
  simpa [offsetIso, hwhole] using hsigned

/-- A time is written in the standard form unless its offset has no such form. -/
theorem writesIso_iso {t : DateTime} (hmoderate : t.HasModerateOffset)
    (hminute : t.HasMinuteOffset) : WritesIso t t.iso := by
  have hzone : WritesZone t.offset ((t.offset.map offsetIso).getD []) := by
    cases hoffset : t.offset with
    | none => exact .none
    | some offset =>
        obtain ⟨hlow, hhigh⟩ := hmoderate offset hoffset
        exact writesZone_offsetIso hlow hhigh (hminute offset hoffset)
  have hclock := WritesIso.clock t (Or.inl rfl) (writesFraction_iso t.time) hzone
  simpa [iso, wallIso, TimeOfDay.iso] using hclock

end DateTime

/-! ## Reading -/

/-- A time of day is found by its parts. -/
theorem TimeOfDay.of?_self (t : TimeOfDay) : of? t.hour t.minute t.second t.microsecond = some t :=
  dif_pos t.valid

theorem padded_ne_nil {width n : Nat} (hwidth : 0 < width) (h : n < 10 ^ width) :
    padded width n ≠ [] :=
  List.ne_nil_of_length_pos (by rwa [length_padded hwidth h])

/-- What stands behind a time of day is neither one more digit nor the mark of a fraction. -/
theorem WritesZone.head? {offset : Option Int} {zone : List Char} (h : WritesZone offset zone) :
    ∀ c ∈ zone.head?, c = 'Z' ∨ c = '+' ∨ c = '-' := by
  cases h with
  | none => exact nofun
  | utc => simp
  | signed negative _ _ => cases negative <;> simp

namespace Iso

theorem fractionMicroseconds_padded {n : Nat} (h : n < 1000000) :
    fractionMicroseconds (padded 6 n) = n := by
  have hlength : (padded 6 n).length = 6 := length_padded (by decide) h
  have htake : (padded 6 n).take 6 = padded 6 n := List.take_of_length_le hlength.le
  rw [fractionMicroseconds]
  simp only [htake, hlength, digitsValue_padded]
  exact Nat.mul_one n

theorem takeSeconds?_append {s microsecond : Nat} {fraction rest : List Char} (hs : s < 60)
    (hmicrosecond : microsecond < 1000000) (hfraction : WritesFraction microsecond fraction)
    (hrest : ∀ c ∈ rest.head?, c = 'Z' ∨ c = '+' ∨ c = '-') :
    takeSeconds? (':' :: (padded 2 s ++ (fraction ++ rest))) = some (s, microsecond, rest) := by
  have htake := takeNumber?_padded (by decide) (show s < 10 ^ 2 by omega) (fraction ++ rest)
  rw [takeSeconds?, htake]
  cases hfraction with
  | none =>
      cases rest with
      | nil => rfl
      | cons c rest =>
          have hmark : ¬ (c = '.' ∨ c = ',') := by
            rcases hrest c rfl with rfl | rfl | rfl <;> decide
          simp [hmark]
  | six =>
      have hdigit : ∀ c ∈ rest.head?, c.isDigit = false := by
        intro c hc
        rcases hrest c hc with rfl | rfl | rfl <;> decide
      have hsplit : splitDigits (padded 6 microsecond ++ rest) = (padded 6 microsecond, rest) :=
        splitDigits_append (fun _ => isDigit_of_mem_padded) hdigit
      have hvalue := fractionMicroseconds_padded hmicrosecond
      -- a fraction without digits would not be read
      obtain ⟨d, ds, hpadded⟩ := List.exists_cons_of_ne_nil
        (padded_ne_nil (by decide) (show microsecond < 10 ^ 6 from hmicrosecond))
      rw [hpadded] at hsplit hvalue ⊢
      rw [List.cons_append] at hsplit
      simp [hsplit, hvalue]

theorem takeTime?_append (t : TimeOfDay) {fraction rest : List Char}
    (hfraction : WritesFraction t.microsecond fraction)
    (hrest : ∀ c ∈ rest.head?, c = 'Z' ∨ c = '+' ∨ c = '-') :
    takeTime? (padded 2 t.hour ++ ':' :: (padded 2 t.minute ++
      ':' :: (padded 2 t.second ++ (fraction ++ rest)))) = some (t, rest) := by
  obtain ⟨hhour, hminute, hsecond, hmicrosecond⟩ := t.valid
  have hhour' : t.hour < 10 ^ 2 := by omega
  have hminute' : t.minute < 10 ^ 2 := by omega
  have hseconds := takeSeconds?_append hsecond hmicrosecond hfraction hrest
  simp [takeTime?, takeNumber?_padded (by decide) hhour', takeMark?_cons,
    takeNumber?_padded (by decide) hminute', hseconds, TimeOfDay.of?_self]

theorem readOffset?_append (negative : Bool) {h m : Nat} (hh : h < 24) (hm : m < 60) :
    readOffset? negative (padded 2 h ++ ':' :: padded 2 m) = some
      (if negative then -((h * 3600 + m * 60 : Nat) : Int) else (h * 3600 + m * 60 : Nat)) := by
  have hh' : h < 10 ^ 2 := by omega
  have hm' : m < 10 ^ 2 := by omega
  have hminutes : takeNumber? 2 (padded 2 m) = some (m, []) := by
    have htake := takeNumber?_padded (by decide) hm' []
    rwa [List.append_nil] at htake
  have hday : h * 3600 + m * 60 < 86400 := by omega
  simp [readOffset?, takeNumber?_padded (by decide) hh', takeMark?_cons, hminutes, hm, hday]

theorem readZone?_of_writesZone {offset : Option Int} {zone : List Char}
    (h : WritesZone offset zone) : readZone? zone = some offset := by
  cases h with
  | none => rfl
  | utc => rfl
  | @signed negative h m hh hm =>
      have hread := readOffset?_append negative hh hm
      obtain ⟨d, ds, hpadded⟩ := List.exists_cons_of_ne_nil
        (padded_ne_nil (by decide) (show h < 10 ^ 2 by omega))
      rw [hpadded, List.cons_append] at hread ⊢
      cases negative <;> simp [readZone?, hread]

/-- A text of a time in the standard form is read as that time. -/
theorem read?_of_writesIso {t : DateTime} {cs : List Char} (h : WritesIso t cs) :
    read? cs = some t := by
  cases h with
  | date d => exact read?_iso d
  | @clock _ separator _ _ hseparator hfraction hzone =>
      have hmark : isSeparator separator = true := by
        rcases hseparator with rfl | rfl <;> rfl
      simp [read?, takeDate?_iso, hmark, readClock?, takeTime?_append t.time hfraction hzone.head?,
        readZone?_of_writesZone hzone]

end Iso

/-! ## Blanks -/

theorem isBlank_of_mem_padded {width n : Nat} {c : Char} (h : c ∈ padded width n) :
    Text.isBlank c = false :=
  Text.isBlank_of_isDigit (isDigit_of_mem_padded h)

theorem WritesFraction.isBlank {n : Nat} {fraction : List Char} (h : WritesFraction n fraction) :
    ∀ c ∈ fraction, Text.isBlank c = false := by
  cases h with
  | none => exact nofun
  | six => exact List.forall_mem_cons.mpr ⟨rfl, fun _ => isBlank_of_mem_padded⟩

theorem WritesZone.isBlank {offset : Option Int} {zone : List Char} (h : WritesZone offset zone) :
    ∀ c ∈ zone, Text.isBlank c = false := by
  cases h with
  | none => exact nofun
  | utc => exact List.forall_mem_singleton.mpr rfl
  | signed negative _ _ =>
      refine List.forall_mem_cons.mpr ⟨by cases negative <;> rfl, ?_⟩
      exact List.forall_mem_append.mpr ⟨fun _ => isBlank_of_mem_padded,
        List.forall_mem_cons.mpr ⟨rfl, fun _ => isBlank_of_mem_padded⟩⟩

theorem Date.isBlank_of_mem_iso {d : Date} {c : Char} (h : c ∈ d.iso) : Text.isBlank c = false := by
  rcases isDigit_or_eq_of_mem_iso h with hdigit | rfl
  · exact Text.isBlank_of_isDigit hdigit
  · rfl

theorem Date.iso_ne_nil (d : Date) : d.iso ≠ [] := by
  simp [iso]

/-- Only the separator is a blank, and it is at neither end. -/
theorem WritesIso.isTrimmed {t : DateTime} {cs : List Char} (h : WritesIso t cs) :
    Text.IsTrimmed Text.isBlank cs := by
  cases h with
  | date d => exact Text.isTrimmed_of_forall fun _ => Date.isBlank_of_mem_iso
  | clock t hseparator hfraction hzone =>
      refine Text.isTrimmed_append t.date.iso_ne_nil (by simp) (fun _ => Date.isBlank_of_mem_iso) ?_
      simp only [List.forall_mem_append, List.forall_mem_cons]
      exact ⟨fun _ => isBlank_of_mem_padded, rfl, fun _ => isBlank_of_mem_padded, rfl,
        fun _ => isBlank_of_mem_padded, hfraction.isBlank, hzone.isBlank⟩

/-! ## The date that a text names -/

theorem WritesIso.strip {t : DateTime} {left cs right : List Char} (h : WritesIso t cs)
    (hleft : ∀ c ∈ left, Text.isBlank c = true) (hright : ∀ c ∈ right, Text.isBlank c = true) :
    Text.strip (left ++ cs ++ right) = cs :=
  Text.trimWhile_append hleft hright h.isTrimmed

/-- The standard form is tried first. -/
theorem DateTime.read_of_writesIso [Present] {t : DateTime} {cs : List Char} (h : WritesIso t cs) :
    read cs = .ok (some t) := by
  have hstandard : readStandard? cs = some t := by
    rw [readStandard?, Iso.read?_of_writesIso h]
    rfl
  cases cs with
  | nil => cases hstandard
  | cons c rest => simp [read, hstandard]

theorem Json.date_string [Present] (s : String) : (Json.string s).date =
    match DateTime.read (Text.strip s.toList) with
    | .ok t => .ok t
    | .error _ => .error .imprecise := rfl

/-- Reading undoes writing.  A time whose offset has a standard form is written in it, and all texts
of a time in that form, whatever blanks are around them, are read as exactly that time.  As values
of a filter they are dates. -/
theorem iso_text_is_read_back [Present] (t : DateTime) :
    (t.HasModerateOffset → t.HasMinuteOffset → WritesIso t t.iso) ∧
    ∀ left cs right, WritesIso t cs → (∀ c ∈ left, Text.isBlank c = true) →
      (∀ c ∈ right, Text.isBlank c = true) →
      let text := Json.string (String.ofList (left ++ cs ++ right))
      text.date = .ok (some t) ∧ (Target.ofJson text).map Target.kind = .ok .date := by
  refine ⟨DateTime.writesIso_iso, ?_⟩
  intro left cs right h hleft hright text
  have hdate : text.date = .ok (some t) := by
    rw [Json.date_string, String.toList_ofList, h.strip hleft hright, DateTime.read_of_writesIso h]
  refine ⟨hdate, ?_⟩
  rw [Target.ofJson, hdate]
  rfl

/-- The last microsecond of a leap day, at the offset farthest behind UTC, with a space before the
time of day and with blanks around it. -/
theorem last_microsecond_of_leap_day_is_read_back :
    let _ : Present := ⟨2025⟩
    let t : DateTime := ⟨⟨2000, 2, 29, by decide⟩, ⟨23, 59, 59, 999999, by decide⟩, some (-86340)⟩
    let text := Json.string "\u3000\n2000-02-29 23:59:59.999999-23:59 "
    t.iso = "2000-02-29T23:59:59.999999-23:59".toList ∧ WritesIso t t.iso ∧
      text.date = .ok (some t) ∧ (Target.ofJson text).map Target.kind = .ok .date := by
  intro present t text
  have hwrites : WritesIso t "2000-02-29 23:59:59.999999-23:59".toList :=
    (congrArg (WritesIso t) (by decide +kernel)).mp
      (.clock t (Or.inr rfl) (.six _) (.signed true (by decide : 23 < 24) (by decide : 59 < 60)))
  have htext : String.ofList
      (['\u3000', '\n'] ++ "2000-02-29 23:59:59.999999-23:59".toList ++ [' '])
        = "\u3000\n2000-02-29 23:59:59.999999-23:59 " := by decide +kernel
  obtain ⟨hiso, hread⟩ := iso_text_is_read_back t
  have hdate := hread ['\u3000', '\n'] _ [' '] hwrites (by simp [Text.isBlank, Text.isSpace])
    (by simp [Text.isBlank, Text.isSpace])
  rw [htext] at hdate
  exact ⟨by decide +kernel, hiso (by rintro _ ⟨⟩; decide) (by rintro _ ⟨⟩; decide), hdate⟩

end Winnow
