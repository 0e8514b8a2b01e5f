/-
# `Percent` — what percent-encoding does to a text that has percent signs

The encoding of a path leaves percent signs alone, so that it cannot be undone: an escape that the
text has on its own and one that the encoding makes look alike.  It is shown here that this is the
only reason.  A text comes back if and only if it has no escapes (`decode_encode_iff`).

That a text with escapes never comes back is seen by counting characters of ASCII: an escape that
was there before has three of them, and decoding leaves one at most.
-/
import Winnow.Proofs.Text.Pieces
import Winnow.Proofs.Text.Utf8
import Winnow.Web.Percent

namespace Winnow.Percent

open Text

/-- The character is a hexadecimal digit. -/
def isHexDigit (c : Char) : Bool := (Json.hexValue? c).isSome

/-- The text has a percent sign with two hexadecimal digits after it. -/
def HasEscape (cs : List Char) : Prop :=
  ∃ before a b after, cs = before ++ '%' :: a :: b :: after ∧ isHexDigit a ∧ isHexDigit b

/-- The text is that of an escape without its percent sign, and more. -/
def IsEscaped (cs : List Char) : Prop :=
  ∃ a b after, cs = a :: b :: after ∧ isHexDigit a ∧ isHexDigit b

theorem hasEscape_cons_iff {c : Char} {cs : List Char} :
    HasEscape (c :: cs) ↔ (c = '%' ∧ IsEscaped cs) ∨ HasEscape cs := by
  constructor
  · rintro ⟨before, a, b, after, h, ha, hb⟩
    cases before with
    | nil =>
        cases h
        exact Or.inl ⟨rfl, a, b, after, rfl, ha, hb⟩
    | cons d before =>
        cases h
        exact Or.inr ⟨before, a, b, after, rfl, ha, hb⟩
  · rintro (⟨rfl, a, b, after, rfl, ha, hb⟩ | ⟨before, a, b, after, rfl, ha, hb⟩)
    · exact ⟨[], a, b, after, rfl, ha, hb⟩
    · exact ⟨c :: before, a, b, after, rfl, ha, hb⟩

/-- The characters that are kept are of ASCII, and those of an escape are among them. -/
structure KeepsEscapes (keep : Char → Bool) : Prop where
  ascii : ∀ c, keep c = true → isAsciiChar c = true
  percent : keep '%' = true
  digit : ∀ c, isHexDigit c = true → keep c = true

/-! ## One byte -/

/-- A hexadecimal digit in upper case. -/
def upperDigit (n : Nat) : Char := (hexDigit n).toUpper

theorem encodeByte_eq (b : UInt8) :
    encodeByte b = ['%', upperDigit (b.toNat / 16 % 16), upperDigit (b.toNat % 16)] :=
  rfl

theorem hexValue?_upperDigit : ∀ n < 16, Json.hexValue? (upperDigit n) = some n := by
  decide

theorem isHexDigit_upperDigit : ∀ n < 16, isHexDigit (upperDigit n) = true := by
  decide

theorem isAsciiChar_of_isHexDigit {c : Char} (h : isHexDigit c) : isAsciiChar c := by
  have hle : ∀ {d : Char}, d.toNat < 0x80 → c ≤ d → isAsciiChar c := by
    intro d hd hcd
    have : c.toNat ≤ d.toNat := hcd
    exact decide_eq_true (by omega)
  unfold isHexDigit Json.hexValue? at h
  split at h
  · next hdigit =>
    simp only [Char.isDigit, Bool.and_eq_true, decide_eq_true_eq] at hdigit
    exact hle (d := '9') (by decide) hdigit.2
  · split at h
    · next hlower => exact hle (by decide) hlower.2
    · split at h
      · next hupper => exact hle (by decide) hupper.2
      · cases h

theorem ofNat_toNat_ofNat {c : Char} (h : isAsciiChar c) :
    Char.ofNat (UInt8.ofNat c.toNat).toNat = c := by
  have hlt : c.toNat < 0x80 := of_decide_eq_true h
  rw [UInt8.toNat_ofNat_of_lt' (Nat.lt_trans hlt (by decide)), Char.ofNat_toNat]

theorem ofNat_toNat_ne {c : Char} (h : isAsciiChar c) (hne : c ≠ '%') :
    UInt8.ofNat c.toNat ≠ 0x25 := by
  intro hbyte
  have hc := ofNat_toNat_ofNat h
  rw [hbyte] at hc
  exact hne hc.symm

theorem hexByte?_eq_some_iff {a b : Char} {byte : UInt8} (ha : isAsciiChar a)
    (hb : isAsciiChar b) :
    hexByte? (UInt8.ofNat a.toNat) (UInt8.ofNat b.toNat) = some byte ↔
      ∃ x y, Json.hexValue? a = some x ∧ Json.hexValue? b = some y ∧
        UInt8.ofNat (16 * x + y) = byte := by
  rw [hexByte?, ofNat_toNat_ofNat ha, ofNat_toNat_ofNat hb, Json.hexNumber?]
  cases hx : Json.hexValue? a <;> cases hy : Json.hexValue? b <;> simp [hx, hy]

theorem isHexDigit_of_hexByte? {a b byte : UInt8} (h : hexByte? a b = some byte) :
    isHexDigit (Char.ofNat a.toNat) ∧ isHexDigit (Char.ofNat b.toNat) := by
  unfold hexByte? Json.hexNumber? at h
  unfold isHexDigit
  cases hx : Json.hexValue? (Char.ofNat a.toNat) <;>
    cases hy : Json.hexValue? (Char.ofNat b.toNat) <;> simp [hx, hy] at h ⊢

theorem hexByte?_encodeByte (b : UInt8) :
    hexByte? (UInt8.ofNat (upperDigit (b.toNat / 16 % 16)).toNat)
      (UInt8.ofNat (upperDigit (b.toNat % 16)).toNat) = some b := by
  have hhigh : b.toNat / 16 % 16 < 16 := Nat.mod_lt _ (by decide)
  have hlow : b.toNat % 16 < 16 := Nat.mod_lt _ (by decide)
  refine (hexByte?_eq_some_iff (isAsciiChar_of_isHexDigit (isHexDigit_upperDigit _ hhigh))
    (isAsciiChar_of_isHexDigit (isHexDigit_upperDigit _ hlow))).mpr
    ⟨_, _, hexValue?_upperDigit _ hhigh, hexValue?_upperDigit _ hlow, ?_⟩
  have hb := b.toNat_lt
  have hsum : 16 * (b.toNat / 16 % 16) + b.toNat % 16 = b.toNat := by omega
  rw [hsum, UInt8.ofNat_toNat]

/-! ## Decoding -/

theorem toUtf8_cons (c : Char) (cs : List Char) :
    toUtf8 (c :: cs) = String.utf8EncodeChar c ++ toUtf8 cs :=
  List.flatMap_cons

theorem toUtf8_append (cs ds : List Char) : toUtf8 (cs ++ ds) = toUtf8 cs ++ toUtf8 ds :=
  List.flatMap_append

theorem toUtf8_cons_of_isAscii {c : Char} (h : isAsciiChar c) (cs : List Char) :
    toUtf8 (c :: cs) = UInt8.ofNat c.toNat :: toUtf8 cs := by
  rw [toUtf8_cons, utf8EncodeChar_of_isAscii h]
  rfl

theorem decodeBytes_cons_of_ne {byte : UInt8} (h : byte ≠ 0x25) (rest : List UInt8) :
    decodeBytes (byte :: rest) = byte :: decodeBytes rest := by
  rw [decodeBytes]
  rintro a b later rfl
  exact absurd rfl h

/-- The digits after a percent sign are decoded, if they are digits. -/
theorem decodeBytes_of_hexByte? {a b byte : UInt8} (h : hexByte? a b = some byte)
    (rest : List UInt8) : decodeBytes (0x25 :: a :: b :: rest) = byte :: decodeBytes rest := by
  rw [decodeBytes, h]

theorem decodeBytes_percent {bytes : List UInt8}
    (h : ∀ a b later, bytes = a :: b :: later → hexByte? a b = none) :
    decodeBytes (0x25 :: bytes) = 0x25 :: decodeBytes bytes := by
  match bytes with
  | [] => rfl
  | [_] => rfl
  | a :: b :: later => rw [decodeBytes, h a b later rfl]

/-- A byte that was encoded comes back. -/
theorem decodeBytes_encodeByte (b : UInt8) (rest : List UInt8) :
    decodeBytes (toUtf8 (encodeByte b) ++ rest) = b :: decodeBytes rest := by
  have hhigh := isAsciiChar_of_isHexDigit
    (isHexDigit_upperDigit (b.toNat / 16 % 16) (Nat.mod_lt _ (by decide)))
  have hlow := isAsciiChar_of_isHexDigit
    (isHexDigit_upperDigit (b.toNat % 16) (Nat.mod_lt _ (by decide)))
  rw [encodeByte_eq, toUtf8_cons_of_isAscii (by decide), toUtf8_cons_of_isAscii hhigh,
    toUtf8_cons_of_isAscii hlow]
  exact decodeBytes_of_hexByte? (hexByte?_encodeByte b) rest

theorem decodeBytes_encodeBytes (rest : List UInt8) :
    ∀ bytes : List UInt8, decodeBytes (toUtf8 (bytes.flatMap encodeByte) ++ rest)
      = bytes ++ decodeBytes rest
  | [] => rfl
  | b :: bytes => by
      rw [List.flatMap_cons, toUtf8_append, List.append_assoc, decodeBytes_encodeByte,
        decodeBytes_encodeBytes rest bytes, List.cons_append]

/-! ## Encoded text -/

section

variable {keep : Char → Bool}

theorem encode_cons (c : Char) (cs : List Char) :
    encode keep (c :: cs)
      = (if keep c then [c] else (String.utf8EncodeChar c).flatMap encodeByte) ++ encode keep cs :=
  List.flatMap_cons

theorem encode_cons_of_keep {c : Char} (h : keep c = true) (cs : List Char) :
    encode keep (c :: cs) = c :: encode keep cs := by
  rw [encode_cons, if_pos h]
  rfl

theorem encode_append (cs ds : List Char) :
    encode keep (cs ++ ds) = encode keep cs ++ encode keep ds :=
  List.flatMap_append

/-- A text of which all characters are kept is its own encoding. -/
theorem encode_eq_self : ∀ {cs : List Char}, (∀ c ∈ cs, keep c = true) → encode keep cs = cs
  | [], _ => rfl
  | c :: cs, h => by
      obtain ⟨hc, hcs⟩ := List.forall_mem_cons.mp h
      rw [encode_cons_of_keep hc, encode_eq_self hcs]

/-- All characters of an encoding are kept ones. -/
theorem keep_of_mem_encode (hkeep : KeepsEscapes keep) {cs : List Char} :
    ∀ c ∈ encode keep cs, keep c = true := by
  intro c hc
  obtain ⟨d, -, hd⟩ := List.mem_flatMap.mp hc
  split at hd
  · next h =>
    rw [List.mem_singleton.mp hd]
    exact h
  · obtain ⟨b, -, hb⟩ := List.mem_flatMap.mp hd
    rw [encodeByte_eq] at hb
    simp only [List.mem_cons, List.not_mem_nil, or_false] at hb
    rcases hb with rfl | rfl | rfl
    · exact hkeep.percent
    · exact hkeep.digit _ (isHexDigit_upperDigit _ (Nat.mod_lt _ (by decide)))
    · exact hkeep.digit _ (isHexDigit_upperDigit _ (Nat.mod_lt _ (by decide)))

/-- A character that is no part of an escape is in an encoding only if it was in the text. -/
theorem mem_of_mem_encode {c : Char} (hpercent : c ≠ '%') (hdigit : isHexDigit c = false)
    {cs : List Char} (h : c ∈ encode keep cs) : c ∈ cs := by
  obtain ⟨d, hd, hc⟩ := List.mem_flatMap.mp h
  split at hc
  · rw [List.mem_singleton.mp hc]
    exact hd
  · obtain ⟨b, -, hb⟩ := List.mem_flatMap.mp hc
    rw [encodeByte_eq] at hb
    simp only [List.mem_cons, List.not_mem_nil, or_false] at hb
    rcases hb with rfl | rfl | rfl
    · exact absurd rfl hpercent
    · exact absurd hdigit (by rw [isHexDigit_upperDigit _ (Nat.mod_lt _ (by decide))]; decide)
    · exact absurd hdigit (by rw [isHexDigit_upperDigit _ (Nat.mod_lt _ (by decide))]; decide)

/-! ## Encoding and decoding -/

theorem toUtf8_encode_cons_of_keep (hkeep : KeepsEscapes keep) {c : Char} (h : keep c = true)
    (cs : List Char) :
    toUtf8 (encode keep (c :: cs)) = UInt8.ofNat c.toNat :: toUtf8 (encode keep cs) := by
  rw [encode_cons_of_keep h, toUtf8_cons_of_isAscii (hkeep.ascii c h)]

theorem toUtf8_encode_cons_of_not_keep {c : Char} (h : ¬ keep c = true) (cs : List Char) :
    toUtf8 (encode keep (c :: cs))
      = toUtf8 ((String.utf8EncodeChar c).flatMap encodeByte) ++ toUtf8 (encode keep cs) := by
  rw [encode_cons, if_neg h, toUtf8_append]

/-- A byte that is a hexadecimal digit was one in the text: encoded bytes start with a percent
sign. -/
theorem exists_digit_of_toUtf8_encode (hkeep : KeepsEscapes keep) {cs : List Char} {a : UInt8}
    {later : List UInt8} (h : toUtf8 (encode keep cs) = a :: later)
    (ha : isHexDigit (Char.ofNat a.toNat)) :
    ∃ c rest, cs = c :: rest ∧ isHexDigit c ∧ a = UInt8.ofNat c.toNat ∧
      later = toUtf8 (encode keep rest) := by
  cases cs with
  | nil => cases h
  | cons c rest =>
      by_cases hc : keep c = true
      · rw [toUtf8_encode_cons_of_keep hkeep hc] at h
        obtain ⟨rfl, rfl⟩ := List.cons.inj h
        rw [ofNat_toNat_ofNat (hkeep.ascii c hc)] at ha
        exact ⟨c, rest, rfl, ha, rfl, rfl⟩
      · rw [toUtf8_encode_cons_of_not_keep hc] at h
        obtain ⟨b, bytes, hbytes⟩ :=
          List.exists_cons_of_ne_nil (String.utf8EncodeChar_ne_nil (c := c))
        rw [hbytes, List.flatMap_cons, encodeByte_eq, List.cons_append,
          toUtf8_cons_of_isAscii (by decide)] at h
        obtain ⟨rfl, -⟩ := List.cons.inj h
        exact absurd ha (by decide)

/-- A percent sign of the text is decoded with what follows it, or stays. -/
theorem decodeBytes_percent_cases (hkeep : KeepsEscapes keep) (cs : List Char) :
    (∃ a b after byte, cs = a :: b :: after ∧ isHexDigit a ∧ isHexDigit b ∧
      decodeBytes (0x25 :: toUtf8 (encode keep cs))
        = byte :: decodeBytes (toUtf8 (encode keep after))) ∨
    ¬ IsEscaped cs ∧ decodeBytes (0x25 :: toUtf8 (encode keep cs))
      = 0x25 :: decodeBytes (toUtf8 (encode keep cs)) := by
  by_cases hescaped : IsEscaped cs
  · obtain ⟨a, b, after, rfl, ha, hb⟩ := hescaped
    obtain ⟨x, hx⟩ := Option.isSome_iff_exists.mp ha
    obtain ⟨y, hy⟩ := Option.isSome_iff_exists.mp hb
    have hbyte := (hexByte?_eq_some_iff (isAsciiChar_of_isHexDigit ha)
      (isAsciiChar_of_isHexDigit hb)).mpr ⟨x, y, hx, hy, rfl⟩
    refine Or.inl ⟨a, b, after, UInt8.ofNat (16 * x + y), rfl, ha, hb, ?_⟩
    rw [toUtf8_encode_cons_of_keep hkeep (hkeep.digit a ha),
      toUtf8_encode_cons_of_keep hkeep (hkeep.digit b hb)]
    exact decodeBytes_of_hexByte? hbyte _
  · refine Or.inr ⟨hescaped, decodeBytes_percent ?_⟩
    intro a b later hbytes
    cases hbyte : hexByte? a b with
    | none => rfl
    | some byte =>
        obtain ⟨ha, hb⟩ := isHexDigit_of_hexByte? hbyte
        obtain ⟨c, rest, rfl, hc, -, hlater⟩ := exists_digit_of_toUtf8_encode hkeep hbytes ha
        obtain ⟨d, after, rfl, hd, -, -⟩ := exists_digit_of_toUtf8_encode hkeep hlater.symm hb
        exact absurd ⟨c, d, after, rfl, hc, hd⟩ hescaped

/-- Without escapes of its own the bytes of a text come back. -/
theorem decodeBytes_encode (hkeep : KeepsEscapes keep) :
    ∀ {cs : List Char}, ¬ HasEscape cs → decodeBytes (toUtf8 (encode keep cs)) = toUtf8 cs
  | [], _ => rfl
  | c :: cs, h => by
      rw [hasEscape_cons_iff, not_or] at h
      have ih := decodeBytes_encode hkeep h.2
      by_cases hc : keep c = true
      · rw [toUtf8_encode_cons_of_keep hkeep hc, toUtf8_cons_of_isAscii (hkeep.ascii c hc), ← ih]
        by_cases hpercent : c = '%'
        · subst hpercent
          rcases decodeBytes_percent_cases hkeep cs with
            ⟨a, b, after, _, rfl, ha, hb, -⟩ | ⟨-, hstays⟩
          · exact absurd ⟨rfl, a, b, after, rfl, ha, hb⟩ h.1
          · exact hstays
        · exact decodeBytes_cons_of_ne (ofNat_toNat_ne (hkeep.ascii c hc) hpercent) _
      · rw [toUtf8_encode_cons_of_not_keep hc, decodeBytes_encodeBytes, ih, toUtf8_cons]

theorem toUtf8_encode_percent (hkeep : KeepsEscapes keep) (cs : List Char) :
    toUtf8 (encode keep ('%' :: cs)) = 0x25 :: toUtf8 (encode keep cs) :=
  toUtf8_encode_cons_of_keep hkeep hkeep.percent cs

/-- Encoding and decoding never adds a character of ASCII, and it loses some of every escape that
the text has of its own. -/
theorem countP_decodeBytes_encode (hkeep : KeepsEscapes keep) :
    ∀ cs : List Char,
      (decodeBytes (toUtf8 (encode keep cs))).countP isAsciiByte ≤ cs.countP isAsciiChar ∧
      (HasEscape cs →
        (decodeBytes (toUtf8 (encode keep cs))).countP isAsciiByte < cs.countP isAsciiChar)
  | [] => by
      refine ⟨Nat.le_refl 0, ?_⟩
      rintro ⟨before, a, b, after, h, -⟩
      exact absurd h.symm (List.append_ne_nil_of_right_ne_nil before (List.cons_ne_nil '%' _))
  | c :: cs => by
      obtain ⟨hle, hlt⟩ := countP_decodeBytes_encode hkeep cs
      rw [hasEscape_cons_iff, List.countP_cons]
      by_cases hc : keep c = true
      · have hascii := hkeep.ascii c hc
        rw [if_pos hascii]
        by_cases hpercent : c = '%'
        · subst hpercent
          rw [toUtf8_encode_percent hkeep]
          rcases decodeBytes_percent_cases hkeep cs with
            ⟨a, b, after, byte, hcs, ha, hb, hdecoded⟩ | ⟨hnot, hstays⟩
          · have hshort : after.length < cs.length := by
              rw [hcs]
              exact Nat.lt_succ_of_lt (Nat.lt_succ_self _)
            have hafter := (countP_decodeBytes_encode hkeep after).1
            have hfirst : ([byte].countP isAsciiByte) ≤ 1 := List.countP_le_length
            have hcount : cs.countP isAsciiChar = after.countP isAsciiChar + 2 := by
              rw [hcs, List.countP_cons_of_pos (isAsciiChar_of_isHexDigit ha),
                List.countP_cons_of_pos (isAsciiChar_of_isHexDigit hb)]
            rw [hdecoded, hcount, ← List.singleton_append, List.countP_append]
            exact ⟨by omega, fun _ => by omega⟩
          · rw [hstays, List.countP_cons_of_pos (by decide)]
            refine ⟨by omega, ?_⟩
            rintro (⟨-, h⟩ | h)
            · exact absurd h hnot
            · exact Nat.succ_lt_succ (hlt h)
        · rw [toUtf8_encode_cons_of_keep hkeep hc,
            decodeBytes_cons_of_ne (ofNat_toNat_ne hascii hpercent),
            List.countP_cons_of_pos (isAsciiByte_ofNat hascii)]
          refine ⟨by omega, ?_⟩
          rintro (⟨h, -⟩ | h)
          · exact absurd h hpercent
          · exact Nat.succ_lt_succ (hlt h)
      · rw [toUtf8_encode_cons_of_not_keep hc, decodeBytes_encodeBytes, List.countP_append,
          countP_utf8EncodeChar]
        refine ⟨by omega, ?_⟩
        rintro (⟨rfl, -⟩ | h)
        · exact absurd hkeep.percent hc
        · have := hlt h
          omega
termination_by cs => cs.length
decreasing_by
  · exact Nat.lt_succ_self _
  · exact Nat.lt_succ_of_lt hshort

/-- A text comes back from its encoding if and only if it has no escapes of its own. -/
theorem decode_encode_iff (hkeep : KeepsEscapes keep) {cs : List Char} :
    decode (encode keep cs) = cs ↔ ¬ HasEscape cs := by
  constructor
  · intro h hescape
    have hlt := (countP_decodeBytes_encode hkeep cs).2 hescape
    have hle := countP_ofUtf8 (decodeBytes (toUtf8 (encode keep cs)))
    rw [← decode, h] at hle
    omega
  · intro h
    rw [decode, decodeBytes_encode hkeep h, ofUtf8_toUtf8]

end

end Winnow.Percent
