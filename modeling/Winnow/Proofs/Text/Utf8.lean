/-
# `Utf8` — text through its bytes and back

The tolerant reading of UTF-8 gives back every text from its bytes.  Of bytes that no text has it
makes something all the same, and one thing holds even then: no character of ASCII appears that was
not a byte of its own.  A longer encoding never stands for one, since the bounds on the second byte
leave at least seven bits to it; this is what a pending character keeps (`Pending.IsWide`).
-/
import Mathlib
import Winnow.Text.Encoding

namespace Winnow.Text

/-! ## There and back -/

theorem charOfCode_toNat (c : Char) : charOfCode c.toNat = c := by
  have hvalid : c.toNat < 0xd800 ∨ 0xdfff < c.toNat ∧ c.toNat < 0x110000 := c.valid
  have hsurrogate : (isHighSurrogate c.toNat || isLowSurrogate c.toNat) = false := by
    simp only [isHighSurrogate, isLowSurrogate, Bool.or_eq_false_iff, Bool.and_eq_false_iff,
      decide_eq_false_iff_not]
    omega
  rw [charOfCode, hsurrogate]
  exact Char.ofNat_toNat c

theorem utf8From_some_last {bits low high n : Nat} {rest : List UInt8} (hn : n < 256)
    (hlow : low ≤ n) (hhigh : n ≤ high) :
    utf8From false (some ⟨bits, 1, low, high⟩) (UInt8.ofNat n :: rest)
      = some (charOfCode (64 * bits + (n - 0x80))) :: utf8From false none rest := by
  have hnat : (UInt8.ofNat n).toNat = n := UInt8.toNat_ofNat_of_lt' hn
  rw [utf8From]
  dsimp only
  rw [hnat, if_pos ⟨hlow, hhigh⟩, if_pos (Nat.le_refl 1)]

theorem utf8From_some_more {bits owed low high n : Nat} {rest : List UInt8} (hn : n < 256)
    (hlow : low ≤ n) (hhigh : n ≤ high) :
    utf8From false (some ⟨bits, owed + 2, low, high⟩) (UInt8.ofNat n :: rest)
      = utf8From false (some ⟨64 * bits + (n - 0x80), owed + 1, 0x80, 0xbf⟩) rest := by
  have hnat : (UInt8.ofNat n).toNat = n := UInt8.toNat_ofNat_of_lt' hn
  rw [utf8From]
  dsimp only
  rw [hnat, if_pos ⟨hlow, hhigh⟩, if_neg (by omega)]
  rfl

theorem utf8From_none {n : Nat} {rest : List UInt8} (hn : n < 256) :
    utf8From false none (UInt8.ofNat n :: rest)
      = (leadByte false n).1 ++ utf8From false (leadByte false n).2 rest := by
  have hnat : (UInt8.ofNat n).toNat = n := UInt8.toNat_ofNat_of_lt' hn
  rw [utf8From]
  dsimp only
  rw [hnat]

theorem leadByte_one {b : Nat} (h : b < 0x80) :
    leadByte false b = ([some (Char.ofNat b)], none) :=
  if_pos h

theorem leadByte_two {b : Nat} (h : 0xc2 ≤ b ∧ b ≤ 0xdf) :
    leadByte false b = ([], some ⟨b - 0xc0, 1, 0x80, 0xbf⟩) := by
  rw [leadByte, if_neg (by omega), if_pos h]

theorem leadByte_three {b : Nat} (h : 0xe0 ≤ b ∧ b ≤ 0xef) :
    leadByte false b = ([], some ⟨b - 0xe0, 2, if b = 0xe0 then 0xa0 else 0x80,
      if b = 0xed then 0x9f else 0xbf⟩) := by
  rw [leadByte, if_neg (by omega), if_neg (by omega)]
  by_cases h0 : b = 0xe0
  · subst h0
    rfl
  · by_cases hd : b = 0xed
    · subst hd
      rfl
    · rw [if_neg h0, if_neg hd, if_pos ⟨by omega, h.2⟩, if_neg h0, if_neg hd]

theorem leadByte_four {b : Nat} (h : 0xf0 ≤ b ∧ b ≤ 0xf4) :
    leadByte false b = ([], some ⟨b - 0xf0, 3, if b = 0xf0 then 0x90 else 0x80,
      if b = 0xf4 then 0x8f else 0xbf⟩) := by
  rw [leadByte, if_neg (by omega), if_neg (by omega), if_neg (by omega), if_neg (by omega),
    if_neg (by omega)]
  by_cases h0 : b = 0xf0
  · subst h0
    rfl
  · by_cases h4 : b = 0xf4
    · subst h4
      rfl
    · rw [if_neg h0, if_pos ⟨by omega, by omega⟩, if_neg h0, if_neg h4]

/-- A byte that starts no character is a faulty run of its own. -/
theorem leadByte_cases (b : Nat) :
    b < 0x80 ∨ (0xc2 ≤ b ∧ b ≤ 0xdf) ∨ (0xe0 ≤ b ∧ b ≤ 0xef) ∨ (0xf0 ≤ b ∧ b ≤ 0xf4) ∨
      leadByte false b = ([none], none) := by
  by_cases h1 : b < 0x80
  · exact Or.inl h1
  · by_cases h2 : 0xc2 ≤ b ∧ b ≤ 0xdf
    · exact Or.inr (Or.inl h2)
    · by_cases h3 : 0xe0 ≤ b ∧ b ≤ 0xef
      · exact Or.inr (Or.inr (Or.inl h3))
      · by_cases h4 : 0xf0 ≤ b ∧ b ≤ 0xf4
        · exact Or.inr (Or.inr (Or.inr (Or.inl h4)))
        · refine Or.inr (Or.inr (Or.inr (Or.inr ?_)))
          rw [leadByte, if_neg h1, if_neg h2, if_neg (by omega), if_neg (by omega),
            if_neg (by omega), if_neg (by omega), if_neg (by omega), if_neg (by omega)]

/-- The bytes of a character are read as that character, whatever follows them. -/
theorem utf8From_utf8EncodeChar (c : Char) (rest : List UInt8) :
    utf8From false none (String.utf8EncodeChar c ++ rest) = some c :: utf8From false none rest := by
  have hvalid : c.toNat < 0xd800 ∨ 0xdfff < c.toNat ∧ c.toNat < 0x110000 := c.valid
  have hdone : ∀ (n : Nat) (l : List (Option Char)), n = c.toNat →
      some (charOfCode n) :: l = some c :: l := by
    rintro n l rfl
    rw [charOfCode_toNat]
  unfold String.utf8EncodeChar
  simp only [Char.toNat_val]
  split
  · rw [List.singleton_append, utf8From_none (by omega), leadByte_one (by omega),
      Char.ofNat_toNat]
    rfl
  · split
    · rw [List.cons_append, List.singleton_append, utf8From_none (by omega),
        leadByte_two (by omega), List.nil_append,
        utf8From_some_last (by omega) (by omega) (by omega)]
      exact hdone _ _ (by omega)
    · split
      · rw [List.cons_append, List.cons_append, List.singleton_append, utf8From_none (by omega),
          leadByte_three (by omega), List.nil_append,
          utf8From_some_more (by omega) (by split <;> omega) (by split <;> omega),
          utf8From_some_last (by omega) (by omega) (by omega)]
        exact hdone _ _ (by omega)
      · rw [List.cons_append, List.cons_append, List.cons_append, List.singleton_append,
          utf8From_none (by omega), leadByte_four (by omega), List.nil_append,
          utf8From_some_more (by omega) (by split <;> omega) (by split <;> omega),
          utf8From_some_more (by omega) (by omega) (by omega),
          utf8From_some_last (by omega) (by omega) (by omega)]
        exact hdone _ _ (by omega)

theorem utf8From_toUtf8 : ∀ cs : List Char, utf8From false none (toUtf8 cs) = cs.map some
  | [] => rfl
  | c :: cs => by
      rw [toUtf8, List.flatMap_cons, utf8From_utf8EncodeChar, List.map_cons]
      exact congrArg _ (utf8From_toUtf8 cs)

/-- Every text is read from its bytes. -/
theorem ofUtf8_toUtf8 (cs : List Char) : ofUtf8 (toUtf8 cs) = cs := by
  rw [ofUtf8, utf8From_toUtf8, List.map_map]
  exact List.map_id cs

/-! ## Characters of ASCII -/

/-- The character is one of ASCII. -/
def isAsciiChar (c : Char) : Bool := c.toNat < 0x80

/-- The byte is a character of ASCII. -/
def isAsciiByte (b : UInt8) : Bool := b.toNat < 0x80

theorem utf8EncodeChar_of_isAscii {c : Char} (h : isAsciiChar c) :
    String.utf8EncodeChar c = [UInt8.ofNat c.toNat] := by
  have hle : c.val.toNat ≤ 0x7f := Nat.le_of_lt_succ (of_decide_eq_true h)
  unfold String.utf8EncodeChar
  exact if_pos hle

theorem isAsciiByte_ofNat {c : Char} (h : isAsciiChar c) : isAsciiByte (UInt8.ofNat c.toNat) := by
  have hlt : c.toNat < 0x80 := of_decide_eq_true h
  rw [isAsciiByte, UInt8.toNat_ofNat_of_lt' (Nat.lt_trans hlt (by decide))]
  exact h

/-- A character of ASCII is one byte of ASCII, and all bytes of any other character are not. -/
theorem countP_utf8EncodeChar (c : Char) :
    (String.utf8EncodeChar c).countP isAsciiByte = if isAsciiChar c then 1 else 0 := by
  by_cases h : isAsciiChar c
  · rw [utf8EncodeChar_of_isAscii h, if_pos h, List.countP_singleton,
      if_pos (isAsciiByte_ofNat h)]
  · rw [if_neg h, List.countP_eq_zero]
    have hlt : ¬ c.val.toNat ≤ 0x7f := by
      intro hle
      exact h (decide_eq_true (Nat.lt_succ_of_le hle))
    have hbyte : ∀ n : Nat, 0x80 ≤ n → n < 256 → ¬ isAsciiByte (UInt8.ofNat n) = true := by
      intro n hlow hhigh hn
      rw [isAsciiByte, UInt8.toNat_ofNat_of_lt' hhigh, decide_eq_true_eq] at hn
      omega
    have hvalid := c.valid
    unfold String.utf8EncodeChar
    simp only [if_neg hlt]
    split
    · simp only [List.forall_mem_cons, List.not_mem_nil, false_implies, implies_true, and_true]
      exact ⟨hbyte _ (by omega) (by omega), hbyte _ (by omega) (by omega)⟩
    · split
      · simp only [List.forall_mem_cons, List.not_mem_nil, false_implies, implies_true, and_true]
        exact ⟨hbyte _ (by omega) (by omega), hbyte _ (by omega) (by omega),
          hbyte _ (by omega) (by omega)⟩
      · simp only [List.forall_mem_cons, List.not_mem_nil, false_implies, implies_true, and_true]
        exact ⟨hbyte _ (by omega) (by omega), hbyte _ (by omega) (by omega),
          hbyte _ (by omega) (by omega), hbyte _ (by omega) (by omega)⟩

/-- What a faulty run of bytes shows as. -/
def shownChar (c : Option Char) : Char := c.getD (Char.ofNat 0xfffd)

/-- Whatever bytes follow, the character that is being read will be beyond ASCII, and not beyond the
last code point. -/
def Pending.IsWide (p : Pending) : Prop :=
  match p.owed with
  | 1 => 0x80 ≤ 64 * p.bits + (p.low - 0x80) ∧ 64 * p.bits + (p.high - 0x80) < 0x110000
  | 2 => 2 ≤ 64 * p.bits + (p.low - 0x80) ∧ 64 * p.bits + (p.high - 0x80) < 0x4400
  | 3 => 2 ≤ 64 * p.bits + (p.low - 0x80) ∧ 64 * p.bits + (p.high - 0x80) < 0x110
  | _ => False

theorem Pending.IsWide.last {bits owed low high n : Nat} (h : IsWide ⟨bits, owed, low, high⟩)
    (howed : owed ≤ 1) (hn : low ≤ n ∧ n ≤ high) :
    0x80 ≤ 64 * bits + (n - 0x80) ∧ 64 * bits + (n - 0x80) < 0x110000 := by
  match owed, h, howed with
  | 1, h, _ =>
      simp only [IsWide] at h
      omega

theorem Pending.IsWide.more {bits owed low high n : Nat} (h : IsWide ⟨bits, owed, low, high⟩)
    (howed : ¬ owed ≤ 1) (hn : low ≤ n ∧ n ≤ high) :
    IsWide ⟨64 * bits + (n - 0x80), owed - 1, 0x80, 0xbf⟩ := by
  match owed, h with
  | 1, _ => exact absurd (Nat.le_refl 1) howed
  | 2, h | 3, h =>
      simp only [IsWide] at h ⊢
      omega

theorem leadByte_wide {b : Nat} {p : Pending} (h : (leadByte false b).2 = some p) : p.IsWide := by
  rcases leadByte_cases b with hb | hb | hb | hb | hb
  · rw [leadByte_one hb] at h
    cases h
  · rw [leadByte_two hb] at h
    rw [← Option.some.inj h]
    simp only [Pending.IsWide]
    omega
  · rw [leadByte_three hb] at h
    rw [← Option.some.inj h]
    simp only [Pending.IsWide]
    constructor <;> split <;> omega
  · rw [leadByte_four hb] at h
    rw [← Option.some.inj h]
    simp only [Pending.IsWide]
    constructor <;> split <;> omega
  · rw [hb] at h
    cases h

theorem countP_leadByte (b : Nat) :
    ((leadByte false b).1.countP (isAsciiChar ∘ shownChar)) ≤ if b < 0x80 then 1 else 0 := by
  rcases leadByte_cases b with hb | hb | hb | hb | hb
  · rw [leadByte_one hb, if_pos hb]
    exact List.countP_le_length
  · rw [leadByte_two hb]
    exact Nat.zero_le _
  · rw [leadByte_three hb]
    exact Nat.zero_le _
  · rw [leadByte_four hb]
    exact Nat.zero_le _
  · rw [hb]
    exact Nat.zero_le _

theorem isAsciiChar_charOfCode {n : Nat} (h : 0x80 ≤ n) (hn : n < 0x110000) :
    isAsciiChar (charOfCode n) = false := by
  unfold charOfCode
  split
  · decide
  · next hsurrogate =>
    have hvalid : n.isValidChar := by
      simp only [isHighSurrogate, isLowSurrogate, Bool.or_eq_true, Bool.and_eq_true,
        decide_eq_true_eq] at hsurrogate
      unfold Nat.isValidChar
      omega
    rw [Char.ofNat, dif_pos hvalid]
    exact decide_eq_false (Nat.not_lt_of_le h)

/-- No more characters of ASCII are read than there are bytes of ASCII. -/
theorem countP_utf8From (bytes : List UInt8) :
    ∀ pending : Option Pending, (∀ p, pending = some p → p.IsWide) →
      (utf8From false pending bytes).countP (isAsciiChar ∘ shownChar)
        ≤ bytes.countP isAsciiByte := by
  induction bytes with
  | nil =>
      intro pending _
      cases pending <;> exact Nat.le_refl 0
  | cons b rest ih =>
      intro pending hpending
      have hlead : ((leadByte false b.toNat).1
          ++ utf8From false (leadByte false b.toNat).2 rest).countP (isAsciiChar ∘ shownChar)
          ≤ (b :: rest).countP isAsciiByte := by
        have hfirst := countP_leadByte b.toNat
        have hrest := ih (leadByte false b.toNat).2 fun p => leadByte_wide
        rw [List.countP_append, List.countP_cons]
        by_cases hb : b.toNat < 0x80
        · rw [if_pos hb] at hfirst
          have hascii : isAsciiByte b = true := decide_eq_true hb
          rw [if_pos hascii]
          omega
        · rw [if_neg hb] at hfirst
          omega
      cases pending with
      | none => exact hlead
      | some p =>
          obtain ⟨bits, owed, low, high⟩ := p
          have hwide := hpending _ rfl
          unfold utf8From
          dsimp only
          split
          · next hbounds =>
            split
            · next howed =>
              obtain ⟨hlow, hhigh⟩ := hwide.last howed hbounds
              have hnot : ¬ (isAsciiChar ∘ shownChar)
                  (some (charOfCode (64 * bits + (b.toNat - 0x80)))) = true := by
                rw [Function.comp_apply, shownChar, Option.getD_some,
                  isAsciiChar_charOfCode hlow hhigh]
                exact Bool.false_ne_true
              rw [List.countP_cons_of_neg hnot, List.countP_cons]
              exact Nat.le_add_right_of_le (ih none nofun)
            · next howed =>
              rw [List.countP_cons]
              refine Nat.le_add_right_of_le (ih _ ?_)
              intro p hp
              rw [← Option.some.inj hp]
              exact hwide.more howed hbounds
          · rw [List.countP_cons]
            exact hlead

theorem countP_ofUtf8 (bytes : List UInt8) :
    (ofUtf8 bytes).countP isAsciiChar ≤ bytes.countP isAsciiByte := by
  rw [ofUtf8, List.countP_map]
  exact countP_utf8From bytes none nofun

end Winnow.Text
