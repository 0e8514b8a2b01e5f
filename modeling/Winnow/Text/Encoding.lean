/-
Encoding — text from bytes in UTF-8, UTF-16 and UTF-32.

The UTF-8 machine answers with one entry per character or per faulty run of bytes, a run being the
longest start of a character that the bytes still allowed.  The strict reading refuses a faulty
run, the tolerant one puts the replacement character in its place.

A surrogate that stands alone is no character.  Where one is admitted, in all encodings of the
strict reading, it becomes the replacement character.
-/

namespace Winnow.Text

/-! ## Surrogates -/

/-- The first of a pair of surrogates. -/
def isHighSurrogate (n : Nat) : Bool := 0xd800 ≤ n && n < 0xdc00

/-- The second of a pair of surrogates. -/
def isLowSurrogate (n : Nat) : Bool := 0xdc00 ≤ n && n < 0xe000

/-- The character of a code point; for a surrogate the replacement character. -/
def charOfCode (n : Nat) : Char :=
  if isHighSurrogate n || isLowSurrogate n then Char.ofNat 0xfffd else Char.ofNat n

/-! ## UTF-8 -/

/-- A character that is being read: its bits so far, the bytes still owed, and the bounds of the
next one. -/
structure Pending where
  bits : Nat
  owed : Nat
  low : Nat
  high : Nat

/-- What the first byte of a character opens; no character starts with any other byte. -/
def leadByte (admitsSurrogates : Bool) (b : Nat) : List (Option Char) × Option Pending :=
  if b < 0x80 then ([some (Char.ofNat b)], none)
  else if 0xc2 ≤ b ∧ b ≤ 0xdf then ([], some ⟨b - 0xc0, 1, 0x80, 0xbf⟩)
  else if b = 0xe0 then ([], some ⟨0, 2, 0xa0, 0xbf⟩)
  else if b = 0xed then ([], some ⟨0xd, 2, 0x80, if admitsSurrogates then 0xbf else 0x9f⟩)
  else if 0xe1 ≤ b ∧ b ≤ 0xef then ([], some ⟨b - 0xe0, 2, 0x80, 0xbf⟩)
  else if b = 0xf0 then ([], some ⟨0, 3, 0x90, 0xbf⟩)
  else if 0xf1 ≤ b ∧ b ≤ 0xf3 then ([], some ⟨b - 0xf0, 3, 0x80, 0xbf⟩)
  else if b = 0xf4 then ([], some ⟨4, 3, 0x80, 0x8f⟩)
  else ([none], none)

/-- The characters and faulty runs of the remaining bytes. -/
def utf8From (admitsSurrogates : Bool) : Option Pending → List UInt8 → List (Option Char)
  | none, [] => []
  | some _, [] => [none]
  | none, b :: rest =>
    let (out, pending) := leadByte admitsSurrogates b.toNat
    out ++ utf8From admitsSurrogates pending rest
  | some p, b :: rest =>
    let n := b.toNat
    if p.low ≤ n ∧ n ≤ p.high then
      let bits := 64 * p.bits + (n - 0x80)
      if p.owed ≤ 1 then some (charOfCode bits) :: utf8From admitsSurrogates none rest
      else utf8From admitsSurrogates (some ⟨bits, p.owed - 1, 0x80, 0xbf⟩) rest
    else
      let (out, pending) := leadByte admitsSurrogates n
      none :: (out ++ utf8From admitsSurrogates pending rest)

/-- The text of bytes in UTF-8, if they are well formed up to surrogates. -/
def ofUtf8? (bytes : List UInt8) : Option (List Char) :=
  (utf8From true none bytes).mapM id

/-- The text of bytes in UTF-8 with a replacement character for each faulty run. -/
def ofUtf8 (bytes : List UInt8) : List Char :=
  (utf8From false none bytes).map (·.getD (Char.ofNat 0xfffd))

/-- The bytes of a text in UTF-8. -/
def toUtf8 (cs : List Char) : List UInt8 := cs.flatMap String.utf8EncodeChar

/-! ## UTF-16 and UTF-32 -/

/-- The characters of a list of code units of 16 bits: a pair of surrogates makes one
character. -/
def ofCodeUnits : List Nat → List Char
  | [] => []
  | high :: low :: rest =>
    if isHighSurrogate high && isLowSurrogate low then
      Char.ofNat (0x10000 + 0x400 * (high - 0xd800) + (low - 0xdc00)) :: ofCodeUnits rest
    else charOfCode high :: ofCodeUnits (low :: rest)
  | [n] => [charOfCode n]

/-- The order of the bytes of a unit. -/
inductive ByteOrder where
  | bigFirst
  | littleFirst
deriving DecidableEq, Repr

/-- The number written by the bytes of a unit. -/
def unitValue (order : ByteOrder) (bytes : List UInt8) : Nat :=
  let ordered := match order with
    | .bigFirst => bytes
    | .littleFirst => bytes.reverse
  ordered.foldl (fun n b => 256 * n + b.toNat) 0

/-- The units of two bytes; none if a byte is left over. -/
def units16? (order : ByteOrder) : List UInt8 → Option (List Nat)
  | [] => some []
  | a :: b :: rest => (unitValue order [a, b] :: ·) <$> units16? order rest
  | _ => none

/-- The units of four bytes; none if bytes are left over. -/
def units32? (order : ByteOrder) : List UInt8 → Option (List Nat)
  | [] => some []
  | a :: b :: c :: d :: rest => (unitValue order [a, b, c, d] :: ·) <$> units32? order rest
  | _ => none

/-- The text of bytes in UTF-16. -/
def ofUtf16? (order : ByteOrder) (bytes : List UInt8) : Option (List Char) :=
  ofCodeUnits <$> units16? order bytes

/-- The text of bytes in UTF-32. -/
def ofUtf32? (order : ByteOrder) (bytes : List UInt8) : Option (List Char) := do
  let units ← units32? order bytes
  if units.all (· < 0x110000) then return units.map charOfCode else none

/-! ## Any of the encodings -/

/-- An encoding of text. -/
inductive Encoding where
  | utf8
  | utf16 (order : ByteOrder)
  | utf32 (order : ByteOrder)
deriving DecidableEq, Repr

/-- The text of bytes in an encoding. -/
def Encoding.decode? : Encoding → List UInt8 → Option (List Char)
  | .utf8 => ofUtf8?
  | .utf16 order => ofUtf16? order
  | .utf32 order => ofUtf32? order

end Winnow.Text
