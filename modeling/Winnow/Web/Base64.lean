/-
Base64 — bytes as text of 64 characters.
-/

namespace Winnow.Base64

/-- The character of a number below 64. -/
def digit (n : Nat) : Char :=
  if n < 26 then Char.ofNat (0x41 + n)
  else if n < 52 then Char.ofNat (0x61 + (n - 26))
  else if n < 62 then Char.ofNat (0x30 + (n - 52))
  else if n = 62 then '+' else '/'

/-- The four characters of a number of 24 bits. -/
def group (n : Nat) : List Char :=
  [digit (n / 0x40000 % 64), digit (n / 0x1000 % 64), digit (n / 0x40 % 64), digit (n % 64)]

/-- The text of bytes: four characters for three bytes, filled up at the end. -/
def encode : List UInt8 → List Char
  | a :: b :: c :: rest =>
    group (a.toNat * 0x10000 + b.toNat * 0x100 + c.toNat) ++ encode rest
  | [a, b] => (group (a.toNat * 0x10000 + b.toNat * 0x100)).take 3 ++ ['=']
  | [a] => (group (a.toNat * 0x10000)).take 2 ++ ['=', '=']
  | [] => []

end Winnow.Base64
