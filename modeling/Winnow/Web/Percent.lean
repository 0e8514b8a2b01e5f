/-
Percent — percent-encoding of text.

A character outside a set of kept ones is written as its bytes in UTF-8, each as a percent sign and
two hexadecimal digits.  Decoding is tolerant: a percent sign without two digits stands for itself,
and bytes that are not UTF-8 become the replacement character.
-/
import Winnow.Json.Token
import Winnow.Text.Encoding
import Winnow.Text.Quoted

namespace Winnow.Percent

/-- A byte as a percent sign and two hexadecimal digits in upper case. -/
def encodeByte (b : UInt8) : List Char :=
  '%' :: (Text.hexText 2 b.toNat).map Char.toUpper

/-- The percent-encoding of a text in which the characters that satisfy `keep` stay. -/
def encode (keep : Char → Bool) (cs : List Char) : List Char :=
  cs.flatMap fun c => if keep c then [c] else (String.utf8EncodeChar c).flatMap encodeByte

/-- The byte that two hexadecimal digits write. -/
def hexByte? (a b : UInt8) : Option UInt8 :=
  (Json.hexNumber? [Char.ofNat a.toNat, Char.ofNat b.toNat]).map UInt8.ofNat

/-- The bytes behind percent-encoded bytes. -/
def decodeBytes : List UInt8 → List UInt8
  | 0x25 :: a :: b :: rest =>
    match hexByte? a b with
    | some byte => byte :: decodeBytes rest
    | none => 0x25 :: decodeBytes (a :: b :: rest)
  | byte :: rest => byte :: decodeBytes rest
  | [] => []

/-- The text behind a percent-encoded text. -/
def decode (cs : List Char) : List Char := Text.ofUtf8 (decodeBytes (Text.toUtf8 cs))

/-- Letters, digits and the four marks that are never encoded. -/
def isUnreserved (c : Char) : Bool := c.isAlphanum || "-._~".toList.contains c

end Winnow.Percent
