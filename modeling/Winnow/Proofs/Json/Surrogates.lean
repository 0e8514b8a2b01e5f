/-
# `Surrogates` — JSON text that is well-formed Unicode

A surrogate that stands alone is no character, but JSON admits it: an escape may write one, and the
bytes of a text may hold one in each of the encodings.  The reader puts the replacement character in
its place, which is not what such a text says: two strings that differ would become the same, and one
that cannot be written down at all could be shown.  So what is said of the strings of a text is said
of texts in which every surrogate has its other half, where the reader replaces nothing.
-/
import Winnow.Json.Bytes

namespace Winnow

namespace Text

/-- One of a pair of surrogates. -/
def isSurrogate (n : Nat) : Bool := isHighSurrogate n || isLowSurrogate n

/-- No surrogate stands alone among code units. -/
def isPaired : List Nat → Bool
  | [] => true
  | high :: low :: rest =>
    if isHighSurrogate high && isLowSurrogate low then isPaired rest
    else !isSurrogate high && isPaired (low :: rest)
  | [n] => !isSurrogate n

/-- No surrogate is encoded outside of a pair. -/
def Encoding.isPaired : Encoding → List UInt8 → Bool
  | .utf8, bytes => (utf8From false none bytes).all Option.isSome
  | .utf16 order, bytes => (units16? order bytes).all Text.isPaired
  | .utf32 order, bytes => (units32? order bytes).all fun units => !units.any isSurrogate

end Text

namespace Json

/-- No surrogate stands alone in a token. -/
def Token.isPaired : Token → Bool
  | .text units => Text.isPaired units
  | _ => true

/-- No surrogate stands alone in the strings of a text. -/
def IsPaired (cs : List Char) : Prop := ∀ t ∈ tokens cs, t.isPaired = true

instance (cs : List Char) : Decidable (IsPaired cs) :=
  inferInstanceAs (Decidable (∀ t ∈ tokens cs, t.isPaired = true))

/-- No surrogate stands alone in the bytes of a text. -/
def bytesArePaired (bytes : List UInt8) : Bool :=
  let (encoding, mark) := encodingOf bytes
  encoding.isPaired (bytes.drop mark)

end Json

end Winnow
