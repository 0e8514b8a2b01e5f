/-
Bytes — JSON text whose encoding shows in its first bytes.

A byte order mark names the encoding.  Without one it follows from where zero bytes stand among
the first four, since JSON text starts with an ASCII character; UTF-8 is what remains.
-/
import Winnow.Json.Reader
import Winnow.Text.Encoding

namespace Winnow.Json

open Text in
/-- The encoding of a JSON text, and the number of bytes of its byte order mark. -/
def encodingOf : List UInt8 → Encoding × Nat
  | 0x00 :: 0x00 :: 0xfe :: 0xff :: _ => (.utf32 .bigFirst, 4)
  | 0xff :: 0xfe :: 0x00 :: 0x00 :: _ => (.utf32 .littleFirst, 4)
  | 0xfe :: 0xff :: _ => (.utf16 .bigFirst, 2)
  | 0xff :: 0xfe :: _ => (.utf16 .littleFirst, 2)
  | 0xef :: 0xbb :: 0xbf :: _ => (.utf8, 3)
  | a :: b :: c :: d :: _ =>
    if a = 0 then (if b = 0 then .utf32 .bigFirst else .utf16 .bigFirst, 0)
    else if b = 0 then (if c = 0 && d = 0 then .utf32 .littleFirst else .utf16 .littleFirst, 0)
    else (.utf8, 0)
  | [a, b] =>
    (if a = 0 then .utf16 .bigFirst else if b = 0 then .utf16 .littleFirst else .utf8, 0)
  | _ => (.utf8, 0)

/-- The text of JSON in bytes, a byte order mark removed; none if the bytes are no text. -/
def textOfBytes? (bytes : List UInt8) : Option (List Char) :=
  let (encoding, mark) := encodingOf bytes
  encoding.decode? (bytes.drop mark)

/-- The value that bytes write. -/
def readBytes (limit : Nat) (bytes : List UInt8) : Except Unreadable Json :=
  match textOfBytes? bytes with
  | some cs => read limit cs
  | none => .error .malformed

end Winnow.Json
