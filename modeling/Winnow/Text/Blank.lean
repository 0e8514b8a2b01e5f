/-
Blank — white space and trimming.

Two sets of white space are in use.  Space is the standard property of that name; a blank is a
space or one of the four information separators U+001C to U+001F.
-/

namespace Winnow.Text

/-- White space. -/
def isSpace (c : Char) : Bool :=
  let n := c.toNat
  (0x9 ≤ n && n ≤ 0xd) || n = 0x20 || n = 0x85 || n = 0xa0 || n = 0x1680
    || (0x2000 ≤ n && n ≤ 0x200a) || n = 0x2028 || n = 0x2029 || n = 0x202f || n = 0x205f
    || n = 0x3000

/-- White space or an information separator. -/
def isBlank (c : Char) : Bool :=
  isSpace c || (0x1c ≤ c.toNat && c.toNat ≤ 0x1f)

/-- The text without the leading and trailing characters that satisfy `p`. -/
def trimWhile (p : Char → Bool) (cs : List Char) : List Char :=
  ((cs.dropWhile p).reverse.dropWhile p).reverse

/-- The text without surrounding blanks. -/
def strip (cs : List Char) : List Char := trimWhile isBlank cs

/-- The text without surrounding white space. -/
def trim (cs : List Char) : List Char := trimWhile isSpace cs

end Winnow.Text
