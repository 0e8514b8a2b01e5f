/-
Name — names of domains, and the ASCII form in which they are asked for.

A name consists of labels between full stops.  A label is a well-formed text of permitted
characters; one that is not ASCII is asked for in its written form, with a mark in front.
-/
import Winnow.Text.Pieces
import Winnow.Web.Domain.Compose
import Winnow.Web.Domain.Context
import Winnow.Web.Domain.Direction
import Winnow.Web.Domain.Permitted
import Winnow.Web.Domain.Punycode

namespace Winnow.Domain

/-! ## Labels -/

/-- Every character is permitted in its place; `before` is what has been passed, last character
first. -/
def arePermittedAfter (before : List Char) : List Char → Bool
  | [] => true
  | c :: rest =>
    (isPermitted c || fitsContext before c rest) && arePermittedAfter (c :: before) rest

/-- No hyphen stands first or last, and none are both third and fourth, where they would be taken
for those of a mark. -/
def hasProperHyphens (label : List Char) : Bool :=
  label.head? ≠ some '-' && label.getLast? ≠ some '-' && (label.drop 2).take 2 ≠ ['-', '-']

/-- A label in the form in which people read it. -/
def isLabel (label : List Char) : Bool :=
  !label.isEmpty
    && hasProperHyphens label
    && !label.head?.any isMark
    && arePermittedAfter [] label
    && compose label = label
    && isDirected label

/-- The mark in front of a label that stands in its written form. -/
def writtenMark : List Char := "xn--".toList

/-- A label in its written form, without the mark, is that of a label. -/
def isWritten (cs : List Char) : Bool :=
  !cs.isEmpty && cs.getLast? ≠ some '-' && (Punycode.decode? cs).any isLabel

/-- The greatest length of a label in its ASCII form. -/
def labelLimit : Nat := 63

/-- The ASCII form of a label in lower case.  A written form is kept as it is. -/
def asciiLabel? (label : List Char) : Option (List Char) := do
  let form ←
    if label.all Punycode.isBasic then
      if writtenMark.isPrefixOf label then
        if isWritten (label.drop writtenMark.length) then some label else none
      else if isLabel label then some label else none
    else if isLabel label then some (writtenMark ++ Punycode.encode label) else none
  if form.length ≤ labelLimit then some form else none

/-! ## Names -/

/-- A full stop, which has three forms in East Asian text. -/
def isStop (c : Char) : Bool :=
  c = '.' || c.toNat = 0x3002 || c.toNat = 0xff0e || c.toNat = 0xff61

/-- The labels of a name; one that ends in a full stop has an empty label at its end. -/
def labels (name : List Char) : List (List Char) :=
  Text.pieces '.' (name.map fun c => if isStop c then '.' else c)

/-- The greatest length of a name, not counting a full stop at its end. -/
def nameLimit : Nat := 253

/-- The ASCII form of a name in lower case, if it is one. -/
def ascii? (name : List Char) : Option (List Char) := do
  if nameLimit + 1 < name.length then none
  let parts := labels name
  let isClosed := parts.getLast? = some []
  let forms ← (if isClosed then parts.dropLast else parts).mapM asciiLabel?
  let form := List.intercalate ['.'] forms
  if nameLimit < form.length then none
  return if isClosed then form ++ ['.'] else form

end Winnow.Domain
