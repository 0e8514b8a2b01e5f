/-
Authority — whether the address of a request can be taken apart.

The address is put together from what the request says of itself, and split again to log its path.
That fails if brackets stand in the place of the host that do not enclose an IP address.
-/
import Winnow.Web.Message
import Winnow.Web.Url

namespace Winnow

namespace Url

/-- A character that ends the host and port of an address. -/
def endsAuthority (c : Char) : Bool := c = '/' || c = '?' || c = '#'

/-- A character that is dropped from an address before it is taken apart. -/
def isDropped (c : Char) : Bool := c = '\t' || c = '\n' || c = '\r'

/-- An address of a coming version: its number in hexadecimal digits, a point, and what follows. -/
def isFutureAddress : List Char → Bool
  | 'v' :: rest => match rest.span fun c => (Json.hexValue? c).isSome with
    | (version, '.' :: address) => !version.isEmpty && !address.isEmpty
    | _ => false
  | _ => false

/-- What may stand in brackets. -/
def isBracketedHost (cs : List Char) : Bool :=
  if cs.head? = some 'v' then isFutureAddress cs else isZonedIpv6 cs

/-- A host and port can be taken apart: they have no brackets, or those of an IP address. -/
def isAuthority (cs : List Char) : Bool :=
  match Text.cutAt '[' cs with
  | (_, none) => !cs.contains ']'
  | (_, some after) => cs.contains ']' && isBracketedHost (Text.cutAt ']' after).1

end Url

/-- The address of a request can be taken apart. -/
def Request.hasUrl (r : Request) : Bool :=
  Url.isAuthority
    ((r.authority.toList.filter (!Url.isDropped ·)).takeWhile (!Url.endsAuthority ·))

end Winnow
