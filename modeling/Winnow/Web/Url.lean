/-
Url — addresses of services, and the targets of requests to them.

An address is split into its parts, which are brought to a normal form: scheme and host in lower
case, no default port, characters that a path cannot hold percent-encoded, dot segments removed.
-/
import Winnow.Number.Numeral
import Winnow.Text.Lower
import Winnow.Text.Pieces
import Winnow.Web.Domain.Name
import Winnow.Web.Percent

namespace Winnow

/-- The parts of an address; the host of an IPv6 address stands without its brackets. -/
structure Url where
  scheme : List Char
  userinfo : List Char
  host : List Char
  port : Option Int
  path : List Char
  query : Option (List Char)
deriving DecidableEq, Repr

namespace Url

/-- The longest text of an address or of one of its parts, in characters. -/
def lengthLimit : Nat := 65536

/-- A control character of ASCII, which no address holds. -/
def isControl (c : Char) : Bool := c.toNat < 0x20 || c.toNat = 0x7f

/-- The text is short enough and has no control characters. -/
def isAdmissible (cs : List Char) : Bool := cs.length ≤ lengthLimit && !cs.any isControl

/-! ## Characters of the parts -/

/-- A printable ASCII character. -/
def isVisible (c : Char) : Bool := 0x21 ≤ c.toNat && c.toNat < 0x7f

/-- A character that stands for itself in a query. -/
def isQueryChar (c : Char) : Bool := isVisible c && !"\"#<>".toList.contains c

/-- A character that stands for itself in a path. -/
def isPathChar (c : Char) : Bool := isQueryChar c && !"?`\x7b\x7d".toList.contains c

/-- A character that stands for itself in a host name. -/
def isHostChar (c : Char) : Bool :=
  Percent.isUnreserved c || "!$&'()*+,;=\"`\x7b\x7d%|\\".toList.contains c

/-! ## Hosts -/

/-- A part of an IPv4 address: a number up to 255 without superfluous zeros. -/
def isOctet (cs : List Char) : Bool :=
  !cs.isEmpty && cs.length ≤ 3 && cs.all Char.isDigit && digitsValue cs ≤ 255
    && (cs.length = 1 || cs.head? ≠ some '0')

/-- Four numbers joined by points. -/
def isIpv4 (cs : List Char) : Bool :=
  let parts := Text.pieces '.' cs
  parts.length = 4 && parts.all isOctet

/-- Four runs of digits joined by points, which only an IPv4 address may consist of. -/
def looksLikeIpv4 (cs : List Char) : Bool :=
  let parts := Text.pieces '.' cs
  parts.length = 4 && parts.all fun p => !p.isEmpty && p.all Char.isDigit

/-- A group of an IPv6 address. -/
def isHexGroup (cs : List Char) : Bool :=
  !cs.isEmpty && cs.length ≤ 4 && cs.all fun c => (Json.hexValue? c).isSome

/-- The number of groups that the parts between colons stand for; an IPv4 address at the end
stands for two. -/
def groupCount? : List (List Char) → Option Nat
  | [] => some 0
  | [last] => if isHexGroup last then some 1 else if isIpv4 last then some 2 else none
  | group :: rest => if isHexGroup group then (· + 1) <$> groupCount? rest else none

/-- The parts before and after the first pair of colons. -/
def splitDoubleColon : List Char → List Char × Option (List Char)
  | ':' :: ':' :: rest => ([], some rest)
  | c :: rest =>
    let (before, after) := splitDoubleColon rest
    (c :: before, after)
  | [] => ([], none)

/-- The groups between colons; an empty text has none. -/
def groups (cs : List Char) : List (List Char) := if cs.isEmpty then [] else Text.pieces ':' cs

/-- Eight groups joined by colons, or fewer with one pair of colons for the missing ones. -/
def isIpv6 (cs : List Char) : Bool :=
  match splitDoubleColon cs with
  | (whole, none) => groupCount? (groups whole) = some 8
  | (before, some after) =>
    (groups before).all isHexGroup
      && (groupCount? (groups after)).any fun n => (groups before).length + n < 8

/-- A registered name of ASCII characters in lower case, escapes included. -/
def registeredName (cs : List Char) : List Char :=
  (Percent.encode isHostChar cs).map Char.toLower

/-- An IPv6 address, which a percent sign and the name of a zone may follow. -/
def isZonedIpv6 (cs : List Char) : Bool :=
  match Text.cutAt '%' cs with
  | (address, none) => isIpv6 address
  | (address, some zone) => isIpv6 address && !zone.isEmpty && !zone.contains '%'

/-- What stands between the brackets that enclose a text. -/
def bracketed? : List Char → Option (List Char)
  | '[' :: rest => if rest.getLast? = some ']' then some rest.dropLast else none
  | _ => none

/-- The normal form of a host, if it is one: an IPv4 address, an IPv6 address in brackets, any name
of ASCII characters, or the ASCII form of the name of a domain. -/
def host? (cs : List Char) : Option (List Char) :=
  if looksLikeIpv4 cs then if isIpv4 cs then some cs else none
  else match bracketed? cs with
    | some inner => if isZonedIpv6 inner then some inner else none
    | none =>
      if cs.all (·.toNat < 0x80) then some (registeredName cs) else Domain.ascii? (Text.lower cs)

/-! ## Ports -/

/-- The port that a scheme implies. -/
def defaultPort? (scheme : List Char) : Option Int :=
  match String.ofList scheme with
  | "ftp" => some 21
  | "http" | "ws" => some 80
  | "https" | "wss" => some 443
  | _ => none

/-- The port of an address; none in the inner option is that of the scheme. -/
def port? (scheme cs : List Char) : Option (Option Int) :=
  if cs.isEmpty then some none
  else (Numeral.readInteger? cs).map fun n => if defaultPort? scheme = some n then none else some n

/-! ## Paths -/

/-- Takes one segment: a single dot is dropped, a double dot takes the last segment with it, but
not the empty one that a leading slash makes.  The segments so far stand in reverse. -/
def takeSegment (seen : List (List Char)) (segment : List Char) : List (List Char) :=
  if segment = ['.'] then seen
  else if segment = ['.', '.'] then if seen = [[]] then seen else seen.drop 1
  else segment :: seen

/-- The path without dot segments. -/
def removeDots (path : List Char) : List Char :=
  List.intercalate ['/'] (((Text.pieces '/' path).foldl takeSegment []).reverse)

/-- The path is absolute, or empty, if there is a host; without one it is not taken for one. -/
def isPathFor (hasScheme hasAuthority : Bool) (path : List Char) : Bool :=
  if hasAuthority then path.isEmpty || path.head? = some '/'
  else hasScheme || !("//".toList.isPrefixOf path || path.head? = some ':')

/-- The normal form of a path. -/
def path? (hasScheme hasAuthority : Bool) (path : List Char) : Option (List Char) :=
  if isPathFor hasScheme hasAuthority path then
    some (Percent.encode isPathChar (if hasScheme || hasAuthority then removeDots path else path))
  else none

/-! ## Reading -/

/-- A character of a scheme after its first one. -/
def isSchemeChar (c : Char) : Bool := c.isAlphanum || c = '+' || c = '.' || c = '-'

/-- The scheme before the first colon, if it is one. -/
def splitScheme (cs : List Char) : List Char × List Char :=
  match Text.cutAt ':' cs with
  | (scheme, some rest) =>
    if scheme.head?.all Char.isAlpha && scheme.all isSchemeChar then (scheme, rest) else ([], cs)
  | (_, none) => ([], cs)

/-- The authority after two slashes. -/
def splitAuthority : List Char → List Char × List Char
  | '/' :: '/' :: rest => Text.splitBefore (fun c => c = '/' || c = '?' || c = '#') rest
  | cs => ([], cs)

/-- What stands before the last occurrence of a character, and after it. -/
def cutAtLast (mark : Char) (cs : List Char) : List Char × List Char :=
  match Text.cutAt mark cs.reverse with
  | (after, some before) => (before.reverse, after.reverse)
  | (all, none) => ([], all.reverse)

/-- The host and the port of an authority without user information. -/
def splitHost (cs : List Char) : List Char × List Char :=
  match cs, cutAtLast ']' cs with
  | '[' :: _, (inner, port) =>
    if cs.contains ']' then (inner ++ [']'], if port.head? = some ':' then port.drop 1 else port)
    else
      let (host, port) := Text.cutAt ':' cs
      (host, port.getD [])
  | _, _ =>
    let (host, port) := Text.cutAt ':' cs
    (host, port.getD [])

/-- The normal form of an address, if it is one. -/
def read? (cs : List Char) : Option Url := do
  if !isAdmissible cs then none
  let (scheme, rest) := splitScheme cs
  let (authority, rest) := splitAuthority rest
  let (rest, _) := Text.cutAt '#' rest
  let (path, query) := Text.cutAt '?' rest
  let (userinfo, hostPort) := cutAtLast '@' authority
  let (host, port) := splitHost hostPort
  let host ← host? host
  let port ← port? (scheme.map Char.toLower) port
  let hasAuthority := !userinfo.isEmpty || !host.isEmpty || port.isSome
  let path ← path? (!scheme.isEmpty) hasAuthority path
  return ⟨scheme.map Char.toLower, userinfo, host, port, path,
    query.map (Percent.encode isQueryChar)⟩

/-! ## Requests -/

/-- The host and, unless the scheme implies it, the port. -/
def hostPort (url : Url) : List Char :=
  (if url.host.contains ':' then '[' :: (url.host ++ [']']) else url.host)
    ++ match url.port with
      | none => []
      | some n => ':' :: (toString n).toList

/-- The user information is a name and a password around a colon. -/
def credentials (url : Url) : List Char × List Char :=
  let (name, password) := Text.cutAt ':' url.userinfo
  (Percent.decode name, Percent.decode (password.getD []))

/-- The path, which is a slash if it is empty, and the query after a question mark. -/
def pathAndQuery (url : Url) : List Char :=
  (if url.path.isEmpty then ['/'] else url.path)
    ++ match url.query with
      | none => []
      | some query => '?' :: query

/-- The path with a slash at its end, which relative references are put after. -/
def directory (url : Url) : List Char :=
  let whole := url.pathAndQuery
  if whole.getLast? = some '/' then whole else whole ++ ['/']

/-- The path that a reference leads to from an address.  The reference starts with a slash; from
its first hash sign on it does not count, and a question mark ends the path.  There is none if the
reference or the path is not admissible. -/
def resolve? (base : Url) (reference : List Char) : Option (List Char) := do
  if !isAdmissible reference then none
  let (path, query) := Text.cutAt '?' (Text.cutAt '#' reference).1
  let relative := Percent.encode isPathChar path
    ++ match query with
      | none => []
      | some query => '?' :: Percent.encode isQueryChar query
  let (path, query) := Text.cutAt '?' (base.directory ++ relative.dropWhile (· = '/'))
  if lengthLimit < path.length || lengthLimit < (query.getD []).length then none
  path? (!base.scheme.isEmpty) (!base.userinfo.isEmpty || !base.host.isEmpty || base.port.isSome)
    path

end Url

end Winnow
