/-
Message — requests, answers, and the calls made on the way between them.
-/
import Winnow.Json.Basic

namespace Winnow

/-- A request; the path is already percent-decoded. -/
structure Request where
  method : String
  path : List Char
  query : String
  headers : List (String × String)
  scheme : String
  /-- The host and port that the request arrived at. -/
  server : String

namespace Request

/-- The name of a header in lower case. -/
def lowerName (name : String) : String := String.ofList (name.toList.map Char.toLower)

/-- The value of the first header of a name, which is given in lower case. -/
def header? (r : Request) (name : String) : Option String :=
  (r.headers.find? fun h => lowerName h.1 = name).map (·.2)

/-- The host and port that the request names, which may be any text. -/
def authority (r : Request) : String := (r.header? "host").getD r.server

/-- The address of another path of the same service. -/
def addressOf (r : Request) (path : List Char) : List Char :=
  r.scheme.toList ++ "://".toList ++ r.authority.toList ++ path
    ++ if r.query.isEmpty then [] else '?' :: r.query.toList

end Request

/-- The body of an answer. -/
inductive Body where
  | json (v : Json)
  | text (s : String)

/-- An answer; the names of its headers are in lower case. -/
structure Answer where
  status : Nat
  headers : List (String × String)
  body : Body

namespace Answer

/-- An answer in JSON. -/
def json (status : Nat) (v : Json) : Answer :=
  ⟨status, [("content-type", "application/json")], .json v⟩

/-- An answer in plain text. -/
def plain (status : Nat) (s : String) : Answer :=
  ⟨status, [("content-type", "text/plain; charset=utf-8")], .text s⟩

/-- The answer with one more header. -/
def withHeader (a : Answer) (name value : String) : Answer :=
  { a with headers := a.headers ++ [(name, value)] }

end Answer

/-- A call to another service. -/
structure Call where
  method : String
  host : String
  target : String
  authorization : String
deriving DecidableEq, Repr

/-- What comes of a call. -/
inductive Reply where
  /-- A reply arrives. -/
  | received (status : Nat) (body : List UInt8)
  /-- The call fails on the way. -/
  | failed
  /-- The call breaks off in a way that nobody expects. -/
  | broken

end Winnow
