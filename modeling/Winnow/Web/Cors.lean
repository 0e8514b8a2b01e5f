/-
Cors — which origins other than its own may read the answers of a service.

Only the method GET is admitted, with any headers.  A preflight request asks beforehand and is
answered without looking at its path.
-/
import Winnow.Web.Message

namespace Winnow

/-- The origins that are admitted. -/
structure Cors where
  origins : List String
deriving DecidableEq, Repr

namespace Cors

/-- Any origin is admitted. -/
def admitsAll (c : Cors) : Bool := c.origins.contains "*"

/-- An origin is admitted. -/
def admits (c : Cors) (origin : String) : Bool := c.admitsAll || c.origins.contains origin

/-- The header that lets an origin read an answer. -/
def allowOrigin (c : Cors) (origin : String) (a : Answer) : Answer :=
  if c.admitsAll then a.withHeader "access-control-allow-origin" "*"
  else if c.admits origin then a.withHeader "access-control-allow-origin" origin
  else a

/-- A request is a preflight: it has the method that it asks for. -/
def preflightMethod? (r : Request) : Option String :=
  if r.method = "OPTIONS" then r.header? "access-control-request-method" else none

/-- A preflight request asks to reach a private network from a public one. -/
def asksForPrivateNetwork (r : Request) : Bool :=
  (r.header? "access-control-request-private-network").isSome

/-- What a preflight request asks for and does not get.  Access to a private network is never
granted. -/
def failures (c : Cors) (r : Request) (origin method : String) : List String :=
  (if c.admits origin then [] else ["origin"])
    ++ (if method = "GET" then [] else ["method"])
    ++ if asksForPrivateNetwork r then ["private-network"] else []

/-- The headers of every answer to a preflight request. -/
def preflightHeaders (r : Request) (a : Answer) : Answer :=
  let a := (a.withHeader "access-control-allow-methods" "GET").withHeader
    "access-control-max-age" "600"
  match r.header? "access-control-request-headers" with
  | some names => a.withHeader "access-control-allow-headers" names
  | none => a

/-- The answer to a preflight request. -/
def preflight (c : Cors) (r : Request) (origin method : String) : Answer :=
  let a := match c.failures r origin method with
    | [] => .plain 200 "OK"
    | failures => .plain 400 ("Disallowed CORS " ++ ", ".intercalate failures)
  preflightHeaders r (c.allowOrigin origin a)

end Cors

end Winnow
