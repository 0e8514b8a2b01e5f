/-
Limits — what the program bears where it runs.

Texts are read, refusals are logged and responses are shown by functions that call themselves for
what is nested.  How deep they get depends on what is on the stack already, and on libraries that
have limits of their own.
-/
import Winnow.Json.Basic

namespace Winnow

/-- What the program bears where it runs. -/
class Limits where
  /-- How deeply the text for filters may be nested. -/
  filters : Nat
  /-- How deeply the body of a reply may be nested. -/
  reply : Nat
  /-- The refusal of a text for filters of the wrong shape can be logged, with what is wrong. -/
  logs : String → Bool
  /-- Responses can be written into an answer. -/
  shows : List Json → Bool

end Winnow
