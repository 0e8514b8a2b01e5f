/-
Fault — why a filter is refused, or why it fails on a submission.

A rejection is the fault of the filter and has a message for its author.  All other faults lie in
the data that the filter meets.
-/
import Winnow.Json.Basic

namespace Winnow

/-- The fault of a filter that is well formed but cannot be applied. -/
inductive Rejection where
  /-- The value is no number, text or null. -/
  | unsupportedValue
  /-- Two clauses are about the same question. -/
  | repeatedQuestion
  /-- Text is compared by size. -/
  | orderedText
  /-- Null is compared by size. -/
  | orderedNull
  /-- The value of a clause about dates is not a date; it is shown in quoted form. -/
  | unreadableDate (shown : List Char)
deriving DecidableEq, Repr

/-- The message for the author of the filter. -/
def Rejection.message : Rejection → String
  | .unsupportedValue => "Filter values must be a number, string, date, or null."
  | .repeatedQuestion => "Too many conditions for a single Id"
  | .orderedText =>
    "Cannot filter strings with greater_than or less_than. Please use equals or does_not_equal."
  | .orderedNull =>
    "If you'd like to filter on null values, please use equals or does_not_equal"
  | .unreadableDate shown => "Cannot read " ++ String.ofList shown ++ " as a date."

/-- Why filtering stops. -/
inductive Fault where
  | rejected (r : Rejection)
  /-- An integer has too many digits to be written as text. -/
  | longInteger
  /-- A number in a date has too many digits to be computed with. -/
  | imprecise
  /-- The offset of a date is a day or more, so that it has no timestamp. -/
  | noTimestamp
  /-- A submission or a question is not an object. -/
  | notObject
  /-- Submissions or questions cannot be walked through. -/
  | notIterable
  /-- A number is compared by size with something else. -/
  | unordered
deriving DecidableEq, Repr

end Winnow
