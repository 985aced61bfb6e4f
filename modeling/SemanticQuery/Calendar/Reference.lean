import SemanticQuery.Calendar.Date

/-!
# Reference dates

The date that a request without a time is about: a date given for one of its models, or a number
of days before today.
-/

namespace SemanticQuery.Calendar

/-- The canonical text of a date. -/
def canonicalDate (text : String) : Option String := (Date.read? text).map Date.print

/-- Where reference dates come from. -/
inductive ReferenceDates where
  /-- Dates of models, and the date of the models without one. Of two dates of one model the later
  entry counts. -/
  | fixed (dates : List (Int × String)) (fallback : Option String)
  /-- So many days before today. -/
  | relative (today : Date) (daysBack : Nat)

namespace ReferenceDates

/-- The last date that is given for a model. -/
def ofModel (dates : List (Int × String)) (model : Int) : Option String :=
  dates.reverse.lookup model

/-- The reference date of models, which are given in ascending order. -/
def resolve (r : ReferenceDates) (models : List Int) : Option String :=
  match r with
  | .fixed dates fallback => ((models.findSome? (ofModel dates)).or fallback).bind canonicalDate
  | .relative today daysBack => (today.daysBefore daysBack).map Date.print

end ReferenceDates

end SemanticQuery.Calendar
