import SemanticQuery.Text.Blank

/-!
# Calendar dates

Days of the Gregorian calendar, extended to all years. A date is read from and written as year,
month and day with hyphens between them; years of more than four digits and years before the year
zero carry their sign.
-/

namespace SemanticQuery.Calendar

/-! ### Years and months -/

/-- Whether a year has 366 days. -/
def isLeap (year : Int) : Bool := year % 4 == 0 && (year % 100 != 0 || year % 400 == 0)

/-- The lengths of the months of a year. -/
def monthLengths (leap : Bool) : List Nat :=
  [31, if leap then 29 else 28, 31, 30, 31, 30, 31, 31, 30, 31, 30, 31]

/-- The length of a month, zero if there is no such month. -/
def monthLength (year : Int) (month : Nat) : Nat :=
  if month == 0 then 0 else (monthLengths (isLeap year)).getD (month - 1) 0

/-- A day of the calendar. -/
structure Date where
  year : Int
  month : Nat
  day : Nat
  deriving DecidableEq

namespace Date

/-- The first and the last year. -/
def years : Int × Int := (-262143, 262142)

/-- Whether there is such a day. -/
def isValid (d : Date) : Bool :=
  years.1 ≤ d.year && d.year ≤ years.2 && 1 ≤ d.day && d.day ≤ monthLength d.year d.month

/-! ### Reading -/

/-- The value of decimal digits. -/
def digitsValue (ds : List Char) : Nat := ds.foldl (fun n c => n * 10 + (c.toNat - '0'.toNat)) 0

/-- At most `width` digits at the head of a text, and at least one. -/
def number (width : Option Nat) (cs : List Char) : Option (Nat × List Char) :=
  let run := cs.takeWhile Char.isDigit
  let ds :=
    match width with
    | some w => run.take w
    | none => run
  if ds.isEmpty then none else some (digitsValue ds, cs.drop ds.length)

/-- What follows the blanks at the head of a text. -/
def skipBlanks (cs : List Char) : List Char := cs.dropWhile Text.isBlank

/-- The year at the head of a text. Behind a sign it may have any number of digits. -/
def yearPart (cs : List Char) : Option (Int × List Char) :=
  match skipBlanks cs with
  | '-' :: rest => (number none rest).map fun (n, rest) => (-(n : Int), rest)
  | '+' :: rest => (number none rest).map fun (n, rest) => ((n : Int), rest)
  | rest => (number (some 4) rest).map fun (n, rest) => ((n : Int), rest)

/-- A hyphen and a number of at most two digits. -/
def nextPart : List Char → Option (Nat × List Char)
  | '-' :: rest => number (some 2) (skipBlanks rest)
  | _ => none

/-- The date of a text, with nothing but blanks around it. -/
def read? (text : String) : Option Date := do
  let (year, rest) ← yearPart (Text.trimChars text.toList)
  let (month, rest) ← nextPart rest
  let (day, rest) ← nextPart rest
  let date : Date := ⟨year, month, day⟩
  if rest.isEmpty && date.isValid then return date else none

/-! ### Writing -/

/-- The decimal digits of a number, at least `width`. -/
def padded (width n : Nat) : List Char :=
  let ds := Nat.toDigits 10 n
  List.replicate (width - ds.length) '0' ++ ds

/-- The year as it is written. -/
def printYear (year : Int) : List Char :=
  if 0 ≤ year && year ≤ 9999 then padded 4 year.natAbs
  else (if year < 0 then '-' else '+') :: padded 4 year.natAbs

/-- The text of a date. -/
def print (d : Date) : String :=
  String.ofList (printYear d.year ++ '-' :: padded 2 d.month ++ '-' :: padded 2 d.day)

/-! ### Counting days -/

/-- The days from the beginning of the year zero to the beginning of a year. -/
def daysBeforeYear (year : Int) : Int :=
  365 * year + (year + 3) / 4 - (year + 99) / 100 + (year + 399) / 400

/-- The days of the months before a month. -/
def daysBeforeMonth (leap : Bool) (month : Nat) : Nat :=
  ((monthLengths leap).take (month - 1)).foldl (· + ·) 0

/-- The days from the beginning of the year zero to a date. -/
def dayNumber (d : Date) : Int :=
  daysBeforeYear d.year + (daysBeforeMonth (isLeap d.year) d.month + d.day - 1 : Nat)

/-- The year that holds a day, by its number. -/
def yearOf (n : Int) : Int :=
  let guess := n * 400 / 146097
  if n < daysBeforeYear guess then guess - 1
  else if daysBeforeYear (guess + 1) ≤ n then guess + 1
  else guess

/-- The month and the day in it, from the days that have passed since the first of `month`. -/
def monthAndDay (month passed : Nat) : List Nat → Nat × Nat
  | [] => (month, passed + 1)
  | length :: lengths =>
    if passed < length then (month, passed + 1)
    else monthAndDay (month + 1) (passed - length) lengths

/-- The date with a day number. -/
def ofDayNumber (n : Int) : Date :=
  let year := yearOf n
  let (month, day) := monthAndDay 1 (n - daysBeforeYear year).toNat (monthLengths (isLeap year))
  ⟨year, month, day⟩

/-- The date some days before, if the calendar reaches so far. -/
def daysBefore (d : Date) (days : Nat) : Option Date :=
  let earlier := ofDayNumber (d.dayNumber - days)
  if earlier.isValid then some earlier else none

end Date

end SemanticQuery.Calendar
