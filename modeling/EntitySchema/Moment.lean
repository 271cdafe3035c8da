/-
  EntitySchema.Moment
  ────────────────────────────────
  **POINTS IN TIME.**

  A moment counts the nanoseconds since the beginning of 1970, and is
  written as a date with a time of day in universal time.  The calendar is
  reckoned in years that begin in March, so that a leap day ends one.
-/
namespace EntitySchema

/-- A point in time. -/
structure Moment where
  /-- Nanoseconds since the beginning of 1970. -/
  nanoseconds : Nat
  deriving DecidableEq, Repr

namespace Moment

/-- Milliseconds from one moment to a later one. -/
def millisecondsUntil (start finish : Moment) : Nat :=
  (finish.nanoseconds - start.nanoseconds) / 1000000

/-! ## §1. The calendar. -/

/-- A date. -/
structure Date where
  year : Nat
  month : Nat
  day : Nat
  deriving DecidableEq, Repr

/-- Date of a day, counted from the beginning of 1970.  Day 719468 of the
count that starts on the first of March of year 0 is that beginning; 400
years have 146097 days. -/
def dateOfDay (n : Nat) : Date :=
  let shifted := n + 719468
  let era := shifted / 146097
  let day := shifted % 146097
  let yearOfEra := (day - day / 1460 + day / 36524 - day / 146096) / 365
  let dayOfYear := day - (365 * yearOfEra + yearOfEra / 4 - yearOfEra / 100)
  let monthFromMarch := (5 * dayOfYear + 2) / 153
  let month := if monthFromMarch < 10 then monthFromMarch + 3 else monthFromMarch - 9
  { year := era * 400 + yearOfEra + (if month ≤ 2 then 1 else 0)
    month
    day := dayOfYear - (153 * monthFromMarch + 2) / 5 + 1 }

/-! ## §2. Text. -/

/-- Number with zeros in front, up to a width. -/
def padded (width n : Nat) : String :=
  let digits := toString n
  String.ofList (List.replicate (width - digits.length) '0') ++ digits

/-- Fraction of a second in groups of three digits, as many as it needs. -/
def fraction (nanoseconds : Nat) : String :=
  if nanoseconds = 0 then ""
  else if nanoseconds % 1000000 = 0 then "." ++ padded 3 (nanoseconds / 1000000)
  else if nanoseconds % 1000 = 0 then "." ++ padded 6 (nanoseconds / 1000)
  else "." ++ padded 9 nanoseconds

/-- Date and time of day, followed by the name of universal time. -/
def render (zone : String) (m : Moment) : String :=
  let seconds := m.nanoseconds / 1000000000
  let date := dateOfDay (seconds / 86400)
  let time := seconds % 86400
  padded 4 date.year ++ "-" ++ padded 2 date.month ++ "-" ++ padded 2 date.day ++ "T"
    ++ padded 2 (time / 3600) ++ ":" ++ padded 2 (time / 60 % 60) ++ ":" ++ padded 2 (time % 60)
    ++ fraction (m.nanoseconds % 1000000000) ++ zone

end Moment
end EntitySchema
