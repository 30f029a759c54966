import BundleHardening.Text.Basic

/-!
# Timestamps

A point in time is written as date and time of day in Greenwich, to the second.  Years are counted
from March, so that the day that a leap year adds is the last of its year.
-/

set_option autoImplicit false

namespace BundleHardening.Timestamp

/-- A date of the calendar. -/
structure Date where
  year : Nat
  month : Nat
  day : Nat
  deriving DecidableEq, Repr

/-- The number of days from the first of March of the year 0 to the beginning of 1970. -/
def epoch : Nat := 719468

/-- The date so many days after the beginning of 1970. -/
def dateOf (days : Nat) : Date :=
  let n := days + epoch
  let era := n / 146097
  let dayOfEra := n % 146097
  let yearOfEra := (dayOfEra - dayOfEra / 1460 + dayOfEra / 36524 - dayOfEra / 146096) / 365
  let dayOfYear := dayOfEra - (365 * yearOfEra + yearOfEra / 4 - yearOfEra / 100)
  let month := (5 * dayOfYear + 2) / 153
  let year := yearOfEra + era * 400
  { year := if month < 10 then year else year + 1,
    month := if month < 10 then month + 3 else month - 9,
    day := dayOfYear - (153 * month + 2) / 5 + 1 }

/-- A number with zeros before it, up to a width. -/
def padded (width n : Nat) : Text :=
  let ds := (toString n).toList
  List.replicate (width - ds.length) '0' ++ ds

/-- The written form of a point in time, given in seconds since the beginning of 1970. -/
def ofSeconds (seconds : Nat) : Text :=
  let date := dateOf (seconds / 86400)
  let s := seconds % 86400
  padded 4 date.year ++ ['-'] ++ padded 2 date.month ++ ['-'] ++ padded 2 date.day ++ ['T'] ++
    padded 2 (s / 3600) ++ [':'] ++ padded 2 (s / 60 % 60) ++ [':'] ++ padded 2 (s % 60) ++ ['Z']

example : dateOf 0 = ⟨1970, 1, 1⟩ ∧ dateOf 11016 = ⟨2000, 2, 29⟩ ∧ dateOf 19723 = ⟨2024, 1, 1⟩ := by
  decide

end BundleHardening.Timestamp
