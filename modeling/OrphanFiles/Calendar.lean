import OrphanFiles.Text.Basic

/-! Moments of coordinated universal time as text: date and time of day with six
decimals of the second. Leap seconds do not occur. -/
namespace OrphanFiles.Calendar

structure Date where
  year : Nat
  month : Nat
  day : Nat
deriving DecidableEq

/-- The date of a day counted from the first of January 1970. Years are taken to begin in
March, so that a leap day ends its year. -/
def dateOf (days : Nat) : Date :=
  let shifted := days + 719468
  let era := shifted / 146097
  let dayOfEra := shifted % 146097
  let yearOfEra := (dayOfEra - dayOfEra / 1460 + dayOfEra / 36524 - dayOfEra / 146096) / 365
  let dayOfYear := dayOfEra - (365 * yearOfEra + yearOfEra / 4 - yearOfEra / 100)
  let monthFromMarch := (5 * dayOfYear + 2) / 153
  let month := if monthFromMarch < 10 then monthFromMarch + 3 else monthFromMarch - 9
  { year := yearOfEra + era * 400 + (if month ≤ 2 then 1 else 0)
    month
    day := dayOfYear - (153 * monthFromMarch + 2) / 5 + 1 }

example : dateOf 0 = ⟨1970, 1, 1⟩ := by decide
example : dateOf 11016 = ⟨2000, 2, 29⟩ := by decide
example : dateOf 19722 = ⟨2023, 12, 31⟩ := by decide

def padded (width n : Nat) : Text :=
  let digits := Nat.toDigits 10 n
  List.replicate (width - digits.length) '0' ++ digits

/-- The text of a moment given in microseconds since the start of 1970. -/
def momentText (microseconds : Nat) : Text :=
  let seconds := microseconds / 1000000
  let date := dateOf (seconds / 86400)
  padded 4 date.year ++ '-' :: padded 2 date.month ++ '-' :: padded 2 date.day ++
    'T' :: padded 2 (seconds / 3600 % 24) ++ ':' :: padded 2 (seconds / 60 % 60) ++
    ':' :: padded 2 (seconds % 60) ++ '.' :: padded 6 (microseconds % 1000000) ++ "+00:00".toList

end OrphanFiles.Calendar
