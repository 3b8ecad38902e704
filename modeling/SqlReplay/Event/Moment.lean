/-!
# Moments

A moment is a number of milliseconds since the beginning of 1970, in universal time. Its written
form is the date and the time of day down to the millisecond.
-/

namespace SqlReplay

/-- A date of the Gregorian calendar. -/
structure Date where
  year : Nat
  month : Nat
  day : Nat
deriving DecidableEq, Inhabited

/-- The date that lies `days` days after the beginning of 1970. Years are counted from March, so
that a leap day is the last day of its year. -/
def Date.ofDays (days : Nat) : Date :=
  let shifted := days + 719468
  let era := shifted / 146097
  let dayOfEra := shifted % 146097
  let yearOfEra := (dayOfEra - dayOfEra / 1460 + dayOfEra / 36524 - dayOfEra / 146096) / 365
  let dayOfYear := dayOfEra - (365 * yearOfEra + yearOfEra / 4 - yearOfEra / 100)
  let shiftedMonth := (5 * dayOfYear + 2) / 153
  let month := if shiftedMonth < 10 then shiftedMonth + 3 else shiftedMonth - 9
  { year := era * 400 + yearOfEra + if month ≤ 2 then 1 else 0
    month := month
    day := dayOfYear - (153 * shiftedMonth + 2) / 5 + 1 }

/-- The last `width` decimal digits of a number. -/
def decimalDigits : Nat → Nat → List Char
  | 0, _ => []
  | width + 1, n => decimalDigits width (n / 10) ++ [Nat.digitChar (n % 10)]

/-- A moment. -/
structure Moment where
  milliseconds : Nat
deriving DecidableEq, Inhabited

/-- The written form of a moment. -/
def Moment.written (m : Moment) : String :=
  let seconds := m.milliseconds / 1000
  let date := Date.ofDays (seconds / 86400)
  let second := seconds % 86400
  String.ofList (decimalDigits 4 date.year ++ '-' :: (decimalDigits 2 date.month
    ++ '-' :: (decimalDigits 2 date.day ++ 'T' :: (decimalDigits 2 (second / 3600)
    ++ ':' :: (decimalDigits 2 (second / 60 % 60) ++ ':' :: (decimalDigits 2 (second % 60)
    ++ '.' :: (decimalDigits 3 (m.milliseconds % 1000) ++ ['Z'])))))))

example : (Moment.mk 951782399999).written = "2000-02-28T23:59:59.999Z" := by decide +kernel

example : (Moment.mk 951782400000).written = "2000-02-29T00:00:00.000Z" := by decide +kernel

end SqlReplay
