import Poco.Text.Decimal

namespace Poco

/-- Seconds since 1970 began, and nanoseconds on top of them.  A billion or more
nanoseconds lie in a leap second. -/
structure Timestamp where
  seconds : Int := 0
  nanoseconds : Nat := 0
  deriving DecidableEq

namespace Timestamp

/-- Year, month and day of a day, counted from the first of 1970.  Years are
counted from March, so that a leap day comes last in its year. -/
def civilDate (day : Int) : Int × Nat × Nat :=
  let shifted := day + 719468
  let era := shifted / 146097
  let dayOfEra := (shifted % 146097).toNat
  let yearOfEra := (dayOfEra - dayOfEra / 1460 + dayOfEra / 36524 - dayOfEra / 146096) / 365
  let dayOfYear := dayOfEra - (365 * yearOfEra + yearOfEra / 4 - yearOfEra / 100)
  let monthFromMarch := (5 * dayOfYear + 2) / 153
  let dayOfMonth := dayOfYear - (153 * monthFromMarch + 2) / 5 + 1
  let month := if monthFromMarch < 10 then monthFromMarch + 3 else monthFromMarch - 9
  let year : Int := yearOfEra + era * 400
  (if month ≤ 2 then year + 1 else year, month, dayOfMonth)

def padded (width n : Nat) : String :=
  let numeral := Text.decimal n
  String.ofList (List.replicate (width - numeral.length) '0') ++ numeral

/-- Four digits for the years 0 to 9999, a sign and four or more for others. -/
def yearText (year : Int) : String :=
  if 0 ≤ year ∧ year ≤ 9999 then padded 4 year.toNat
  else if 0 ≤ year then "+" ++ padded 4 year.toNat
  else "-" ++ padded 4 year.natAbs

def fractionText (nanoseconds : Nat) : String :=
  if nanoseconds = 0 then ""
  else if nanoseconds % 1000000 = 0 then "." ++ padded 3 (nanoseconds / 1000000)
  else if nanoseconds % 1000 = 0 then "." ++ padded 6 (nanoseconds / 1000)
  else "." ++ padded 9 nanoseconds

def text (timestamp : Timestamp) : String :=
  let (year, month, day) := civilDate (timestamp.seconds / 86400)
  let second := (timestamp.seconds % 86400).toNat
  let leap := timestamp.nanoseconds / 1000000000
  yearText year ++ "-" ++ padded 2 month ++ "-" ++ padded 2 day ++ "T" ++
    padded 2 (second / 3600) ++ ":" ++ padded 2 (second / 60 % 60) ++ ":" ++
    padded 2 (second % 60 + leap) ++
    fractionText (timestamp.nanoseconds % 1000000000) ++ "+00:00"

end Timestamp

end Poco
