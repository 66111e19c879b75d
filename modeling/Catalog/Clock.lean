/-!
# Durations and moments

The text of a time span counts its largest fitting unit. The text of a moment has its date, its time
of day and the fraction of the second, in universal time. Dates are counted from the first of March
of the year 0, so that a leap day is the last day of its year and 400 years are one period.

## Main definitions

* `Duration` — a time span.
* `Duration.text` — its text.
* `civilDate` — the year, month and day of a day.
* `momentText` — the text of a moment.
-/

namespace Catalog

/-! ### Durations -/

/-- A time span in whole milliseconds. -/
structure Duration where
  millis : Nat
deriving DecidableEq, Repr, Inhabited

namespace Duration

/-- A time span in whole seconds. -/
def ofSeconds (n : Nat) : Duration := ⟨1000 * n⟩

/-- The three digits of a fraction of a second without the zeros at the end. -/
def fraction (millis : Nat) : String :=
  let digits := ((toString (1000 + millis)).toList.drop 1).reverse.dropWhile (· == '0')
  if digits.isEmpty then "" else "." ++ String.ofList digits.reverse

/-- The text of a time span. From one second on it counts seconds. -/
def text (d : Duration) : String :=
  if d.millis = 0 then "0ns"
  else if d.millis < 1000 then toString d.millis ++ "ms"
  else toString (d.millis / 1000) ++ fraction (d.millis % 1000) ++ "s"

end Duration

/-! ### Moments -/

/-- The number of days in 400 years. -/
def periodDays : Nat := 146097

/-- How many days the first of January 1970 is after the first of March of the year 0. -/
def epochDay : Nat := 719468

/-- The year, the month and the day that lie a number of days after the first of January 1970. -/
def civilDate (days : Nat) : Nat × Nat × Nat :=
  let count := days + epochDay
  let inPeriod := count % periodDays
  let yearInPeriod := (inPeriod - inPeriod / 1460 + inPeriod / 36524 - inPeriod / 146096) / 365
  let inYear := inPeriod - (365 * yearInPeriod + yearInPeriod / 4 - yearInPeriod / 100)
  let march := (5 * inYear + 2) / 153
  let month := if march < 10 then march + 3 else march - 9
  let year := 400 * (count / periodDays) + yearInPeriod
  (if month ≤ 2 then year + 1 else year, month, inYear - (153 * march + 2) / 5 + 1)

/-- A number with leading zeros. -/
def padNumber (width n : Nat) : String :=
  let digits := (Nat.repr n).toList
  String.ofList (List.replicate (width - digits.length) '0' ++ digits)

/-- The fraction of a second, with as many groups of three digits as it needs. -/
def fractionText (nanos : Nat) : String :=
  if nanos = 0 then ""
  else if nanos % 1000000 = 0 then "." ++ padNumber 3 (nanos / 1000000)
  else if nanos % 1000 = 0 then "." ++ padNumber 6 (nanos / 1000)
  else "." ++ padNumber 9 nanos

/-- The text of the moment that lies a number of nanoseconds after the start of 1970. -/
def momentText (nanos : Nat) : String :=
  let seconds := nanos / 1000000000
  let (year, month, day) := civilDate (seconds / 86400)
  let clock := seconds % 86400
  padNumber 4 year ++ "-" ++ padNumber 2 month ++ "-" ++ padNumber 2 day ++ "T"
    ++ padNumber 2 (clock / 3600) ++ ":" ++ padNumber 2 (clock / 60 % 60) ++ ":"
    ++ padNumber 2 (clock % 60) ++ fractionText (nanos % 1000000000) ++ "Z"

example : momentText 951782400000000000 = "2000-02-29T00:00:00Z" := by decide +kernel

example : momentText 1704067199120000000 = "2023-12-31T23:59:59.120Z" := by decide +kernel

end Catalog
