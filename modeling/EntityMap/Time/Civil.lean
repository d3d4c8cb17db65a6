/-!
# The civil calendar

Dates of the proleptic Gregorian calendar and days counted from the first of January 1970.
`Date.ofDays` and `Date.toDays` convert between them; both count years from March, so that the
leap day is the last of its year, and eras of 400 years, which all have the same days.
-/

namespace EntityMap.Time

/-- A date of the calendar. -/
structure Date where
  year : Int
  month : Nat
  day : Nat
  deriving DecidableEq, Repr

/-- The days of an era of 400 years. -/
def eraDays : Int := 146097

/-- The days from the first of March of the year 0 to the first of January 1970. -/
def epochShift : Int := 719468

/-- The date so many days after the first of January 1970. -/
def Date.ofDays (days : Int) : Date :=
  let z := days + epochShift
  let era := z.fdiv eraDays
  let dayOfEra := (z - era * eraDays).toNat
  let yearOfEra := (dayOfEra - dayOfEra / 1460 + dayOfEra / 36524 - dayOfEra / 146096) / 365
  let dayOfYear := dayOfEra - (365 * yearOfEra + yearOfEra / 4 - yearOfEra / 100)
  let monthFromMarch := (5 * dayOfYear + 2) / 153
  let day := dayOfYear - (153 * monthFromMarch + 2) / 5 + 1
  let month := if monthFromMarch < 10 then monthFromMarch + 3 else monthFromMarch - 9
  ⟨era * 400 + yearOfEra + (if month ≤ 2 then 1 else 0), month, day⟩

/-- The days from the first of January 1970 to the date. -/
def Date.toDays (d : Date) : Int :=
  let year := if d.month ≤ 2 then d.year - 1 else d.year
  let era := year.fdiv 400
  let yearOfEra := (year - era * 400).toNat
  let monthFromMarch := if d.month ≤ 2 then d.month + 9 else d.month - 3
  let dayOfYear := (153 * monthFromMarch + 2) / 5 + d.day - 1
  let dayOfEra := 365 * yearOfEra + yearOfEra / 4 - yearOfEra / 100 + dayOfYear
  era * eraDays + dayOfEra - epochShift

end EntityMap.Time
