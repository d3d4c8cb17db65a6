import EntityMap.Number.Binary64
import EntityMap.Number.Decimal
import EntityMap.Time.Civil

/-!
# Moments

A `Moment` is a reading of a clock and a calendar, to the microsecond, perhaps with the clock's
distance from universal time; without one the clock shows universal time. A timestamp column
keeps it as milliseconds since 1970: `Moment.epochMillis?` and `Moment.ofMillis?` go both ways.
Either way passes through a binary number of seconds, whose rounding is part of the format.
-/

namespace EntityMap.Time

open EntityMap.Number

/-- A reading of a clock: the microseconds since 1970 that it shows, and the seconds by which it
is ahead of universal time. -/
structure Moment where
  wall : Int
  offset : Option Int
  deriving DecidableEq, Repr

/-- Why a number of milliseconds names no moment. -/
inductive RangeError
  /-- The seconds do not fit a clock. -/
  | seconds
  /-- The year does not fit a calendar's counter. -/
  | counter
  /-- The year is not between 1 and 9999. -/
  | year
  deriving DecidableEq, Repr

/-! ## Parts -/

/-- The microseconds of a second. -/
def microsPerSecond : Int := 1000000

/-- The whole seconds since 1970. -/
def Moment.seconds (t : Moment) : Int := t.wall.fdiv microsPerSecond

/-- The microseconds after the whole second. -/
def Moment.micros (t : Moment) : Nat := (t.wall - t.seconds * microsPerSecond).toNat

/-- The date that the calendar shows. -/
def Moment.date (t : Moment) : Date := .ofDays (t.seconds.fdiv 86400)

/-- The second of the day. -/
def Moment.secondOfDay (t : Moment) : Nat := (t.seconds - t.seconds.fdiv 86400 * 86400).toNat

/-- The moment of a date and a time of day. -/
def Moment.ofParts (d : Date) (hour minute second micros : Nat) (offset : Option Int) : Moment :=
  ⟨(d.toDays * 86400 + hour * 3600 + minute * 60 + second) * microsPerSecond + micros, offset⟩

/-! ## Text -/

/-- A number with at least so many digits. -/
def padded (width n : Nat) : String :=
  let ds := natDigits n
  String.ofList (zeros (width - ds.length) ++ ds)

/-- Hours, minutes and, if there are any, seconds ahead of universal time. -/
def offsetText (offset : Int) : String :=
  let n := offset.natAbs
  let text := (if offset < 0 then "-" else "+") ++ padded 2 (n / 3600) ++ ":"
    ++ padded 2 (n / 60 % 60)
  if n % 60 = 0 then text else text ++ ":" ++ padded 2 (n % 60)

/-- Date, time and offset. The fraction has six digits; one that is zero may be left out. -/
def Moment.render (separator : String) (fullFraction : Bool) (t : Moment) : String :=
  let d := t.date
  let s := t.secondOfDay
  padded 4 d.year.toNat ++ "-" ++ padded 2 d.month ++ "-" ++ padded 2 d.day ++ separator
    ++ padded 2 (s / 3600) ++ ":" ++ padded 2 (s / 60 % 60) ++ ":" ++ padded 2 (s % 60)
    ++ (if fullFraction || t.micros ≠ 0 then "." ++ padded 6 t.micros else "")
    ++ (t.offset.elim "" offsetText)

/-- The moment as it is shown to a user. -/
def Moment.text (t : Moment) : String := t.render " " false

/-- The moment in the form of the ISO calendar standard, with all digits of the fraction. -/
def Moment.iso (t : Moment) : String := t.render "T" true

/-! ## Milliseconds since 1970 -/

/-- The first second whose day before is in the year 1. -/
def firstSecond : Int := -62135510400

/-- The binary number of seconds since 1970. With an offset the quotient is rounded once; without
one the fraction and the sum are rounded each, and the first day of the calendar is out of
range. -/
def Moment.timestamp? (t : Moment) : Option Binary64 :=
  match t.offset with
  | some offset => some (.ofRat (mkRat (t.wall - offset * microsPerSecond) 1000000))
  | none =>
    if t.seconds < firstSecond then none
    else some ((Binary64.ofInt t.seconds).add (.ofRat (mkRat t.micros 1000000)))

/-- The milliseconds since 1970, a half going to the even one. -/
def Moment.epochMillis? (t : Moment) : Option Int :=
  t.timestamp?.map fun s => roundEven (s.mul (.ofInt 1000)).toRat

/-- A number of seconds split into whole seconds and microseconds, the fraction rounded with a
half going to the even microsecond. -/
def splitSeconds (s : Binary64) : Int × Int :=
  let whole := truncate s.toRat
  let micros := roundEven ((Binary64.ofRat (s.toRat - whole)).mul (.ofInt microsPerSecond)).toRat
  if microsPerSecond ≤ micros then (whole + 1, micros - microsPerSecond)
  else if micros < 0 then (whole - 1, micros + microsPerSecond)
  else (whole, micros)

/-- The moment so many whole seconds and microseconds after 1970, if the calendar reaches it. -/
def Moment.ofSeconds? (seconds micros : Int) : Except RangeError Moment :=
  if seconds < -Int.pow 2 63 ∨ Int.pow 2 63 ≤ seconds then .error .seconds
  else
    let year := (Date.ofDays (seconds.fdiv 86400)).year
    if year - 1900 < -Int.pow 2 31 ∨ Int.pow 2 31 ≤ year - 1900 then .error .counter
    else if seconds < firstSecond ∨ 9999 < year then .error .year
    else .ok ⟨seconds * microsPerSecond + micros, none⟩

/-- The moment so many milliseconds after 1970. -/
def Moment.ofMillis? (millis : Int) : Except RangeError Moment :=
  match Binary64.ofQuotient? millis 1000 with
  | none => .error .seconds
  | some s => let (seconds, micros) := splitSeconds s; Moment.ofSeconds? seconds micros

end EntityMap.Time
