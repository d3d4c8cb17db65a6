import EntityMap.Number.Binary64
import EntityMap.Number.Decimal

/-!
# Decimals of binary numbers

`shortest` selects the decimal with the fewest digits among those that read back as a given
binary number, and of two such the one nearer to it. `significant` rounds a number to a fixed
count of digits instead. Both look at the two neighbours of the exact value on a decimal grid,
in exact arithmetic.
-/

namespace EntityMap.Number

/-- The least `k` with `q < 10 ^ k`, for a positive `q`. -/
def decimalExponent (q : Rat) : Int :=
  let guess := binaryExponent q * 30103 / 100000
  ([guess - 1, guess, guess + 1].find? fun k => q < tenPow k).getD (guess + 2)

/-! ## The numbers that read back -/

/-- The rationals between two bounds, which belong to it or not. -/
structure Interval where
  low : Rat
  high : Rat
  closed : Bool

/-- The rational lies in the interval. -/
def Interval.holds (i : Interval) (q : Rat) : Bool :=
  if i.closed then i.low ≤ q && q ≤ i.high else i.low < q && q < i.high

/-- The rationals that round to `m * 2 ^ e`. The number below is half as far away if `m` is the
least mantissa of its exponent. -/
def roundingInterval (m : Nat) (e : Int) : Interval where
  low :=
    if m = Nat.pow 2 52 ∧ Binary64.minExponent < e then (4 * m - 1 : Int) * twoPow (e - 2)
    else (2 * m - 1 : Int) * twoPow (e - 1)
  high := (2 * m + 1 : Int) * twoPow (e - 1)
  closed := m % 2 = 0

/-! ## Selection -/

/-- The nearer of two neighbours on a grid, the even one on a tie. -/
def nearer (scaled : Rat) (below : Int) : Int :=
  if scaled - below < mkRat 1 2 then below
  else if mkRat 1 2 < scaled - below then below + 1
  else if below % 2 = 0 then below
  else below + 1

/-- The decimal with `n` digits that reads back, if there is one. -/
def readsBackWith (q : Rat) (i : Interval) (k : Int) (n : Nat) : Option (Int × Int) :=
  let grid := tenPow (k - n)
  let below := (q / grid).floor
  match i.holds (below * grid), i.holds ((below + 1 : Int) * grid) with
  | true, true => some (nearer (q / grid) below, k - n)
  | true, false => some (below, k - n)
  | false, true => some (below + 1, k - n)
  | false, false => none

/-- The shortest decimal that reads back as `m * 2 ^ e`. -/
def shortest (m : Nat) (e : Int) : Decimal :=
  if m = 0 then ⟨[], 0⟩
  else
    let q := m * twoPow e
    let k := decimalExponent q
    let (n, exponent) :=
      ((List.range' 1 17).findSome? (readsBackWith q (roundingInterval m e) k)).getD
        ((q / tenPow (k - 17)).floor, k - 17)
    Decimal.ofNat n.toNat exponent

/-- A non-negative rational rounded to `n` significant digits, a tie going up. -/
def significant (n : Nat) (q : Rat) : Decimal :=
  if q = 0 then ⟨[], 0⟩
  else
    let k := decimalExponent q
    Decimal.ofNat (q / tenPow (k - n) + mkRat 1 2).floor.toNat (k - n)

/-! ## Text -/

/-- A number written with a given choice of decimal. -/
def Binary64.renderWith (choose : Nat → Int → Decimal) (layout : Layout) : Binary64 → String
  | .nan => "nan"
  | .infinite negative => if negative then "-" ++ layout.infinity else layout.infinity
  | .finite negative m e =>
    let text := String.ofList ((choose m e).render layout)
    if negative then "-" ++ text else text

/-- Numbers are shown positionally from `0.0001` up to, but not including, ten to the sixteenth. -/
def valueLayout : Layout := ⟨-4, 16, false, "inf"⟩

/-- The number with the fewest digits that read back. -/
def Binary64.text (x : Binary64) : String :=
  x.renderWith shortest valueLayout

/-- A number stored in a text column has up to fifteen significant digits, and a digit after the
point also before an exponent. -/
def storedLayout : Layout := ⟨-4, 15, true, "Inf"⟩

/-- The text that a text column keeps for a number. -/
def Binary64.storedText (x : Binary64) : String :=
  match x with
  | .finite _ 0 _ => "0.0"
  | _ => x.renderWith (fun m e => significant 15 (m * twoPow e)) storedLayout

end EntityMap.Number
