/-!
# Binary floating-point numbers

The numbers of a `REAL` column: a mantissa of at most 53 bits times a power of two, the two
infinities and a value that is no number. `Binary64.toRat` is the exact value of a finite
number. Every operation is the exact one on rationals followed by `Binary64.ofRat`, which
rounds to the nearest number of the format and takes the even mantissa on a tie.
-/

namespace EntityMap.Number

/-! ## Powers and rounding -/

/-- The power of two with an integer exponent. -/
def twoPow (e : Int) : Rat :=
  if 0 ≤ e then (Nat.pow 2 e.toNat : Rat) else mkRat 1 (Nat.pow 2 (-e).toNat)

/-- The power of ten with an integer exponent. -/
def tenPow (e : Int) : Rat :=
  if 0 ≤ e then (Nat.pow 10 e.toNat : Rat) else mkRat 1 (Nat.pow 10 (-e).toNat)

/-- The nearest integer; a tie goes to the even one. -/
def roundEven (q : Rat) : Int :=
  let below := q.floor
  let part := q - below
  if part < mkRat 1 2 then below
  else if mkRat 1 2 < part then below + 1
  else if below % 2 = 0 then below
  else below + 1

/-- The integer between zero and `q` that is nearest to `q`. -/
def truncate (q : Rat) : Int :=
  if 0 ≤ q then q.floor else -(-q).floor

/-- The exponent of the greatest power of two not above a positive `q`. -/
def binaryExponent (q : Rat) : Int :=
  let guess := (q.num.natAbs.log2 : Int) - (q.den.log2 : Int)
  if twoPow guess ≤ q then guess else guess - 1

/-! ## Numbers -/

/-- A number of the format; the value of a finite one is `± mantissa * 2 ^ exponent`. -/
inductive Binary64
  | nan
  | infinite (negative : Bool)
  | finite (negative : Bool) (mantissa : Nat) (exponent : Int)
  deriving DecidableEq, Repr

namespace Binary64

/-- The least exponent of a finite number. -/
def minExponent : Int := -1074

/-- The greatest exponent of a finite number. -/
def maxExponent : Int := 971

/-- Zero with a sign. -/
def zero (negative : Bool) : Binary64 := .finite negative 0 minExponent

/-- A mantissa that may have been rounded up to 54 bits, with its exponent brought in range. -/
def ofRounded (negative : Bool) (mantissa : Nat) (exponent : Int) : Binary64 :=
  let (m, e) :=
    if mantissa = Nat.pow 2 53 then (Nat.pow 2 52, exponent + 1) else (mantissa, exponent)
  if maxExponent < e then .infinite negative else .finite negative m e

/-- The number nearest to a non-negative rational, with a sign. -/
def ofMagnitude (negative : Bool) (q : Rat) : Binary64 :=
  if q = 0 then zero negative
  else
    let e := max minExponent (binaryExponent q - 52)
    ofRounded negative (roundEven (q / twoPow e)).toNat e

/-- The number nearest to a rational. -/
def ofRat (q : Rat) : Binary64 :=
  if q < 0 then ofMagnitude true (-q) else ofMagnitude false q

/-- The number nearest to an integer. -/
def ofInt (i : Int) : Binary64 := ofRat i

/-- The exact value of a finite number, and zero for the others. -/
def toRat : Binary64 → Rat
  | finite negative m e => if negative then -(m * twoPow e) else m * twoPow e
  | _ => 0

/-- The sign bit; a value that is no number has none. -/
def isNegative : Binary64 → Bool
  | nan => false
  | infinite negative => negative
  | finite negative _ _ => negative

/-- A number that is neither infinite nor no number. -/
def isFinite : Binary64 → Bool
  | finite .. => true
  | _ => false

/-! ## Arithmetic on finite numbers -/

/-- The sum, rounded. -/
def add (x y : Binary64) : Binary64 := ofRat (x.toRat + y.toRat)

/-- The product, rounded. -/
def mul (x y : Binary64) : Binary64 := ofRat (x.toRat * y.toRat)

/-- The quotient of two integers, rounded once; `none` if it is too large for the format. -/
def ofQuotient? (n : Int) (d : Nat) : Option Binary64 :=
  match ofRat (mkRat n d) with
  | .infinite _ => none
  | x => some x

/-! ## Comparison -/

/-- A place on the extended line: below, on, or above the rationals. -/
def place : Binary64 → Option (Int × Rat)
  | nan => none
  | infinite negative => some (if negative then -1 else 1, 0)
  | x => some (0, x.toRat)

/-- The order of two places. -/
def comparePlaces (x y : Int × Rat) : Ordering :=
  (compare x.1 y.1).then (if x.2 < y.2 then .lt else if y.2 < x.2 then .gt else .eq)

/-- The order of two numbers by value; none with a value that is no number. -/
def compare? (x y : Binary64) : Option Ordering :=
  match x.place, y.place with
  | some a, some b => some (comparePlaces a b)
  | _, _ => none

/-- The order of a number and an integer, by exact value. -/
def compareInt? (x : Binary64) (i : Int) : Option Ordering :=
  x.place.map fun a => comparePlaces a (0, i)

end Binary64

end EntityMap.Number
