import EntityMap.Number.Binary64

/-!
# Arithmetic with signs and infinities

Sums, products and quotients of the numbers of a `REAL` column, the infinities and zeros of either
sign among them: a finite result is the exact one, rounded, and zero keeps the sign that its
operands give it. A `ComplexNumber` has two such numbers as its parts.
-/

namespace EntityMap.Number

namespace Binary64

/-- The number with the other sign. -/
def negated : Binary64 → Binary64
  | nan => nan
  | infinite negative => .infinite (!negative)
  | finite negative m e => .finite (!negative) m e

/-- The sum. It is a negative zero only if both numbers are. -/
def plus (x y : Binary64) : Binary64 :=
  match x, y with
  | nan, _ | _, nan => nan
  | infinite a, infinite b => if a = b then .infinite a else nan
  | infinite a, _ | _, infinite a => .infinite a
  | _, _ =>
    let q := x.toRat + y.toRat
    if q = 0 then zero (x.isNegative && y.isNegative) else ofRat q

/-- The difference. -/
def minus (x y : Binary64) : Binary64 := x.plus y.negated

/-- The signs of two numbers are different. -/
def haveOtherSigns (x y : Binary64) : Bool := x.isNegative != y.isNegative

/-- The product. That of zero and an infinity is no number. -/
def times (x y : Binary64) : Binary64 :=
  match x, y with
  | nan, _ | _, nan => nan
  | infinite _, z | z, infinite _ =>
    if z.isFinite && z.toRat = 0 then nan else .infinite (x.haveOtherSigns y)
  | _, _ => ofMagnitude (x.haveOtherSigns y) (x.toRat * y.toRat).abs

/-- The quotient of a number and one that is not zero. -/
def dividedBy (x y : Binary64) : Binary64 :=
  match x, y with
  | nan, _ | _, nan | infinite _, infinite _ => nan
  | infinite _, _ => .infinite (x.haveOtherSigns y)
  | _, infinite _ => zero (x.haveOtherSigns y)
  | _, _ => ofMagnitude (x.haveOtherSigns y) (x.toRat / y.toRat).abs

/-- The number is a zero. -/
def isZero (x : Binary64) : Bool := x.isFinite && x.toRat = 0

end Binary64

/-! ## Complex numbers -/

/-- A number with a real and an imaginary part. -/
structure ComplexNumber where
  re : Binary64
  im : Binary64
  deriving DecidableEq, Repr

namespace ComplexNumber

open Binary64

/-- The real number, without an imaginary part. -/
def ofReal (x : Binary64) : ComplexNumber := ⟨x, zero false⟩

/-- Both parts are zeros. -/
def isZero (z : ComplexNumber) : Bool := z.re.isZero && z.im.isZero

/-- Both parts are equal by value. -/
def same (z w : ComplexNumber) : Bool :=
  z.re.compare? w.re == some .eq && z.im.compare? w.im == some .eq

/-- The number with the other signs. -/
def negated (z : ComplexNumber) : ComplexNumber := ⟨z.re.negated, z.im.negated⟩

/-- The sum. -/
def plus (z w : ComplexNumber) : ComplexNumber := ⟨z.re.plus w.re, z.im.plus w.im⟩

/-- The difference. -/
def minus (z w : ComplexNumber) : ComplexNumber := ⟨z.re.minus w.re, z.im.minus w.im⟩

/-- The product. -/
def times (z w : ComplexNumber) : ComplexNumber :=
  ⟨(z.re.times w.re).minus (z.im.times w.im), (z.re.times w.im).plus (z.im.times w.re)⟩

/-- The quotient of a number and one that is not zero. The greater part of the divisor is divided
by first, so that squares of its parts are never needed. -/
def dividedBy (z w : ComplexNumber) : ComplexNumber :=
  if w.im.toRat.abs ≤ w.re.toRat.abs then
    let ratio := w.im.dividedBy w.re
    let divisor := w.re.plus (w.im.times ratio)
    ⟨(z.re.plus (z.im.times ratio)).dividedBy divisor,
      (z.im.minus (z.re.times ratio)).dividedBy divisor⟩
  else
    let ratio := w.re.dividedBy w.im
    let divisor := (w.re.times ratio).plus w.im
    ⟨((z.re.times ratio).plus z.im).dividedBy divisor,
      ((z.im.times ratio).minus z.re).dividedBy divisor⟩

end ComplexNumber

end EntityMap.Number
