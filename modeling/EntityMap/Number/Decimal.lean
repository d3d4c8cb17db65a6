/-!
# Decimal notation

A `Decimal` is a list of digits with the place of its point. `Decimal.render` writes it either
positionally or with an exponent; a `Layout` says which exponents are written positionally and
whether a lone leading digit gets a point when an exponent follows.
-/

namespace EntityMap.Number

/-- The value `0.d₁d₂… * 10 ^ point`, for the digits `d₁, d₂, …`. -/
structure Decimal where
  digits : List Char
  point : Int
  deriving DecidableEq, Repr

/-- How a decimal is laid out. -/
structure Layout where
  /-- The least exponent of the leading digit that is written positionally. -/
  plainFrom : Int
  /-- The first exponent of the leading digit that is not written positionally. -/
  plainBelow : Int
  /-- A lone digit before an exponent is followed by `.0`. -/
  pointBeforeExponent : Bool
  /-- How infinity is written. -/
  infinity : String

/-- The digits of a natural number. -/
def natDigits (n : Nat) : List Char := (toString n).toList

/-- The decimal of a natural number times a power of ten, without zeros at the end. -/
def Decimal.ofNat (n : Nat) (exponent : Int) : Decimal :=
  let ds := natDigits n
  ⟨(ds.reverse.dropWhile (· = '0')).reverse, ds.length + exponent⟩

/-- So many zeros. -/
def zeros (n : Nat) : List Char := List.replicate n '0'

/-- Digits with a point among, before or after them. -/
def Decimal.plain (d : Decimal) : List Char :=
  if d.point ≤ 0 then '0' :: '.' :: (zeros (-d.point).toNat ++ d.digits)
  else if (d.digits.length : Int) ≤ d.point then
    d.digits ++ zeros (d.point.toNat - d.digits.length) ++ ['.', '0']
  else d.digits.take d.point.toNat ++ '.' :: d.digits.drop d.point.toNat

/-- An exponent of at least two digits, with its sign. -/
def exponentText (e : Int) : List Char :=
  let ds := natDigits e.natAbs
  (if e < 0 then '-' else '+') :: (zeros (2 - ds.length) ++ ds)

/-- One digit before the point, and an exponent. -/
def Decimal.scientific (pointBeforeExponent : Bool) (d : Decimal) : List Char :=
  let tail := 'e' :: exponentText (d.point - 1)
  match d.digits with
  | [] => tail
  | [c] => c :: ((if pointBeforeExponent then ['.', '0'] else []) ++ tail)
  | c :: cs => c :: '.' :: (cs ++ tail)

/-- The decimal in a layout; no digits at all is zero. -/
def Decimal.render (layout : Layout) (d : Decimal) : List Char :=
  if d.digits.isEmpty then ['0', '.', '0']
  else if layout.plainFrom ≤ d.point - 1 ∧ d.point - 1 < layout.plainBelow then d.plain
  else d.scientific layout.pointBeforeExponent

end EntityMap.Number
