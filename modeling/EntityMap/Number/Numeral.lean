import EntityMap.Number.Binary64
import EntityMap.Text.Blank
import EntityMap.Text.DecimalDigit

/-!
# Reading numbers

A numeral may have blanks around it, a sign, and underscores between two digits. `readInt` reads
an integer; `readReal` also takes a fraction, an exponent and the names of infinity and of the
value that is no number, and rounds the exact decimal to the nearest binary number. In a text,
digits of every script count; `asciiNumeral` brings them to ASCII first.
-/

namespace EntityMap.Number

open EntityMap.Text

/-! ## The characters of a numeral -/

/-- The blanks that may surround a numeral. -/
def isAsciiBlank (c : Char) : Bool :=
  c = ' ' || ('\t' ≤ c && c ≤ '\r')

/-- An ASCII digit. -/
def isDigit (c : Char) : Bool := (asciiDigitValue? c).isSome

/-- A character beyond ASCII as a numeral reads it: a blank, a digit, or nothing it can use. -/
def asciiNumeralChar (c : Char) : Char :=
  if c.toNat < 127 then c
  else if isBlank c then ' '
  else match digitValue? c with
    | some d => Char.ofNat ('0'.toNat + d)
    | none => '?'

/-- The characters of a text for reading as a numeral. A text that is all ASCII stays as it is. -/
def asciiNumeral (cs : List Char) : List Char :=
  if cs.all fun c => c.toNat < 128 then cs else cs.map asciiNumeralChar

/-- The characters without underscores, each of which must stand between two digits. -/
def dropUnderscores (afterDigit : Bool) : List Char → Option (List Char)
  | [] => some []
  | [c] => if c = '_' then none else some [c]
  | c :: d :: cs =>
    if c = '_' then
      if afterDigit && isDigit d then dropUnderscores false (d :: cs) else none
    else (dropUnderscores (isDigit c) (d :: cs)).map (c :: ·)

/-- A numeral's sign, true for minus, and what follows it. -/
def splitSign : List Char → Bool × List Char
  | '-' :: cs => (true, cs)
  | '+' :: cs => (false, cs)
  | cs => (false, cs)

/-- The number that a list of digits writes. -/
def natOfDigits (cs : List Char) : Nat :=
  cs.foldl (fun n c => 10 * n + (asciiDigitValue? c).getD 0) 0

/-! ## Integers -/

/-- The most digits that an integer is read from. -/
def maxIntDigits : Nat := 4300

/-- Reads ASCII characters as an integer. -/
def readInt (cs : List Char) : Option Int := do
  let (negative, ds) := splitSign (← dropUnderscores false (trim isAsciiBlank cs))
  if ds.isEmpty || !ds.all isDigit || maxIntDigits < ds.length then none
  else
    let n : Int := natOfDigits ds
    some (if negative then -n else n)

/-! ## Reals -/

/-- The number nearest to `digits * 10 ^ exponent`. A value far beyond the format is not computed
exactly: `count` digits and the exponent tell that it is too large or too small. -/
def ofDecimal (negative : Bool) (digits count : Nat) (exponent : Int) : Binary64 :=
  if digits = 0 then .zero negative
  else if 400 < exponent + count then .infinite negative
  else if exponent + count < -400 then .zero negative
  else .ofMagnitude negative (digits * tenPow exponent)

/-- Reads an exponent, or nothing. -/
def readExponent : List Char → Option Int
  | [] => some 0
  | c :: cs =>
    if c = 'e' ∨ c = 'E' then
      let (negative, ds) := splitSign cs
      if ds.isEmpty || !ds.all isDigit then none
      else
        let n : Int := natOfDigits ds
        some (if negative then -n else n)
    else none

/-- The fraction's digits and what follows them. -/
def splitFraction : List Char → List Char × List Char
  | '.' :: cs => (cs.takeWhile isDigit, cs.dropWhile isDigit)
  | cs => ([], cs)

/-- Reads an unsigned decimal. -/
def readDecimal (negative : Bool) (cs : List Char) : Option Binary64 := do
  let whole := cs.takeWhile isDigit
  let (fraction, rest) := splitFraction (cs.dropWhile isDigit)
  let exponent ← readExponent rest
  let ds := (whole ++ fraction).dropWhile (· = '0')
  if whole.isEmpty && fraction.isEmpty then none
  else some (ofDecimal negative (natOfDigits ds) ds.length (exponent - fraction.length))

/-- Reads the names of the values that are not finite. -/
def readSpecial (negative : Bool) (cs : List Char) : Option Binary64 :=
  let name := cs.map Char.toLower
  if name = "inf".toList ∨ name = "infinity".toList then some (.infinite negative)
  else if name = "nan".toList then some .nan
  else none

/-- Reads ASCII characters as a binary number. -/
def readReal (cs : List Char) : Option Binary64 := do
  let (negative, body) := splitSign (← dropUnderscores false (trim isAsciiBlank cs))
  (readSpecial negative body).or (readDecimal negative body)

/-! ## Texts -/

/-- The integer that a text writes. -/
def intOfText? (s : String) : Option Int := readInt (asciiNumeral s.toList)

/-- The binary number that a text writes. -/
def realOfText? (s : String) : Option Binary64 := readReal (asciiNumeral s.toList)

end EntityMap.Number
