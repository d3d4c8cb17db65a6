import EntityMap.Number.Numeral
import EntityMap.Number.Shortest
import EntityMap.Schema.SemanticType
import EntityMap.Value.Basic

/-!
# Cells

What a column of a table holds. The declared type of a column does not bind its cells; it gives
them a preference (`Affinity`): a text column turns numbers into texts, a number column turns
texts that write a number into that number. `Cell.compare` is the order of all cells, in which
the kinds follow one another and numbers are ordered by value.
-/

namespace EntityMap.Engine

open Number

/-- A value in a table. -/
inductive Cell
  | null
  | int (i : Int)
  | real (x : Binary64)
  | text (s : String)
  | blob (bs : List UInt8)
  deriving DecidableEq, Repr, Inhabited

/-- The preference of a column for the kind of its cells. -/
inductive Affinity
  | text | integer | real | none
  deriving DecidableEq, Repr

/-- The preference of a declared type. -/
def affinityOf : ColumnType → Affinity
  | .text => .text
  | .integer | .bigint => .integer
  | .real => .real
  | .blob => .none

/-- The integer fits the 64 bits of a cell. -/
def fitsCell (i : Int) : Bool := -Int.pow 2 63 ≤ i && i < Int.pow 2 63

namespace Cell

/-- The cell is absent. -/
def isNull : Cell → Bool
  | null => true
  | _ => false

/-- The cell as a value. -/
def toValue : Cell → Value
  | null => .null
  | int i => .int i
  | real x => .real x
  | text s => .text s
  | blob bs => .bytes bs

/-- A number without a fraction, as an integer; the two ends of the range do not count. -/
def integral? (x : Binary64) : Option Int :=
  if x.isFinite && x.toRat.den == 1 && -Int.pow 2 63 < x.toRat.num
      && x.toRat.num < Int.pow 2 63 - 1 then
    some x.toRat.num
  else none

/-! ## Affinity -/

/-- The number that the whole of a text writes. -/
def numberOf? (s : String) : Option Cell :=
  let (negative, ds) := splitSign (Text.trim isAsciiBlank s.toList)
  if !ds.isEmpty && ds.all isDigit then
    let i : Int := if negative then -(natOfDigits ds : Int) else natOfDigits ds
    some (if fitsCell i then int i else real (.ofInt i))
  else (readDecimal negative ds).map real

/-- A cell that is a text for a number, as that number. -/
def toNumber : Cell → Cell
  | text s => (numberOf? s).getD (text s)
  | c => c

/-- A number without a fraction as an integer. -/
def preferInt : Cell → Cell
  | real x => ((integral? x).map int).getD (real x)
  | c => c

/-- A number as a binary number. -/
def preferReal : Cell → Cell
  | int i => real (.ofInt i)
  | c => c

/-- A number as a text. -/
def toText : Cell → Cell
  | int i => text (toString i)
  | real x => text x.storedText
  | c => c

/-- The cell as a column of an affinity stores it. -/
def store : Affinity → Cell → Cell
  | .text, c => c.toText
  | .integer, c => c.toNumber.preferInt
  | .real, c => c.toNumber.preferInt.preferReal
  | .none, c => c

/-- The cell as it is compared with cells of an affinity. -/
def forComparison : Affinity → Cell → Cell
  | .text, c => c.toText
  | .integer, c | .real, c => c.toNumber
  | .none, c => c

/-! ## Order -/

/-- The place of a cell's kind. -/
def rank : Cell → Nat
  | null => 0
  | int _ | real _ => 1
  | text _ => 2
  | blob _ => 3

/-- The place of a number. -/
def place : Cell → Int × Rat
  | int i => (0, i)
  | real x => x.place.getD (0, 0)
  | _ => (0, 0)

/-- The order of bytes. -/
def compareBytes : List UInt8 → List UInt8 → Ordering
  | [], [] => .eq
  | [], _ :: _ => .lt
  | _ :: _, [] => .gt
  | a :: as, b :: bs => (Ord.compare a b).then (compareBytes as bs)

/-- The order of cells. -/
def compare (a b : Cell) : Ordering :=
  (Ord.compare a.rank b.rank).then <|
    match a, b with
    | text s, text t => Ord.compare s t
    | blob as, blob bs => compareBytes as bs
    | a, b => Binary64.comparePlaces a.place b.place

/-- Two cells that are present have the same value. -/
def sameValue (a b : Cell) : Bool := !a.isNull && !b.isNull && compare a b == .eq

end Cell

end EntityMap.Engine
