import EntityMap.Number.Numeral
import EntityMap.Schema.SemanticType
import EntityMap.Value.Display

/-!
# Field values and stored values

`Value.toStored` turns a field's value into the value that its column stores, and
`Value.ofStored` turns a stored value into a field's value of the column's semantic type. Absent
values stay absent both ways. A stored value need not fit the type (columns of the database hold
values of any kind), so reading may fail; `ConversionError` says how.
-/

namespace EntityMap

open Number Time

/-- Why a value has no counterpart of the wanted type. -/
inductive ConversionError
  /-- A text that writes no number, or a number that is none. -/
  | notANumber
  /-- An infinity where an integer is wanted. -/
  | infinite
  /-- A number too large for the wanted type. -/
  | tooLarge
  /-- A negative count of bytes. -/
  | negativeCount
  /-- More bytes than can be held. -/
  | outOfMemory
  /-- A number that is no byte. -/
  | notAByte
  /-- A moment that the calendar does not reach. -/
  | yearOutOfRange
  /-- A moment that a clock cannot show. -/
  | clockOutOfRange
  /-- A value of a kind that is never converted so. -/
  | wrongKind
  deriving DecidableEq, Repr

/-- The error for milliseconds that name no moment. -/
def ConversionError.ofRange : RangeError → ConversionError
  | .seconds => .tooLarge
  | .counter => .clockOutOfRange
  | .year => .yearOutOfRange

namespace Value

/-! ## Storing -/

/-- The value that a column stores for a field's value. -/
def toStored : Value → Except ConversionError Value
  | bool b => .ok (int (if b then 1 else 0))
  | moment t =>
    match t.epochMillis? with
    | some millis => .ok (int millis)
    | none => .error .yearOutOfRange
  | buffer bs => .ok (bytes bs)
  | v => .ok v

/-! ## Reading -/

/-- Bytes as characters, one each. -/
def byteChars (bs : List UInt8) : List Char := bs.map fun b => Char.ofNat b.toNat

/-- An optional number as a result. -/
def numberOr {α : Type} : Option α → Except ConversionError α
  | some a => .ok a
  | none => .error .notANumber

/-- The integer that a value writes or is cut to. -/
def toInt : Value → Except ConversionError Int
  | bool b => .ok (if b then 1 else 0)
  | int i => .ok i
  | real .nan => .error .notANumber
  | real (.infinite _) => .error .infinite
  | real x => .ok (truncate x.toRat)
  | text s => numberOr (intOfText? s)
  | bytes bs | buffer bs => numberOr (readInt (byteChars bs))
  | _ => .error .wrongKind

/-- The binary number nearest to an integer. -/
def realOfInt (i : Int) : Except ConversionError Binary64 :=
  match Binary64.ofInt i with
  | .infinite _ => .error .tooLarge
  | x => .ok x

/-- The binary number that a value writes or is. -/
def toReal : Value → Except ConversionError Binary64
  | bool b => .ok (.ofInt (if b then 1 else 0))
  | int i => realOfInt i
  | real x => .ok x
  | text s => numberOr (realOfText? s)
  | bytes bs | buffer bs => numberOr (readReal (byteChars bs))
  | _ => .error .wrongKind

/-- The most zero bytes that are made for a number. -/
def maxZeroBytes : Int := Int.pow 2 30

/-- So many zero bytes. -/
def zeroBytes (n : Int) : Except ConversionError (List UInt8) :=
  if n < -Int.pow 2 63 ∨ Int.pow 2 63 ≤ n then .error .tooLarge
  else if n < 0 then .error .negativeCount
  else if maxZeroBytes < n then .error .outOfMemory
  else .ok (List.replicate n.toNat 0)

/-- The byte with a value's number. -/
def toByte : Value → Except ConversionError UInt8
  | bool b => .ok (if b then 1 else 0)
  | int i => if 0 ≤ i ∧ i < 256 then .ok (UInt8.ofNat i.toNat) else .error .notAByte
  | _ => .error .wrongKind

/-- The bytes that a value is made of: a number gives so many zeros, a list its numbers. -/
def toBytes : Value → Except ConversionError (List UInt8)
  | bool b => zeroBytes (if b then 1 else 0)
  | int i => zeroBytes i
  | bytes bs | buffer bs => .ok bs
  | list xs => xs.mapM toByte
  | mapping es => es.mapM fun e => toByte e.1
  | _ => .error .wrongKind

/-- The moment of a stored number of milliseconds. -/
def toMoment (v : Value) : Except ConversionError Moment := do
  match Moment.ofMillis? (← v.toInt) with
  | .ok t => .ok t
  | .error e => .error (.ofRange e)

/-- The field's value for a stored value; `entity` shows a record in a text. -/
def ofStored (entity : Nat → String) (type : SemanticType) (v : Value) :
    Except ConversionError Value :=
  if v.isNull then .ok .null
  else match type with
    | .text => .ok (.text (v.display entity))
    | .boolean => v.toInt.map fun i => .bool (i == 1)
    | .integer | .bigint | .entity => v.toInt.map .int
    | .real => v.toReal.map .real
    | .blob => v.toBytes.map .bytes
    | .timestamp => v.toMoment.map .moment

end Value

end EntityMap
