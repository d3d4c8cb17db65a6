import EntityMap.Number.Shortest
import EntityMap.Time.Moment

/-!
# Values

The values that fields of entities hold, that calls receive as arguments and that columns store.
An entity is held by reference (`Value.entity`): the number of its record, so that two fields
can hold one object. `Value.compareNumbers?` orders the numbers of all kinds by their exact
values, and `Value.sameKey` tells when two values are one key of a mapping.
-/

namespace EntityMap

open Number Time

/-- A value of a field, an argument or a column. -/
inductive Value
  | null
  | bool (b : Bool)
  | int (i : Int)
  | real (x : Binary64)
  | text (s : String)
  /-- Bytes that cannot be changed. -/
  | bytes (bs : List UInt8)
  /-- Bytes that can be changed. -/
  | buffer (bs : List UInt8)
  | moment (t : Moment)
  | list (xs : List Value)
  | mapping (entries : List (Value × Value))
  /-- An object without any structure. -/
  | plain
  /-- The entity with this record number. -/
  | entity (ref : Nat)
  deriving Repr, Inhabited

namespace Value

/-- The value is absent. -/
def isNull : Value → Bool
  | null => true
  | _ => false

/-! ## Numbers -/

/-- A number of any kind as a place on the line; truth values count as 1 and 0. -/
def place? : Value → Option (Int × Rat)
  | bool b => some (0, if b then 1 else 0)
  | int i => some (0, i)
  | real x => x.place
  | _ => none

/-- A value that is a number of some kind. -/
def isNumber : Value → Bool
  | bool _ | int _ | real _ => true
  | _ => false

/-- The order of two numbers by exact value. -/
def compareNumbers? (a b : Value) : Option Ordering :=
  match a.place?, b.place? with
  | some x, some y => some (Binary64.comparePlaces x y)
  | _, _ => none

/-- The value is the number zero. -/
def isZero (v : Value) : Bool :=
  v.compareNumbers? (int 0) == some .eq

/-! ## Keys -/

/-- Two values are one key of a mapping. -/
def sameKey : Value → Value → Bool
  | null, null => true
  | text s, text t => s == t
  | bytes a, bytes b => a == b
  | moment s, moment t => s == t
  | entity i, entity j => i == j
  | a, b => a.compareNumbers? b == some .eq

/-- The value can be a key: what can be changed cannot. -/
def isKey : Value → Bool
  | buffer _ | list _ | mapping _ | entity _ => false
  | _ => true

/-- Adds an entry. A key that is there keeps its place and gets the new value. -/
def insertEntry (key value : Value) : List (Value × Value) → List (Value × Value)
  | [] => [(key, value)]
  | (k, v) :: es =>
    if k.sameKey key then (k, value) :: es else (k, v) :: insertEntry key value es

/-- The mapping of a list of entries, the later of two equal keys giving the value. -/
def ofEntries (entries : List (Value × Value)) : Value :=
  mapping (entries.foldl (fun es e => insertEntry e.1 e.2 es) [])

end Value

end EntityMap
