import EntityMap.Annotation.Error
import EntityMap.Annotation.Names
import EntityMap.Number.Arithmetic
import EntityMap.Value.Basic

/-!
# What expressions mean

An expression of an annotation means a class, a class with arguments, alternatives, or any other
value. `Meaning.same` says when two are equal: alternatives are if each member of one is among those
of the other, in whatever way they were written. `Meaning.isKey` says which can be members of a set.
-/

namespace EntityMap.Annotation

open Number

/-- What an expression means. -/
inductive Meaning
  /-- A value without parts. -/
  | value (v : Value)
  | complex (z : ComplexNumber)
  | ellipsis
  /-- A class that need not be declared. -/
  | known (name : String)
  /-- A class of the catalogue. -/
  | declared (name : String)
  /-- A form that needs arguments. -/
  | form (name : String)
  /-- The form of lists, which may stand without arguments. -/
  | listForm
  /-- A class with arguments; `isSpread` tells that it stands for all its elements. -/
  | generic (origin : String) (arguments : List Meaning) (isSpread : Bool)
  /-- The form of lists with its argument. -/
  | listOf (arguments : List Meaning)
  /-- Alternatives, written with bars or as a form. -/
  | alternatives (barred : Bool) (members : List Meaning)
  /-- All elements of what another meaning stands for. -/
  | unpacked (m : Meaning)
  /-- A text that is an annotation once more. -/
  | reference (text : String)
  | tuple (elements : List Meaning)
  | list (elements : List Meaning)
  | set (isFrozen : Bool) (elements : List Meaning)
  | mapping (entries : List (Meaning × Meaning))
  | slice (start stop step : Meaning)
  /-- An entity of a class. -/
  | entity (className : String)
  /-- Anything else, with the text that shows it. -/
  | object (shown : String)
  deriving Repr, Inhabited

namespace Meaning

/-- The absent value. -/
def null : Meaning := value .null

/-- The class of the absent value. -/
def absence : Meaning := known "NoneType"

/-- A text. -/
def text (s : String) : Meaning := value (.text s)

/-- A truth value. -/
def bool (b : Bool) : Meaning := value (.bool b)

/-- An integer. -/
def int (i : Int) : Meaning := value (.int i)

/-- The meaning is the class of the absent value. -/
def isAbsence : Meaning → Bool
  | known name => name == "NoneType"
  | _ => false

mutual

/-- The meaning of a value. -/
def ofValue : Value → Meaning
  | .list xs => list (ofValues xs)
  | .mapping es => mapping (ofEntries es)
  | v => value v

/-- The meanings of values. -/
def ofValues : List Value → List Meaning
  | [] => []
  | v :: vs => ofValue v :: ofValues vs

/-- The meanings of a mapping's entries. -/
def ofEntries : List (Value × Value) → List (Meaning × Meaning)
  | [] => []
  | (k, v) :: es => (ofValue k, ofValue v) :: ofEntries es

end

/-! ## Keys -/

mutual

/-- The meaning can be a key: what can be changed cannot. -/
def isKey : Meaning → Bool
  | value v => v.isKey
  | generic _ ms _ | listOf ms | alternatives _ ms | tuple ms => areKeys ms
  | unpacked m => isKey m
  | set isFrozen _ => isFrozen
  | list _ | mapping _ | slice .. | entity _ => false
  | _ => true

/-- All meanings can be keys. -/
def areKeys : List Meaning → Bool
  | [] => true
  | m :: ms => isKey m && areKeys ms

end

/-! ## Equality -/

mutual

/-- Two meanings are equal. -/
def same : Meaning → Meaning → Bool
  | value v, value w => v.sameKey w
  | complex z, complex w => z.same w
  | complex z, value v | value v, complex z => z.im.isZero && (Value.real z.re).sameKey v
  | ellipsis, ellipsis | listForm, listForm => true
  | known a, known b | declared a, declared b | form a, form b | reference a, reference b
  | object a, object b => a == b
  | generic a as x, generic b bs y => a == b && sameAll as bs && x == y
  | listOf as, listOf bs | tuple as, tuple bs | list as, list bs => sameAll as bs
  | alternatives _ as, alternatives _ bs | set _ as, set _ bs =>
    allAmong as bs && bs.all fun b => among as b
  | unpacked a, unpacked b => same a b
  | mapping as, mapping bs => as.length == bs.length && allEntriesAmong as bs
  | slice a b c, slice d e f => same a d && same b e && same c f
  | _, _ => false
  termination_by structural m => m

/-- The meanings are equal one by one. -/
def sameAll : List Meaning → List Meaning → Bool
  | [], [] => true
  | a :: as, b :: bs => same a b && sameAll as bs
  | _, _ => false
  termination_by structural ms => ms

/-- Each of the first meanings is among the second. -/
def allAmong : List Meaning → List Meaning → Bool
  | [], _ => true
  | a :: as, bs => (bs.any fun b => same a b) && allAmong as bs
  termination_by structural ms => ms

/-- The last meaning is among the first ones. -/
def among : List Meaning → Meaning → Bool
  | [], _ => false
  | a :: as, b => same a b || among as b
  termination_by structural ms => ms

/-- Each of the first entries is among the second. -/
def allEntriesAmong : List (Meaning × Meaning) → List (Meaning × Meaning) → Bool
  | [], _ => true
  | (k, v) :: es, fs => (fs.any fun f => same k f.1 && same v f.2) && allEntriesAmong es fs
  termination_by structural es => es

end

/-- The meanings without those that are equal to an earlier one. -/
def distinct (ms : List Meaning) : List Meaning :=
  ms.foldl (fun kept m => if among kept m then kept else kept ++ [m]) []

/-- Two meanings are one object and not only equal. -/
def isSameObject : Meaning → Meaning → Bool
  | value .null, value .null => true
  | value (.bool a), value (.bool b) => a == b
  | value (.int a), value (.int b) => a == b
  | value (.text a), value (.text b) => a == b
  | known a, known b | declared a, declared b | form a, form b | object a, object b => a == b
  | ellipsis, ellipsis | listForm, listForm => true
  | tuple [], tuple [] => true
  | _, _ => false

/-! ## Truth -/

/-- The meaning counts as true where a condition is wanted. -/
def isTrue : Meaning → Bool
  | value .null => false
  | value (.text s) => s ≠ ""
  | value (.bytes bs) | value (.buffer bs) => !bs.isEmpty
  | value v => !v.isZero
  | complex z => !z.isZero
  | tuple ms | list ms | set _ ms => !ms.isEmpty
  | mapping es => !es.isEmpty
  | _ => true

/-! ## Parts -/

/-- Adds an entry to a mapping. A key that is there keeps its place and gets the new value. -/
def insertEntry (key m : Meaning) : List (Meaning × Meaning) → List (Meaning × Meaning)
  | [] => [(key, m)]
  | (k, v) :: es => if k.same key then (k, m) :: es else (k, v) :: insertEntry key m es

/-- The set of elements, which must be able to be keys. -/
def setOf (isFrozen : Bool) (ms : List Meaning) : Except AnnotationError Meaning :=
  if areKeys ms then .ok (set isFrozen (distinct ms)) else .error .meaningless

/-- The elements of what is iterated over. -/
def elements : Meaning → Except AnnotationError (List Meaning)
  | tuple ms | list ms | set _ ms => .ok ms
  | mapping es => .ok (es.map (·.1))
  | value (.text s) => .ok (s.toList.map fun c => text (String.ofList [c]))
  | value (.bytes bs) | value (.buffer bs) => .ok (bs.map fun b => int b.toNat)
  | generic origin ms false => .ok [generic origin ms true]
  | listOf ms => .ok [unpacked (listOf ms)]
  | _ => .error .meaningless

/-- The integer that a truth value or an integer is. -/
def integer? : Meaning → Option Int
  | value (.bool b) => some (if b then 1 else 0)
  | value (.int i) => some i
  | _ => none

end Meaning

end EntityMap.Annotation
