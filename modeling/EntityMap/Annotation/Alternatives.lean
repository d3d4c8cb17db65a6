import EntityMap.Annotation.Meaning
import EntityMap.Annotation.Reader

/-!
# Alternatives and arguments

`Meaning.bar` joins two meanings by a bar, and `Meaning.withArguments` gives a class or a form its
arguments. Alternatives are flat, and equal ones count once; a single one is itself. Where a form
takes part, a text is a reference (`Meaning.asMember`), and anything that can be a key may be an
alternative; otherwise only classes and absence may (`Meaning.isClassLike`).
-/

namespace EntityMap.Annotation

namespace Meaning

/-! ## Members -/

/-- The meaning as an annotation: absence is its class, a text is a reference that must be readable,
and neither a form without arguments nor a tuple is one. -/
def asMember : Meaning → Except AnnotationError Meaning
  | value .null => .ok absence
  | value (.text s) => (Expr.ofAnnotation s).map fun _ => reference s
  | form _ | tuple _ => .error .meaningless
  | m => .ok m

/-- The members of alternatives, or the meaning itself. -/
def members : Meaning → List Meaning
  | alternatives _ ms => ms
  | m => [m]

/-- Alternatives; a single one is itself. -/
def alternativesOf (barred : Bool) (ms : List Meaning) : Meaning :=
  match distinct (ms.flatMap members) with
  | [m] => m
  | ms => alternatives barred ms

/-- Alternatives of a form, each of which must be able to be a key. -/
def join (ms : List Meaning) : Except AnnotationError Meaning :=
  if areKeys (ms.flatMap members) then .ok (alternativesOf false ms) else .error .meaningless

/-! ## Bars -/

/-- The meaning is a form or was built by one. -/
def isFormal : Meaning → Bool
  | form _ | listForm | listOf _ | alternatives false _ | unpacked _ | reference _ => true
  | _ => false

/-- The meaning is a class, alternatives of classes, or absence. -/
def isClassLike : Meaning → Bool
  | known _ | declared _ | generic .. | alternatives true _ | value .null => true
  | _ => false

/-- Absence as the class that stands for it. -/
def asClass : Meaning → Meaning
  | value .null => absence
  | m => m

/-- Two truth values, or the bits of two integers. -/
def bits (onBools : Bool → Bool → Bool) (onInts : Int → Int → Int) (a b : Meaning) :
    Except AnnotationError Meaning :=
  match a, b with
  | value (.bool x), value (.bool y) => .ok (bool (onBools x y))
  | _, _ =>
    match a.integer?, b.integer? with
    | some x, some y => .ok (int (onInts x y))
    | _, _ => .error .meaningless

/-- Applies an operation to the bits of two integers, in two's complement with as many digits as
both need. -/
def bitwise (f : Nat → Nat → Nat) (x y : Int) : Int :=
  let width := max x.natAbs.log2 y.natAbs.log2 + 2
  let r := f (x % Int.pow 2 width).toNat (y % Int.pow 2 width).toNat
  if r < Nat.pow 2 (width - 1) then r else (r : Int) - Int.pow 2 width

/-- Two meanings between which a bar stands. -/
def bar (a b : Meaning) : Except AnnotationError Meaning :=
  if a.isFormal || b.isFormal then do join [← a.asMember, ← b.asMember]
  else if a.isClassLike && b.isClassLike then
    match a, b with
    | value .null, value .null => .error .meaningless
    | _, _ => .ok (alternativesOf true [a.asClass, b.asClass])
  else match a, b with
    | set isFrozen ms, set _ ns => setOf isFrozen (ms ++ ns)
    | mapping es, mapping fs => .ok (mapping (fs.foldl (fun es f => insertEntry f.1 f.2 es) es))
    | _, _ => bits or (bitwise (· ||| ·)) a b

/-! ## Arguments -/

/-- The arguments that an index gives. -/
def arguments : Meaning → List Meaning
  | tuple ms => ms
  | m => [m]

/-- A class or a form with arguments. -/
def withArguments (m index : Meaning) : Except AnnotationError Meaning :=
  match m with
  | known name =>
    if name ∈ genericClasses then .ok (generic name index.arguments false) else .error .meaningless
  | listForm => do
    match ← index.arguments.mapM asMember with
    | [a] => return listOf [a]
    | _ => throw .meaningless
  | form "Optional" => do join [← index.asMember, absence]
  | form _ => do
    if index.arguments.isEmpty then throw .meaningless
    else join (← index.arguments.mapM asMember)
  | _ => .error .meaningless

end Meaning

end EntityMap.Annotation
