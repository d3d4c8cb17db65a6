import EntityMap.Annotation.Evaluation

/-!
# Resolving annotations

`Scope.resolve` gives the meaning of a text as an annotation. Texts inside its meaning are
annotations once more and are resolved too, except for one that is being resolved already, which
stays a reference.
-/

namespace EntityMap.Annotation

namespace Meaning

/-- A text among arguments is a reference, which must be readable. -/
def asArgument : Meaning → Except AnnotationError Meaning
  | value (.text s) => (Expr.ofAnnotation s).map fun _ => reference s
  | m => .ok m

/-- Alternatives built again from their members. -/
def rebuilt (barred : Bool) (ms : List Meaning) : Except AnnotationError Meaning :=
  if barred then
    match ms with
    | [] => .ok (alternatives true [])
    | m :: ms => ms.foldlM bar m
  else join ms

end Meaning

namespace Scope

/-- The depth of an expression that is written in so many characters is less. -/
def expressionDepth (length : Nat) : Nat := 2 * length + 10

/-- The meaning of a text as an annotation, before the references in it are resolved. -/
def ofText (s : Scope) (t : String) : Except AnnotationError Meaning := do
  (← s.evaluate (expressionDepth t.length) (← Expr.ofAnnotation t)).asMember

/-- Resolves the references in a meaning to a depth of at most `fuel`; the texts of `open_` are
being resolved already. -/
def resolveIn (s : Scope) : Nat → List String → Meaning → Except AnnotationError Meaning
  | 0, _, _ => .error .tooDeep
  | n + 1, open_, m =>
    match m with
    | .reference t =>
      if t ∈ open_ then .ok m else do s.resolveIn n (t :: open_) (← s.ofText t)
    | .generic origin ms isSpread => do
      let ms ← (← ms.mapM Meaning.asArgument).mapM (s.resolveIn n open_)
      let g := Meaning.generic origin ms false
      return if isSpread then .unpacked g else g
    | .listOf ms => do return .listOf (← ms.mapM (s.resolveIn n open_))
    | .alternatives barred ms => do Meaning.rebuilt barred (← ms.mapM (s.resolveIn n open_))
    | .unpacked m => do return .unpacked (← s.resolveIn n open_ m)
    | _ => .ok m

/-- The depth to which references are followed. -/
def maxDepth : Nat := 1000

/-- The meaning of a text as an annotation. -/
def resolve (s : Scope) (t : String) : Except AnnotationError Meaning :=
  s.resolveIn maxDepth [] (.reference t)

end Scope

end EntityMap.Annotation
