import EntityMap.Operation.Query
import EntityMap.Operation.Save

/-!
# Invocation

`invoke` carries out the call of a method by its name: `validate` and `is_valid`, or whatever the
name means as a query. `runSql` carries out SQL that is given in full, with the arguments bound
in order.
-/

namespace EntityMap

variable {δ : Type} [Database δ]

/-- The only argument of a call. -/
def singleArgument (name : String) : List Value → Except Failure Value
  | [v] => .ok v
  | args => .error (.call (.singleArgument name args.length))

/-- Carries out a query. -/
def runQuery (x : Library) (e : Entity) (q : Method.Query) (args : List Value)
    (many : Option Bool) : Op δ Value :=
  match q.verb with
  | .save => do
    save x x.validateOnSave e (← Op.ofResult (singleArgument q.name args))
  | .find | .findAll => find x e q args many
  | .update => update x e q args
  | .delete => delete x e q args
  | .exist => anyExists x e q args

/-- Carries out the call of a method. -/
def invoke (x : Library) (e : Entity) (name : String) (args : List Value)
    (many : Option Bool) : Op δ Value :=
  if name = "validate" then do
    validate x e (← Op.ofResult (singleArgument name args))
    return .bool true
  else if name = "is_valid" then do
    return .bool (← isValid x e (← Op.ofResult (singleArgument name args)))
  else do
    runQuery x e (← Op.ofResult (queryNamed name)) args many

/-- SQL that stands for a method. -/
structure SqlQuery where
  sql : String
  /-- The rows are made entities; otherwise the statement is run for its effect. -/
  captures : Bool := true
  deriving DecidableEq, Repr

/-- Carries out given SQL. -/
def runSql (x : Library) (e : Entity) (q : SqlQuery) (args : List Value) (many : Bool) :
    Op δ Value := do
  let parameters ← Op.ofResult (bindArguments (← Op.records) args)
  if q.captures then loadResult x e (.verbatim q.sql) parameters many
  else
    let _ ← writing x.management fun k => k.execute (.verbatim q.sql) parameters
    return .bool true

end EntityMap
