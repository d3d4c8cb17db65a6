import EntityMap.Operation.Binding
import EntityMap.Operation.Explain
import EntityMap.Operation.Joins

/-!
# Queries by name

The operations that a method name states in full: `find`, `anyExists`, `delete` and `update`.
Each first settles its statement from the name and the number of arguments, so that a call of the
wrong shape touches no database.
-/

namespace EntityMap

open Method

/-! ## The shape of a call -/

/-- The query of a name. -/
def queryNamed (name : String) : Except Failure Method.Query :=
  (Query.ofName? name).mapError fun e => .call (.misnamed e)

/-- The query has one of the wanted verbs. -/
def checkVerb (q : Method.Query) (wanted : List Verb) : Except Failure Unit :=
  if q.verb ∈ wanted then .ok () else .error (.call (.wrongVerb q.name wanted))

/-- The call has so many arguments. -/
def checkCount (q : Method.Query) (expected : Nat) (args : List Value) : Except Failure Unit :=
  if args.length = expected then .ok ()
  else .error (.call (.argumentCount q.name expected args.length))

/-- The rows of a query with one argument for each comparison. -/
def selectionFor (e : Entity) (q : Method.Query) (wanted : List Verb) (args : List Value) :
    Except Failure Selection := do
  checkVerb q wanted
  let selection ← Query.compile e q
  checkCount q selection.paramCount args
  return selection

variable {δ : Type} [Database δ]

/-! ## Finding -/

/-- The entities of the rows of a statement: all in a list, or the first or null. -/
def loadResult (x : Library) (e : Entity) (s : Statement) (parameters : List Value)
    (many : Bool) : Op δ Value :=
  reading x.management fun _ => do
    let rows ← queryRows s parameters
    if many then return .list (← loadRows x e rows)
    else return (← loadRows x e (rows.take 1)).head?.getD .null

/-- Finds entities. Unless `many` says otherwise, `findAll` gives a list and `find` the first. -/
def find (x : Library) (e : Entity) (q : Method.Query) (args : List Value)
    (many : Option Bool) : Op δ Value := do
  let selection ← Op.ofResult (selectionFor e q [.find, .findAll] args)
  let parameters ← Op.ofResult (bindArguments (← Op.records) args)
  loadResult x e (.select e.table selection) parameters (many.getD (q.verb == .findAll))

/-! ## Counting and deleting -/

/-- Whether any row matches. -/
def anyExists (x : Library) (e : Entity) (q : Method.Query) (args : List Value) : Op δ Value := do
  let selection ← Op.ofResult (selectionFor e q [.exist] args)
  let reply ← reading x.management fun _ => do
    runStatement (.count e.table selection) (← Op.ofResult (bindArguments (← Op.records) args))
  return .bool (← Op.ofResult reply.countsAny)

/-- Deletes the rows that match and gives their number. -/
def delete (x : Library) (e : Entity) (q : Method.Query) (args : List Value) : Op δ Value := do
  let selection ← Op.ofResult (selectionFor e q [.delete] args)
  let n ← writing x.management fun k => do
    k.delete e.table (.filter selection.filter)
      (← Op.ofResult (bindArguments (← Op.records) args))
  return .int n

/-! ## Updating -/

/-- The column that a key of a mapping names. -/
def settableColumn (e : Entity) : Value → Except Failure String
  | .text key =>
    match e.resolveColumn? key with
    | some column => .ok column
    | none => .error (.fieldNotFound key)
  | .bytes _ | .moment _ => .error .keyOfOtherParts
  | _ => .error .keyNotText

/-- The columns to set with their parameters; of two for one column the later counts. -/
def settings {κ : Type} (rs : Records) (columnOf : κ → Except Failure String)
    (entries : List (κ × Value)) : Except Failure (List (String × Value)) :=
  entries.foldlM (fun known entry => do
    let column ← columnOf entry.1
    return setNamed column (← bindValue rs entry.2) known) []

/-- The columns to set and the arguments that are compared, for a name that states the fields. -/
def namedSettings (rs : Records) (e : Entity) (q : Method.Query) (comparisons : Nat)
    (args : List Value) : Except Failure (List (String × Value) × List Value) := do
  let count := q.setFields.length
  checkCount q (count + comparisons) args
  return (← settings rs e.settable (q.setFields.zip (args.take count)), args.drop count)

/-- The columns to set and the arguments that are compared, for a call whose first argument is a
mapping. -/
def mappedSettings (rs : Records) (e : Entity) (q : Method.Query) (comparisons : Nat)
    (args : List Value) : Except Failure (List (String × Value) × List Value) :=
  match args with
  | .mapping [] :: _ => .error (.call (.emptyMapping q.name))
  | .mapping entries :: compared => do
    checkCount q (comparisons + 1) args
    return (← settings rs (settableColumn e) entries, compared)
  | _ => .error (.call (.noMapping q.name))

/-- An update that is settled. -/
structure Update where
  values : List (String × Value)
  filter : Filter
  parameters : List Value
  deriving Repr

/-- The update of a call. -/
def Update.ofCall (rs : Records) (e : Entity) (q : Method.Query) (args : List Value) :
    Except Failure Update := do
  checkVerb q [.update]
  let selection ← Query.compile e q
  let (values, compared) ←
    if q.setFields.isEmpty then mappedSettings rs e q selection.paramCount args
    else namedSettings rs e q selection.paramCount args
  return ⟨values, selection.filter, ← bindArguments rs compared⟩

/-- Updates the rows that match and gives their number. -/
def update (x : Library) (e : Entity) (q : Method.Query) (args : List Value) : Op δ Value := do
  let u ← Op.ofResult (Update.ofCall (← Op.records) e q args)
  let n ← writing x.management fun k => k.update e.table u.values (.filter u.filter) u.parameters
  return .int n

end EntityMap
