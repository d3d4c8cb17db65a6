import EntityMap.Operation.Joins

/-!
# Validation

`violations` lists the constraints that an entity does not satisfy: first those of its columns,
then those of its joins, in the order of the fields. Nothing is written; a unique value is looked
up in the table as it is.
-/

namespace EntityMap

variable {δ : Type} [Database δ]

/-- A join supplies a column's value when the entity is saved. -/
def Entity.filledByJoin (e : Entity) (rs : Records) (v : Value) (column : String) : Bool :=
  e.joins.any fun j => j.target == column && (!(rs.get v j.field).isNull || j.hasDefault)

/-- A row of the table holds a value in a column. -/
def holdsValue (table column : String) (v : Value) : Op δ Bool :=
  queryAny (.count table (.byColumn column)) [v]

/-- The violation of a column, if there is one. -/
def columnViolation (x : Library) (e : Entity) (v : Value) (col : Column) :
    Op δ (Option Violation) := do
  let rs ← Op.records
  let field := rs.get v col.field
  if col.autoIncrement then return none
  else if field.isNull then
    if !col.nullable && !col.hasDefault && !e.filledByJoin rs v col.name then
      return some (.columnAbsent col.field)
    else return none
  else if col.unique then
    if ← holdsValue e.table col.name (← Op.ofResult (stored field)) then
      return some (.columnTaken col.field (field.display (rs.shown x.catalogue)))
    else return none
  else return none

/-- The violation of a join, if there is one. -/
def joinViolation (x : Library) (e : Entity) (v : Value) (j : Join) :
    Op δ (Option Violation) := do
  let rs ← Op.records
  let related := rs.get v j.field
  if related.isNull then
    if !j.nullable && !j.hasDefault then return some (.joinAbsent j.field) else return none
  else if j.unique then
    let source ← Op.describing (x.catalogue.sourceColumn j)
    let key ← Op.ofResult (stored (rs.get related source.field))
    if key.isNull then return none
    else if ← holdsValue e.table j.target key then
      return some (.joinTaken j.field (key.display (rs.shown x.catalogue)))
    else return none
  else return none

/-- The constraints that an entity does not satisfy. -/
def violations (x : Library) (e : Entity) (v : Value) : Op δ (List Violation) :=
  if v.isNull then throw (.call .validateNothing)
  else reading x.management fun _ => do
    let ofColumns ← e.columns.mapM (columnViolation x e v)
    let ofJoins ← e.joins.mapM (joinViolation x e v)
    return ofColumns.filterMap id ++ ofJoins.filterMap id

/-- Fails with all violations if there are any. -/
def validate (x : Library) (e : Entity) (v : Value) : Op δ Unit := do
  let found ← violations x e v
  if found.isEmpty then return () else throw (.invalid found)

/-- The entity satisfies all constraints. -/
def isValid (x : Library) (e : Entity) (v : Value) : Op δ Bool := do
  return (← violations x e v).isEmpty

end EntityMap
