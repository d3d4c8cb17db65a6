import EntityMap.Schema.Default
import EntityMap.Storage.Connection

/-!
# Joins

A join's key stands in the entity's own field for the target column, or else in the row that the
entity came from (`Join.keyValue`). `resolveJoin` sets the join's field to the entity that the
key names in the related table. Without a key the field gets a placeholder if the join declares
a default (`placeholder`), and is left alone otherwise. The joins of a related entity are not
followed.
-/

namespace EntityMap

variable {δ : Type}

/-- The value of a join's key. -/
def Join.keyValue (rs : Records) (e : Entity) (owner : Value) (row : Option Row) (j : Join) :
    Except Failure Value :=
  match e.columnNamed? j.target with
  | some col => stored (rs.get owner col.field)
  | none => .ok ((row.bind (·.value? j.target)).getD .null)

/-- The column that carries a placeholder's key: the primary key of the related entity, or else
the source of the join. -/
def placeholderKey (x : Library) (related : Entity) (j : Join) : Except DescribeError Column :=
  match related.primaryKey with
  | some key => .ok key
  | none => x.catalogue.sourceColumn j

/-- The entity that stands for an absent relation with a default. -/
def placeholderRecord (x : Library) (j : Join) : Except Failure Record := do
  let related ← (x.catalogue.describeRelated j).mapError DescribeError.toFailure
  let key ← (placeholderKey x related j).mapError DescribeError.toFailure
  let empty ← (Record.empty x.catalogue related.className).mapError .schema
  let v ← (parseDefault key.name key.type j.defaultText).mapError .schema
  return { empty.set key.field v with isPlaceholder := true }

/-- A new placeholder for a join. -/
def placeholder (x : Library) (j : Join) : Op δ Value := do
  Op.addRecord (← Op.ofResult (placeholderRecord x j))

/-- The entity of a row, as a new record. -/
def hydrateRow (x : Library) (e : Entity) (row : Row) : Op δ Value := do
  Op.addRecord (← Op.ofResult (hydrate x.catalogue (← Op.records) e row))

variable [Database δ]

/-- Sets a join's field for the rows that its key names; the first of several rows counts. -/
def joinFirst (x : Library) (related : Entity) (source : Column) (owner : Value) (j : Join)
    (key : Value) : List Row → Op δ Value
  | [] => return .null
  | row :: more => do
    unless more.isEmpty do
      let shown := key.literal ((← Op.records).shown x.catalogue)
      Op.warn (.severalRows j.field (more.length + 1) related.table source.name shown)
    let v ← hydrateRow x related row
    Op.setField owner j.field v
    return v

/-- Resolves one join of an entity and gives the related entity, or null. -/
def resolveJoin (x : Library) (e : Entity) (owner : Value) (row : Option Row) (j : Join) :
    Op δ Value := do
  let key ← Op.ofResult (j.keyValue (← Op.records) e owner row)
  if key.isNull then
    if j.nullable || !j.hasDefault then return .null
    let stub ← placeholder x j
    Op.setField owner j.field stub
    return stub
  else
    let related ← Op.describing (x.catalogue.describeRelated j)
    let source ← Op.describing (x.catalogue.sourceColumn j)
    let rows ← queryRows (.select related.table (.byColumn source.name)) [key]
    joinFirst x related source owner j key rows

/-- Resolves all joins of an entity. -/
def resolveJoins (x : Library) (e : Entity) (owner : Value) (row : Option Row) : Op δ Unit :=
  e.joins.forM fun j => do
    let _ ← resolveJoin x e owner row j

/-- The entity of a row with its joins resolved. -/
def loadRow (x : Library) (e : Entity) (row : Row) : Op δ Value := do
  let v ← hydrateRow x e row
  resolveJoins x e v (some row)
  return v

/-- The entities of rows, in order. -/
def loadRows (x : Library) (e : Entity) (rows : List Row) : Op δ (List Value) :=
  rows.mapM (loadRow x e)

end EntityMap
