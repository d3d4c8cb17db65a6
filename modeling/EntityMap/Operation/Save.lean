import EntityMap.Operation.Validation

/-!
# Saving

`save` inserts an entity. Related entities whose key is not set yet are inserted first, each
after those that it is related to in turn, and the keys are copied into the owner's foreign key
columns. Everything that will be inserted is validated before anything is written, and all
insertions stand or fall together in the database.

The entities may share one another but not hold one another in a circle: the recursion over
relations ends after as many steps as there are entities.
-/

namespace EntityMap

variable {δ : Type} [Database δ]

/-- The database still has to count up the entity's key. -/
def keyUnset (rs : Records) (e : Entity) (v : Value) : Bool :=
  match e.primaryKey with
  | some key =>
    key.autoIncrement && ((rs.get v key.field).isNull || (rs.get v key.field).isZero)
  | none => false

/-! ## Validating -/

/-- Validates the related entities that saving an entity inserts. -/
def validateRelated (x : Library) : Nat → Entity → Value → Op δ Unit
  | 0, _, _ => throw .cyclic
  | fuel + 1, e, v => e.joins.forM fun j => do
    let rs ← Op.records
    let related := rs.get v j.field
    if related.isNull || rs.isPlaceholder related then return ()
    let relatedEntity ← Op.describing (x.catalogue.describeRelated j)
    if keyUnset rs relatedEntity related then
      validateRelated x fuel relatedEntity related
      validate x relatedEntity related

/-! ## Inserting -/

/-- The related entity of a join; one that is absent and has a default becomes a placeholder. -/
def relatedOrPlaceholder (x : Library) (v : Value) (j : Join) : Op δ Value := do
  let related := (← Op.records).get v j.field
  if related.isNull && j.hasDefault then
    let stub ← placeholder x j
    Op.setField v j.field stub
    return stub
  else return related

/-- Makes the key of one join available: in the entity's own field for the target column, or
among the keys of columns without a field. -/
def settleJoin (x : Library) (insertRelated : Entity → Value → Op δ Int) (e : Entity)
    (v : Value) (keys : List (String × Value)) (j : Join) : Op δ (List (String × Value)) := do
  let related ← relatedOrPlaceholder x v j
  if related.isNull then return keys
  let relatedEntity ← Op.describing (x.catalogue.describeRelated j)
  let rs ← Op.records
  if !rs.isPlaceholder related && keyUnset rs relatedEntity related then
    let _ ← insertRelated relatedEntity related
  let source ← Op.describing (x.catalogue.sourceColumn j)
  let key ← Op.ofResult (stored ((← Op.records).get related source.field))
  match e.columnNamed? j.target with
  | some col =>
    if !key.isNull then Op.setField v col.field key
    return keys
  | none => return setNamed j.target key keys

/-- A column's value is left to the database. -/
def Column.isLeftOut (col : Column) (v : Value) : Bool :=
  v.isNull || (col.autoIncrement && v.isZero)

/-- The values of an entity's own columns that an insertion names. -/
def ownValues (rs : Records) (e : Entity) (v : Value) :
    Except Failure (List (String × Value)) :=
  e.columns.foldlM (fun known col =>
    let field := rs.get v col.field
    if col.isLeftOut field then .ok known
    else (stored field).map fun new => setNamed col.name new known) []

/-- Adds keys under names that are not there yet; absent keys are left out. -/
def addKeys (keys values : List (String × Value)) : List (String × Value) :=
  keys.foldl (fun known k => if k.2.isNull then known else setNew k.1 k.2 known) values

/-- Inserts an entity after the related entities that have no key yet. -/
def insertEntity (x : Library) (k : Connection) : Nat → Entity → Value → Op δ Int
  | 0, _, _ => throw .cyclic
  | fuel + 1, e, v => do
    let keys ← e.joins.foldlM (settleJoin x (insertEntity x k fuel) e v) []
    let own ← Op.ofResult (ownValues (← Op.records) e v)
    let rowId ← k.insert e.table (addKeys keys own)
    match e.primaryKey with
    | some key => if key.autoIncrement then Op.setField v key.field (.int rowId)
    | none => pure ()
    return rowId

/-! ## Saving -/

/-- The value is an entity that can be saved. -/
def checkSavable (x : Library) (rs : Records) (e : Entity) (v : Value) : Except Failure Unit :=
  if v.isNull then .error (.call .saveNothing)
  else if rs.isInstance x.catalogue v e.className then .ok ()
  else .error (.call (.wrongEntity e.className (rs.typeName v)))

/-- The most relations that can follow one another. -/
def relationDepth (rs : Records) : Nat := rs.length + 2

/-- Inserts an entity and all related entities without a key, and gives the entity. -/
def save (x : Library) (validating : Bool) (e : Entity) (v : Value) : Op δ Value := do
  let rs ← Op.records
  Op.ofResult (checkSavable x rs e v)
  if validating then
    validateRelated x (relationDepth rs) e v
    validate x e v
  let _ ← writing x.management fun k => insertEntity x k (relationDepth rs) e v
  return v

end EntityMap
