import EntityMap.Schema.Default
import EntityMap.Schema.Describe

/-!
# Table definitions

`Catalogue.defineTable` gives the definition of an entity's table: one column per physical
column among the columns and the targets of joins, in the order of their first field
(`groupMembers`), then one foreign key per join whose related class can be described. A column
that has a field of its own is defined by that field, and a join onto it adds only its
uniqueness; a column that has none is defined by the first join onto it. `TableDefinition.sql`
is the `CREATE TABLE` text.
-/

namespace EntityMap

open Text

/-! ## Definitions -/

/-- The definition of a column in a table. -/
structure ColumnDefinition where
  name : String
  type : ColumnType
  notNull : Bool
  primaryKey : Bool
  autoIncrement : Bool
  unique : Bool
  default : Option Literal
  deriving DecidableEq, Repr

/-- The parts of a column's definition. -/
def ColumnDefinition.parts (c : ColumnDefinition) : List String :=
  [identifier c.name, c.type.word]
    ++ (if c.notNull then ["NOT NULL"] else [])
    ++ (if c.primaryKey then ["PRIMARY KEY"] else [])
    ++ (if c.autoIncrement then ["AUTOINCREMENT"] else [])
    ++ (if c.unique then ["UNIQUE"] else [])
    ++ (match c.default with
      | some l => ["DEFAULT " ++ l.sql]
      | none => [])

/-- The definition of a column as SQL writes it. -/
def ColumnDefinition.sql (c : ColumnDefinition) : String := " ".intercalate c.parts

/-- A column whose values are keys of another table. -/
structure ForeignKey where
  column : String
  table : String
  references : String
  deriving DecidableEq, Repr

/-- The foreign key as SQL writes it. -/
def ForeignKey.sql (k : ForeignKey) : String :=
  "FOREIGN KEY (" ++ identifier k.column ++ ") REFERENCES " ++ identifier k.table ++ " ("
    ++ identifier k.references ++ ")"

/-- The definition of a table. -/
structure TableDefinition where
  name : String
  columns : List ColumnDefinition
  foreignKeys : List ForeignKey
  deriving DecidableEq, Repr

/-- The definition of a table as SQL writes it. -/
def TableDefinition.sql (t : TableDefinition) : String :=
  "CREATE TABLE IF NOT EXISTS " ++ identifier t.name ++ " (\n    "
    ++ ",\n    ".intercalate (t.columns.map (·.sql) ++ t.foreignKeys.map (·.sql)) ++ "\n);"

/-! ## Physical columns -/

/-- A physical column: the field that is this column, and the first join onto it. -/
structure ColumnGroup where
  name : String
  column : Option Column
  join : Option Join
  deriving DecidableEq, Repr

/-- Adds a member to the group of its physical column. A later column field takes the place of an
earlier one, a later join does not. -/
def addMember (m : Member) : List ColumnGroup → List ColumnGroup
  | [] =>
    match m with
    | .column c => [⟨c.name, some c, none⟩]
    | .join j => [⟨j.target, none, some j⟩]
  | g :: gs =>
    match m with
    | .column c =>
      if g.name = c.name then { g with column := some c } :: gs else g :: addMember m gs
    | .join j =>
      if g.name = j.target then { g with join := g.join.or (some j) } :: gs
      else g :: addMember m gs

/-- The physical columns of an entity in the order of their first field. -/
def groupMembers (members : List Member) : List ColumnGroup :=
  members.foldl (fun gs m => addMember m gs) []

/-! ## Making definitions -/

/-- The definition of a column, checked and with its default read. -/
def ColumnDefinition.make (name : String) (type : SemanticType) (nullable primaryKey
    autoIncrement unique : Bool) (defaultValue : Option String) :
    Except SchemaError ColumnDefinition :=
  if autoIncrement && type.columnType ≠ .integer then
    .error (.autoIncrementType name type.columnType)
  else do
    let default ← match defaultValue with
      | some s => if s = "" then .ok none else (Literal.ofDefault name type s).map some
      | none => .ok none
    return { name, type := type.columnType, notNull := !nullable, primaryKey, autoIncrement
             unique := unique && !primaryKey, default }

/-- The type of a column that only a join names: that of the related column, or a reference to an
entity if there is none. -/
def Catalogue.joinType (c : Catalogue) (j : Join) : Except DescribeError SemanticType :=
  match c.sourceColumn j with
  | .ok source => .ok source.type
  | .error (.schema _) => .ok .entity
  | .error e => .error e

/-- The definition of a physical column, if a field names it. -/
def Catalogue.defineColumn (c : Catalogue) (g : ColumnGroup) :
    Except DescribeError (Option ColumnDefinition) :=
  match g.column, g.join with
  | some col, join =>
    describing <| (ColumnDefinition.make col.name col.type col.nullable col.primaryKey
      col.autoIncrement (col.unique || join.any (·.unique)) col.defaultValue).map some
  | none, some j => do
    let type ← c.joinType j
    describing <| (ColumnDefinition.make j.target type j.nullable false false j.unique
      j.defaultValue).map some
  | none, none => .ok none

/-- The foreign key of a join, if its related class can be described. -/
def Catalogue.foreignKey (c : Catalogue) (j : Join) : Except DescribeError (Option ForeignKey) :=
  match c.describeRelated j with
  | .error (.schema _) => .ok none
  | .error e => .error e
  | .ok related => do
    let source ← c.sourceColumn j
    return some ⟨j.target, related.table, source.name⟩

/-- The definition of an entity's table. -/
def Catalogue.defineTable (c : Catalogue) (e : Entity) :
    Except DescribeError TableDefinition := do
  let columns ← (groupMembers e.members).mapM c.defineColumn
  let foreignKeys ← e.joins.mapM c.foreignKey
  return ⟨e.table, columns.filterMap id, foreignKeys.filterMap id⟩

end EntityMap
