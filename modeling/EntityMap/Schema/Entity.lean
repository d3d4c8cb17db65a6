import EntityMap.Named
import EntityMap.Schema.SemanticType
import EntityMap.Text.Case

/-!
# Descriptions of entities

An `Entity` is what a class says about its table: its columns and joins in the order of their
fields. A column of the description is never nullable if it is the primary key, and only a
primary key is counted up by the database. The lookups find a column or a join by a field's
name, written in any mixture of cases and underscores (`fieldKey`), or by the name of a column.
-/

namespace EntityMap

/-- A field's name for lookups: `DateCreation`, `dateCreation` and `date_creation` are one. -/
def fieldKey (name : String) : String :=
  Text.lower (String.ofList (name.toList.filter (· ≠ '_')))

/-- A default text that says something. -/
def isDefault (value : Option String) : Bool :=
  match value with
  | some s => s ≠ ""
  | none => false

/-- A field that is a column of the entity's table. -/
structure Column where
  field : String
  name : String
  type : SemanticType
  nullable : Bool := true
  unique : Bool := false
  primaryKey : Bool := false
  autoIncrement : Bool := false
  defaultValue : Option String := none
  deriving DecidableEq, Repr

/-- The column declares a default. -/
def Column.hasDefault (c : Column) : Bool := isDefault c.defaultValue

/-- A field that holds a related entity, found by a key in the entity's table. -/
structure Join where
  field : String
  /-- The column of the entity's table that holds the key. -/
  target : String
  /-- The class of the related entity. -/
  related : String
  /-- How many classes of the related one's name were declared before it. -/
  version : Nat := 0
  /-- The field or column of the related entity that gives the key. -/
  source : String
  nullable : Bool := false
  unique : Bool := false
  defaultValue : Option String := none
  deriving DecidableEq, Repr

/-- The join declares a default. -/
def Join.hasDefault (j : Join) : Bool := isDefault j.defaultValue

/-- The default text, empty if there is none. -/
def Join.defaultText (j : Join) : String := j.defaultValue.getD ""

/-- A mapped field. -/
inductive Member
  | column (c : Column)
  | join (j : Join)
  deriving DecidableEq, Repr

/-- The column of a member. -/
def Member.column? : Member → Option Column
  | column c => some c
  | join _ => none

/-- The join of a member. -/
def Member.join? : Member → Option Join
  | column _ => none
  | join j => some j

/-- What a class says about its table. -/
structure Entity where
  className : String
  table : String
  members : List Member
  deriving DecidableEq, Repr

namespace Entity

/-- The columns in the order of their fields. -/
def columns (e : Entity) : List Column := e.members.filterMap (·.column?)

/-- The joins in the order of their fields. -/
def joins (e : Entity) : List Join := e.members.filterMap (·.join?)

/-- The column that is the primary key. -/
def primaryKey (e : Entity) : Option Column := e.columns.find? (·.primaryKey)

/-! ## Lookups -/

/-- The column of a field. -/
def column? (e : Entity) (field : String) : Option Column :=
  e.columns.find? fun c => fieldKey c.field == fieldKey field

/-- The join of a field. -/
def join? (e : Entity) (field : String) : Option Join :=
  e.joins.find? fun j => fieldKey j.field == fieldKey field

/-- The column field with a column's name. -/
def columnNamed? (e : Entity) (name : String) : Option Column :=
  e.columns.find? (·.name == name)

/-- The columns of the fields by their keys. Of two columns with one key the later counts, and a
column counts before a join. -/
def fieldColumns (e : Entity) : List (String × String) :=
  let columns := e.columns.foldl (fun keys c => setNamed (fieldKey c.field) c.name keys) []
  e.joins.foldl (fun keys j => setNew (fieldKey j.field) j.target keys) columns

/-- The column that a name stands for: the name of a column, else that of a field. -/
def resolveColumn? (e : Entity) (name : String) : Option String :=
  if (e.columnNamed? name).isSome || e.joins.any (·.target == name) then some name
  else e.fieldColumns.lookup (fieldKey name)

end Entity

end EntityMap
