import EntityMap.Schema.Entity
import EntityMap.Schema.Error
import EntityMap.Schema.Hint

/-!
# Describing classes

`Catalogue.describe` turns a class into the description of its entity, or says what is wrong with
its declaration. The types of columns come from the fields' annotations unless a column states
its own. A `Registry` remembers descriptions that succeeded (`Registry.describe`).
-/

namespace EntityMap

open Annotation

/-- Why a class has no description. -/
inductive DescribeError
  | schema (e : SchemaError)
  /-- An annotation that has no meaning although its names are defined. -/
  | typeText (e : AnnotationError)
  deriving DecidableEq, Repr

/-- A result of a declaration's check as one of describing. -/
def describing {α : Type} : Except SchemaError α → Except DescribeError α
  | .ok a => .ok a
  | .error e => .error (.schema e)

/-! ## Columns -/

/-- A column, if its flags agree. -/
def Column.check (c : Column) : Except SchemaError Column :=
  if c.autoIncrement && !c.primaryKey then .error (.autoIncrementWithoutKey c.name)
  else if c.nullable && c.primaryKey then .error (.nullableKey c.name)
  else .ok c

/-- The semantic type of a class that need not be declared. -/
def SemanticType.ofClass? (className : String) : Option SemanticType :=
  match className with
  | "str" => some .text
  | "bool" => some .boolean
  | "int" => some .integer
  | "float" => some .real
  | "bytes" | "bytearray" => some .blob
  | "datetime" => some .timestamp
  | _ => none

/-- The semantic type of an annotation's meaning. -/
def SemanticType.ofMeaning? (c : Catalogue) : Meaning → Option SemanticType
  | .known name => ofClass? name
  | .declared name => if c.isEntity name then some .entity else none
  | _ => none

/-- The semantic type of a field. A meaning that can be no key has none, and no name either. -/
def SemanticType.infer (c : Catalogue) (className field : String) (m : Meaning) :
    Except DescribeError SemanticType :=
  if !m.unwrap.isKey then .error (.typeText .meaningless)
  else match ofMeaning? c m.unwrap with
    | some t => .ok t
    | none => .error (.schema (.unsupportedType m.unwrap.shortName field className))

/-- A text, or another one in place of the empty text. -/
def orElse (s fallback : String) : String := if s = "" then fallback else s

/-- The column of a field. -/
def Column.ofSpec (c : Catalogue) (className field : String) (m : Meaning) (spec : ColumnSpec) :
    Except DescribeError Column := do
  let type ← match spec.sqlType with
    | some t => .ok t
    | none => SemanticType.infer c className field m
  describing <| Column.check
    { field, name := orElse spec.name field, type
      nullable := spec.nullable.getD (!spec.primaryKey)
      unique := spec.unique, primaryKey := spec.primaryKey
      autoIncrement := spec.autoIncrement, defaultValue := spec.defaultValue }

/-! ## Joins -/

/-- The class that a name stands for in a module. -/
def Catalogue.classNamed? (c : Catalogue) (name : String) : Option String :=
  if (c.find? name).isSome || (name ∈ importedClasses && (c.constants.lookup name).isNone) then
    some name
  else none

/-- The related class of a join. -/
def JoinSpec.relatedClass (c : Catalogue) (className field : String) (spec : JoinSpec) :
    Except SchemaError String :=
  if !spec.byName then .ok spec.related
  else match c.classNamed? spec.related with
    | some name => .ok name
    | none => .error (.noRelationship field className spec.related)

/-- The join of a field. -/
def Join.ofSpec (c : Catalogue) (className field : String) (spec : JoinSpec) :
    Except SchemaError Join :=
  if spec.target = "" then .error (.noTarget field className)
  else if spec.source = "" then .error (.noSource field className)
  else do
    let related ← spec.relatedClass c className field
    let version := if spec.byName then c.lastVersion related else spec.version
    return { field, target := spec.target, related, version, source := spec.source
             nullable := spec.nullable, unique := spec.unique
             defaultValue := spec.defaultValue }

/-! ## Entities -/

/-- The meaning of an annotation of a class. -/
def ClassBody.resolve (c : Catalogue) (className : String) (b : ClassBody) (typeText : String) :
    Except DescribeError Meaning :=
  match (c.scopeOf b).resolve typeText with
  | .ok m => .ok m
  | .error (.undefined name) => .error (.schema (.unresolvedName className name))
  | .error e => .error (.typeText e)

/-- The meanings of the annotations of a class and its bases, the bases first, among which the last
of a field counts; it comes first in the list. -/
def EntityClass.meanings (c : Catalogue) (cls : EntityClass) :
    Except DescribeError (List (String × Meaning)) :=
  cls.bodies.reverse.foldlM (fun known b =>
    b.annotations.foldlM (fun known a => do
      return (a.1, ← b.resolve c cls.name a.2) :: known) known) []

/-- The mapped field of a record's field, if it is mapped. -/
def Member.ofField (c : Catalogue) (className : String) (meanings : List (String × Meaning))
    (f : Field) : Except DescribeError (Option Member) :=
  match f.role with
  | .column spec =>
    (Column.ofSpec c className f.name ((meanings.lookup f.name).getD .absence) spec).map
      (some <| .column ·)
  | .join spec => describing ((Join.ofSpec c className f.name spec).map (some <| .join ·))
  | .plain _ => .ok none

/-- Adds the mapped field of one more field; a second primary key is refused. -/
def Member.addField (c : Catalogue) (className : String) (meanings : List (String × Meaning))
    (members : List Member) (f : Field) : Except DescribeError (List Member) := do
  match ← Member.ofField c className meanings f with
  | none => return members
  | some (.column col) =>
    match (members.filterMap (·.column?)).find? (·.primaryKey), col.primaryKey with
    | some first, true => .error (.schema (.severalPrimaryKeys className first.field col.field))
    | _, _ => return members ++ [.column col]
  | some m => return members ++ [m]

/-- The name of a class's table. -/
def EntityClass.tableName (cls : EntityClass) : Except SchemaError String :=
  match cls.table with
  | none => .error (.notAnnotated cls.name)
  | some table => if table = "" then .error (.noTableName cls.name) else .ok table

/-- The description of a class. -/
def EntityClass.describe (c : Catalogue) (cls : EntityClass) : Except DescribeError Entity := do
  let table ← describing cls.tableName
  match cls.fields with
  | none => .error (.schema (.notARecord cls.name))
  | some fields =>
    let meanings ← cls.meanings c
    let members ← fields.foldlM (Member.addField c cls.name meanings) []
    if members.isEmpty then .error (.schema (.noColumns cls.name))
    else return ⟨cls.name, table, members⟩

/-- The description of the class with a name. -/
def Catalogue.describe (c : Catalogue) (className : String) : Except DescribeError Entity :=
  match c.find? className with
  | some cls => cls.describe c
  | none => .error (.schema (.notAnnotated className))

/-- The description of the class that a join relates to. -/
def Catalogue.describeRelated (c : Catalogue) (j : Join) : Except DescribeError Entity :=
  match (c.versions j.related)[j.version]? with
  | some cls => cls.describe c
  | none => .error (.schema (.notAnnotated j.related))

/-- The column of the related entity that gives a join's key. -/
def Catalogue.sourceColumn (c : Catalogue) (j : Join) : Except DescribeError Column := do
  let related ← c.describeRelated j
  match (related.column? j.source).or (related.columnNamed? j.source) with
  | some col => return col
  | none => .error (.schema (.sourceNotFound j.source related.className j.field))

/-! ## Registries -/

/-- Descriptions by the names of their classes. -/
structure Registry where
  known : List (String × Entity) := []
  deriving Repr, Inhabited

namespace Registry

/-- The class has been described. -/
def knows (r : Registry) (className : String) : Bool := (r.known.lookup className).isSome

/-- The description of a class, remembered if it succeeds. -/
def describe (c : Catalogue) (className : String) (r : Registry) :
    Except DescribeError Entity × Registry :=
  match r.known.lookup className with
  | some e => (.ok e, r)
  | none =>
    match c.describe className with
    | .ok e => (.ok e, ⟨(className, e) :: r.known⟩)
    | .error e => (.error e, r)

end Registry

end EntityMap
