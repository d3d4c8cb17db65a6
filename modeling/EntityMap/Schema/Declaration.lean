import EntityMap.Annotation.Names
import EntityMap.Annotation.Reader
import EntityMap.Named
import EntityMap.Schema.SemanticType
import EntityMap.Text.NormalForm

/-!
# Declarations of entity classes

An entity class is declared by its fields: a field is a column, a join to another class, or
unmapped. `Catalogue.ofDeclarations` reads declarations in order and settles what each class
inherits. A class has fields of its own only if it is made a record, which `@table` does unless
the class is a record by inheritance; the table's name and the annotations are inherited in
any case. A record is made only of fields that fit together (`DeclarationError`).
-/

namespace EntityMap

/-! ## Fields -/

/-- The options of a column. -/
structure ColumnSpec where
  name : String := ""
  nullable : Option Bool := none
  primaryKey : Bool := false
  autoIncrement : Bool := false
  unique : Bool := false
  defaultValue : Option String := none
  sqlType : Option SemanticType := none
  /-- The value of the field in a new entity. -/
  initial : Value := .null
  deriving Repr, Inhabited

/-- The options of a join. -/
structure JoinSpec where
  target : String
  /-- The related class. -/
  related : String
  /-- The related class is looked up by its name when the entity is described. -/
  byName : Bool := false
  /-- How many classes of the related one's name were declared before it. -/
  version : Nat := 0
  source : String
  defaultValue : Option String := none
  unique : Bool := false
  nullable : Bool := false
  deriving Repr, Inhabited

/-- What a field is. -/
inductive FieldRole
  | column (spec : ColumnSpec)
  | join (spec : JoinSpec)
  /-- An unmapped field, with its value in a new entity unless it has to be given. -/
  | plain (initial : Option Value)
  deriving Repr, Inhabited

/-- A field's value in a new entity. -/
def FieldRole.initial? : FieldRole → Option Value
  | column spec => some spec.initial
  | join _ => some .null
  | plain initial => initial

/-- A field as it is declared. -/
structure FieldDeclaration where
  name : String
  typeText : String
  role : FieldRole
  deriving Repr, Inhabited

/-- A class as it is declared. -/
structure ClassDeclaration where
  name : String
  fields : List FieldDeclaration
  /-- The name of the table, if the class states one. -/
  table : Option String := none
  /-- The class is made a record before anything else. -/
  isRecord : Bool := false
  /-- The table's name is only set and nothing is done to the class. -/
  isBare : Bool := false
  base : Option String := none
  deriving Repr, Inhabited

/-! ## Classes -/

/-- A field of a record. -/
structure Field where
  name : String
  role : FieldRole
  deriving Repr, Inhabited

/-- What a class has of its own. -/
structure ClassBody where
  className : String
  /-- The annotations of its fields. -/
  annotations : List (String × String)
  /-- What the class holds under the name of a field. -/
  attributes : List (String × FieldRole)
  /-- The name of the table, if the class states one. -/
  table : Option String
  deriving Repr, Inhabited

/-- A class with everything that it inherits. -/
structure EntityClass where
  name : String
  /-- The class and its bases, nearest first. -/
  bodies : List ClassBody
  /-- The fields of the record, if the class is one. -/
  fields : Option (List Field)
  /-- The class whose declaration made the record. -/
  constructor : String
  deriving Repr, Inhabited

/-- The class and its bases, nearest first. -/
def EntityClass.lineage (cls : EntityClass) : List String := cls.bodies.map (·.className)

/-- The name of the table, which may be inherited. -/
def EntityClass.table (cls : EntityClass) : Option String := cls.bodies.findSome? (·.table)

/-- What the class holds under the name of a field, nearest first. -/
def EntityClass.attributes (cls : EntityClass) : List (String × FieldRole) :=
  cls.bodies.flatMap (·.attributes)

/-- Adds a field. One that is there keeps its place and gets the new role. -/
def addField (f : Field) : List Field → List Field
  | [] => [f]
  | g :: gs => if g.name = f.name then f :: gs else g :: addField f gs

/-- A field that states nothing else is required. -/
def FieldRole.isRequired : FieldRole → Bool
  | plain none => true
  | _ => false

/-- A field that is mapped. -/
def FieldRole.isMapped : FieldRole → Bool
  | plain _ => false
  | _ => true

/-- What a record holds under a field's name: the value of the field in a new entity. -/
def FieldRole.settled (role : FieldRole) : FieldRole :=
  .plain role.initial?

/-! ## Records -/

/-- Why no record is made of a class. -/
inductive DeclarationError
  /-- The value of a field in a new entity can be changed, so entities would share it. -/
  | sharedValue (field : String)
  /-- A required field comes after one that is not. -/
  | requiredLate (field : String)
  /-- The name of a field is no name, or that of another field written in another way. -/
  | misnamed (field : String)
  /-- The name of a field is not in normal form. -/
  | otherForm (field : String)
  deriving DecidableEq, Repr

/-- The first required field after one that is not. -/
def lateRequired? : List Field → Option String
  | [] => none
  | f :: fs =>
    if f.role.isRequired then lateRequired? fs
    else (fs.find? (·.role.isRequired)).map (·.name)

/-- The name of a field may stand in a list of parameters. -/
def isFieldName (name : String) : Bool :=
  Text.isName name.toList && name ∉ Annotation.keywords && name ≠ Annotation.debugName

/-- The first field whose name is no name or is, in normal form, that of an earlier one. -/
def misnamed? (known : List (List Char)) : List Field → Option String
  | [] => none
  | f :: fs =>
    let name := Text.normalForm f.name.toList
    if !isFieldName f.name || known.contains name then some f.name
    else misnamed? (name :: known) fs

/-- The fields of a record, of which those of the names in `own` are new, if they fit together. -/
def checkRecord (own : List String) (fields : List Field) : Except DeclarationError (List Field) :=
  let shared := fields.find? fun f =>
    f.name ∈ own && f.role.initial?.any fun v => !v.isKey
  match shared, lateRequired? fields, misnamed? [] fields,
      fields.find? fun f => Text.normalForm f.name.toList ≠ f.name.toList with
  | some f, _, _, _ => .error (.sharedValue f.name)
  | none, some name, _, _ => .error (.requiredLate name)
  | none, none, some name, _ => .error (.misnamed name)
  | none, none, none, some f => .error (.otherForm f.name)
  | none, none, none, none => .ok fields

/-- The role of a field: what the class states for it last, else what the class already holds
there. -/
def roleOf (attributes : List (String × FieldRole)) (name : String) : FieldRole :=
  (attributes.lookup name).getD (.plain none)

/-- What the fields of a declaration state, the last of a name first. -/
def ClassDeclaration.stated (d : ClassDeclaration) : List (String × FieldRole) :=
  ((d.fields.filter fun f => !f.role.isRequired).map fun f => (f.name, f.role)).reverse

/-- The annotations of a declaration, the last of a name counting. -/
def ClassDeclaration.annotations (d : ClassDeclaration) : List (String × String) :=
  distinctNames (d.fields.map fun f => (f.name, f.typeText))

/-- What a record holds of its own: the settled values of its mapped fields, and whatever else it
states. -/
def settledAttributes (names : List String) (stated inherited : List (String × FieldRole)) :
    List (String × FieldRole) :=
  names.filterMap fun name =>
    let role := roleOf (stated ++ inherited) name
    if role.isMapped then some (name, role.settled)
    else (stated.lookup name).map (name, ·)

/-- The class of a declaration, given its base. -/
def EntityClass.ofDeclaration (base : Option EntityClass) (d : ClassDeclaration) :
    Except DeclarationError EntityClass := do
  let inherited := base.bind (·.fields)
  let makesRecord := d.isRecord || (d.table.isSome && !d.isBare && inherited.isNone)
  let baseAttributes := (base.map (·.attributes)).getD []
  let names := d.annotations.map (·.1)
  let fields ←
    if makesRecord then
      (checkRecord names (names.foldl (fun fs name =>
        addField ⟨name, roleOf (d.stated ++ baseAttributes) name⟩ fs) (inherited.getD []))).map some
    else .ok inherited
  let body : ClassBody :=
    { className := d.name
      annotations := d.annotations
      attributes :=
        if makesRecord then settledAttributes names d.stated baseAttributes else d.stated
      table := d.table }
  return {
    name := d.name
    bodies := body :: (base.map (·.bodies)).getD []
    fields
    constructor := if makesRecord then d.name else (base.map (·.constructor)).getD d.name }

/-! ## Catalogues -/

/-- The classes of a module and the other values that it names. -/
structure Catalogue where
  /-- The classes, the last declared first. -/
  classes : List EntityClass := []
  constants : List (String × Value) := []
  deriving Repr, Inhabited

namespace Catalogue

/-- The class with a name; the last one of the name counts. -/
def find? (c : Catalogue) (name : String) : Option EntityClass :=
  c.classes.find? (·.name == name)

/-- The classes with a name, the first declared first. -/
def versions (c : Catalogue) (name : String) : List EntityClass :=
  (c.classes.filter (·.name == name)).reverse

/-- The number of classes that were declared before the last one of their name. -/
def lastVersion (c : Catalogue) (name : String) : Nat := (c.versions name).length - 1

/-- The field with the class that it is joined to, which stays the related one even if another
class of its name is declared later. -/
def settleJoin (c : Catalogue) (f : FieldDeclaration) : FieldDeclaration :=
  match f.role with
  | .join spec => { f with role := .join { spec with version := c.lastVersion spec.related } }
  | _ => f

/-- The catalogue with one more class. -/
def add (c : Catalogue) (d : ClassDeclaration) : Except DeclarationError Catalogue := do
  let settled := { d with fields := d.fields.map c.settleJoin }
  let cls ← EntityClass.ofDeclaration (d.base.bind c.find?) settled
  return { c with classes := cls :: c.classes }

/-- The catalogue of declarations in order. -/
def ofDeclarations (ds : List ClassDeclaration) (constants : List (String × Value)) :
    Except DeclarationError Catalogue :=
  ds.foldlM add { constants }

/-- The class carries the name of a table that is not empty. -/
def isEntity (c : Catalogue) (name : String) : Bool :=
  match (c.find? name).bind (·.table) with
  | some table => table ≠ ""
  | none => false

/-- An entity of the first class is one of the second. -/
def isA (c : Catalogue) (name ancestor : String) : Bool :=
  match c.find? name with
  | some cls => ancestor ∈ cls.lineage
  | none => name = ancestor

end Catalogue

end EntityMap
