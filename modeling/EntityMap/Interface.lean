import EntityMap.Operation.Invocation
import EntityMap.Operation.Table
import EntityMap.Schema.Hint

/-!
# Query interfaces and tables

A query interface declares methods. One whose name follows the grammar of method names runs the
query that it names, one with SQL runs that, and any other keeps its own body
(`MethodBehaviour`). A method that no interface declares is run by its name all the same
(`QueryObject.call`). A table class creates the table of its entity and hands out query objects.

Interfaces and table classes inherit from one another; `Interfaces.ofDeclarations` settles what
each has.
-/

namespace EntityMap

open Method

/-! ## Declarations -/

/-- A method as it is declared. -/
structure MethodDeclaration where
  name : String
  /-- The annotation of its result. -/
  returns : Option String := none
  sql : Option SqlQuery := none
  /-- What its own body returns. -/
  body : Value := .null
  deriving Repr

/-- A query interface as it is declared. -/
structure InterfaceDeclaration where
  name : String
  entity : Option String := none
  base : Option String := none
  methods : List MethodDeclaration := []
  deriving Repr

/-- A table class as it is declared. -/
structure TableDeclaration where
  name : String
  entity : Option String := none
  base : Option String := none
  /-- The interface of the query objects that the table hands out. -/
  interface : Option String := none
  deriving Repr

/-! ## Interfaces -/

/-- What a method of an interface does. -/
inductive MethodBehaviour
  /-- Runs the query that its name means. -/
  | dispatch (many : Option Bool)
  | sql (q : SqlQuery) (many : Bool)
  /-- Runs the query that its name means, with a fixed number of arguments. -/
  | fixed (arity : Nat)
  | body (result : Value)
  deriving Repr

/-- The behaviour of a declared method. The annotation of its result counts only if the method runs
a query. -/
def MethodDeclaration.behaviour (c : Catalogue) (m : MethodDeclaration) :
    Except AnnotationError MethodBehaviour :=
  if m.name.startsWith "_" then .ok (.body m.body)
  else match m.sql with
    | some q => do return .sql q ((← returnsMany? c m.returns).getD false)
    | none =>
      if followsGrammar m.name then do return .dispatch (← returnsMany? c m.returns)
      else .ok (.body m.body)

/-- An interface with everything that it inherits. -/
structure Interface where
  name : String
  entity : Option String
  /-- The methods, the nearest of a name first. -/
  methods : List (String × MethodBehaviour)
  deriving Repr

/-- The interface that every other one inherits from. -/
def Interface.root : Interface where
  name := "DynamicQuery"
  entity := none
  methods := [("save", .fixed 1), ("findAll", .fixed 0), ("validate", .fixed 1),
    ("is_valid", .fixed 1)]

/-- The interface of a declaration. Of several methods of one name the last counts. -/
def Interface.ofDeclaration (c : Catalogue) (base : Interface) (d : InterfaceDeclaration) :
    Except AnnotationError Interface := do
  let methods := distinctNames (d.methods.map fun m => (m.name, m))
  return {
    name := d.name
    entity := d.entity.or base.entity
    methods := (← methods.mapM fun (name, m) => do return (name, ← m.behaviour c))
      ++ base.methods }

/-- A table class with everything that it inherits. -/
structure TableClass where
  name : String
  entity : Option String
  interface : Interface
  deriving Repr

/-- The table class that every other one inherits from. -/
def TableClass.root : TableClass := ⟨"SQLiteTable", none, .root⟩

/-- The interfaces and table classes of a module, the last declared first. -/
structure Interfaces where
  interfaces : List Interface := [.root]
  tables : List TableClass := [.root]
  deriving Repr

namespace Interfaces

/-- The interface with a name; the last one of the name counts. -/
def interface? (i : Interfaces) (name : String) : Option Interface :=
  i.interfaces.find? (·.name == name)

/-- The table class with a name; the last one of the name counts. -/
def table? (i : Interfaces) (name : String) : Option TableClass :=
  i.tables.find? (·.name == name)

/-- Adds an interface. -/
def addInterface (c : Catalogue) (i : Interfaces) (d : InterfaceDeclaration) :
    Except AnnotationError Interfaces := do
  let base := (d.base.bind i.interface?).getD .root
  return { i with interfaces := (← Interface.ofDeclaration c base d) :: i.interfaces }

/-- Adds a table class. -/
def addTable (i : Interfaces) (d : TableDeclaration) : Interfaces :=
  let base := (d.base.bind i.table?).getD .root
  let interface := (d.interface.bind i.interface?).getD base.interface
  { i with tables := ⟨d.name, d.entity.or base.entity, interface⟩ :: i.tables }

/-- The interfaces and table classes of declarations in order. -/
def ofDeclarations (c : Catalogue) (interfaces : List InterfaceDeclaration)
    (tables : List TableDeclaration) : Except AnnotationError Interfaces := do
  return tables.foldl addTable (← interfaces.foldlM (addInterface c) {})

end Interfaces

/-! ## Query objects -/

/-- An interface bound to an entity. -/
structure QueryObject where
  interface : Interface
  entity : Entity
  deriving Repr

variable {δ : Type}

/-- A query object for the given entity class, or else for the interface's own. -/
def QueryObject.create (x : Library) (interface : Interface) (entity : Option String) :
    Except Failure QueryObject :=
  match entity.or interface.entity with
  | none => .error (.schema (.interfaceWithoutEntity interface.name))
  | some className =>
    match x.catalogue.describe className with
    | .ok e => .ok ⟨interface, e⟩
    | .error e => .error e.toFailure

/-- A class as it is shown to a user. -/
def shownClass (c : Catalogue) (name : String) : String :=
  "<class '" ++ (if (c.find? name).isSome then moduleName ++ "." ++ name else name) ++ "'>"

/-- A query object for the interface with a name. -/
def Interfaces.createQuery (i : Interfaces) (x : Library) (name : String)
    (entity : Option String) : Except Failure QueryObject :=
  match i.interface? name with
  | some interface => QueryObject.create x interface entity
  | none => .error (.schema (.notAnInterface (shownClass x.catalogue name)))

variable [Database δ]

/-- Runs a method that no interface declares. -/
def QueryObject.callUndeclared (x : Library) (q : QueryObject) (name : String)
    (args : List Value) : Op δ Value :=
  if name.startsWith "_" || !followsGrammar name then throw (.noAttribute q.interface.name name)
  else invoke x q.entity name args none

/-- Calls a method of a query object. -/
def QueryObject.call (x : Library) (q : QueryObject) (name : String) (args : List Value) :
    Op δ Value :=
  match q.interface.methods.lookup name with
  | some (.body result) => return result
  | some (.dispatch many) => invoke x q.entity name args many
  | some (.sql query many) => runSql x q.entity query args many
  | some (.fixed arity) =>
    if args.length = arity then invoke x q.entity name args none else throw .wrongArity
  | none => q.callUndeclared x name args

/-! ## Tables -/

/-- A table class bound to an entity, whose table exists. -/
structure Table where
  entity : Entity
  definition : TableDefinition
  interface : Interface
  deriving Repr

/-- Creates the table of the given entity class, or else of the table class's own. -/
def TableClass.create (x : Library) (t : TableClass) (entity : Option String) : Op δ Table := do
  match entity.or t.entity with
  | none => throw (.schema (.tableWithoutEntity t.name))
  | some className =>
    let e ← Op.describing (x.catalogue.describe className)
    return ⟨e, ← createTable x e, t.interface⟩

/-- A query object of a table. -/
def Table.query (x : Library) (t : Table) : Except Failure QueryObject :=
  QueryObject.create x t.interface (some t.entity.className)

end EntityMap
