import EntityMap.Engine.Table
import EntityMap.Sql.FilterText
import EntityMap.Storage.Connection

/-!
# The engine

A database that keeps its tables in memory and runs the statements of this library. A statement
that fails changes nothing; `rollback` returns to the last commit. Names of tables and columns
are the same if they differ in the case of ASCII letters only. A name between double marks that
is no column counts as a text.

Foreign keys are checked after each statement as a whole.
-/

namespace EntityMap.Engine

/-! ## Contents -/

/-- The tables of a database. -/
abbrev Contents := List StoredTable

/-- The table with a name. -/
def findTable (d : Contents) (name : String) : Except EngineError StoredTable :=
  match d.find? fun t => sameName t.definition.name name with
  | some t => .ok t
  | none => .error (.noTable name)

/-- Puts a changed table in its place. -/
def putTable (d : Contents) (t : StoredTable) : Contents :=
  d.map fun u => if sameName u.definition.name t.definition.name then t else u

/-! ## Parameters -/

/-- The cell of a parameter. -/
def bindParameter (rs : Records) (position : Nat) (v : Value) :
    Except StatementError Cell :=
  match v with
  | .null | .real .nan => .ok .null
  | .bool b => .ok (.int (if b then 1 else 0))
  | .int i => if fitsCell i then .ok (.int i) else .error .integerRange
  | .real x => .ok (.real x)
  | .text s => .ok (.text s)
  | .bytes bs | .buffer bs => .ok (.blob bs)
  | .moment t => .ok (.text t.text)
  | v => .error (.refused (EngineError.parameterType position (rs.typeName v)).message)

/-- An error of the engine as one of a statement. -/
def refuse {α : Type} (r : Except EngineError α) : Except StatementError α :=
  r.mapError fun e => .refused e.message

/-- The cells of parameters, of which a statement uses so many. -/
def bindParameters (rs : Records) (used : Nat) (vs : List Value) :
    Except StatementError (List Cell) :=
  if vs.length = used then vs.zipIdx.mapM fun p => bindParameter rs (p.2 + 1) p.1
  else refuse (.error (.parameterCount used vs.length))

/-! ## Conditions -/

/-- A row's cell in a column equals a parameter. -/
def holds (t : StoredTable) (r : StoredRow) (column : String) (parameter : Cell) : Bool :=
  match t.columnIndex? column with
  | some i =>
    (r.cells[i]?.getD .null).sameValue
      (parameter.forComparison ((t.columns[i]?).elim .none affinity))
  | none => (Cell.text column).sameValue parameter

/-- The groups of comparisons that `OR` separates, the first of which continues `current`. -/
def orGroups (current : List (String × Cell)) :
    List (String × String) → List Cell → List (List (String × Cell))
  | (word, column) :: rest, p :: ps =>
    if word = "OR" then current :: orGroups [(column, p)] rest ps
    else orGroups (current ++ [(column, p)]) rest ps
  | _, _ => [current]

/-- A row satisfies a condition: all comparisons of one group hold. -/
def satisfies (t : StoredTable) (f : Filter) (parameters : List Cell) (r : StoredRow) : Bool :=
  match f, parameters with
  | .equals first rest, p :: ps =>
    (orGroups [(first, p)] rest ps).any fun g => g.all fun c => holds t r c.1 c.2
  | _, _ => true

/-- The rows of a condition. -/
def matching (t : StoredTable) (f : Filter) (parameters : List Cell) : List StoredRow :=
  t.rows.filter (satisfies t f parameters)

/-- The rows in an order; rows that are alike stay in the order of their numbers. -/
def ordered (t : StoredTable) (order : Option SortTerm) (rows : List StoredRow) :
    List StoredRow :=
  match order.bind fun o => (t.columnIndex? o.column).map fun i => (o.direction, i) with
  | none => rows
  | some (direction, i) =>
    rows.mergeSort fun r s =>
      let o := (r.cells[i]?.getD .null).compare (s.cells[i]?.getD .null)
      match direction with
      | .asc => o != .gt
      | .desc => o != .lt

/-! ## Foreign keys -/

/-- The table and the place of the column that a foreign key refers to. -/
def referenced (d : Contents) (child : StoredTable) (k : ForeignKey) :
    Except EngineError (StoredTable × Nat) := do
  let parent ← match d.find? fun t => sameName t.definition.name k.table with
    | some t => .ok t
    | none => .error (.noTable ("main." ++ k.table))
  match parent.columnIndex? k.references with
  | some i =>
    if ((parent.columns[i]?).map isUnique).getD false then return (parent, i)
    else .error (.keyMismatch child.definition.name k.table)
  | none => .error (.keyMismatch child.definition.name k.table)

/-- Foreign keys of a table, the last of which is looked at first, refer to columns that name
rows. -/
def checkReferences (d : Contents) (t : StoredTable) (keys : List ForeignKey) :
    Except EngineError Unit :=
  keys.reverse.forM fun k => (referenced d t k).map fun _ => ()

/-- A row's foreign key is absent or names a row. -/
def keyResolves (t : StoredTable) (r : StoredRow) (k : ForeignKey) (parent : StoredTable)
    (i : Nat) : Bool :=
  match (t.columnIndex? k.column).bind (r.cells[·]?) with
  | none | some .null => true
  | some c =>
    let wanted := c.store ((parent.columns[i]?).elim .none affinity)
    parent.rows.any fun s => ((s.cells[i]?).getD .null).sameValue wanted

/-- All foreign keys of a table's rows resolve. -/
def keysResolve (d : Contents) (t : StoredTable) : Bool :=
  t.definition.foreignKeys.all fun k =>
    match referenced d t k with
    | .ok (parent, i) => t.rows.all fun r => keyResolves t r k parent i
    | .error _ => true

/-- The contents if all foreign keys resolve. -/
def settled (enforcing : Bool) (d : Contents) : Except EngineError Contents :=
  if enforcing && !d.all (keysResolve d) then .error .foreignKey else .ok d

/-- The foreign keys that refer to a table, the last declared first. -/
def referring (d : Contents) (t : StoredTable) : List (StoredTable × ForeignKey) :=
  (d.flatMap fun child =>
    (child.definition.foreignKeys.filter fun k => sameName k.table t.definition.name).map
      fun k => (child, k)).reverse

/-- Foreign keys refer to columns that name rows. -/
def checkReferring (d : Contents) (keys : List (StoredTable × ForeignKey)) :
    Except EngineError Unit :=
  keys.forM fun p => (referenced d p.1 p.2).map fun _ => ()

/-! ## Statements -/

/-- A default that cannot be written. -/
def unwritable (c : ColumnDefinition) : Bool :=
  match c.default with
  | some (.real (.infinite true)) => true
  | _ => false

/-- Checks the columns of a new table in order; a table that is there is checked less. -/
def checkColumns (known : Bool) (seen : List String) :
    List ColumnDefinition → Except EngineError Unit
  | [] => .ok ()
  | c :: cs =>
    if !known && seen.any (sameName c.name) then .error (.duplicateColumn c.name)
    else if unwritable c then .error (.syntaxNear "inf")
    else checkColumns known (c.name :: seen) cs

/-- Creates a table unless it is there. -/
def create (d : Contents) (definition : TableDefinition) : Except EngineError Contents := do
  let known := d.any fun t => sameName t.definition.name definition.name
  if (Row.foldAscii definition.name).startsWith "sqlite_" then
    throw (.reservedName definition.name)
  checkColumns known [] definition.columns
  return if known then d else d ++ [{ definition := definition }]

/-- The places of the columns that an insertion names. -/
def insertedPlaces (t : StoredTable) (table : String) (columns : List String) :
    Except EngineError (List Nat) :=
  columns.mapM fun c =>
    match t.columnIndex? c with
    | some i => .ok i
    | none => .error (.noColumnNamed table c)

/-- The places of the columns that an update names. -/
def updatedPlaces (t : StoredTable) (columns : List String) : Except EngineError (List Nat) :=
  columns.mapM fun c =>
    match t.columnIndex? c with
    | some i => .ok i
    | none => .error (.noColumn c)

/-- Inserts a row. -/
def runInsert (rs : Records) (enforcing : Bool) (d : Contents) (table : String)
    (columns : List String) (parameters : List Value) :
    Except StatementError (Int × Contents) := do
  let t ← refuse (findTable d table)
  let places ← refuse (insertedPlaces t table columns)
  if enforcing then refuse (checkReferences d t t.definition.foreignKeys)
  let cells ← bindParameters rs columns.length parameters
  let (id, t) ← refuse (t.insert (t.newCells (places.zip cells)))
  return (id, ← refuse (settled enforcing (putTable d t)))

/-- The foreign keys of a table that an update of some columns can break. -/
def touchedKeys (t : StoredTable) (columns : List String) : List ForeignKey :=
  t.definition.foreignKeys.filter fun k =>
    sameName k.table t.definition.name || columns.any (sameName k.column)

/-- An update of some columns can break a foreign key. -/
def touchesKeys (d : Contents) (t : StoredTable) (columns : List String) : Bool :=
  (t.definition.foreignKeys.any fun k => columns.any (sameName k.column))
    || (referring d t).any fun p => columns.any (sameName p.2.references)

/-- Updates the rows of a condition, one after the other. -/
def runUpdate (rs : Records) (enforcing : Bool) (d : Contents) (table : String)
    (columns : List String) (f : Filter) (parameters : List Value) :
    Except StatementError (Nat × Contents) := do
  let t ← refuse (findTable d table)
  let places ← refuse (updatedPlaces t columns)
  if enforcing && touchesKeys d t columns then
    refuse (checkReferences d t (touchedKeys t columns))
    refuse (checkReferring d (referring d t))
  let cells ← bindParameters rs (columns.length + f.columns.length) parameters
  let rows := matching t f (cells.drop columns.length)
  let t ← refuse (rows.foldlM (fun u r =>
    u.replace r (u.setCells (places.zip cells) r.cells)) t)
  return (rows.length, ← refuse (settled enforcing (putTable d t)))

/-- Deletes the rows of a condition. -/
def runDelete (rs : Records) (enforcing : Bool) (d : Contents) (table : String) (f : Filter)
    (parameters : List Value) : Except StatementError (Nat × Contents) := do
  let t ← refuse (findTable d table)
  if enforcing then
    refuse (checkReferences d t t.definition.foreignKeys)
    refuse (checkReferring d (referring d t))
  let cells ← bindParameters rs f.columns.length parameters
  let rows := matching t f cells
  let kept := t.rows.filter fun r => !satisfies t f cells r
  return (rows.length, ← refuse (settled enforcing (putTable d { t with rows := kept })))

/-- The rows of a selection, in its order. -/
def selected (rs : Records) (d : Contents) (table : String) (s : Selection)
    (parameters : List Value) : Except StatementError (StoredTable × List StoredRow) := do
  let t ← refuse (findTable d table)
  let cells ← bindParameters rs s.paramCount parameters
  return (t, ordered t s.order (matching t s.filter cells))

/-- All cells of rows, with the names of the columns. -/
def rowsReply (t : StoredTable) (rows : List StoredRow) : Reply :=
  { columns := t.columns.map (·.name), rows := rows.map fun r => r.cells.map (·.toValue) }

/-- The filter of a condition in the form that this library writes. -/
def filterOf (c : Condition) : Except EngineError Filter :=
  match c.filter? with
  | some f => .ok f
  | none => .error (.syntaxNear c.text)

/-- Runs a statement and gives the reply with the changed tables. -/
def execute (rs : Records) (enforcing : Bool) (d : Contents) (s : Statement)
    (parameters : List Value) : Except StatementError (Reply × Contents) := do
  match s with
  | .createTable definition => return ({ changed := -1 }, ← refuse (create d definition))
  | .insert table columns =>
    let (id, d) ← runInsert rs enforcing d table columns parameters
    return ({ changed := 1, rowId := id }, d)
  | .update table columns condition =>
    let f ← refuse (filterOf condition)
    if columns.isEmpty then
      refuse (.error (if f = .all then .incomplete else .syntaxNear "WHERE"))
    else
      let (n, d) ← runUpdate rs enforcing d table columns f parameters
      return ({ changed := n }, d)
  | .delete table condition =>
    let f ← refuse (filterOf condition)
    let (n, d) ← runDelete rs enforcing d table f parameters
    return ({ changed := n }, d)
  | .select table selection =>
    let (t, rows) ← selected rs d table selection parameters
    return (rowsReply t rows, d)
  | .count table selection =>
    let (_, rows) ← selected rs d table selection parameters
    return ({ columns := ["COUNT(*)"], rows := [[.int rows.length]] }, d)
  | .dump table =>
    let (t, rows) ← selected rs d table ⟨.all, none⟩ parameters
    return (rowsReply t rows, d)
  | .verbatim sql => refuse (.error (.syntaxNear sql))

end EntityMap.Engine

namespace EntityMap

/-- A database in memory. -/
structure MemoryDatabase where
  contents : Engine.Contents := []
  /-- The contents as they were last committed. -/
  committed : Engine.Contents := []
  /-- Foreign keys are enforced. -/
  enforcing : Bool := false

/-- Runs a statement. -/
def MemoryDatabase.run (rs : Records) (s : Statement) (parameters : List Value)
    (d : MemoryDatabase) : Except StatementError Reply × MemoryDatabase :=
  match Engine.execute rs d.enforcing d.contents s parameters with
  | .ok (r, contents) => (.ok r, { d with contents })
  | .error e => (.error e, d)

instance : Database MemoryDatabase where
  connect enforcing d := (.ok (), { d with enforcing })
  run := MemoryDatabase.run
  commit d := (.ok (), { d with committed := d.contents })
  rollback d := { d with contents := d.committed }
  discard _ := {}

end EntityMap
