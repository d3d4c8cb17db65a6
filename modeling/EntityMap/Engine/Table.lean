import EntityMap.Engine.Cell
import EntityMap.Engine.Error
import EntityMap.Operation.Hydration
import EntityMap.Schema.Definition

/-!
# Tables of the engine

A `StoredTable` holds rows in the order of their numbers. A column that is declared `INTEGER` and
primary key is the row's number itself (`rowKey?`); other tables have numbers that do not show.
`StoredTable.insert` and `StoredTable.replace` keep the constraints of the columns, which they
check in this order: the number is an integer, no column that must be there is absent, the number
is unique, and then the unique columns are, the one that was declared last first.
-/

namespace EntityMap.Engine

open Row (foldAscii)

/-- A row of a table. -/
structure StoredRow where
  id : Int
  cells : List Cell
  deriving DecidableEq, Repr, Inhabited

/-- A table with its rows. -/
structure StoredTable where
  definition : TableDefinition
  /-- The rows in the order of their numbers. -/
  rows : List StoredRow := []
  /-- The largest number that an insertion has given, if numbers are counted up. -/
  counted : Int := 0
  deriving Repr

/-- Two names differ in the case of ASCII letters at most. -/
def sameName (a b : String) : Bool := foldAscii a == foldAscii b

/-- The largest row number. -/
def maxRowId : Int := Int.pow 2 63 - 1

/-! ## Columns -/

/-- The column is the row's number. -/
def isRowKey (c : ColumnDefinition) : Bool := c.primaryKey && c.type == .integer

/-- No two rows have the same value in the column. -/
def isUnique (c : ColumnDefinition) : Bool := c.unique || c.primaryKey

/-- The affinity of a column. -/
def affinity (c : ColumnDefinition) : Affinity := affinityOf c.type

/-- The cell of a default. -/
def defaultCell : Literal → Cell
  | .text s => .text s
  | .int i => if fitsCell i then .int i else .real (.ofInt i)
  | .real x => if x.isFinite then .real x else .text x.text

/-- The cell of a column that an insertion leaves out. -/
def omittedCell (c : ColumnDefinition) : Cell :=
  if isRowKey c then .null else (c.default.map defaultCell).getD .null

namespace StoredTable

/-- The columns. -/
def columns (t : StoredTable) : List ColumnDefinition := t.definition.columns

/-- The place of a column. -/
def columnIndex? (t : StoredTable) (name : String) : Option Nat :=
  t.columns.findIdx? fun c => sameName c.name name

/-- The place of the column that is the row's number. -/
def rowKey? (t : StoredTable) : Option Nat := t.columns.findIdx? isRowKey

/-- Row numbers are counted up and never used again. -/
def countsUp (t : StoredTable) : Bool := t.columns.any (·.autoIncrement)

/-! ## Numbers -/

/-- The largest number of a row. -/
def lastId? (t : StoredTable) : Option Int := (t.rows.getLast?).map (·.id)

/-- The number for a row that does not bring one. -/
def nextId (t : StoredTable) : Except EngineError Int :=
  let next := (t.lastId?.map (· + 1)).getD 1
  let next := if t.countsUp then max next (t.counted + 1) else next
  if maxRowId < next then .error .full else .ok next

/-- The number that a row's cells bring, or the next one. -/
def idFor (t : StoredTable) (cells : List Cell) : Except EngineError Int :=
  match t.rowKey?.bind (cells[·]?) with
  | none | some .null => t.nextId
  | some (.int i) => .ok i
  | some _ => .error .datatypeMismatch

/-- The row of cells, with its number in its place. -/
def rowOf (t : StoredTable) (id : Int) (cells : List Cell) : StoredRow :=
  match t.rowKey? with
  | some k => ⟨id, cells.set k (.int id)⟩
  | none => ⟨id, cells⟩

/-! ## Constraints -/

/-- The first column that must be there and is absent. -/
def absentColumn? (t : StoredTable) (r : StoredRow) : Option ColumnDefinition :=
  ((t.columns.zip r.cells).find? fun p => p.1.notNull && p.2.isNull).map (·.1)

/-- Two rows clash in a column. -/
def clashAt (i : Nat) (r s : StoredRow) : Bool :=
  match r.cells[i]?, s.cells[i]? with
  | some a, some b => a.sameValue b
  | _, _ => false

/-- The last column in which a row has the value of another one. -/
def clash? (t : StoredTable) (others : List StoredRow) (r : StoredRow) :
    Option ColumnDefinition :=
  (t.columns.zipIdx.reverse.find? fun p =>
    isUnique p.1 && !isRowKey p.1 && others.any (clashAt p.2 r)).map (·.1)

/-- The name of the column that is the row's number. -/
def rowKeyName (t : StoredTable) : String :=
  ((t.columns.find? isRowKey).map (·.name)).getD "rowid"

/-- A row beside the other rows of its table. -/
def check (t : StoredTable) (others : List StoredRow) (r : StoredRow) :
    Except EngineError Unit :=
  match t.absentColumn? r with
  | some c => .error (.notNull t.definition.name c.name)
  | none =>
    if others.any (·.id == r.id) then .error (.notUnique t.definition.name t.rowKeyName)
    else match t.clash? others r with
      | some c => .error (.notUnique t.definition.name c.name)
      | none => .ok ()

/-! ## Changes -/

/-- Adds a row in its place. -/
def place (r : StoredRow) (rows : List StoredRow) : List StoredRow :=
  rows.takeWhile (·.id < r.id) ++ r :: rows.dropWhile (·.id < r.id)

/-- Inserts a row of cells. -/
def insert (t : StoredTable) (cells : List Cell) : Except EngineError (Int × StoredTable) := do
  let id ← t.idFor cells
  let r := t.rowOf id cells
  t.check t.rows r
  return (id, { t with rows := place r t.rows, counted := max t.counted id })

/-- The number of a row whose cells are changed. -/
def changedId (t : StoredTable) (cells : List Cell) (old : Int) : Except EngineError Int :=
  match t.rowKey?.bind (cells[·]?) with
  | none => .ok old
  | some (.int i) => .ok i
  | some _ => .error .datatypeMismatch

/-- Changes the cells of a row. -/
def replace (t : StoredTable) (old : StoredRow) (cells : List Cell) :
    Except EngineError StoredTable := do
  let id ← t.changedId cells old.id
  let others := t.rows.filter (·.id != old.id)
  let r := t.rowOf id cells
  t.check others r
  return { t with rows := place r others }

/-- The cells of a row with some of them set. -/
def setCells (t : StoredTable) (settings : List (Nat × Cell)) (cells : List Cell) : List Cell :=
  settings.foldl (fun cells s =>
    cells.set s.1 (s.2.store ((t.columns[s.1]?).elim .none affinity))) cells

/-- The cells of a new row of which some are given. -/
def newCells (t : StoredTable) (given : List (Nat × Cell)) : List Cell :=
  t.setCells given ((t.columns.map fun c => (omittedCell c).store (affinity c)))

end StoredTable

end EntityMap.Engine
