import EntityMap.Operation.Hydration
import EntityMap.Sql.Statement

/-!
# Connections

An operation runs in a `World`: the records of the program, a database, and the list of what has
been done to the database so far. `withConnection` carries out a body on a connection. A database
in a file gets a connection of its own, which is closed afterwards; a database in memory has one
connection, opened when it is first needed and kept. Whatever the body does is committed if it
ends, and rolled back if it fails or the database refuses to commit.

The database is any type of class `Database`; nothing here depends on how it answers.
-/

namespace EntityMap

/-! ## Databases -/

/-- What a database answers to a statement. -/
structure Reply where
  columns : List String := []
  rows : List (List Value) := []
  /-- The number of rows that were changed. -/
  changed : Int := 0
  /-- The number of the row that was inserted last. -/
  rowId : Int := 1
  deriving Repr, Inhabited

/-- Why a database does not run a statement. -/
inductive StatementError
  | refused (message : String)
  /-- A parameter is an integer that the database cannot hold. -/
  | integerRange
  deriving DecidableEq, Repr

/-- The failure of a statement. -/
def StatementError.toFailure : StatementError → Failure
  | refused message => .storage (.refused message)
  | integerRange => .integerRange

/-- A database that statements can be run on. -/
class Database (δ : Type) where
  /-- Opens a connection, on which foreign keys are enforced or not. -/
  connect : Bool → δ → Except String Unit × δ
  /-- Runs a statement; the records tell what the entities among the parameters are. -/
  run : Records → Statement → List Value → δ → Except StatementError Reply × δ
  /-- Makes what was done last, unless the database refuses. -/
  commit : δ → Except String Unit × δ
  rollback : δ → δ
  /-- Closes the only connection of a database in memory. -/
  discard : δ → δ

/-! ## Worlds -/

/-- Something that is done to a database. -/
inductive Event
  | opened (timeout : Value)
  | foreignKeys (enforced : Bool)
  | ran (statement : Statement) (parameters : List Value)
  | committed
  /-- A commit that was refused. -/
  | uncommitted
  | rolledBack
  | closed
  deriving Repr, Inhabited

/-- A remark that is no failure. -/
inductive Warning
  /-- A key of a join names several rows. -/
  | severalRows (field : String) (count : Nat) (table column shown : String)
  deriving DecidableEq, Repr

/-- The remark as it is logged. -/
def Warning.message : Warning → String
  | severalRows field count table column shown =>
    "Join field '" ++ field ++ "' matched " ++ toString count ++ " rows in " ++ table ++ " on "
      ++ column ++ " = " ++ shown ++ "; using the first"

/-- Everything that an operation can change. -/
structure World (δ : Type) where
  records : Records := []
  database : δ
  /-- The connection of a database in memory is open. -/
  isOpen : Bool := false
  /-- What has been done to the database, the first first. -/
  events : List Event := []
  warnings : List Warning := []

/-- A step that reads and changes a world, and may fail; what it has done stays done. -/
abbrev Op (δ α : Type) := ExceptT Failure (StateM (World δ)) α

/-- Where a database is. -/
inductive Location
  | memory
  | file
  deriving DecidableEq, Repr

/-- How connections are made. -/
structure Management where
  location : Location
  timeout : Value
  foreignKeys : Bool
  deriving Repr

/-- What every operation of a program is carried out with. -/
structure Library where
  catalogue : Catalogue
  management : Management
  validateOnSave : Bool := true
  deriving Repr

variable {δ α : Type}

/-- A result as a step. -/
def Op.ofResult (r : Except Failure α) : Op δ α := fun w => (r, w)

/-- A result of describing as a step. -/
def Op.describing (r : Except DescribeError α) : Op δ α :=
  Op.ofResult (r.mapError DescribeError.toFailure)

/-- The records as they are. -/
def Op.records : Op δ Records := fun w => (.ok w.records, w)

/-- Adds a record and gives its entity. -/
def Op.addRecord (r : Record) : Op δ Value := fun w =>
  (.ok (.entity w.records.length), { w with records := w.records ++ [r] })

/-- Sets a field of a value, which must be an entity. -/
def Op.setField (v : Value) (field : String) (new : Value) : Op δ Unit := fun w =>
  match v with
  | .entity ref => (.ok (), { w with records := w.records.set ref field new })
  | _ => (.error .notAssignable, w)

/-- Logs a remark. -/
def Op.warn (warning : Warning) : Op δ Unit := fun w =>
  (.ok (), { w with warnings := w.warnings ++ [warning] })

/-- The world after an event. -/
def World.after (w : World δ) (e : Event) : World δ := { w with events := w.events ++ [e] }

variable [Database δ]

/-! ## Opening and closing -/

/-- Opens a connection. -/
def openConnection (m : Management) : Op δ Unit := fun w =>
  let w := w.after (.opened m.timeout)
  match Database.connect m.foreignKeys w.database with
  | (.ok (), d) =>
    (.ok (), { w.after (.foreignKeys m.foreignKeys) with database := d, isOpen := true })
  | (.error message, d) => (.error (.storage (.refused message)), { w with database := d })

/-- Opens a connection unless the one of a database in memory is open. -/
def ensureOpen (m : Management) : Op δ Unit := fun w =>
  if m.location = .memory ∧ w.isOpen then (.ok (), w) else openConnection m w

/-- The world after a commit. -/
def World.commit (w : World δ) : World δ :=
  { w.after .committed with database := (Database.commit w.database).2 }

/-- The world after a commit that was refused. -/
def World.uncommitted (w : World δ) : World δ :=
  { w.after .uncommitted with database := (Database.commit w.database).2 }

/-- Commits. -/
def commitWork : Op δ Unit := fun w =>
  match (Database.commit w.database).1 with
  | .ok () => (.ok (), w.commit)
  | .error message => (.error (.uncommitted message), w.uncommitted)

/-- Carries out a body and commits what it has done. -/
def committing (body : Op δ α) : Op δ α := do
  let a ← body
  commitWork
  return a

/-- Rolls back. -/
def World.rollback (w : World δ) : World δ :=
  { w.after .rolledBack with database := Database.rollback w.database }

/-- Leaves a connection; that of a file is closed. -/
def World.leave (m : Management) (w : World δ) : World δ :=
  match m.location with
  | .memory => w
  | .file => { w.after .closed with isOpen := false }

/-- Carries out a body on a connection, and commits it or rolls it back as a whole. -/
def withConnection (m : Management) (body : Op δ α) : Op δ α := fun w =>
  match ensureOpen m w with
  | (.error f, w) => (.error f, w)
  | (.ok (), w) =>
    match committing body w with
    | (.ok a, w) => (.ok a, w.leave m)
    | (.error f, w) => (.error f, w.rollback.leave m)

/-- Closes the connection of a database in memory, if it is open. -/
def closeShared (m : Management) : Op δ Unit := fun w =>
  match m.location, w.isOpen with
  | .memory, true =>
    (.ok (), { w.after .closed with database := Database.discard w.database, isOpen := false })
  | _, _ => (.ok (), w)

/-! ## Statements -/

/-- Runs a statement with its parameters. -/
def runStatement (s : Statement) (parameters : List Value) : Op δ Reply := fun w =>
  match Database.run w.records s parameters w.database with
  | (r, d) =>
    (r.mapError StatementError.toFailure, { w.after (.ran s parameters) with database := d })

/-- A connection that is open, for writing or for reading only. -/
structure Connection where
  writable : Bool
  deriving DecidableEq, Repr

/-- The rows of a reply with the names of their columns. -/
def Reply.fetched (r : Reply) : List Row := r.rows.map fun cells => .fetched (r.columns.zip cells)

/-- A count is positive. -/
def isPositive (v : Value) : Except Failure Bool :=
  if v.isNumber then .ok (v.compareNumbers? (.int 0) == some .gt) else .error .countNotNumber

/-- The first value of the first row is positive. -/
def Reply.countsAny (r : Reply) : Except Failure Bool :=
  match r.rows with
  | (v :: _) :: _ => isPositive v
  | _ => .error .emptyReply

/-- The rows that a statement returns. -/
def queryRows (s : Statement) (parameters : List Value) : Op δ (List Row) := do
  return (← runStatement s parameters).fetched

/-- Whether a counting statement counts any row. -/
def queryAny (s : Statement) (parameters : List Value) : Op δ Bool := do
  Op.ofResult (← runStatement s parameters).countsAny

namespace Connection

/-- Refuses an operation on a connection for reading. -/
def checkWritable (k : Connection) (operation : String) : Op δ Unit :=
  if k.writable then return () else throw (.storage (.readOnly operation))

/-- Inserts a row and gives its number. -/
def insert (k : Connection) (table : String) (values : List (String × Value)) : Op δ Int := do
  k.checkWritable "insert"
  return (← runStatement (.insert table (values.map (·.1))) (values.map (·.2))).rowId

/-- Sets columns of the rows of a condition and gives their number. -/
def update (k : Connection) (table : String) (values : List (String × Value))
    (condition : Condition) (parameters : List Value) : Op δ Int := do
  k.checkWritable "update"
  return (← runStatement (.update table (values.map (·.1)) condition)
    (values.map (·.2) ++ parameters)).changed

/-- Deletes the rows of a condition and gives their number. -/
def delete (k : Connection) (table : String) (condition : Condition) (parameters : List Value) :
    Op δ Int := do
  k.checkWritable "delete"
  return (← runStatement (.delete table condition) parameters).changed

/-- Runs a statement and gives the number of rows that it changed. -/
def execute (_ : Connection) (s : Statement) (parameters : List Value) : Op δ Int := do
  return (← runStatement s parameters).changed

end Connection

/-- Carries out a body on a connection for reading. -/
def reading (m : Management) (body : Connection → Op δ α) : Op δ α :=
  withConnection m (body ⟨false⟩)

/-- Carries out a body on a connection for writing. -/
def writing (m : Management) (body : Connection → Op δ α) : Op δ α :=
  withConnection m (body ⟨true⟩)

end EntityMap
