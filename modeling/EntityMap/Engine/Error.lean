import EntityMap.Text.Quoted

/-!
# Errors of the engine

`EngineError` lists why the engine does not run a statement.
-/

namespace EntityMap.Engine

/-- Why a statement is not run. -/
inductive EngineError
  | noTable (name : String)
  | noColumnNamed (table column : String)
  | noColumn (column : String)
  | duplicateColumn (column : String)
  | reservedName (table : String)
  | syntaxNear (word : String)
  | incomplete
  | notNull (table column : String)
  | notUnique (table column : String)
  | foreignKey
  /-- A foreign key refers to a column that does not name its rows. -/
  | keyMismatch (child parent : String)
  | datatypeMismatch
  /-- All row numbers are used up. -/
  | full
  | parameterCount (used supplied : Nat)
  | parameterType (position : Nat) (typeName : String)
  deriving DecidableEq, Repr

/-- The error in the engine's words. -/
def EngineError.message : EngineError → String
  | noTable name => "no such table: " ++ name
  | noColumnNamed table column => "table " ++ table ++ " has no column named " ++ column
  | noColumn column => "no such column: " ++ column
  | duplicateColumn column => "duplicate column name: " ++ column
  | reservedName table => "object name reserved for internal use: " ++ table
  | syntaxNear word => "near \"" ++ word ++ "\": syntax error"
  | incomplete => "incomplete input"
  | notNull table column => "NOT NULL constraint failed: " ++ table ++ "." ++ column
  | notUnique table column => "UNIQUE constraint failed: " ++ table ++ "." ++ column
  | foreignKey => "FOREIGN KEY constraint failed"
  | keyMismatch child parent =>
    "foreign key mismatch - " ++ Text.identifier child ++ " referencing " ++ Text.identifier parent
  | datatypeMismatch => "datatype mismatch"
  | full => "database or disk is full"
  | parameterCount used supplied =>
    "Incorrect number of bindings supplied. The current statement uses " ++ toString used
      ++ ", and there are " ++ toString supplied ++ " supplied."
  | parameterType position typeName =>
    "Error binding parameter " ++ toString position ++ ": type '" ++ typeName
      ++ "' is not supported"

end EntityMap.Engine
