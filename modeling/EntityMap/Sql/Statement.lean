import EntityMap.Schema.Definition
import EntityMap.Sql.Criteria

/-!
# Statements

A `Statement` is what is asked of the database, with a place for a parameter wherever a value
belongs; `Statement.text` is its SQL. The values go with it in a list: first those of the columns
that are set, then those of the condition.
-/

namespace EntityMap

open Text

/-- The condition of an update or a deletion: compiled, or a text given by the caller. -/
inductive Condition
  | filter (f : Filter)
  | verbatim (text : String)
  deriving DecidableEq, Repr

/-- The text of the condition; it is empty for all rows. -/
def Condition.text : Condition → String
  | filter f => f.text
  | verbatim text => text

/-- What is asked of the database. -/
inductive Statement
  | createTable (definition : TableDefinition)
  | select (table : String) (selection : Selection)
  | count (table : String) (selection : Selection)
  | insert (table : String) (columns : List String)
  | update (table : String) (columns : List String) (condition : Condition)
  | delete (table : String) (condition : Condition)
  /-- All rows in the order of their row numbers. -/
  | dump (table : String)
  /-- SQL given by the caller. -/
  | verbatim (sql : String)
  deriving DecidableEq, Repr

/-- Names between double marks, with commas between them. -/
def identifiers (names : List String) : String := ", ".intercalate (names.map identifier)

/-- So many parameters. -/
def parameters (n : Nat) : String := ", ".intercalate (List.replicate n "?")

/-- The text of an insertion; one without columns has defaults only. -/
def insertText (table : String) (columns : List String) : String :=
  if columns.isEmpty then "INSERT INTO " ++ identifier table ++ " DEFAULT VALUES"
  else
    "INSERT INTO " ++ identifier table ++ " (" ++ identifiers columns ++ ") VALUES ("
      ++ parameters columns.length ++ ")"

/-- Columns that are set, with commas between them. -/
def assignments (columns : List String) : String := ", ".intercalate (columns.map comparison)

/-- The SQL of a statement. -/
def Statement.text : Statement → String
  | createTable definition => definition.sql
  | select table selection => "SELECT * FROM " ++ identifier table ++ selection.suffix
  | count table selection => "SELECT COUNT(*) FROM " ++ identifier table ++ selection.suffix
  | insert table columns => insertText table columns
  | update table columns condition =>
    "UPDATE " ++ identifier table ++ " SET " ++ assignments columns
      ++ clause " WHERE " condition.text
  | delete table condition => "DELETE FROM " ++ identifier table ++ clause " WHERE " condition.text
  | dump table => "SELECT * FROM " ++ identifier table ++ " ORDER BY rowid"
  | verbatim sql => sql

/-- The rows whose column equals a parameter. -/
def Selection.byColumn (column : String) : Selection := ⟨.equals column [], none⟩

end EntityMap
