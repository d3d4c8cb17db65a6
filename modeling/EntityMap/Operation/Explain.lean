import EntityMap.Failure
import EntityMap.Sql.Statement

/-!
# Explaining

`explain` gives the SQL that a query comes to for an entity, with a mark for each value. An
insertion is shown for an entity all of whose fields are set; an update whose name states no
fields shows that its columns come with the call.
-/

namespace EntityMap

open Method

/-- The failure of compiling criteria. -/
def CriteriaError.toFailure : CriteriaError → Failure
  | fieldNotFound field => .fieldNotFound field
  | invalidDirection word => .call (.invalidDirection word)
  | missingConnector => .missingConnector

/-- The columns and order of rows of a query. -/
def Query.compile (e : Entity) (q : Method.Query) : Except Failure Selection :=
  (q.criteria.compile e.fieldColumns).mapError CriteriaError.toFailure

/-- The column of a field to set. -/
def Entity.settable (e : Entity) (field : String) : Except Failure String :=
  (resolveField e.fieldColumns field).mapError CriteriaError.toFailure

/-- The columns that the insertion of an entity with all fields set names: those that the
database does not count up, and the targets of joins that are none of them. -/
def Entity.insertedColumns (e : Entity) : List String :=
  let plain := (e.columns.filter fun c => !c.autoIncrement).map (·.name)
  plain ++ (e.joins.filter fun j => j.target ∉ plain).map (·.target)

/-- The columns that an update sets, each with a mark: those that its name states, or as many as
come with the call. -/
def shownAssignments (e : Entity) (q : Method.Query) : Except Failure String :=
  if q.setFields.isEmpty then .ok "<column> = ?, ..."
  else (q.setFields.mapM e.settable).map assignments

/-- The SQL that a query comes to. -/
def explain (e : Entity) (q : Method.Query) : Except Failure String := do
  let rows := (← Query.compile e q).suffix
  let table := Text.identifier e.table
  match q.verb with
  | .save =>
    return "INSERT INTO " ++ table ++ " (" ++ identifiers e.insertedColumns
      ++ ") VALUES (" ++ parameters e.insertedColumns.length ++ ")"
  | .find | .findAll => return "SELECT * FROM " ++ table ++ rows
  | .exist => return "SELECT COUNT(*) FROM " ++ table ++ rows
  | .delete => return "DELETE FROM " ++ table ++ rows
  | .update => return "UPDATE " ++ table ++ " SET " ++ (← shownAssignments e q) ++ rows

end EntityMap
