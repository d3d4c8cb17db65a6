import EntityMap.Record

/-!
# Rows and entities

`hydrate` makes an entity from a row, column by column; a column that the row does not have
leaves its field as it is in an empty entity. `columnValues` goes the other way. Joins are left
alone by both.
-/

namespace EntityMap

/-! ## Rows -/

/-- Values under the names of columns. -/
inductive Row
  /-- A row that a statement returned. -/
  | fetched (cells : List (String × Value))
  /-- A row that the caller put together. -/
  | given (cells : List (String × Value))
  deriving Repr, Inhabited

namespace Row

/-- The names and values of a row. -/
def cells : Row → List (String × Value)
  | fetched cells | given cells => cells

/-- The row of a list of entries, the later of two with one name counting. -/
def ofEntries (entries : List (String × Value)) : Row :=
  given (distinctNames entries)

/-- A name without the difference of capital and small letters of ASCII. -/
def foldAscii (name : String) : String := String.ofList (name.toList.map Char.toLower)

/-- The value under a name. The name must be there exactly; in a row that was fetched the first
value under a name that differs in case only is taken. -/
def value? (row : Row) (name : String) : Option Value :=
  match row.cells.lookup name, row with
  | none, _ => none
  | some v, given _ => some v
  | some _, fetched cells =>
    (cells.find? fun cell => foldAscii cell.1 == foldAscii name).map (·.2)

end Row

/-! ## Entities -/

/-- The value that a column stores for a field's value. -/
def stored (v : Value) : Except Failure Value := v.toStored.mapError .conversion

/-- Sets the field of a column from a row. -/
def hydrateColumn (c : Catalogue) (rs : Records) (row : Row) (r : Record) (col : Column) :
    Except Failure Record :=
  match row.value? col.name with
  | none => .ok r
  | some raw =>
    match raw.ofStored (rs.shown c) col.type with
    | .ok v => .ok (r.set col.field v)
    | .error e => .error (.conversion e)

/-- The entity of a row. -/
def hydrate (c : Catalogue) (rs : Records) (e : Entity) (row : Row) : Except Failure Record := do
  let empty ← (Record.empty c e.className).mapError .schema
  e.columns.foldlM (hydrateColumn c rs row) empty

/-- The stored values of an entity's columns; the later of two columns of one name counts. -/
def columnValues (rs : Records) (e : Entity) (v : Value) :
    Except Failure (List (String × Value)) := do
  let cells ← e.columns.mapM fun col => do return (col.name, ← stored (rs.get v col.field))
  return distinctNames cells

end EntityMap
