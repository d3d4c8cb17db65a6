import EntityMap.Method.Query
import EntityMap.Schema.Entity
import EntityMap.Text.Case
import EntityMap.Text.Quoted

/-!
# Criteria of a statement

`Criteria` are the terms, the words between them and the order that a method name states, or that
are put together by hand. `Criteria.compile` looks the fields up in an entity's columns and gives
a `Selection`: the columns compared in order with one parameter each (`Filter`) and the order of
the rows. `Selection.suffix` is the text after the table's name.
-/

namespace EntityMap

open Text

/-! ## Compiled criteria -/

/-- The rows that a statement is about. -/
inductive Filter
  | all
  /-- The first column equals its parameter, and so on for the others, each after its word. -/
  | equals (first : String) (rest : List (String × String))
  deriving DecidableEq, Repr

/-- A column compared with a parameter. -/
def comparison (column : String) : String := identifier column ++ " = ?"

/-- A comparison after its word. -/
def joinedComparison (word column : String) : String := " " ++ word ++ " " ++ comparison column

/-- The text of the filter; it is empty for all rows. -/
def Filter.text : Filter → String
  | all => ""
  | equals first rest =>
    rest.foldl (fun s r => s ++ joinedComparison r.1 r.2) (comparison first)

/-- The columns compared, in order. -/
def Filter.columns : Filter → List String
  | all => []
  | equals first rest => first :: rest.map (·.2)

/-- A column to order by. -/
structure SortTerm where
  column : String
  direction : Method.Direction
  deriving DecidableEq, Repr

/-- The text of an order. -/
def SortTerm.text (s : SortTerm) : String := identifier s.column ++ " " ++ s.direction.word

/-- Which rows, in which order. -/
structure Selection where
  filter : Filter
  order : Option SortTerm
  deriving DecidableEq, Repr

/-- The text of the order; it is empty without one. -/
def Selection.orderText (s : Selection) : String := s.order.elim "" (·.text)

/-- The number of parameters. -/
def Selection.paramCount (s : Selection) : Nat := s.filter.columns.length

/-- A text after its keyword, or nothing for the empty text. -/
def clause (keyword text : String) : String := if text = "" then "" else keyword ++ text

/-- The text after a table's name. -/
def Selection.suffix (s : Selection) : String :=
  clause " WHERE " s.filter.text ++ clause " ORDER BY " s.orderText

/-! ## Criteria -/

/-- Terms with the words between them, and a field to order by with a word for the direction. -/
structure Criteria where
  terms : List String
  connectors : List String
  order : Option (String × String)
  deriving DecidableEq, Repr

/-- The criteria of a method name. -/
def Method.Query.criteria (q : Method.Query) : Criteria where
  terms := q.terms
  connectors := q.connectors.map (·.word)
  order := q.orderField.map fun f => (f, q.direction.word)

/-- Why criteria do not compile. -/
inductive CriteriaError
  | fieldNotFound (field : String)
  | invalidDirection (word : String)
  | missingConnector
  deriving DecidableEq, Repr

/-- The column of a field. -/
def resolveField (columns : List (String × String)) (field : String) :
    Except CriteriaError String :=
  match columns.lookup (fieldKey field) with
  | some c => .ok c
  | none => .error (.fieldNotFound field)

/-- The terms after the first, each with its word. -/
def compileRest (columns : List (String × String)) :
    List String → List String → Except CriteriaError (List (String × String))
  | [], _ => .ok []
  | _ :: _, [] => .error .missingConnector
  | t :: ts, w :: ws => do
    let column ← resolveField columns t
    return (upper w, column) :: (← compileRest columns ts ws)

/-- The filter of a list of terms. -/
def compileTerms (columns : List (String × String)) :
    List String → List String → Except CriteriaError Filter
  | [], _ => .ok .all
  | t :: ts, words => do
    let first ← resolveField columns t
    return .equals first (← compileRest columns ts words)

/-- The direction that a word names, in small or capital letters. -/
def directionOfWord (word : String) : Except CriteriaError Method.Direction :=
  if upper word = "ASC" then .ok .asc
  else if upper word = "DESC" then .ok .desc
  else .error (.invalidDirection word)

/-- An order by a column. -/
def compileOrder (column word : String) : Except CriteriaError SortTerm := do
  return ⟨column, ← directionOfWord word⟩

/-- The criteria with their fields looked up, first the terms in order, then the order. -/
def Criteria.compile (columns : List (String × String)) (c : Criteria) :
    Except CriteriaError Selection := do
  let filter ← compileTerms columns c.terms c.connectors
  match c.order with
  | none => return ⟨filter, none⟩
  | some (field, word) =>
    return ⟨filter, some (← compileOrder (← resolveField columns field) word)⟩

end EntityMap
