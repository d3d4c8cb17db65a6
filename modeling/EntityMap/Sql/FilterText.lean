import EntityMap.Sql.Statement

/-!
# Reading conditions

`Filter.ofText?` reads the text of a condition: columns between double marks, each compared with
a parameter, with `AND` or `OR` between the comparisons. The empty text is the condition of all
rows.
-/

namespace EntityMap

open Text

/-- Reads a comparison off the front: its column and what follows. -/
def readComparison (cs : List Char) : Option (String × List Char) := do
  let (column, rest) ← unquote '"' cs
  match rest with
  | ' ' :: '=' :: ' ' :: '?' :: rest => some (String.ofList column, rest)
  | _ => none

/-- Reads the comparisons after the first, at most `fuel` of them. -/
def readJoined : Nat → List Char → Option (List (String × String))
  | _, [] => some []
  | 0, _ => none
  | fuel + 1, ' ' :: 'A' :: 'N' :: 'D' :: ' ' :: cs => do
    let (column, rest) ← readComparison cs
    return ("AND", column) :: (← readJoined fuel rest)
  | fuel + 1, ' ' :: 'O' :: 'R' :: ' ' :: cs => do
    let (column, rest) ← readComparison cs
    return ("OR", column) :: (← readJoined fuel rest)
  | _, _ => none

/-- Reads the text of a condition. -/
def Filter.ofText? (text : String) : Option Filter :=
  if text = "" then some .all
  else do
    let (first, rest) ← readComparison text.toList
    return .equals first (← readJoined rest.length rest)

/-- The filter of a condition. -/
def Condition.filter? : Condition → Option Filter
  | filter f => some f
  | verbatim text => Filter.ofText? text

end EntityMap
