import EntityMap.Schema.Error
import EntityMap.Text.Case
import EntityMap.Text.Quoted
import EntityMap.Value.Conversion

/-!
# Declared defaults

A default is declared as a text. `Literal.ofDefault` reads it as the literal that stands after
`DEFAULT` in the definition of a table, and `parseDefault` as the field's value that a stand-in
for an absent relation carries. The first takes blanks off the text before it reads a number.
-/

namespace EntityMap

open Number Text

/-- A literal after `DEFAULT`. -/
inductive Literal
  | text (s : String)
  | int (i : Int)
  | real (x : Binary64)
  deriving DecidableEq, Repr

/-- The literal as SQL writes it. -/
def Literal.sql : Literal → String
  | .text s => stringLiteral s
  | .int i => toString i
  | .real x => x.text

/-- The texts that mean true, in small letters. -/
def trueWords : List String := ["true", "1"]

/-- The texts that mean false, in small letters. -/
def falseWords : List String := ["false", "0"]

/-- The literal of a default text for a column of a type. -/
def Literal.ofDefault (column : String) (type : SemanticType) (value : String) :
    Except SchemaError Literal :=
  let orInvalid (l : Option Literal) : Except SchemaError Literal :=
    match l with
    | some l => .ok l
    | none => .error (.invalidDefault column value)
  match type with
  | .text => .ok (.text value)
  | .boolean =>
    let word := lower (strip value)
    orInvalid (if word ∈ trueWords then some (.int 1)
      else if word ∈ falseWords then some (.int 0) else none)
  | .integer | .bigint | .timestamp | .entity => orInvalid ((intOfText? (strip value)).map .int)
  | .real => orInvalid ((realOfText? (strip value)).map .real)
  | .blob => .error (.unsupportedDefault type column)

/-- The field's value of a default text for a column of a type. -/
def parseDefault (column : String) (type : SemanticType) (value : String) :
    Except SchemaError Value :=
  let orInvalid (v : Option Value) : Except SchemaError Value :=
    match v with
    | some v => .ok v
    | none => .error (.invalidDefault column value)
  match type with
  | .boolean => .ok (.bool (lower (strip value) ∈ trueWords))
  | .real => orInvalid ((realOfText? value).map .real)
  | .integer | .bigint | .timestamp | .entity => orInvalid ((intOfText? value).map .int)
  | .text | .blob => .ok (.text value)

end EntityMap
