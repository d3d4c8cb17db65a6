import EntityMap.Method.Query
import EntityMap.Schema.Describe
import EntityMap.Value.Conversion

/-!
# Failures

`Failure` lists how a call can fail. Six of its cases are reported with a message
(`Failure.message?`): faults of a declaration, of the shape of a call, of a field's name, of an
argument's type, of an entity's values, and refusals of the database. The others are faults of
values that no rule of the library covers.
-/

namespace EntityMap

open Method

/-! ## Calls -/

/-- What is wrong with the shape of a call. -/
inductive CallError
  | misnamed (e : SyntaxError)
  /-- The name means a query of another verb than the wanted ones. -/
  | wrongVerb (name : String) (wanted : List Verb)
  | argumentCount (name : String) (expected given : Nat)
  /-- Not one argument where an entity is wanted. -/
  | singleArgument (name : String) (given : Nat)
  | noMapping (name : String)
  | emptyMapping (name : String)
  | invalidDirection (word : String)
  | saveNothing
  | validateNothing
  | wrongEntity (expected given : String)
  deriving DecidableEq, Repr

/-- The error as it is reported. -/
def CallError.message : CallError → String
  | misnamed e => e.message
  | wrongVerb name wanted =>
    "Method '" ++ name ++ "' is not a " ++ " or ".intercalate (wanted.map (·.word)) ++ " query"
  | argumentCount name expected given =>
    "Method '" ++ name ++ "' expects " ++ toString expected ++ " argument(s), got "
      ++ toString given
  | singleArgument name given =>
    "Method '" ++ name ++ "' expects 1 argument, got " ++ toString given
  | noMapping name =>
    "Method '" ++ name ++ "' takes a mapping of new column values as its first argument"
  | emptyMapping name => "Method '" ++ name ++ "' was given no column values to update"
  | invalidDirection word => "Invalid sort direction: " ++ word
  | saveNothing => "Cannot save None"
  | validateNothing => "Cannot validate None"
  | wrongEntity expected given => "Expected a " ++ expected ++ " entity, got " ++ given

/-! ## Entities -/

/-- A constraint that an entity does not satisfy. -/
inductive Violation
  | columnAbsent (field : String)
  | columnTaken (field shown : String)
  | joinAbsent (field : String)
  | joinTaken (field shown : String)
  deriving DecidableEq, Repr

/-- The violation as it is reported. -/
def Violation.message : Violation → String
  | columnAbsent field => "Field '" ++ field ++ "' cannot be null"
  | columnTaken field shown =>
    "Field '" ++ field ++ "' must be unique. Value '" ++ shown ++ "' already exists"
  | joinAbsent field => "Join field '" ++ field ++ "' cannot be null"
  | joinTaken field shown =>
    "Join field '" ++ field ++ "' must be unique. Value '" ++ shown ++ "' already exists"

/-! ## The database -/

/-- Why a statement is not run. -/
inductive StorageError
  /-- An operation that needs a connection for writing. -/
  | readOnly (operation : String)
  /-- The database refuses, in its own words. -/
  | refused (message : String)
  deriving DecidableEq, Repr

/-- The error as it is reported. -/
def StorageError.message : StorageError → String
  | readOnly operation => "Cannot " ++ operation ++ " on a read-only connection"
  | refused message => message

/-! ## All failures -/

/-- How a call fails. -/
inductive Failure
  | schema (e : SchemaError)
  | call (e : CallError)
  | fieldNotFound (field : String)
  /-- An argument of a type that no parameter has. -/
  | unsupportedArgument (typeName : String)
  | invalid (violations : List Violation)
  | storage (e : StorageError)
  /-- An annotation without a meaning. -/
  | typeText (e : AnnotationError)
  /-- A value without a counterpart of the wanted type. -/
  | conversion (e : ConversionError)
  /-- An integer that does not fit a parameter of the database. -/
  | integerRange
  /-- The database refuses to commit. -/
  | uncommitted (message : String)
  /-- A count is read from a reply without rows. -/
  | emptyReply
  /-- A count is read from a value that is no number. -/
  | countNotNumber
  /-- A term without a word before it. -/
  | missingConnector
  /-- A key of a mapping that is no text. -/
  | keyNotText
  /-- A key of a mapping that is no text but has parts, as bytes and moments do. -/
  | keyOfOtherParts
  /-- A value that can be no key of a registry. -/
  | notAKey
  /-- A method that the query object does not have. -/
  | noAttribute (className name : String)
  /-- A method of fixed arity is called with another number of arguments. -/
  | wrongArity
  /-- A field is set on a value that has none. -/
  | notAssignable
  /-- Fields that a new entity does not have, or lacks. -/
  | wrongFields
  /-- Entities that hold one another. -/
  | cyclic
  deriving DecidableEq, Repr

/-- The message of a failure that is reported with one. -/
def Failure.message? : Failure → Option String
  | schema e => some e.message
  | call e => some e.message
  | fieldNotFound field => some ("Field not found: " ++ field)
  | unsupportedArgument typeName => some ("Unsupported type for parameter: " ++ typeName)
  | invalid violations =>
    some ("Entity validation failed: " ++ ", ".intercalate (violations.map (·.message)))
  | storage e => some e.message
  | noAttribute className name =>
    some ("'" ++ className ++ "' object has no attribute '" ++ name ++ "'")
  | _ => none

/-- The failure of describing a class. -/
def DescribeError.toFailure : DescribeError → Failure
  | schema e => .schema e
  | typeText e => .typeText e

end EntityMap
