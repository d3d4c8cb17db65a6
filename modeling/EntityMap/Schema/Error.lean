import EntityMap.Schema.SemanticType

/-!
# Errors of declarations

`SchemaError` lists what can be wrong with the declaration of an entity, of one of its columns or
joins, or of an interface for its queries, and `SchemaError.message` words each.
-/

namespace EntityMap

/-- What is wrong with a declaration. -/
inductive SchemaError
  | notAClass (shown : String)
  | notAnnotated (className : String)
  | noTableName (className : String)
  | notARecord (className : String)
  | unresolvedName (className name : String)
  | noColumns (className : String)
  | severalPrimaryKeys (className first second : String)
  | unsupportedType (shown field className : String)
  | autoIncrementWithoutKey (column : String)
  | nullableKey (column : String)
  | noTarget (field className : String)
  | noSource (field className : String)
  | noRelationship (field className relationship : String)
  | sourceNotFound (source related field : String)
  | autoIncrementType (column : String) (type : ColumnType)
  | invalidDefault (column value : String)
  | unsupportedDefault (type : SemanticType) (column : String)
  | notConstructible (className constructor : String) (missing : List String)
  | tableWithoutEntity (tableClass : String)
  | interfaceWithoutEntity (interface : String)
  | notAnInterface (shown : String)
  deriving DecidableEq, Repr

/-- Names in quotes, in a list for reading aloud. -/
def spokenList (names : List String) : String :=
  match names.map fun n => "'" ++ n ++ "'" with
  | [] => ""
  | [a] => a
  | [a, b] => a ++ " and " ++ b
  | quoted => ", ".intercalate quoted.dropLast ++ ", and " ++ quoted.getLast?.getD ""

/-- The error as it is reported. -/
def SchemaError.message : SchemaError → String
  | notAClass shown => "Expected an entity class, got " ++ shown
  | notAnnotated className => "Entity class " ++ className ++ " is not annotated with @table"
  | noTableName className => "Entity class " ++ className ++ " has no table name defined"
  | notARecord className => "Entity class " ++ className ++ " is not a dataclass"
  | unresolvedName className name =>
    "Cannot resolve field annotations of " ++ className ++ ": name '" ++ name
      ++ "' is not defined"
  | noColumns className => "Entity class " ++ className ++ " has no columns defined"
  | severalPrimaryKeys className first second =>
    "Entity class " ++ className ++ " declares more than one primary key ('" ++ first ++ "', '"
      ++ second ++ "')"
  | unsupportedType shown field className =>
    "Unsupported type: " ++ shown ++ " for field '" ++ field ++ "' in table " ++ className
  | autoIncrementWithoutKey column =>
    "Column '" ++ column ++ "' is AUTOINCREMENT but not a primary key"
  | nullableKey column => "Column '" ++ column ++ "' cannot be both nullable and a primary key"
  | noTarget field className =>
    "Field '" ++ field ++ "' in class " ++ className ++ " has no target name defined"
  | noSource field className =>
    "Field '" ++ field ++ "' in class " ++ className ++ " has no source field defined"
  | noRelationship field className relationship =>
    "Field '" ++ field ++ "' in class " ++ className
      ++ " has no relationship class defined (cannot resolve '" ++ relationship ++ "')"
  | sourceNotFound source related field =>
    "Source field '" ++ source ++ "' not found in " ++ related ++ " for join field '" ++ field
      ++ "'"
  | autoIncrementType column type =>
    "AUTOINCREMENT column '" ++ column ++ "' must be an INTEGER column, not " ++ type.word
  | invalidDefault column value =>
    "Invalid default value for column " ++ column ++ ": " ++ value
  | unsupportedDefault type column =>
    "Unsupported type for default value: " ++ type.name ++ " for column " ++ column
  | notConstructible className constructor missing =>
    "Entity class " ++ className ++ " must be constructible without arguments: " ++ constructor
      ++ ".__init__() missing " ++ toString missing.length ++ " required positional argument"
      ++ (if missing.length = 1 then "" else "s") ++ ": " ++ spokenList missing
  | tableWithoutEntity tableClass =>
    "Not able to determine the entity type of " ++ tableClass
      ++ "; parameterize it as SQLiteTable[Entity]"
  | interfaceWithoutEntity interface =>
    "Query interface " ++ interface ++ " does not name an entity type"
  | notAnInterface shown => shown ++ " is not a DynamicQuery subclass"

end EntityMap
