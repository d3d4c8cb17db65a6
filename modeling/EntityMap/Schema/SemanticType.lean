/-!
# Semantic types

What a column means, `SemanticType`, and how the database declares it, `ColumnType`: truth
values are kept as integers, timestamps as big integers, and a reference to an entity as the
integer of its key.
-/

namespace EntityMap

/-- The declared type of a column in the database. -/
inductive ColumnType
  | text | integer | bigint | real | blob
  deriving DecidableEq, Repr

/-- The word of SQL for a declared type. -/
def ColumnType.word : ColumnType → String
  | .text => "TEXT"
  | .integer => "INTEGER"
  | .bigint => "BIGINT"
  | .real => "REAL"
  | .blob => "BLOB"

/-- The kinds of values that columns hold. -/
inductive SemanticType
  | text | integer | bigint | real | blob | boolean | timestamp | entity
  deriving DecidableEq, Repr

namespace SemanticType

/-- The name of a semantic type. -/
def name : SemanticType → String
  | text => "text"
  | integer => "integer"
  | bigint => "bigint"
  | real => "real"
  | blob => "blob"
  | boolean => "boolean"
  | timestamp => "timestamp"
  | entity => "entity"

/-- All semantic types. -/
def all : List SemanticType :=
  [text, integer, bigint, real, blob, boolean, timestamp, entity]

/-- The semantic type with a name. -/
def ofName? (s : String) : Option SemanticType :=
  all.find? (·.name == s)

/-- The declared type of a column of this semantic type. -/
def columnType : SemanticType → ColumnType
  | text => .text
  | integer | boolean | entity => .integer
  | bigint | timestamp => .bigint
  | real => .real
  | blob => .blob

/-- Columns of this type are written as integers. -/
def isIntegral : SemanticType → Bool
  | integer | bigint | timestamp | entity => true
  | _ => false

end SemanticType

end EntityMap
