import EntityMap.Value.Basic

/-!
# Expressions

An annotation is an expression over names: most are a name, a name with arguments in brackets or
alternatives between bars, but any expression may stand there.
-/

namespace EntityMap.Annotation

open Number

/-- An operator before its operand. -/
inductive UnaryOp
  | negate
  | keep
  | invert
  | not
  deriving DecidableEq, Repr

/-- An operator between two operands. -/
inductive BinaryOp
  | bar
  | caret
  | ampersand
  | shiftLeft
  | shiftRight
  | add
  | subtract
  | multiply
  | divide
  | floorDivide
  | remainder
  | matrixMultiply
  | power
  deriving DecidableEq, Repr

/-- A comparison. -/
inductive Comparison
  | equal
  | unequal
  | less
  | lessOrEqual
  | greater
  | greaterOrEqual
  | member
  | notMember
  | same
  | notSame
  deriving DecidableEq, Repr

/-- What the results of a comprehension are collected in. -/
inductive Collection
  | list
  | set
  | mapping
  | generator
  deriving DecidableEq, Repr

/-- An expression. -/
inductive Expr
  | constant (v : Value)
  | imaginary (x : Binary64)
  | ellipsis
  | name (s : String)
  /-- Texts joined to one; each is a constant or `shown`. -/
  | formatted (parts : List Expr)
  /-- The text of a value, as a conversion letter says. -/
  | shown (e : Expr) (conversion : Option Char) (layout : String)
  | tuple (elements : List Expr)
  | list (elements : List Expr)
  | set (elements : List Expr)
  | mapping (entries : List Expr)
  /-- An entry of a mapping. -/
  | entry (key value : Expr)
  /-- All elements of a value, among others. -/
  | spread (e : Expr)
  /-- All entries of a mapping, among others. -/
  | spreadEntries (e : Expr)
  | unary (op : UnaryOp) (e : Expr)
  | binary (op : BinaryOp) (left right : Expr)
  /-- The first value, if it counts as false, else the second. -/
  | both (left right : Expr)
  /-- The first value, if it counts as true, else the second. -/
  | either (left right : Expr)
  /-- Comparisons of neighbours, all of which must hold. -/
  | compare (first : Expr) (others : List (Comparison × Expr))
  | choice (condition whenTrue whenFalse : Expr)
  | member (e : Expr) (name : String)
  | item (e index : Expr)
  | slice (start stop step : Option Expr)
  | call (callee : Expr) (arguments : List Expr)
  /-- An argument given by name. -/
  | given (name : String) (e : Expr)
  /-- A function of parameters; a parameter may have a value of its own. -/
  | function (parameters : List (String × Option Expr)) (isSimple : Bool) (body : Expr)
  /-- The element for all values of the clauses' targets. -/
  | comprehension (kind : Collection) (element : Expr) (clauses : List Expr)
  /-- A clause of a comprehension. -/
  | clause (target source : Expr) (conditions : List Expr)
  /-- A value that gets a name. -/
  | bound (name : String) (e : Expr)
  deriving Repr, Inhabited

end EntityMap.Annotation
