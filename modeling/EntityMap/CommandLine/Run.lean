import EntityMap.CommandLine.Arguments
import EntityMap.Engine.Engine
import EntityMap.Operation.Query
import EntityMap.Operation.Table

/-!
# Running commands

`run` carries out a command for the classes of a catalogue. An entity is named `module:Class`
(`findEntity`). The entities of a command are dealt with one after the other, and the lines
printed before a failure stay printed.
-/

namespace EntityMap.CommandLine

/-! ## Entities -/

/-- Why a text names no class. -/
inductive LoadError
  | malformed (spec : String)
  /-- A module that is named relative to another. -/
  | relative
  | noModule (shown : String)
  | noClass (module_ className : String)
  | notAClass (spec : String)
  deriving DecidableEq, Repr

/-- The error as it is reported. -/
def LoadError.message : LoadError → String
  | malformed spec => "Expected module:Class, got '" ++ spec ++ "'"
  | relative => "A relative module has no package"
  | noModule shown => "No module named " ++ shown
  | noClass module_ className => "Module '" ++ module_ ++ "' has no class '" ++ className ++ "'"
  | notAClass spec => "'" ++ spec ++ "' is not a class"

/-- Names of a module that are no classes. -/
def otherNames : List String :=
  ["Optional", "Union", "List", "__name__", "__doc__", "__package__", "__loader__", "__spec__",
   "__dict__"]

/-- A module that is missing, as it is reported: the first part of its name that is. -/
def missingModule (name : String) : String :=
  match name.splitOn "." with
  | first :: second :: _ =>
    if first = moduleName then
      "'" ++ first ++ "." ++ second ++ "'; '" ++ first ++ "' is not a package"
    else "'" ++ first ++ "'"
  | _ => "'" ++ name ++ "'"

/-- The class of a name in the module. -/
def findClass (c : Catalogue) (spec className : String) : Except LoadError String :=
  if (c.constants.lookup className).isSome then .error (.notAClass spec)
  else if (c.classNamed? className).isSome then .ok className
  else if className ∈ otherNames then .error (.notAClass spec)
  else .error (.noClass moduleName className)

/-- The class that a text names. -/
def findEntity (c : Catalogue) (spec : String) : Except LoadError String :=
  let cs := spec.toList
  let module_ := String.ofList (cs.takeWhile (· ≠ ':'))
  let className := String.ofList ((cs.dropWhile (· ≠ ':')).drop 1)
  if module_ = "" ∨ className = "" then .error (.malformed spec)
  else if module_.startsWith "." then .error .relative
  else if module_ = moduleName then findClass c spec className
  else .error (.noModule (missingModule module_))

/-! ## Commands -/

/-- Why a command ends early. -/
inductive CommandError
  | load (e : LoadError)
  | failure (f : Failure)
  deriving DecidableEq, Repr

/-- The message of an error that is reported. -/
def CommandError.message? : CommandError → Option String
  | load .relative => none
  | load e => some e.message
  | failure f => f.message?

/-- The description of the class that a text names. -/
def loadEntity (c : Catalogue) (spec : String) : Except CommandError Entity := do
  let className ← (findEntity c spec).mapError .load
  (c.describe className).mapError fun e => .failure e.toFailure

/-- What has been printed, and how a command ended. -/
structure Output where
  lines : List String := []
  error : Option CommandError := none
  deriving Repr

/-- The output of one line. -/
def Output.ofLine : Except CommandError String → Output
  | .ok line => ⟨[line], none⟩
  | .error e => ⟨[], some e⟩

/-- Prints a line for each text until one fails. -/
def printEach {σ : Type} (line : String → σ → Except CommandError String × σ) :
    List String → σ → Output
  | [], _ => {}
  | spec :: specs, s =>
    match line spec s with
    | (.error e, _) => ⟨[], some e⟩
    | (.ok text, s) =>
      let rest := printEach line specs s
      ⟨text :: rest.lines, rest.error⟩

/-- The definition of an entity's table. -/
def ddlLine (c : Catalogue) (spec : String) : Except CommandError String := do
  let e ← loadEntity c spec
  let t ← (c.defineTable e).mapError fun e => .failure e.toFailure
  return t.sql

/-- Creates an entity's table in a database. -/
def initLine (x : Library) (database spec : String) (w : World MemoryDatabase) :
    Except CommandError String × World MemoryDatabase :=
  match loadEntity x.catalogue spec with
  | .error e => (.error e, w)
  | .ok e =>
    match createTable x e w with
    | (.ok _, w) => (.ok ("Created table '" ++ e.table ++ "' in " ++ database), w)
    | (.error f, w) => (.error (.failure f), w)

/-- The SQL of a method name for an entity. -/
def explainLine (c : Catalogue) (spec method : String) : Except CommandError String := do
  let e ← loadEntity c spec
  (do explain e (← queryNamed method)).mapError .failure

/-- Carries out a command; tables are created in a database in memory. -/
def run (c : Catalogue) : Command → Output
  | .ddl entities => printEach (fun spec u => (ddlLine c spec, u)) entities ()
  | .init database entities =>
    let x : Library := { catalogue := c, management := ⟨.memory, .int 10, false⟩ }
    printEach (initLine x database) entities { database := {} }
  | .explain entity method => .ofLine (explainLine c entity method)

/-- The text that is printed, a line for each. -/
def Output.text (o : Output) : String := String.join (o.lines.map (· ++ "\n"))

/-- The text that is printed for an error that is reported. -/
def Output.errorText (o : Output) : String :=
  match o.error.bind (·.message?) with
  | some message => "Error: " ++ message ++ "\n"
  | none => ""

end EntityMap.CommandLine
