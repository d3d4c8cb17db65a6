import EntityMap.Text.DecimalDigit

/-!
# Arguments of the command line

The command line has three commands:

    ddl ENTITY...
    init DATABASE ENTITY...
    explain ENTITY METHOD

`-v` or `--verbose` may stand before the command, `-h` or `--help` anywhere; long names may be
cut short. After `--` no word is an option. `Request.ofArguments` reads the words from left to
right: help is given as soon as it is asked for, and a word that cannot be used spoils the rest.
-/

namespace EntityMap.CommandLine

/-! ## Options -/

/-- What an option asks for. -/
inductive OptionKind
  | help
  | verbose
  deriving DecidableEq, Repr

/-- The options that may stand at a place. -/
structure OptionSet where
  short : List (Char × OptionKind)
  long : List (String × OptionKind)

/-- The options before the command. -/
def generalOptions : OptionSet where
  short := [('h', .help), ('v', .verbose)]
  long := [("help", .help), ("verbose", .verbose)]

/-- The options after the command. -/
def commandOptions : OptionSet where
  short := [('h', .help)]
  long := [("help", .help)]

/-- What a word can be. -/
inductive WordKind
  | argument
  | options (kinds : List OptionKind)
  /-- An option with a value, which none takes. -/
  | valued
  /-- The beginning of several options. -/
  | ambiguous
  | unknown
  deriving DecidableEq, Repr

/-- The word is a negative number, possibly with a fraction. -/
def isNegativeNumber (cs : List Char) : Bool :=
  let isDigit (c : Char) : Bool := (Text.digitValue? c).isSome
  match cs.dropWhile isDigit with
  | [] => !cs.isEmpty
  | '.' :: fraction => !fraction.isEmpty && fraction.all isDigit
  | _ => false

/-- A word that begins with a dash and is no option: still an argument with a space in it. -/
def otherWord (cs : List Char) : WordKind := if ' ' ∈ cs then .argument else .unknown

namespace OptionSet

/-- A word after two dashes. -/
def classifyLong (o : OptionSet) (cs : List Char) : WordKind :=
  let name := String.ofList (cs.takeWhile (· ≠ '='))
  let isValued := '=' ∈ cs
  let found (kind : OptionKind) : WordKind :=
    if isValued then .valued else .options [kind]
  match o.long.lookup name with
  | some kind => found kind
  | none =>
    match o.long.filter fun option => option.1.startsWith name with
    | [] => otherWord cs
    | [(_, kind)] => found kind
    | _ => .ambiguous

/-- Options that are written together after one dash, perhaps with an equals sign behind the
first. -/
def classifyShort (o : OptionSet) (c : Char) (more : List Char) : WordKind :=
  match o.short.lookup c with
  | none => if isNegativeNumber (c :: more) then .argument else otherWord (c :: more)
  | some kind =>
    let rest := match more with
      | '=' :: value => value
      | _ => more
    match rest.mapM (o.short.lookup ·) with
    | some kinds => if kinds.isEmpty && !more.isEmpty then .valued else .options (kind :: kinds)
    | none => .valued

/-- What a word is. -/
def classify (o : OptionSet) (word : String) : WordKind :=
  match word.toList with
  | '-' :: '-' :: cs => o.classifyLong cs
  | '-' :: c :: cs => o.classifyShort c cs
  | _ => .argument

end OptionSet

/-! ## Requests -/

/-- A command with its arguments. -/
inductive Command
  | ddl (entities : List String)
  | init (database : String) (entities : List String)
  | explain (entity method : String)
  deriving DecidableEq, Repr

/-- What a command line asks for. -/
inductive Request
  | help
  /-- The words do not fit. -/
  | unusable
  | run (command : Command)
  deriving DecidableEq, Repr

/-- The words after a command that are no options. -/
structure Rest where
  /-- No other word is unknown. -/
  isKnown : Bool := true
  /-- The words before the first `--`. -/
  before : List String := []
  /-- The words after it. -/
  after : List String := []
  deriving DecidableEq, Repr

/-- Reads the words after a command. -/
def readRest : List String → Except Request Rest
  | [] => .ok {}
  | w :: ws =>
    if w = "--" then .ok { after := ws }
    else match commandOptions.classify w with
      | .argument => (readRest ws).map fun r => { r with before := w :: r.before }
      | .options kinds => if .help ∈ kinds then .error .help else readRest ws
      | .valued | .ambiguous => .error .unusable
      | .unknown => (readRest ws).map fun r => { r with isKnown := false }

/-- The command of a name and its arguments. When the first `--` stands beside the database, a
second one may divide the entities. -/
def Command.of? (name : String) (r : Rest) : Option Command :=
  match name, r.before ++ r.after with
  | "ddl", e :: es => some (.ddl (e :: es))
  | "init", d :: e :: es =>
    some (.init d (if r.before.length ≤ 1 then (e :: es).erase "--" else e :: es))
  | "explain", [e, m] => some (.explain e m)
  | _, _ => none

/-- The names of the commands. -/
def commandNames : List String := ["ddl", "init", "explain"]

/-- Reads a command and its words; `known` tells whether all words before it are known. -/
def readCommand (known : Bool) (name : String) (ws : List String) : Request :=
  if name ∉ commandNames then .unusable
  else match readRest ws with
    | .error r => r
    | .ok rest =>
      match Command.of? name rest with
      | some c => if known && rest.isKnown then .run c else .unusable
      | none => .unusable

/-- Reads the words up to the command. -/
def readGeneral (known : Bool) : List String → Request
  | [] => .unusable
  | w :: ws =>
    if w = "--" then .unusable
    else match generalOptions.classify w with
      | .argument => readCommand known w ws
      | .options kinds => if .help ∈ kinds then .help else readGeneral known ws
      | .valued | .ambiguous => .unusable
      | .unknown => readGeneral false ws

/-- What a command line asks for. -/
def Request.ofArguments (words : List String) : Request :=
  if (words.takeWhile (· ≠ "--")).any fun w => generalOptions.classify w = .ambiguous then
    .unusable
  else readGeneral true words

end EntityMap.CommandLine
