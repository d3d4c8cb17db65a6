import EntityMap.Number.Numeral
import EntityMap.Text.Blank
import EntityMap.Text.Case

/-!
# Settings

What the environment can say about the library: `Settings.ofEnvironment?` reads the variables and
takes a default for each that is not there. A busy timeout that is no number is refused.
-/

namespace EntityMap

open Number Text

/-- The settings of the library. -/
structure Settings where
  databasePath : String
  /-- The seconds to wait for a busy database. -/
  timeout : Binary64
  foreignKeys : Bool
  validateOnSave : Bool
  /-- The least importance of messages that are logged. -/
  logLevel : Nat
  deriving DecidableEq, Repr

namespace Settings

/-- The words that mean yes, in small letters. -/
def yesWords : List String := ["1", "true", "yes", "on"]

/-- A setting that is yes or no. -/
def flagOf (value : Option String) (default : Bool) : Bool :=
  match value with
  | none => default
  | some s => lower (strip s) ∈ yesWords

/-- The number of a level by its name in any letters. -/
def levelOf (name : String) : Nat :=
  match upper name with
  | "DEBUG" => 10
  | "INFO" => 20
  | "ERROR" => 40
  | "CRITICAL" => 50
  | _ => 30

/-- The timeout unless the environment names one. -/
def defaultTimeout : Binary64 := .ofInt 10

/-- The settings for the values of variables; none if the timeout is no number. -/
def ofEnvironment? (read? : String → Option String) : Option Settings := do
  let timeout ← match read? "SQLITE_TABLES_TIMEOUT" with
    | none => some defaultTimeout
    | some s => realOfText? s
  some
    { databasePath := (read? "SQLITE_TABLES_DB_PATH").getD "sqlite_tables.db"
      timeout
      foreignKeys := flagOf (read? "SQLITE_TABLES_FOREIGN_KEYS") false
      validateOnSave := flagOf (read? "SQLITE_TABLES_VALIDATE_ON_SAVE") true
      logLevel := levelOf ((read? "LOG_LEVEL").getD "WARNING") }

end Settings

end EntityMap
