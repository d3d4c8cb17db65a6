import EntityMap.Annotation.Resolution
import EntityMap.Schema.Declaration

/-!
# Annotations among declarations

The scopes in which annotations are resolved. A name means what the module holds under it, else,
for the annotations of a class, what that class holds itself under the name of a field, else what
every module knows. `Meaning.unwrap` drops the alternative of absence, and `Meaning.returnsMany`
tells whether a result so annotated is a collection.
-/

namespace EntityMap

open Annotation

namespace Annotation

/-! ## Names -/

/-- What every module knows under a name. -/
def commonMeaning? (name : String) : Option Meaning :=
  if name ∈ iteratedClasses ∨ name ∈ plainClasses then some (.known name)
  else if name ∈ functionNames then some (.object name)
  else match name with
    | "None" => some .null
    | "True" | "__debug__" => some (.bool true)
    | "False" => some (.bool false)
    | "Ellipsis" => some .ellipsis
    | "__name__" => some (.text "builtins")
    | "__package__" => some (.text "")
    | "__doc__" => some Meaning.prose
    | "__loader__" | "__spec__" => some (.object name)
    | _ => ((otherClassNames.lookup name).map .known).or
      ((speakingObjects.lookup name).map .object)

/-- What a module of entities brings in under a name. -/
def importedMeaning? (name : String) : Option Meaning :=
  if name ∈ importedClasses then some (.known name)
  else if name ∈ formNames then some (.form name)
  else if name = "List" then some .listForm
  else if name = "__name__" then some (.text moduleName)
  else if name ∈ emptyModuleNames then some .null
  else none

end Annotation

/-- What a class holds under the name of a field: a value, unless the class is no record and its
field is still unsettled. -/
def FieldRole.meaning : FieldRole → Meaning
  | plain (some v) => .ofValue v
  | plain none => .null
  | column _ | join _ => .object "Field"

/-- What a class holds under a name. -/
def ClassBody.meaning? (b : ClassBody) (name : String) : Option Meaning :=
  match b.attributes.lookup name with
  | some role => some role.meaning
  | none =>
    match name with
    | "__table_name__" => b.table.map .text
    | "__module__" => some (.text moduleName)
    | "__annotations__" =>
      some (.mapping (b.annotations.map fun a => (Meaning.text a.1, Meaning.text a.2)))
    | _ => none

namespace Catalogue

/-- What the module of a catalogue holds under a name. -/
def meaning? (c : Catalogue) (name : String) : Option Meaning :=
  if (c.find? name).isSome then some (.declared name)
  else ((c.constants.lookup name).map .ofValue).or (importedMeaning? name)

/-- What a class of a catalogue holds under a name, its own or inherited. The entities of a record
are compared by their fields, so they can be no keys. -/
def held? (c : Catalogue) (className name : String) : Option Meaning :=
  (c.find? className).bind fun cls =>
    (cls.bodies.findSome? (·.meaning? name)).or <|
      match name, cls.fields with
      | "__mro__", _ =>
        some (.tuple (cls.lineage.map Meaning.declared ++ [.known "object"]))
      | "__hash__", some _ => some .null
      | "__match_args__", some fields => some (.tuple (fields.map fun f => .text f.name))
      | _, _ => none

/-- The names that annotations outside classes may use. -/
def scope (c : Catalogue) : Scope :=
  let find (name : String) : Option Meaning := (c.meaning? name).or (commonMeaning? name)
  ⟨find, find, c.held?⟩

/-- The names that the annotations of a class may use. Functions among them do not see the names of
the module. -/
def scopeOf (c : Catalogue) (b : ClassBody) : Scope :=
  let inner (name : String) : Option Meaning := (b.meaning? name).or (commonMeaning? name)
  ⟨fun name => (c.meaning? name).or (inner name), inner, c.held?⟩

end Catalogue

/-! ## Results -/

/-- The meaning without absence, if one alternative is left. -/
def Annotation.Meaning.unwrap (m : Meaning) : Meaning :=
  match m with
  | .alternatives _ ms =>
    match ms.filter fun m => !m.isAbsence with
    | [a] => a
    | _ => m
  | _ => m

/-- A result so annotated is a collection. -/
def Annotation.Meaning.returnsMany (m : Meaning) : Bool :=
  match m.unwrap with
  | .known name | .generic name _ _ => isIterated name
  | .listForm | .listOf _ => true
  | _ => false

/-- Whether a method's result is a collection, by its annotation. Nothing is known without an
annotation, or if a name in it is not defined or its parts do not go together. -/
def returnsMany? (c : Catalogue) (typeText : Option String) :
    Except AnnotationError (Option Bool) :=
  match typeText with
  | none => .ok none
  | some s =>
    match c.scope.resolve s with
    | .ok m => .ok (some m.returnsMany)
    | .error (.undefined _) | .error .meaningless => .ok none
    | .error e => .error e

end EntityMap
