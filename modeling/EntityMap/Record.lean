import EntityMap.Failure
import EntityMap.Named

/-!
# Records

The entities that a program holds are records, numbered in the order of their making
(`Records`); a field that holds an entity holds its number, so that an entity can be shared and
a change of it is seen everywhere. `Records.instantiate` makes an empty one,
`Records.construct` one with given fields, and `Records.get` reads a field of any value: what is
no entity has no fields.
-/

namespace EntityMap

/-- An entity. -/
structure Record where
  className : String
  fields : List (String × Value)
  /-- The entity stands for a relation that is absent, and carries its default key only. -/
  isPlaceholder : Bool := false
  deriving Repr, Inhabited

/-- The record with a field set. -/
def Record.set (r : Record) (field : String) (v : Value) : Record :=
  { r with fields := setNamed field v r.fields }

/-- Entities by their numbers. -/
abbrev Records := List Record

namespace Records

/-! ## Reading -/

/-- The record of a value, if it is an entity. -/
def record? (rs : Records) : Value → Option Record
  | .entity ref => rs[ref]?
  | _ => none

/-- A value's field; what is absent is null. -/
def get (rs : Records) (v : Value) (field : String) : Value :=
  (((rs.record? v).map (·.fields)).bind (·.lookup field)).getD .null

/-- The value stands for a relation that is absent. -/
def isPlaceholder (rs : Records) (v : Value) : Bool :=
  ((rs.record? v).map (·.isPlaceholder)).getD false

/-- The name of a value's type. -/
def typeName (rs : Records) : Value → String
  | .null => "NoneType"
  | .bool _ => "bool"
  | .int _ => "int"
  | .real _ => "float"
  | .text _ => "str"
  | .bytes _ => "bytes"
  | .buffer _ => "bytearray"
  | .moment _ => "datetime"
  | .list _ => "list"
  | .mapping _ => "dict"
  | .plain => "object"
  | .entity ref => ((rs[ref]?).map (·.className)).getD ""

/-- The value is an entity of a class. -/
def isInstance (c : Catalogue) (rs : Records) (v : Value) (className : String) : Bool :=
  match rs.record? v with
  | some r => c.isA r.className className
  | none => false

/-! ## Display -/

/-- The fields that an entity shows, in order. -/
def shownFields (c : Catalogue) (className : String) : List String :=
  (((c.find? className).bind (·.fields)).getD []).map (·.name)

/-- An entity as a message shows it, to a depth of `fuel`. -/
def display (c : Catalogue) (rs : Records) : Nat → Nat → String
  | 0, _ => "..."
  | fuel + 1, ref =>
    match rs[ref]? with
    | none => "..."
    | some r =>
      r.className ++ "("
        ++ ", ".intercalate ((shownFields c r.className).map fun f =>
          f ++ "=" ++ ((r.fields.lookup f).getD .null).literal (display c rs fuel))
        ++ ")"

/-- An entity as a message shows it. -/
def shown (c : Catalogue) (rs : Records) (ref : Nat) : String :=
  display c rs (rs.length + 1) ref

/-- The failure of describing a value, which is no class. -/
def notAClass (c : Catalogue) (rs : Records) (v : Value) : Failure :=
  if v.isKey then .schema (.notAClass (v.literal (shown c rs))) else .notAKey

/-! ## Writing -/

/-- Adds a record and gives its number. -/
def add (rs : Records) (r : Record) : Nat × Records := (rs.length, rs ++ [r])

/-- Sets a field of an entity. -/
def set (rs : Records) (ref : Nat) (field : String) (v : Value) : Records :=
  rs.modify ref (·.set field v)

end Records

/-! ## Laws of the fields -/

namespace Records

/-- No number comes or goes by setting a field. -/
theorem length_set (rs : Records) (ref : Nat) (field : String) (v : Value) :
    (rs.set ref field v).length = rs.length := by
  simp [set]

/-- The field that was set has the new value, the other fields of the entity keep theirs. -/
theorem get_set_self {rs : Records} {ref : Nat} (h : ref < rs.length) (field other : String)
    (v : Value) : (rs.set ref field v).get (.entity ref) other =
      if other = field then v else rs.get (.entity ref) other := by
  simp only [get, record?, set, Record.set, List.getElem?_modify, List.getElem?_eq_getElem h]
  by_cases ho : other = field <;> simp [ho, lookup_setNamed]

/-- The fields of the other entities keep their values. -/
theorem get_set_of_ne {rs : Records} {ref other : Nat} (h : other ≠ ref) (field name : String)
    (v : Value) : (rs.set ref field v).get (.entity other) name =
      rs.get (.entity other) name := by
  simp [get, record?, set, h.symm]

end Records

/-! ## New entities -/

/-- The fields of a class with their first values, those that have one. -/
def EntityClass.initialFields (cls : EntityClass) : List (String × Value) :=
  (cls.fields.getD []).filterMap fun f => f.role.initial?.map fun v => (f.name, v)

/-- The fields of a class that have no first value. -/
def EntityClass.requiredFields (cls : EntityClass) : List String :=
  ((cls.fields.getD []).filter fun f => f.role.isRequired).map (·.name)

/-- An empty entity of a class. -/
def Record.empty (c : Catalogue) (className : String) : Except SchemaError Record :=
  match c.find? className with
  | none => .ok ⟨className, [], false⟩
  | some cls =>
    match cls.requiredFields with
    | [] => .ok ⟨className, cls.initialFields, false⟩
    | missing => .error (.notConstructible className cls.constructor missing)

/-- An entity of a class with given fields, which must all be fields of the class; fields without
a first value must be given. -/
def Record.make (c : Catalogue) (className : String) (given : List (String × Value)) :
    Except Failure Record :=
  match c.find? className with
  | none => .error .wrongFields
  | some cls =>
    let names := (cls.fields.getD []).map (·.name)
    if (given.all fun g => g.1 ∈ names)
        && (cls.requiredFields.all fun f => (given.lookup f).isSome) then
      .ok ⟨className, names.map fun n => (n, ((given ++ cls.initialFields).lookup n).getD .null),
        false⟩
    else .error .wrongFields

end EntityMap
