import Mathlib.Data.List.Nodup
import EntityMap.Proofs.Named
import EntityMap.Sample
import EntityMap.Schema.Describe
import EntityMap.Sql.Criteria

/-!
# Lookups by the name of a field

A name is looked up in two ways. Statements resolve it in the list of the fields' columns
(`resolveField`), and everything else asks for the column or the join of the field
(`Entity.column?`, `Entity.join?`). The list is filled in the order of the columns, hence of two
columns whose fields are spelled alike but for cases and underscores it has the last
(`Entity.lookup_fieldColumns`), whereas the question is answered with the first. So the ways agree
on a name unless the first and the last of its columns have different names
(`resolveField_agrees_iff`), and they agree on every name if no two fields are spelled alike
(`resolveField_of_nodup`).
-/

namespace EntityMap

/-! ## Both lookups -/

namespace Entity

variable (e : Entity)

/-- The last column of a field's name. -/
def lastColumn? (field : String) : Option Column :=
  e.columns.reverse.find? fun c => fieldKey c.field == fieldKey field

/-- The physical column of the column or join that is found for a field's name. -/
def foundColumn? (field : String) : Option String :=
  ((e.column? field).map (·.name)).or ((e.join? field).map (·.target))

/-- The list of the fields' columns has the last column of a name, or else the first join. -/
theorem lookup_fieldColumns (field : String) :
    e.fieldColumns.lookup (fieldKey field) =
      ((e.lastColumn? field).map (·.name)).or ((e.join? field).map (·.target)) := by
  rw [fieldColumns, lookup_foldl_setNew (fun j : Join => fieldKey j.field) (·.target),
    lookup_foldl_setNamed (fun c : Column => fieldKey c.field) (·.name)]
  rfl

/-- There is a last column of a name if there is a first. -/
theorem lastColumn?_eq_none_iff {e : Entity} {field : String} :
    e.lastColumn? field = none ↔ e.column? field = none := by
  simp [lastColumn?, column?]

end Entity

/-- What a name is resolved to : the last column of the name, or else the first join. -/
theorem resolveField_fieldColumns (e : Entity) (field : String) :
    resolveField e.fieldColumns field = match e.lastColumn? field, e.join? field with
      | some c, _ => .ok c.name
      | none, some j => .ok j.target
      | none, none => .error (.fieldNotFound field) := by
  rw [resolveField, e.lookup_fieldColumns]
  cases e.lastColumn? field with
  | some c => rfl
  | none => cases e.join? field <;> rfl

/-- What a name is resolved to is what is found for it if the last column is called like the
first. -/
theorem resolveField_eq_found_iff (e : Entity) (field : String) :
    (resolveField e.fieldColumns field).toOption = e.foundColumn? field ↔
      (e.lastColumn? field).map (·.name) = (e.column? field).map (·.name) := by
  rw [resolveField_fieldColumns, Entity.foundColumn?]
  cases hlast : e.lastColumn? field with
  | some c =>
    -- a last column comes with a first one, so both leave the joins aside
    have hfirst : e.column? field ≠ none := fun h => by
      simp [Entity.lastColumn?_eq_none_iff.mpr h] at hlast
    obtain ⟨first, hfirst⟩ := Option.ne_none_iff_exists'.mp hfirst
    simp [hfirst, Except.toOption]
  | none =>
    rw [Entity.lastColumn?_eq_none_iff.mp hlast]
    cases e.join? field <;> simp [Except.toOption]

/-- If no two columns have fields that are spelled alike, then a name is resolved to what is found
for it. -/
theorem resolveField_of_nodup {e : Entity} (h : (e.columns.map fun c => fieldKey c.field).Nodup)
    (field : String) : (resolveField e.fieldColumns field).toOption = e.foundColumn? field := by
  rw [resolveField_eq_found_iff]
  cases hlast : e.lastColumn? field with
  | none => rw [Entity.lastColumn?_eq_none_iff.mp hlast]
  | some last =>
    cases hfirst : e.column? field with
    | none => simp [Entity.lastColumn?_eq_none_iff.mpr hfirst] at hlast
    | some first =>
      have hsame : fieldKey last.field = fieldKey first.field :=
        (beq_iff_eq.mp (List.find?_some hlast :)).trans
          (beq_iff_eq.mp (List.find?_some hfirst :)).symm
      have hlast := List.mem_reverse.mp (List.mem_of_find?_eq_some hlast)
      rw [List.inj_on_of_nodup_map h hlast (List.mem_of_find?_eq_some hfirst) hsame]

/-- A name is resolved to the last column of a field that is spelled alike but for cases and
underscores, or else to the target of the first join of such a field. It fails exactly if neither a
column nor a join is found for the name. Since the first column is found, both are the same exactly
if the first and the last column have one name. -/
theorem resolveField_agrees_iff (e : Entity) (field : String) :
    (resolveField e.fieldColumns field = match e.lastColumn? field, e.join? field with
      | some c, _ => .ok c.name
      | none, some j => .ok j.target
      | none, none => .error (.fieldNotFound field))
    ∧ (resolveField e.fieldColumns field = .error (.fieldNotFound field) ↔
        e.column? field = none ∧ e.join? field = none)
    ∧ ((resolveField e.fieldColumns field).toOption = e.foundColumn? field ↔
        (e.lastColumn? field).map (·.name) = (e.column? field).map (·.name)) := by
  refine ⟨resolveField_fieldColumns e field, ?_, resolveField_eq_found_iff e field⟩
  rw [resolveField_fieldColumns, ← Entity.lastColumn?_eq_none_iff]
  cases e.lastColumn? field with
  | some c => simp
  | none => cases e.join? field <;> simp

namespace Sample

/-- A person whose given name is declared in two spellings. -/
def person : ClassDeclaration where
  name := "Person"
  table := some "people"
  fields := [column "first_name" "str" {}, column "firstName" "str" {}]

def people : Catalogue := (Catalogue.ofDeclarations [person] []).toOption.getD {}

/-- The first column is found for the name, and statements mean the second by it. -/
theorem resolveField_firstName :
    ∃ e, people.describe "Person" = .ok e ∧ e.foundColumn? "FirstName" = some "first_name"
      ∧ resolveField e.fieldColumns "FirstName" = .ok "firstName" := by
  let first : Column := { field := "first_name", name := "first_name", type := .text }
  let second : Column := { field := "firstName", name := "firstName", type := .text }
  refine ⟨⟨"Person", "people", [.column first, .column second]⟩, ?_, ?_, ?_⟩
  · decide +kernel
  · decide +kernel
  · decide +kernel

end Sample

end EntityMap
