import EntityMap.Operation.Save

/-!
# What is seen of an entity

Whatever an operation asks about an entity it reads from the entity's record. So two lists with
one record for it answer alike (`get_congr`, `isPlaceholder_congr`, `keyUnset_congr`), and a change
elsewhere is not seen (`record?_set_of_ne`, `record?_append`).

An entity is always taken as one of a class : a `Node` is an entity together with the description
of its class.
-/

namespace EntityMap

/-- An entity and the description that it is taken by. -/
structure Node where
  entity : Entity
  object : Value

theorem Value.isNull_iff {v : Value} : v.isNull = true ↔ v = .null := by
  cases v <;> simp [Value.isNull]

/-- No other integer is zero. -/
theorem Value.isZero_int {i : Int} (h : i ≠ 0) : (Value.int i).isZero = false := by
  have hcases : (i : Rat) < ((0 : Int) : Rat) ∨ ((0 : Int) : Rat) < (i : Rat) := by
    rw [Rat.intCast_lt_intCast, Rat.intCast_lt_intCast]
    omega
  rcases hcases with hlt | hlt
  · simp only [isZero, compareNumbers?, place?, Number.Binary64.comparePlaces, hlt, if_true]
    decide
  · have hle : ¬(i : Rat) < ((0 : Int) : Rat) := Rat.not_lt.mpr (Rat.le_of_lt hlt)
    simp only [isZero, compareNumbers?, place?, Number.Binary64.comparePlaces, hle, hlt, if_true,
      if_false]
    decide

namespace Records

variable {rs rs' : Records} {v : Value}

/-- There is a record for the value. -/
def Has (rs : Records) (v : Value) : Prop := (rs.record? v).isSome

/-- A value with a record is an entity. -/
theorem Has.entity (h : rs.Has v) : ∃ ref, v = .entity ref ∧ ref < rs.length := by
  cases v <;> simp [Has, record?] at h
  exact ⟨_, rfl, h⟩

/-! ## Lists with one record for a value -/

theorem get_congr (h : rs'.record? v = rs.record? v) (field : String) :
    rs'.get v field = rs.get v field := by
  rw [get, get, h]

theorem isPlaceholder_congr (h : rs'.record? v = rs.record? v) :
    rs'.isPlaceholder v = rs.isPlaceholder v := by
  rw [isPlaceholder, isPlaceholder, h]

theorem keyUnset_congr (h : rs'.record? v = rs.record? v) (e : Entity) :
    keyUnset rs' e v = keyUnset rs e v := by
  simp only [keyUnset, get_congr h]

/-- An instance of a class is an entity. -/
theorem has_of_isInstance {c : Catalogue} {className : String}
    (h : rs.isInstance c v className = true) : rs.Has v := by
  unfold isInstance at h
  split at h
  · next r hr => simp [Has, hr]
  · simp at h

/-! ## Changes -/

theorem record?_append (h : rs.Has v) (new : Records) :
    (rs ++ new : Records).record? v = rs.record? v := by
  obtain ⟨ref, rfl, hlt⟩ := h.entity
  simp [record?, List.getElem?_append_left hlt]

theorem record?_length (r : Record) :
    (rs ++ [r] : Records).record? (.entity rs.length) = some r := by
  simp [record?]

/-- Only the record that is set changes. -/
theorem record?_set_of_ne {ref : Nat} (h : v ≠ .entity ref) (field : String) (new : Value) :
    (rs.set ref field new).record? v = rs.record? v := by
  cases v with
  | entity other =>
    have hne : ref ≠ other := fun hr => h (hr ▸ rfl)
    simp [record?, set, hne]
  | _ => rfl

/-- A field has what it had, or else is the one that is set and has the new value. -/
theorem get_set_or (rs : Records) (ref : Nat) (field : String) (new v : Value) (other : String) :
    (rs.set ref field new).get v other = rs.get v other
      ∨ v = .entity ref ∧ other = field ∧ (rs.set ref field new).get v other = new := by
  by_cases hv : v = .entity ref
  · subst hv
    by_cases hlt : ref < rs.length
    · rw [get_set_self hlt]
      split
      · next ho => exact .inr ⟨rfl, ho, rfl⟩
      · exact .inl rfl
    · simp [get, record?, set, hlt]
  · exact .inl (get_congr (record?_set_of_ne hv field new) other)

/-- What is no entity has no fields. -/
theorem get_of_ne_entity (h : ∀ ref, v ≠ .entity ref) (field : String) :
    rs.get v field = .null := by
  cases v with
  | entity ref => exact absurd rfl (h ref)
  | _ => rfl

/-- Setting a field neither adds nor removes an entity. -/
theorem has_set {ref : Nat} {field : String} {new : Value} :
    (rs.set ref field new).Has v ↔ rs.Has v := by
  cases v <;> simp [Has, record?, length_set]

theorem Has.append (h : rs.Has v) (new : Records) : (rs ++ new : Records).Has v := by
  rw [Has, record?_append h]
  exact h

/-- A stand-in stays one when there are more entities. -/
theorem isPlaceholder_append (h : rs.isPlaceholder v = true) (new : Records) :
    (rs ++ new : Records).isPlaceholder v = true := by
  have hhas : rs.Has v := by
    unfold isPlaceholder at h
    cases hr : rs.record? v with
    | none => simp [hr] at h
    | some r => simp [Has, hr]
  rw [isPlaceholder_congr (record?_append hhas new)]
  exact h

/-- Setting a field leaves what the entity stands for. -/
theorem isPlaceholder_set {ref : Nat} {field : String} {new : Value} :
    (rs.set ref field new).isPlaceholder v = rs.isPlaceholder v := by
  cases v with
  | entity other =>
    simp only [isPlaceholder, record?, set, List.getElem?_modify]
    cases rs[other]? <;> simp [Record.set]
    split <;> rfl
  | _ => rfl

end Records

end EntityMap
