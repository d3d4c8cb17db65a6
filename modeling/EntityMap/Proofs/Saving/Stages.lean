import EntityMap.Proofs.Record
import EntityMap.Proofs.Validation.Reads

/-!
# The stages of a saving

A saving checks what it is given, validates unless it is told not to, and writes on a connection
of its own. It succeeds if all stages do (`save_eq_ok`) and fails in the first that does not
(`save_eq_error`); until it writes it only reads (`Validated.reads`).
-/

namespace EntityMap

variable {δ : Type} [Database δ] {x : Library} {validating : Bool} {e : Entity} {v r : Value}
  {w w₁ w' : World δ}

/-- Validates an entity after what it cascades to. -/
def validateAll (x : Library) (depth : Nat) (e : Entity) (v : Value) : Op δ Unit := do
  validateRelated x depth e v
  validate x e v

/-- The second stage leads from the first world to the second. -/
def Validated (x : Library) (validating : Bool) (e : Entity) (v : Value) (w w₁ : World δ) : Prop :=
  if validating then validateAll x (relationDepth w.records) e v w = (.ok (), w₁) else w₁ = w

/-- Inserts an entity with what it cascades to, on a connection of its own. -/
def writeAll (x : Library) (depth : Nat) (e : Entity) (v : Value) : Op δ Int :=
  writing x.management fun k => insertEntity x k depth e v

/-- A saving that succeeds has passed all stages, and gives what it was given. -/
theorem save_eq_ok (h : save x validating e v w = (.ok r, w')) :
    r = v ∧ checkSavable x w.records e v = .ok () ∧ ∃ w₁ rowId, Validated x validating e v w w₁
      ∧ writeAll x (relationDepth w.records) e v w₁ = (.ok rowId, w') := by
  rw [save, Op.records_bind] at h
  obtain ⟨_, hcheck, h⟩ := Op.ofResult_bind_eq_ok.mp h
  cases validating with
  | true =>
    obtain ⟨_, w₀, hrelated, h⟩ := Op.bind_eq_ok.mp h
    obtain ⟨_, w₁, hvalid, h⟩ := Op.bind_eq_ok.mp h
    obtain ⟨rowId, w₂, hwrite, h⟩ := Op.bind_eq_ok.mp h
    cases h
    exact ⟨rfl, hcheck, w₁, rowId, Op.bind_eq_ok.mpr ⟨(), w₀, hrelated, hvalid⟩, hwrite⟩
  | false =>
    obtain ⟨rowId, w₂, hwrite, h⟩ := Op.bind_eq_ok.mp h
    cases h
    exact ⟨rfl, hcheck, w, rowId, rfl, hwrite⟩

/-- A saving fails in the first stage that does. -/
theorem save_eq_error {f : Failure} (h : save x validating e v w = (.error f, w')) :
    (checkSavable x w.records e v = .error f ∧ w = w')
      ∨ (checkSavable x w.records e v = .ok () ∧ validating = true
        ∧ validateAll x (relationDepth w.records) e v w = (.error f, w'))
      ∨ (checkSavable x w.records e v = .ok () ∧ ∃ w₁, Validated x validating e v w w₁
        ∧ writeAll x (relationDepth w.records) e v w₁ = (.error f, w')) := by
  rw [save, Op.records_bind] at h
  rcases Op.bind_eq_error.mp h with hcheck | ⟨_, w₀, hcheck, h⟩
  · exact .inl (Op.end_eq_end.mp hcheck)
  obtain ⟨hsavable, hw⟩ := Op.ofResult_eq_ok.mp hcheck
  subst hw
  have hwriting : ∀ w₁, (do
      let _ ← writeAll x (relationDepth w.records) e v
      return v : Op δ Value) w₁ = (.error f, w') →
      writeAll x (relationDepth w.records) e v w₁ = (.error f, w') := by
    intro w₁ h
    rcases Op.bind_eq_error.mp h with h | ⟨_, _, -, h⟩
    · exact h
    · simp at h
  cases validating with
  | true =>
    rcases Op.bind_eq_error.mp h with hrelated | ⟨_, w₀, hrelated, h⟩
    · exact .inr (.inl ⟨hsavable, rfl, Op.bind_eq_error.mpr (.inl hrelated)⟩)
    rcases Op.bind_eq_error.mp h with hvalid | ⟨_, w₁, hvalid, h⟩
    · exact .inr (.inl ⟨hsavable, rfl, Op.bind_eq_error.mpr (.inr ⟨(), w₀, hrelated, hvalid⟩)⟩)
    · exact .inr (.inr ⟨hsavable, w₁, Op.bind_eq_ok.mpr ⟨(), w₀, hrelated, hvalid⟩, hwriting w₁ h⟩)
  | false => exact .inr (.inr ⟨hsavable, w, rfl, hwriting w h⟩)

/-- What can be saved has a record. -/
theorem has_of_checkSavable {rs : Records} (h : checkSavable x rs e v = .ok ()) : rs.Has v := by
  unfold checkSavable at h
  split at h
  · simp at h
  · split at h
    · next hinstance => exact Records.has_of_isInstance hinstance
    · simp at h

/-- An instance of the class can be saved. -/
theorem checkSavable_of_isInstance {rs : Records}
    (h : rs.isInstance x.catalogue v e.className = true) : checkSavable x rs e v = .ok () := by
  obtain ⟨ref, rfl, -⟩ := (Records.has_of_isInstance h).entity
  simp [checkSavable, Value.isNull, h]

theorem validateAll_reads {I : δ → Prop} (hI : ReadInvariant I) (depth : Nat) (w₀ : World δ) :
    (validateAll x depth e v).Keeps (Reads I w₀) :=
  (validateRelated_reads hI w₀ depth e v).bind fun _ => validate_reads hI w₀

/-- Until it writes, a saving only reads. -/
theorem Validated.reads {I : δ → Prop} (hI : ReadInvariant I)
    (h : Validated x validating e v w w₁) : Reads I w w₁ := by
  unfold Validated at h
  split at h
  · exact (validateAll_reads hI _ w w (Adds.refl _ _ w)).1 _ _ h
  · subst h
    exact Adds.refl _ _ _

end EntityMap
