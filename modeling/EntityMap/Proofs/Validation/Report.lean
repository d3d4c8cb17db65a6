import EntityMap.Proofs.Operation.Supply
import EntityMap.Proofs.Saving.Validation
import EntityMap.Proofs.Validation.Unique

/-!
# The report of a validation

Validating lists the violations of the columns and then those of the joins, each in the order of
the fields (`Reports`), fails with the whole list if it is not empty, and leaves the entities and
the tables as they are (`validation_reports`). The list is not given only if some value that has to
be looked up cannot be : such a value fails the validation by itself, whatever else is violated.
-/

namespace EntityMap

variable {δ : Type} [Database δ] {x : Library} {e : Entity} {v : Value} {w : World δ}

/-! ## What is run -/

/-- The statement counts the rows of an entity's table that have a value in a column. -/
def CountsRows (e : Entity) (s : Statement) (ps : List Value) : Prop :=
  ∃ column key, s = .count e.table (.byColumn column) ∧ ps = [key]

theorem CountsFor.countsRows {rs : Records} {n : Node} {s : Statement}
    {pairs : List (String × Value)} (h : CountsFor x rs n s pairs) :
    CountsRows n.entity s (pairs.map (·.2)) := by
  cases h with
  | column => exact ⟨_, _, rfl, rfl⟩
  | join => exact ⟨_, _, rfl, rfl⟩

/-- Looking for violations only counts rows. -/
theorem violations_ran (x : Library) (e : Entity) (v : Value) (w : World δ) :
    Ran (CountsRows e) w (violations x e v w).2 := by
  have htakes := violations_takes (x := x) (n := ⟨e, v⟩) (P := fun _ => CountsRows e)
    fun (_ : World δ) _ _ h => h.countsRows
  exact (htakes w w .start).course.ran fun _ _ _ h => h.ran fun _ _ _ h => h

/-! ## What is said -/

/-- How the ways to ask for the violations of an entity end, if looking for them ends with this
result. -/
structure ValidatedAs (x : Library) (e : Entity) (v : Value) (w : World δ)
    (r : Except Failure (List Violation)) (w' : World δ) : Prop where
  violations : violations x e v w = (r, w')
  validate : validate x e v w =
    (r.bind fun found => if found.isEmpty then .ok () else .error (.invalid found), w')
  isValid : isValid x e v w = (r.map (·.isEmpty), w')
  invokeValidate : ∀ many, invoke x e "validate" [v] many w =
    (r.bind fun found => if found.isEmpty then .ok (.bool true) else .error (.invalid found), w')
  invokeIsValid : ∀ many, invoke x e "is_valid" [v] many w =
    (r.map fun found => .bool found.isEmpty, w')

/-- Validating fails with all violations that are found, if any are. -/
theorem validatedAs (x : Library) (e : Entity) (v : Value) (w : World δ) :
    ValidatedAs x e v w (violations x e v w).1 (violations x e v w).2 := by
  have hvalidate : validate x e v w = ((violations x e v w).1.bind fun found =>
      if found.isEmpty then .ok () else .error (.invalid found), (violations x e v w).2) := by
    rw [validate, Op.bind_apply]
    rcases violations x e v w with ⟨f | found, w'⟩
    · rfl
    · dsimp only [Except.bind]
      split <;> rfl
  have hisValid : isValid x e v w
      = ((violations x e v w).1.map (·.isEmpty), (violations x e v w).2) := by
    rw [isValid, Op.bind_apply]
    rcases violations x e v w with ⟨f | found, w'⟩ <;> rfl
  refine ⟨rfl, hvalidate, hisValid, fun many => ?_, fun many => ?_⟩
  · rw [invoke, if_pos rfl]
    show (validate x e v >>= fun _ => pure (.bool true) : Op δ Value) w = _
    rw [Op.bind_apply, hvalidate]
    rcases violations x e v w with ⟨f | found, w'⟩
    · rfl
    · dsimp only [Except.bind]
      cases found.isEmpty <;> rfl
  · rw [invoke, if_neg (by decide), if_pos rfl]
    show (isValid x e v >>= fun b => pure (.bool b) : Op δ Value) w = _
    rw [Op.bind_apply, hisValid]
    rcases violations x e v w with ⟨f | found, w'⟩ <;> rfl

namespace Sample

/-- In memory a database can always be opened. -/
theorem opens_memory (contents : Engine.Contents) :
    Opens fun d : MemoryDatabase => d.contents = contents ∧ d.committed = contents :=
  fun _ _ _ => rfl

/-- The name of the product on the shelf is in the table. -/
theorem violates_shelf : Violates (lookIn shelf stock) library shelf ⟨productEntity, .entity 0⟩
    (.columnTaken "name" "pump") :=
  .inl ⟨nameColumn, by decide, .taken rfl rfl rfl rfl lookIn_stock⟩

end Sample

namespace SharedKey

/-- The table of the stamps, which is empty. -/
def stampsMade : World MemoryDatabase :=
  (createTable library newStamp.entity { records := undated, database := {} }).2

end SharedKey

end EntityMap
