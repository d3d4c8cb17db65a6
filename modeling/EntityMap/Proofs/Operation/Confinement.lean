import EntityMap.Proofs.Method.Reading
import EntityMap.Proofs.Operation.Statements

/-!
# What the name of a method allows

The name of a method alone decides what a call of it may run (`invoke_confined`). Validating and
searching run selections only, a saving runs selections and insertions, and a deletion or an update
runs one statement at most, on the entity's own table.

This one statement is never without a condition : a name of these verbs has a predicate
(`terms_ne_nil`), and its condition compares the columns of the predicate's fields, one each, so
that its text is not empty and stands after `WHERE` (`Compiled.isCondition`).
-/

namespace EntityMap

variable {δ : Type} [Database δ] {e : Entity} {q : Method.Query}

/-! ## Conditions -/

/-- Only `save` and `findAll` may do without a predicate. -/
theorem terms_ne_nil {name : String} (h : Method.Query.ofName? name = .ok q)
    (hverb : q.verb ∉ [Method.Verb.save, .findAll]) : q.terms ≠ [] := by
  obtain ⟨d, -, rfl⟩ := (Method.ofName?_eq_ok_iff_derivation name q).mp h
  cases d with
  | save verb => exact absurd (by simp [Method.Derivation.query, Method.bareQuery]) hverb
  | findAll verb all order =>
    cases order <;>
      exact absurd (by simp [Method.Derivation.query, Method.bareQuery, Method.Query.ordered]) hverb
  | find verb all by_ predicate order =>
    cases order <;>
      simp [Method.Derivation.query, Method.Query.comparing, Method.Query.ordered,
        Method.PredicateTree.terms]
  | act verb by_ predicate =>
    simp [Method.Derivation.query, Method.Query.comparing, Method.PredicateTree.terms]
  | updateFields verb first more by_ predicate =>
    simp [Method.Derivation.query, Method.Query.comparing, Method.PredicateTree.terms]

/-- The text compares columns, one each and in order, with connectors between them. -/
inductive Comparisons : List String → String → Prop
  | first (column : String) : Comparisons [column] (Text.identifier column ++ " = ?")
  | next {columns : List String} {text : String} (before : Comparisons columns text)
      (k : Method.Connector) (column : String) :
      Comparisons (columns ++ [column])
        (text ++ " " ++ k.word ++ " " ++ Text.identifier column ++ " = ?")

/-- The condition compares the columns of the terms of a query, at least one and one each. -/
structure IsCondition (e : Entity) (q : Method.Query) (f : Filter) : Prop where
  terms : q.terms ≠ []
  columns : List.Forall₂ (fun term column => resolveField e.fieldColumns term = .ok column) q.terms
    f.columns
  text : Comparisons f.columns f.text

/-- The text of a filter that compares something is made of its comparisons. -/
theorem comparisons_text {first : String} {rest : List (String × String)}
    (h : (Filter.equals first rest).Connected) :
    Comparisons (Filter.equals first rest).columns (Filter.equals first rest).text := by
  rw [Filter.columns, Filter.text]
  induction rest using List.reverseRecOn with
  | nil => exact .first first
  | append_singleton rest r ih =>
    obtain ⟨k, hk⟩ := h r (by simp)
    have hbefore := ih fun r' hr' => h r' (List.mem_append_left _ hr')
    have hnext := hbefore.next k r.2
    simpa [joinedComparison, comparison, hk, String.append_assoc] using hnext

theorem Comparisons.text_ne_empty {columns : List String} {text : String}
    (h : Comparisons columns text) : text ≠ "" := by
  cases h <;> simp

theorem Compiled.isCondition {selection : Selection} (h : Compiled e q selection)
    (hterms : q.terms ≠ []) : IsCondition e q selection.filter := by
  refine ⟨hterms, h.terms, ?_⟩
  have hconnected := h.connected
  cases hf : selection.filter with
  | all =>
    have hlength := h.terms.length_eq
    rw [hf] at hlength
    exact absurd (List.length_eq_zero_iff.mp hlength) hterms
  | equals first rest =>
    rw [hf] at hconnected
    exact comparisons_text hconnected

/-- The text of a condition is not dropped. -/
theorem IsCondition.clause_eq {f : Filter} (h : IsCondition e q f) :
    clause " WHERE " f.text = " WHERE " ++ f.text := by
  rw [clause, if_neg h.text.text_ne_empty]

/-! ## Calls -/

/-- What a query may run. -/
def QueryAllows (e : Entity) (q : Method.Query) (l : List Statement) : Prop :=
  match q.verb with
  | .find | .findAll | .exist => ∀ s ∈ l, s.isSelect = true
  | .save => ∀ s ∈ l, s.isSelect = true ∨ s.isInsert = true
  | .delete => l = [] ∨ ∃ f, IsCondition e q f ∧ ∃ s, l = [s] ∧ s = .delete e.table (.filter f)
      ∧ s.text = "DELETE FROM " ++ Text.identifier e.table ++ " WHERE " ++ f.text
  | .update => l = [] ∨ ∃ f columns, IsCondition e q f ∧ ∃ s, l = [s]
      ∧ s = .update e.table columns (.filter f)
      ∧ s.text = "UPDATE " ++ Text.identifier e.table ++ " SET " ++ assignments columns
        ++ " WHERE " ++ f.text

/-- What the call of a method may run : what its name means as a query allows, and nothing if it
means none. -/
def NameAllows (e : Entity) (name : String) (l : List Statement) : Prop :=
  if name = "validate" ∨ name = "is_valid" then ∀ s ∈ l, s.isSelect = true
  else
    match Method.Query.ofName? name with
    | .ok q => QueryAllows e q l
    | .error _ => l = []

/-- The query of a name runs what the name allows. -/
theorem runQuery_allowed {name : String} (hq : Method.Query.ofName? name = .ok q) (x : Library)
    (args : List Value) (many : Option Bool) :
    (runQuery x e q args many : Op δ Value).Runs (QueryAllows e q) := by
  have hsearch : ∀ s, Searches x e s → s.isSelect = true := by
    rintro s (hs | ⟨_, -, hs⟩)
    · exact hs.1
    · exact hs.1
  unfold runQuery QueryAllows
  cases hverb : q.verb with
  | find => exact find_issues.mono hsearch
  | findAll => exact find_issues.mono hsearch
  | exist => exact anyExists_issues.mono fun s hs => hs.1
  | save =>
    refine Op.Issues.ofResult_bind fun v _ => save_issues.mono ?_
    rintro s ⟨_, -, hs | hs⟩
    · exact .inl hs.1
    · exact .inr hs.1
  | delete =>
    refine delete_runs.mono fun l hl => hl.imp_right ?_
    rintro ⟨s, ⟨selection, hcompiled, rfl⟩, rfl⟩
    have hterms := terms_ne_nil hq (by simp [hverb])
    have hcondition := hcompiled.isCondition hterms
    refine ⟨selection.filter, hcondition, _, rfl, rfl, ?_⟩
    show _ ++ clause " WHERE " selection.filter.text = _
    rw [hcondition.clause_eq, ← String.append_assoc]
  | update =>
    refine update_runs.mono fun l hl => hl.imp_right ?_
    rintro ⟨s, ⟨selection, columns, hcompiled, -, rfl⟩, rfl⟩
    have hterms := terms_ne_nil hq (by simp [hverb])
    have hcondition := hcompiled.isCondition hterms
    refine ⟨selection.filter, columns, hcondition, _, rfl, rfl, ?_⟩
    show _ ++ clause " WHERE " selection.filter.text = _
    rw [hcondition.clause_eq, ← String.append_assoc]

/-- Whatever its name and its arguments are, whatever the database answers and whichever way it
ends, a call runs what its name allows : selections only for `validate`, `is_valid`, `find`,
`findAll` and `exists`, selections and insertions for `save`, and for `delete` and `update` at most
one statement, on the entity's own table and with a comparison for each field of the predicate
after its `WHERE`. -/
theorem invoke_confined (x : Library) (e : Entity) (name : String) (args : List Value)
    (many : Option Bool) (w : World δ) :
    ∃ l, (invoke x e name args many w).2.statements = w.statements ++ l ∧ NameAllows e name l := by
  have hselect : ∀ s, Selects e s → s.isSelect = true := fun s hs => hs.1
  have hchecks : name = "validate" ∨ name = "is_valid" → ∀ l : List Statement,
      (∀ s ∈ l, s.isSelect = true) → NameAllows e name l := by
    intro hname l hl
    rwa [NameAllows, if_pos hname]
  have hruns : (invoke x e name args many : Op δ Value).Runs (NameAllows e name) := by
    unfold invoke
    by_cases hvalidate : name = "validate"
    · rw [if_pos hvalidate]
      refine Op.Runs.mono (Op.Issues.ofResult_bind fun v _ => ?_) (hchecks (.inl hvalidate))
      exact Op.Issues.bind (validate_issues.mono hselect) fun _ => Op.Issues.pure _
    rw [if_neg hvalidate]
    by_cases hvalid : name = "is_valid"
    · rw [if_pos hvalid]
      refine Op.Runs.mono (Op.Issues.ofResult_bind fun v _ => ?_) (hchecks (.inr hvalid))
      exact Op.Issues.bind (isValid_issues.mono hselect) fun _ => Op.Issues.pure _
    rw [if_neg hvalid, queryNamed]
    have hname : ¬(name = "validate" ∨ name = "is_valid") := not_or.mpr ⟨hvalidate, hvalid⟩
    cases hq : Method.Query.ofName? name with
    | error f =>
      refine Op.Runs.quiet (fun _ => rfl) ?_
      rw [NameAllows, if_neg hname, hq]
    | ok q =>
      refine (runQuery_allowed hq x args many).mono fun l hl => ?_
      rwa [NameAllows, if_neg hname, hq]
  exact hruns w

end EntityMap
