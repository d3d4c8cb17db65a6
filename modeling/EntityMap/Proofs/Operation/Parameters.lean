import EntityMap.Proofs.Saving.Supply
import EntityMap.Proofs.Sql.Place

/-!
# Places and parameters

Every statement that a call puts together goes with a list of columns and of values for them
(`CallSupply`). Its text, read back, has one place for each column, and the parameters that it is
run with are the values, in the same order (`Matches`) ; neither depends on how names are spelled.
So it is for whatever method is called, with whatever arguments, in every transaction, whether the
database answers or not (`invoke_matches`).

SQL that is given in full is run as it is given, with the arguments of the call ; the statements
that follow the joins of what it returns are matched as well.
-/

namespace EntityMap

open Relation

variable {δ : Type} [Database δ] {x : Library} {e : Entity} {q : Method.Query} {name : String}
  {args : List Value} {w w₁ : World δ} {s : Statement} {pairs : List (String × Value)}

/-! ## What a call supplies -/

/-- The statements of the call of a method, in the world where they are run, if the call begins in
another one. A query is supplied with its arguments ; a validation and a saving are supplied with
the values of the entity that they are called with, and of those that are validated or saved with
it. -/
inductive CallSupply (x : Library) (e : Entity) (name : String) (args : List Value)
    (w w₁ : World δ) : Statement → List (String × Value) → Prop
  | queried {q : Method.Query} {s : Statement} {pairs : List (String × Value)}
      (named : queryNamed name = .ok q) (supply : QuerySupply x e q args w w₁ s pairs) :
      CallSupply x e name args w w₁ s pairs
  | counted {v : Value} {n : Node} {s : Statement} {pairs : List (String × Value)}
      (argument : args = [v]) (reached : Reached x w.records ⟨e, v⟩ n)
      (counts : CountsFor x w₁.records n s pairs) : CallSupply x e name args w w₁ s pairs
  | inserted {v : Value} {opened : World δ} {c : Call δ} {s : Statement}
      {pairs : List (String × Value)} (argument : args = [v])
      (begins : BeginsWriting x x.validateOnSave e v w opened)
      (makes : ReflTransGen (Call.Makes x) (rootCall e v opened) c) (row : c.Row x w₁ s pairs) :
      CallSupply x e name args w w₁ s pairs

/-- The statements of a call of given SQL : this with the arguments, and those that follow the joins
of a row that it returns. -/
inductive SqlSupply (x : Library) (e : Entity) (q : SqlQuery) (args : List Value)
    (w w₁ : World δ) : Statement → List Value → Prop
  | given {ps : List Value} (bound : bindArguments w.records args = .ok ps) :
      SqlSupply x e q args w w₁ (.verbatim q.sql) ps
  | followed {ps : List Value} {row : Row} {s : Statement} {lookup : List (String × Value)}
      (bound : bindArguments w.records args = .ok ps)
      (returned : Returns x.management w (.verbatim q.sql) ps row)
      (looksUp : LooksUp x e row w₁.records s lookup) :
      SqlSupply x e q args w w₁ s (lookup.map (·.2))

omit [Database δ] in
theorem singleArgument_eq_ok {v : Value} (h : singleArgument name args = .ok v) : args = [v] := by
  unfold singleArgument at h
  split at h
  · cases h
    rfl
  · cases h

section

variable {P : World δ → Statement → List Value → Prop} {w₀ : World δ}
  (hw : Course (Transaction P x.management) w₀ none w)
include hw

theorem runQuery_carries (many : Option Bool) (hnamed : queryNamed name = .ok q)
    (hP : ∀ w₁ s pairs, CallSupply x e name args w w₁ s pairs → P w₁ s (pairs.map (·.2))) :
    (runQuery x e q args many).Carries (Transaction P x.management) w₀ w := by
  have hquery : ∀ w₁ s pairs, QuerySupply x e q args w w₁ s pairs → P w₁ s (pairs.map (·.2)) :=
    fun w₁ s pairs h => hP w₁ s pairs (.queried hnamed h)
  unfold runQuery
  split
  · refine Op.Ends.ofResult_bind (fun v hv => ?_) fun f _ => hw.raised f
    have hargument := singleArgument_eq_ok hv
    exact save_carries (fun w₁ n s pairs hn h => hP w₁ s pairs (.counted hargument hn h))
      (fun opened c w₁ s pairs hbegins hc h => hP w₁ s pairs (.inserted hargument hbegins hc h)) hw
  · exact find_carries hquery hw
  · exact find_carries hquery hw
  · exact update_carries hquery hw
  · exact delete_carries hquery hw
  · exact anyExists_carries hquery hw

theorem invoke_carries (many : Option Bool)
    (hP : ∀ w₁ s pairs, CallSupply x e name args w w₁ s pairs → P w₁ s (pairs.map (·.2))) :
    (invoke x e name args many).Carries (Transaction P x.management) w₀ w := by
  have hcounts : ∀ v, args = [v] → ∀ w₁ s pairs, CountsFor x w₁.records ⟨e, v⟩ s pairs →
      P w₁ s (pairs.map (·.2)) :=
    fun v hargument w₁ s pairs h => hP w₁ s pairs (.counted hargument .refl h)
  unfold invoke
  split
  · refine Op.Ends.ofResult_bind (fun v hv => ?_) fun f _ => hw.raised f
    have hvalidate := validate_takes (n := ⟨e, v⟩) (hcounts v (singleArgument_eq_ok hv))
    exact hvalidate.bind (fun _ => Op.Takes.pure _) w₀ w hw
  split
  · refine Op.Ends.ofResult_bind (fun v hv => ?_) fun f _ => hw.raised f
    have hvalidate := isValid_takes (n := ⟨e, v⟩) (hcounts v (singleArgument_eq_ok hv))
    exact hvalidate.bind (fun _ => Op.Takes.pure _) w₀ w hw
  · exact Op.Ends.ofResult_bind (fun q hq => runQuery_carries hw many hq hP) fun f _ => hw.raised f

theorem runSql_carries {query : SqlQuery} (many : Bool)
    (hP : ∀ w₁ s ps, SqlSupply x e query args w w₁ s ps → P w₁ s ps) :
    (runSql x e query args many).Carries (Transaction P x.management) w₀ w := by
  refine Op.Ends.records_bind ?_
  refine Op.Ends.ofResult_bind (fun ps hps => ?_) fun f _ => hw.raised f
  have hgiven : ∀ w₁, P w₁ (.verbatim query.sql) ps := fun w₁ => hP w₁ _ _ (.given hps)
  split
  · exact loadResult_carries hw hgiven fun row hrow w₁ s lookup h =>
      hP w₁ s _ (.followed hps hrow h)
  · have hrun : (Connection.execute ⟨true⟩ (.verbatim query.sql) ps).Takes (Asks P) :=
      (Op.Takes.runStatement hgiven).bind fun _ => Op.Takes.pure _
    exact (Op.Takes.withConnection hrun).bind (fun _ => Op.Takes.pure _) w₀ w hw

end

/-! ## What is supplied is in place -/

/-- The text of the statement is read back with a place for each of the columns in their order, and
the parameters are as many, the values for them. -/
structure Matches (s : Statement) (ps : List Value) (pairs : List (String × Value)) : Prop where
  columns : placeColumns? (tokens s.text.toList) = some (pairs.map (·.1))
  parameters : ps = pairs.map (·.2)
  count : (tokens s.text.toList).count (.sign '?') = ps.length

/-- What is run is supplied as in `V`, and matches it. -/
def InPlace (V : World δ → Statement → List (String × Value) → Prop) (w : World δ) (s : Statement)
    (ps : List Value) : Prop :=
  ∃ pairs, V w s pairs ∧ Matches s ps pairs

theorem Matches.of_placed (h : Placed s (pairs.map (·.1))) : Matches s (pairs.map (·.2)) pairs where
  columns := placeColumns?_statement h
  parameters := rfl
  count := by
    rw [count_of_placeColumns? (placeColumns?_statement h), List.length_map, List.length_map]

section

omit [Database δ]

theorem placed_select_byColumn (table column : String) :
    Placed (.select table (.byColumn column)) [column] :=
  .select table (s := .byColumn column) (by simp [Selection.byColumn, Filter.Connected])

theorem placed_count_byColumn (table column : String) :
    Placed (.count table (.byColumn column)) [column] :=
  .count table (s := .byColumn column) (by simp [Selection.byColumn, Filter.Connected])

theorem CountsFor.placed {rs : Records} {n : Node} (h : CountsFor x rs n s pairs) :
    Placed s (pairs.map (·.1)) := by
  cases h with
  | column => exact placed_count_byColumn _ _
  | join => exact placed_count_byColumn _ _

theorem LooksUp.placed {row : Row} {rs : Records} (h : LooksUp x e row rs s pairs) :
    Placed s (pairs.map (·.1)) := by
  cases h with
  | join => exact placed_select_byColumn _ _

end

theorem QuerySupply.placed (h : QuerySupply x e q args w w₁ s pairs) :
    Placed s (pairs.map (·.1)) := by
  cases h with
  | found hcompares =>
    rw [← hcompares.columns]
    exact .select _ hcompares.compiled.connected
  | followed _ _ hlooksUp => exact hlooksUp.placed
  | counted hcompares =>
    rw [← hcompares.columns]
    exact .count _ hcompares.compiled.connected
  | deleted hcompares =>
    rw [← hcompares.columns]
    exact .delete _ hcompares.compiled.connected
  | updated _ hcompares =>
    rw [List.map_append, ← hcompares.columns]
    exact .update _ _ hcompares.compiled.connected

theorem CallSupply.placed (h : CallSupply x e name args w w₁ s pairs) :
    Placed s (pairs.map (·.1)) := by
  cases h with
  | queried _ hsupply => exact hsupply.placed
  | counted _ _ hcounts => exact hcounts.placed
  | inserted _ _ _ hrow =>
    cases hrow with
    | inserted => exact .insert _ _

/-! ## The theorem -/

/-- Whatever the name of the method, the arguments and the answers of the database, each statement
that is put together has as many places as parameters, and the place in each position is for the
column whose value or argument is the parameter in this position. So it is for the statements that
follow the joins of what given SQL returns. -/
theorem invoke_matches (x : Library) :
    (∀ (e : Entity) (name : String) (args : List Value) (many : Option Bool) (w : World δ),
      ∃ r w', invoke x e name args many w = (r, w')
        ∧ Course (Transaction (InPlace (CallSupply x e name args w)) x.management) w (failure? r) w'
        ∧ ∃ l, w'.events = w.events ++ l ∧ ∀ s ps, .ran s ps ∈ l →
          ∃ w₁ pairs, CallSupply x e name args w w₁ s pairs ∧ Matches s ps pairs)
    ∧ ∀ (e : Entity) (q : SqlQuery) (args : List Value) (many : Bool) (w : World δ),
      ∃ r w', runSql x e q args many w = (r, w')
        ∧ ∃ l, w'.events = w.events ++ l ∧ ∀ s ps, .ran s ps ∈ l →
          (s = .verbatim q.sql ∧ bindArguments w.records args = .ok ps)
          ∨ ∃ row rs pairs, LooksUp x e row rs s pairs ∧ Matches s ps pairs := by
  refine ⟨fun e name args many w => ?_, fun e q args many w => ?_⟩
  · have hcourse := (invoke_carries (P := InPlace (CallSupply x e name args w)) .start many
      fun w₁ s pairs h => ⟨pairs, h, .of_placed h.placed⟩).course
    refine ⟨_, _, rfl, hcourse, hcourse.ran fun _ _ _ hstep => hstep.ran fun w₁ s ps h => ⟨w₁, h⟩⟩
  · have hcourse := (runSql_carries (P := SqlSupply x e q args w) .start many
      fun w₁ s ps h => h).course
    refine ⟨_, _, rfl, hcourse.ran fun _ _ _ hstep => hstep.ran fun w₁ s ps h => ?_⟩
    cases h with
    | given hps => exact .inl ⟨rfl, hps⟩
    | followed _ _ hlooksUp => exact .inr ⟨_, _, _, hlooksUp, .of_placed hlooksUp.placed⟩

end EntityMap
