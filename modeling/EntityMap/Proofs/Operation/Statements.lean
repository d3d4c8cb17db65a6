import Mathlib.Logic.Relation
import EntityMap.Operation.Invocation
import EntityMap.Proofs.Saving.Induction
import EntityMap.Proofs.Saving.Stages
import EntityMap.Proofs.Sql.Compilation
import EntityMap.Proofs.Storage.Running

/-!
# What operations run

For every operation, the statements that it may run, whatever the database answers and whichever
way it ends. Validating counts rows of the entity's table (`validate_issues`), a search selects
such rows and rows of related tables (`find_issues`), a saving counts and inserts
(`save_issues`), a deletion and an update run their one statement or none (`delete_runs`,
`update_runs`).

Each statement names the table of an entity and then physical columns of it
(`Statement.About`), as its text is read : of the entity that the operation is for, or of one
that joins lead to (`Reaches`).
-/

namespace EntityMap

open Relation

variable {δ : Type} {x : Library} {e e' : Entity} {v : Value} {q : Method.Query}
  {args : List Value}

/-! ## Statements about an entity -/

/-- The statement only reads rows. -/
def Statement.isSelect : Statement → Bool
  | select .. | count .. => true
  | _ => false

/-- The statement inserts a row. -/
def Statement.isInsert : Statement → Bool
  | insert .. => true
  | _ => false

/-- The names in the statement are that of an entity's table, and then physical columns of it. -/
def Statement.About (e : Entity) (s : Statement) : Prop :=
  ∃ columns, s.names = e.table :: columns ∧ ∀ c ∈ columns, c ∈ e.physicalColumns

/-- The statement selects or counts rows of an entity's table. -/
def Selects (e : Entity) (s : Statement) : Prop := s.isSelect = true ∧ s.About e

/-- A join of the first entity leads to the second. -/
def LeadsTo (x : Library) (e e' : Entity) : Prop :=
  ∃ j ∈ e.joins, x.catalogue.describeRelated j = .ok e'

/-- Joins lead from the first entity to the second. -/
def Reaches (x : Library) (e e' : Entity) : Prop := ReflTransGen (LeadsTo x) e e'

theorem Reaches.related {j : Join} (h : Reaches x e e') (hj : j ∈ e'.joins) {related : Entity}
    (hrelated : x.catalogue.describeRelated j = .ok related) : Reaches x e related :=
  h.tail ⟨j, hj, hrelated⟩

theorem selects_count {selection : Selection} (hplain : selection.filter.PlainWords)
    (hcolumns : ∀ c ∈ selection.columns, c ∈ e.physicalColumns) :
    Selects e (.count e.table selection) :=
  ⟨rfl, selection.columns, names_count e.table hplain, hcolumns⟩

theorem selects_select {selection : Selection} (hplain : selection.filter.PlainWords)
    (hcolumns : ∀ c ∈ selection.columns, c ∈ e.physicalColumns) :
    Selects e (.select e.table selection) :=
  ⟨rfl, selection.columns, names_select e.table hplain, hcolumns⟩

theorem plainWords_byColumn (column : String) : (Selection.byColumn column).filter.PlainWords := by
  simp [Selection.byColumn, Filter.PlainWords]

theorem columns_byColumn (column : String) : (Selection.byColumn column).columns = [column] :=
  rfl

/-! ## Validating -/

variable [Database δ]

theorem holdsValue_issues {column : String} (hcolumn : column ∈ e.physicalColumns) (key : Value) :
    (holdsValue e.table column key : Op δ Bool).Issues (Selects e) := by
  have hcount : Selects e (.count e.table (.byColumn column)) :=
    selects_count (plainWords_byColumn column) (by simpa [columns_byColumn] using hcolumn)
  exact Op.Issues.bind (Op.Issues.runStatement _ hcount) fun _ => Op.Issues.ofResult _

theorem columnViolation_issues {col : Column} (hcol : col ∈ e.columns) :
    (columnViolation x e v col : Op δ (Option Violation)).Issues (Selects e) := by
  unfold columnViolation
  refine Op.Runs.records_bind fun rs => ?_
  dsimp only
  split
  · exact Op.Issues.pure _
  split
  · split <;> exact Op.Issues.pure _
  split
  · refine Op.Issues.ofResult_bind fun key _ => ?_
    refine Op.Issues.bind (holdsValue_issues (Entity.name_mem_physicalColumns hcol) key) ?_
    intro taken
    split <;> exact Op.Issues.pure _
  · exact Op.Issues.pure _

theorem joinViolation_issues {j : Join} (hj : j ∈ e.joins) :
    (joinViolation x e v j : Op δ (Option Violation)).Issues (Selects e) := by
  unfold joinViolation
  refine Op.Runs.records_bind fun rs => ?_
  dsimp only
  split
  · split <;> exact Op.Issues.pure _
  split
  · refine Op.Issues.describing_bind fun source _ => ?_
    refine Op.Issues.ofResult_bind fun key _ => ?_
    split
    · exact Op.Issues.pure _
    · refine Op.Issues.bind (holdsValue_issues (Entity.target_mem_physicalColumns hj) key) ?_
      intro taken
      split <;> exact Op.Issues.pure _
  · exact Op.Issues.pure _

/-- Looking for violations counts rows of the entity's table. -/
theorem violations_issues : (violations x e v : Op δ (List Violation)).Issues (Selects e) := by
  unfold violations
  split
  · exact Op.Issues.throw _
  · refine Op.Issues.withConnection ?_
    refine Op.Issues.bind (Op.Issues.mapM fun _ hcol => columnViolation_issues hcol) fun _ => ?_
    refine Op.Issues.bind (Op.Issues.mapM fun _ hj => joinViolation_issues hj) fun _ => ?_
    exact Op.Issues.pure _

theorem validate_issues : (validate x e v : Op δ Unit).Issues (Selects e) := by
  unfold validate
  refine Op.Issues.bind violations_issues fun found => ?_
  split
  · exact Op.Issues.pure _
  · exact Op.Issues.throw _

theorem isValid_issues : (isValid x e v : Op δ Bool).Issues (Selects e) :=
  Op.Issues.bind violations_issues fun _ => Op.Issues.pure _

/-! ## Searching -/

/-- What a search may run : a selection of rows of the entity, or of an entity that one of its joins
leads to. -/
def Searches (x : Library) (e : Entity) (s : Statement) : Prop :=
  Selects e s ∨ ∃ e', LeadsTo x e e' ∧ Selects e' s

omit [Database δ] in
theorem hydrateRow_issues {row : Row} {P : Statement → Prop} :
    (hydrateRow x e row : Op δ Value).Issues P := by
  refine Op.Runs.records_bind fun rs => Op.Issues.ofResult_bind fun r _ => ?_
  exact Op.Issues.quiet fun _ => rfl

omit [Database δ] in
theorem joinFirst_issues {related : Entity} {source : Column} {owner key : Value} {j : Join}
    {rows : List Row} {P : Statement → Prop} :
    (joinFirst x related source owner j key rows : Op δ Value).Issues P := by
  cases rows with
  | nil => exact Op.Issues.pure _
  | cons row more =>
    have hrest : ∀ _ : Unit, (do
        let v ← hydrateRow x related row
        Op.setField owner j.field v
        return v : Op δ Value).Issues P := fun _ =>
      Op.Issues.bind hydrateRow_issues fun v =>
        Op.Issues.bind (Op.Issues.setField _ _ _) fun _ => Op.Issues.pure _
    unfold joinFirst
    dsimp only
    split
    · exact hrest ()
    · refine Op.Runs.records_bind fun rs => Op.Issues.bind ?_ hrest
      exact Op.Issues.quiet fun _ => rfl

/-- Following a join looks the key up in the related table. -/
theorem resolveJoin_issues {j : Join} (hj : j ∈ e.joins) {owner : Value} {row : Option Row} :
    (resolveJoin x e owner row j : Op δ Value).Issues (Searches x e) := by
  unfold resolveJoin
  refine Op.Runs.records_bind fun rs => Op.Issues.ofResult_bind fun key _ => ?_
  split
  · split
    · exact Op.Issues.pure _
    · have hplaceholder : (placeholder x j : Op δ Value).Issues (Searches x e) :=
        Op.Issues.ofResult_bind fun r _ => Op.Issues.quiet fun _ => rfl
      refine Op.Issues.bind hplaceholder fun stub => ?_
      exact Op.Issues.bind (Op.Issues.setField _ _ _) fun _ => Op.Issues.pure _
  · refine Op.Issues.describing_bind fun related hrelated => ?_
    refine Op.Issues.describing_bind fun source hsource => ?_
    have hcolumn := Entity.name_mem_physicalColumns (sourceColumn_eq_ok hrelated hsource)
    have hlookup : Selects related (.select related.table (.byColumn source.name)) :=
      selects_select (plainWords_byColumn _) (by simpa [columns_byColumn] using hcolumn)
    refine Op.Issues.bind ?_ fun rows => joinFirst_issues
    refine Op.Issues.bind (Op.Issues.runStatement _ ?_) fun _ => Op.Issues.pure _
    exact .inr ⟨related, ⟨j, hj, hrelated⟩, hlookup⟩

theorem loadRows_issues {rows : List Row} :
    (loadRows x e rows : Op δ (List Value)).Issues (Searches x e) := by
  refine Op.Issues.mapM fun row _ => ?_
  refine Op.Issues.bind hydrateRow_issues fun v => ?_
  refine Op.Issues.bind (Op.Issues.forM fun j hj => ?_) fun _ => Op.Issues.pure _
  exact Op.Issues.bind (resolveJoin_issues hj) fun _ => Op.Issues.pure _

theorem loadResult_issues {s : Statement} (hs : Searches x e s) {ps : List Value} {many : Bool} :
    (loadResult x e s ps many : Op δ Value).Issues (Searches x e) := by
  refine Op.Issues.withConnection ?_
  refine Op.Issues.bind ?_ fun rows => ?_
  · exact Op.Issues.bind (Op.Issues.runStatement _ hs) fun _ => Op.Issues.pure _
  · split <;> exact Op.Issues.bind loadRows_issues fun _ => Op.Issues.pure _

theorem find_issues {many : Option Bool} :
    (find x e q args many : Op δ Value).Issues (Searches x e) := by
  refine Op.Issues.ofResult_bind fun selection hselection => ?_
  obtain ⟨-, hcompiled, -⟩ := selectionFor_eq_ok hselection
  have hselect : Selects e (.select e.table selection) :=
    selects_select hcompiled.connected.plainWords hcompiled.columns
  refine Op.Runs.records_bind fun rs => Op.Issues.ofResult_bind fun ps _ => ?_
  exact loadResult_issues (.inl hselect)

theorem anyExists_issues : (anyExists x e q args : Op δ Value).Issues (Selects e) := by
  refine Op.Issues.ofResult_bind fun selection hselection => ?_
  obtain ⟨-, hcompiled, -⟩ := selectionFor_eq_ok hselection
  have hcount : Selects e (.count e.table selection) :=
    selects_count hcompiled.connected.plainWords hcompiled.columns
  refine Op.Issues.bind (Op.Issues.withConnection ?_) fun reply => ?_
  · refine Op.Runs.records_bind fun rs => Op.Issues.ofResult_bind fun ps _ => ?_
    exact Op.Issues.runStatement _ hcount
  · exact Op.Issues.ofResult_bind fun _ _ => Op.Issues.pure _

/-! ## Deleting and updating -/

/-- The deletion of the rows of a query. -/
def Deletes (e : Entity) (q : Method.Query) (s : Statement) : Prop :=
  ∃ selection, Compiled e q selection ∧ s = .delete e.table (.filter selection.filter)

/-- An update of the rows of a query. -/
def Updates (e : Entity) (q : Method.Query) (s : Statement) : Prop :=
  ∃ selection columns, Compiled e q selection ∧ (∀ c ∈ columns, c ∈ e.physicalColumns)
    ∧ s = .update e.table columns (.filter selection.filter)

theorem Deletes.about {s : Statement} (h : Deletes e q s) : s.About e := by
  obtain ⟨selection, hcompiled, rfl⟩ := h
  exact ⟨_, names_delete e.table hcompiled.connected.plainWords, hcompiled.filter_columns⟩

theorem Updates.about {s : Statement} (h : Updates e q s) : s.About e := by
  obtain ⟨selection, columns, hcompiled, hcolumns, rfl⟩ := h
  refine ⟨_, names_update e.table columns hcompiled.connected.plainWords, fun c hc => ?_⟩
  rcases List.mem_append.mp hc with hc | hc
  · exact hcolumns c hc
  · exact hcompiled.filter_columns c hc

omit [Database δ] in
theorem checkWritable_quiet (k : Connection) (operation : String) (w : World δ) :
    (k.checkWritable operation w).2.statements = w.statements := by
  unfold Connection.checkWritable
  split <;> rfl

theorem Connection.delete_runs (k : Connection) (table : String) (c : Condition)
    (ps : List Value) : (k.delete table c ps : Op δ Int).Runs
      fun l => l = [] ∨ l = [.delete table c] := by
  refine Op.Runs.quiet_bind (.inl rfl) (checkWritable_quiet k _) fun _ => ?_
  exact Op.Runs.bind_quiet (Op.Runs.runStatement _ (.inr rfl)) fun _ _ => rfl

theorem Connection.update_runs (k : Connection) (table : String) (values : List (String × Value))
    (c : Condition) (ps : List Value) : (k.update table values c ps : Op δ Int).Runs
      fun l => l = [] ∨ l = [.update table (values.map (·.1)) c] := by
  refine Op.Runs.quiet_bind (.inl rfl) (checkWritable_quiet k _) fun _ => ?_
  exact Op.Runs.bind_quiet (Op.Runs.runStatement _ (.inr rfl)) fun _ _ => rfl

/-- A deletion runs its one statement, if any. -/
theorem delete_runs : (delete x e q args : Op δ Value).Runs
    fun l => l = [] ∨ ∃ s, Deletes e q s ∧ l = [s] := by
  refine Op.Runs.ofResult_bind (.inl rfl) fun selection hselection => ?_
  obtain ⟨-, hcompiled, -⟩ := selectionFor_eq_ok hselection
  refine Op.Runs.bind_quiet (Op.Runs.withConnection (.inl rfl) ?_) fun _ _ => rfl
  refine Op.Runs.records_bind fun rs => Op.Runs.ofResult_bind (.inl rfl) fun ps _ => ?_
  refine (Connection.delete_runs _ _ _ _).mono ?_
  rintro l (hl | hl)
  · exact .inl hl
  · exact .inr ⟨_, ⟨selection, hcompiled, rfl⟩, hl⟩

/-- So does an update. -/
theorem update_runs : (update x e q args : Op δ Value).Runs
    fun l => l = [] ∨ ∃ s, Updates e q s ∧ l = [s] := by
  refine Op.Runs.records_bind fun rs => Op.Runs.ofResult_bind (.inl rfl) fun u hu => ?_
  obtain ⟨-, ⟨selection, hcompiled, hfilter⟩, hcolumns⟩ := ofCall_eq_ok hu
  refine Op.Runs.bind_quiet (Op.Runs.withConnection (.inl rfl) ?_) fun _ _ => rfl
  refine (Connection.update_runs _ _ _ _ _).mono ?_
  rintro l (hl | hl)
  · exact .inl hl
  · rw [hfilter] at hl
    exact .inr ⟨_, ⟨selection, _, hcompiled, hcolumns, rfl⟩, hl⟩

/-! ## Saving -/

/-- The statement inserts a row into an entity's table. -/
def InsertsInto (e : Entity) (s : Statement) : Prop := s.isInsert = true ∧ s.About e

/-- What a saving may run : a count of rows or an insertion, for the entity or for one that joins
lead to. -/
def Saves (x : Library) (e : Entity) (s : Statement) : Prop :=
  ∃ e', Reaches x e e' ∧ (Selects e' s ∨ InsertsInto e' s)

theorem validateRelated_issues (fuel : Nat) (h : Reaches x e e') :
    (validateRelated x fuel e' v : Op δ Unit).Issues (Saves x e) := by
  induction fuel generalizing e' v with
  | zero => exact Op.Issues.throw _
  | succ fuel ih =>
    rw [validateRelated]
    refine Op.Issues.forM fun j hj => Op.Runs.records_bind fun rs => ?_
    dsimp only
    split
    · exact Op.Issues.pure _
    · refine Op.Issues.describing_bind fun related hrelated => ?_
      have hreaches : Reaches x e related := h.related hj hrelated
      split
      · refine Op.Issues.bind (ih hreaches) fun _ => ?_
        exact validate_issues.mono fun s hs => ⟨related, hreaches, .inl hs⟩
      · exact Op.Issues.pure _

theorem saves_rules (x : Library) (e : Entity) (w : World δ) :
    InsertRules x (fun n => Reaches x e n.entity) (Since (Saves x e) w) where
  newRecord _ _ h := h
  standIn _ _ _ _ _ h _ _ _ _ _ _ := h
  foreignKey _ _ _ _ _ _ h _ _ _ _ _ _ := h
  statement _ n columns ps d h hn hcolumns := by
    have habout : InsertsInto n.entity (.insert n.entity.table columns) :=
      ⟨rfl, columns, names_insert _ _, hcolumns⟩
    exact h.after ⟨n.entity, hn, .inr habout⟩ ps d
  number _ _ _ _ h _ _ _ _ := h
  related _ _ _ _ _ hn hj _ hrelated _ _ := hn.related hj hrelated

/-- Inserting an entity inserts rows for it and for what joins lead to. -/
theorem insertEntity_issues (k : Connection) (fuel : Nat) :
    (insertEntity x k fuel e v : Op δ Int).Issues (Saves x e) := by
  have hroot : Reaches x e (Node.mk e v).entity := .refl
  exact Op.Issues.of_keeps fun w => (saves_rules x e w).insertEntity_keeps k fuel hroot

theorem save_issues {validating : Bool} :
    (save x validating e v : Op δ Value).Issues (Saves x e) := by
  have hwrite : ∀ rs : Records, (do
      let _ ← writing x.management fun k => insertEntity x k (relationDepth rs) e v
      return v : Op δ Value).Issues (Saves x e) := fun rs =>
    Op.Issues.bind (Op.Issues.withConnection (insertEntity_issues _ _)) fun _ => Op.Issues.pure _
  refine Op.Runs.records_bind fun rs => Op.Issues.ofResult_bind fun _ _ => ?_
  cases validating with
  | false => exact hwrite rs
  | true =>
    refine Op.Issues.bind (validateRelated_issues _ .refl) fun _ => ?_
    refine Op.Issues.bind ?_ fun _ => hwrite rs
    exact validate_issues.mono fun s hs => ⟨e, .refl, .inl hs⟩

end EntityMap
