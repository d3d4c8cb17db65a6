import EntityMap.Proofs.Engine.Rows
import EntityMap.Proofs.Operation.Fitting
import EntityMap.Proofs.Validation.Unique

/-!
# All verbs read a predicate alike

After a verb and `By` stands a text. `exists`, `delete` and `update` refuse a call together, or
none of them does and neither do `find` and `findAll` (`predicate_read_alike`). Then their
statements are about the rows of one filter : with the same text of the condition, on the same
table, and the same parameters for it.

In a database in memory these are the same rows (`Addresses`). Rows are there if any exist, and
what is deleted or changed is what would be selected, and nothing else.
-/

namespace EntityMap

open Method (Verb PredicatePhrase StartsWord)

variable {x : Library} {e : Entity} {p : PredicatePhrase} {args : List Value} {f : Filter}

/-- The rows of a filter whose comparisons are with arguments, and their table. -/
def World.rowsOf (w : World MemoryDatabase) (e : Entity) (f : Filter) (args : List Value) :
    Except StatementError (Engine.StoredTable × List Engine.StoredRow) :=
  Engine.selected w.records w.database.contents e.table ⟨f, none⟩ (args.map Value.asParameter)

/-! ## Statements in memory -/

section

variable {α : Type} {w w₁ w' : World MemoryDatabase}

theorem execute_of_runStatement {s : Statement} {ps : List Value} {reply : Reply}
    (h : runStatement s ps w = (.ok reply, w')) :
    Engine.execute w.records w.database.enforcing w.database.contents s ps =
      .ok (reply, w'.database.contents) := by
  obtain ⟨d, hrun, rfl⟩ := runStatement_eq_ok.mp h
  change MemoryDatabase.run w.records s ps w.database = _ at hrun
  unfold MemoryDatabase.run at hrun
  split at hrun
  · next hexecute =>
    cases hrun
    exact hexecute
  · cases hrun

/-- A statement that is run for the number of rows that it changes. -/
theorem execute_of_changed {s : Statement} {ps : List Value} {n : Int}
    (h : (runStatement s ps >>= fun reply => pure reply.changed : Op MemoryDatabase Int) w =
      (.ok n, w')) :
    ∃ reply, Engine.execute w.records w.database.enforcing w.database.contents s ps =
      .ok (reply, w'.database.contents) ∧ n = reply.changed := by
  obtain ⟨reply, w₁, hrun, h⟩ := Op.bind_eq_ok.mp h
  cases h
  exact ⟨reply, execute_of_runStatement hrun, rfl⟩

theorem contents_leave (m : Management) (w : World MemoryDatabase) :
    (w.commit.leave m).database.contents = w.database.contents := by
  unfold World.leave
  split <;> rfl

/-- What a body leaves in memory is there after the connection is left. -/
theorem exists_of_withConnection {m : Management} {body : Op MemoryDatabase α} {a : α}
    (hopen : ensureOpen m w = (.ok (), w₁)) (h : withConnection m body w = (.ok a, w')) :
    ∃ w₂, body w₁ = (.ok a, w₂) ∧ w'.database.contents = w₂.database.contents := by
  obtain ⟨w₁', w₂, hopen', hbody, -, rfl⟩ := withConnection_eq_ok.mp h
  rw [hopen] at hopen'
  cases hopen'
  exact ⟨w₂, hbody, contents_leave m w₂⟩

theorem withConnection_result {m : Management} {body : Op MemoryDatabase α}
    (hopen : ensureOpen m w = (.ok (), w₁)) : (withConnection m body w).1 = (body w₁).1 := by
  unfold withConnection
  rw [hopen]
  rcases hb : body w₁ with ⟨f | a, w₂⟩
  · simp [committing_eq_error.mpr (.inl hb)]
  · simp [committing_eq_ok.mpr ⟨w₂, hb, rfl, rfl⟩]

/-- A selection gives the rows that are selected. -/
theorem runStatement_select (table : String) (s : Selection) (ps : List Value)
    (w : World MemoryDatabase) :
    (runStatement (.select table s) ps w).1 =
      ((Engine.selected w.records w.database.contents table s ps).mapError
        StatementError.toFailure).map fun found => Engine.rowsReply found.1 found.2 := by
  have hexecute : Engine.execute w.records w.database.enforcing w.database.contents
      (.select table s) ps = (Engine.selected w.records w.database.contents table s ps).map
        fun found => (Engine.rowsReply found.1 found.2, w.database.contents) := by
    show (Engine.selected w.records w.database.contents table s ps >>= fun found => pure _) = _
    cases Engine.selected w.records w.database.contents table s ps <;> rfl
  show (MemoryDatabase.run w.records (.select table s) ps w.database).1.mapError _ = _
  rw [MemoryDatabase.run, hexecute]
  cases Engine.selected w.records w.database.contents table s ps <;> rfl

/-- A count gives their number. -/
theorem runStatement_count (table : String) (s : Selection) (ps : List Value)
    (w : World MemoryDatabase) :
    (runStatement (.count table s) ps w).1 =
      ((Engine.selected w.records w.database.contents table s ps).mapError
        StatementError.toFailure).map fun found =>
          { columns := ["COUNT(*)"], rows := [[.int found.2.length]] } := by
  show (MemoryDatabase.run w.records (.count table s) ps w.database).1.mapError _ = _
  rw [MemoryDatabase.run, execute_count]
  cases Engine.selected w.records w.database.contents table s ps <;> rfl

theorem isPositive_int (n : Int) : isPositive (.int n) = .ok (decide (0 < n)) := by
  rw [isPositive, if_pos (by rfl), Value.compareNumbers?]
  simp only [Value.place?, Number.Binary64.comparePlaces, Rat.intCast_lt_intCast]
  rcases Int.lt_trichotomy n 0 with h | rfl | h
  · simp [h, Int.not_lt.mpr h.le]
  · rfl
  · simp [h, Int.not_lt.mpr h.le]

theorem isPositive_length {α : Type} (as : List α) :
    isPositive (.int as.length) = .ok (!as.isEmpty) := by
  rw [isPositive_int]
  cases as <;> simp

end

/-! ## Operations in memory -/

theorem Op.result_bind {δ α β : Type} {m : Op δ α} {f : α → Op δ β} {g : α → Except Failure β}
    (h : ∀ a w, (f a w).1 = g a) (w : World δ) : ((m >>= f) w).1 = (m w).1 >>= g := by
  rw [Op.bind_apply]
  rcases m w with ⟨_ | a, w₁⟩
  · rfl
  · exact h a w₁

section

variable {w w₁ w' : World MemoryDatabase} (hfits : Fits e p args f)
  (hopen : ensureOpen x.management w = (.ok (), w₁))
include hfits hopen

/-- Rows exist if any are selected. -/
theorem Fits.anyExists_memory :
    (anyExists x e (Verb.exist.queryBy p) args w).1 =
      ((w₁.rowsOf e f args).mapError StatementError.toFailure).map fun found =>
        .bool (!found.2.isEmpty) := by
  have hselection : selectionFor e (Verb.exist.queryBy p) [.exist] args = .ok ⟨f, none⟩ :=
    selectionFor_of_compile (List.mem_singleton.mpr rfl) (hfits.compiled _) hfits.count
  let body : Op MemoryDatabase Reply := do
    runStatement (.count e.table ⟨f, none⟩) (← Op.ofResult (bindArguments (← Op.records) args))
  have hbody : body w₁ =
      runStatement (.count e.table ⟨f, none⟩) (args.map Value.asParameter) w₁ := by
    show (Op.ofResult (bindArguments w₁.records args) >>= _ : Op MemoryDatabase Reply) w₁ = _
    rw [bindArguments_of_isComparable w₁.records hfits.comparable]
    rfl
  unfold anyExists
  rw [hselection]
  show ((withConnection x.management body >>= fun reply =>
    Op.ofResult reply.countsAny >>= fun b => pure (.bool b) : Op MemoryDatabase Value) w).1 = _
  rw [Op.result_bind (g := fun reply => reply.countsAny.map .bool) fun reply w => by
      cases reply.countsAny <;> rfl,
    withConnection_result hopen, hbody, runStatement_count, ← World.rowsOf]
  cases w₁.rowsOf e f args with
  | error err => rfl
  | ok found =>
    show (isPositive (.int found.2.length)).map Value.bool = _
    rw [isPositive_length]
    rfl

/-- A deletion deletes the rows that are selected. -/
theorem Fits.delete_memory {v : Value}
    (h : delete x e (Verb.delete.queryBy p) args w = (.ok v, w')) :
    ∃ t rows, w₁.rowsOf e f args = .ok (t, rows) ∧ v = .int rows.length
      ∧ w'.database.contents = Engine.putTable w₁.database.contents
        { t with rows := t.rows.filter (· ∉ rows) } := by
  have hselection : selectionFor e (Verb.delete.queryBy p) [.delete] args = .ok ⟨f, none⟩ :=
    selectionFor_of_compile (List.mem_singleton.mpr rfl) (hfits.compiled _) hfits.count
  have hbound := bindArguments_of_isComparable w₁.records hfits.comparable
  obtain ⟨selection, hselection', h⟩ := Op.ofResult_bind_eq_ok.mp h
  obtain rfl := Except.ok.inj (hselection.symm.trans hselection')
  obtain ⟨n, w₂, hwriting, h⟩ := Op.bind_eq_ok.mp h
  cases h
  obtain ⟨w₃, hbody, hcontents⟩ := exists_of_withConnection hopen hwriting
  dsimp only at hbody
  rw [Op.records_bind] at hbody
  obtain ⟨ps, hps, hbody⟩ := Op.ofResult_bind_eq_ok.mp hbody
  obtain rfl := Except.ok.inj (hbound.symm.trans hps)
  obtain ⟨reply, hrun, rfl⟩ := execute_of_changed hbody
  obtain ⟨t, rows, hselected, hchanged, hdeleted⟩ := Engine.execute_delete hrun
  exact ⟨t, rows, hselected, by rw [hchanged], hcontents.trans hdeleted⟩

/-- An update changes them. -/
theorem Fits.update_memory {entries : List (Value × Value)} {values : List (String × Value)}
    {v : Value} (hentries : entries ≠ [])
    (hvalid : settings w.records (settableColumn e) entries = .ok values)
    (hnumbered : Engine.NumberedTables w₁.database.contents)
    (h : update x e (Verb.update.queryBy p) (.mapping entries :: args) w = (.ok v, w')) :
    ∃ t rows settings t', w₁.rowsOf e f args = .ok (t, rows)
      ∧ Engine.Changes w₁.records t (values.map (·.1)) (values.map (·.2)) settings
      ∧ v = .int rows.length
      ∧ w'.database.contents = Engine.putTable w₁.database.contents t'
      ∧ t'.definition = t.definition
      ∧ t'.rows.Perm (t.rows.filter (· ∉ rows) ++ rows.map (t.changed settings)) := by
  unfold update at h
  rw [Op.records_bind, hfits.ofCall hentries hvalid] at h
  obtain ⟨_, hu, h⟩ := Op.ofResult_bind_eq_ok.mp h
  cases hu
  obtain ⟨n, w₂, hwriting, h⟩ := Op.bind_eq_ok.mp h
  cases h
  obtain ⟨w₃, hbody, hcontents⟩ := exists_of_withConnection hopen hwriting
  obtain ⟨reply, hrun, rfl⟩ := execute_of_changed hbody
  obtain ⟨t, rows, settings, t', hselected, hchanges, hchanged, hput, hdefinition, hperm⟩ :=
    Engine.execute_update hnumbered (by simp) hrun
  exact ⟨t, rows, settings, t', hselected, hchanges, by rw [hchanged], hcontents.trans hput,
    hdefinition, hperm⟩

end

/-! ## Agreement -/

/-- In a database in memory the calls of a predicate are about the rows of a filter. -/
structure Addresses (x : Library) (e : Entity) (P : String) (args : List Value)
    (entries : List (Value × Value)) (values : List (String × Value)) (f : Filter)
    (w w₁ : World MemoryDatabase) : Prop where
  /-- These are the rows that are selected. -/
  select : (runStatement (.select e.table ⟨f, none⟩) (args.map Value.asParameter) w₁).1 =
    ((w₁.rowsOf e f args).mapError StatementError.toFailure).map fun found =>
      Engine.rowsReply found.1 found.2
  /-- `exists` is true if and only if a row is selected. -/
  exist : ∀ many b, (invoke x e (Verb.exist.nameBy P) args many w).1 = .ok (.bool b) ↔
    ∃ reply, (runStatement (.select e.table ⟨f, none⟩) (args.map Value.asParameter) w₁).1 =
      .ok reply ∧ b = !reply.rows.isEmpty
  /-- `delete` deletes them, and no others. -/
  delete : ∀ many v w', invoke x e (Verb.delete.nameBy P) args many w = (.ok v, w') →
    ∃ t rows, w₁.rowsOf e f args = .ok (t, rows) ∧ v = .int rows.length
      ∧ w'.database.contents = Engine.putTable w₁.database.contents
        { t with rows := t.rows.filter (· ∉ rows) }
  /-- `update` changes them, in the columns of the mapping, and no others. -/
  update : Engine.NumberedTables w₁.database.contents → ∀ many v w',
    invoke x e (Verb.update.nameBy P) (.mapping entries :: args) many w = (.ok v, w') →
    ∃ t rows settings t', w₁.rowsOf e f args = .ok (t, rows)
      ∧ Engine.Changes w₁.records t (values.map (·.1)) (values.map (·.2)) settings
      ∧ v = .int rows.length
      ∧ w'.database.contents = Engine.putTable w₁.database.contents t'
      ∧ t'.definition = t.definition
      ∧ t'.rows.Perm (t.rows.filter (· ∉ rows) ++ rows.map (t.changed settings))

section

variable {P : String} {entries : List (Value × Value)} {values : List (String × Value)}
  {rs : Records}

theorem Fits.addresses (hfits : Fits e p args f)
    (hq : ∀ v : Verb, v ≠ .save → Method.Query.ofName? (v.nameBy P) = .ok (v.queryBy p))
    (hentries : entries ≠ []) (hvalid : settings rs (settableColumn e) entries = .ok values)
    {w w₁ : World MemoryDatabase} (hopen : ensureOpen x.management w = (.ok (), w₁)) :
    Addresses x e P args entries values f w w₁ := by
  have hselect := runStatement_select e.table ⟨f, none⟩ (args.map Value.asParameter) w₁
  refine ⟨hselect, fun many b => ?_, fun many v w' h => ?_, fun hnumbered many v w' h => ?_⟩
  · rw [invoke_eq_runQuery (hq .exist (by decide)), hselect]
    show (anyExists x e _ args w).1 = _ ↔ _
    rw [hfits.anyExists_memory hopen, ← World.rowsOf]
    cases w₁.rowsOf e f args with
    | error err => exact iff_of_false (fun h => nomatch h) fun ⟨_, h, _⟩ => nomatch h
    | ok found =>
      have hrows : (Engine.rowsReply found.1 found.2).rows.isEmpty = found.2.isEmpty :=
        List.isEmpty_map
      show Except.ok (Value.bool (!found.2.isEmpty)) = .ok (.bool b) ↔
        ∃ reply, Except.ok (Engine.rowsReply found.1 found.2) = .ok reply ∧ b = !reply.rows.isEmpty
      simp [hrows, eq_comm]
  · rw [invoke_eq_runQuery (hq .delete (by decide))] at h
    exact hfits.delete_memory hopen h
  · rw [invoke_eq_runQuery (hq .update (by decide))] at h
    exact hfits.update_memory hopen hentries (settings_congr hvalid w.records) hnumbered h

/-- For every entity, every text after `By` that does not go on with that word, all arguments and
every mapping that is valid and not empty : either `existsBy`, `deleteBy` and `updateBy` are all
refused, with a fault of the call and before any statement ; or these and `findBy` and `findAllBy`
all run first, on the table of the entity, a statement with one and the same condition and the same
parameters for it, and the first three run no other.

Then these calls are about the same rows of a database in memory. An update needs rows in the order
of their numbers for that, as they are in every such database (`Engine.Reached.numbered`). -/
theorem predicate_read_alike (x : Library) (e : Entity) (hP : StartsWord P) (args : List Value)
    (hentries : entries ≠ []) (hvalid : settings rs (settableColumn e) entries = .ok values) :
    (∀ v ∈ [Verb.exist, .delete, .update], ∀ (δ : Type) [Database δ] many (w w₁ : World δ),
      ensureOpen x.management w = (.ok (), w₁) →
      (invoke x e (v.nameBy P) (v.arguments entries args) many).Refused w)
    ∨ ∃ f : Filter, f.text ≠ ""
      ∧ (∀ v : Verb, v ≠ .save →
        (v.statementOn e (values.map (·.1)) f).text =
          v.head e (values.map (·.1)) ++ " WHERE " ++ f.text
        ∧ ∀ (δ : Type) [Database δ] many (w w₁ : World δ),
          ensureOpen x.management w = (.ok (), w₁) →
          w₁.events ++ [.ran (v.statementOn e (values.map (·.1)) f)
              (v.written values ++ args.map Value.asParameter)]
            <+: (invoke x e (v.nameBy P) (v.arguments entries args) many w).2.events
          ∧ (v ∈ [Verb.exist, .delete, .update] →
            (invoke x e (v.nameBy P) (v.arguments entries args) many w).2.statements =
              w.statements ++ [v.statementOn e (values.map (·.1)) f]))
      ∧ ∀ w w₁ : World MemoryDatabase, ensureOpen x.management w = (.ok (), w₁) →
        Addresses x e P args entries values f w w₁ := by
  rcases Method.nameBy_alike hP with hmisread | ⟨p, hread⟩
  · refine .inl fun v hv δ _ many w w₁ _ => ?_
    obtain ⟨fault, hfault⟩ := hmisread v hv
    exact misnamed_refused hv hfault many
  by_cases hfits : ∃ f, Fits e p args f
  · obtain ⟨f, hfits⟩ := hfits
    have htext : f.text ≠ "" := hfits.text_ne_empty
    refine .inr ⟨f, htext, fun v hv => ?_, fun w w₁ hopen => ?_⟩
    · refine ⟨?_, fun δ _ many w w₁ hopen => ⟨?_, ?_⟩⟩
      · exact text_statementOn v _ htext
      · exact hfits.runs_first hv (hread v hv) hentries hvalid hopen many
      · exact fun hact => hfits.statements hact (hread v hv) hentries hvalid hopen many
    · exact hfits.addresses hread hentries hvalid hopen
  · refine .inl fun v hv δ _ many w w₁ hopen => ?_
    exact act_refused hv (hread v (ne_save_of_mem hv)) hentries hvalid hfits hopen many

end

open Sample in
/-- The product with a name is found, deleted and changed under one condition. -/
theorem predicate_read_alike_productName :
    ∃ f w₁, ensureOpen library.management stocked = (.ok (), w₁)
      ∧ (Statement.select "products" ⟨f, none⟩).text =
        "SELECT * FROM \"products\" WHERE " ++ f.text
      ∧ w₁.events ++ [.ran (.select "products" ⟨f, none⟩) [.text "pump"]] <+:
        (invoke library productEntity "findAllByName" [.text "pump"] none stocked).2.events
      ∧ (Statement.delete "products" (.filter f)).text =
        "DELETE FROM \"products\" WHERE " ++ f.text
      ∧ w₁.events ++ [.ran (.delete "products" (.filter f)) [.text "pump"]] <+:
        (invoke library productEntity "deleteByName" [.text "pump"] none stocked).2.events
      ∧ Engine.NumberedTables w₁.database.contents
      ∧ Addresses library productEntity "Name" [.text "pump"] [(.text "active", .bool false)]
        [("active", .int 0)] f stocked w₁ := by
  have hP : StartsWord "Name" := by
    intro c hc
    obtain rfl : 'N' = c := Option.some.inj hc
    rfl
  have hvalid : settings [] (settableColumn productEntity) [(.text "active", .bool false)] =
      .ok [("active", .int 0)] := by
    rfl
  obtain ⟨_, w₁, hopen⟩ := Op.exists_ok (r := ensureOpen library.management stocked) rfl
  rcases predicate_read_alike library productEntity hP [.text "pump"] (by simp) hvalid with
    hrefused | ⟨f, -, hruns, haddresses⟩
  · -- A count of such products is not refused.
    obtain ⟨g, w', hfails, -⟩ := hrefused .exist (by decide) MemoryDatabase none stocked w₁ hopen
    have hcounts : (invoke library productEntity "existsByName" [.text "pump"] none
        stocked).1.isOk = true := by
      decide +kernel
    obtain ⟨v, w'', hok⟩ := Op.exists_ok hcounts
    cases hfails.symm.trans hok
  · obtain ⟨hfound, hselects⟩ := hruns .findAll (by decide)
    obtain ⟨hdeleted, hdeletes⟩ := hruns .delete (by decide)
    have hcontents : w₁.database.contents = stock :=
      (congrArg (·.2.database.contents) hopen).symm
    have hnumbered : ∀ t ∈ w₁.database.contents, t.rows.Pairwise (·.id < ·.id) := by
      rw [hcontents]
      decide +kernel
    exact ⟨f, w₁, hopen, hfound, (hselects MemoryDatabase none _ _ hopen).1,
      hdeleted, (hdeletes MemoryDatabase none _ _ hopen).1, hnumbered, haddresses _ _ hopen⟩

end EntityMap
