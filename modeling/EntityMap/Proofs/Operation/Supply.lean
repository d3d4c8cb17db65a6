import EntityMap.Operation.Invocation
import EntityMap.Proofs.Operation.Assignment
import EntityMap.Proofs.Storage.Transactions

/-!
# What statements are supplied with

The statements that an operation other than a saving runs, each with its columns and the values for
them : a validation counts rows by a value of the entity or by the key of a related one
(`CountsFor`), a query compares the columns of its terms with its arguments (`Compares`), an update
assigns what it is supplied with besides (`Assigns`), and for every row that is found the joins are
looked up by their keys (`LooksUp`).

Each operation carries on a course of transactions whose statements are these (`loadResult_carries`,
`find_carries` and so on).
-/

namespace EntityMap

variable {δ : Type} {x : Library} {e : Entity} {q : Method.Query} {args : List Value}

/-! ## Values for columns -/

/-- Rows are counted by a unique column of an entity, for the value of its field, or by the column
of a unique join, for the key of the related entity. -/
inductive CountsFor (x : Library) (rs : Records) (n : Node) :
    Statement → List (String × Value) → Prop
  | column {col : Column} {value : Value} (unique : col ∈ n.entity.columns)
      (stored : stored (rs.get n.object col.field) = .ok value) :
      CountsFor x rs n (.count n.entity.table (.byColumn col.name)) [(col.name, value)]
  | join {j : Join} {source : Column} {key : Value} (unique : j ∈ n.entity.joins)
      (column : x.catalogue.sourceColumn j = .ok source)
      (stored : stored (rs.get (rs.get n.object j.field) source.field) = .ok key) :
      CountsFor x rs n (.count n.entity.table (.byColumn j.target)) [(j.target, key)]

/-- The related entity of a join is looked up by the source of the join, for the key that an entity
or its row has. -/
inductive LooksUp (x : Library) (e : Entity) (row : Row) (rs : Records) :
    Statement → List (String × Value) → Prop
  | join {owner : Value} {j : Join} {related : Entity} {source : Column} {key : Value}
      (join : j ∈ e.joins) (entity : x.catalogue.describeRelated j = .ok related)
      (column : x.catalogue.sourceColumn j = .ok source)
      (stored : j.keyValue rs e owner (some row) = .ok key) :
      LooksUp x e row rs (.select related.table (.byColumn source.name)) [(source.name, key)]

/-- A selection compares the columns of the terms of a query, in their order, and the arguments of a
call are for them, in their order. -/
structure Compares (e : Entity) (q : Method.Query) (rs : Records) (args : List Value)
    (selection : Selection) (pairs : List (String × Value)) : Prop where
  compiled : Compiled e q selection
  columns : selection.filter.columns = pairs.map (·.1)
  terms : List.Forall₂ (fun term p => resolveField e.fieldColumns term = .ok p.1) q.terms pairs
  arguments : List.Forall₂ (fun arg p => bindArgument rs arg = .ok p.2) args pairs

/-- The arguments of an update that are compared : all but the mapping, or those after the ones for
the fields of the name. -/
def comparedArguments (q : Method.Query) (args : List Value) : List Value :=
  args.drop (if q.setFields.isEmpty then 1 else q.setFields.length)

/-- With as many arguments as it compares, a selection that is bound compares them. -/
theorem exists_compares {rs : Records} {selection : Selection} {ps : List Value}
    (hcompiled : Compiled e q selection) (hcount : args.length = selection.paramCount)
    (hps : bindArguments rs args = .ok ps) :
    ∃ pairs, Compares e q rs args selection pairs ∧ pairs.map (·.2) = ps := by
  have hbound := mapM_eq_ok.mp hps
  have hlength : selection.filter.columns.length = ps.length := hcount.symm.trans hbound.length_eq
  have hcolumns : (selection.filter.columns.zip ps).map (·.1) = selection.filter.columns :=
    List.map_fst_zip hlength.le
  have hvalues : (selection.filter.columns.zip ps).map (·.2) = ps := List.map_snd_zip hlength.ge
  refine ⟨selection.filter.columns.zip ps, ⟨hcompiled, hcolumns.symm, ?_, ?_⟩, hvalues⟩
  · have hterms := hcompiled.terms
    rwa [← hcolumns, List.forall₂_map_right_iff] at hterms
  · rwa [← hvalues, List.forall₂_map_right_iff] at hbound

/-- An update that is settled compares the rest of the arguments. -/
theorem ofCall_compares {rs : Records} {u : Update} (h : Update.ofCall rs e q args = .ok u) :
    ∃ selection pairs, Compares e q rs (comparedArguments q args) selection pairs
      ∧ u.filter = selection.filter ∧ u.parameters = pairs.map (·.2) := by
  rw [Update.ofCall] at h
  obtain ⟨_, -, h⟩ := Except.bind_eq_ok.mp h
  obtain ⟨selection, hcompile, h⟩ := Except.bind_eq_ok.mp h
  have hrest : ∃ ps, bindArguments rs (comparedArguments q args) = .ok ps
      ∧ (comparedArguments q args).length = selection.paramCount ∧ u.filter = selection.filter
      ∧ u.parameters = ps := by
    unfold comparedArguments
    split at h
    · next hnone =>
      obtain ⟨⟨values, compared⟩, hvalues, h⟩ := Except.bind_eq_ok.mp h
      obtain ⟨ps, hps, h⟩ := Except.bind_eq_ok.mp h
      cases h
      unfold mappedSettings at hvalues
      split at hvalues
      · cases hvalues
      · obtain ⟨_, hcount, hvalues⟩ := Except.bind_eq_ok.mp hvalues
        obtain ⟨_, -, hvalues⟩ := Except.bind_eq_ok.mp hvalues
        cases hvalues
        have hlength := checkCount_eq_ok.mp hcount
        rw [if_pos hnone]
        exact ⟨ps, hps, by simpa using hlength, rfl, rfl⟩
      · cases hvalues
    · next hsome =>
      obtain ⟨⟨values, compared⟩, hvalues, h⟩ := Except.bind_eq_ok.mp h
      obtain ⟨ps, hps, h⟩ := Except.bind_eq_ok.mp h
      cases h
      obtain ⟨_, hcount, hvalues⟩ := Except.bind_eq_ok.mp hvalues
      obtain ⟨_, -, hvalues⟩ := Except.bind_eq_ok.mp hvalues
      cases hvalues
      have hlength := checkCount_eq_ok.mp hcount
      rw [if_neg hsome]
      exact ⟨ps, hps, by rw [List.length_drop, hlength, Nat.add_sub_cancel_left], rfl, rfl⟩
  obtain ⟨ps, hps, hcount, hfilter, hparameters⟩ := hrest
  obtain ⟨pairs, hcompares, rfl⟩ := exists_compares (compile_eq_ok hcompile) hcount hps
  exact ⟨selection, pairs, hcompares, hfilter, hparameters⟩

/-! ## Validating -/

variable [Database δ] {P : World δ → Statement → List Value → Prop} {w₀ w : World δ}

theorem holdsValue_carries {table column : String} {v : Value} (hw : Course (Asks P) w₀ none w)
    (hP : P w (.count table (.byColumn column)) [v]) :
    (holdsValue table column v).Carries (Asks P) w₀ w :=
  Op.Ends.bind (Op.Ends.runStatement hw hP) fun _ w' hw' => Op.Takes.ofResult _ w₀ w' hw'.1

section

variable {n : Node} (hP : ∀ w s pairs, CountsFor x w.records n s pairs → P w s (pairs.map (·.2)))
include hP

theorem columnViolation_takes {col : Column} (hcol : col ∈ n.entity.columns) :
    (columnViolation x n.entity n.object col).Takes (Asks P) := by
  intro w₀ w hw
  refine Op.Ends.records_bind ?_
  dsimp only
  split
  · exact Op.Takes.pure _ w₀ w hw
  split
  · split <;> exact Op.Takes.pure _ w₀ w hw
  split
  · refine Op.Ends.ofResult_bind (fun value hvalue => ?_) fun f _ => hw.raised f
    refine (holdsValue_carries hw (hP w _ _ (.column hcol hvalue))).bind fun taken w' hw' => ?_
    split <;> exact Op.Takes.pure _ w₀ w' hw'
  · exact Op.Takes.pure _ w₀ w hw

theorem joinViolation_takes {j : Join} (hj : j ∈ n.entity.joins) :
    (joinViolation x n.entity n.object j).Takes (Asks P) := by
  intro w₀ w hw
  refine Op.Ends.records_bind ?_
  dsimp only
  split
  · split <;> exact Op.Takes.pure _ w₀ w hw
  split
  · refine Op.Ends.describing_bind (fun source hsource => ?_) fun _ _ => hw.raised _
    refine Op.Ends.ofResult_bind (fun key hkey => ?_) fun f _ => hw.raised f
    split
    · exact Op.Takes.pure _ w₀ w hw
    · refine (holdsValue_carries hw (hP w _ _ (.join hj hsource hkey))).bind fun taken w' hw' => ?_
      split <;> exact Op.Takes.pure _ w₀ w' hw'
  · exact Op.Takes.pure _ w₀ w hw

/-- Looking for violations is one transaction. -/
theorem violations_takes :
    (violations x n.entity n.object).Takes (Transaction P x.management) := by
  unfold violations
  split
  · exact Op.Takes.throw _
  · refine Op.Takes.withConnection ?_
    refine (Op.Takes.mapM fun col hcol => columnViolation_takes hP hcol).bind fun _ => ?_
    refine (Op.Takes.mapM fun j hj => joinViolation_takes hP hj).bind fun _ => ?_
    exact Op.Takes.pure _

theorem validate_takes : (validate x n.entity n.object).Takes (Transaction P x.management) := by
  refine (violations_takes hP).bind fun found => ?_
  split
  · exact Op.Takes.pure _
  · exact Op.Takes.throw _

theorem isValid_takes : (isValid x n.entity n.object).Takes (Transaction P x.management) :=
  (violations_takes hP).bind fun _ => Op.Takes.pure _

end

/-! ## Finding -/

omit [Database δ] in
theorem hydrateRow_takes {S : World δ → Option Failure → World δ → Prop} (x : Library) (e : Entity)
    (row : Row) : (hydrateRow x e row : Op δ Value).Takes S :=
  Op.Takes.records_bind fun _ => Op.Takes.ofResult_bind fun r _ => Op.Takes.addRecord r

omit [Database δ] in
theorem joinFirst_takes {S : World δ → Option Failure → World δ → Prop} (x : Library)
    (related : Entity) (source : Column) (owner : Value) (j : Join) (key : Value)
    (rows : List Row) : (joinFirst x related source owner j key rows : Op δ Value).Takes S := by
  cases rows with
  | nil => exact Op.Takes.pure _
  | cons row more =>
    have hrest : ∀ _ : Unit, (do
        let v ← hydrateRow x related row
        Op.setField owner j.field v
        return v : Op δ Value).Takes S := fun _ =>
      (hydrateRow_takes x related row).bind fun v =>
        (Op.Takes.setField _ _ _).bind fun _ => Op.Takes.pure _
    unfold joinFirst
    dsimp only
    split
    · exact hrest ()
    · exact Op.Takes.records_bind fun rs => (Op.Takes.warn _).bind hrest

section

variable {row : Row}
  (hP : ∀ w s pairs, LooksUp x e row w.records s pairs → P w s (pairs.map (·.2)))
include hP

theorem resolveJoin_takes {j : Join} (hj : j ∈ e.joins) (owner : Value) :
    (resolveJoin x e owner (some row) j).Takes (Asks P) := by
  intro w₀ w hw
  refine Op.Ends.records_bind ?_
  refine Op.Ends.ofResult_bind (fun key hkey => ?_) fun f _ => hw.raised f
  split
  · split
    · exact Op.Takes.pure _ w₀ w hw
    · have hstub : (placeholder x j : Op δ Value).Takes (Asks P) :=
        Op.Takes.ofResult_bind fun r _ => Op.Takes.addRecord r
      exact (hstub.bind fun v => (Op.Takes.setField _ _ _).bind fun _ => Op.Takes.pure v) w₀ w hw
  · refine Op.Ends.describing_bind (fun related hrelated => ?_) fun _ _ => hw.raised _
    refine Op.Ends.describing_bind (fun source hsource => ?_) fun _ _ => hw.raised _
    have hlookup : P w (.select related.table (.byColumn source.name)) [key] :=
      hP w _ _ (.join hj hrelated hsource hkey)
    refine Op.Ends.bind (Op.Ends.bind (Op.Ends.runStatement hw hlookup) fun reply w' hw' =>
      Op.Takes.pure _ w₀ w' hw'.1) fun rows w' hw' => ?_
    exact joinFirst_takes x related source owner j key rows w₀ w' hw'

theorem loadRow_takes : (loadRow x e row).Takes (Asks P) := by
  refine (hydrateRow_takes x e row).bind fun v => ?_
  refine (Op.Takes.forM fun j hj => ?_).bind fun _ => Op.Takes.pure _
  exact (resolveJoin_takes hP hj v).bind fun _ => Op.Takes.pure _

end

/-- The row is one that the statement returns once the connection has been opened. -/
def Returns (m : Management) (w : World δ) (s : Statement) (ps : List Value) (row : Row) : Prop :=
  ∃ opened reply w₁, ensureOpen m w = (.ok (), opened)
    ∧ runStatement s ps opened = (.ok reply, w₁) ∧ row ∈ reply.fetched

/-- Loading what a statement returns is one transaction : the statement, and for each of its rows
the joins. -/
theorem loadResult_carries {s : Statement} {ps : List Value} {many : Bool}
    (hw : Course (Transaction P x.management) w₀ none w) (hmain : ∀ w₁, P w₁ s ps)
    (hrows : ∀ row, Returns x.management w s ps row → ∀ w₁ t pairs,
      LooksUp x e row w₁.records t pairs → P w₁ t (pairs.map (·.2))) :
    (loadResult x e s ps many).Carries (Transaction P x.management) w₀ w := by
  refine Op.Carries.withConnection hw fun opened hopen => ?_
  have hquery : (queryRows s ps).Ends opened
      (fun rows w₁ => Course (Asks P) opened none w₁
        ∧ ∀ row ∈ rows, Returns x.management w s ps row)
      fun f => Course (Asks P) opened (some f) :=
    Op.Ends.bind (Op.Ends.runStatement .start (hmain opened)) fun reply w₁ h =>
      Op.Ends.pure ⟨h.1, fun row hrow => ⟨opened, reply, w₁, hopen, h.2, hrow⟩⟩
  refine Op.Ends.bind hquery ?_
  rintro rows w₁ ⟨hcourse, hreturns⟩
  -- Either all rows are loaded or only the first.
  have hload : ∀ some ⊆ rows, (loadRows x e some).Takes (Asks P) := fun some hsub =>
    Op.Takes.mapM fun row hrow => loadRow_takes (hrows row (hreturns row (hsub hrow)))
  split
  · exact ((hload rows (List.Subset.refl rows)).bind fun _ => Op.Takes.pure _) opened w₁ hcourse
  · exact ((hload _ (List.take_subset 1 rows)).bind fun _ => Op.Takes.pure _) opened w₁ hcourse

/-! ## Queries -/

/-- What the statements of a query other than a saving are supplied with, in the world where they
are run, if the query begins in another one. -/
inductive QuerySupply (x : Library) (e : Entity) (q : Method.Query) (args : List Value)
    (w w₁ : World δ) : Statement → List (String × Value) → Prop
  | found {selection : Selection} {pairs : List (String × Value)}
      (compares : Compares e q w.records args selection pairs) :
      QuerySupply x e q args w w₁ (.select e.table selection) pairs
  /-- A join is followed from a row that has been found. -/
  | followed {selection : Selection} {pairs lookup : List (String × Value)} {row : Row}
      {s : Statement} (compares : Compares e q w.records args selection pairs)
      (returned : Returns x.management w (.select e.table selection) (pairs.map (·.2)) row)
      (looksUp : LooksUp x e row w₁.records s lookup) : QuerySupply x e q args w w₁ s lookup
  | counted {selection : Selection} {pairs : List (String × Value)}
      (compares : Compares e q w.records args selection pairs) :
      QuerySupply x e q args w w₁ (.count e.table selection) pairs
  | deleted {selection : Selection} {pairs : List (String × Value)}
      (compares : Compares e q w.records args selection pairs) :
      QuerySupply x e q args w w₁ (.delete e.table (.filter selection.filter)) pairs
  /-- The values that are set come before the arguments that are compared ; of two values for one
  column the later is set. -/
  | updated {selection : Selection} {assignments pairs : List (String × Value)}
      (resolution : Resolution w.records (suppliedValues e q args) assignments)
      (compares : Compares e q w.records (comparedArguments q args) selection pairs) :
      QuerySupply x e q args w w₁
        (.update e.table ((distinctNames assignments).map (·.1)) (.filter selection.filter))
        (distinctNames assignments ++ pairs)

section

variable (hP : ∀ w₁ s pairs, QuerySupply x e q args w w₁ s pairs → P w₁ s (pairs.map (·.2)))
  (hw : Course (Transaction P x.management) w₀ none w)
include hP hw

theorem find_carries {many : Option Bool} :
    (find x e q args many).Carries (Transaction P x.management) w₀ w := by
  refine Op.Ends.ofResult_bind (fun selection hselection => ?_) fun f _ => hw.raised f
  obtain ⟨-, hcompiled, hcount⟩ := selectionFor_eq_ok hselection
  refine Op.Ends.records_bind ?_
  refine Op.Ends.ofResult_bind (fun ps hps => ?_) fun f _ => hw.raised f
  obtain ⟨pairs, hcompares, rfl⟩ := exists_compares hcompiled hcount hps
  exact loadResult_carries hw (fun w₁ => hP w₁ _ _ (.found hcompares)) fun row hrow w₁ t lookup h =>
    hP w₁ t lookup (.followed hcompares hrow h)

theorem anyExists_carries :
    (anyExists x e q args).Carries (Transaction P x.management) w₀ w := by
  refine Op.Ends.ofResult_bind (fun selection hselection => ?_) fun f _ => hw.raised f
  obtain ⟨-, hcompiled, hcount⟩ := selectionFor_eq_ok hselection
  refine Op.Ends.bind (Op.Carries.withConnection hw fun opened hopen => ?_) fun reply w' hw' =>
    (Op.Takes.ofResult_bind fun _ _ => Op.Takes.pure _) w₀ w' hw'
  -- The arguments are bound on the open connection ; opening it has changed no entity.
  have hrecords := (silent_of_ensureOpen readInvariant_true hopen).records
  refine Op.Ends.records_bind ?_
  refine Op.Ends.ofResult_bind (fun ps hps => ?_) fun f _ => Course.start.raised f
  obtain ⟨pairs, hcompares, rfl⟩ := exists_compares hcompiled hcount (hrecords ▸ hps)
  exact Op.Takes.runStatement (fun w₁ => hP w₁ _ _ (.counted hcompares)) opened opened .start

theorem delete_carries : (delete x e q args).Carries (Transaction P x.management) w₀ w := by
  refine Op.Ends.ofResult_bind (fun selection hselection => ?_) fun f _ => hw.raised f
  obtain ⟨-, hcompiled, hcount⟩ := selectionFor_eq_ok hselection
  refine Op.Ends.bind (Op.Carries.withConnection hw fun opened hopen => ?_) fun n w' hw' =>
    Op.Takes.pure _ w₀ w' hw'
  have hrecords := (silent_of_ensureOpen readInvariant_true hopen).records
  refine Op.Ends.records_bind ?_
  refine Op.Ends.ofResult_bind (fun ps hps => ?_) fun f _ => Course.start.raised f
  obtain ⟨pairs, hcompares, rfl⟩ := exists_compares hcompiled hcount (hrecords ▸ hps)
  have hrun := Op.Takes.runStatement fun w₁ => hP w₁ _ _ (.deleted hcompares)
  exact ((Op.Takes.checkWritable _ _).bind fun _ => hrun.bind fun _ => Op.Takes.pure _)
    opened opened .start

theorem update_carries : (update x e q args).Carries (Transaction P x.management) w₀ w := by
  refine Op.Ends.records_bind ?_
  refine Op.Ends.ofResult_bind (fun u hu => ?_) fun f _ => hw.raised f
  obtain ⟨assignments, hresolution, hvalues⟩ := ofCall_resolution hu
  obtain ⟨selection, pairs, hcompares, hfilter, hparameters⟩ := ofCall_compares hu
  refine Op.Ends.bind (Op.Carries.withConnection hw fun opened _ => ?_) fun n w' hw' =>
    Op.Takes.pure _ w₀ w' hw'
  have hrun : (runStatement (.update e.table (u.values.map (·.1)) (.filter u.filter))
      (u.values.map (·.2) ++ u.parameters)).Takes (Asks P) := by
    refine Op.Takes.runStatement fun w₁ => ?_
    rw [hvalues, hfilter, hparameters, ← List.map_append]
    exact hP w₁ _ _ (.updated hresolution hcompares)
  exact ((Op.Takes.checkWritable _ _).bind fun _ => hrun.bind fun _ => Op.Takes.pure _)
    opened opened .start

end

end EntityMap
