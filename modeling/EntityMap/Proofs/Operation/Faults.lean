import EntityMap.Interface
import EntityMap.Proofs.Operation.Statements
import EntityMap.Proofs.Saving.Cascade
import EntityMap.Proofs.Sql.Condition

/-!
# Faults of a call

A fault of a call is found before any statement is run (`call_faults_first`). What an operation does
on a connection it does with a call that is in order : whatever fails from there on is no fault of
the call (`Op.Proceeds`). Only the arguments of `exists` and `delete` are looked at on an open
connection, and then before the statement (`Op.FaultsFirst.withConnection`).

The other way round, a search, a count or a deletion whose name parses, whose fields are all mapped
and whose arguments are as many as the comparisons, all of them texts or numbers, has no fault : its
statement is the first that is run on the connection, with these arguments.
-/

namespace EntityMap

variable {δ α β : Type} {x : Library} {e : Entity} {v : Value} {q : Method.Query}
  {args : List Value}

/-- The failure is a fault of the call : of its shape, of a field's name or of the type of an
argument. -/
def Failure.isCallFault : Failure → Bool
  | call _ | fieldNotFound _ | unsupportedArgument _ => true
  | _ => false

/-! ## Results of a call that is in order -/

/-- If the result is a failure, it is no fault of the call. -/
def Faultless (r : Except Failure α) : Prop := ∀ f, r = .error f → f.isCallFault = false

theorem Faultless.ok (a : α) : Faultless (.ok a) :=
  fun _ h => nomatch h

theorem Faultless.error {f : Failure} (h : f.isCallFault = false) :
    Faultless (.error f : Except Failure α) := by
  rintro _ ⟨⟩
  exact h

theorem Faultless.mapError {ε : Type} {g : ε → Failure} (h : ∀ e, (g e).isCallFault = false)
    (r : Except ε α) : Faultless (r.mapError g) := by
  cases r with
  | error e => exact .error (h e)
  | ok a => exact .ok a

theorem Faultless.bind {r : Except Failure α} {f : α → Except Failure β} (hr : Faultless r)
    (hf : ∀ a, Faultless (f a)) : Faultless (r >>= f) := by
  cases r with
  | error e => exact .error (hr e rfl)
  | ok a => exact hf a

theorem Faultless.foldlM {f : β → α → Except Failure β} (h : ∀ b a, Faultless (f b a))
    (as : List α) (b : β) : Faultless (as.foldlM f b) := by
  induction as generalizing b with
  | nil => exact .ok b
  | cons a as ih =>
    rw [List.foldlM_cons]
    exact (h b a).bind ih

theorem faultless_stored (v : Value) : Faultless (stored v) :=
  .mapError (fun _ => rfl) _

theorem faultless_hydrate (c : Catalogue) (rs : Records) (e : Entity) (row : Row) :
    Faultless (hydrate c rs e row) := by
  refine (Faultless.mapError (fun _ => rfl) _).bind fun empty => Faultless.foldlM ?_ _ _
  intro r col
  unfold hydrateColumn
  split
  · exact .ok r
  · split
    · exact .ok _
    · exact .error rfl

theorem faultless_keyValue (rs : Records) (e : Entity) (owner : Value) (row : Option Row)
    (j : Join) : Faultless (j.keyValue rs e owner row) := by
  unfold Join.keyValue
  split
  · exact faultless_stored _
  · exact .ok _

theorem isCallFault_toFailure (e : DescribeError) : e.toFailure.isCallFault = false := by
  cases e <;> rfl

theorem faultless_placeholderRecord (x : Library) (j : Join) :
    Faultless (placeholderRecord x j) := by
  refine (Faultless.mapError isCallFault_toFailure _).bind fun related => ?_
  refine (Faultless.mapError isCallFault_toFailure _).bind fun key => ?_
  refine (Faultless.mapError (fun _ => rfl) _).bind fun empty => ?_
  exact (Faultless.mapError (fun _ => rfl) _).bind fun v => .ok _

theorem faultless_ownValues (rs : Records) (e : Entity) (v : Value) :
    Faultless (ownValues rs e v) := by
  refine Faultless.foldlM (fun known col => ?_) _ _
  dsimp only
  split
  · exact .ok known
  · intro f h
    cases hstored : stored (rs.get v col.field) with
    | error g =>
      rw [hstored] at h
      cases h
      exact faultless_stored _ f hstored
    | ok key =>
      rw [hstored] at h
      cases h

theorem faultless_countsAny (r : Reply) : Faultless r.countsAny := by
  unfold Reply.countsAny isPositive
  split
  · split
    · exact .ok _
    · exact .error rfl
  · exact .error rfl

/-! ## Steps of a call that is in order -/

/-- Whichever way it ends, a step only adds to the events, and its failure is no fault of the
call. -/
def Op.Proceeds (m : Op δ α) : Prop :=
  ∀ w, Faultless (m w).1 ∧ w.events <+: (m w).2.events

namespace Op.Proceeds

theorem pure (a : α) : (pure a : Op δ α).Proceeds :=
  fun _ => ⟨.ok a, List.prefix_refl _⟩

theorem throw {f : Failure} (h : f.isCallFault = false) : (throw f : Op δ α).Proceeds :=
  fun _ => ⟨.error h, List.prefix_refl _⟩

theorem bind {m : Op δ α} {f : α → Op δ β} (hm : m.Proceeds) (hf : ∀ a, (f a).Proceeds) :
    (m >>= f).Proceeds := by
  intro w
  obtain ⟨hfaultless, hevents⟩ := hm w
  rw [Op.bind_apply]
  rcases hmw : m w with ⟨g | a, w₁⟩ <;> rw [hmw] at hfaultless hevents
  · exact ⟨.error (hfaultless g rfl), hevents⟩
  · exact ⟨(hf a w₁).1, hevents.trans (hf a w₁).2⟩

theorem ofResult {r : Except Failure α} (h : Faultless r) : (Op.ofResult r : Op δ α).Proceeds :=
  fun _ => ⟨h, List.prefix_refl _⟩

theorem describing (r : Except DescribeError α) : (Op.describing r : Op δ α).Proceeds :=
  ofResult (.mapError isCallFault_toFailure r)

theorem records_bind {f : Records → Op δ β} (h : ∀ rs, (f rs).Proceeds) :
    (Op.records >>= f).Proceeds :=
  fun w => h w.records w

theorem addRecord (r : Record) : (Op.addRecord r : Op δ Value).Proceeds :=
  fun _ => ⟨.ok _, List.prefix_refl _⟩

theorem warn (warning : Warning) : (Op.warn warning : Op δ Unit).Proceeds :=
  fun _ => ⟨.ok _, List.prefix_refl _⟩

theorem setField (v : Value) (field : String) (new : Value) :
    (Op.setField v field new : Op δ Unit).Proceeds := by
  intro w
  cases v with
  | entity ref => exact ⟨.ok (), List.prefix_refl _⟩
  | _ => exact ⟨.error rfl, List.prefix_refl _⟩

theorem forM {f : α → Op δ Unit} (h : ∀ a, (f a).Proceeds) (as : List α) :
    (as.forM f).Proceeds := by
  induction as with
  | nil => exact pure ()
  | cons a as ih =>
    show (f a >>= fun _ => as.forM f).Proceeds
    exact (h a).bind fun _ => ih

theorem mapM {f : α → Op δ β} (h : ∀ a, (f a).Proceeds) (as : List α) :
    (as.mapM f).Proceeds := by
  induction as with
  | nil => exact pure []
  | cons a as ih =>
    rw [List.mapM_cons]
    exact (h a).bind fun b => ih.bind fun bs => pure _

theorem foldlM {f : β → α → Op δ β} (h : ∀ b a, (f b a).Proceeds) (as : List α) (b : β) :
    (as.foldlM f b).Proceeds := by
  induction as generalizing b with
  | nil => exact pure b
  | cons a as ih =>
    rw [List.foldlM_cons]
    exact (h b a).bind ih

theorem placeholder (x : Library) (j : Join) : (placeholder x j : Op δ Value).Proceeds :=
  (ofResult (faultless_placeholderRecord x j)).bind addRecord

theorem hydrateRow (x : Library) (e : Entity) (row : Row) :
    (hydrateRow x e row : Op δ Value).Proceeds :=
  records_bind fun rs => (ofResult (faultless_hydrate _ rs e row)).bind addRecord

theorem joinFirst (x : Library) (related : Entity) (source : Column) (owner : Value) (j : Join)
    (key : Value) (rows : List Row) :
    (joinFirst x related source owner j key rows : Op δ Value).Proceeds := by
  cases rows with
  | nil => exact pure _
  | cons row more =>
    have hrest : ∀ _ : Unit, (do
        let v ← EntityMap.hydrateRow x related row
        Op.setField owner j.field v
        return v : Op δ Value).Proceeds := fun _ =>
      (hydrateRow x related row).bind fun v => (setField owner j.field v).bind fun _ => pure v
    unfold EntityMap.joinFirst
    dsimp only
    split
    · exact hrest ()
    · exact records_bind fun rs => (warn _).bind hrest

variable [Database δ]

theorem runStatement (s : Statement) (ps : List Value) :
    (runStatement s ps : Op δ Reply).Proceeds :=
  fun _ => ⟨.mapError (fun e => by cases e <;> rfl) _, List.prefix_append _ _⟩

theorem queryRows (s : Statement) (ps : List Value) :
    (queryRows s ps : Op δ (List Row)).Proceeds :=
  (runStatement s ps).bind fun _ => pure _

theorem queryAny (s : Statement) (ps : List Value) : (queryAny s ps : Op δ Bool).Proceeds :=
  (runStatement s ps).bind fun r => ofResult (faultless_countsAny r)

theorem ensureOpen (m : Management) : (ensureOpen m : Op δ Unit).Proceeds := by
  intro w
  refine ⟨?_, (ensureOpen_silent readInvariant_true m w).events_extend⟩
  unfold EntityMap.ensureOpen openConnection
  split
  · exact .ok ()
  · dsimp only
    split
    · exact .ok ()
    · exact .error rfl

theorem commitWork : (commitWork : Op δ Unit).Proceeds := by
  intro w
  unfold EntityMap.commitWork
  split
  · exact ⟨.ok (), (commit_silent readInvariant_true w).events_extend⟩
  · exact ⟨.error rfl, (uncommitted_silent readInvariant_true w).events_extend⟩

/-- Opening and leaving a connection only adds to the events. -/
theorem withConnection (m : Management) {body : Op δ α} (h : body.Proceeds) :
    (withConnection m body).Proceeds := by
  intro w
  obtain ⟨hfaultless, hopen⟩ := ensureOpen m w
  unfold EntityMap.withConnection
  rcases ho : EntityMap.ensureOpen m w with ⟨f | _, w₁⟩ <;> rw [ho] at hfaultless hopen
  · exact ⟨.error (hfaultless f rfl), hopen⟩
  obtain ⟨hbody, hevents⟩ := (h.bind fun a => commitWork.bind fun _ => pure a) w₁
  rw [← committing] at hbody hevents
  rcases hb : committing body w₁ with ⟨f | a, w₂⟩ <;> rw [hb] at hbody hevents
  · have hleave := (rollback_leave_silent readInvariant_true m w₂).events_extend
    simp only [hb]
    exact ⟨.error (hbody f rfl), hopen.trans (hevents.trans hleave)⟩
  · have hleave := (leave_silent (fun _ => True) m w₂).events_extend
    simp only [hb]
    exact ⟨.ok a, hopen.trans (hevents.trans hleave)⟩

omit [Database δ] in
theorem checkWritable (k : Connection) (operation : String) :
    (k.checkWritable operation : Op δ Unit).Proceeds := by
  unfold Connection.checkWritable
  split
  · exact pure ()
  · exact throw rfl

theorem insert (k : Connection) (table : String) (values : List (String × Value)) :
    (k.insert table values : Op δ Int).Proceeds :=
  (checkWritable k _).bind fun _ => (runStatement _ _).bind fun _ => pure _

theorem update (k : Connection) (table : String) (values : List (String × Value))
    (c : Condition) (ps : List Value) : (k.update table values c ps : Op δ Int).Proceeds :=
  (checkWritable k _).bind fun _ => (runStatement _ _).bind fun _ => pure _

theorem delete (k : Connection) (table : String) (c : Condition) (ps : List Value) :
    (k.delete table c ps : Op δ Int).Proceeds :=
  (checkWritable k _).bind fun _ => (runStatement _ _).bind fun _ => pure _

/-! ## Searching -/

theorem resolveJoin (x : Library) (e : Entity) (owner : Value) (row : Option Row) (j : Join) :
    (resolveJoin x e owner row j : Op δ Value).Proceeds := by
  unfold EntityMap.resolveJoin
  refine records_bind fun rs => (ofResult (faultless_keyValue rs e owner row j)).bind fun key => ?_
  split
  · split
    · exact pure _
    · exact (placeholder x j).bind fun stub => (setField _ _ _).bind fun _ => pure stub
  · refine (describing _).bind fun related => (describing _).bind fun source => ?_
    exact (queryRows _ _).bind fun rows => joinFirst x related source owner j key rows

theorem loadRows (x : Library) (e : Entity) (rows : List Row) :
    (loadRows x e rows : Op δ (List Value)).Proceeds := by
  refine mapM (fun row => (hydrateRow x e row).bind fun v => ?_) rows
  refine (forM (fun j => ?_) e.joins).bind fun _ => pure v
  exact (resolveJoin x e v (some row) j).bind fun _ => pure ()

theorem loadFound (x : Library) (e : Entity) (rows : List Row) (many : Bool) :
    (if many then do return .list (← EntityMap.loadRows x e rows)
      else do return (← EntityMap.loadRows x e (rows.take 1)).head?.getD .null
      : Op δ Value).Proceeds := by
  split
  · exact (loadRows x e rows).bind fun _ => pure _
  · exact (loadRows x e (rows.take 1)).bind fun _ => pure _

theorem loadResult (x : Library) (e : Entity) (s : Statement) (ps : List Value) (many : Bool) :
    (loadResult x e s ps many : Op δ Value).Proceeds :=
  withConnection _ ((queryRows s ps).bind fun rows => loadFound x e rows many)

/-! ## Saving -/

theorem columnViolation (x : Library) (e : Entity) (v : Value) (col : Column) :
    (columnViolation x e v col : Op δ (Option Violation)).Proceeds := by
  unfold EntityMap.columnViolation
  refine records_bind fun rs => ?_
  dsimp only
  split
  · exact pure _
  split
  · split <;> exact pure _
  split
  · refine (ofResult (faultless_stored _)).bind fun key => (queryAny _ _).bind fun taken => ?_
    split <;> exact pure _
  · exact pure _

theorem joinViolation (x : Library) (e : Entity) (v : Value) (j : Join) :
    (joinViolation x e v j : Op δ (Option Violation)).Proceeds := by
  unfold EntityMap.joinViolation
  refine records_bind fun rs => ?_
  dsimp only
  split
  · split <;> exact pure _
  split
  · refine (describing _).bind fun source => (ofResult (faultless_stored _)).bind fun key => ?_
    split
    · exact pure _
    · refine (queryAny _ _).bind fun taken => ?_
      split <;> exact pure _
  · exact pure _

/-- Looking for violations finds no fault but that there is nothing to look at. -/
theorem violations (x : Library) (e : Entity) (hv : v.isNull = false) :
    (violations x e v : Op δ (List Violation)).Proceeds := by
  unfold EntityMap.violations
  rw [if_neg (by simp [hv])]
  refine withConnection _ ((mapM (columnViolation x e v) _).bind fun _ => ?_)
  exact (mapM (joinViolation x e v) _).bind fun _ => pure _

omit [Database δ] in
theorem throwIfAny (found : List Violation) :
    (if found.isEmpty then return () else MonadExcept.throw (.invalid found)
      : Op δ Unit).Proceeds := by
  split
  · exact pure ()
  · exact throw rfl

theorem validate (x : Library) (e : Entity) (hv : v.isNull = false) :
    (validate x e v : Op δ Unit).Proceeds :=
  (violations x e hv).bind throwIfAny

theorem validateRelated (x : Library) (fuel : Nat) (e : Entity) (v : Value) :
    (validateRelated x fuel e v : Op δ Unit).Proceeds := by
  induction fuel generalizing e v with
  | zero => exact throw rfl
  | succ fuel ih =>
    rw [EntityMap.validateRelated]
    refine forM (fun j => records_bind fun rs => ?_) e.joins
    dsimp only
    split
    · exact pure ()
    next hrelated =>
    refine (describing _).bind fun relatedEntity => ?_
    split
    · refine (ih relatedEntity _).bind fun _ => validate x relatedEntity ?_
      simp only [Bool.or_eq_true, not_or, Bool.not_eq_true] at hrelated
      exact hrelated.1
    · exact pure ()

omit [Database δ] in
theorem settleJoin (x : Library) {insertRelated : Entity → Value → Op δ Int}
    (hinsert : ∀ e v, (insertRelated e v).Proceeds) (e : Entity) (v : Value)
    (keys : List (String × Value)) (j : Join) :
    (settleJoin x insertRelated e v keys j).Proceeds := by
  have hrelated : (relatedOrPlaceholder x v j : Op δ Value).Proceeds := by
    refine records_bind fun rs => ?_
    dsimp only
    split
    · exact (placeholder x j).bind fun stub => (setField _ _ _).bind fun _ => pure stub
    · exact pure _
  have hkey : ∀ related : Value, (settleKey x e v keys j related : Op δ _).Proceeds := by
    intro related
    refine (describing _).bind fun source => records_bind fun rs => ?_
    refine (ofResult (faultless_stored _)).bind fun key => ?_
    split
    · split
      · exact (setField _ _ _).bind fun _ => pure keys
      · exact pure keys
    · exact pure _
  rw [settleJoin_eq]
  refine hrelated.bind fun related => ?_
  split
  · exact pure keys
  refine (describing _).bind fun relatedEntity => records_bind fun rs => ?_
  split
  · exact (hinsert relatedEntity related).bind fun _ => hkey related
  · exact hkey related

theorem insertEntity (x : Library) (k : Connection) (fuel : Nat) (e : Entity) (v : Value) :
    (insertEntity x k fuel e v : Op δ Int).Proceeds := by
  induction fuel generalizing e v with
  | zero => exact throw rfl
  | succ fuel ih =>
    rw [EntityMap.insertEntity]
    refine (foldlM (settleJoin x ih e v) e.joins []).bind fun keys => records_bind fun rs => ?_
    refine (ofResult (faultless_ownValues rs e v)).bind fun own => ?_
    refine (insert k e.table _).bind fun rowId => ?_
    split
    · split
      · exact (setField _ _ _).bind fun _ => pure rowId
      · exact pure rowId
    · exact pure rowId

end Op.Proceeds

/-! ## Faults first -/

/-- A step that fails with a fault of the call has run no statement. -/
def Op.FaultsFirst (m : Op δ α) : Prop :=
  ∀ w f w', m w = (.error f, w') → f.isCallFault = true → w'.statements = w.statements

namespace Op.FaultsFirst

theorem of_proceeds {m : Op δ α} (h : m.Proceeds) : m.FaultsFirst := by
  intro w f w' hm hf
  have hfaultless := (h w).1
  rw [hm] at hfaultless
  exact absurd ((hfaultless f rfl).symm.trans hf) Bool.false_ne_true

/-- A step that leaves the world if it fails. -/
theorem of_error {m : Op δ α} (h : ∀ w f w', m w = (.error f, w') → w' = w) : m.FaultsFirst := by
  intro w f w' hm _
  rw [h w f w' hm]

theorem throw (f : Failure) : (throw f : Op δ α).FaultsFirst :=
  of_error fun _ _ _ h => (Op.end_eq_end.mp h).2.symm

theorem ofResult_bind {r : Except Failure α} {f : α → Op δ β}
    (h : ∀ a, r = .ok a → (f a).FaultsFirst) : (Op.ofResult r >>= f).FaultsFirst := by
  cases r with
  | error e => exact throw e
  | ok a => exact h a rfl

theorem records_bind {f : Records → Op δ β} (h : ∀ rs, (f rs).FaultsFirst) :
    (Op.records >>= f).FaultsFirst :=
  fun w => h w.records w

/-- What follows a step that may have run statements has no fault to find. -/
theorem bind {m : Op δ α} {f : α → Op δ β} (hm : m.FaultsFirst) (hf : ∀ a, (f a).Proceeds) :
    (m >>= f).FaultsFirst := by
  intro w g w' h hg
  rcases Op.bind_eq_error.mp h with h | ⟨a, w₁, -, h⟩
  · exact hm w g w' h hg
  · have hfaultless := (hf a w₁).1
    rw [h] at hfaultless
    exact absurd ((hfaultless g rfl).symm.trans hg) Bool.false_ne_true

variable [Database δ]

/-- A body that finds faults first does so on a connection. -/
theorem withConnection (m : Management) {body : Op δ α} (h : body.FaultsFirst) :
    (withConnection m body).FaultsFirst := by
  intro w f w' hm hf
  rcases withConnection_eq_error.mp hm with ho | ⟨w₁, w₂, ho, hb, rfl⟩
  · exact of_proceeds (Op.Proceeds.ensureOpen m) w f w' ho hf
  · have hopen := (silent_of_ensureOpen readInvariant_true ho).statements
    have hleave := (rollback_leave_silent readInvariant_true m w₂).statements
    have hbody : (committing body).FaultsFirst :=
      h.bind fun a => Op.Proceeds.commitWork.bind fun _ => .pure a
    rw [hleave, hbody w₁ f w₂ hb hf, hopen]

theorem find (x : Library) (e : Entity) (q : Method.Query) (args : List Value)
    (many : Option Bool) : (find x e q args many : Op δ Value).FaultsFirst := by
  refine ofResult_bind fun selection _ => records_bind fun rs => ofResult_bind fun ps _ => ?_
  exact of_proceeds (Op.Proceeds.loadResult x e _ ps _)

theorem anyExists (x : Library) (e : Entity) (q : Method.Query) (args : List Value) :
    (anyExists x e q args : Op δ Value).FaultsFirst := by
  refine ofResult_bind fun selection _ => bind (withConnection _ ?_) fun reply => ?_
  · refine records_bind fun rs => ofResult_bind fun ps _ => ?_
    exact of_proceeds (Op.Proceeds.runStatement _ ps)
  · exact (Op.Proceeds.ofResult (faultless_countsAny reply)).bind fun _ => Op.Proceeds.pure _

theorem delete (x : Library) (e : Entity) (q : Method.Query) (args : List Value) :
    (delete x e q args : Op δ Value).FaultsFirst := by
  refine ofResult_bind fun selection _ => bind (withConnection _ ?_) fun _ => Op.Proceeds.pure _
  refine records_bind fun rs => ofResult_bind fun ps _ => ?_
  exact of_proceeds (Op.Proceeds.delete _ _ _ ps)

theorem update (x : Library) (e : Entity) (q : Method.Query) (args : List Value) :
    (update x e q args : Op δ Value).FaultsFirst := by
  refine records_bind fun rs => ofResult_bind fun u _ => of_proceeds ?_
  exact (Op.Proceeds.withConnection _ (Op.Proceeds.update _ _ _ _ _)).bind fun _ => .pure _

theorem violations (x : Library) (e : Entity) (v : Value) :
    (violations x e v : Op δ (List Violation)).FaultsFirst := by
  cases hv : v.isNull with
  | true =>
    unfold EntityMap.violations
    rw [if_pos hv]
    exact throw _
  | false => exact of_proceeds (Op.Proceeds.violations x e hv)

theorem validate (x : Library) (e : Entity) (v : Value) :
    (validate x e v : Op δ Unit).FaultsFirst :=
  bind (violations x e v) Op.Proceeds.throwIfAny

theorem isValid (x : Library) (e : Entity) (v : Value) :
    (isValid x e v : Op δ Bool).FaultsFirst :=
  bind (violations x e v) fun _ => Op.Proceeds.pure _

/-- A saving looks at what it is given before it validates. -/
theorem save (x : Library) (validating : Bool) (e : Entity) (v : Value) :
    (save x validating e v : Op δ Value).FaultsFirst := by
  refine records_bind fun rs => ofResult_bind fun _ hsavable => of_proceeds ?_
  have hv : v.isNull = false := by
    obtain ⟨ref, rfl, -⟩ := (has_of_checkSavable hsavable).entity
    rfl
  have hwrite : (do
      let _ ← writing x.management fun k => EntityMap.insertEntity x k (relationDepth rs) e v
      return v : Op δ Value).Proceeds :=
    (Op.Proceeds.withConnection _ (Op.Proceeds.insertEntity x _ _ e v)).bind fun _ => .pure v
  cases validating with
  | false => exact hwrite
  | true =>
    refine (Op.Proceeds.validateRelated x _ e v).bind fun _ => ?_
    exact (Op.Proceeds.validate x e hv).bind fun _ => hwrite

theorem runQuery (x : Library) (e : Entity) (q : Method.Query) (args : List Value)
    (many : Option Bool) : (runQuery x e q args many : Op δ Value).FaultsFirst := by
  unfold EntityMap.runQuery
  split
  · exact ofResult_bind fun v _ => save x _ e v
  · exact find x e q args many
  · exact find x e q args many
  · exact update x e q args
  · exact delete x e q args
  · exact anyExists x e q args

theorem invoke (x : Library) (e : Entity) (name : String) (args : List Value)
    (many : Option Bool) : (invoke x e name args many : Op δ Value).FaultsFirst := by
  unfold EntityMap.invoke
  split
  · exact ofResult_bind fun v _ => bind (validate x e v) fun _ => Op.Proceeds.pure _
  split
  · exact ofResult_bind fun v _ => bind (isValid x e v) fun _ => Op.Proceeds.pure _
  · exact ofResult_bind fun q _ => runQuery x e q args many

theorem runSql (x : Library) (e : Entity) (q : SqlQuery) (args : List Value) (many : Bool) :
    (runSql x e q args many : Op δ Value).FaultsFirst := by
  refine records_bind fun rs => ofResult_bind fun ps _ => of_proceeds ?_
  split
  · exact Op.Proceeds.loadResult x e _ ps many
  · have hexecute : (runStatement (.verbatim q.sql) ps : Op δ Reply).Proceeds :=
      Op.Proceeds.runStatement _ ps
    exact (Op.Proceeds.withConnection _ (hexecute.bind fun _ => .pure _)).bind fun _ => .pure _

/-- Whatever a method of a query object does, it finds faults first. -/
theorem call (x : Library) (o : QueryObject) (name : String) (args : List Value) :
    (o.call x name args : Op δ Value).FaultsFirst := by
  unfold QueryObject.call
  split
  · exact of_proceeds (.pure _)
  · exact invoke x o.entity name args _
  · exact runSql x o.entity _ args _
  · split
    · exact invoke x o.entity name args _
    · exact throw _
  · unfold QueryObject.callUndeclared
    split
    · exact throw _
    · exact invoke x o.entity name args _

end Op.FaultsFirst

/-! ## Handing over -/

/-- The value is a text or a number. -/
def Value.isComparable : Value → Bool
  | bool _ | int _ | real _ | text _ => true
  | _ => false

/-- A text or a number as a parameter : a truth value is one or zero. -/
def Value.asParameter : Value → Value
  | bool b => .int (if b then 1 else 0)
  | v => v

theorem bindArguments_of_isComparable (rs : Records) (h : ∀ v ∈ args, v.isComparable = true) :
    bindArguments rs args = .ok (args.map Value.asParameter) := by
  refine mapM_eq_ok.mpr (List.forall₂_map_right_iff.mpr (List.forall₂_same.mpr fun v hv => ?_))
  have hcomparable := h v hv
  cases v <;> first | rfl | simp [Value.isComparable] at hcomparable

/-- The statement that a search, a count or a deletion comes to. -/
def Method.Query.statement (q : Method.Query) (e : Entity) (selection : Selection) : Statement :=
  match q.verb with
  | .exist => .count e.table selection
  | .delete => .delete e.table (.filter selection.filter)
  | _ => .select e.table selection

variable [Database δ] {w w₁ : World δ} {s : Statement} {ps : List Value}

/-- The first thing that a step does from a world is to run a statement. -/
def Op.RunsFirst (m : Op δ α) (w : World δ) (s : Statement) (ps : List Value) : Prop :=
  w.events ++ [.ran s ps] <+: (m w).2.events

omit [Database δ] in
/-- What comes after a step only adds to the events. -/
theorem Op.events_extend_bind {m : Op δ α} {f : α → Op δ β} (hf : ∀ a, (f a).Proceeds)
    (w : World δ) : (m w).2.events <+: ((m >>= f) w).2.events := by
  rw [Op.bind_apply]
  rcases m w with ⟨g | a, w₁⟩
  · exact List.prefix_refl _
  · exact (hf a w₁).2

theorem Op.RunsFirst.runStatement (w : World δ) (s : Statement) (ps : List Value) :
    (runStatement s ps).RunsFirst w s ps :=
  List.prefix_refl _

omit [Database δ] in
theorem Op.RunsFirst.bind {m : Op δ α} {f : α → Op δ β} (hm : m.RunsFirst w s ps)
    (hf : ∀ a, (f a).Proceeds) : (m >>= f).RunsFirst w s ps :=
  List.IsPrefix.trans hm (Op.events_extend_bind hf w)

theorem Op.RunsFirst.withConnection {m : Management} {body : Op δ α}
    (hopen : ensureOpen m w = (.ok (), w₁)) (h : body.RunsFirst w₁ s ps) :
    w₁.events ++ [.ran s ps] <+: (withConnection m body w).2.events :=
  List.IsPrefix.trans h (withConnection_extends hopen)

theorem selectionFor_of_compile {wanted : List Method.Verb} {selection : Selection}
    (hverb : q.verb ∈ wanted) (hcompile : Query.compile e q = .ok selection)
    (hcount : args.length = selection.paramCount) :
    selectionFor e q wanted args = .ok selection := by
  rw [selectionFor, checkVerb_eq_ok.mpr hverb, hcompile]
  show (checkCount q selection.paramCount args >>= fun _ => _) = _
  rw [checkCount_eq_ok.mpr hcount]
  rfl

section Hands

variable {selection : Selection} (hcompile : Query.compile e q = .ok selection)
  (hcount : args.length = selection.paramCount) (hargs : ∀ v ∈ args, v.isComparable = true)
  (hopen : ensureOpen x.management w = (.ok (), w₁))
include hcompile hcount hargs hopen

theorem find_runs_first (hverb : q.verb = .find ∨ q.verb = .findAll) (many : Option Bool) :
    w₁.events ++ [.ran (.select e.table selection) (args.map Value.asParameter)]
      <+: (find x e q args many w).2.events := by
  have hselection : selectionFor e q [.find, .findAll] args = .ok selection :=
    selectionFor_of_compile (by simpa using hverb) hcompile hcount
  have hfind : find x e q args many w =
      loadResult x e (.select e.table selection) (args.map Value.asParameter)
        (many.getD (q.verb == .findAll)) w := by
    rw [find, hselection]
    show (Op.ofResult (bindArguments w.records args) >>= _ : Op δ Value) w = _
    rw [bindArguments_of_isComparable _ hargs]
    rfl
  rw [hfind]
  refine Op.RunsFirst.withConnection hopen ?_
  refine Op.RunsFirst.bind (f := fun rows => _) ?_ fun rows => Op.Proceeds.loadFound x e rows _
  exact (Op.RunsFirst.runStatement w₁ _ _).bind fun _ => .pure _

theorem anyExists_runs_first (hverb : q.verb = .exist) :
    w₁.events ++ [.ran (.count e.table selection) (args.map Value.asParameter)]
      <+: (anyExists x e q args w).2.events := by
  have hselection : selectionFor e q [.exist] args = .ok selection :=
    selectionFor_of_compile (by simpa using hverb) hcompile hcount
  have hbody : (do
      runStatement (.count e.table selection)
        (← Op.ofResult (bindArguments (← Op.records) args)) : Op δ Reply).RunsFirst w₁
      (.count e.table selection) (args.map Value.asParameter) := by
    show _ <+: ((Op.ofResult (bindArguments w₁.records args) >>= _ : Op δ Reply) w₁).2.events
    rw [bindArguments_of_isComparable _ hargs]
    exact List.prefix_refl _
  rw [anyExists, hselection]
  refine (Op.RunsFirst.withConnection hopen hbody).trans (Op.events_extend_bind (fun r => ?_) w)
  exact (Op.Proceeds.ofResult (faultless_countsAny r)).bind fun _ => .pure _

theorem delete_runs_first (hverb : q.verb = .delete) :
    w₁.events ++ [.ran (.delete e.table (.filter selection.filter)) (args.map Value.asParameter)]
      <+: (delete x e q args w).2.events := by
  have hselection : selectionFor e q [.delete] args = .ok selection :=
    selectionFor_of_compile (by simpa using hverb) hcompile hcount
  have hbody : (do
      Connection.delete ⟨true⟩ e.table (.filter selection.filter)
        (← Op.ofResult (bindArguments (← Op.records) args)) : Op δ Int).RunsFirst w₁
      (.delete e.table (.filter selection.filter)) (args.map Value.asParameter) := by
    show _ <+: ((Op.ofResult (bindArguments w₁.records args) >>= _ : Op δ Int) w₁).2.events
    rw [bindArguments_of_isComparable _ hargs]
    exact (Op.RunsFirst.runStatement w₁ _ _).bind fun _ => .pure _
  rw [delete, hselection]
  exact (Op.RunsFirst.withConnection hopen hbody).trans
    (Op.events_extend_bind (fun _ => .pure _) w)

/-- A query that is in order hands its statement over first. -/
theorem runQuery_runs_first (hverb : q.verb ∈ [Method.Verb.find, .findAll, .exist, .delete])
    (many : Option Bool) :
    w₁.events ++ [.ran (q.statement e selection) (args.map Value.asParameter)]
      <+: (runQuery x e q args many w).2.events := by
  unfold runQuery Method.Query.statement
  simp only [List.mem_cons, List.not_mem_nil, or_false] at hverb
  rcases hverb with hv | hv | hv | hv
  · rw [hv]
    exact find_runs_first hcompile hcount hargs hopen (.inl hv) many
  · rw [hv]
    exact find_runs_first hcompile hcount hargs hopen (.inr hv) many
  · rw [hv]
    exact anyExists_runs_first hcompile hcount hargs hopen hv
  · rw [hv]
    exact delete_runs_first hcompile hcount hargs hopen hv

end Hands

omit [Database δ] in
/-- An update is settled by its condition, the columns that it sets and the arguments that it
compares. -/
theorem ofCall_of_settings {rs : Records} {selection : Selection} {values : List (String × Value)}
    {compared ps : List Value} (hverb : q.verb = .update)
    (hcompile : Query.compile e q = .ok selection)
    (hsettings : (if q.setFields.isEmpty then mappedSettings rs e q selection.paramCount args
      else namedSettings rs e q selection.paramCount args) = .ok (values, compared))
    (hps : bindArguments rs compared = .ok ps) :
    Update.ofCall rs e q args = .ok ⟨values, selection.filter, ps⟩ := by
  have hwanted : checkVerb q [.update] = .ok () :=
    checkVerb_eq_ok.mpr (List.mem_singleton.mpr hverb)
  refine Except.bind_eq_ok.mpr ⟨(), hwanted, Except.bind_eq_ok.mpr ⟨selection, hcompile, ?_⟩⟩
  dsimp only
  split at hsettings
  · next hnone =>
    rw [if_pos hnone]
    exact Except.bind_eq_ok.mpr ⟨_, hsettings, Except.bind_eq_ok.mpr ⟨ps, hps, rfl⟩⟩
  · next hsome =>
    rw [if_neg hsome]
    exact Except.bind_eq_ok.mpr ⟨_, hsettings, Except.bind_eq_ok.mpr ⟨ps, hps, rfl⟩⟩

/-- An update that is settled hands its statement over first. -/
theorem update_runs_first {u : Update} (hsettled : Update.ofCall w.records e q args = .ok u)
    (hopen : ensureOpen x.management w = (.ok (), w₁)) :
    w₁.events ++ [.ran (.update e.table (u.values.map (·.1)) (.filter u.filter))
        (u.values.map (·.2) ++ u.parameters)]
      <+: (update x e q args w).2.events := by
  have hupdate : update x e q args w = (writing x.management (fun k =>
      k.update e.table u.values (.filter u.filter) u.parameters) >>= fun n =>
        return .int n : Op δ Value) w := by
    show (Op.ofResult (Update.ofCall w.records e q args) >>= _ : Op δ Value) w = _
    rw [hsettled]
    rfl
  rw [hupdate]
  refine List.IsPrefix.trans (Op.RunsFirst.withConnection hopen ?_)
    (Op.events_extend_bind (fun _ => .pure _) w)
  exact (Op.RunsFirst.runStatement w₁ _ _).bind fun _ => .pure _

/-- What is not in an order has no more than a condition after the table's name. -/
theorem suffix_eq_clause {selection : Selection} (h : selection.order = none) :
    selection.suffix = clause " WHERE " selection.filter.text := by
  rw [Selection.suffix, Selection.orderText, h]
  exact String.append_empty

/-- The statement of a query is the one that is shown for it. -/
theorem explain_eq_statement {name : String} {selection : Selection}
    (hq : Method.Query.ofName? name = .ok q)
    (hverb : q.verb ∈ [Method.Verb.find, .findAll, .exist, .delete])
    (hcompile : Query.compile e q = .ok selection) :
    explain e q = .ok (q.statement e selection).text := by
  unfold explain Method.Query.statement
  rw [hcompile]
  simp only [List.mem_cons, List.not_mem_nil, or_false] at hverb
  rcases hverb with hv | hv | hv | hv
  case inr.inr.inr =>
    have hfield : q.orderField = none := Method.orderField_eq_none hq (by rw [hv]; rfl)
    have horder := (compile_eq_ok hcompile).order_eq_none hfield
    rw [hv]
    show Except.ok ("DELETE FROM " ++ Text.identifier e.table ++ selection.suffix) = _
    rw [suffix_eq_clause horder]
    rfl
  all_goals
    rw [hv]
    rfl

omit [Database δ] in
/-- A name that means a query is none of the two that validate. -/
theorem invoke_eq_runQuery [Database δ] {name : String}
    (hq : Method.Query.ofName? name = .ok q) (many : Option Bool) :
    (invoke x e name args many : Op δ Value) = runQuery x e q args many := by
  have hvalidate : name ≠ "validate" := by
    rintro rfl
    have hno : (Method.Query.ofName? "validate").isOk = false := by decide +kernel
    rw [hq] at hno
    cases hno
  have hvalid : name ≠ "is_valid" := by
    rintro rfl
    have hno : (Method.Query.ofName? "is_valid").isOk = false := by decide +kernel
    rw [hq] at hno
    cases hno
  rw [invoke, if_neg hvalidate, if_neg hvalid, queryNamed, hq]
  rfl

/-- For every entity, name and list of arguments : a call that fails with a fault of the call has
run no statement, whether the method runs the query of its name, SQL of its own, or what the
interface makes of it. And a search, a count or a deletion whose name parses, whose fields are all
mapped and whose arguments are as many as its comparisons, and texts or numbers all of them, runs
the statement that is shown for it as soon as the connection is open, with these arguments in
order. -/
theorem call_faults_first (x : Library) (e : Entity) :
    (∀ name args many (w w' : World δ) f, invoke x e name args many w = (.error f, w') →
      f.isCallFault = true → w'.statements = w.statements)
    ∧ (∀ sql args many (w w' : World δ) f, runSql x e sql args many w = (.error f, w') →
      f.isCallFault = true → w'.statements = w.statements)
    ∧ (∀ interface name args (w w' : World δ) f,
      (QueryObject.mk interface e).call x name args w = (.error f, w') →
      f.isCallFault = true → w'.statements = w.statements)
    ∧ ∀ name q args many (w w₁ : World δ), Method.Query.ofName? name = .ok q →
      q.verb ∈ [Method.Verb.find, .findAll, .exist, .delete] →
      (∀ field ∈ q.fields, ∃ column, Resolves e.fieldColumns field column) →
      args.length = q.terms.length → (∀ v ∈ args, v.isComparable = true) →
      ensureOpen x.management w = (.ok (), w₁) →
      ∃ selection, Query.compile e q = .ok selection
        ∧ explain e q = .ok (q.statement e selection).text
        ∧ w₁.events ++ [.ran (q.statement e selection) (args.map Value.asParameter)]
          <+: (invoke x e name args many w).2.events := by
  refine ⟨fun name args many w w' f => Op.FaultsFirst.invoke x e name args many w f w',
    fun sql args many w w' f => Op.FaultsFirst.runSql x e sql args many w f w',
    fun interface name args w w' f => Op.FaultsFirst.call x ⟨interface, e⟩ name args w f w',
    fun name q args many w w₁ hq hverb hmapped hcount hargs hopen => ?_⟩
  obtain ⟨selection, hselection, hparams⟩ := exists_compile (length_terms_le hq) hmapped
  have hcompile : Query.compile e q = .ok selection := Except.mapError_eq_ok.mpr hselection
  refine ⟨selection, hcompile, explain_eq_statement hq hverb hcompile, ?_⟩
  rw [invoke_eq_runQuery hq]
  exact runQuery_runs_first hcompile (hcount.trans hparams.symm) hargs hopen hverb many

/-- The result is a fault of the call. -/
def isFaulty (r : Except Failure α) : Bool :=
  match r with
  | .error f => f.isCallFault
  | .ok _ => false

omit [Database δ] in
theorem exists_fault {r : Except Failure α × World δ} (h : isFaulty r.1 = true) :
    ∃ f, r = (.error f, r.2) ∧ f.isCallFault = true := by
  obtain ⟨f | a, w⟩ := r
  · exact ⟨f, rfl, h⟩
  · cases h

open Sample in
/-- Null is no name to look for, whether a product is counted, selected by given SQL or looked for
through an interface. A text and a truth value are handed over. -/
theorem call_faults_first_product :
    (invoke library productEntity "existsByName" [.null] none
        ({ database := {} } : World Script)).2.statements = []
      ∧ (runSql library productEntity ⟨"SELECT * FROM products WHERE name = ?", true⟩ [.null] true
        ({ database := {} } : World Script)).2.statements = []
      ∧ ((QueryObject.mk Interface.root productEntity).call library "findByName" [.null]
        ({ database := {} } : World Script)).2.statements = []
      ∧ ∃ selection w₁, ensureOpen library.management ({ database := {} } : World Script)
          = (.ok (), w₁)
        ∧ w₁.events ++ [.ran (.count "products" selection) [.text "pump", .int 1]]
          <+: (invoke library productEntity "existsByNameAndActive" [.text "pump", .bool true] none
            ({ database := {} } : World Script)).2.events := by
  obtain ⟨hinvoke, hsql, hcall, hruns⟩ := call_faults_first (δ := Script) library productEntity
  refine ⟨?_, ?_, ?_, ?_⟩
  · obtain ⟨f, h, hf⟩ := exists_fault (r := invoke library productEntity "existsByName" [.null] none
      ({ database := {} } : World Script)) (by decide +kernel)
    exact hinvoke _ _ _ _ _ f h hf
  · obtain ⟨f, h, hf⟩ := exists_fault (r := runSql library productEntity
      ⟨"SELECT * FROM products WHERE name = ?", true⟩ [.null] true
      ({ database := {} } : World Script)) (by decide +kernel)
    exact hsql _ _ _ _ _ f h hf
  · obtain ⟨f, h, hf⟩ := exists_fault (r := (QueryObject.mk Interface.root productEntity).call
      library "findByName" [.null] ({ database := {} } : World Script)) (by decide +kernel)
    exact hcall _ _ _ _ _ f h hf
  · have hmapped : ∀ field ∈ ["name", "active"],
        isUnmapped productEntity.fieldColumns field = false := by
      decide +kernel
    have hq : Method.Query.ofName? "existsByNameAndActive" = .ok
        { name := "existsByNameAndActive", verb := .exist, terms := ["name", "active"]
          connectors := [.and], orderField := none, direction := .asc, setFields := [] } := by
      rfl
    obtain ⟨_, w₁, hopen⟩ := Op.exists_ok (r := ensureOpen library.management
      ({ database := {} } : World Script)) rfl
    obtain ⟨selection, -, -, hevents⟩ := hruns "existsByNameAndActive" _
      [.text "pump", .bool true] none _ _ hq (by decide)
      (fun field hfield => isUnmapped_eq_false.mp (hmapped field hfield)) rfl (by decide) hopen
    exact ⟨selection, w₁, hopen, hevents⟩

end EntityMap
