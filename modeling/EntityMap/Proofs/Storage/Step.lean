import Mathlib.Data.List.Forall2
import EntityMap.Proofs.Result
import EntityMap.Storage.Connection

/-!
# Steps

How the steps of an operation end, read off their parts : a sequence ends well if both parts do
(`Op.bind_eq_ok`), an assignment only on an entity (`Op.setField_eq_ok`), a statement only if the
database runs it (`runStatement_eq_ok`), and a body on a connection only on one that could be
opened (`withConnection_eq_ok`).

`Op.Ends` says what holds after a step whichever way it ends, `Op.Keeps` that a step keeps an
invariant of the world. Their rules follow the constructors of a step.
-/

namespace EntityMap

variable {δ α β : Type}

/-! ## Sequences -/

/-- Two ends of a step are the same if the results and the worlds are. -/
@[simp] theorem Op.end_eq_end {r r' : Except Failure α} {w w' : World δ} :
    @Eq (Id (Except Failure α × World δ)) (r, w) (r', w') ↔ r = r' ∧ w = w' :=
  Prod.mk.injEq r w r' w' ▸ Iff.rfl

/-- A sequence is its first part, and the second if the first has not failed. -/
theorem Op.bind_apply (m : Op δ α) (f : α → Op δ β) (w : World δ) :
    (m >>= f) w = match m w with
      | (.ok a, w₁) => f a w₁
      | (.error e, w₁) => (.error e, w₁) := by
  show (ExceptT.bind m f) w = _
  simp only [ExceptT.bind, ExceptT.mk, ExceptT.bindCont, StateT.bind, bind]
  rcases m w with ⟨_ | _, _⟩ <;> rfl

@[simp] theorem Op.pure_apply (a : α) (w : World δ) : (pure a : Op δ α) w = (.ok a, w) :=
  rfl

@[simp] theorem Op.throw_apply (f : Failure) (w : World δ) :
    (throw f : Op δ α) w = (.error f, w) :=
  rfl

/-- A sequence ends well if both parts do, the second in the world that the first leaves. -/
theorem Op.bind_eq_ok {m : Op δ α} {f : α → Op δ β} {w w' : World δ} {b : β} :
    (m >>= f) w = (.ok b, w') ↔ ∃ a w₁, m w = (.ok a, w₁) ∧ f a w₁ = (.ok b, w') := by
  rw [Op.bind_apply]
  rcases m w with ⟨e | a, w₁⟩
  · simp
  · constructor
    · intro h
      exact ⟨a, w₁, rfl, h⟩
    · rintro ⟨_, _, h, hf⟩
      cases h
      exact hf

/-- A sequence fails if its first part does, or else its second. -/
theorem Op.bind_eq_error {m : Op δ α} {f : α → Op δ β} {w w' : World δ} {e : Failure} :
    (m >>= f) w = (.error e, w') ↔
      m w = (.error e, w') ∨ ∃ a w₁, m w = (.ok a, w₁) ∧ f a w₁ = (.error e, w') := by
  rw [Op.bind_apply]
  rcases m w with ⟨_ | a, w₁⟩
  · simp
  · constructor
    · intro h
      exact .inr ⟨a, w₁, rfl, h⟩
    · rintro (h | ⟨_, _, h, hf⟩)
      · simp at h
      · cases h
        exact hf

/-- A run that does not fail has a value. -/
theorem Op.exists_ok {r : Except Failure α × World δ} (h : r.1.isOk = true) :
    ∃ a w, r = (.ok a, w) := by
  obtain ⟨_ | a, w⟩ := r
  · cases h
  · exact ⟨a, w, rfl⟩

/-- A run that has no value fails. -/
theorem Op.exists_error {r : Except Failure α × World δ} (h : r.1.isOk = false) :
    ∃ f w, r = (.error f, w) := by
  obtain ⟨f | _, w⟩ := r
  · exact ⟨f, w, rfl⟩
  · cases h

/-! ## Single steps -/

@[simp] theorem Op.ofResult_eq_ok {r : Except Failure α} {w w' : World δ} {a : α} :
    Op.ofResult r w = (.ok a, w') ↔ r = .ok a ∧ w = w' :=
  Op.end_eq_end

/-- After a result comes what is done with its value, in the same world. -/
theorem Op.ofResult_bind_eq_ok {r : Except Failure α} {f : α → Op δ β} {w w' : World δ} {b : β} :
    (Op.ofResult r >>= f) w = (.ok b, w') ↔ ∃ a, r = .ok a ∧ f a w = (.ok b, w') := by
  rw [Op.bind_eq_ok]
  constructor
  · rintro ⟨a, _, hr, h⟩
    obtain ⟨hr', rfl⟩ := Op.ofResult_eq_ok.mp hr
    exact ⟨a, hr', h⟩
  · rintro ⟨a, hr, h⟩
    exact ⟨a, w, Op.ofResult_eq_ok.mpr ⟨hr, rfl⟩, h⟩

theorem Op.describing_bind_eq_ok {r : Except DescribeError α} {f : α → Op δ β} {w w' : World δ}
    {b : β} : (Op.describing r >>= f) w = (.ok b, w') ↔ ∃ a, r = .ok a ∧ f a w = (.ok b, w') := by
  rw [Op.describing, Op.ofResult_bind_eq_ok]
  simp only [Except.mapError_eq_ok]

theorem Op.records_bind (f : Records → Op δ β) (w : World δ) :
    (Op.records >>= f) w = f w.records w :=
  rfl

/-- Only the field of an entity can be set. -/
theorem Op.setField_eq_ok {v : Value} {field : String} {new : Value} {w w' : World δ} :
    Op.setField v field new w = (.ok (), w') ↔
      ∃ ref, v = .entity ref ∧ w' = { w with records := w.records.set ref field new } := by
  cases v <;> simp [Op.setField, eq_comm]

/-! ## Either way -/

/-- From a world a step ends well in a world of `Q`, or fails in one of `E`. -/
def Op.Ends (m : Op δ α) (w : World δ) (Q : α → World δ → Prop)
    (E : Failure → World δ → Prop) : Prop :=
  (∀ a w', m w = (.ok a, w') → Q a w') ∧ ∀ f w', m w = (.error f, w') → E f w'

variable {Q Q' : α → World δ → Prop} {R : β → World δ → Prop} {E E' : Failure → World δ → Prop}
  {w : World δ}

theorem Op.Ends.mono {m : Op δ α} (h : m.Ends w Q E) (hQ : ∀ a w', Q a w' → Q' a w')
    (hE : ∀ f w', E f w' → E' f w') : m.Ends w Q' E' :=
  ⟨fun a w' hm => hQ a w' (h.1 a w' hm), fun f w' hm => hE f w' (h.2 f w' hm)⟩

theorem Op.Ends.and {m : Op δ α} (h : m.Ends w Q E) (h' : m.Ends w Q' E') :
    m.Ends w (fun a w' => Q a w' ∧ Q' a w') fun f w' => E f w' ∧ E' f w' :=
  ⟨fun a w' hm => ⟨h.1 a w' hm, h'.1 a w' hm⟩, fun f w' hm => ⟨h.2 f w' hm, h'.2 f w' hm⟩⟩

theorem Op.Ends.pure {a : α} (h : Q a w) : (pure a : Op δ α).Ends w Q E := by
  refine ⟨fun b w' hm => ?_, fun f w' hm => ?_⟩
  · cases hm
    exact h
  · simp at hm

theorem Op.Ends.throw {f : Failure} (h : E f w) : (throw f : Op δ α).Ends w Q E := by
  refine ⟨fun b w' hm => ?_, fun g w' hm => ?_⟩
  · simp at hm
  · cases hm
    exact h

/-- A sequence ends in what its second part makes of the ends of the first. -/
theorem Op.Ends.bind {m : Op δ α} {f : α → Op δ β} (hm : m.Ends w Q E)
    (hf : ∀ a w', Q a w' → (f a).Ends w' R E) : (m >>= f).Ends w R E := by
  refine ⟨fun b w' h => ?_, fun e w' h => ?_⟩
  · obtain ⟨a, w₁, h₁, h₂⟩ := Op.bind_eq_ok.mp h
    exact (hf a w₁ (hm.1 a w₁ h₁)).1 b w' h₂
  · rcases Op.bind_eq_error.mp h with h | ⟨a, w₁, h₁, h₂⟩
    · exact hm.2 e w' h
    · exact (hf a w₁ (hm.1 a w₁ h₁)).2 e w' h₂

theorem Op.Ends.ofResult {r : Except Failure α} (hQ : ∀ a, r = .ok a → Q a w)
    (hE : ∀ f, r = .error f → E f w) : (Op.ofResult r).Ends w Q E := by
  refine ⟨fun a w' h => ?_, fun f w' h => ?_⟩
  · cases h
    exact hQ a rfl
  · cases h
    exact hE f rfl

theorem Op.Ends.describing {r : Except DescribeError α} (hQ : ∀ a, r = .ok a → Q a w)
    (hE : ∀ f, r = .error f → E f.toFailure w) : (Op.describing r).Ends w Q E := by
  refine Op.Ends.ofResult (fun a h => hQ a (Except.mapError_eq_ok.mp h)) fun f h => ?_
  cases r with
  | error e =>
    cases h
    exact hE e rfl
  | ok a => cases h

/-- After a result comes what is done with its value, in the same world. -/
theorem Op.Ends.ofResult_bind {r : Except Failure α} {f : α → Op δ β}
    (hQ : ∀ a, r = .ok a → (f a).Ends w R E) (hE : ∀ g, r = .error g → E g w) :
    (Op.ofResult r >>= f).Ends w R E := by
  refine Op.Ends.bind (Op.Ends.ofResult (Q := fun a w' => r = .ok a ∧ w' = w)
    (fun a ha => ⟨ha, rfl⟩) hE) ?_
  rintro a _ ⟨ha, rfl⟩
  exact hQ a ha

theorem Op.Ends.describing_bind {r : Except DescribeError α} {f : α → Op δ β}
    (hQ : ∀ a, r = .ok a → (f a).Ends w R E) (hE : ∀ g, r = .error g → E g.toFailure w) :
    (Op.describing r >>= f).Ends w R E := by
  refine Op.Ends.bind (Op.Ends.describing (Q := fun a w' => r = .ok a ∧ w' = w)
    (fun a ha => ⟨ha, rfl⟩) hE) ?_
  rintro a _ ⟨ha, rfl⟩
  exact hQ a ha

theorem Op.Ends.records_bind {f : Records → Op δ β} (h : (f w.records).Ends w R E) :
    (Op.records >>= f).Ends w R E :=
  h

theorem Op.Ends.setField {v : Value} {field : String} {new : Value} {Q : Unit → World δ → Prop}
    (hQ : ∀ ref, v = .entity ref →
      Q () { w with records := w.records.set ref field new }) (hE : ∀ f, E f w) :
    (Op.setField v field new).Ends w Q E := by
  refine ⟨fun _ w' h => ?_, fun f w' h => ?_⟩
  · obtain ⟨ref, hv, rfl⟩ := Op.setField_eq_ok.mp h
    exact hQ ref hv
  · cases v <;> simp only [Op.setField, Op.end_eq_end] at h
    all_goals first | exact h.2 ▸ hE f | simp at h

/-- A loop keeps what each of its rounds keeps. -/
theorem Op.Ends.foldlM {P : β → World δ → Prop} {f : β → α → Op δ β} {as : List α}
    (step : ∀ a ∈ as, ∀ b w, P b w → (f b a).Ends w P E) {b : β} (h : P b w) :
    (as.foldlM f b).Ends w P E := by
  induction as generalizing b w with
  | nil => exact Op.Ends.pure h
  | cons a as ih =>
    rw [List.foldlM_cons]
    exact (step a List.mem_cons_self b w h).bind fun b' w' h' =>
      ih (fun a' ha' => step a' (List.mem_cons_of_mem _ ha')) h'

theorem Op.Ends.forM {P : World δ → Prop} {f : α → Op δ Unit} {as : List α}
    (step : ∀ a ∈ as, ∀ w, P w → (f a).Ends w (fun _ => P) E) (h : P w) :
    (as.forM f).Ends w (fun _ => P) E := by
  induction as generalizing w with
  | nil => exact Op.Ends.pure h
  | cons a as ih =>
    show (f a >>= fun _ => as.forM f).Ends w _ E
    exact (step a List.mem_cons_self w h).bind fun _ w' h' =>
      ih (fun a' ha' => step a' (List.mem_cons_of_mem _ ha')) h'

/-- Of its results a loop keeps what each of its rounds says about its own. -/
theorem Op.Ends.mapM {P : World δ → Prop} {S : α → β → Prop} {f : α → Op δ β} {as : List α}
    (step : ∀ a ∈ as, ∀ w, P w → (f a).Ends w (fun b w' => P w' ∧ S a b) E) (h : P w) :
    (as.mapM f).Ends w (fun bs w' => P w' ∧ List.Forall₂ S as bs) E := by
  induction as generalizing w with
  | nil => exact Op.Ends.pure ⟨h, .nil⟩
  | cons a as ih =>
    rw [List.mapM_cons]
    refine (step a List.mem_cons_self w h).bind fun b w' hb => ?_
    exact (ih (fun a' ha' => step a' (List.mem_cons_of_mem _ ha')) hb.1).bind fun bs w'' hbs =>
      Op.Ends.pure ⟨hbs.1, .cons hb.2 hbs.2⟩

/-- Whichever way it ends, a step keeps an invariant. -/
def Op.Keeps (P : World δ → Prop) (m : Op δ α) : Prop :=
  ∀ w, P w → m.Ends w (fun _ => P) fun _ => P

theorem Op.Keeps.pure (a : α) (P : World δ → Prop) : (pure a : Op δ α).Keeps P :=
  fun _ hw => Op.Ends.pure hw

theorem Op.Keeps.throw (f : Failure) (P : World δ → Prop) : (throw f : Op δ α).Keeps P :=
  fun _ hw => Op.Ends.throw hw

theorem Op.Keeps.ofResult (r : Except Failure α) (P : World δ → Prop) :
    (Op.ofResult r).Keeps P :=
  fun _ hw => Op.Ends.ofResult (fun _ _ => hw) fun _ _ => hw

theorem Op.Keeps.describing (r : Except DescribeError α) (P : World δ → Prop) :
    (Op.describing r).Keeps P :=
  Op.Keeps.ofResult _ P

theorem Op.Keeps.records (P : World δ → Prop) : (Op.records : Op δ Records).Keeps P :=
  fun w hw => Op.Ends.pure (a := w.records) hw

/-- An invariant of each part is one of the sequence. -/
theorem Op.Keeps.bind {P : World δ → Prop} {m : Op δ α} {f : α → Op δ β} (hm : m.Keeps P)
    (hf : ∀ a, (f a).Keeps P) : (m >>= f).Keeps P :=
  fun w hw => (hm w hw).bind fun a w' hw' => hf a w' hw'

theorem Op.Keeps.mapM {P : World δ → Prop} {f : α → Op δ β} {as : List α}
    (step : ∀ a ∈ as, (f a).Keeps P) : (as.mapM f).Keeps P := by
  intro w hw
  have hsteps : ∀ a ∈ as, ∀ w, P w → (f a).Ends w (fun _ w' => P w' ∧ True) fun _ => P :=
    fun a ha w hw => (step a ha w hw).mono (fun _ _ h => ⟨h, trivial⟩) fun _ _ h => h
  exact (Op.Ends.mapM hsteps hw).mono (fun _ _ h => h.1) fun _ _ h => h

/-! ## Statements and connections -/

/-- Asking whether a connection is for writing leaves the world. -/
theorem Connection.checkWritable_ends (k : Connection) (operation : String) (w : World δ) :
    (k.checkWritable operation).Ends w (fun _ w' => w' = w) fun _ w' => w' = w := by
  unfold Connection.checkWritable
  split
  · exact Op.Ends.pure rfl
  · exact Op.Ends.throw rfl

variable [Database δ]

/-- A statement is run by the database, in the state that the last one left. -/
theorem runStatement_eq_ok {s : Statement} {ps : List Value} {w w' : World δ} {reply : Reply} :
    runStatement s ps w = (.ok reply, w') ↔
      ∃ d, Database.run w.records s ps w.database = (.ok reply, d)
        ∧ w' = { w.after (.ran s ps) with database := d } := by
  unfold runStatement
  rcases Database.run w.records s ps w.database with ⟨_ | r, d⟩
  · refine iff_of_false (fun h => nomatch h) ?_
    rintro ⟨_, h, -⟩
    cases h
  · constructor
    · intro h
      cases h
      exact ⟨d, rfl, rfl⟩
    · rintro ⟨_, h, rfl⟩
      cases h
      rfl

/-- An insertion needs a connection for writing, and gives the number in the reply. -/
theorem Connection.insert_eq_ok {k : Connection} {table : String} {values : List (String × Value)}
    {w w' : World δ} {rowId : Int} (h : k.insert table values w = (.ok rowId, w')) :
    ∃ reply d, Database.run w.records (.insert table (values.map (·.1))) (values.map (·.2))
          w.database = (.ok reply, d)
      ∧ reply.rowId = rowId
      ∧ w' = { w.after (.ran (.insert table (values.map (·.1))) (values.map (·.2))) with
          database := d } := by
  obtain ⟨_, w₁, hk, h⟩ := Op.bind_eq_ok.mp h
  obtain ⟨reply, w₂, hr, h⟩ := Op.bind_eq_ok.mp h
  cases h
  unfold Connection.checkWritable at hk
  split at hk
  · cases hk
    obtain ⟨d, hd, rfl⟩ := runStatement_eq_ok.mp hr
    exact ⟨reply, d, hd, rfl, rfl⟩
  · simp at hk

/-- An insertion that fails has changed the database at most, whether it was run or not. -/
theorem Connection.insert_eq_error {k : Connection} {table : String}
    {values : List (String × Value)} {w w' : World δ} {f : Failure}
    (h : k.insert table values w = (.error f, w')) :
    w' = w ∨ ∃ d, w' = { w.after (.ran (.insert table (values.map (·.1))) (values.map (·.2))) with
      database := d } := by
  rcases Op.bind_eq_error.mp h with hk | ⟨_, w₁, hk, hrun⟩
  · exact .inl ((k.checkWritable_ends "insert" w).2 f w' hk)
  · rw [(k.checkWritable_ends "insert" w).1 _ w₁ hk] at hrun
    rcases Op.bind_eq_error.mp hrun with hrun | ⟨_, _, -, hrun⟩
    · obtain ⟨-, rfl⟩ := Op.end_eq_end.mp hrun
      exact .inr ⟨_, rfl⟩
    · simp at hrun

/-- What a body has done is committed if the body ends well and the database commits. -/
theorem committing_eq_ok {body : Op δ α} {w w' : World δ} {a : α} :
    committing body w = (.ok a, w') ↔
      ∃ w₁, body w = (.ok a, w₁) ∧ (Database.commit w₁.database).1 = .ok () ∧ w' = w₁.commit := by
  rw [committing, Op.bind_eq_ok]
  constructor
  · rintro ⟨b, w₁, hb, h⟩
    obtain ⟨_, w₂, hcommit, h⟩ := Op.bind_eq_ok.mp h
    cases h
    unfold commitWork at hcommit
    split at hcommit
    · next hok =>
      cases hcommit
      exact ⟨w₁, hb, hok, rfl⟩
    · simp at hcommit
  · rintro ⟨w₁, hb, hok, rfl⟩
    refine ⟨a, w₁, hb, Op.bind_eq_ok.mpr ⟨(), w₁.commit, ?_, rfl⟩⟩
    unfold commitWork
    rw [hok]

/-- It is not if the body fails, or else the database refuses. -/
theorem committing_eq_error {body : Op δ α} {w w' : World δ} {f : Failure} :
    committing body w = (.error f, w') ↔
      body w = (.error f, w') ∨ ∃ a w₁ message, body w = (.ok a, w₁)
        ∧ (Database.commit w₁.database).1 = .error message ∧ f = .uncommitted message
        ∧ w' = w₁.uncommitted := by
  rw [committing, Op.bind_eq_error]
  refine or_congr Iff.rfl ⟨?_, ?_⟩
  · rintro ⟨a, w₁, hb, h⟩
    rcases Op.bind_eq_error.mp h with hcommit | ⟨_, _, -, h⟩
    · unfold commitWork at hcommit
      split at hcommit
      · simp at hcommit
      · next message hrefused =>
        cases hcommit
        exact ⟨a, w₁, message, hb, hrefused, rfl, rfl⟩
    · simp at h
  · rintro ⟨a, w₁, message, hb, hrefused, rfl, rfl⟩
    refine ⟨a, w₁, hb, Op.bind_eq_error.mpr (.inl ?_)⟩
    unfold commitWork
    rw [hrefused]

/-- A body on a connection ends well if the connection can be opened, the body does and its work is
committed. -/
theorem withConnection_eq_ok {m : Management} {body : Op δ α} {w w' : World δ} {a : α} :
    withConnection m body w = (.ok a, w') ↔
      ∃ w₁ w₂, ensureOpen m w = (.ok (), w₁) ∧ body w₁ = (.ok a, w₂)
        ∧ (Database.commit w₂.database).1 = .ok () ∧ w' = w₂.commit.leave m := by
  unfold withConnection
  rcases ensureOpen m w with ⟨_ | _, w₁⟩
  · simp
  · constructor
    · intro h
      rcases hb : committing body w₁ with ⟨_ | _, w₂⟩ <;> simp only [hb] at h
      · simp at h
      · cases h
        obtain ⟨w₃, hbody, hcommit, rfl⟩ := committing_eq_ok.mp hb
        exact ⟨w₁, w₃, rfl, hbody, hcommit, rfl⟩
    · rintro ⟨_, w₂, ho, hbody, hcommit, rfl⟩
      cases ho
      have hb := committing_eq_ok.mpr ⟨w₂, hbody, hcommit, rfl⟩
      simp only [hb]

/-- It fails if the connection cannot be opened, or else if the body or the commit does. -/
theorem withConnection_eq_error {m : Management} {body : Op δ α} {w w' : World δ} {f : Failure} :
    withConnection m body w = (.error f, w') ↔
      ensureOpen m w = (.error f, w') ∨ ∃ w₁ w₂, ensureOpen m w = (.ok (), w₁)
        ∧ committing body w₁ = (.error f, w₂) ∧ w' = w₂.rollback.leave m := by
  unfold withConnection
  rcases ensureOpen m w with ⟨_ | _, w₁⟩
  · simp
  · constructor
    · intro h
      rcases hb : committing body w₁ with ⟨_ | _, w₂⟩ <;> simp only [hb] at h
      · cases h
        exact .inr ⟨w₁, w₂, rfl, hb, rfl⟩
      · simp at h
    · rintro (h | ⟨_, w₂, ho, hb, rfl⟩)
      · simp at h
      · cases ho
        simp only [hb]

/-- A body on a connection ends in what a commit or a rollback makes of its ends. -/
theorem Op.Ends.withConnection {m : Management} {body : Op δ α} {w : World δ}
    {P : World δ → Prop} {Q : α → World δ → Prop} {E E' : Failure → World δ → Prop}
    (hopen : (ensureOpen m).Ends w (fun _ => P) E) (hbody : ∀ w, P w → body.Ends w Q E') :
    (withConnection m body).Ends w
      (fun a w' => ∃ w₁, Q a w₁ ∧ (Database.commit w₁.database).1 = .ok ()
        ∧ w' = w₁.commit.leave m)
      fun f w' => E f w' ∨ (∃ w₁, E' f w₁ ∧ w' = w₁.rollback.leave m)
        ∨ ∃ a w₁ message, Q a w₁ ∧ (Database.commit w₁.database).1 = .error message
          ∧ f = .uncommitted message ∧ w' = w₁.uncommitted.rollback.leave m := by
  refine ⟨fun a w' h => ?_, fun f w' h => ?_⟩
  · obtain ⟨w₁, w₂, ho, hb, hcommit, rfl⟩ := withConnection_eq_ok.mp h
    exact ⟨w₂, (hbody w₁ (hopen.1 _ _ ho)).1 _ _ hb, hcommit, rfl⟩
  · rcases withConnection_eq_error.mp h with ho | ⟨w₁, w₂, ho, hb, rfl⟩
    · exact .inl (hopen.2 _ _ ho)
    have hends := hbody w₁ (hopen.1 _ _ ho)
    rcases committing_eq_error.mp hb with hf | ⟨a, w₃, message, ha, hrefused, rfl, rfl⟩
    · exact .inr (.inl ⟨w₂, hends.2 _ _ hf, rfl⟩)
    · exact .inr (.inr ⟨a, w₃, message, hends.1 _ _ ha, hrefused, rfl, rfl⟩)

end EntityMap
