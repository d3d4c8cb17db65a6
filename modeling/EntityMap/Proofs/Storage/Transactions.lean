import EntityMap.Engine.Engine
import EntityMap.Proofs.Validation.Reads

/-!
# Transactions

What is done to a database from one world to another, and with which failure it ends, if any. A
`Course` leads there in steps, between which the database is left alone, and ends with the first
failure, whether a step ends with it or it is raised beside the steps. On an open connection the
steps are statements (`Asks`) ; those of a whole operation are transactions (`Transaction`). A
transaction is a course of statements on one connection. It is committed if the course ends well and
the database does not refuse, and is rolled back in every other case.

`Op.Takes` says of an operation that it is such a course, whichever way it ends. A transaction adds
a `Block` to the events, and a course of transactions a `Log` of such blocks
(`Course.exists_log`). If what the database stores is changed by a commit only, then a transaction
that fails stores nothing (`Transaction.stored_of_failed`).
-/

namespace EntityMap

variable {δ α β : Type}

/-! ## Courses -/

/-- The failure that a result is, if it is one. -/
def failure? : Except Failure α → Option Failure
  | .ok _ => none
  | .error f => some f

/-- Nothing is done to the database. -/
structure Aside (w w' : World δ) : Prop where
  database : w'.database = w.database
  isOpen : w'.isOpen = w.isOpen
  events : w'.events = w.events

/-- From the first world steps of `S` lead to the second, the last of them or what comes after it
with the failure. -/
inductive Course (S : World δ → Option Failure → World δ → Prop) (w₀ : World δ) :
    Option Failure → World δ → Prop
  | start : Course S w₀ none w₀
  | aside {w w' : World δ} (before : Course S w₀ none w) (h : Aside w w') : Course S w₀ none w'
  | raised {w : World δ} (before : Course S w₀ none w) (f : Failure) : Course S w₀ (some f) w
  | step {w w' : World δ} {r : Option Failure} (before : Course S w₀ none w) (h : S w r w') :
      Course S w₀ r w'

variable {S S' : World δ → Option Failure → World δ → Prop} {w₀ w w' : World δ}
  {r : Option Failure}

theorem Course.mono (hS : ∀ w r w', S w r w' → S' w r w') (h : Course S w₀ r w) :
    Course S' w₀ r w := by
  induction h with
  | start => exact .start
  | aside _ haside ih => exact ih.aside haside
  | raised _ f ih => exact ih.raised f
  | step _ hstep ih => exact ih.step (hS _ _ _ hstep)

theorem Course.trans (h : Course S w₀ none w) (h' : Course S w r w') : Course S w₀ r w' := by
  induction h' with
  | start => exact h
  | aside _ haside ih => exact ih.aside haside
  | raised _ f ih => exact ih.raised f
  | step _ hstep ih => exact ih.step hstep

/-! ## Operations that take a course -/

/-- From a world on, a step carries on a course that has begun in the first world, whichever way it
ends. -/
def Op.Carries (S : World δ → Option Failure → World δ → Prop) (w₀ : World δ) (m : Op δ α)
    (w : World δ) : Prop :=
  m.Ends w (fun _ => Course S w₀ none) fun f => Course S w₀ (some f)

/-- A step carries on every course. -/
def Op.Takes (S : World δ → Option Failure → World δ → Prop) (m : Op δ α) : Prop :=
  ∀ w₀ w, Course S w₀ none w → m.Carries S w₀ w

/-- What holds whichever way a step ends holds of its end. -/
theorem Op.Ends.result {m : Op δ α} {R : Option Failure → World δ → Prop}
    (h : m.Ends w (fun _ => R none) fun f => R (some f)) : R (failure? (m w).1) (m w).2 := by
  rcases hm : m w with ⟨f | a, w'⟩
  · exact h.2 f w' hm
  · exact h.1 a w' hm

theorem Op.Carries.course {m : Op δ α} (h : m.Carries S w₀ w) :
    Course S w₀ (failure? (m w).1) (m w).2 :=
  Op.Ends.result (R := Course S w₀) h

namespace Op.Takes

theorem pure (a : α) : (pure a : Op δ α).Takes S :=
  fun _ _ hw => Op.Ends.pure hw

theorem throw (f : Failure) : (throw f : Op δ α).Takes S :=
  fun _ _ hw => Op.Ends.throw (hw.raised f)

theorem bind {m : Op δ α} {f : α → Op δ β} (hm : m.Takes S) (hf : ∀ a, (f a).Takes S) :
    (m >>= f).Takes S :=
  fun w₀ w hw => (hm w₀ w hw).bind fun a w' hw' => hf a w₀ w' hw'

theorem ofResult (r : Except Failure α) : (Op.ofResult r : Op δ α).Takes S :=
  fun _ _ hw => Op.Ends.ofResult (fun _ _ => hw) fun f _ => hw.raised f

theorem ofResult_bind {r : Except Failure α} {f : α → Op δ β} (h : ∀ a, r = .ok a → (f a).Takes S) :
    (Op.ofResult r >>= f).Takes S :=
  fun w₀ w hw => Op.Ends.ofResult_bind (fun a ha => h a ha w₀ w hw) fun f _ => hw.raised f

theorem describing_bind {r : Except DescribeError α} {f : α → Op δ β}
    (h : ∀ a, r = .ok a → (f a).Takes S) : (Op.describing r >>= f).Takes S :=
  ofResult_bind fun a ha => h a (Except.mapError_eq_ok.mp ha)

theorem records_bind {f : Records → Op δ β} (h : ∀ rs, (f rs).Takes S) :
    (Op.records >>= f).Takes S :=
  fun w₀ w hw => h w.records w₀ w hw

/-- What always ends well and does nothing to the database. -/
theorem aside {m : Op δ α} (h : ∀ w, ∃ a w', m w = (.ok a, w') ∧ Aside w w') : m.Takes S := by
  intro w₀ w hw
  obtain ⟨a, w', hm, haside⟩ := h w
  refine ⟨fun b w'' h' => ?_, fun f w'' h' => ?_⟩
  · cases hm.symm.trans h'
    exact hw.aside haside
  · cases (Op.end_eq_end.mp (hm.symm.trans h')).1

theorem addRecord (r : Record) : (Op.addRecord r : Op δ Value).Takes S :=
  aside fun _ => ⟨_, _, rfl, rfl, rfl, rfl⟩

theorem warn (warning : Warning) : (Op.warn warning : Op δ Unit).Takes S :=
  aside fun _ => ⟨_, _, rfl, rfl, rfl, rfl⟩

theorem setField (v : Value) (field : String) (new : Value) :
    (Op.setField v field new : Op δ Unit).Takes S := by
  intro w₀ w hw
  cases v with
  | entity ref =>
    have hset : (Op.setField (.entity ref) field new : Op δ Unit).Takes S :=
      aside fun _ => ⟨_, _, rfl, rfl, rfl, rfl⟩
    exact hset w₀ w hw
  | _ => exact throw .notAssignable w₀ w hw

theorem forM {f : α → Op δ Unit} {as : List α} (h : ∀ a ∈ as, (f a).Takes S) :
    (as.forM f).Takes S :=
  fun w₀ _ hw => Op.Ends.forM (fun a ha w hw => h a ha w₀ w hw) hw

theorem mapM {f : α → Op δ β} {as : List α} (h : ∀ a ∈ as, (f a).Takes S) :
    (as.mapM f).Takes S := by
  intro w₀ w hw
  refine (Op.Ends.mapM (S := fun _ _ => True) (fun a ha w hw => ?_) hw).mono (fun _ _ h => h.1)
    fun _ _ h => h
  exact (h a ha w₀ w hw).mono (fun _ _ h => ⟨h, trivial⟩) fun _ _ h => h

theorem checkWritable (k : Connection) (operation : String) :
    (k.checkWritable operation : Op δ Unit).Takes S := by
  unfold Connection.checkWritable
  split
  · exact pure ()
  · exact throw _

end Op.Takes

/-! ## Statements and transactions -/

variable [Database δ] {P P' : World δ → Statement → List Value → Prop} {m : Management}

/-- A statement of `P` is run, and the database answers or declines. -/
inductive Asks (P : World δ → Statement → List Value → Prop) (w : World δ) :
    Option Failure → World δ → Prop
  | answered {s : Statement} {ps : List Value} {reply : Reply} {d : δ} (supplied : P w s ps)
      (run : Database.run w.records s ps w.database = (.ok reply, d)) :
      Asks P w none { w.after (.ran s ps) with database := d }
  | declined {s : Statement} {ps : List Value} {error : StatementError} {d : δ}
      (supplied : P w s ps)
      (run : Database.run w.records s ps w.database = (.error error, d)) :
      Asks P w (some error.toFailure) { w.after (.ran s ps) with database := d }

/-- A course of statements of `P` on one connection, with what comes of it. -/
inductive Transaction (P : World δ → Statement → List Value → Prop) (m : Management)
    (w : World δ) : Option Failure → World δ → Prop
  /-- There is no connection, and nothing is run. -/
  | unopened {f : Failure} {w' : World δ} (unopened : ensureOpen m w = (.error f, w')) :
      Transaction P m w (some f) w'
  /-- All statements were answered, and nothing failed. -/
  | committed {w₁ w₂ : World δ} (opened : ensureOpen m w = (.ok (), w₁))
      (work : Course (Asks P) w₁ none w₂) (agreed : (Database.commit w₂.database).1 = .ok ()) :
      Transaction P m w none (w₂.commit.leave m)
  /-- A statement was declined, or something else failed. -/
  | rolledBack {w₁ w₂ : World δ} {f : Failure} (opened : ensureOpen m w = (.ok (), w₁))
      (work : Course (Asks P) w₁ (some f) w₂) : Transaction P m w (some f) (w₂.rollback.leave m)
  /-- The database refuses to commit. -/
  | refused {w₁ w₂ : World δ} {message : String} (opened : ensureOpen m w = (.ok (), w₁))
      (work : Course (Asks P) w₁ none w₂)
      (refused : (Database.commit w₂.database).1 = .error message) :
      Transaction P m w (some (.uncommitted message)) (w₂.uncommitted.rollback.leave m)

theorem Asks.mono (hP : ∀ w s ps, P w s ps → P' w s ps) (h : Asks P w r w') : Asks P' w r w' := by
  cases h with
  | answered supplied run => exact .answered (hP _ _ _ supplied) run
  | declined supplied run => exact .declined (hP _ _ _ supplied) run

theorem Transaction.mono (hP : ∀ w s ps, P w s ps → P' w s ps) (h : Transaction P m w r w') :
    Transaction P' m w r w' := by
  have hwork : ∀ {w r w'}, Course (Asks P) w r w' → Course (Asks P') w r w' :=
    Course.mono fun _ _ _ => Asks.mono hP
  cases h with
  | unopened hopen => exact .unopened hopen
  | committed hopen work agreed => exact .committed hopen (hwork work) agreed
  | rolledBack hopen work => exact .rolledBack hopen (hwork work)
  | refused hopen work refused => exact .refused hopen (hwork work) refused

/-- Running a statement is a step, which gives the answer. -/
theorem Op.Ends.runStatement {s : Statement} {ps : List Value}
    (hw : Course (Asks P) w₀ none w) (hP : P w s ps) :
    (runStatement s ps).Ends w
      (fun reply w' => Course (Asks P) w₀ none w' ∧ EntityMap.runStatement s ps w = (.ok reply, w'))
      fun f => Course (Asks P) w₀ (some f) := by
  refine ⟨fun reply w' h => ⟨?_, h⟩, fun f w' h => ?_⟩
  · obtain ⟨d, hrun, rfl⟩ := runStatement_eq_ok.mp h
    exact hw.step (.answered hP hrun)
  · unfold EntityMap.runStatement at h
    rcases hrun : Database.run w.records s ps w.database with ⟨error | _, d⟩ <;> rw [hrun] at h
    · cases h
      exact hw.step (.declined hP hrun)
    · cases h

theorem Op.Takes.runStatement {s : Statement} {ps : List Value} (hP : ∀ w, P w s ps) :
    (runStatement s ps).Takes (Asks P) :=
  fun _ w hw => (Op.Ends.runStatement hw (hP w)).mono (fun _ _ h => h.1) fun _ _ h => h

/-- A body on a connection is one transaction, in which the body begins where the connection has
been opened. -/
theorem Op.Ends.transaction {body : Op δ α}
    (hbody : ∀ w₁, ensureOpen m w = (.ok (), w₁) → body.Carries (Asks P) w₁ w₁) :
    (EntityMap.withConnection m body).Ends w (fun _ => Transaction P m w none)
      fun f => Transaction P m w (some f) := by
  refine ⟨fun a w' h => ?_, fun f w' h => ?_⟩
  · obtain ⟨w₁, w₂, hopen, hb, hcommit, rfl⟩ := withConnection_eq_ok.mp h
    exact .committed hopen ((hbody w₁ hopen).1 _ _ hb) hcommit
  · rcases withConnection_eq_error.mp h with hopen | ⟨w₁, w₂, hopen, hb, rfl⟩
    · exact .unopened hopen
    -- Either the body has failed, or it has ended and its commit is refused.
    rcases committing_eq_error.mp hb with hf | ⟨a, w₃, message, ha, hrefused, rfl, rfl⟩
    · exact .rolledBack hopen ((hbody w₁ hopen).2 _ _ hf)
    · exact .refused hopen ((hbody w₁ hopen).1 _ _ ha) hrefused

theorem Op.Carries.withConnection {body : Op δ α} (hw : Course (Transaction P m) w₀ none w)
    (hbody : ∀ w₁, ensureOpen m w = (.ok (), w₁) → body.Carries (Asks P) w₁ w₁) :
    (EntityMap.withConnection m body).Carries (Transaction P m) w₀ w :=
  (Op.Ends.transaction hbody).mono (fun _ _ h => hw.step h) fun _ _ h => hw.step h

theorem Op.Takes.withConnection {body : Op δ α} (h : body.Takes (Asks P)) :
    (EntityMap.withConnection m body).Takes (Transaction P m) :=
  fun _ _ hw => Op.Carries.withConnection hw fun w₁ _ => h w₁ w₁ .start

/-! ## What is run -/

/-- Only statements of `Q` are run from the first world to the second. -/
def Ran (Q : Statement → List Value → Prop) (w w' : World δ) : Prop :=
  ∃ l, w'.events = w.events ++ l ∧ ∀ s ps, .ran s ps ∈ l → Q s ps

section

variable {Q : Statement → List Value → Prop} {w₁ w₂ w₃ : World δ}

omit [Database δ]

theorem Ran.trans (h : Ran Q w₁ w₂) (h' : Ran Q w₂ w₃) : Ran Q w₁ w₃ := by
  obtain ⟨l, hl, hran⟩ := h
  obtain ⟨l', hl', hran'⟩ := h'
  refine ⟨l ++ l', by rw [hl', hl, List.append_assoc], fun s ps hs => ?_⟩
  exact (List.mem_append.mp hs).elim (hran s ps) (hran' s ps)

theorem Ran.of_silent (h : Silent (fun _ => True) w₁ w₂) : Ran Q w₁ w₂ := by
  obtain ⟨l, hl, hsilent⟩ := h.events
  exact ⟨l, hl, fun s ps hs => nomatch hsilent _ hs⟩

theorem Course.ran (hS : ∀ w r w', S w r w' → Ran Q w w') (h : Course S w₀ r w) : Ran Q w₀ w := by
  induction h with
  | start => exact ⟨[], (List.append_nil _).symm, by simp⟩
  | aside _ haside ih =>
    rw [Ran, haside.events]
    exact ih
  | raised _ _ ih => exact ih
  | step _ hstep ih => exact ih.trans (hS _ _ _ hstep)

end

/-- A transaction runs what its course runs. -/
theorem Transaction.ran {Q : Statement → List Value → Prop} (hQ : ∀ w s ps, P w s ps → Q s ps)
    (h : Transaction P m w r w') : Ran Q w w' := by
  have hopen : ∀ {r w₁}, ensureOpen m w = (r, w₁) → Ran Q w w₁ := fun h =>
    .of_silent (silent_of_ensureOpen readInvariant_true h)
  have hwork : ∀ {r w₁ w₂}, Course (Asks P) w₁ r w₂ → Ran Q w₁ w₂ := by
    refine Course.ran fun w r w' h => ?_
    cases h with
    | @answered s ps _ _ supplied _ => exact ⟨[.ran s ps], rfl, by simpa using hQ w s ps supplied⟩
    | @declined s ps _ _ supplied _ => exact ⟨[.ran s ps], rfl, by simpa using hQ w s ps supplied⟩
  cases h with
  | unopened h => exact hopen h
  | committed h work _ =>
    exact ((hopen h).trans (hwork work)).trans
      (.of_silent (commit_leave_silent readInvariant_true m _))
  | rolledBack h work =>
    exact ((hopen h).trans (hwork work)).trans
      (.of_silent (rollback_leave_silent readInvariant_true m _))
  | refused h work _ =>
    exact (((hopen h).trans (hwork work)).trans
      (.of_silent (uncommitted_silent readInvariant_true _))).trans
      (.of_silent (rollback_leave_silent readInvariant_true m _))

/-! ## What is stored -/

/-- What is stored changes only with a commit that the database does not refuse. -/
structure Transactional {σ : Type} (stored : δ → σ) : Prop where
  connect : ∀ enforced d, stored (Database.connect enforced d).2 = stored d
  run : ∀ rs s ps d, stored (Database.run rs s ps d).2 = stored d
  refused : ∀ d message, (Database.commit d).1 = .error message →
    stored (Database.commit d).2 = stored d
  rollback : ∀ d, stored (Database.rollback d) = stored d

section

variable {σ : Type} {stored : δ → σ} (hstored : Transactional stored)
include hstored

theorem Transactional.ensureOpen {r : Except Failure Unit} (h : ensureOpen m w = (r, w')) :
    stored w'.database = stored w.database := by
  unfold EntityMap.ensureOpen openConnection at h
  have hconnect := hstored.connect m.foreignKeys w.database
  split at h
  · cases h
    rfl
  dsimp only [World.after] at h
  split at h
  · next hc =>
    cases h
    simpa [hc] using hconnect
  · next hc =>
    cases h
    simpa [hc] using hconnect

theorem Transactional.work (h : Course (Asks P) w₀ r w) :
    stored w.database = stored w₀.database := by
  induction h with
  | start => rfl
  | aside _ haside ih => rw [haside.database, ih]
  | raised _ _ ih => exact ih
  | @step w _ _ _ hstep ih =>
    rw [← ih]
    cases hstep with
    | @answered s ps _ _ _ hrun => simpa [hrun] using hstored.run w.records s ps w.database
    | @declined s ps _ _ _ hrun => simpa [hrun] using hstored.run w.records s ps w.database

omit [Database δ] hstored in
theorem leave_database (m : Management) (w : World δ) : (w.leave m).database = w.database := by
  unfold World.leave
  split <;> rfl

/-- A transaction that fails stores nothing. -/
theorem Transaction.stored_of_failed {f : Failure} (h : Transaction P m w (some f) w') :
    stored w'.database = stored w.database := by
  cases h with
  | unopened hopen => exact hstored.ensureOpen hopen
  | @rolledBack w₁ w₂ _ hopen work =>
    calc
      stored (w₂.rollback.leave m).database = stored w₂.database := by
        rw [leave_database]
        exact hstored.rollback w₂.database
      _ = stored w₁.database := hstored.work work
      _ = stored w.database := hstored.ensureOpen hopen
  | @refused w₁ w₂ message hopen work hrefused =>
    calc
      stored (w₂.uncommitted.rollback.leave m).database
          = stored (Database.commit w₂.database).2 := by
        rw [leave_database]
        exact hstored.rollback _
      _ = stored w₂.database := hstored.refused _ message hrefused
      _ = stored w₁.database := hstored.work work
      _ = stored w.database := hstored.ensureOpen hopen

end

/-- A database in memory stores what it has committed. -/
theorem transactional_committed : Transactional MemoryDatabase.committed where
  connect _ _ := rfl
  run rs s ps d := by
    simp only [Database.run, MemoryDatabase.run]
    split <;> rfl
  refused _ _ h := nomatch h
  rollback _ := rfl

/-! ## Events -/

/-- What opening a connection adds to the events ; that of a database in memory is opened once. -/
def Management.opening (m : Management) (isOpen : Bool) : List Event :=
  if m.location = .memory ∧ isOpen then []
  else [.opened m.timeout, .foreignKeys m.foreignKeys]

/-- What leaving a connection adds ; only that of a file is closed. -/
def Management.closing (m : Management) : List Event :=
  match m.location with
  | .memory => []
  | .file => [.closed]

/-- Statements with their parameters, as they are run. -/
def ranAll (l : List (Statement × List Value)) : List Event := l.map fun q => .ran q.1 q.2

/-- The events of one transaction, the failure that it ends with, and whether its connection is open
before and after. -/
inductive Block (m : Management) (isOpen : Bool) : Option Failure → List Event → Bool → Prop
  | unopened (f : Failure) : Block m isOpen (some f) [.opened m.timeout] isOpen
  | committed (l : List (Statement × List Value)) :
      Block m isOpen none (m.opening isOpen ++ ranAll l ++ [.committed] ++ m.closing)
        (m.location = .memory)
  | rolledBack (f : Failure) (l : List (Statement × List Value)) :
      Block m isOpen (some f) (m.opening isOpen ++ ranAll l ++ [.rolledBack] ++ m.closing)
        (m.location = .memory)
  | refused (message : String) (l : List (Statement × List Value)) :
      Block m isOpen (some (.uncommitted message))
        (m.opening isOpen ++ ranAll l ++ [.uncommitted, .rolledBack] ++ m.closing)
        (m.location = .memory)

/-- The events of transactions one after another. Whatever fails is the last. -/
inductive Log (m : Management) (isOpen₀ : Bool) : Option Failure → List Event → Bool → Prop
  | start : Log m isOpen₀ none [] isOpen₀
  | raised {l : List Event} {isOpen : Bool} (before : Log m isOpen₀ none l isOpen) (f : Failure) :
      Log m isOpen₀ (some f) l isOpen
  | block {l l' : List Event} {isOpen isOpen' : Bool} {r : Option Failure}
      (before : Log m isOpen₀ none l isOpen) (last : Block m isOpen r l' isOpen') :
      Log m isOpen₀ r (l ++ l') isOpen'

theorem ensureOpen_opening (m : Management) (w : World δ) :
    (ensureOpen m).Ends w
      (fun _ w' => w'.events = w.events ++ m.opening w.isOpen ∧ w'.isOpen = true)
      fun _ w' => w'.events = w.events ++ [.opened m.timeout] ∧ w'.isOpen = w.isOpen := by
  have hopen : ensureOpen m w = if m.location = .memory ∧ w.isOpen then (.ok (), w)
      else openConnection m w := rfl
  rw [Op.Ends, hopen, Management.opening]
  split
  · next hthere =>
    refine ⟨fun _ w' h => ?_, fun f w' h => ?_⟩
    · cases h
      exact ⟨(List.append_nil _).symm, hthere.2⟩
    · simp at h
  · unfold openConnection
    rcases hc : Database.connect m.foreignKeys w.database with ⟨_ | _, d⟩
    · refine ⟨fun _ w' h => ?_, fun f w' h => ?_⟩ <;> simp only [World.after, hc] at h
      · simp at h
      · cases h
        exact ⟨rfl, rfl⟩
    · refine ⟨fun _ w' h => ?_, fun f w' h => ?_⟩ <;> simp only [World.after, hc] at h
      · cases h
        exact ⟨by simp, rfl⟩
      · simp at h

omit [Database δ] in
theorem leave_events (m : Management) (w : World δ) :
    (w.leave m).events = w.events ++ m.closing
      ∧ (w.isOpen = true → (w.leave m).isOpen = decide (m.location = .memory)) := by
  unfold World.leave Management.closing
  cases hlocation : m.location with
  | memory => simp
  | file => simp [World.after]

/-- On a connection only statements are run, and it stays open. -/
theorem Course.exists_ranAll (h : Course (Asks P) w₀ r w) :
    w.isOpen = w₀.isOpen ∧ ∃ l, w.events = w₀.events ++ ranAll l := by
  induction h with
  | start => exact ⟨rfl, [], (List.append_nil _).symm⟩
  | aside _ haside ih => exact ⟨haside.isOpen.trans ih.1, by rw [haside.events]; exact ih.2⟩
  | raised _ _ ih => exact ih
  | step _ hstep ih =>
    obtain ⟨hopen, l, hl⟩ := ih
    cases hstep with
    | @answered s ps _ _ _ _ => exact ⟨hopen, l ++ [(s, ps)], by simp [World.after, hl, ranAll]⟩
    | @declined s ps _ _ _ _ => exact ⟨hopen, l ++ [(s, ps)], by simp [World.after, hl, ranAll]⟩

/-- A transaction adds a block to the events. -/
theorem Transaction.exists_block (h : Transaction P m w r w') :
    ∃ l, w'.events = w.events ++ l ∧ Block m w.isOpen r l w'.isOpen := by
  have hran : ∀ {w₁ w₂ : World δ} {r}, ensureOpen m w = (.ok (), w₁) → Course (Asks P) w₁ r w₂ →
      w₂.isOpen = true ∧ ∃ l, w₂.events = w.events ++ m.opening w.isOpen ++ ranAll l := by
    intro w₁ w₂ r hopen hwork
    obtain ⟨hevents, hisOpen⟩ := (ensureOpen_opening m w).1 () w₁ hopen
    obtain ⟨hsame, l, hl⟩ := hwork.exists_ranAll
    exact ⟨hsame.trans hisOpen, l, by rw [hl, hevents]⟩
  cases h with
  | unopened hopen =>
    obtain ⟨hevents, hisOpen⟩ := (ensureOpen_opening m w).2 _ _ hopen
    exact ⟨_, hevents, hisOpen ▸ .unopened _⟩
  | @committed _ w₂ hopen work _ =>
    obtain ⟨hisOpen, l, hl⟩ := hran hopen work
    obtain ⟨hevents, hleft⟩ := leave_events m w₂.commit
    rw [hleft hisOpen]
    refine ⟨_, ?_, .committed l⟩
    rw [hevents]
    simp [World.commit, World.after, hl]
  | @rolledBack _ w₂ _ hopen work =>
    obtain ⟨hisOpen, l, hl⟩ := hran hopen work
    obtain ⟨hevents, hleft⟩ := leave_events m w₂.rollback
    rw [hleft hisOpen]
    refine ⟨_, ?_, .rolledBack _ l⟩
    rw [hevents]
    simp [World.rollback, World.after, hl]
  | @refused _ w₂ message hopen work _ =>
    obtain ⟨hisOpen, l, hl⟩ := hran hopen work
    obtain ⟨hevents, hleft⟩ := leave_events m w₂.uncommitted.rollback
    rw [hleft hisOpen]
    refine ⟨_, ?_, .refused message l⟩
    rw [hevents]
    simp [World.rollback, World.uncommitted, World.after, hl]

/-- Transactions one after another add their blocks. -/
theorem Course.exists_log (h : Course (Transaction P m) w₀ r w) :
    ∃ l, w.events = w₀.events ++ l ∧ Log m w₀.isOpen r l w.isOpen := by
  induction h with
  | start => exact ⟨[], (List.append_nil _).symm, .start⟩
  | aside _ haside ih =>
    obtain ⟨l, hl, hlog⟩ := ih
    exact ⟨l, haside.events.trans hl, haside.isOpen ▸ hlog⟩
  | raised _ f ih =>
    obtain ⟨l, hl, hlog⟩ := ih
    exact ⟨l, hl, hlog.raised f⟩
  | step _ hstep ih =>
    obtain ⟨l, hl, hlog⟩ := ih
    obtain ⟨l', hl', hblock⟩ := hstep.exists_block
    exact ⟨l ++ l', by rw [hl', hl, List.append_assoc], hlog.block hblock⟩

end EntityMap
