import EntityMap.Proofs.Validation.Reads

/-!
# The statements of a run

`World.statements` are the statements that have been run, whatever the database has answered.
`Op.Runs` says which lists of statements a step may add to them, whichever way it ends, and
`Op.Issues` which statements. Neither opening nor leaving a connection adds one
(`Op.Runs.withConnection`); apart from that the rules follow the constructors of a step.
-/

namespace EntityMap

variable {δ α β : Type} {L L' : List Statement → Prop} {P P' : Statement → Prop}

/-- The statements that have been run, the first first. -/
def World.statements (w : World δ) : List Statement := w.events.filterMap (·.statement?)

/-- Whichever way it ends, a step runs a list of statements of `L`. -/
def Op.Runs (L : List Statement → Prop) (m : Op δ α) : Prop :=
  ∀ w, ∃ l, (m w).2.statements = w.statements ++ l ∧ L l

/-- Whichever way it ends, a step runs statements of `P` only. -/
abbrev Op.Issues (P : Statement → Prop) (m : Op δ α) : Prop := m.Runs fun l => ∀ s ∈ l, P s

/-- From the first world to the second only statements of `P` were run. -/
def Since (P : Statement → Prop) (w w' : World δ) : Prop :=
  ∃ l, w'.statements = w.statements ++ l ∧ ∀ s ∈ l, P s

/-- One statement more since a world. -/
theorem Since.after {w w' : World δ} {s : Statement} (h : Since P w w')
    (hs : P s) (ps : List Value) (d : δ) :
    Since P w { w'.after (.ran s ps) with database := d } := by
  obtain ⟨l, hl, hall⟩ := h
  refine ⟨l ++ [s], ?_, fun t ht => ?_⟩
  · show (w'.events ++ [Event.ran s ps]).filterMap (·.statement?) = _
    rw [List.filterMap_append, ← World.statements, hl, List.append_assoc]
    rfl
  · rcases List.mem_append.mp ht with ht | ht
    · exact hall t ht
    · exact List.mem_singleton.mp ht ▸ hs

/-! ## Parts of a step -/

theorem Op.Runs.mono {m : Op δ α} (h : m.Runs L) (hL : ∀ l, L l → L' l) : m.Runs L' := by
  intro w
  obtain ⟨l, hl, hall⟩ := h w
  exact ⟨l, hl, hL l hall⟩

theorem Op.Issues.mono {m : Op δ α} (h : m.Issues P) (hP : ∀ s, P s → P' s) : m.Issues P' :=
  Op.Runs.mono h fun _ hall s hs => hP s (hall s hs)

/-- A step that leaves the events runs nothing. -/
theorem Op.Runs.quiet {m : Op δ α} (h : ∀ w, (m w).2.statements = w.statements) (hL : L []) :
    m.Runs L := by
  intro w
  exact ⟨[], by rw [h w, List.append_nil], hL⟩

/-- The second part runs its list after that of the first, unless the first fails. -/
theorem Op.Runs.bind {L₁ L₂ : List Statement → Prop} {m : Op δ α} {f : α → Op δ β}
    (hm : m.Runs L₁) (hf : ∀ a, (f a).Runs L₂) (hfail : ∀ l, L₁ l → L l)
    (happend : ∀ l l', L₁ l → L₂ l' → L (l ++ l')) : (m >>= f).Runs L := by
  intro w
  obtain ⟨l, hl, hall⟩ := hm w
  rw [Op.bind_apply]
  rcases hmw : m w with ⟨e | a, w₁⟩
  · rw [hmw] at hl
    exact ⟨l, hl, hfail l hall⟩
  · rw [hmw] at hl
    obtain ⟨l', hl', hall'⟩ := hf a w₁
    exact ⟨l ++ l', by rw [hl', hl, List.append_assoc], happend l l' hall hall'⟩

/-- A result comes before what is done with its value. -/
theorem Op.Runs.ofResult_bind {r : Except Failure α} {f : α → Op δ β} (hL : L [])
    (h : ∀ a, r = .ok a → (f a).Runs L) : (Op.ofResult r >>= f).Runs L := by
  cases r with
  | error e => exact Op.Runs.quiet (fun _ => rfl) hL
  | ok a => exact h a rfl

theorem Op.Runs.describing_bind {r : Except DescribeError α} {f : α → Op δ β} (hL : L [])
    (h : ∀ a, r = .ok a → (f a).Runs L) : (Op.describing r >>= f).Runs L :=
  Op.Runs.ofResult_bind hL fun a ha => h a (Except.mapError_eq_ok.mp ha)

theorem Op.Runs.records_bind {f : Records → Op δ β} (h : ∀ rs, (f rs).Runs L) :
    (Op.records >>= f).Runs L :=
  fun w => h w.records w

/-- A step that runs nothing comes before another one. -/
theorem Op.Runs.quiet_bind {m : Op δ α} {f : α → Op δ β} (hL : L [])
    (hm : ∀ w, (m w).2.statements = w.statements) (hf : ∀ a, (f a).Runs L) :
    (m >>= f).Runs L := by
  have hnothing : m.Runs (· = []) := Op.Runs.quiet hm rfl
  refine hnothing.bind hf ?_ ?_
  · rintro _ rfl
    exact hL
  · rintro _ l rfl hl
    exact hl

/-- A step is followed by one that runs nothing. -/
theorem Op.Runs.bind_quiet {m : Op δ α} {f : α → Op δ β} (hm : m.Runs L)
    (hf : ∀ a w, ((f a) w).2.statements = w.statements) : (m >>= f).Runs L := by
  have hnothing : ∀ a, (f a).Runs (· = []) := fun a => Op.Runs.quiet (hf a) rfl
  refine hm.bind hnothing (fun _ h => h) ?_
  rintro l _ hl rfl
  rwa [List.append_nil]

/-! ## Sets of statements -/

theorem Op.Issues.bind {m : Op δ α} {f : α → Op δ β} (hm : m.Issues P)
    (hf : ∀ a, (f a).Issues P) : (m >>= f).Issues P := by
  refine Op.Runs.bind hm hf (fun _ h => h) fun l l' hl hl' s hs => ?_
  rcases List.mem_append.mp hs with hs | hs
  · exact hl s hs
  · exact hl' s hs

/-- A step that runs nothing is one of any set. -/
theorem Op.Issues.quiet {m : Op δ α} (h : ∀ w, (m w).2.statements = w.statements) : m.Issues P :=
  Op.Runs.quiet h (by simp)

theorem Op.Issues.pure (a : α) : (pure a : Op δ α).Issues P :=
  Op.Issues.quiet fun _ => rfl

theorem Op.Issues.throw (f : Failure) : (throw f : Op δ α).Issues P :=
  Op.Issues.quiet fun _ => rfl

theorem Op.Issues.ofResult (r : Except Failure α) : (Op.ofResult r : Op δ α).Issues P :=
  Op.Issues.quiet fun _ => rfl

theorem Op.Issues.setField (v : Value) (field : String) (new : Value) :
    (Op.setField v field new : Op δ Unit).Issues P := by
  refine Op.Issues.quiet fun w => ?_
  cases v <;> rfl

theorem Op.Issues.ofResult_bind {r : Except Failure α} {f : α → Op δ β}
    (h : ∀ a, r = .ok a → (f a).Issues P) : (Op.ofResult r >>= f).Issues P :=
  Op.Runs.ofResult_bind (by simp) h

theorem Op.Issues.describing_bind {r : Except DescribeError α} {f : α → Op δ β}
    (h : ∀ a, r = .ok a → (f a).Issues P) : (Op.describing r >>= f).Issues P :=
  Op.Runs.describing_bind (by simp) h

theorem Op.Issues.forM {f : α → Op δ Unit} {as : List α} (h : ∀ a ∈ as, (f a).Issues P) :
    (as.forM f).Issues P := by
  induction as with
  | nil => exact Op.Issues.pure ()
  | cons a as ih =>
    show (f a >>= fun _ => as.forM f).Issues P
    exact (h a List.mem_cons_self).bind fun _ => ih fun b hb => h b (List.mem_cons_of_mem _ hb)

theorem Op.Issues.mapM {f : α → Op δ β} {as : List α} (h : ∀ a ∈ as, (f a).Issues P) :
    (as.mapM f).Issues P := by
  induction as with
  | nil => exact Op.Issues.pure []
  | cons a as ih =>
    rw [List.mapM_cons]
    refine (h a List.mem_cons_self).bind fun b => ?_
    exact (ih fun b hb => h b (List.mem_cons_of_mem _ hb)).bind fun bs => Op.Issues.pure _

/-- What every run keeps to is what was run since. -/
theorem Op.Issues.of_keeps {m : Op δ α} (h : ∀ w, m.Keeps (Since P w)) : m.Issues P := by
  intro w
  have hends := h w w ⟨[], by simp, by simp⟩
  rcases hm : m w with ⟨f | a, w'⟩
  · exact hends.2 f w' hm
  · exact hends.1 a w' hm

/-- What runs no statement leaves the statements. -/
theorem Silent.statements {I : δ → Prop} {w w' : World δ} (h : Silent I w w') :
    w'.statements = w.statements := by
  obtain ⟨l, hl, hsilent⟩ := h.events
  have hnothing : l.filterMap (·.statement?) = [] := by
    rw [List.filterMap_eq_nil_iff]
    exact hsilent
  rw [World.statements, hl, List.filterMap_append, hnothing, List.append_nil, World.statements]

/-! ## Statements and connections -/

variable [Database δ]

/-- A statement counts, whatever the database answers. -/
theorem Op.Runs.runStatement {s : Statement} (ps : List Value) (h : L [s]) :
    (runStatement s ps : Op δ Reply).Runs L := by
  intro w
  refine ⟨[s], ?_, h⟩
  show (w.events ++ [Event.ran s ps]).filterMap (·.statement?) = _
  rw [List.filterMap_append, World.statements]
  rfl

theorem Op.Issues.runStatement {s : Statement} (ps : List Value) (h : P s) :
    (runStatement s ps : Op δ Reply).Issues P :=
  Op.Runs.runStatement ps (by simpa using h)

/-- Committing runs nothing. -/
theorem commitWork_quiet (w : World δ) : (commitWork w).2.statements = w.statements := by
  unfold commitWork
  split
  · exact (commit_silent readInvariant_true w).statements
  · exact (uncommitted_silent readInvariant_true w).statements

/-- On a connection there is run what the body runs, or nothing. -/
theorem Op.Runs.withConnection {m : Management} {body : Op δ α} (hL : L []) (h : body.Runs L) :
    (withConnection m body).Runs L := by
  have hcommitting : (committing body).Runs L := h.bind_quiet fun a w =>
    show ((commitWork >>= fun _ => Pure.pure a : Op δ α) w).2.statements = w.statements by
      rw [← commitWork_quiet w, Op.bind_apply]
      rcases commitWork w with ⟨_ | _, _⟩ <;> rfl
  intro w
  have hopen := (ensureOpen_silent readInvariant_true m w).statements
  unfold EntityMap.withConnection
  rcases ho : ensureOpen m w with ⟨f | _, w₁⟩
  · rw [ho] at hopen
    exact ⟨[], by simpa using hopen, hL⟩
  · rw [ho] at hopen
    obtain ⟨l, hl, hall⟩ := hcommitting w₁
    rcases hb : committing body w₁ with ⟨f | a, w₂⟩ <;> rw [hb] at hl
    · have hleave := (rollback_leave_silent readInvariant_true m w₂).statements
      exact ⟨l, by simp only [hb]; rw [hleave, hl, hopen], hall⟩
    · have hleave := (leave_silent (fun _ => True) m w₂).statements
      exact ⟨l, by simp only [hb]; rw [hleave, hl, hopen], hall⟩

theorem Op.Issues.withConnection {m : Management} {body : Op δ α} (h : body.Issues P) :
    (withConnection m body).Issues P :=
  Op.Runs.withConnection (by simp) h

end EntityMap
