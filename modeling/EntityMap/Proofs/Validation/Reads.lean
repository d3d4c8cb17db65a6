import EntityMap.Operation.Save
import EntityMap.Proofs.Storage.Step

/-!
# Validation only reads

Whether it succeeds or fails, validating changes no entity and inserts nothing : what is added to
the events are openings, closings and statements that count (`validate_reads`,
`validateRelated_reads`).
-/

namespace EntityMap

variable {δ α : Type}

/-- The statement that an event runs, if it does. -/
def Event.statement? : Event → Option Statement
  | ran s _ => some s
  | _ => none

/-- The table into which an event inserts, if it does. -/
def Event.insertedTable? : Event → Option String
  | ran (.insert table _) _ => some table
  | _ => none

/-- The event is an insertion. -/
def Event.isInsertion (e : Event) : Bool := e.insertedTable?.isSome

/-- What runs no statement inserts nothing. -/
theorem Event.isInsertion_eq_false {e : Event} (h : e.statement? = none) :
    e.isInsertion = false := by
  cases e with
  | ran s ps => simp [Event.statement?] at h
  | _ => rfl

/-- A set of states that a database does not leave as long as it is only asked to count. -/
structure ReadInvariant [Database δ] (I : δ → Prop) : Prop where
  connect : ∀ enforced d, I d → I (Database.connect enforced d).2
  count : ∀ rs table selection ps d, I d → I (Database.run rs (.count table selection) ps d).2
  commit : ∀ d, I d → I (Database.commit d).2
  rollback : ∀ d, I d → I (Database.rollback d)

/-- All states. -/
theorem readInvariant_true [Database δ] : ReadInvariant fun _ : δ => True :=
  ⟨fun _ _ _ => trivial, fun _ _ _ _ _ _ => trivial, fun _ _ => trivial, fun _ _ => trivial⟩

/-- No entity has changed, and only such events were added. -/
structure Adds (P : Event → Prop) (I : δ → Prop) (w w' : World δ) : Prop where
  records : w'.records = w.records
  events : ∃ l, w'.events = w.events ++ l ∧ ∀ e ∈ l, P e
  invariant : I w.database → I w'.database

/-- No entity has changed and nothing was inserted. -/
abbrev Reads (I : δ → Prop) (w w' : World δ) : Prop :=
  Adds (fun e => e.isInsertion = false) I w w'

/-- No entity has changed and no statement was run. -/
abbrev Silent (I : δ → Prop) (w w' : World δ) : Prop :=
  Adds (fun e => e.statement? = none) I w w'

variable {P : Event → Prop} {I : δ → Prop} {w w' w'' : World δ}

theorem Adds.refl (P : Event → Prop) (I : δ → Prop) (w : World δ) : Adds P I w w :=
  ⟨rfl, ⟨[], by simp, by simp⟩, id⟩

theorem Adds.trans (h : Adds P I w w') (h' : Adds P I w' w'') : Adds P I w w'' := by
  obtain ⟨l, hl, hadded⟩ := h.events
  obtain ⟨l', hl', hadded'⟩ := h'.events
  refine ⟨h'.records.trans h.records, ⟨l ++ l', by rw [hl', hl, List.append_assoc], ?_⟩,
    fun hI => h'.invariant (h.invariant hI)⟩
  intro e he
  rcases List.mem_append.mp he with he | he
  · exact hadded e he
  · exact hadded' e he

/-- What runs no statement only reads. -/
theorem Silent.reads (h : Silent I w w') : Reads I w w' :=
  { h with
    events := by
      obtain ⟨l, hl, hsilent⟩ := h.events
      exact ⟨l, hl, fun e he => Event.isInsertion_eq_false (hsilent e he)⟩ }

/-- Events are only added. -/
theorem Adds.events_extend (h : Adds P I w w') : w.events <+: w'.events := by
  obtain ⟨l, hl, -⟩ := h.events
  exact ⟨l, hl.symm⟩

/-- One event more. -/
theorem Adds.after {e : Event} (he : P e) (d : δ) (isOpen : Bool) (hI : I w.database → I d) :
    Adds P I w { w.after e with database := d, isOpen := isOpen } :=
  ⟨rfl, ⟨[e], rfl, by simpa using he⟩, hI⟩

theorem Silent.after {e : Event} (he : e.statement? = none) (d : δ) (isOpen : Bool)
    (hI : I w.database → I d) : Silent I w { w.after e with database := d, isOpen := isOpen } :=
  Adds.after he d isOpen hI

/-! ## Connections -/

variable [Database δ]

/-- Opening a connection runs no statement. -/
theorem ensureOpen_silent (hI : ReadInvariant I) (m : Management) (w : World δ) :
    Silent I w (ensureOpen m w).2 := by
  unfold ensureOpen openConnection
  split
  · exact Adds.refl _ _ w
  · have hconnect := hI.connect m.foreignKeys w.database
    dsimp only [World.after]
    rcases hc : Database.connect m.foreignKeys w.database with ⟨_ | _, d⟩ <;> rw [hc] at hconnect
    · exact Silent.after rfl d w.isOpen hconnect
    · exact (Silent.after rfl w.database w.isOpen id).trans (Silent.after rfl d true hconnect)

/-- The world that is left to a body has no statement more. -/
theorem silent_of_ensureOpen (hI : ReadInvariant I) {m : Management} {r : Except Failure Unit}
    (h : ensureOpen m w = (r, w')) : Silent I w w' := by
  have hsilent := ensureOpen_silent hI m w
  rwa [h] at hsilent

omit [Database δ] in
/-- Neither does leaving one. -/
theorem leave_silent (I : δ → Prop) (m : Management) (w : World δ) : Silent I w (w.leave m) := by
  unfold World.leave
  split
  · exact Adds.refl _ _ w
  · exact Silent.after rfl _ false id

/-- Nor committing. -/
theorem commit_silent (hI : ReadInvariant I) (w : World δ) : Silent I w w.commit :=
  Silent.after rfl _ w.isOpen (hI.commit _)

theorem uncommitted_silent (hI : ReadInvariant I) (w : World δ) : Silent I w w.uncommitted :=
  Silent.after rfl _ w.isOpen (hI.commit _)

theorem commit_leave_silent (hI : ReadInvariant I) (m : Management) (w : World δ) :
    Silent I w (w.commit.leave m) :=
  (commit_silent hI w).trans (leave_silent I m _)

/-- Nor rolling back. -/
theorem rollback_leave_silent (hI : ReadInvariant I) (m : Management) (w : World δ) :
    Silent I w (w.rollback.leave m) := by
  have hrollback : Silent I w w.rollback := Silent.after rfl _ w.isOpen (hI.rollback _)
  exact hrollback.trans (leave_silent I m _)

/-- What a body has done on a connection stays among the events. -/
theorem withConnection_extends {m : Management} {body : Op δ α} {w₁ : World δ}
    (hopen : ensureOpen m w = (.ok (), w₁)) :
    (body w₁).2.events <+: (withConnection m body w).2.events := by
  rcases hend : withConnection m body w with ⟨f | a, w'⟩
  · rcases withConnection_eq_error.mp hend with hfail | ⟨_, w₂, ho, hb, rfl⟩
    · rw [hopen] at hfail
      cases (Op.end_eq_end.mp hfail).1
    cases hopen.symm.trans ho
    have hleave := (rollback_leave_silent readInvariant_true m w₂).events_extend
    rcases committing_eq_error.mp hb with hf | ⟨_, w₃, _, ha, -, -, rfl⟩
    · exact hf ▸ hleave
    · exact ha ▸ (uncommitted_silent readInvariant_true w₃).events_extend.trans hleave
  · obtain ⟨_, w₂, ho, hb, -, rfl⟩ := withConnection_eq_ok.mp hend
    cases hopen.symm.trans ho
    exact hb ▸ (commit_leave_silent readInvariant_true m w₂).events_extend

/-- A connection on which nothing is inserted. -/
theorem withConnection_reads (hI : ReadInvariant I) {m : Management} {body : Op δ α}
    {w₀ : World δ} (hbody : body.Keeps (Reads I w₀)) :
    (withConnection m body).Keeps (Reads I w₀) := by
  intro w hw
  have hopen : (ensureOpen m).Ends w (fun _ => Reads I w₀) fun _ => Reads I w₀ :=
    ⟨fun _ _ h => hw.trans (silent_of_ensureOpen hI h).reads,
      fun _ _ h => hw.trans (silent_of_ensureOpen hI h).reads⟩
  refine (Op.Ends.withConnection hopen hbody).mono ?_ ?_
  · rintro a _ ⟨w₁, hw₁, -, rfl⟩
    exact hw₁.trans (commit_leave_silent hI m w₁).reads
  · rintro f w' (hw' | ⟨w₁, hw₁, rfl⟩ | ⟨_, w₁, _, hw₁, -, -, rfl⟩)
    · exact hw'
    · exact hw₁.trans (rollback_leave_silent hI m w₁).reads
    · exact (hw₁.trans (uncommitted_silent hI w₁).reads).trans
        (rollback_leave_silent hI m w₁.uncommitted).reads

/-- Counting inserts nothing. -/
theorem count_reads (hI : ReadInvariant I) (table : String) (selection : Selection)
    (ps : List Value) (w₀ : World δ) :
    (runStatement (.count table selection) ps).Keeps (Reads I w₀) := by
  intro w hw
  have hrun : Reads I w (runStatement (.count table selection) ps w).2 :=
    Adds.after (P := fun e => e.isInsertion = false) rfl _ w.isOpen
      (hI.count w.records table selection ps w.database)
  exact ⟨fun a w' h => hw.trans (by rwa [h] at hrun), fun f w' h => hw.trans (by rwa [h] at hrun)⟩

/-! ## Validating -/

variable {x : Library} {e : Entity} {v : Value}

theorem holdsValue_reads (hI : ReadInvariant I) (table column : String) (key : Value)
    (w₀ : World δ) : (holdsValue table column key).Keeps (Reads I w₀) :=
  (count_reads hI _ _ _ w₀).bind fun _ => Op.Keeps.ofResult _ _

theorem columnViolation_reads (hI : ReadInvariant I) (col : Column) (w₀ : World δ) :
    (columnViolation x e v col).Keeps (Reads I w₀) := by
  unfold columnViolation
  refine (Op.Keeps.records _).bind fun rs => ?_
  dsimp only
  split
  · exact Op.Keeps.pure _ _
  split
  · split <;> exact Op.Keeps.pure _ _
  split
  · refine (Op.Keeps.ofResult _ _).bind fun key => ?_
    refine (holdsValue_reads hI _ _ _ w₀).bind fun taken => ?_
    split <;> exact Op.Keeps.pure _ _
  · exact Op.Keeps.pure _ _

theorem joinViolation_reads (hI : ReadInvariant I) (j : Join) (w₀ : World δ) :
    (joinViolation x e v j).Keeps (Reads I w₀) := by
  unfold joinViolation
  refine (Op.Keeps.records _).bind fun rs => ?_
  dsimp only
  split
  · split <;> exact Op.Keeps.pure _ _
  split
  · refine (Op.Keeps.describing _ _).bind fun source => ?_
    refine (Op.Keeps.ofResult _ _).bind fun key => ?_
    split
    · exact Op.Keeps.pure _ _
    · refine (holdsValue_reads hI _ _ _ w₀).bind fun taken => ?_
      split <;> exact Op.Keeps.pure _ _
  · exact Op.Keeps.pure _ _

theorem violations_reads (hI : ReadInvariant I) (w₀ : World δ) :
    (violations x e v).Keeps (Reads I w₀) := by
  unfold violations
  split
  · exact Op.Keeps.throw _ _
  · refine withConnection_reads hI ?_
    have hcolumns : (e.columns.mapM (columnViolation x e v)).Keeps (Reads I w₀) :=
      Op.Keeps.mapM fun col _ => columnViolation_reads hI col w₀
    have hjoins : (e.joins.mapM (joinViolation x e v)).Keeps (Reads I w₀) :=
      Op.Keeps.mapM fun j _ => joinViolation_reads hI j w₀
    exact hcolumns.bind fun _ => hjoins.bind fun _ => Op.Keeps.pure _ _

theorem validate_reads (hI : ReadInvariant I) (w₀ : World δ) :
    (validate x e v).Keeps (Reads I w₀) := by
  unfold validate
  refine (violations_reads hI w₀).bind fun found => ?_
  split
  · exact Op.Keeps.pure _ _
  · exact Op.Keeps.throw _ _

/-- Validating what an entity cascades to changes nothing either. -/
theorem validateRelated_reads (hI : ReadInvariant I) (w₀ : World δ) (fuel : Nat) (e : Entity)
    (v : Value) : (validateRelated x fuel e v).Keeps (Reads I w₀) := by
  induction fuel generalizing e v with
  | zero => exact Op.Keeps.throw _ _
  | succ fuel ih =>
    intro w hw
    rw [validateRelated]
    refine Op.Ends.forM (fun j _ w hw => ?_) hw
    refine ((Op.Keeps.records _).bind fun rs => ?_) w hw
    dsimp only
    split
    · exact Op.Keeps.pure _ _
    · refine (Op.Keeps.describing _ _).bind fun relatedEntity => ?_
      split
      · exact (ih _ _).bind fun _ => validate_reads hI w₀
      · exact Op.Keeps.pure _ _

end EntityMap
