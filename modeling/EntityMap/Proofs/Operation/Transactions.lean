import EntityMap.Interface
import EntityMap.Proofs.Operation.Parameters
import EntityMap.Proofs.Operation.Statements

/-!
# Operations are all or nothing

Every operation is a course of transactions (`operations_atomic`) : whatever it is called with, and
wherever the database or a later step fails, on a file or in memory. So each connection ends with
one commit if its block was carried out, and otherwise with one rollback, after which nothing else
is done and the operation fails as its block has failed.

A saving inserts all its rows in the last of its transactions, hence it commits either all of them
or none.
-/

namespace EntityMap

variable {δ α : Type} [Database δ]

/-- Transactions whatever they run. -/
abbrev AnyTransaction (m : Management) : World δ → Option Failure → World δ → Prop :=
  Transaction (fun _ _ _ => True) m

/-- From every world the operation is a course of transactions, and the events that it adds are
their blocks. -/
def Op.Atomic (m : Management) (op : Op δ α) : Prop :=
  ∀ w, Course (AnyTransaction m) w (failure? (op w).1) (op w).2
    ∧ ∃ l, (op w).2.events = w.events ++ l
      ∧ Log m w.isOpen (failure? (op w).1) l (op w).2.isOpen

theorem Op.Atomic.of_takes {m : Management} {op : Op δ α} (h : op.Takes (AnyTransaction m)) :
    op.Atomic m :=
  fun w => ⟨(h w w .start).course, (h w w .start).course.exists_log⟩

/-! ## The operations -/

theorem save_takes (x : Library) (validating : Bool) (e : Entity) (v : Value) :
    (save x validating e v : Op δ Value).Takes (AnyTransaction x.management) :=
  fun _ _ hw => save_carries (fun _ _ _ _ _ _ => trivial) (fun _ _ _ _ _ _ _ _ => trivial) hw

theorem invoke_takes (x : Library) (e : Entity) (name : String) (args : List Value)
    (many : Option Bool) :
    (invoke x e name args many : Op δ Value).Takes (AnyTransaction x.management) :=
  fun _ _ hw => invoke_carries hw many fun _ _ _ _ => trivial

theorem runSql_takes (x : Library) (e : Entity) (q : SqlQuery) (args : List Value) (many : Bool) :
    (runSql x e q args many : Op δ Value).Takes (AnyTransaction x.management) :=
  fun _ _ hw => runSql_carries hw many fun _ _ _ _ => trivial

theorem createTable_takes (x : Library) (e : Entity) :
    (createTable x e : Op δ TableDefinition).Takes (AnyTransaction x.management) := by
  refine Op.Takes.describing_bind fun definition _ => ?_
  have hrun : (runStatement (.createTable definition) [] : Op δ Reply).Takes
      (Asks fun _ _ _ => True) := Op.Takes.runStatement fun _ => trivial
  exact (Op.Takes.withConnection (hrun.bind fun _ => Op.Takes.pure _)).bind fun _ =>
    Op.Takes.pure _

theorem create_takes (x : Library) (t : TableClass) (entity : Option String) :
    (t.create x entity : Op δ Table).Takes (AnyTransaction x.management) := by
  unfold TableClass.create
  split
  · exact Op.Takes.throw _
  · refine Op.Takes.describing_bind fun e _ => ?_
    exact (createTable_takes x e).bind fun _ => Op.Takes.pure _

theorem call_takes (x : Library) (q : QueryObject) (name : String) (args : List Value) :
    (q.call x name args : Op δ Value).Takes (AnyTransaction x.management) := by
  unfold QueryObject.call
  split
  · exact Op.Takes.pure _
  · exact invoke_takes x _ name args _
  · exact runSql_takes x _ _ args _
  · split
    · exact invoke_takes x _ name args none
    · exact Op.Takes.throw _
  · unfold QueryObject.callUndeclared
    split
    · exact Op.Takes.throw _
    · exact invoke_takes x _ name args none

/-! ## Insertions of a saving -/

/-- The events are blocks, and the insertions among them are all in the last one, with whose failure
they end. -/
inductive InsertsAtOnce (m : Management) (isOpen₀ : Bool) :
    Option Failure → List Event → Bool → Prop
  | failed {f : Failure} {l : List Event} {isOpen : Bool} (log : Log m isOpen₀ (some f) l isOpen)
      (reads : ∀ ev ∈ l, ev.isInsertion = false) : InsertsAtOnce m isOpen₀ (some f) l isOpen
  | last {r : Option Failure} {l l' : List Event} {isOpen isOpen' : Bool}
      (log : Log m isOpen₀ none l isOpen) (reads : ∀ ev ∈ l, ev.isInsertion = false)
      (block : Block m isOpen r l' isOpen') : InsertsAtOnce m isOpen₀ r (l ++ l') isOpen'

section

variable {C R : World δ → Statement → List Value → Prop} {m : Management} {w w' : World δ}
  {r : Option Failure}

/-- If the statements of a course are no insertions then its events are none. -/
theorem Course.exists_log_reads (hC : ∀ w s ps, C w s ps → s.isInsert = false)
    (h : Course (Transaction C m) w r w') :
    ∃ l, w'.events = w.events ++ l ∧ Log m w.isOpen r l w'.isOpen
      ∧ ∀ ev ∈ l, ev.isInsertion = false := by
  obtain ⟨l, hl, hlog⟩ := h.exists_log
  have hran : Ran (fun s _ => s.isInsert = false) w w' :=
    h.ran fun _ _ _ hstep => hstep.ran hC
  obtain ⟨l', hl', hreads⟩ := hran
  obtain rfl := List.append_cancel_left (hl.symm.trans hl')
  refine ⟨l, hl, hlog, fun ev hev => ?_⟩
  cases ev with
  | ran s ps =>
    have hs := hreads s ps hev
    cases s with
    | insert => cases hs
    | _ => rfl
  | _ => rfl

theorem Staged.exists_insertsAtOnce (hC : ∀ w s ps, C w s ps → s.isInsert = false)
    (h : Staged C R m w r w') :
    ∃ l, w'.events = w.events ++ l ∧ InsertsAtOnce m w.isOpen r l w'.isOpen := by
  cases h with
  | failed course =>
    obtain ⟨l, hl, hlog, hreads⟩ := course.exists_log_reads hC
    exact ⟨l, hl, .failed hlog hreads⟩
  | last course last =>
    obtain ⟨l, hl, hlog, hreads⟩ := course.exists_log_reads hC
    obtain ⟨l', hl', hblock⟩ := last.exists_block
    exact ⟨l ++ l', by rw [hl', hl, List.append_assoc], .last hlog hreads hblock⟩

/-- If it fails then nothing is stored after what the course before the last transaction stores. -/
theorem Staged.stored_of_failed {σ : Type} {stored : δ → σ} {f : Failure}
    (hstored : Transactional stored) (h : Staged C R m w (some f) w') :
    ∃ r w₁, Course (Transaction C m) w r w₁ ∧ stored w'.database = stored w₁.database := by
  cases h with
  | failed course => exact ⟨_, _, course, rfl⟩
  | last course last => exact ⟨_, _, course, last.stored_of_failed hstored⟩

end

/-- What a saving counts with is no insertion, and each of its rows is one. -/
theorem save_inserts_last (x : Library) (validating : Bool) (e : Entity) (v : Value) (w : World δ) :
    Staged (fun _ s _ => s.isInsert = false) (fun _ s _ => s.isInsert = true) x.management w
      (failure? (save x validating e v w).1) (save x validating e v w).2 := by
  refine Op.Ends.result (R := Staged _ _ x.management w) (save_staged ?_ ?_)
  · rintro w₁ n s pairs - (_ | _) <;> rfl
  · rintro opened c w₁ s pairs - - ⟨-, -⟩
    rfl

/-! ## The theorem -/

/-- Every operation is a course of transactions, each committed once if its block was carried out,
and otherwise rolled back once, never committed and the last thing done. A saving has all its
insertions in the last transaction, which is committed only if each of them was answered. -/
theorem operations_atomic (x : Library) :
    (∀ (q : QueryObject) (name : String) (args : List Value),
      (q.call x name args : Op δ Value).Atomic x.management)
    ∧ (∀ (e : Entity) (name : String) (args : List Value) (many : Option Bool),
      (invoke x e name args many : Op δ Value).Atomic x.management)
    ∧ (∀ (e : Entity) (q : SqlQuery) (args : List Value) (many : Bool),
      (runSql x e q args many : Op δ Value).Atomic x.management)
    ∧ (∀ (e : Entity) (v : Value), (validate x e v : Op δ Unit).Atomic x.management
      ∧ (isValid x e v : Op δ Bool).Atomic x.management)
    ∧ (∀ e : Entity, (createTable x e : Op δ TableDefinition).Atomic x.management)
    ∧ (∀ (t : TableClass) (entity : Option String),
      (t.create x entity : Op δ Table).Atomic x.management)
    ∧ ∀ (validating : Bool) (e : Entity) (v : Value),
      (save x validating e v : Op δ Value).Atomic x.management
      ∧ ∀ w : World δ, ∃ r w', save x validating e v w = (r, w')
        ∧ Staged (fun _ s _ => s.isInsert = false) (fun _ s _ => s.isInsert = true)
          x.management w (failure? r) w'
        ∧ ∃ l, w'.events = w.events ++ l
          ∧ InsertsAtOnce x.management w.isOpen (failure? r) l w'.isOpen := by
  refine ⟨fun q name args => .of_takes (call_takes x q name args),
    fun e name args many => .of_takes (invoke_takes x e name args many),
    fun e q args many => .of_takes (runSql_takes x e q args many),
    fun e v => ⟨.of_takes (validate_takes (n := ⟨e, v⟩) fun _ _ _ _ => trivial),
      .of_takes (isValid_takes (n := ⟨e, v⟩) fun _ _ _ _ => trivial)⟩,
    fun e => .of_takes (createTable_takes x e),
    fun t entity => .of_takes (create_takes x t entity),
    fun validating e v => ⟨.of_takes (save_takes x validating e v), fun w => ?_⟩⟩
  have hlast := save_inserts_last x validating e v w
  exact ⟨_, _, rfl, hlast, hlast.exists_insertsAtOnce fun _ _ _ h => h⟩

end EntityMap
