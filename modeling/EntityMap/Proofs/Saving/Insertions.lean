import EntityMap.Proofs.Saving.Settling
import EntityMap.Proofs.Schema.Fields
import EntityMap.Proofs.Validation.Reads

/-!
# Insertions

An `Insertion` is one row that was inserted, with the world before it. A list of them is `Orderly`
if each comes after everything that it cascades to and finds the database as those before it have
left it.

`Inserted` says that a part of a run has added an orderly list and has written nothing else but
fields of the entities that it is still at work on. Such parts compose (`Inserted.trans`), and they
keep the invariant `Ready` : the fields of joins are as they were, up to stand-ins.

Where the database numbers rows (`once`), what has been inserted is no longer unsaved, hence is
never inserted again.
-/

namespace EntityMap

open Relation

variable {δ : Type} [Database δ]

/-! ## Insertions -/

/-- A row that was inserted, with the world before it and the database's answer. -/
structure Insertion (δ : Type) [Database δ] where
  node : Node
  before : World δ
  /-- The keys of the columns that have no field. -/
  keys : List (String × Value)
  own : List (String × Value)
  reply : Reply
  own_eq : ownValues before.records node.entity node.object = .ok own
  accepted : (Database.run before.records
    (.insert node.entity.table ((addKeys keys own).map (·.1))) ((addKeys keys own).map (·.2))
    before.database).1 = .ok reply

namespace Insertion

variable (i : Insertion δ)

/-- The entity that was inserted. -/
def object : Value := i.node.object

/-- The values of the row. -/
def values : List (String × Value) := addKeys i.keys i.own

/-- The statement as it was run. -/
def event : Event :=
  .ran (.insert i.node.entity.table (i.values.map (·.1))) (i.values.map (·.2))

/-- The world right after the statement. -/
def after : World δ :=
  { i.before.after i.event with
    database := (Database.run i.before.records
      (.insert i.node.entity.table (i.values.map (·.1))) (i.values.map (·.2)) i.before.database).2 }

/-- The records are those before the insertion, with the number of the row written to the entity if
its key is counted up. -/
inductive Leaves : Records → Prop
  | numbered {key : Column} {ref : Nat} (counted : i.node.entity.countedKey? = some key)
      (entity : i.object = .entity ref) :
      Leaves (i.before.records.set ref key.field (.int i.reply.rowId))
  | unchanged (counted : i.node.entity.countedKey? = none) : Leaves i.before.records

/-- The last step of inserting writes the number of the row. -/
theorem leaves_of_number {w : World δ} {rowId : Int}
    (h : (do
      match i.node.entity.primaryKey with
      | some key => if key.autoIncrement then Op.setField i.object key.field (.int i.reply.rowId)
      | none => pure ()
      return i.reply.rowId : Op δ Int) i.after = (.ok rowId, w)) :
    ∃ rs, i.Leaves rs ∧ w = { i.after with records := rs } := by
  cases hkey : i.node.entity.primaryKey with
  | none =>
    rw [hkey] at h
    cases h
    exact ⟨_, .unchanged (by rw [Entity.countedKey?, hkey]; rfl), rfl⟩
  | some key =>
    rw [hkey] at h
    dsimp only at h
    split at h
    · next hauto =>
      obtain ⟨_, w₁, hset, h⟩ := Op.bind_eq_ok.mp h
      cases h
      obtain ⟨ref, hobject, rfl⟩ := Op.setField_eq_ok.mp hset
      exact ⟨_, .numbered (by simp [Entity.countedKey?, hkey, Option.filter, hauto]) hobject, rfl⟩
    · next hauto =>
      cases h
      exact ⟨_, .unchanged (by simp [Entity.countedKey?, hkey, Option.filter, hauto]), rfl⟩

/-- The entity carries the number of its row, if its key is counted up. -/
def Numbered (rs : Records) : Prop :=
  ∀ key, i.node.entity.primaryKey = some key → key.autoIncrement = true →
    rs.get i.object key.field = .int i.reply.rowId

end Insertion

/-- The world after insertions, as far as the database is concerned. -/
def afterAll (w : World δ) : List (Insertion δ) → World δ
  | [] => w
  | i :: is => afterAll i.after is

/-- Each insertion comes after all that it cascades to, and finds the database as the insertions
before it have left it; if everything is inserted once, it is the first of its entity. -/
def Orderly (x : Library) (rs : Records) (once : Prop) :
    List Value → World δ → List (Insertion δ) → Prop
  | _, _, [] => True
  | done, w, i :: is =>
    (once → i.object ∉ done) ∧ (∀ m, Cascades x rs i.node m → m.object ∈ done)
      ∧ i.before.events = w.events ∧ i.before.database = w.database
      ∧ Orderly x rs once (done ++ [i.object]) i.after is

variable {x : Library} {rs : Records} {root n m : Node} {w w' : World δ} {done : List Value}
  {once : Prop}

theorem afterAll_append (w : World δ) (is is' : List (Insertion δ)) :
    afterAll w (is ++ is') = afterAll (afterAll w is) is' := by
  induction is generalizing w with
  | nil => rfl
  | cons i is ih => exact ih i.after

theorem orderly_append (is is' : List (Insertion δ)) :
    Orderly x rs once done w (is ++ is') ↔
      Orderly x rs once done w is
        ∧ Orderly x rs once (done ++ is.map (·.object)) (afterAll w is) is' := by
  induction is generalizing done w with
  | nil => simp [Orderly, afterAll]
  | cons i is ih => simp [Orderly, afterAll, ih, and_assoc]

/-- Insertions are run one after the other, and nothing else in between. -/
theorem Orderly.events {is : List (Insertion δ)} (h : Orderly x rs once done w is) :
    (afterAll w is).events = w.events ++ is.map (·.event) := by
  induction is generalizing done w with
  | nil => simp [afterAll]
  | cons i is ih =>
    obtain ⟨-, -, hevents, -, hrest⟩ := h
    rw [afterAll, ih hrest]
    simp [Insertion.after, World.after, hevents]

/-- Only what has been done to the database counts. -/
theorem Orderly.congr {is : List (Insertion δ)} (h : Orderly x rs once done w is)
    (hevents : w'.events = w.events) (hdatabase : w'.database = w.database) :
    Orderly x rs once done w' is := by
  cases is with
  | nil => trivial
  | cons i is =>
    obtain ⟨hnew, hcascades, he, hd, hrest⟩ := h
    exact ⟨hnew, hcascades, he.trans hevents.symm, hd.trans hdatabase.symm, hrest⟩

/-- The database after insertions depends on the database before. -/
theorem afterAll_congr (is : List (Insertion δ)) (hevents : w'.events = w.events)
    (hdatabase : w'.database = w.database) :
    (afterAll w' is).events = (afterAll w is).events
      ∧ (afterAll w' is).database = (afterAll w is).database := by
  cases is with
  | nil => exact ⟨hevents, hdatabase⟩
  | cons i is => exact ⟨rfl, rfl⟩

/-- The entities of an orderly list are new and come once. -/
theorem Orderly.nodup {is : List (Insertion δ)} (honce : once) (h : Orderly x rs once done w is) :
    (∀ u ∈ is.map (·.object), u ∉ done) ∧ (is.map (·.object)).Nodup := by
  induction is generalizing done w with
  | nil => simp
  | cons i is ih =>
    obtain ⟨hnew, -, -, -, hrest⟩ := h
    obtain ⟨hlater, hnodup⟩ := ih hrest
    simp only [List.mem_append, List.mem_singleton, not_or] at hlater
    refine ⟨?_, ?_⟩
    · intro u hu
      rcases List.mem_cons.mp hu with rfl | hu
      · exact hnew honce
      · exact (hlater u hu).1
    · rw [List.map_cons, List.nodup_cons]
      exact ⟨fun hu => (hlater _ hu).2 rfl, hnodup⟩

/-- In an orderly list an insertion comes after what it cascades to, and each runs after those
before it. -/
theorem Orderly.split {pre post : List (Insertion δ)} {i : Insertion δ}
    (h : Orderly x rs once done w (pre ++ i :: post)) :
    (∀ m, Cascades x rs i.node m → m.object ∈ done ++ pre.map (·.object))
      ∧ i.before.events = w.events ++ pre.map (·.event)
      ∧ i.before.database = (afterAll w pre).database := by
  obtain ⟨hpre, -, hcascades, hevents, hdatabase, -⟩ := (orderly_append _ _).mp h
  exact ⟨hcascades, hevents.trans hpre.events, hdatabase⟩

/-! ## Numbers of rows -/

/-- A set of states that a database does not leave by insertions either. -/
structure StateInvariant (I : δ → Prop) : Prop extends ReadInvariant I where
  insert : ∀ rs table columns ps d, I d → I (Database.run rs (.insert table columns) ps d).2

/-- All states. -/
theorem stateInvariant_true : StateInvariant fun _ : δ => True :=
  ⟨readInvariant_true, fun _ _ _ _ _ _ => trivial⟩

/-- States of a database in which an accepted insertion is answered with a number that is not
zero. -/
structure NumbersRows (I : δ → Prop) : Prop extends StateInvariant I where
  rowId : ∀ rs table columns ps d reply, I d →
    (Database.run rs (.insert table columns) ps d).1 = .ok reply → reply.rowId ≠ 0

/-! ## What a part of a run inserts -/

/-- From the first world to the second the list was inserted, and apart from its entities and the
owners nothing was written. -/
structure Inserted (x : Library) (rs : Records) (root : Node) (once : Prop) (I : δ → Prop)
    (owners done : List Value) (w w' : World δ) (is : List (Insertion δ)) : Prop where
  events : w'.events = (afterAll w is).events
  database : w'.database = (afterAll w is).database
  invariant : I w.database → I w'.database
  has : ∀ u, w.records.Has u → w'.records.Has u
  standIns : ∀ u, w.records.isPlaceholder u = true → w'.records.isPlaceholder u = true
  frame : ∀ u, w.records.Has u → u ∉ owners → u ∉ is.map (·.object) →
    w'.records.record? u = w.records.record? u
  steady : ∀ m, Cascaded x rs root m → ∀ j ∈ m.entity.joins, Steady rs w.records m.object j →
    Steady rs w'.records m.object j
  orderly : Orderly x rs once done w is
  cascaded : ∀ i ∈ is, Cascaded x rs root i.node ∧ i.object ∉ owners
  numbered : once → ∀ i ∈ is, i.Numbered w'.records ∧ i.reply.rowId ≠ 0

variable {I : δ → Prop} {owners : List Value}

/-- An owner is not inserted yet. -/
theorem Inserted.not_mem {is : List (Insertion δ)} {v : Value}
    (h : Inserted x rs root once I owners done w w' is) (hv : v ∈ owners) :
    v ∉ is.map (·.object) := by
  intro hmem
  obtain ⟨i, hi, rfl⟩ := List.mem_map.mp hmem
  exact (h.cascaded i hi).2 hv

/-- What is written to nobody is not written to an owner. -/
theorem Inserted.owned {is : List (Insertion δ)} (h : Inserted x rs root once I [] done w w' is)
    (howners : ∀ i ∈ is, i.object ∉ owners) : Inserted x rs root once I owners done w w' is :=
  { h with
    frame := fun u hu _ his => h.frame u hu List.not_mem_nil his
    cascaded := fun i hi => ⟨(h.cascaded i hi).1, howners i hi⟩ }

/-- Writing fields of an owner inserts nothing. -/
theorem Writes.inserted {v : Value} {written : String → Prop} (h : Writes v written w w')
    (hv : v ∈ owners) (hsteady : ∀ m, Cascaded x rs root m → ∀ j ∈ m.entity.joins,
      Steady rs w.records m.object j → Steady rs w'.records m.object j) :
    Inserted x rs root once I owners done w w' ([] : List (Insertion δ)) where
  events := h.events
  database := h.database
  invariant := by simp [h.database]
  has := h.has
  standIns := h.standIns
  frame u hu howners _ := h.frame u hu fun heq => howners (heq ▸ hv)
  steady := hsteady
  orderly := trivial
  cascaded := by simp
  numbered := by simp

theorem Inserted.refl (x : Library) (rs : Records) (root : Node) (once : Prop) (I : δ → Prop)
    (owners done : List Value) (w : World δ) :
    Inserted x rs root once I owners done w w ([] : List (Insertion δ)) :=
  ⟨rfl, rfl, id, fun _ h => h, fun _ h => h, fun _ _ _ _ => rfl, fun _ _ _ _ h => h, trivial,
    by simp, by simp⟩

/-- What was numbered keeps its number as long as it is not written. -/
theorem Insertion.Numbered.congr {i : Insertion δ} {rs rs' : Records} (h : i.Numbered rs)
    (hrecord : rs'.record? i.object = rs.record? i.object) : i.Numbered rs' := by
  intro key hkey hauto
  rw [Records.get_congr hrecord]
  exact h key hkey hauto

/-! ## The invariant -/

/-- The fields of joins are steady, and what has been inserted is of the cascade and waits for no
key any more, if everything is inserted once. -/
structure Ready (x : Library) (rs : Records) (root : Node) (once : Prop) (I : δ → Prop)
    (done : List Value) (w : World δ) : Prop where
  has : ∀ u, rs.Has u → w.records.Has u
  database : I w.database
  steady : ∀ m, Cascaded x rs root m → ∀ j ∈ m.entity.joins, Steady rs w.records m.object j
  cascaded : ∀ u ∈ done, ∃ m, Cascaded x rs root m ∧ m.object = u
  keyed : once → ∀ m, Visited x rs root m → m.object ∈ done →
    keyUnset w.records m.entity m.object = false

/-- An entity is done, or else it is as it was when the saving began. -/
def Fresh (rs : Records) (done : List Value) (w : World δ) (m : Node) : Prop :=
  m.object ∈ done ∨ w.records.record? m.object = rs.record? m.object

/-- An entity with the number of its row has its key. -/
theorem Insertion.Numbered.keyUnset_eq_false {i : Insertion δ} {rs : Records} (h : i.Numbered rs)
    (hne : i.reply.rowId ≠ 0) : keyUnset rs i.node.entity i.object = false := by
  unfold keyUnset
  cases hkey : i.node.entity.primaryKey with
  | none => rfl
  | some key =>
    cases hauto : key.autoIncrement with
    | false => simp [hauto]
    | true => simp [hauto, h key hkey hauto, Value.isNull, Value.isZero_int hne]

section

variable (hwf : WellFormed x rs root) (hroot : rs.Has root.object)
include hwf hroot

/-- Insertions after insertions. -/
theorem Inserted.trans {w₁ w₂ w₃ : World δ} {is is' : List (Insertion δ)}
    (hw : ∀ u, rs.Has u → w₁.records.Has u)
    (h : Inserted x rs root once I owners done w₁ w₂ is)
    (h' : Inserted x rs root once I owners (done ++ is.map (·.object)) w₂ w₃ is') :
    Inserted x rs root once I owners done w₁ w₃ (is ++ is') where
  events := by
    rw [afterAll_append, h'.events]
    exact (afterAll_congr is' h.events h.database).1
  database := by
    rw [afterAll_append, h'.database]
    exact (afterAll_congr is' h.events h.database).2
  invariant hI := h'.invariant (h.invariant hI)
  has u hu := h'.has u (h.has u hu)
  standIns u hu := h'.standIns u (h.standIns u hu)
  frame u hu howners his := by
    simp only [List.map_append, List.mem_append, not_or] at his
    rw [h'.frame u (h.has u hu) howners his.2, h.frame u hu howners his.1]
  steady m hm j hj hsteady := h'.steady m hm j hj (h.steady m hm j hj hsteady)
  orderly := by
    rw [orderly_append]
    exact ⟨h.orderly, h'.orderly.congr h.events.symm h.database.symm⟩
  cascaded i hi := by
    rcases List.mem_append.mp hi with hi | hi
    · exact h.cascaded i hi
    · exact h'.cascaded i hi
  numbered honce i hi := by
    rcases List.mem_append.mp hi with hi | hi
    · obtain ⟨hnumbered, hne⟩ := h.numbered honce i hi
      obtain ⟨hcascaded, howners⟩ := h.cascaded i hi
      have hhas := h.has _ (hw _ (hwf.has hroot hcascaded))
      have hlater : i.object ∉ is'.map (·.object) := fun hmem =>
        (h'.orderly.nodup honce).1 _ hmem (List.mem_append_right _ (List.mem_map_of_mem hi))
      exact ⟨hnumbered.congr (h'.frame _ hhas howners hlater), hne⟩
    · exact h'.numbered honce i hi

theorem Inserted.ready {is : List (Insertion δ)}
    (h : Inserted x rs root once I owners done w w' is) (hready : Ready x rs root once I done w)
    (howners : once → ∀ u ∈ owners, u ∉ done) :
    Ready x rs root once I (done ++ is.map (·.object)) w' where
  has u hu := h.has u (hready.has u hu)
  database := h.invariant hready.database
  steady m hm j hj := h.steady m hm j hj (hready.steady m hm j hj)
  cascaded u hu := by
    rcases List.mem_append.mp hu with hu | hu
    · exact hready.cascaded u hu
    · obtain ⟨i, hi, rfl⟩ := List.mem_map.mp hu
      exact ⟨i.node, (h.cascaded i hi).1, rfl⟩
  keyed honce m hm hdone := by
    rcases List.mem_append.mp hdone with hdone | hnew
    · have hframe := h.frame m.object (hready.has _ (hwf.has_of_visited hroot hm))
        (fun ho => howners honce _ ho hdone) (fun hi => (h.orderly.nodup honce).1 _ hi hdone)
      rw [Records.keyUnset_congr hframe]
      exact hready.keyed honce m hm hdone
    · obtain ⟨i, hi, heq⟩ := List.mem_map.mp hnew
      have hnode := hwf.eq_of_object_eq (.inl (h.cascaded i hi).1) hm heq
      subst hnode
      obtain ⟨hnumbered, hne⟩ := h.numbered honce i hi
      exact hnumbered.keyUnset_eq_false hne

end

theorem Inserted.fresh {is : List (Insertion δ)}
    (h : Inserted x rs root once I owners done w w' is) (hhas : w.records.Has m.object)
    (howners : m.object ∉ owners) (hfresh : Fresh rs done w m) :
    Fresh rs (done ++ is.map (·.object)) w' m := by
  rcases hfresh with hdone | hsame
  · exact .inl (List.mem_append_left _ hdone)
  · by_cases hnew : m.object ∈ is.map (·.object)
    · exact .inl (List.mem_append_right _ hnew)
    · exact .inr ((h.frame _ hhas howners hnew).trans hsame)

end EntityMap
