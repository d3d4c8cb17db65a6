import EntityMap.Proofs.Saving.Insertions
import EntityMap.Proofs.Saving.Stages
import EntityMap.Proofs.Schema.Fields
import EntityMap.Sample
import EntityMap.Schema.Definition
import EntityMap.Storage.Script

/-!
# Cascades

Saving inserts an entity and everything that it cascades to, each once and each after what it
depends on (`save_inserts_cascade`).

The induction is on the recursion of `insertEntity`. Of what is ahead of a call everything is
either done, and then it has its key, or as it was when the saving began (`Fresh`); so a call
decides as the records at first do, whatever has been written since.
-/

namespace EntityMap

open Relation

variable {δ : Type} [Database δ] {x : Library} {rs : Records} {root n m : Node} {w w' : World δ}
  {done : List Value} {once : Prop} {I : δ → Prop}

/-! ## One join -/

/-- What inserting with so much fuel does : it adds the entity, after others that it cascades to. -/
def Inserts (x : Library) (rs : Records) (root : Node) (once : Prop) (I : δ → Prop)
    (k : Connection) (fuel : Nat) : Prop :=
  ∀ (n : Node) (done : List Value) (w w' : World δ) (rowId : Int), Cascaded x rs root n →
    Ready x rs root once I done w → (once → n.object ∉ done) →
    (∀ m, TransGen (Holds x rs) n m → rs.Has m.object → Fresh rs done w m) →
    insertEntity x k fuel n.entity n.object w = (.ok rowId, w') →
    ∃ before i, Inserted x rs root once I [] done w w' (before ++ [i]) ∧ i.node = n
      ∧ ∀ i ∈ before, TransGen (Cascades x rs) n i.node

section

variable (hwf : WellFormed x rs root) (hroot : rs.Has root.object)
include hwf hroot

/-- The related entity gets ready by insertions that the owner cascades to. -/
theorem RelatedReady.inserted_of {k : Connection} {fuel : Nat}
    (ih : Inserts x rs root once I k fuel) (hn : Cascaded x rs root n)
    (hready : Ready x rs root once I done w)
    (hfresh : ∀ m, TransGen (Holds x rs) n m → rs.Has m.object → Fresh rs done w m)
    (hm : Holds x rs n m) (h : RelatedReady (insertEntity x k fuel) m w w') :
    ∃ is, Inserted x rs root once I [n.object] done w w' is
      ∧ (∀ i ∈ is, TransGen (Cascades x rs) n i.node)
      ∧ (Unsaved rs m → m.object ∈ done ++ is.map (·.object)) := by
  have hvisited : Visited x rs root m := .inr ⟨n, hn, hm⟩
  have hrecord : m.object ∉ done → w.records.record? m.object = rs.record? m.object := fun hdone =>
    (hfresh m (.single hm) (hwf.has_of_visited hroot hvisited)).resolve_left hdone
  cases h with
  | inserted unsaved run =>
    have hcascades : Cascades x rs n m := by
      by_cases hdone : m.object ∈ done
      · obtain ⟨m', hm', heq⟩ := hready.cascaded _ hdone
        cases hwf.eq_of_object_eq (.inl hm') hvisited heq
        exact hwf.cascades_of_holds hn hm hm'
      · exact ⟨hm, unsaved.congr (hrecord hdone).symm⟩
    have hdone : once → m.object ∉ done := fun honce hdone => by
      rw [Unsaved, hready.keyed honce m hvisited hdone] at unsaved
      exact Bool.false_ne_true unsaved.2
    obtain ⟨before, i, hinserted, rfl, hbefore⟩ := ih m done w w' _ (hn.tail hcascades) hready hdone
      (fun m' hm' => hfresh m' (TransGen.head hm hm')) run
    have hpaths : ∀ i' ∈ before ++ [i], TransGen (Cascades x rs) n i'.node := by
      intro i' hi'
      rcases List.mem_append.mp hi' with hi' | hi'
      · exact TransGen.head hcascades (hbefore i' hi')
      · rw [List.mem_singleton.mp hi']
        exact .single hcascades
    refine ⟨before ++ [i], hinserted.owned fun i' hi' hmem => ?_, hpaths, fun _ => ?_⟩
    · have hpath := holds_of_cascades (hpaths i' hi')
      exact hwf.acyclic n i'.node hn hpath (List.mem_singleton.mp hmem)
    · simp [Insertion.object]
  | present saved =>
    refine ⟨[], Inserted.refl x rs root once I _ done w, by simp, fun hunsaved => ?_⟩
    by_contra hdone
    have hdone : m.object ∉ done := by simpa using hdone
    exact saved (hunsaved.congr (hrecord hdone))

/-- Settling a join inserts what the owner cascades to through it. -/
theorem settleJoin_inserted {k : Connection} {fuel ref : Nat} {j : Join}
    {keys keys' : List (String × Value)} (ih : Inserts x rs root once I k fuel)
    (hdistinct : n.entity.Distinct) (hn : Cascaded x rs root n)
    (hobject : n.object = .entity ref) (hj : j ∈ n.entity.joins)
    (hready : Ready x rs root once I done w)
    (hfresh : ∀ m, TransGen (Holds x rs) n m → rs.Has m.object → Fresh rs done w m)
    (h : settleJoin x (insertEntity x k fuel) n.entity n.object keys j w = (.ok keys', w')) :
    ∃ is, Inserted x rs root once I [n.object] done w w' is
      ∧ (∀ i ∈ is, TransGen (Cascades x rs) n i.node)
      ∧ ∀ m, HoldsBy x rs n j m → Unsaved rs m → m.object ∈ done ++ is.map (·.object) := by
  have hhas : ∀ {m}, Cascaded x rs root m → w.records.Has m.object := fun hm =>
    hready.has _ (hwf.has hroot hm)
  rw [hobject] at h
  obtain ⟨related, w₁, hrelated, h⟩ := settleJoin_eq_ok h
  rw [← hobject] at hrelated
  have hmade : Inserted x rs root once I [n.object] done w w₁ [] := by
    have hwrites : Writes n.object (· = j.field) w w₁ :=
      relatedOrPlaceholder_writes (hhas hn) rfl hrelated
    exact hwrites.inserted (List.mem_singleton_self _)
      fun m hm j' _ => relatedOrPlaceholder_steady (hhas hn) (hhas hm) hrelated
  have hthere := relatedOrPlaceholder_of_steady (hready.steady n hn j hj) hrelated
  have hempty : rs.get n.object j.field = .null → ∀ m, ¬HoldsBy x rs n j m := by
    rintro hnull m ⟨hm, hpresent, -⟩
    rw [← hm, hnull] at hpresent
    exact absurd hpresent (by decide)
  rcases h with ⟨hnull, -, rfl⟩ | ⟨hnull, relatedEntity, w₂, source, key, hentity, hrelatedReady,
    -, -, hkey⟩
  · refine ⟨[], hmade, by simp, fun m hm => absurd hm (hempty ?_ m)⟩
    rcases hthere with ⟨hget, -⟩ | ⟨hget, -⟩
    · exact hget.symm.trans (Value.isNull_iff.mp hnull)
    · exact hget
  · -- a column of the owner is written, which no join of a cascading entity is kept in
    have htaken : ∀ {done}, w₂.records.Has n.object →
        (∀ m, Cascaded x rs root m → w₂.records.Has m.object) →
        Inserted x rs root once I [n.object] done w₂ w' [] := by
      intro done hhas₂ hall₂
      have hwrites : Writes n.object (fun field => ∃ col ∈ n.entity.columns, col.field = field)
          w₂ w' :=
        hobject ▸ hkey.writes fun col hcol => ⟨col, hcol, rfl⟩
      refine hwrites.inserted (List.mem_singleton_self _) fun m hm j' hj' => ?_
      refine hwrites.steady (hall₂ m hm) fun heq => ?_
      cases hwf.eq_of_object_eq (.inl hm) (.inl hn) heq
      rintro ⟨col, hcol, hfield⟩
      exact hdistinct.join_ne_column hj' hcol hfield.symm
    rcases hthere with ⟨rfl, rfl⟩ | ⟨hget, hstandIn⟩
    · -- a relation that was there
      have hm : HoldsBy x rs n j ⟨relatedEntity, rs.get n.object j.field⟩ := ⟨rfl, hnull, hentity⟩
      obtain ⟨is, hinserted, hpaths, hcovered⟩ :=
        hrelatedReady.inserted_of hwf hroot ih hn hready hfresh ⟨j, hj, hm⟩
      have hall := hinserted.trans hwf hroot hready.has
        (htaken (hinserted.has _ (hhas hn)) fun m hm => hinserted.has _ (hhas hm))
      rw [List.append_nil] at hall
      refine ⟨is, hall, hpaths, fun m' hm' hunsaved => ?_⟩
      cases hm.unique hm'
      exact hcovered hunsaved
    · -- a stand-in, which waits for no key
      cases hrelatedReady with
      | inserted unsaved _ => exact absurd (hstandIn.symm.trans unsaved.1) (by decide)
      | present _ =>
        exact ⟨[], hmade.trans hwf hroot hready.has
          (htaken (hmade.has _ (hhas hn)) fun m hm => hmade.has _ (hhas hm)), by simp,
          fun m hm => absurd hm (hempty hget m)⟩

/-! ## All joins -/

/-- Settling joins, one after the other, inserts what the owner cascades to through them. -/
theorem settleJoins_inserted {k : Connection} {fuel ref : Nat}
    (ih : Inserts x rs root once I k fuel) (hdistinct : n.entity.Distinct)
    (hn : Cascaded x rs root n) (hobject : n.object = .entity ref) (js : List Join)
    (hjs : ∀ j ∈ js, j ∈ n.entity.joins) {keys keys' : List (String × Value)}
    (hready : Ready x rs root once I done w) (hdone : once → n.object ∉ done)
    (hfresh : ∀ m, TransGen (Holds x rs) n m → rs.Has m.object → Fresh rs done w m)
    (h : js.foldlM (settleJoin x (insertEntity x k fuel) n.entity n.object) keys w
      = (.ok keys', w')) :
    ∃ is, Inserted x rs root once I [n.object] done w w' is
      ∧ (∀ i ∈ is, TransGen (Cascades x rs) n i.node)
      ∧ ∀ j ∈ js, ∀ m, HoldsBy x rs n j m → Unsaved rs m →
        m.object ∈ done ++ is.map (·.object) := by
  induction js generalizing done w keys with
  | nil =>
    cases h
    exact ⟨[], Inserted.refl x rs root once I _ done _, by simp, by simp⟩
  | cons j js ihjs =>
    rw [List.foldlM_cons] at h
    obtain ⟨keys₁, w₁, hfirst, h⟩ := Op.bind_eq_ok.mp h
    obtain ⟨is, hinserted, hpaths, hcovered⟩ := settleJoin_inserted hwf hroot ih hdistinct hn
      hobject (hjs j List.mem_cons_self) hready hfresh hfirst
    have hready₁ := hinserted.ready hwf hroot hready fun honce => by simpa using hdone honce
    have hdone₁ : once → n.object ∉ done ++ is.map (·.object) := fun honce => by
      rw [List.mem_append, not_or]
      exact ⟨hdone honce, hinserted.not_mem (List.mem_singleton_self _)⟩
    have hfresh₁ : ∀ m, TransGen (Holds x rs) n m → rs.Has m.object →
        Fresh rs (done ++ is.map (·.object)) w₁ m := fun m hm hhas =>
      hinserted.fresh (hready.has _ hhas)
        (fun hmem => hwf.acyclic n m hn hm (List.mem_singleton.mp hmem)) (hfresh m hm hhas)
    obtain ⟨is', hinserted', hpaths', hcovered'⟩ := ihjs
      (fun j' hj' => hjs j' (List.mem_cons_of_mem _ hj')) hready₁ hdone₁ hfresh₁ h
    refine ⟨is ++ is', hinserted.trans hwf hroot hready.has hinserted', ?_, ?_⟩
    · intro i hi
      rcases List.mem_append.mp hi with hi | hi
      · exact hpaths i hi
      · exact hpaths' i hi
    · intro j' hj' m hm hunsaved
      rw [List.map_append, ← List.append_assoc]
      rcases List.mem_cons.mp hj' with rfl | hj'
      · exact List.mem_append_left _ (hcovered m hm hunsaved)
      · exact hcovered' j' hj' m hm hunsaved

end

/-! ## One entity -/

/-- The owner's own row after the rows of what it cascades to. -/
theorem Inserted.finish {is : List (Insertion δ)} {i : Insertion δ} {written : String → Prop}
    (hwf : WellFormed x rs root) (hroot : rs.Has root.object) (hI : StateInvariant I)
    (hrows : once → NumbersRows I) (hi : Cascaded x rs root i.node)
    (h : Inserted x rs root once I [i.object] done w i.before is)
    (hready : Ready x rs root once I done w) (hdone : once → i.object ∉ done)
    (hcascades : ∀ m, Cascades x rs i.node m → m.object ∈ done ++ is.map (·.object))
    (hwrites : Writes i.object written i.after w')
    (hwritten : ∀ j ∈ i.node.entity.joins, ¬written j.field) (hnumbered : i.Numbered w'.records) :
    Inserted x rs root once I [] done w w' (is ++ [i]) where
  events := by
    rw [afterAll_append, hwrites.events]
    rfl
  database := by
    rw [afterAll_append, hwrites.database]
    rfl
  invariant _ := by
    rw [hwrites.database]
    exact hI.insert _ _ _ _ _ (h.invariant hready.database)
  has u hu := hwrites.has u (h.has u hu)
  standIns u hu := hwrites.standIns u (h.standIns u hu)
  frame u hu _ his := by
    simp only [List.map_append, List.map_cons, List.map_nil, List.mem_append, List.mem_singleton,
      not_or] at his
    rw [hwrites.frame u (h.has u hu) his.2]
    exact h.frame u hu (by simpa using his.2) his.1
  steady m hm j hj hsteady := by
    refine hwrites.steady (h.has _ (hready.has _ (hwf.has hroot hm))) (fun heq => ?_)
      (h.steady m hm j hj hsteady)
    cases hwf.eq_of_object_eq (.inl hm) (.inl hi) heq
    exact hwritten j hj
  orderly := by
    rw [orderly_append]
    refine ⟨h.orderly, fun honce => ?_, hcascades, h.events, h.database, trivial⟩
    rw [List.mem_append, not_or]
    exact ⟨hdone honce, h.not_mem (List.mem_singleton_self _)⟩
  cascaded i' hi' := by
    rcases List.mem_append.mp hi' with hi' | hi'
    · exact ⟨(h.cascaded i' hi').1, List.not_mem_nil⟩
    · rw [List.mem_singleton.mp hi']
      exact ⟨hi, List.not_mem_nil⟩
  numbered honce i' hi' := by
    rcases List.mem_append.mp hi' with hi' | hi'
    · obtain ⟨hnumbered', hne⟩ := h.numbered honce i' hi'
      obtain ⟨hcascaded, howner⟩ := h.cascaded i' hi'
      have hhas := h.has _ (hready.has _ (hwf.has hroot hcascaded))
      refine ⟨hnumbered'.congr (hwrites.frame _ hhas ?_), hne⟩
      exact fun heq => howner (heq ▸ List.mem_singleton_self _)
    · rw [List.mem_singleton.mp hi']
      exact ⟨hnumbered, (hrows honce).rowId _ _ _ _ _ _ (h.invariant hready.database) i.accepted⟩

/-- The number of a row is written to its entity, if the key is counted up, and nothing else. -/
theorem Insertion.writes_key (i : Insertion δ) {rowId : Int}
    (hhas : i.before.records.Has i.object)
    (h : (do
      match i.node.entity.primaryKey with
      | some key => if key.autoIncrement then Op.setField i.object key.field (.int i.reply.rowId)
      | none => pure ()
      return i.reply.rowId : Op δ Int) i.after = (.ok rowId, w')) :
    Writes i.object (fun field => ∃ col ∈ i.node.entity.columns, col.field = field) i.after w'
      ∧ i.Numbered w'.records := by
  obtain ⟨rs, hleaves, rfl⟩ := i.leaves_of_number h
  cases hleaves with
  | @numbered key ref counted entity =>
    obtain ⟨_, hobject, hlt⟩ := hhas.entity
    cases entity.symm.trans hobject
    obtain ⟨hkey, -⟩ := Option.filter_eq_some_iff.mp counted
    have hcolumn : key ∈ i.node.entity.columns := List.mem_of_find?_eq_some hkey
    refine ⟨entity ▸ Writes.set ⟨key, hcolumn, rfl⟩ _ _, fun key' hkey' _ => ?_⟩
    cases hkey.symm.trans hkey'
    rw [entity]
    exact (Records.get_set_self hlt _ _ _).trans (if_pos rfl)
  | unchanged counted =>
    refine ⟨Writes.refl _ _ _, fun key hkey hauto => ?_⟩
    simp [Entity.countedKey?, hkey, Option.filter, hauto] at counted

/-- Inserting an entity adds it after others that it cascades to. -/
theorem insertEntity_inserts (hwf : WellFormed x rs root) (hroot : rs.Has root.object)
    (hdistinct : ∀ n, Cascaded x rs root n → n.entity.Distinct) (hI : StateInvariant I)
    (hrows : once → NumbersRows I) (k : Connection) (fuel : Nat) :
    Inserts x rs root once I k fuel := by
  induction fuel with
  | zero =>
    intro n done w w' rowId _ _ _ _ h
    simp [insertEntity] at h
  | succ fuel ih =>
    intro n done w w' rowId hn hready hdone hfresh h
    obtain ⟨ref, hobject, -⟩ := (hwf.has hroot hn).entity
    rw [insertEntity] at h
    obtain ⟨keys, w₁, hjoins, h⟩ := Op.bind_eq_ok.mp h
    obtain ⟨is, hinserted, hpaths, hcovered⟩ := settleJoins_inserted hwf hroot ih (hdistinct n hn)
      hn hobject n.entity.joins (fun _ h => h) hready hdone hfresh hjoins
    rw [Op.records_bind] at h
    obtain ⟨own, hown, h⟩ := Op.ofResult_bind_eq_ok.mp h
    obtain ⟨id, w₂, hinsert, h⟩ := Op.bind_eq_ok.mp h
    obtain ⟨reply, d, hrun, rfl, rfl⟩ := Connection.insert_eq_ok hinsert
    let i : Insertion δ := ⟨n, w₁, keys, own, reply, hown, by rw [hrun]⟩
    have hafter : i.after = { w₁.after i.event with database := d } :=
      congrArg (fun d => { w₁.after i.event with database := d }) (congrArg Prod.snd hrun)
    obtain ⟨hwrites, hnumbered⟩ := i.writes_key (hinserted.has _ (hready.has _ (hwf.has hroot hn)))
      (hafter ▸ h)
    refine ⟨is, i, hinserted.finish hwf hroot hI hrows hn hready hdone ?_ hwrites ?_ hnumbered, rfl,
      hpaths⟩
    · rintro m ⟨⟨j, hj, hm⟩, hunsaved⟩
      exact hcovered j hj m hm hunsaved
    · rintro j hj ⟨col, hcol, hfield⟩
      exact (hdistinct n hn).join_ne_column hj hcol hfield.symm

/-! ## A whole saving -/

/-- What the writing of a saving has done that succeeds : it has inserted the list. -/
structure Saved (x : Library) (rs : Records) (root : Node) (once : Prop) (w w' : World δ)
    (is : List (Insertion δ)) : Prop where
  events : ∃ l, w'.events = w.events ++ is.map (·.event) ++ l ∧ ∀ ev ∈ l, ev.statement? = none
  orderly : Orderly x rs once [] w is
  all : ∀ m, m ∈ is.map (·.node) ↔ Cascaded x rs root m
  last : ∃ pre i, is = pre ++ [i] ∧ i.node = root
  numbered : once → ∀ i ∈ is, i.Numbered w'.records

/-- An orderly list that starts from nothing and contains the root contains what it cascades to. -/
theorem Orderly.mem_of_cascaded (hwf : WellFormed x rs root) {is : List (Insertion δ)}
    (h : Orderly x rs once [] w is) (hcascaded : ∀ i ∈ is, Cascaded x rs root i.node)
    (hroot : root ∈ is.map (·.node)) (hm : Cascaded x rs root m) : m ∈ is.map (·.node) := by
  induction hm with
  | refl => exact hroot
  | tail hn hnm ih =>
    obtain ⟨i, hi, rfl⟩ := List.mem_map.mp ih
    obtain ⟨pre, post, rfl⟩ := List.append_of_mem hi
    have hmem := h.split.1 _ hnm
    rw [List.nil_append] at hmem
    obtain ⟨i', hi', heq⟩ := List.mem_map.mp hmem
    have hi'' : i' ∈ pre ++ i :: post := List.mem_append_left _ hi'
    have hnode := hwf.eq_of_object_eq (.inl (hcascaded i' hi'')) (.inl (hn.tail hnm)) heq
    exact List.mem_map.mpr ⟨i', hi'', hnode⟩

/-- The cascade of a described class goes through described classes. -/
theorem Cascaded.distinct (hc : x.catalogue.Distinct) (hroot : root.entity.Distinct)
    (hn : Cascaded x rs root n) : n.entity.Distinct := by
  rcases ReflTransGen.cases_tail hn with rfl | ⟨m, -, ⟨j, -, hm⟩, -⟩
  · exact hroot
  · exact hc.describeRelated hm.2.2

/-- Writing that succeeds has opened a connection and has inserted the cascade in order. -/
theorem writeAll_saved (once : Prop) {depth : Nat} {rowId : Int} (hc : x.catalogue.Distinct)
    (hentity : root.entity.Distinct) (hwf : WellFormed x w.records root)
    (hroot : w.records.Has root.object) (hI : StateInvariant I) (hrows : once → NumbersRows I)
    (hstate : I w.database)
    (h : writeAll x depth root.entity root.object w = (.ok rowId, w')) :
    ∃ w₁ is, Silent I w w₁ ∧ Saved x w.records root once w₁ w' is := by
  obtain ⟨w₁, w₂, hopen, hbody, -, rfl⟩ := withConnection_eq_ok.mp h
  have hreads := silent_of_ensureOpen hI.toReadInvariant hopen
  have hclose := commit_leave_silent hI.toReadInvariant x.management w₂
  have hready : Ready x w.records root once I [] w₁ :=
    ⟨fun u hu => hreads.records ▸ hu, hreads.invariant hstate,
      fun m _ j _ => .inl (by rw [hreads.records]), by simp, by simp⟩
  obtain ⟨pre, i, hinserted, hi, -⟩ := insertEntity_inserts hwf hroot
    (fun n hn => hn.distinct hc hentity) hI hrows _ _ root [] w₁ w₂ rowId .refl hready
    (fun _ => List.not_mem_nil) (fun m _ _ => .inr (by rw [hreads.records])) hbody
  have hcascaded : ∀ i' ∈ pre ++ [i], Cascaded x w.records root i'.node := fun i' hi' =>
    (hinserted.cascaded i' hi').1
  obtain ⟨l, hl, hclosing⟩ := hclose.events
  refine ⟨w₁, pre ++ [i], hreads, ⟨⟨l, ?_, hclosing⟩, hinserted.orderly, ?_, ⟨pre, i, rfl, hi⟩, ?_⟩⟩
  · rw [hl, hinserted.events, hinserted.orderly.events]
  · refine fun m => ⟨fun hm => ?_, fun hm => ?_⟩
    · obtain ⟨i', hi', rfl⟩ := List.mem_map.mp hm
      exact hcascaded i' hi'
    · exact hinserted.orderly.mem_of_cascaded hwf hcascaded (by simp [hi]) hm
  · intro honce i' hi'
    rw [hclose.records]
    exact (hinserted.numbered honce i' hi').1

/-- What an entity of the cascade holds comes before it. -/
theorem Saved.dependencies {pre post : List (Insertion δ)} {i : Insertion δ}
    (hwf : WellFormed x rs root) (h : Saved x rs root once w w' (pre ++ i :: post))
    (hm : Cascaded x rs root m) (him : Holds x rs i.node m) : m.object ∈ pre.map (·.object) := by
  have hi : Cascaded x rs root i.node := (h.all _).mp (by simp)
  simpa using h.orderly.split.1 m (hwf.cascades_of_holds hi him hm)

/-- The root comes last, if everything is inserted once. -/
theorem Saved.node_eq_root_iff {pre post : List (Insertion δ)} {i : Insertion δ} (honce : once)
    (h : Saved x rs root once w w' (pre ++ i :: post)) : i.node = root ↔ post = [] := by
  obtain ⟨pre', i', heq, hi'⟩ := h.last
  rcases List.eq_nil_or_concat post with rfl | ⟨post', k, rfl⟩
  · have hlast : pre ++ [i] = pre' ++ [i'] := heq
    obtain ⟨-, hi⟩ := List.append_inj' hlast rfl
    cases hi
    exact ⟨fun _ => rfl, fun _ => hi'⟩
  · have hlast : (pre ++ i :: post') ++ [k] = pre' ++ [i'] := by simpa using heq
    obtain ⟨-, hk⟩ := List.append_inj' hlast rfl
    cases hk
    have hnodup := (h.orderly.nodup honce).2
    simp only [List.map_append, List.map_cons, List.nodup_append, List.nodup_cons] at hnodup
    constructor
    · intro hi
      refine absurd (List.mem_map.mpr ⟨i', by simp, ?_⟩) hnodup.2.1.1
      exact congrArg Node.object (hi'.trans hi.symm)
    · simp

/-- Saving inserts the root and every entity that it reaches along unsaved ones : each once, after
the entities of the cascade that it holds, and the root last. Every one that counts up its key
carries the number that its own insertion was answered with. -/
theorem save_inserts_cascade {ds : List ClassDeclaration} {constants : List (String × Value)}
    {className : String} {validating : Bool} {r : Value}
    (hcatalogue : Catalogue.ofDeclarations ds constants = .ok x.catalogue)
    (hentity : x.catalogue.describe className = .ok root.entity)
    (hgraph : WellFormed x w.records root) (hrows : NumbersRows I) (hstate : I w.database)
    (h : save x validating root.entity root.object w = (.ok r, w')) :
    ∃ (w₁ : World δ) (is : List (Insertion δ)) (opening closing : List Event),
      w₁.records = w.records ∧ w₁.events = w.events ++ opening
      ∧ w'.events = w₁.events ++ is.map (·.event) ++ closing
      ∧ (∀ ev ∈ opening ++ closing, ev.isInsertion = false)
      ∧ (is.map (·.object)).Nodup
      ∧ (∀ m, m ∈ is.map (·.node) ↔ Cascaded x w.records root m)
      ∧ (∀ pre i post, is = pre ++ i :: post →
        (∀ m, Cascaded x w.records root m → Holds x w.records i.node m →
          m.object ∈ pre.map (·.object))
        ∧ (i.node = root ↔ post = [])
        ∧ i.before.events = w₁.events ++ pre.map (·.event)
        ∧ i.before.database = (afterAll w₁ pre).database)
      ∧ ∀ i ∈ is, i.Numbered w'.records := by
  have hc := ofDeclarations_distinct hcatalogue
  have hI := hrows.toStateInvariant
  obtain ⟨-, hcheck, w₀, rowId, hvalid, hwrite⟩ := save_eq_ok h
  have hreads₀ : Reads I w w₀ := hvalid.reads hI.toReadInvariant
  have hgraph₀ : WellFormed x w₀.records root := hreads₀.records ▸ hgraph
  obtain ⟨w₁, is, hsilent, hsaved⟩ := writeAll_saved True hc (hc.describe hentity) hgraph₀
    (hreads₀.records ▸ has_of_checkSavable hcheck) hI (fun _ => hrows) (hreads₀.invariant hstate)
    hwrite
  rw [hreads₀.records] at hsaved
  have hreads : Reads I w w₁ := hreads₀.trans hsilent.reads
  obtain ⟨opening, hopening, hbefore⟩ := hreads.events
  obtain ⟨closing, hclosing, hafter⟩ := hsaved.events
  refine ⟨w₁, is, opening, closing, hreads.records, hopening, hclosing, ?_,
    (hsaved.orderly.nodup trivial).2, hsaved.all, ?_, hsaved.numbered trivial⟩
  · intro ev hev
    rcases List.mem_append.mp hev with hev | hev
    · exact hbefore ev hev
    · exact Event.isInsertion_eq_false (hafter ev hev)
  · rintro pre i post rfl
    obtain ⟨-, hevents, hdatabase⟩ := hsaved.orderly.split
    exact ⟨fun m hm him => hsaved.dependencies hgraph hm him, hsaved.node_eq_root_iff trivial,
      hevents, hdatabase⟩

/-! ## A product on its line -/

namespace Sample

/-- The sample catalogue on a database file. -/
def library : Library where
  catalogue := catalogue.toOption.getD {}
  management := { location := .file, timeout := .int 10, foreignKeys := false }

theorem ofDeclarations_library :
    Catalogue.ofDeclarations [line, product] [] = .ok library.catalogue := by
  rfl

/-- The key of both tables. -/
def keyColumn : Column :=
  { field := "id", name := "id", type := .integer, nullable := false, primaryKey := true,
    autoIncrement := true }

/-- The name in both tables. -/
def nameColumn : Column :=
  { field := "name", name := "name", type := .text, nullable := false, unique := true }

/-- The join of a product to its line. -/
def lineJoin : Join := { field := "line", target := "line", related := "Line", source := "id" }

/-- What the class of lines says about its table. -/
def lineEntity : Entity := ⟨"Line", "lines", [.column keyColumn, .column nameColumn]⟩

/-- What the class of products says about its table. -/
def productEntity : Entity where
  className := "Product"
  table := "products"
  members :=
    [.column keyColumn, .column nameColumn,
     .column { field := "active", name := "active", type := .boolean, defaultValue := some "true" },
     .column { field := "date_creation", name := "date_creation", type := .timestamp },
     .join lineJoin]

theorem describe_product : library.catalogue.describe "Product" = .ok productEntity := by
  decide +kernel

theorem describeRelated_line : library.catalogue.describeRelated lineJoin = .ok lineEntity := by
  decide +kernel

/-- The name of a product, which must not be null and has to be unique. -/
def nameDefinition : ColumnDefinition where
  name := "name"
  type := .text
  notNull := true
  primaryKey := false
  autoIncrement := false
  unique := true
  default := none

theorem nameDefinition_mem :
    ∃ t, library.catalogue.defineTable productEntity = .ok t ∧ nameDefinition ∈ t.columns := by
  have hmem : ((library.catalogue.defineTable productEntity).map fun t =>
      decide (nameDefinition ∈ t.columns)) = .ok true := by
    decide +kernel
  obtain ⟨t, ht, hmem⟩ := Except.map_eq_ok.mp hmem
  exact ⟨t, ht, of_decide_eq_true hmem⟩

/-- A new product on a new line. -/
def records : Records :=
  [⟨"Product", [("id", .null), ("name", .text "pump"), ("active", .bool true),
      ("date_creation", .null), ("line", .entity 1)], false⟩,
   ⟨"Line", [("id", .null), ("name", .text "main")], false⟩]

def newProduct : Node := ⟨productEntity, .entity 0⟩
def newLine : Node := ⟨lineEntity, .entity 1⟩

/-- A product holds its line and nothing else. -/
theorem eq_newLine (h : Holds library records newProduct m) : m = newLine := by
  obtain ⟨j, hj, hm⟩ := h
  rw [List.mem_singleton.mp (show j ∈ [lineJoin] from hj)] at hm
  exact hm.unique ⟨rfl, rfl, describeRelated_line⟩

/-- A line holds nothing. -/
theorem not_holds_newLine : ¬Holds library records newLine m := by
  rintro ⟨j, hj, -⟩
  exact absurd (show j ∈ [] from hj) List.not_mem_nil

theorem holds_newProduct (n m : Node) (hn : n = newProduct ∨ n = newLine)
    (h : Holds library records n m) : n = newProduct ∧ m = newLine := by
  rcases hn with rfl | rfl
  · exact ⟨rfl, eq_newLine h⟩
  · exact absurd h not_holds_newLine

theorem wellFormed_newProduct : WellFormed library records newProduct where
  toEntityGraph := by
    refine .of_number_lt (P := fun n => n = newProduct ∨ n = newLine) (.inl rfl) fun n m hn h => ?_
    obtain ⟨rfl, rfl⟩ := holds_newProduct n m hn h
    exact ⟨.inr rfl, by decide +kernel, by decide⟩
  oneClass n m hn hm heq := by
    have hall : ∀ {m}, Visited library records newProduct m → m = newProduct ∨ m = newLine :=
      fun hm => hm.of_holds (P := fun n => n = newProduct ∨ n = newLine) (.inl rfl)
        fun n m hn h => .inr (holds_newProduct n m hn h).2
    rcases hall hn with rfl | rfl <;> rcases hall hm with rfl | rfl
    · rfl
    · simp [newLine, newProduct] at heq
    · simp [newLine, newProduct] at heq
    · rfl

end Sample

/-- A script without answers numbers every row. -/
theorem numbersRows_script : NumbersRows fun d : Script => d.replies = [] where
  connect enforced d hd := by
    show (Script.connect d).2.replies = []
    unfold Script.connect
    split
    · exact hd
    · exact hd
  count rs table selection ps d hd := by
    show (Script.next _ d).2.replies = []
    simp [Script.next, hd]
  insert rs table columns ps d hd := by
    show (Script.next _ d).2.replies = []
    simp [Script.next, hd]
  commit _ hd := hd
  rollback _ hd := hd
  rowId rs table columns ps d reply hd h := by
    have hreply : Script.fallback (.insert table columns) = reply := by
      have h : (Script.next (.insert table columns) d).1 = .ok reply := h
      simpa [Script.next, hd] using h
    subst hreply
    unfold Script.fallback
    split <;> decide

open Sample in
/-- A new product on a new line is saved with its line. -/
theorem save_inserts_cascade_newProduct :
    ∃ (r : Value) (w' w₁ : World Script) (is : List (Insertion Script)),
      save library true newProduct.entity newProduct.object { records, database := {} }
          = (.ok r, w')
        ∧ (is.map (·.object)).Nodup
        ∧ (∀ m, m ∈ is.map (·.node) ↔ Cascaded library records newProduct m)
        ∧ (∃ l, w'.events = w₁.events ++ is.map (·.event) ++ l)
        ∧ ∀ i ∈ is, i.Numbered w'.records := by
  have hok : (save library true newProduct.entity newProduct.object
      ({ records, database := {} } : World Script)).1.isOk = true := by
    decide +kernel
  obtain ⟨r, w', h⟩ := Op.exists_ok hok
  obtain ⟨w₁, is, -, l, -, -, hevents, -, hnodup, hall, -, hnumbered⟩ :=
    save_inserts_cascade ofDeclarations_library describe_product wellFormed_newProduct
      numbersRows_script rfl h
  exact ⟨r, w', w₁, is, h, hnodup, hall, ⟨l, hevents⟩, hnumbered⟩

/-! ## One entity under two classes

Joins that declare different classes may hold one entity, which then has a description for each.
With a key of its own in each of them it waits for a key twice. -/

namespace TwoClasses

/-- A column for integers. -/
def column (name : String) (primaryKey : Bool) : FieldDeclaration :=
  ⟨name, "int", .column
    { name, primaryKey, autoIncrement := primaryKey, sqlType := some .integer }⟩

/-- A class with a key. -/
def plain : ClassDeclaration where
  name := "Plain"
  table := some "plain"
  fields := [column "id" true]

/-- A class that extends it, with another key. -/
def coded : ClassDeclaration where
  name := "Coded"
  base := some "Plain"
  isRecord := true
  table := some "coded"
  fields := [column "id" false, column "code" true]

/-- A class that is related to both. -/
def owner : ClassDeclaration where
  name := "Owner"
  table := some "owner"
  fields :=
    [column "id" true,
     ⟨"first", "Plain", .join { target := "first_id", related := "Plain", source := "id" }⟩,
     ⟨"second", "Coded", .join { target := "second_id", related := "Coded", source := "code" }⟩]

def library : Library where
  catalogue := (Catalogue.ofDeclarations [plain, coded, owner] []).toOption.getD {}
  management := { location := .file, timeout := .int 10, foreignKeys := false }

def first : Join := { field := "first", target := "first_id", related := "Plain", source := "id" }
def second : Join where
  field := "second"
  target := "second_id"
  related := "Coded"
  source := "code"

def keyColumn (name : String) : Column :=
  { field := name, name, type := .integer, nullable := false, primaryKey := true
    autoIncrement := true }

def ownerEntity : Entity where
  className := "Owner"
  table := "owner"
  members := [.column (keyColumn "id"), .join first, .join second]

def plainEntity : Entity := ⟨"Plain", "plain", [.column (keyColumn "id")]⟩

def codedEntity : Entity where
  className := "Coded"
  table := "coded"
  members :=
    [.column { field := "id", name := "id", type := .integer }, .column (keyColumn "code")]

/-- An owner that holds one entity twice. -/
def records : Records :=
  [⟨"Owner", [("id", .null), ("first", .entity 1), ("second", .entity 1)], false⟩,
   ⟨"Coded", [("id", .null), ("code", .null)], false⟩]

theorem describeRelated_first : library.catalogue.describeRelated first = .ok plainEntity := by
  decide +kernel

theorem describeRelated_second : library.catalogue.describeRelated second = .ok codedEntity := by
  decide +kernel

def newOwner : Node := ⟨ownerEntity, .entity 0⟩

/-- The entity that the owner holds, as one of either class. -/
def IsShared (m : Node) : Prop := m = ⟨plainEntity, .entity 1⟩ ∨ m = ⟨codedEntity, .entity 1⟩

theorem isShared_of_holds (h : Holds library records newOwner m) : IsShared m := by
  obtain ⟨j, hj, hm⟩ := h
  rcases List.mem_pair.mp (show j ∈ [first, second] from hj) with rfl | rfl
  · exact .inl (hm.unique ⟨rfl, rfl, describeRelated_first⟩)
  · exact .inr (hm.unique ⟨rfl, rfl, describeRelated_second⟩)

theorem not_holds_of_isShared (hn : IsShared n) : ¬Holds library records n m := by
  rintro ⟨j, hj, -⟩
  rcases hn with rfl | rfl
  · exact absurd (show j ∈ [] from hj) List.not_mem_nil
  · exact absurd (show j ∈ [] from hj) List.not_mem_nil

theorem holds_newOwner (n m : Node) (hn : n = newOwner ∨ IsShared n)
    (h : Holds library records n m) : n = newOwner ∧ IsShared m := by
  rcases hn with rfl | hn
  · exact ⟨rfl, isShared_of_holds h⟩
  · exact absurd h (not_holds_of_isShared hn)

/-- Two entities, held by instances only and in no circle, and three insertions : the shared one is
inserted once for each class. -/
theorem save_inserts_shared_twice :
    library.catalogue.describe "Owner" = .ok newOwner.entity
      ∧ EntityGraph library records newOwner
      ∧ (∀ n, Cascaded library records newOwner n → n.object = .entity 0 ∨ n.object = .entity 1)
      ∧ (save library false newOwner.entity newOwner.object
        ({ records, database := {} } : World Script)).1.isOk = true
      ∧ (save library false newOwner.entity newOwner.object
        ({ records, database := {} } : World Script)).2.events.filterMap Event.insertedTable?
          = ["plain", "coded", "owner"] := by
  refine ⟨by decide +kernel, ?_, fun n hn => ?_, by decide +kernel, by decide +kernel⟩
  · refine .of_number_lt (P := fun n => n = newOwner ∨ IsShared n) (.inl rfl) fun n m hn h => ?_
    obtain ⟨rfl, hm⟩ := holds_newOwner n m hn h
    rcases hm with rfl | rfl
    · exact ⟨.inr (.inl rfl), by decide +kernel, by decide⟩
    · exact ⟨.inr (.inr rfl), by decide +kernel, by decide⟩
  · have hall : n = newOwner ∨ IsShared n :=
      hn.of_holds (P := fun n => n = newOwner ∨ IsShared n) (.inl rfl)
        fun n m hn h => .inr (holds_newOwner n m hn h).2
    rcases hall with rfl | rfl | rfl
    · exact .inl rfl
    · exact .inr rfl
    · exact .inr rfl

end TwoClasses

end EntityMap
