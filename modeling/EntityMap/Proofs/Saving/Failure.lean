import EntityMap.Proofs.Saving.Cascade
import EntityMap.Proofs.Saving.Induction

/-!
# Savings that fail

The database is rolled back when a saving fails; the entities are not. `Residue` says what may have
been left in them, of those that a saving comes to write : a stand-in for an absent relation, the
key of a relation, or the number of a row that was accepted and then rolled back (`Assigned`).
Every step of `insertEntity` keeps this, whether it fails or not, as long as what it comes to next
is again to be written (`Closed`).

This is so for the root and whatever waited for its key (`closed_pending`). If the graph is well
formed then it is so for what the root cascades to (`closed_cascaded`).
-/

namespace EntityMap

open Relation

variable {δ : Type} [Database δ] {x : Library} {root n : Node} {w₀ w w' : World δ}

/-! ## What may be left -/

/-- The entity is the root, or waited for its key as one of a class that a join declares. -/
def Pending (x : Library) (rs : Records) (root : Node) (u : Value) : Prop :=
  u = root.object ∨ ∃ j e, x.catalogue.describeRelated j = .ok e ∧ Unsaved rs ⟨e, u⟩

/-- The node is the root, or has the description of a class that a join declares. -/
def Described (x : Library) (root n : Node) : Prop :=
  n = root ∨ ∃ j, x.catalogue.describeRelated j = .ok n.entity

/-- The insertion was accepted between the two worlds. -/
def Insertion.Between (i : Insertion δ) (w₀ w : World δ) : Prop :=
  w₀.events <+: i.before.events ∧ i.before.events ++ [i.event] <+: w.events

/-- Why a field of an entity has a value that it did not have. -/
inductive Assigned (w₀ w : World δ) (n : Node) : String → Value → Prop
  /-- The field of a join was empty, and got a stand-in. -/
  | standIn {j : Join} {v : Value} (join : j ∈ n.entity.joins) (default : j.hasDefault = true)
      (empty : w₀.records.get n.object j.field = .null) (now : w.records.isPlaceholder v = true) :
      Assigned w₀ w n j.field v
  /-- The field of a join's target column got a key. -/
  | foreignKey {j : Join} {col : Column} {v : Value} (join : j ∈ n.entity.joins)
      (column : n.entity.columnNamed? j.target = some col) (now : v.isNull = false) :
      Assigned w₀ w n col.field v
  /-- The field of the key got the number of a row that was accepted. -/
  | number {key : Column} {i : Insertion δ} (node : i.node = n)
      (primaryKey : n.entity.primaryKey = some key) (autoIncrement : key.autoIncrement = true)
      (accepted : i.Between w₀ w) : Assigned w₀ w n key.field (.int i.reply.rowId)

/-- From the first world to the second nothing but such fields of `G` has been written. -/
structure Residue (G : Node → Prop) (w₀ w : World δ) : Prop where
  events : w₀.events <+: w.events
  has : ∀ u, w₀.records.Has u → w.records.Has u
  isPlaceholder : ∀ u, w₀.records.Has u →
    w.records.isPlaceholder u = w₀.records.isPlaceholder u
  fields : ∀ u field, w₀.records.Has u →
    w.records.get u field = w₀.records.get u field
      ∨ ∃ n, G n ∧ n.object = u ∧ Assigned w₀ w n field (w.records.get u field)

/-- What an entity of `G` holds and what waits for its key then is of `G` too. -/
def Closed (x : Library) (w₀ : World δ) (G : Node → Prop) : Prop :=
  ∀ w n m j, Residue G w₀ w → G n → j ∈ n.entity.joins →
    w.records.get n.object j.field = m.object → x.catalogue.describeRelated j = .ok m.entity →
    m.object.isNull = false → Unsaved w.records m → G m

variable {G : Node → Prop}

/-- What is left is never null. -/
theorem Assigned.ne_null {field : String} {v : Value} (h : Assigned w₀ w n field v) :
    v ≠ .null := by
  rintro rfl
  cases h with
  | standIn _ _ _ now => exact Bool.false_ne_true now
  | foreignKey _ _ now => exact absurd now (by decide)

/-- A reason stays one as long as events and stand-ins are kept. -/
theorem Assigned.mono {field : String} {v : Value} (h : Assigned w₀ w n field v)
    (hevents : w.events <+: w'.events)
    (hplaceholder : ∀ u, w.records.isPlaceholder u = true → w'.records.isPlaceholder u = true) :
    Assigned w₀ w' n field v := by
  cases h with
  | standIn join default empty now => exact .standIn join default empty (hplaceholder _ now)
  | foreignKey join column now => exact .foreignKey join column now
  | number node primaryKey autoIncrement accepted =>
    exact .number node primaryKey autoIncrement ⟨accepted.1, accepted.2.trans hevents⟩

/-! ## Keeping it -/

theorem Residue.refl (G : Node → Prop) (w : World δ) : Residue G w w :=
  ⟨List.prefix_refl _, fun _ h => h, fun _ _ => rfl, fun _ _ _ => .inl rfl⟩

/-- A field that is not written is left as it was. -/
theorem Residue.unwritten (h : Residue G w₀ w) (hevents : w.events <+: w'.events)
    (hplaceholder : ∀ v, w.records.isPlaceholder v = true → w'.records.isPlaceholder v = true)
    {u : Value} {field : String} (hu : w₀.records.Has u)
    (hget : w'.records.get u field = w.records.get u field) :
    w'.records.get u field = w₀.records.get u field
      ∨ ∃ n, G n ∧ n.object = u ∧ Assigned w₀ w' n field (w'.records.get u field) := by
  rw [hget]
  refine (h.fields u field hu).imp_right ?_
  rintro ⟨n, hG, hn, hassigned⟩
  exact ⟨n, hG, hn, hassigned.mono hevents hplaceholder⟩

/-- What is done to the database alone leaves nothing. -/
theorem Residue.sameRecords (h : Residue G w₀ w) (hrecords : w'.records = w.records)
    (hevents : w.events <+: w'.events) : Residue G w₀ w' where
  events := h.events.trans hevents
  has u hu := hrecords ▸ h.has u hu
  isPlaceholder u hu := hrecords ▸ h.isPlaceholder u hu
  fields _ _ hu := h.unwritten hevents (fun _ hv => hrecords ▸ hv) hu (by rw [hrecords])

/-- A new record leaves nothing in the others. -/
theorem Residue.addRecord (h : Residue G w₀ w) (r : Record) :
    Residue G w₀ { w with records := w.records ++ [r] } where
  events := h.events
  has u hu := (h.has u hu).append [r]
  isPlaceholder u hu := by
    rw [Records.isPlaceholder_congr (Records.record?_append (h.has u hu) [r])]
    exact h.isPlaceholder u hu
  fields u field hu := by
    have hkept : ∀ v, w.records.isPlaceholder v = true →
        (w.records ++ [r] : Records).isPlaceholder v = true := fun v hv =>
      Records.isPlaceholder_append hv [r]
    refine h.unwritten ?_ hkept hu ?_
    · exact List.prefix_refl _
    · exact Records.get_congr (Records.record?_append (h.has u hu) [r]) field

/-- A field that is set for a reason. -/
theorem Residue.setField (h : Residue G w₀ w) {ref : Nat} (hn : n.object = .entity ref)
    {field : String} {new : Value} (hG : G n)
    (hassigned : w₀.records.Has n.object → Assigned w₀ w n field new) :
    Residue G w₀ { w with records := w.records.set ref field new } where
  events := h.events
  has u hu := Records.has_set.mpr (h.has u hu)
  isPlaceholder u hu := Records.isPlaceholder_set.trans (h.isPlaceholder u hu)
  fields u other hu := by
    have hkept : ∀ v, w.records.isPlaceholder v = true →
        (w.records.set ref field new).isPlaceholder v = true := fun v hv =>
      Records.isPlaceholder_set.trans hv
    by_cases hself : u = n.object ∧ other = field
    · obtain ⟨rfl, rfl⟩ := hself
      obtain ⟨_, heq, hlt⟩ := (h.has _ hu).entity
      cases hn.symm.trans heq
      have hget : (w.records.set ref other new).get n.object other = new := by
        rw [hn, Records.get_set_self hlt, if_pos rfl]
      refine .inr ⟨n, hG, rfl, ?_⟩
      rw [hget]
      exact (hassigned hu).mono (List.prefix_refl _) hkept
    · refine h.unwritten ?_ hkept hu ?_
      · exact List.prefix_refl _
      by_cases hu' : u = .entity ref
      · have hne : other ≠ field := fun ho => hself ⟨hu'.trans hn.symm, ho⟩
        obtain ⟨_, heq, hlt⟩ := (h.has _ hu).entity
        cases hu'.symm.trans heq
        rw [hu', Records.get_set_self hlt, if_neg hne]
      · exact Records.get_congr (Records.record?_set_of_ne hu' field new) other

/-- An entity that waits for its key did so at first, unless it has been written. -/
theorem Residue.unsaved_or (h : Residue G w₀ w) {m : Node} (hunsaved : Unsaved w.records m)
    (hm : w₀.records.Has m.object) :
    Unsaved w₀.records m ∨ ∃ n, G n ∧ n.object = m.object := by
  by_cases hsame : ∀ field, w.records.get m.object field = w₀.records.get m.object field
  · have hkey : keyUnset w₀.records m.entity m.object = keyUnset w.records m.entity m.object := by
      simp only [keyUnset, hsame]
    exact .inl ⟨(h.isPlaceholder _ hm).symm.trans hunsaved.1, hkey.trans hunsaved.2⟩
  · obtain ⟨field, hfield⟩ := not_forall.mp hsame
    obtain ⟨n, hG, hn, -⟩ := (h.fields _ field hm).resolve_left hfield
    exact .inr ⟨n, hG, hn⟩

/-! ## What comes to be written -/

/-- The root and whatever waited for its key. -/
theorem closed_pending (x : Library) (root : Node) (w₀ : World δ) :
    Closed x w₀ fun n => Described x root n
      ∧ (w₀.records.Has n.object → Pending x w₀.records root n.object) := by
  intro w n m j hw _ _ _ hentity _ hunsaved
  refine ⟨.inr ⟨j, hentity⟩, fun hhas => ?_⟩
  rcases hw.unsaved_or hunsaved hhas with hunsaved | ⟨n', ⟨-, hpending⟩, hn'⟩
  · exact .inr ⟨j, m.entity, hentity, hunsaved⟩
  · rw [hn'] at hpending
    exact hpending hhas

/-- The root and what it cascades to, if no entity is held as one of several classes. -/
theorem closed_cascaded (hwf : WellFormed x w₀.records root) (hroot : w₀.records.Has root.object)
    (hdistinct : ∀ n, Cascaded x w₀.records root n → n.entity.Distinct) :
    Closed x w₀ (Cascaded x w₀.records root) := by
  intro w n m j hw hn hj hget hentity hpresent hunsaved
  have hheld : w.records.get n.object j.field = w₀.records.get n.object j.field := by
    rcases hw.fields n.object j.field (hwf.has hroot hn) with hsame | ⟨n', hn', heq, hassigned⟩
    · exact hsame
    · -- columns and joins have fields of their own, and a stand-in does not wait for a key
      cases hwf.eq_of_object_eq (.inl hn') (.inl hn) heq
      generalize hvalue : w.records.get n.object j.field = value at hassigned
      generalize hfield : j.field = field at hassigned
      cases hassigned with
      | standIn _ _ _ now =>
        rw [← hvalue, hget] at now
        exact absurd (now.symm.trans hunsaved.1) (by decide)
      | foreignKey _ column _ =>
        exact absurd hfield ((hdistinct n hn).join_ne_column hj (List.mem_of_find?_eq_some column))
      | number _ primaryKey _ _ =>
        exact absurd hfield
          ((hdistinct n hn).join_ne_column hj (List.mem_of_find?_eq_some primaryKey))
  have hm : Holds x w₀.records n m := ⟨j, hj, hheld.symm.trans hget, hpresent, hentity⟩
  have hvisited : Visited x w₀.records root m := .inr ⟨n, hn, hm⟩
  rcases hw.unsaved_or hunsaved (hwf.has_of_visited hroot hvisited) with hunsaved | ⟨m', hm', heq⟩
  · exact hn.tail ⟨hm, hunsaved⟩
  · cases hwf.eq_of_object_eq (.inl hm') hvisited heq
    exact hm'

/-- Every step of inserting leaves only what may be left. -/
theorem residue_rules (hclosed : Closed x w₀ G) : InsertRules x G (Residue G w₀) where
  newRecord _ r hw := hw.addRecord r
  standIn w n j r ref hw hG hj href hnull hdefault hr := by
    refine (hw.addRecord r).setField href hG fun hhas => .standIn hj hdefault ?_ ?_
    · refine (hw.fields _ j.field hhas).elim (fun h => h.symm.trans hnull) ?_
      rintro ⟨_, -, -, hassigned⟩
      exact absurd hnull hassigned.ne_null
    · show Records.isPlaceholder (w.records ++ [r]) _ = true
      rw [Records.isPlaceholder, Records.record?_length]
      exact hr
  foreignKey _ _ _ _ _ _ hw hG hj href hcol hkey _ :=
    hw.setField href hG fun _ => .foreignKey hj hcol hkey
  statement _ _ _ _ _ hw _ _ := hw.sameRecords rfl (List.prefix_append _ _)
  number i key ref hw hafter hG href hkey hauto := by
    have hbetween : i.Between w₀ i.after := ⟨hw.events, List.prefix_refl _⟩
    exact hafter.setField href hG fun _ => .number rfl hkey hauto hbetween
  related w n m j hw hG hj hget hentity hpresent hunsaved :=
    hclosed w n m j hw hG hj hget hentity hpresent hunsaved

/-! ## A whole saving -/

/-- A saving that fails before it writes has changed no entity and inserted nothing; one that fails
later is rolled back, and leaves only what may be left. -/
theorem save_error_residue {validating : Bool} {f : Failure}
    (h : save x validating root.entity root.object w = (.error f, w')) :
    w'.records = w.records
      ∨ w.records.Has root.object
        ∧ (∃ w₁ w₂ : World δ, Validated x validating root.entity root.object w w₁
          ∧ w' = w₂.rollback.leave x.management)
        ∧ ∀ G, Closed x w G → G root → Residue G w w' := by
  rcases save_eq_error h with ⟨-, rfl⟩ | ⟨-, -, hvalid⟩ | ⟨hcheck, w₁, hvalid, hwrite⟩
  · exact .inl rfl
  · exact .inl ((validateAll_reads readInvariant_true _ w w (Adds.refl _ _ w)).2 _ _ hvalid).records
  have hreads : Reads (fun _ => True) w w₁ := hvalid.reads readInvariant_true
  have hopen := hreads.trans (ensureOpen_silent readInvariant_true x.management w₁).reads
  rcases withConnection_eq_error.mp hwrite with hfail | ⟨w₂, w₃, ho, hbody, rfl⟩
  · rw [hfail] at hopen
    exact .inl hopen.records
  · rw [ho] at hopen
    refine .inr ⟨has_of_checkSavable hcheck, ⟨w₁, w₃, hvalid, rfl⟩, fun G hclosed hG => ?_⟩
    obtain ⟨l, hl, -⟩ := hopen.events
    have hstart : Residue G w w₂ :=
      (Residue.refl G w).sameRecords hopen.records (hl ▸ List.prefix_append _ _)
    have hends := (residue_rules hclosed).insertEntity_keeps ⟨true⟩
      (relationDepth w.records) hG w₂ hstart
    have hend : Residue G w w₃ := by
      rcases committing_eq_error.mp hbody with hf | ⟨_, w₄, _, ha, -, -, rfl⟩
      · exact hends.2 _ _ hf
      · exact (hends.1 _ _ ha).sameRecords rfl (List.prefix_append _ _)
    have hleave := rollback_leave_silent readInvariant_true x.management w₃
    obtain ⟨l', hl', -⟩ := hleave.events
    exact hend.sameRecords hleave.records (hl' ▸ List.prefix_append _ _)

namespace Sample

/-- A database that accepts one row and refuses the next one. -/
def refusing : World Script :=
  { records, database := { replies := [.ok { rowId := 7 }, .error "disk I/O error"] } }

theorem save_refused :
    (save library false newProduct.entity newProduct.object refusing).1.isOk = false := by
  decide +kernel

end Sample

end EntityMap
