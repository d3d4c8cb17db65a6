import EntityMap.Proofs.Saving.Induction
import EntityMap.Proofs.Saving.Provenance

/-!
# Hierarchies

If joins never lead back to an entity (`Hierarchy`), then what is inserted from an entity on is what
it reached as the records were when the saving began, since the fields of joins stay as they are, up
to stand-ins (`Follows`). Every change that inserting makes keeps this (`follows_rules`,
`settleJoin_follows`).
-/

namespace EntityMap

open Relation

variable {δ : Type} {x : Library} {rs rs' : Records} {root n m : Node}

/-! ## Hierarchies -/

/-- Joins lead from the root to entities that are there and never back to one of them, and the
classes under which one entity is held agree on which of its fields are joins. -/
structure Hierarchy (x : Library) (rs : Records) (root : Node) : Prop where
  has : ∀ n, Reached x rs root n → rs.Has n.object
  acyclic : ∀ n m, Reached x rs root n → TransGen (Holds x rs) n m → m.object ≠ n.object
  roles : ∀ n m, Reached x rs root n → Reached x rs root m → n.object = m.object →
    ∀ j ∈ n.entity.joins, ∀ col ∈ m.entity.columns, j.field ≠ col.field

/-- The classes agree if each entity is held as one class. -/
theorem Hierarchy.of_oneClass (hdistinct : ∀ n, Reached x rs root n → n.entity.Distinct)
    (has : ∀ n, Reached x rs root n → rs.Has n.object)
    (acyclic : ∀ n m, Reached x rs root n → TransGen (Holds x rs) n m → m.object ≠ n.object)
    (oneClass : ∀ n m, Reached x rs root n → Reached x rs root m → n.object = m.object →
      n.entity = m.entity) : Hierarchy x rs root where
  has := has
  acyclic := acyclic
  roles n m hn hm heq _ hj _ hcol :=
    (hdistinct n hn).join_ne_column hj (oneClass n m hn hm heq ▸ hcol)

/-- If everything holds only entities that come after it, then joins never lead back. -/
theorem Hierarchy.of_number_lt {P : Node → Prop} (hroot : P root)
    (hholds : ∀ n m, P n → Holds x rs n m → P m ∧ n.object.number < m.object.number)
    (has : ∀ n, P n → rs.Has n.object)
    (roles : ∀ n m, P n → P m → n.object = m.object →
      ∀ j ∈ n.entity.joins, ∀ col ∈ m.entity.columns, j.field ≠ col.field) :
    Hierarchy x rs root := by
  have hP : ∀ {n}, Reached x rs root n → P n := fun hn =>
    hn.of_holds hroot fun n m hn hm => (hholds n m hn hm).1
  refine ⟨fun n hn => has n (hP hn), fun n m hn h => ?_,
    fun n m hn hm => roles n m (hP hn) (hP hm)⟩
  have hlt : P m ∧ n.object.number < m.object.number := by
    induction h with
    | single hnm => exact hholds _ _ (hP hn) hnm
    | tail _ hkm ih =>
      obtain ⟨hm, hlt⟩ := hholds _ _ ih.1 hkm
      exact ⟨hm, Nat.lt_trans ih.2 hlt⟩
  intro heq
  rw [heq] at hlt
  exact Nat.lt_irrefl _ hlt.2

/-- A root that holds nothing is a hierarchy. -/
theorem Hierarchy.of_not_holds (hdistinct : root.entity.Distinct) (hroot : rs.Has root.object)
    (h : ∀ m, ¬Holds x rs root m) : Hierarchy x rs root := by
  refine .of_number_lt (P := (· = root)) rfl ?_ ?_ ?_
  · rintro n m rfl hnm
    exact absurd hnm (h m)
  · rintro n rfl
    exact hroot
  · rintro n m rfl rfl - j hj col hcol
    exact hdistinct.join_ne_column hj hcol

/-- Described classes lead to described classes. -/
theorem Reached.distinct (hc : x.catalogue.Distinct) (hroot : root.entity.Distinct)
    (hn : Reached x rs root n) : n.entity.Distinct := by
  rcases ReflTransGen.cases_tail hn with rfl | ⟨m, -, j, -, hm⟩
  · exact hroot
  · exact hc.describeRelated hm.2.2

/-! ## While entities are inserted -/

/-- All entities are still there, and the fields of joins are steady. -/
structure Follows (x : Library) (rs : Records) (root : Node) (rs' : Records) : Prop where
  has : ∀ u, rs.Has u → rs'.Has u
  steady : ∀ n, Reached x rs root n → ∀ j ∈ n.entity.joins, Steady rs rs' n.object j

theorem Follows.refl (x : Library) (rs : Records) (root : Node) : Follows x rs root rs :=
  ⟨fun _ h => h, fun _ _ _ _ => .inl rfl⟩

theorem Follows.append (h : Follows x rs root rs') (hh : Hierarchy x rs root) (r : Record) :
    Follows x rs root (rs' ++ [r]) where
  has u hu := (h.has u hu).append [r]
  steady n hn j hj := (h.steady n hn j hj).congr
    (Records.get_congr (Records.record?_append (h.has _ (hh.has n hn)) [r]) j.field)
    fun _ hu => Records.isPlaceholder_append hu [r]

/-- A field may be set that is none of a join, or to a stand-in if it was empty. -/
theorem Follows.set (h : Follows x rs root rs') {ref : Nat} {field : String} {new : Value}
    (hnew : ∀ n, Reached x rs root n → n.object = .entity ref → ∀ j ∈ n.entity.joins,
      j.field = field → rs.get n.object j.field = .null ∧ rs'.isPlaceholder new = true) :
    Follows x rs root (rs'.set ref field new) where
  has u hu := Records.has_set.mpr (h.has u hu)
  steady n hn j hj := by
    rcases Records.get_set_or rs' ref field new n.object j.field with hget | ⟨hobject, hfield, hget⟩
    · exact (h.steady n hn j hj).congr hget fun u hu => Records.isPlaceholder_set.trans hu
    · obtain ⟨hnull, hstandIn⟩ := hnew n hn hobject j hj hfield
      refine .inr ⟨hnull, ?_⟩
      rw [hget, Records.isPlaceholder_set]
      exact hstandIn

theorem Follows.set_column (h : Follows x rs root rs') (hh : Hierarchy x rs root)
    (hn : Reached x rs root n) {ref : Nat} (hobject : n.object = .entity ref) {col : Column}
    (hcol : col ∈ n.entity.columns) (new : Value) :
    Follows x rs root (rs'.set ref col.field new) :=
  h.set fun m hm hm' j hj hfield =>
    absurd hfield (hh.roles m n hm hn (hm'.trans hobject.symm) j hj col hcol)

/-- What waits for its key in the field of a join was there when the saving began. -/
theorem Follows.holds (h : Follows x rs root rs') (hn : Reached x rs root n) {j : Join}
    (hj : j ∈ n.entity.joins) (hheld : rs'.get n.object j.field = m.object)
    (hentity : x.catalogue.describeRelated j = .ok m.entity) (hpresent : m.object.isNull = false)
    (hunsaved : Unsaved rs' m) : HoldsBy x rs n j m := by
  rcases h.steady n hn j hj with hsame | ⟨-, hstandIn⟩
  · exact ⟨hsame.symm.trans hheld, hpresent, hentity⟩
  · rw [hheld, hunsaved.1] at hstandIn
    exact absurd hstandIn (by decide)

variable [Database δ]

/-- Every change that inserting makes to what is reached follows the records. -/
theorem follows_rules (hh : Hierarchy x rs root) :
    InsertRules x (Reached x rs root) (fun w : World δ => Follows x rs root w.records) where
  newRecord _ r hw := hw.append hh r
  standIn w m j r ref hw hm _ hobject hempty _ hstandIn := by
    refine (hw.append hh r).set fun k hk hk' j' hj' hfield => ⟨?_, ?_⟩
    · refine (hw.steady k hk j' hj').eq_null ?_
      rw [hfield, hk', ← hobject]
      exact hempty
    · rw [Records.isPlaceholder, Records.record?_length]
      exact hstandIn
  foreignKey w m j col ref key hw hm _ hobject hcol _ _ :=
    hw.set_column hh hm hobject (Entity.mem_of_columnNamed? hcol).1 key
  statement _ _ _ _ _ hw _ _ := hw
  number i key ref hw _ hm hobject hkey _ :=
    hw.set_column hh hm hobject (List.mem_of_find?_eq_some hkey) _
  related w m k j hw hm hj hheld hentity hpresent hunsaved :=
    hm.tail ⟨j, hj, hw.holds hm hj hheld hentity hpresent hunsaved⟩

/-- Inserting what is reached follows the records. -/
theorem insertEntity_follows (hh : Hierarchy x rs root) (hn : Reached x rs root n) {k : Connection}
    {fuel : Nat} {rowId : Int} {w w' : World δ} (hw : Follows x rs root w.records)
    (h : insertEntity x k fuel n.entity n.object w = (.ok rowId, w')) :
    Follows x rs root w'.records :=
  ((follows_rules hh).insertEntity_keeps k fuel hn w hw).1 _ _ h

/-! ## Settling joins -/

section

variable (hh : Hierarchy x rs root) (hn : Reached x rs root n)
include hh hn

omit [Database δ] in
theorem relatedOrPlaceholder_follows {j : Join} {related : Value} {w w' : World δ}
    (hw : Follows x rs root w.records)
    (h : relatedOrPlaceholder x n.object j w = (.ok related, w')) :
    Follows x rs root w'.records where
  has := by
    have hwrites : Writes n.object (fun _ => True) w w' :=
      relatedOrPlaceholder_writes (hw.has _ (hh.has n hn)) trivial h
    exact fun u hu => hwrites.has u (hw.has u hu)
  steady m hm j' hj' :=
    relatedOrPlaceholder_steady (hw.has _ (hh.has n hn)) (hw.has _ (hh.has m hm)) h
      (hw.steady m hm j' hj')

/-- Getting the related entity ready follows the records. -/
theorem RelatedReady.follows {k : Connection} {fuel : Nat} {j : Join} {w w₁ w₂ : World δ}
    (hj : j ∈ n.entity.joins) (hw : Follows x rs root w.records)
    (hmade : relatedOrPlaceholder x n.object j w = (.ok m.object, w₁))
    (hpresent : m.object.isNull = false) (hentity : x.catalogue.describeRelated j = .ok m.entity)
    (h : RelatedReady (insertEntity x k fuel) m w₁ w₂) : Follows x rs root w₂.records := by
  have hw₁ := relatedOrPlaceholder_follows hh hn hw hmade
  cases h with
  | present _ => exact hw₁
  | inserted unsaved run =>
    have hholds : Holds x rs n m := by
      rcases relatedOrPlaceholder_of_steady (hw.steady n hn j hj) hmade with
        ⟨hsame, -⟩ | ⟨-, hstandIn⟩
      · exact ⟨j, hj, hsame.symm, hpresent, hentity⟩
      · exact absurd (hstandIn.symm.trans unsaved.1) (by decide)
    exact insertEntity_follows hh (hn.tail hholds) hw₁ run

omit [Database δ] in
theorem KeyTaken.follows {j : Join} {key : Value} {keys keys' : List (String × Value)} {ref : Nat}
    {w w' : World δ} (hobject : n.object = .entity ref)
    (h : KeyTaken n.entity j key keys ref w keys' w') (hw : Follows x rs root w.records) :
    Follows x rs root w'.records := by
  cases h with
  | assigned column _ =>
    exact hw.set_column hh hn hobject (Entity.mem_of_columnNamed? column).1 key
  | absent _ _ => exact hw
  | named _ => exact hw

/-- Settling joins follows the records. -/
theorem settleJoin_follows {k : Connection} {fuel : Nat} {j : Join} {w w' : World δ}
    {keys keys' : List (String × Value)} (hj : j ∈ n.entity.joins)
    (hw : Follows x rs root w.records)
    (h : settleJoin x (insertEntity x k fuel) n.entity n.object keys j w = (.ok keys', w')) :
    Follows x rs root w'.records := by
  obtain ⟨ref, hobject, -⟩ := (hh.has n hn).entity
  rw [hobject] at h
  obtain ⟨related, w₁, hmade, h⟩ := settleJoin_eq_ok h
  rw [← hobject] at hmade
  rcases h with ⟨-, -, rfl⟩ | ⟨hpresent, relatedEntity, w₂, source, key, hentity, hready, -, -,
    htaken⟩
  · exact relatedOrPlaceholder_follows hh hn hw hmade
  · exact htaken.follows hh hn hobject (hready.follows hh hn hj hw hmade hpresent hentity)

end

end EntityMap
