import EntityMap.Proofs.Saving.OwnRow
import EntityMap.Proofs.Schema.Physical

/-!
# Where the values of a row come from

A member gives a value to its column : a column field its own value, a join the key of its related
entity or of the stand-in for an absent one (`Gives`). If the related entities of an entity are
saved, then each value of its row is given by a member that lies in the column, as the entities were
when the saving began (`OwnRow.exists_gives`).

The induction is on the joins. What they have not come to yet is as it was, except for columns that
hold a delivered key (`Unsettled`).
-/

namespace EntityMap

variable {δ : Type} {x : Library} {rs : Records} {e : Entity} {v b : Value}

/-! ## Members -/

/-- What a member gives to its column. A join that has no related entity gives the key of a
stand-in, whatever that is. -/
inductive Gives (x : Library) (rs : Records) (v b : Value) : Member → Prop
  | field {col : Column} (value : stored (rs.get v col.field) = .ok b) :
      Gives x rs v b (.column col)
  | related {j : Join} {source : Column} (present : (rs.get v j.field).isNull = false)
      (column : x.catalogue.sourceColumn j = .ok source)
      (value : stored (rs.get (rs.get v j.field) source.field) = .ok b) : Gives x rs v b (.join j)
  | standIn {j : Join} (absent : rs.get v j.field = .null) (default : j.hasDefault = true) :
      Gives x rs v b (.join j)

/-- What is given is stored as it is. -/
theorem Gives.of_stored {m : Member} {b' : Value} (h : Gives x rs v b m)
    (hb : stored b = .ok b') : Gives x rs v b' m := by
  cases h with
  | field value =>
    cases (stored_of_stored value).symm.trans hb
    exact .field value
  | related present column value =>
    cases (stored_of_stored value).symm.trans hb
    exact .related present column value
  | standIn absent default => exact .standIn absent default

/-- The related entities are there and saved, and the entity is not related to itself. -/
structure RelatedSaved (x : Library) (rs : Records) (n : Node) : Prop where
  has : ∀ j ∈ n.entity.joins, ∀ ref, rs.get n.object j.field = .entity ref → ref < rs.length
  other : ∀ j ∈ n.entity.joins, rs.get n.object j.field ≠ n.object
  saved : ∀ m, Holds x rs n m → ¬Unsaved rs m

/-! ## Settling -/

/-- Before some joins are settled, their fields and all other entities are as they were, and so are
the columns unless they hold the key of a join. -/
structure Unsettled (x : Library) (rs : Records) (e : Entity) (ref : Nat) (js : List Join)
    (w : World δ) : Prop where
  self : w.records.Has (.entity ref)
  frame : ∀ u, rs.Has u → u ≠ .entity ref → w.records.record? u = rs.record? u
  joins : ∀ j ∈ js, w.records.get (.entity ref) j.field = rs.get (.entity ref) j.field
  columns : ∀ col ∈ e.columns,
    w.records.get (.entity ref) col.field = rs.get (.entity ref) col.field
      ∨ ∃ j ∈ e.joins, j.target = col.name
        ∧ Gives x rs (.entity ref) (w.records.get (.entity ref) col.field) (.join j)

section

variable {ref : Nat} {js : List Join} {j : Join} {w w' : World δ} {key : Value}
  {keys keys' : List (String × Value)}

theorem Unsettled.rest (h : Unsettled x rs e ref (j :: js) w) : Unsettled x rs e ref js w :=
  { h with joins := fun j' hj' => h.joins j' (List.mem_cons_of_mem _ hj') }

/-- Fields may be written that belong to no join to come, and to a column only if a join has given
what they hold now. -/
theorem Unsettled.writes {written : String → Prop} (h : Unsettled x rs e ref js w)
    (hwrites : Writes (.entity ref) written w w') (hjoins : ∀ j ∈ js, ¬written j.field)
    (hcolumns : ∀ col ∈ e.columns, written col.field → ∃ j ∈ e.joins, j.target = col.name
      ∧ Gives x rs (.entity ref) (w'.records.get (.entity ref) col.field) (.join j)) :
    Unsettled x rs e ref js w' where
  self := hwrites.has _ h.self
  frame u hu hne := by
    have hsame := h.frame u hu hne
    have hhas : w.records.Has u := by
      rw [Records.Has, hsame]
      exact hu
    exact (hwrites.frame u hhas hne).trans hsame
  joins j hj := (hwrites.others j.field (hjoins j hj)).trans (h.joins j hj)
  columns col hcol := by
    by_cases hwritten : written col.field
    · exact .inr (hcolumns col hcol hwritten)
    · rw [hwrites.others col.field hwritten]
      exact h.columns col hcol

/-- The related entity of the next join is as it was. -/
theorem Unsettled.record?_related (h : Unsettled x rs e ref js w)
    (hrelated : RelatedSaved x rs ⟨e, .entity ref⟩) (hj : j ∈ e.joins) :
    w.records.record? (rs.get (.entity ref) j.field)
      = rs.record? (rs.get (.entity ref) j.field) := by
  cases hget : rs.get (.entity ref) j.field with
  | entity other =>
    have hhas : rs.Has (.entity other) := by
      simp [Records.Has, Records.record?, hrelated.has j hj other hget]
    exact h.frame _ hhas (hget ▸ hrelated.other j hj)
  | _ => rfl

/-- Taking a key over writes at most a column that the join gives a value to. -/
theorem KeyTaken.unsettled (h : KeyTaken e j key keys ref w keys' w') (hdistinct : e.Distinct)
    (hj : j ∈ e.joins) (hjs : ∀ j' ∈ js, j' ∈ e.joins)
    (hgives : Gives x rs (.entity ref) key (.join j)) (hw : Unsettled x rs e ref js w) :
    Unsettled x rs e ref js w' := by
  cases h with
  | @assigned col column _ =>
    obtain ⟨hcol, hname⟩ := Entity.mem_of_columnNamed? column
    have hwrites : Writes (.entity ref) (· = col.field) w
        { w with records := w.records.set ref col.field key } := by
      refine Writes.set ?_ key w
      rfl
    refine hw.writes hwrites (fun j' hj' => hdistinct.join_ne_column (hjs j' hj') hcol)
      fun col' hcol' hfield => ?_
    cases hdistinct.column_eq hcol' hcol hfield
    obtain ⟨_, heq, hlt⟩ := hw.self.entity
    cases heq
    refine ⟨j, hj, hname.symm, ?_⟩
    rw [Records.get_set_self hlt, if_pos rfl]
    exact hgives
  | absent _ _ => exact hw
  | named _ => exact hw

/-- A join delivers what it gave to its column when the saving began. -/
theorem Delivers.gives {insertRelated : Entity → Value → Op δ Int}
    (h : Delivers x insertRelated e ref keys j w key keys' w') (hdistinct : e.Distinct)
    (hrelated : RelatedSaved x rs ⟨e, .entity ref⟩) (hj : j ∈ e.joins)
    (hjs : ∀ j' ∈ js, j' ∈ e.joins ∧ j'.field ≠ j.field) (hw : Unsettled x rs e ref (j :: js) w) :
    Gives x rs (.entity ref) key (.join j) ∧ Unsettled x rs e ref js w' := by
  obtain ⟨related, w₁, relatedEntity, w₂, source, hmade, hpresent, hentity, hready, hsource, hvalue,
    htaken⟩ := h.parts
  have hsame : w.records.get (.entity ref) j.field = rs.get (.entity ref) j.field :=
    hw.joins j List.mem_cons_self
  have hgives : Gives x rs (.entity ref) key (.join j) ∧ Unsettled x rs e ref js w₂ := by
    have hwrites : Writes (.entity ref) (· = j.field) w w₁ :=
      relatedOrPlaceholder_writes hw.self rfl hmade
    have hw₁ : Unsettled x rs e ref js w₁ :=
      hw.rest.writes hwrites (fun j' hj' => (hjs j' hj').2)
        fun col hcol hfield => absurd hfield.symm (hdistinct.join_ne_column hj hcol)
    rcases relatedOrPlaceholder_eq_ok hmade with
      ⟨rfl, rfl, -⟩ | ⟨hnull, hdefault, rfl, ref', stub, -, hstub, rfl⟩
    · -- the related entity is there and saved, so nothing is inserted
      rw [hsame] at hpresent hready hvalue
      have hrecord := hw.record?_related hrelated hj
      have hholds : Holds x rs ⟨e, .entity ref⟩ ⟨relatedEntity, rs.get (.entity ref) j.field⟩ :=
        ⟨j, hj, rfl, hpresent, hentity⟩
      cases hready with
      | inserted unsaved _ =>
        exact absurd (unsaved.congr hrecord.symm) (hrelated.saved _ hholds)
      | present _ =>
        rw [Records.get_congr hrecord] at hvalue
        exact ⟨.related hpresent hsource hvalue, hw₁⟩
    · cases hready with
      | inserted unsaved _ =>
        exact absurd ((isPlaceholder_standIn hstub).symm.trans unsaved.1) (by decide)
      | present _ => exact ⟨.standIn (hsame.symm.trans hnull) hdefault, hw₁⟩
  exact ⟨hgives.1, htaken.unsettled hdistinct hj (fun j' hj' => (hjs j' hj').1) hgives.1 hgives.2⟩

/-- All joins deliver what they gave, and then each column holds its own value or what a join has
given to it. -/
theorem Settled.gives {insertRelated : Entity → Value → Op δ Int}
    {deliveries : List (Join × Value)}
    (h : Settled x insertRelated e ref js keys w deliveries keys' w') (hdistinct : e.Distinct)
    (hrelated : RelatedSaved x rs ⟨e, .entity ref⟩) (hjs : ∀ j ∈ js, j ∈ e.joins)
    (hnodup : (js.map (·.field)).Nodup) (hw : Unsettled x rs e ref js w) :
    (∀ p ∈ deliveries, Gives x rs (.entity ref) p.2 (.join p.1) ∧ p.1 ∈ e.joins)
      ∧ Unsettled x rs e ref [] w' := by
  induction h with
  | nil => exact ⟨by simp, hw⟩
  | absent _ _ _ ih =>
    exact ih (fun j hj => hjs j (List.mem_cons_of_mem _ hj)) (List.nodup_cons.mp hnodup).2 hw.rest
  | delivered first _ ih =>
    obtain ⟨hfield, hnodup⟩ := List.nodup_cons.mp hnodup
    have hj := hjs _ List.mem_cons_self
    have hjs' := fun j hj => hjs j (List.mem_cons_of_mem _ hj)
    obtain ⟨hgives, hw₁⟩ := first.gives hdistinct hrelated hj (fun j' hj' => ⟨hjs' j' hj',
      fun heq => hfield (List.mem_map.mpr ⟨j', hj', heq⟩)⟩) hw
    obtain ⟨hdeliveries, hdone⟩ := ih hjs' hnodup hw₁
    exact ⟨List.forall_mem_cons.mpr ⟨⟨hgives, hj⟩, hdeliveries⟩, hdone⟩

end

/-! ## The row -/

/-- If the related entities are saved, a value of the row is what a member gave to the column when
the saving began. -/
theorem OwnRow.exists_gives [Database δ] {validating : Bool} {w : World δ}
    (row : OwnRow x validating e v w) (hdistinct : e.Distinct)
    (hrelated : RelatedSaved x w.records ⟨e, v⟩) {name : String}
    (hb : row.values.lookup name = some b) :
    b.isNull = false ∧ ∃ m ∈ e.members, m.physical = name ∧ Gives x w.records v b m := by
  have hself := has_of_checkSavable row.savable
  have hvalues : ownValues row.before.records e (.entity row.ref) = .ok row.own := by
    rw [← row.object]
    exact row.own_eq
  rw [row.object] at hrelated hself ⊢
  have hstart : Unsettled x w.records e row.ref e.joins row.opened := by
    refine ⟨?_, fun u _ _ => ?_, fun j _ => ?_, fun col _ => .inl ?_⟩ <;> rw [row.records_opened]
    exact hself
  obtain ⟨hdeliveries, hdone⟩ := row.settled.gives hdistinct hrelated (fun _ h => h)
    hdistinct.nodup_joins hstart
  rw [row.lookup_values, Option.or_eq_some_iff] at hb
  rcases hb with hown | ⟨-, hkey⟩
  · obtain ⟨col, hcol, rfl, hkept, hstored⟩ := exists_column_of_lookup_ownValues hvalues hown
    refine ⟨(isNull_of_stored hstored).trans (Bool.or_eq_false_iff.mp hkept).1, ?_⟩
    rcases hdone.columns col hcol with hsame | ⟨j, hj, htarget, hgives⟩
    · rw [hsame] at hstored
      exact ⟨.column col, Entity.mem_columns.mp hcol, rfl, .field hstored⟩
    · exact ⟨.join j, Entity.mem_joins.mp hj, htarget, hgives.of_stored hstored⟩
  · split at hkey
    · obtain ⟨hkey, hpresent⟩ := Option.filter_eq_some_iff.mp hkey
      obtain ⟨j, hmem, htarget⟩ := exists_of_lastKey hkey
      obtain ⟨hgives, hj⟩ := hdeliveries _ hmem
      exact ⟨by simpa using hpresent, .join j, Entity.mem_joins.mp hj, htarget, hgives⟩
    · simp at hkey

end EntityMap
