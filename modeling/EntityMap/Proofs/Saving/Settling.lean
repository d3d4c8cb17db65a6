import EntityMap.Proofs.Saving.Graph
import EntityMap.Proofs.Storage.Step

/-!
# Settling a join

What one join does to the records when it is settled without a failure (`settleJoin_eq_ok`) : an
absent relation with a default becomes a stand-in (`relatedOrPlaceholder_eq_ok`), a related entity
that waits for its key is inserted (`RelatedReady`), and its key is taken over (`KeyTaken`). Of
the owner only the field of the join and the field of its target column are written.
-/

namespace EntityMap

variable {δ : Type} {x : Library} {e : Entity} {v related : Value} {j : Join} {w w' : World δ}

/-- The related entity of a join is the one that is there, or else a new stand-in if the join
declares a default. -/
theorem relatedOrPlaceholder_eq_ok (h : relatedOrPlaceholder x v j w = (.ok related, w')) :
    (related = w.records.get v j.field ∧ w' = w ∧ (related.isNull = true → j.hasDefault = false))
      ∨ (w.records.get v j.field = .null ∧ j.hasDefault = true
        ∧ related = .entity w.records.length
        ∧ ∃ ref stub, v = .entity ref ∧ placeholderRecord x j = .ok stub
          ∧ w' = { w with records := (w.records ++ [stub]).set ref j.field related }) := by
  rw [relatedOrPlaceholder, Op.records_bind] at h
  split at h
  · next hnull =>
    obtain ⟨hnull, hdefault⟩ := Bool.and_eq_true_iff.mp hnull
    obtain ⟨stub, w₁, hstub, h⟩ := Op.bind_eq_ok.mp h
    obtain ⟨_, w₂, hset, h⟩ := Op.bind_eq_ok.mp h
    cases h
    obtain ⟨r, hr, hadd⟩ := Op.ofResult_bind_eq_ok.mp hstub
    cases hadd
    obtain ⟨ref, rfl, rfl⟩ := Op.setField_eq_ok.mp hset
    exact .inr ⟨Value.isNull_iff.mp hnull, hdefault, rfl, ref, r, rfl, hr, rfl⟩
  · next hnull =>
    cases h
    refine .inl ⟨rfl, rfl, fun hn => ?_⟩
    simpa [hn] using hnull

/-! ## What is written -/

/-- Nothing has changed but some fields of one entity, and perhaps there are new entities. -/
structure Writes (v : Value) (written : String → Prop) (w w' : World δ) : Prop where
  events : w'.events = w.events
  database : w'.database = w.database
  has : ∀ u, w.records.Has u → w'.records.Has u
  standIns : ∀ u, w.records.isPlaceholder u = true → w'.records.isPlaceholder u = true
  frame : ∀ u, w.records.Has u → u ≠ v → w'.records.record? u = w.records.record? u
  others : ∀ field, ¬written field → w'.records.get v field = w.records.get v field

variable {written : String → Prop}

theorem Writes.refl (v : Value) (written : String → Prop) (w : World δ) : Writes v written w w :=
  ⟨rfl, rfl, fun _ h => h, fun _ h => h, fun _ _ _ => rfl, fun _ _ => rfl⟩

/-- Setting a field writes this field. -/
theorem Writes.set {ref : Nat} {field : String} (hfield : written field) (new : Value)
    (w : World δ) :
    Writes (.entity ref) written w { w with records := w.records.set ref field new } where
  events := rfl
  database := rfl
  has _ h := Records.has_set.mpr h
  standIns _ h := Records.isPlaceholder_set.trans h
  frame _ _ hu := Records.record?_set_of_ne hu field new
  others other hother := by
    have hne : other ≠ field := fun h => hother (h ▸ hfield)
    by_cases hlt : ref < w.records.length
    · rw [Records.get_set_self hlt, if_neg hne]
    · simp [Records.get, Records.record?, Records.set, hlt]

/-- A new entity writes no field. -/
theorem Writes.append {v : Value} (hv : w.records.Has v) (r : Record) :
    Writes v written w { w with records := w.records ++ [r] } where
  events := rfl
  database := rfl
  has _ h := h.append [r]
  standIns _ h := Records.isPlaceholder_append h [r]
  frame _ h _ := Records.record?_append h [r]
  others field _ := Records.get_congr (Records.record?_append hv [r]) field

theorem Writes.trans {v : Value} {w₁ w₂ w₃ : World δ} (h : Writes v written w₁ w₂)
    (h' : Writes v written w₂ w₃) : Writes v written w₁ w₃ where
  events := h'.events.trans h.events
  database := h'.database.trans h.database
  has u hu := h'.has u (h.has u hu)
  standIns u hu := h'.standIns u (h.standIns u hu)
  frame u hu hne := (h'.frame u (h.has u hu) hne).trans (h.frame u hu hne)
  others field hfield := (h'.others field hfield).trans (h.others field hfield)

/-- A field that is not written stays steady. -/
theorem Writes.steady {rs : Records} {v u : Value} {j : Join} (h : Writes v written w w')
    (hu : w.records.Has u) (hwritten : u = v → ¬written j.field)
    (hsteady : Steady rs w.records u j) : Steady rs w'.records u j := by
  refine hsteady.congr ?_ h.standIns
  by_cases huv : u = v
  · subst huv
    exact h.others j.field (hwritten rfl)
  · exact Records.get_congr (h.frame u hu huv) j.field

/-- Making the related entity available writes the field of the join. -/
theorem relatedOrPlaceholder_writes {v : Value} (hv : w.records.Has v) (hj : written j.field)
    (h : relatedOrPlaceholder x v j w = (.ok related, w')) : Writes v written w w' := by
  rcases relatedOrPlaceholder_eq_ok h with ⟨-, rfl, -⟩ | ⟨-, -, -, ref, stub, rfl, -, rfl⟩
  · exact Writes.refl _ _ _
  · have happend : Writes (.entity ref) written w { w with records := w.records ++ [stub] } :=
      Writes.append hv stub
    exact happend.trans (Writes.set hj related { w with records := w.records ++ [stub] })

/-- What is made for an absent relation is a stand-in. -/
theorem placeholderRecord_eq_ok {r : Record} (h : placeholderRecord x j = .ok r) :
    r.isPlaceholder = true := by
  obtain ⟨_, _, h⟩ := Except.bind_eq_ok.mp h
  obtain ⟨_, _, h⟩ := Except.bind_eq_ok.mp h
  obtain ⟨_, _, h⟩ := Except.bind_eq_ok.mp h
  obtain ⟨_, _, h⟩ := Except.bind_eq_ok.mp h
  cases h
  rfl

/-- A new stand-in is a new record. -/
theorem placeholder_ends (x : Library) (j : Join) (w : World δ) :
    (placeholder x j).Ends w
      (fun v w' => ∃ r, placeholderRecord x j = .ok r ∧ v = .entity w.records.length
        ∧ w' = { w with records := w.records ++ [r] })
      fun _ w' => w' = w := by
  have hresult : (Op.ofResult (placeholderRecord x j) : Op δ Record).Ends w
      (fun r w' => placeholderRecord x j = .ok r ∧ w' = w) fun _ w' => w' = w :=
    Op.Ends.ofResult (fun _ hr => ⟨hr, rfl⟩) fun _ _ => rfl
  refine hresult.bind ?_
  rintro r _ ⟨hr, rfl⟩
  refine ⟨fun v w' h => ?_, fun f w' h => ?_⟩
  · cases h
    exact ⟨r, hr, rfl, rfl⟩
  · simp [Op.addRecord] at h

/-- The value that a new stand-in gets is one. -/
theorem isPlaceholder_standIn {stub : Record} {ref : Nat}
    (hstub : placeholderRecord x j = .ok stub) :
    ((w.records ++ [stub] : Records).set ref j.field related).isPlaceholder
      (.entity w.records.length) = true := by
  rw [Records.isPlaceholder_set, Records.isPlaceholder, Records.record?_length]
  exact placeholderRecord_eq_ok hstub

/-- Making the related entity available leaves all fields of joins steady. -/
theorem relatedOrPlaceholder_steady {rs : Records} {v u : Value} {j' : Join}
    (hv : w.records.Has v) (hu : w.records.Has u)
    (h : relatedOrPlaceholder x v j w = (.ok related, w')) (hsteady : Steady rs w.records u j') :
    Steady rs w'.records u j' := by
  by_cases hsame : u = v ∧ j'.field = j.field
  · obtain ⟨rfl, hfield⟩ := hsame
    rcases relatedOrPlaceholder_eq_ok h with
      ⟨-, rfl, -⟩ | ⟨hnull, -, rfl, ref, stub, rfl, hstub, rfl⟩
    · exact hsteady
    · refine .inr ⟨hsteady.eq_null (hfield ▸ hnull), ?_⟩
      obtain ⟨_, heq, hlt⟩ := (hu.append [stub]).entity
      cases heq
      rw [hfield, Records.get_set_self hlt, if_pos rfl]
      exact isPlaceholder_standIn hstub
  · have hwrites : Writes v (· = j.field) w w' := relatedOrPlaceholder_writes hv rfl h
    exact hwrites.steady hu (fun huv hfield => hsame ⟨huv, hfield⟩) hsteady

/-- If the field was steady, then what is there is what was there at first, or else a stand-in where
nothing was. -/
theorem relatedOrPlaceholder_of_steady {rs : Records} {v : Value}
    (hsteady : Steady rs w.records v j) (h : relatedOrPlaceholder x v j w = (.ok related, w')) :
    (related = rs.get v j.field ∧ w' = w)
      ∨ (rs.get v j.field = .null ∧ w'.records.isPlaceholder related = true) := by
  rcases relatedOrPlaceholder_eq_ok h with ⟨rfl, rfl, -⟩ | ⟨hnull, -, rfl, ref, stub, -, hstub, rfl⟩
  · rcases hsteady with hsame | hstandIn
    · exact .inl ⟨hsame, rfl⟩
    · exact .inr hstandIn
  · exact .inr ⟨hsteady.eq_null hnull, isPlaceholder_standIn hstub⟩

/-! ## With a related entity -/

/-- The related entity has its key, if it can have one : it is inserted unless it is saved. -/
inductive RelatedReady (insertRelated : Entity → Value → Op δ Int) (m : Node) :
    World δ → World δ → Prop
  | inserted {w w' : World δ} {rowId : Int} (unsaved : Unsaved w.records m)
      (run : insertRelated m.entity m.object w = (.ok rowId, w')) :
      RelatedReady insertRelated m w w'
  | present {w : World δ} (saved : ¬Unsaved w.records m) : RelatedReady insertRelated m w w

/-- The key of a join is taken over : into the owner's field for the target column if there is
one, unless the key is absent, or else among the keys of columns without a field. -/
inductive KeyTaken (e : Entity) (j : Join) (key : Value) (keys : List (String × Value))
    (ref : Nat) : World δ → List (String × Value) → World δ → Prop
  | assigned {w : World δ} {col : Column} (column : e.columnNamed? j.target = some col)
      (present : key.isNull = false) :
      KeyTaken e j key keys ref w keys { w with records := w.records.set ref col.field key }
  | absent {w : World δ} {col : Column} (column : e.columnNamed? j.target = some col)
      (absent : key.isNull = true) : KeyTaken e j key keys ref w keys w
  | named {w : World δ} (column : e.columnNamed? j.target = none) :
      KeyTaken e j key keys ref w (setNamed j.target key keys) w

/-- The last part of settling a join, once the related entity is ready. -/
def settleKey (x : Library) (e : Entity) (v : Value) (keys : List (String × Value)) (j : Join)
    (related : Value) : Op δ (List (String × Value)) := do
  let source ← Op.describing (x.catalogue.sourceColumn j)
  let key ← Op.ofResult (stored ((← Op.records).get related source.field))
  match e.columnNamed? j.target with
  | some col =>
    if !key.isNull then Op.setField v col.field key
    return keys
  | none => return setNamed j.target key keys

/-- Settling a join in its three parts. -/
theorem settleJoin_eq (insertRelated : Entity → Value → Op δ Int) (keys : List (String × Value)) :
    settleJoin x insertRelated e v keys j = (do
      let related ← relatedOrPlaceholder x v j
      if related.isNull then return keys
      let relatedEntity ← Op.describing (x.catalogue.describeRelated j)
      let rs ← Op.records
      if !rs.isPlaceholder related && keyUnset rs relatedEntity related then
        let _ ← insertRelated relatedEntity related
      settleKey x e v keys j related) :=
  rfl

theorem settleKey_eq_ok {ref : Nat} {keys keys' : List (String × Value)}
    (h : settleKey x e (.entity ref) keys j related w = (.ok keys', w')) :
    ∃ source key, x.catalogue.sourceColumn j = .ok source
      ∧ stored (w.records.get related source.field) = .ok key
      ∧ KeyTaken e j key keys ref w keys' w' := by
  obtain ⟨source, hsource, h⟩ := Op.describing_bind_eq_ok.mp h
  rw [Op.records_bind] at h
  obtain ⟨key, hkey, h⟩ := Op.ofResult_bind_eq_ok.mp h
  refine ⟨source, key, hsource, hkey, ?_⟩
  cases hcol : e.columnNamed? j.target with
  | some col =>
    rw [hcol] at h
    dsimp only at h
    split at h
    · next hpresent =>
      obtain ⟨_, w₁, hset, h⟩ := Op.bind_eq_ok.mp h
      cases h
      obtain ⟨_, hv, rfl⟩ := Op.setField_eq_ok.mp hset
      cases hv
      exact .assigned hcol (by simpa using hpresent)
    · next habsent =>
      cases h
      exact .absent hcol (by simpa using habsent)
  | none =>
    rw [hcol] at h
    cases h
    exact .named hcol

/-- Taking a key over writes the field of the target column. -/
theorem KeyTaken.writes {key : Value} {keys keys' : List (String × Value)} {ref : Nat}
    (h : KeyTaken e j key keys ref w keys' w') (hwritten : ∀ col ∈ e.columns, written col.field) :
    Writes (.entity ref) written w w' := by
  cases h with
  | assigned column present => exact Writes.set (hwritten _ (List.mem_of_find?_eq_some column)) _ _
  | absent column absent => exact Writes.refl _ _ _
  | named column => exact Writes.refl _ _ _

/-- A join is settled without a failure : either there is no related entity, or there is one, it
is ready, and its key is taken over. -/
theorem settleJoin_eq_ok {insertRelated : Entity → Value → Op δ Int} {ref : Nat}
    {keys keys' : List (String × Value)}
    (h : settleJoin x insertRelated e (.entity ref) keys j w = (.ok keys', w')) :
    ∃ related w₁, relatedOrPlaceholder x (.entity ref) j w = (.ok related, w₁)
      ∧ ((related.isNull = true ∧ keys' = keys ∧ w' = w₁)
        ∨ (related.isNull = false ∧ ∃ relatedEntity w₂ source key,
          x.catalogue.describeRelated j = .ok relatedEntity
          ∧ RelatedReady insertRelated ⟨relatedEntity, related⟩ w₁ w₂
          ∧ x.catalogue.sourceColumn j = .ok source
          ∧ stored (w₂.records.get related source.field) = .ok key
          ∧ KeyTaken e j key keys ref w₂ keys' w')) := by
  rw [settleJoin_eq] at h
  obtain ⟨related, w₁, hrelated, h⟩ := Op.bind_eq_ok.mp h
  refine ⟨related, w₁, hrelated, ?_⟩
  dsimp only at h
  split at h
  · next hnull =>
    cases h
    exact .inl ⟨hnull, rfl, rfl⟩
  · next hnull =>
    obtain ⟨relatedEntity, hentity, h⟩ := Op.describing_bind_eq_ok.mp h
    rw [Op.records_bind] at h
    have hrest : ∃ w₂, RelatedReady insertRelated ⟨relatedEntity, related⟩ w₁ w₂
        ∧ (settleKey x e (.entity ref) keys j related) w₂ = (.ok keys', w') := by
      split at h
      · next hunsaved =>
        obtain ⟨rowId, w₂, hinsert, h⟩ := Op.bind_eq_ok.mp h
        exact ⟨w₂, .inserted (by simpa [Unsaved] using hunsaved) hinsert, h⟩
      · next hsaved =>
        exact ⟨w₁, .present (by simpa [Unsaved] using hsaved), h⟩
    obtain ⟨w₂, hready, h⟩ := hrest
    obtain ⟨source, key, hsource, hkey, htaken⟩ := settleKey_eq_ok h
    exact .inr ⟨by simpa using hnull, relatedEntity, w₂, source, key, hentity, hready, hsource,
      hkey, htaken⟩

end EntityMap
