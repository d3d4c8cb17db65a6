import EntityMap.Proofs.Named
import EntityMap.Proofs.Operation.Hydration
import EntityMap.Proofs.Saving.Insertions
import EntityMap.Proofs.Saving.Stages

/-!
# The row of a saved entity

When a saving comes to insert the entity itself, the joins of the entity have been settled one after
the other (`Settled`) : a join without a related entity delivers nothing, every other one delivers
the key of its related entity. The row has the values that the columns' fields have by then, and the
delivered keys of columns without a field (`OwnRow`).

A saving that succeeds has such a row (`exists_ownRow`), and whichever way a saving ends, its row is
inserted last (`OwnRow.issued`).
-/

namespace EntityMap

variable {δ : Type}

/-! ## Values of a row -/

/-- A key is found under a name if the row has no value of its own there; absent keys do not
count. -/
theorem lookup_addKeys {keys : List (String × Value)} (hkeys : (keys.map (·.1)).Nodup)
    (values : List (String × Value)) (name : String) :
    (addKeys keys values).lookup name =
      (values.lookup name).or ((keys.lookup name).filter fun key => !key.isNull) := by
  induction keys generalizing values with
  | nil => simp [addKeys]
  | cons k keys ih =>
    obtain ⟨hk, hkeys⟩ := List.nodup_cons.mp hkeys
    have hnone : keys.lookup k.1 = none := List.lookup_eq_none_iff.mpr fun other hother => by
      have hne : k.1 ≠ other.1 := fun heq => hk (List.mem_map.mpr ⟨other, hother, heq.symm⟩)
      simpa using hne
    show (addKeys keys (if k.2.isNull then values else setNew k.1 k.2 values)).lookup name = _
    rw [ih hkeys, lookup_cons_name]
    by_cases hnull : k.2.isNull = true
    · by_cases hname : name = k.1 <;> simp [hname, hnone, hnull, Option.filter]
    · by_cases hname : name = k.1 <;> simp [hname, hnone, hnull, lookup_setNew, Option.filter]

/-- The own values of an entity name no column twice. -/
theorem nodup_ownValues {rs : Records} {e : Entity} {v : Value} {own : List (String × Value)}
    (h : ownValues rs e v = .ok own) : (own.map (·.1)).Nodup := by
  refine foldlM_keeps (P := fun own => (own.map (·.1)).Nodup) e.columns
    (fun known col _ known' hknown h => ?_) List.nodup_nil h
  dsimp only at h
  split at h
  · cases h
    exact hknown
  · obtain ⟨new, -, rfl⟩ := Except.map_eq_ok.mp h
    exact nodup_setNamed col.name new hknown

/-- A row names no column twice. -/
theorem nodup_addKeys (keys : List (String × Value)) {values : List (String × Value)}
    (h : (values.map (·.1)).Nodup) : ((addKeys keys values).map (·.1)).Nodup := by
  refine List.foldlRecOn (motive := fun known : List (String × Value) => (known.map (·.1)).Nodup)
    keys _ h fun known hknown k _ => ?_
  split
  · exact hknown
  · exact nodup_setNew k.1 k.2 hknown

/-- A value of a row is one of the entity's own, or a key. -/
theorem mem_addKeys {keys values : List (String × Value)} {p : String × Value}
    (h : p ∈ addKeys keys values) : p ∈ values ∨ p ∈ keys := by
  refine List.foldlRecOn (motive := fun known => ∀ p ∈ known, p ∈ values ∨ p ∈ keys) keys _
    (fun p hp => .inl hp) (fun known hknown k hk p hp => ?_) p h
  split at hp
  · exact hknown p hp
  · unfold setNew at hp
    split at hp
    · exact hknown p hp
    · rcases List.mem_append.mp hp with hp | hp
      · exact hknown p hp
      · exact .inr (List.mem_singleton.mp hp ▸ hk)

/-- A value of the entity's own is that of a field in the column. -/
theorem exists_column_of_mem_ownValues {rs : Records} {e : Entity} {v : Value}
    {own : List (String × Value)} (h : ownValues rs e v = .ok own) {p : String × Value}
    (hp : p ∈ own) : ∃ col ∈ e.columns, col.name = p.1
      ∧ col.isLeftOut (rs.get v col.field) = false ∧ stored (rs.get v col.field) = .ok p.2 := by
  let FromField (p : String × Value) : Prop := ∃ col ∈ e.columns, col.name = p.1
    ∧ col.isLeftOut (rs.get v col.field) = false ∧ stored (rs.get v col.field) = .ok p.2
  have hown : ∀ p ∈ own, FromField p := by
    refine foldlM_keeps (P := fun known => ∀ p ∈ known, FromField p) e.columns
      (fun known col hcol known' hknown h => ?_) (by simp) h
    dsimp only at h
    split at h
    · cases h
      exact hknown
    · next hkept =>
      obtain ⟨new, hnew, rfl⟩ := Except.map_eq_ok.mp h
      intro p hp
      rcases mem_setNamed hp with rfl | hp
      · exact ⟨col, hcol, rfl, by simpa using hkept, hnew⟩
      · exact hknown p hp
  exact hown p hp

theorem exists_column_of_lookup_ownValues {rs : Records} {e : Entity} {v b : Value} {name : String}
    {own : List (String × Value)} (h : ownValues rs e v = .ok own)
    (hb : own.lookup name = some b) :
    ∃ col ∈ e.columns, col.name = name ∧ col.isLeftOut (rs.get v col.field) = false
      ∧ stored (rs.get v col.field) = .ok b :=
  exists_column_of_mem_ownValues h (mem_of_lookup hb)

/-- A field that is not left out gives its column a value. -/
theorem lookup_ownValues_isSome {rs : Records} {e : Entity} {v : Value} {col : Column}
    {own : List (String × Value)} (h : ownValues rs e v = .ok own) (hcol : col ∈ e.columns)
    (hkept : col.isLeftOut (rs.get v col.field) = false) : (own.lookup col.name).isSome := by
  -- the column is still to come, or there is a value under its name, which the next ones leave
  have hdone := foldlM_rest
    (I := fun rest known => col ∈ rest ∨ (known.lookup col.name).isSome) ?_ (.inl hcol) h
  · exact hdone.resolve_left List.not_mem_nil
  intro other rest known known' hknown hround
  dsimp only at hround
  split at hround
  · next hleft =>
    cases hround
    refine hknown.imp_left fun hmem => (List.mem_cons.mp hmem).resolve_left ?_
    rintro rfl
    simp [hkept] at hleft
  · obtain ⟨new, -, rfl⟩ := Except.map_eq_ok.mp hround
    rw [lookup_setNamed]
    by_cases hname : col.name = other.name
    · simp [hname]
    · rw [if_neg hname]
      refine hknown.imp_left fun hmem => (List.mem_cons.mp hmem).resolve_left ?_
      rintro rfl
      exact hname rfl

/-! ## Deliveries -/

/-- A join delivers a key : its related entity is there or made, it is ready, and the key is taken
over. -/
structure Delivers (x : Library) (insertRelated : Entity → Value → Op δ Int) (e : Entity)
    (ref : Nat) (keys : List (String × Value)) (j : Join) (w : World δ) (key : Value)
    (keys' : List (String × Value)) (w' : World δ) : Prop where
  run : settleJoin x insertRelated e (.entity ref) keys j w = (.ok keys', w')
  parts : ∃ related w₁ relatedEntity w₂ source,
    relatedOrPlaceholder x (.entity ref) j w = (.ok related, w₁) ∧ related.isNull = false
      ∧ x.catalogue.describeRelated j = .ok relatedEntity
      ∧ RelatedReady insertRelated ⟨relatedEntity, related⟩ w₁ w₂
      ∧ x.catalogue.sourceColumn j = .ok source
      ∧ stored (w₂.records.get related source.field) = .ok key
      ∧ KeyTaken e j key keys ref w₂ keys' w'

/-- Joins are settled one after the other, and deliver keys. -/
inductive Settled (x : Library) (insertRelated : Entity → Value → Op δ Int) (e : Entity)
    (ref : Nat) : List Join → List (String × Value) → World δ → List (Join × Value) →
      List (String × Value) → World δ → Prop
  | nil {keys : List (String × Value)} {w : World δ} :
      Settled x insertRelated e ref [] keys w [] keys w
  | absent {j : Join} {js : List Join} {keys keys' : List (String × Value)} {w w' : World δ}
      {deliveries : List (Join × Value)}
      (nothing : w.records.get (.entity ref) j.field = .null) (noDefault : j.hasDefault = false)
      (rest : Settled x insertRelated e ref js keys w deliveries keys' w') :
      Settled x insertRelated e ref (j :: js) keys w deliveries keys' w'
  | delivered {j : Join} {js : List Join} {keys keys₁ keys' : List (String × Value)}
      {w w₁ w' : World δ} {key : Value} {deliveries : List (Join × Value)}
      (first : Delivers x insertRelated e ref keys j w key keys₁ w₁)
      (rest : Settled x insertRelated e ref js keys₁ w₁ deliveries keys' w') :
      Settled x insertRelated e ref (j :: js) keys w ((j, key) :: deliveries) keys' w'

/-- Joins that are settled without a failure deliver some keys. -/
theorem exists_settled {x : Library} {insertRelated : Entity → Value → Op δ Int} {e : Entity}
    {ref : Nat} {js : List Join} {keys keys' : List (String × Value)} {w w' : World δ}
    (h : js.foldlM (settleJoin x insertRelated e (.entity ref)) keys w = (.ok keys', w')) :
    ∃ deliveries, Settled x insertRelated e ref js keys w deliveries keys' w' := by
  induction js generalizing keys w with
  | nil =>
    cases h
    exact ⟨[], .nil⟩
  | cons j js ih =>
    rw [List.foldlM_cons] at h
    obtain ⟨keys₁, w₁, hfirst, h⟩ := Op.bind_eq_ok.mp h
    obtain ⟨deliveries, hrest⟩ := ih h
    obtain ⟨related, w₂, hrelated, ⟨hnull, rfl, rfl⟩ | ⟨hpresent, relatedEntity, w₃, source, key,
      hentity, hready, hsource, hkey, htaken⟩⟩ := settleJoin_eq_ok hfirst
    · rcases relatedOrPlaceholder_eq_ok hrelated with ⟨rfl, rfl, hdefault⟩ | ⟨-, -, rfl, -⟩
      · exact ⟨deliveries, .absent (Value.isNull_iff.mp hnull) (hdefault hnull) hrest⟩
      · exact absurd hnull Bool.false_ne_true
    · exact ⟨(j, key) :: deliveries, .delivered ⟨hfirst, related, w₂, relatedEntity, w₃, source,
        hrelated, hpresent, hentity, hready, hsource, hkey, htaken⟩ hrest⟩

/-! ## The row -/

variable {x : Library} {insertRelated : Entity → Value → Op δ Int} {e : Entity} {ref : Nat}
  {js : List Join} {j : Join} {key : Value} {keys keys' : List (String × Value)} {w w' : World δ}
  {deliveries : List (Join × Value)}

theorem Delivers.taken (h : Delivers x insertRelated e ref keys j w key keys' w') :
    ∃ w₁, KeyTaken e j key keys ref w₁ keys' w' := by
  obtain ⟨-, -, -, w₁, -, -, -, -, -, -, -, htaken⟩ := h.parts
  exact ⟨w₁, htaken⟩

/-- Taking a key over changes what is kept for the target column only, and only if that has no
field. -/
theorem KeyTaken.lookup_keys (h : KeyTaken e j key keys ref w keys' w') (name : String) :
    keys'.lookup name =
      if e.columnNamed? name = none ∧ j.target = name then some key else keys.lookup name := by
  cases h with
  | assigned column _ =>
    rw [if_neg]
    rintro ⟨hnone, rfl⟩
    simp [column] at hnone
  | absent column _ =>
    rw [if_neg]
    rintro ⟨hnone, rfl⟩
    simp [column] at hnone
  | named column =>
    rw [lookup_setNamed]
    by_cases hname : name = j.target
    · simp [hname, column]
    · have hname' : j.target ≠ name := fun h => hname h.symm
      simp [hname, hname']

theorem KeyTaken.nodup_keys (h : KeyTaken e j key keys ref w keys' w')
    (hkeys : (keys.map (·.1)).Nodup) : (keys'.map (·.1)).Nodup := by
  cases h with
  | assigned _ _ => exact hkeys
  | absent _ _ => exact hkeys
  | named _ => exact nodup_setNamed j.target key hkeys

/-- The key that was delivered last to a column. -/
def lastKey (deliveries : List (Join × Value)) (name : String) : Option Value :=
  (deliveries.reverse.find? (·.1.target == name)).map (·.2)

theorem lastKey_cons (j : Join) (key : Value) (deliveries : List (Join × Value)) (name : String) :
    lastKey ((j, key) :: deliveries) name =
      (lastKey deliveries name).or (if j.target = name then some key else none) := by
  rw [lastKey, List.reverse_cons, List.find?_append, Option.map_or, ← lastKey]
  by_cases h : j.target = name <;> simp [h]

theorem exists_of_lastKey {deliveries : List (Join × Value)} {name : String} {key : Value}
    (h : lastKey deliveries name = some key) : ∃ j, (j, key) ∈ deliveries ∧ j.target = name := by
  obtain ⟨⟨j, _⟩, hfound, rfl⟩ := Option.map_eq_some_iff.mp h
  exact ⟨j, List.mem_reverse.mp (List.mem_of_find?_eq_some hfound),
    by simpa using List.find?_some hfound⟩

/-- For a column that has no field the key is kept that was delivered last, for others none. -/
theorem Settled.lookup_keys (h : Settled x insertRelated e ref js keys w deliveries keys' w')
    (name : String) : keys'.lookup name =
      if e.columnNamed? name = none then (lastKey deliveries name).or (keys.lookup name)
      else keys.lookup name := by
  induction h with
  | nil => simp [lastKey]
  | absent _ _ _ ih => exact ih
  | delivered first _ ih =>
    obtain ⟨_, htaken⟩ := first.taken
    rw [ih, lastKey_cons, htaken.lookup_keys name, Option.or_assoc]
    by_cases hfield : e.columnNamed? name = none
    · simp only [hfield, true_and, if_true]
      split <;> simp
    · simp [hfield]

theorem Settled.nodup_keys (h : Settled x insertRelated e ref js keys w deliveries keys' w')
    (hkeys : (keys.map (·.1)).Nodup) : (keys'.map (·.1)).Nodup := by
  induction h with
  | nil => exact hkeys
  | absent _ _ _ ih => exact ih hkeys
  | delivered first _ ih =>
    obtain ⟨_, htaken⟩ := first.taken
    exact ih (htaken.nodup_keys hkeys)

/-- What does nothing to the database adds no event. -/
theorem Op.events_bind {α β : Type} {m : Op δ α} {f : α → Op δ β}
    (hf : ∀ a w, (f a w).2.events = w.events) (w : World δ) :
    ((m >>= f) w).2.events = (m w).2.events := by
  rw [Op.bind_apply]
  rcases m w with ⟨_ | a, w₁⟩
  · rfl
  · exact hf a w₁

theorem Op.events_setField (v : Value) (field : String) (new : Value) (w : World δ) :
    (Op.setField v field new w).2.events = w.events := by
  cases v <;> rfl

variable [Database δ]

/-- On a connection for writing an insertion is run, whether it is accepted or not. -/
theorem Connection.events_insert (table : String) (values : List (String × Value)) (w : World δ) :
    ((Connection.insert ⟨true⟩ table values : Op δ Int) w).2.events
      = w.events ++ [.ran (.insert table (values.map (·.1))) (values.map (·.2))] := by
  show ((runStatement (.insert table (values.map (·.1))) (values.map (·.2)) >>= fun reply =>
    pure reply.rowId : Op δ Int) w).2.events = _
  rw [Op.events_bind fun _ _ => rfl]
  rfl

/-- The row of the entity itself that a saving comes to insert. -/
structure OwnRow (x : Library) (validating : Bool) (e : Entity) (v : Value) (w : World δ) where
  ref : Nat
  object : v = .entity ref
  /-- The world in which the connection has been opened. -/
  opened : World δ
  /-- The keys that the joins have delivered, in this order. -/
  deliveries : List (Join × Value)
  keys : List (String × Value)
  before : World δ
  own : List (String × Value)
  savable : checkSavable x w.records e v = .ok ()
  opens : ∃ w₁, Validated x validating e v w w₁ ∧ ensureOpen x.management w₁ = (.ok (), opened)
  run : e.joins.foldlM (settleJoin x (insertEntity x ⟨true⟩ (w.records.length + 1)) e v) [] opened
    = (.ok keys, before)
  settled : Settled x (insertEntity x ⟨true⟩ (w.records.length + 1)) e ref e.joins [] opened
    deliveries keys before
  own_eq : ownValues before.records e v = .ok own

namespace OwnRow

variable {x : Library} {validating : Bool} {e : Entity} {v : Value} {w w' : World δ}
  (row : OwnRow x validating e v w)

/-- The values of the row. -/
def values : List (String × Value) := addKeys row.keys row.own

/-- The statement as it is run. -/
def event : Event :=
  .ran (.insert e.table (row.values.map (·.1))) (row.values.map (·.2))

/-- When the connection has been opened, the entities are still as they were. -/
theorem records_opened : row.opened.records = w.records := by
  obtain ⟨w₁, hvalid, hopen⟩ := row.opens
  have hreads : Reads (fun _ => True) w w₁ := hvalid.reads readInvariant_true
  exact (silent_of_ensureOpen readInvariant_true hopen).records.trans hreads.records

/-- Under a name the row has a value of the entity's own, or else, if no field lies in the column,
the key that was delivered last unless it is absent. -/
theorem lookup_values (name : String) : row.values.lookup name =
    (row.own.lookup name).or (if e.columnNamed? name = none then
      (lastKey row.deliveries name).filter fun key => !key.isNull else none) := by
  have hnodup : (row.keys.map (·.1)).Nodup := row.settled.nodup_keys List.nodup_nil
  rw [values, lookup_addKeys hnodup, row.settled.lookup_keys]
  split <;> simp

/-- The statement of the row is the last that inserting the entity runs. -/
theorem events_insertEntity :
    (insertEntity x ⟨true⟩ (relationDepth w.records) e v row.opened).2.events
      = row.before.events ++ [row.event] := by
  have hown : (Op.ofResult (ownValues row.before.records e v) : Op δ _) row.before
      = (.ok row.own, row.before) := by
    rw [row.own_eq]
    rfl
  rw [relationDepth, insertEntity, Op.bind_apply, row.run]
  dsimp only
  rw [Op.records_bind, Op.bind_apply, hown]
  dsimp only
  rw [Op.events_bind fun rowId w => ?_]
  · exact Connection.events_insert e.table row.values row.before
  · cases e.primaryKey with
    | none => rfl
    | some key =>
      dsimp only
      split
      · rw [Op.events_bind fun _ _ => rfl]
        exact Op.events_setField v key.field (.int rowId) w
      · rfl

/-- Writing inserts the row, whichever way it ends. -/
theorem writeAll_events {w₁ : World δ} (hopen : ensureOpen x.management w₁ = (.ok (), row.opened)) :
    row.before.events ++ [row.event]
      <+: (writeAll x (relationDepth w.records) e v w₁).2.events := by
  rw [← row.events_insertEntity]
  exact withConnection_extends hopen

/-- A saving that comes to the row inserts it, whichever way it ends. -/
theorem issued {r : Except Failure Value} (h : save x validating e v w = (r, w')) :
    row.before.events ++ [row.event] <+: w'.events := by
  obtain ⟨w₁, hvalid, hopen⟩ := row.opens
  have hsame : ∀ w₂, Validated x validating e v w w₂ → w₂ = w₁ := by
    intro w₂ h₂
    unfold Validated at hvalid h₂
    split at hvalid
    · next hvalidating =>
      rw [if_pos hvalidating, hvalid] at h₂
      exact (Op.end_eq_end.mp h₂).2.symm
    · next hvalidating =>
      rw [if_neg hvalidating] at h₂
      exact h₂.trans hvalid.symm
  have hwritten := row.writeAll_events hopen
  rcases r with f | u
  · rcases save_eq_error h with ⟨hcheck, -⟩ | ⟨-, hvalidating, hfails⟩ | ⟨-, w₂, h₂, hwrite⟩
    · rw [row.savable] at hcheck
      cases hcheck
    · rw [Validated, if_pos hvalidating, hfails] at hvalid
      cases (Op.end_eq_end.mp hvalid).1
    · rw [hsame w₂ h₂] at hwrite
      rwa [hwrite] at hwritten
  · obtain ⟨-, -, w₂, rowId, h₂, hwrite⟩ := save_eq_ok h
    rw [hsame w₂ h₂] at hwrite
    rwa [hwrite] at hwritten

end OwnRow

/-- A saving that succeeds has inserted the row last, and has written nothing since but the number
of the row to the entity, if its key is counted up. -/
theorem exists_insertion {x : Library} {validating : Bool} {e : Entity} {v r : Value}
    {w w' : World δ} (h : save x validating e v w = (.ok r, w')) :
    ∃ (row : OwnRow x validating e v w) (i : Insertion δ), i.node = ⟨e, v⟩
      ∧ i.before = row.before ∧ i.values = row.values
      ∧ (∃ closing, w'.events = i.before.events ++ [i.event] ++ closing
        ∧ ∀ ev ∈ closing, ev.statement? = none)
      ∧ i.Leaves w'.records := by
  obtain ⟨-, hcheck, w₁, rowId, hvalid, hwrite⟩ := save_eq_ok h
  obtain ⟨ref, rfl, -⟩ := (has_of_checkSavable hcheck).entity
  obtain ⟨opened, w₂, hopen, hbody, -, rfl⟩ := withConnection_eq_ok.mp hwrite
  dsimp only at hbody
  rw [relationDepth, insertEntity] at hbody
  obtain ⟨keys, before, hrun, hbody⟩ := Op.bind_eq_ok.mp hbody
  rw [Op.records_bind] at hbody
  obtain ⟨own, hown, hbody⟩ := Op.ofResult_bind_eq_ok.mp hbody
  obtain ⟨id, w₃, hinsert, hbody⟩ := Op.bind_eq_ok.mp hbody
  obtain ⟨reply, d, hreply, rfl, rfl⟩ := Connection.insert_eq_ok hinsert
  obtain ⟨deliveries, hsettled⟩ := exists_settled hrun
  let row : OwnRow x validating e (.entity ref) w :=
    ⟨ref, rfl, opened, deliveries, keys, before, own, hcheck, ⟨w₁, hvalid, hopen⟩, hrun, hsettled,
      hown⟩
  let i : Insertion δ := ⟨⟨e, .entity ref⟩, before, keys, own, reply, hown, by rw [hreply]⟩
  have hafter : i.after = { before.after i.event with database := d } :=
    congrArg (fun d => { before.after i.event with database := d }) (congrArg Prod.snd hreply)
  obtain ⟨rs, hleaves, rfl⟩ := i.leaves_of_number (hafter ▸ hbody)
  have hclose := commit_leave_silent readInvariant_true x.management { i.after with records := rs }
  obtain ⟨closing, hclosing, hquiet⟩ := hclose.events
  refine ⟨row, i, rfl, rfl, rfl, ⟨closing, hclosing, hquiet⟩, ?_⟩
  rw [hclose.records]
  exact hleaves

/-- A saving that succeeds has come to the row of the entity. -/
theorem exists_ownRow {x : Library} {validating : Bool} {e : Entity} {v r : Value} {w w' : World δ}
    (h : save x validating e v w = (.ok r, w')) : Nonempty (OwnRow x validating e v w) := by
  obtain ⟨row, -⟩ := exists_insertion h
  exact ⟨row⟩

end EntityMap
