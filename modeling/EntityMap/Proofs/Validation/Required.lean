import EntityMap.Proofs.Saving.Cascade
import EntityMap.Proofs.Saving.Induction
import EntityMap.Proofs.Saving.OwnRow
import EntityMap.Proofs.Schema.Physical

/-!
# Columns that must not be null

An entity that is valid has a value for every column that needs one, or a join that supplies it
(`validate_supplied`). Saving takes no value away (`grows_rules`), and a join that supplies a column
delivers a key (`Settled.exists_mem`). So the row has a value for each column that the table
declares `NOT NULL` without a default, unless the key that is delivered to it is itself absent
(`save_binds_required`).
-/

namespace EntityMap

variable {δ : Type} {x : Library} {e : Entity} {v : Value} {w₀ w w' : World δ}

/-! ## What saving takes away -/

/-- Every entity stays, and no field that has a value is left without one. -/
structure Grows (w w' : World δ) : Prop where
  has : ∀ u, w.records.Has u → w'.records.Has u
  fields : ∀ u field, (w.records.get u field).isNull = false →
    (w'.records.get u field).isNull = false

theorem Grows.refl (w : World δ) : Grows w w := ⟨fun _ h => h, fun _ _ h => h⟩

theorem Grows.trans {w₁ w₂ w₃ : World δ} (h : Grows w₁ w₂) (h' : Grows w₂ w₃) : Grows w₁ w₃ :=
  ⟨fun u hu => h'.has u (h.has u hu), fun u field hu => h'.fields u field (h.fields u field hu)⟩

theorem Grows.sameRecords (h : Grows w₀ w) (hrecords : w'.records = w.records) : Grows w₀ w' :=
  ⟨hrecords ▸ h.has, hrecords ▸ h.fields⟩

/-- A field with a value belongs to an entity. -/
theorem Records.has_of_get {rs : Records} {u : Value} {field : String}
    (h : (rs.get u field).isNull = false) : rs.Has u := by
  cases hr : rs.record? u with
  | none => simp [get, hr, Value.isNull] at h
  | some r => simp [Has, hr]

theorem Grows.addRecord (h : Grows w₀ w) (r : Record) :
    Grows w₀ { w with records := w.records ++ [r] } where
  has u hu := (h.has u hu).append [r]
  fields u field hu := by
    have hget := h.fields u field hu
    have hsame := Records.record?_append (Records.has_of_get hget) [r]
    rw [Records.get_congr hsame]
    exact hget

theorem Grows.setField (h : Grows w₀ w) {new : Value} (hnew : new.isNull = false) (ref : Nat)
    (field : String) : Grows w₀ { w with records := w.records.set ref field new } where
  has u hu := Records.has_set.mpr (h.has u hu)
  fields u other hu := by
    have hget := h.fields u other hu
    by_cases hself : u = .entity ref
    · obtain ⟨_, heq, hlt⟩ := (Records.has_of_get hget).entity
      cases hself.symm.trans heq
      rw [hself, Records.get_set_self hlt]
      split
      · exact hnew
      · exact hself ▸ hget
    · rw [Records.get_congr (Records.record?_set_of_ne hself field new)]
      exact hget

variable [Database δ]

/-- Every change that inserting makes gives a value. -/
theorem grows_rules (x : Library) (w₀ : World δ) : InsertRules x (fun _ => True) (Grows w₀) where
  newRecord _ r h := h.addRecord r
  standIn _ _ j r ref h _ _ _ _ _ _ := (h.addRecord r).setField rfl ref j.field
  foreignKey _ _ _ col ref _ h _ _ _ _ hkey _ := h.setField hkey ref col.field
  statement _ _ _ _ _ h _ _ := h.sameRecords rfl
  number _ key ref _ h _ _ _ _ := h.setField rfl ref key.field
  related _ _ _ _ _ _ _ _ _ _ _ := trivial

theorem insertEntity_grows (k : Connection) (fuel : Nat) (n : Node) (w₀ : World δ) :
    (insertEntity x k fuel n.entity n.object).Keeps (Grows w₀) :=
  (grows_rules x w₀).insertEntity_keeps k fuel trivial

/-! ## What validating asks for -/

/-- The join has a related entity, or makes one when the entity is saved. -/
def Join.Supplies (rs : Records) (v : Value) (j : Join) : Prop :=
  (rs.get v j.field).isNull = false ∨ j.hasDefault = true

omit [Database δ] in
theorem Entity.filledByJoin_iff {rs : Records} {column : String} :
    e.filledByJoin rs v column = true ↔ ∃ j ∈ e.joins, j.target = column ∧ j.Supplies rs v := by
  simp [Entity.filledByJoin, Join.Supplies]

/-- Every column and every join that needs a value has one, or it is supplied. -/
structure Supplied (rs : Records) (e : Entity) (v : Value) : Prop where
  columns : ∀ col ∈ e.columns, col.autoIncrement = false → col.nullable = false →
    col.hasDefault = false → (rs.get v col.field).isNull = false
      ∨ ∃ j ∈ e.joins, j.target = col.name ∧ j.Supplies rs v
  joins : ∀ j ∈ e.joins, j.nullable = false → j.Supplies rs v

omit [Database δ] in
/-- A column that the table requires has a value of the entity's own, or a join that supplies it. -/
theorem Supplied.own_or_join {rs : Records} {c : Catalogue} {t : TableDefinition}
    {d : ColumnDefinition} (h : Supplied rs e v) (htable : c.defineTable e = .ok t)
    (hd : d ∈ t.columns) (hrequired : d.notNull = true) (hdefault : d.default = none)
    (hcounted : ∀ col ∈ e.columns, col.name = d.name → col.autoIncrement = false) :
    (∃ col ∈ e.columns, col.name = d.name ∧ (rs.get v col.field).isNull = false)
      ∨ ∃ j ∈ e.joins, j.target = d.name ∧ j.Supplies rs v := by
  cases definedBy_of_mem_columns htable hd with
  | @field col last notNull _ default =>
    obtain ⟨hcol, hname⟩ := Entity.mem_of_last last
    have hneeds := h.columns col hcol (hcounted col hcol hname)
      (by simpa [hrequired] using notNull) (default hdefault)
    rw [hname] at hneeds
    exact hneeds.imp_left fun hpresent => ⟨col, hcol, hname, hpresent⟩
  | @join j _ first notNull _ _ =>
    obtain ⟨hj, htarget⟩ := Entity.mem_of_first first
    exact .inr ⟨j, hj, htarget, h.joins j hj (by simpa [hrequired] using notNull)⟩

/-- A column without a violation has what it needs. -/
theorem columnViolation_eq_none {col : Column}
    (h : columnViolation x e v col w = (.ok none, w')) (hcounted : col.autoIncrement = false)
    (hrequired : col.nullable = false) (hdefault : col.hasDefault = false) :
    (w.records.get v col.field).isNull = false
      ∨ ∃ j ∈ e.joins, j.target = col.name ∧ j.Supplies w.records v := by
  rw [columnViolation, Op.records_bind] at h
  rw [if_neg (by simp [hcounted])] at h
  split at h
  · by_cases hfilled : e.filledByJoin w.records v col.name = true
    · exact .inr (Entity.filledByJoin_iff.mp hfilled)
    · simp [hrequired, hdefault, hfilled] at h
  · next hnull => exact .inl (by simpa using hnull)

/-- A join without a violation has what it needs. -/
theorem joinViolation_eq_none {j : Join} (h : joinViolation x e v j w = (.ok none, w'))
    (hrequired : j.nullable = false) : j.Supplies w.records v := by
  rw [joinViolation, Op.records_bind] at h
  split at h
  · by_cases hdefault : j.hasDefault = true
    · exact .inr hdefault
    · simp [hrequired, hdefault] at h
  · next hnull => exact .inl (by simpa using hnull)

omit [Database δ] in
/-- In a loop of steps that only read, each finds the records as they were at first. -/
theorem forall₂_of_mapM {α β : Type} {I : δ → Prop} {f : α → Op δ β} {as : List α} {bs : List β}
    (hf : ∀ a, (f a).Keeps (Reads I w₀)) (hw : Reads I w₀ w) (h : as.mapM f w = (.ok bs, w')) :
    Reads I w₀ w' ∧ List.Forall₂ (fun a b => ∃ w₁ w₂, w₁.records = w₀.records
      ∧ f a w₁ = (.ok b, w₂)) as bs := by
  refine (Op.Ends.mapM (P := Reads I w₀) (E := fun _ _ => True) (fun a _ w₁ hw₁ => ?_) hw).1 _ _ h
  refine ⟨fun b w₂ hb => ⟨(hf a w₁ hw₁).1 b w₂ hb, w₁, w₂, hw₁.records, hb⟩, fun _ _ _ => trivial⟩

/-- Where nothing is listed, nothing was found. -/
theorem none_of_filterMap {α β : Type} {S : α → Option β → Prop} {as : List α}
    {found : List (Option β)} (h : List.Forall₂ S as found) (hempty : found.filterMap id = []) :
    ∀ a ∈ as, S a none := by
  induction h with
  | nil => simp
  | @cons a r as found hr _ ih =>
    cases r with
    | none => exact List.forall_mem_cons.mpr ⟨hr, ih hempty⟩
    | some b => simp at hempty

/-- A valid entity has what it needs, whatever the database answers. -/
theorem validate_supplied (h : validate x e v w = (.ok (), w')) : Supplied w.records e v := by
  obtain ⟨found, w₁, hfound, h⟩ := Op.bind_eq_ok.mp h
  split at h
  · next hempty =>
    rw [List.isEmpty_iff] at hempty
    subst hempty
    unfold violations at hfound
    split at hfound
    · simp at hfound
    obtain ⟨opened, w₂, hopen, hbody, -⟩ := withConnection_eq_ok.mp hfound
    obtain ⟨ofColumns, w₃, hcolumns, hbody⟩ := Op.bind_eq_ok.mp hbody
    obtain ⟨ofJoins, w₄, hjoins, hbody⟩ := Op.bind_eq_ok.mp hbody
    have hnothing : ofColumns.filterMap id ++ ofJoins.filterMap id = [] := by
      simpa using congrArg Prod.fst hbody
    rw [List.append_eq_nil_iff] at hnothing
    have hopened := (silent_of_ensureOpen readInvariant_true hopen).reads
    obtain ⟨hw₃, hcolumn⟩ := forall₂_of_mapM
      (fun col => columnViolation_reads readInvariant_true col w) hopened hcolumns
    obtain ⟨-, hjoin⟩ := forall₂_of_mapM
      (fun j => joinViolation_reads readInvariant_true j w) hw₃ hjoins
    refine ⟨fun col hcol hcounted hrequired hdefault => ?_, fun j hj hrequired => ?_⟩
    · obtain ⟨w₅, _, hrecords, hnone⟩ := none_of_filterMap hcolumn hnothing.1 col hcol
      rw [← hrecords]
      exact columnViolation_eq_none hnone hcounted hrequired hdefault
    · obtain ⟨w₅, _, hrecords, hnone⟩ := none_of_filterMap hjoin hnothing.2 j hj
      rw [← hrecords]
      exact joinViolation_eq_none hnone hrequired
  · simp at h

/-! ## What the joins deliver -/

section

variable {k : Connection} {fuel ref : Nat} {js : List Join} {j : Join} {key : Value}
  {keys keys' : List (String × Value)} {deliveries : List (Join × Value)}

/-- A delivery takes no value away. -/
theorem Delivers.grows (h : Delivers x (insertEntity x k fuel) e ref keys j w key keys' w')
    (hj : j ∈ e.joins) (hkeys : NamesColumns e keys) : NamesColumns e keys' ∧ Grows w w' :=
  ((grows_rules x w).settleJoin (n := ⟨e, .entity ref⟩) trivial hj
    (fun m _ => insertEntity_grows k fuel m w) hkeys (Grows.refl w)).1 _ _ h.run

theorem Settled.grows (h : Settled x (insertEntity x k fuel) e ref js keys w deliveries keys' w')
    (hjs : ∀ j ∈ js, j ∈ e.joins) (hkeys : NamesColumns e keys) : Grows w w' := by
  induction h with
  | nil => exact Grows.refl _
  | absent _ _ _ ih => exact ih (fun j hj => hjs j (List.mem_cons_of_mem _ hj)) hkeys
  | delivered first _ ih =>
    obtain ⟨hkeys₁, hgrows⟩ := first.grows (hjs _ List.mem_cons_self) hkeys
    exact hgrows.trans (ih (fun j hj => hjs j (List.mem_cons_of_mem _ hj)) hkeys₁)

/-- A join that supplies its column delivers a key. -/
theorem Settled.exists_mem
    (h : Settled x (insertEntity x k fuel) e ref js keys w deliveries keys' w')
    (hjs : ∀ j ∈ js, j ∈ e.joins) (hkeys : NamesColumns e keys) (hj : j ∈ js)
    (hsupplies : j.Supplies w.records (.entity ref)) : ∃ key, (j, key) ∈ deliveries := by
  induction h with
  | nil => exact absurd hj List.not_mem_nil
  | absent nothing noDefault _ ih =>
    rcases List.mem_cons.mp hj with rfl | hj
    · simp [Join.Supplies, nothing, noDefault, Value.isNull] at hsupplies
    · exact ih (fun j hj => hjs j (List.mem_cons_of_mem _ hj)) hkeys hj hsupplies
  | delivered first _ ih =>
    rcases List.mem_cons.mp hj with rfl | hj
    · exact ⟨_, List.mem_cons_self⟩
    · obtain ⟨hkeys₁, hgrows⟩ := first.grows (hjs _ List.mem_cons_self) hkeys
      obtain ⟨key, hkey⟩ := ih (fun j hj => hjs j (List.mem_cons_of_mem _ hj)) hkeys₁ hj
        (hsupplies.imp_left (hgrows.fields _ _))
      exact ⟨key, List.mem_cons_of_mem _ hkey⟩

/-- A key that is delivered to a column with a field is in this field in the end. -/
theorem Settled.field_of_mem
    (h : Settled x (insertEntity x k fuel) e ref js keys w deliveries keys' w')
    (hjs : ∀ j ∈ js, j ∈ e.joins) (hkeys : NamesColumns e keys) (hhas : w.records.Has (.entity ref))
    {col : Column} (hcol : e.columnNamed? j.target = some col) (hkey : (j, key) ∈ deliveries)
    (hpresent : key.isNull = false) : (w'.records.get (.entity ref) col.field).isNull = false := by
  induction h with
  | nil => exact absurd hkey List.not_mem_nil
  | absent _ _ _ ih => exact ih (fun j hj => hjs j (List.mem_cons_of_mem _ hj)) hkeys hhas hkey
  | delivered first rest ih =>
    obtain ⟨hkeys₁, hgrows⟩ := first.grows (hjs _ List.mem_cons_self) hkeys
    have hhas₁ := hgrows.has _ hhas
    have hjs₁ := fun j hj => hjs j (List.mem_cons_of_mem _ hj)
    rcases List.mem_cons.mp hkey with hfirst | hkey
    · cases hfirst
      refine (rest.grows hjs₁ hkeys₁).fields _ _ ?_
      obtain ⟨w₂, htaken⟩ := first.taken
      cases htaken with
      | assigned column _ =>
        cases hcol.symm.trans column
        obtain ⟨_, heq, hlt⟩ := (Records.has_set.mp hhas₁).entity
        cases heq
        rw [Records.get_set_self hlt, if_pos rfl]
        exact hpresent
      | absent _ absent => exact absurd (hpresent.symm.trans absent) Bool.false_ne_true
      | named column => simp [hcol] at column
    · exact ih hjs₁ hkeys₁ hhas₁ hkey

end

/-! ## The row -/

section

variable {validating : Bool} (row : OwnRow x validating e v w)
include row

/-- A field that has a value gives its column one. -/
theorem OwnRow.exists_value {col : Column} (hcol : col ∈ e.columns)
    (hcounted : col.autoIncrement = false)
    (hpresent : (row.before.records.get v col.field).isNull = false) :
    ∃ b, row.values.lookup col.name = some b ∧ b.isNull = false := by
  have hkept : col.isLeftOut (row.before.records.get v col.field) = false := by
    simp [Column.isLeftOut, hpresent, hcounted]
  obtain ⟨b, hb⟩ := Option.isSome_iff_exists.mp (lookup_ownValues_isSome row.own_eq hcol hkept)
  refine ⟨b, by rw [row.lookup_values, hb, Option.some_or], ?_⟩
  obtain ⟨col', -, -, hkept', hstored⟩ := exists_column_of_lookup_ownValues row.own_eq hb
  rw [isNull_of_stored hstored]
  exact (Bool.or_eq_false_iff.mp hkept').1

/-- A field that had a value when the saving began gives its column one. -/
theorem OwnRow.exists_value_of_own {col : Column} (hcol : col ∈ e.columns)
    (hcounted : col.autoIncrement = false)
    (hpresent : (w.records.get v col.field).isNull = false) :
    ∃ b, row.values.lookup col.name = some b ∧ b.isNull = false := by
  have hgrows := row.settled.grows (fun _ h => h) (namesColumns_nil e)
  rw [← row.records_opened] at hpresent
  exact row.exists_value hcol hcounted (hgrows.fields _ _ hpresent)

theorem OwnRow.exists_delivery {j : Join} (hj : j ∈ e.joins) (hsupplies : j.Supplies w.records v) :
    ∃ key, lastKey row.deliveries j.target = some key := by
  have hopened : j.Supplies row.opened.records (.entity row.ref) := by
    rw [row.records_opened, ← row.object]
    exact hsupplies
  obtain ⟨key, hkey⟩ := row.settled.exists_mem (fun _ h => h) (namesColumns_nil e) hj hopened
  refine Option.isSome_iff_exists.mp ?_
  rw [lastKey, Option.isSome_map, List.find?_isSome]
  exact ⟨(j, key), List.mem_reverse.mpr hkey, beq_self_eq_true _⟩

/-- A key that is not absent gives a column with a field a value. -/
theorem OwnRow.exists_value_of_mem {col : Column} {j : Join} {key : Value}
    (hcol : e.columnNamed? j.target = some col) (hcounted : col.autoIncrement = false)
    (hkey : (j, key) ∈ row.deliveries) (hpresent : key.isNull = false) :
    ∃ b, row.values.lookup j.target = some b ∧ b.isNull = false := by
  obtain ⟨hmem, hname⟩ := Entity.mem_of_columnNamed? hcol
  have hhas : row.opened.records.Has (.entity row.ref) := by
    rw [row.records_opened, ← row.object]
    exact has_of_checkSavable row.savable
  have hfield := row.settled.field_of_mem (fun _ h => h) (namesColumns_nil e) hhas hcol hkey
    hpresent
  rw [← row.object] at hfield
  exact hname ▸ row.exists_value hmem hcounted hfield

/-- The last key that is delivered to a column gives it a value if it is not absent, whether a field
lies in the column or not. -/
theorem OwnRow.exists_value_of_lastKey {name : String} {key : Value}
    (hcounted : ∀ col ∈ e.columns, col.name = name → col.autoIncrement = false)
    (hkey : lastKey row.deliveries name = some key) (hpresent : key.isNull = false) :
    ∃ b, row.values.lookup name = some b ∧ b.isNull = false := by
  obtain ⟨j, hdelivered, rfl⟩ := exists_of_lastKey hkey
  cases hcol : e.columnNamed? j.target with
  | some col =>
    obtain ⟨hmem, hname⟩ := Entity.mem_of_columnNamed? hcol
    exact row.exists_value_of_mem hcol (hcounted col hmem hname) hdelivered hpresent
  | none =>
    rw [row.lookup_values, if_pos hcol, hkey]
    cases hown : row.own.lookup j.target with
    | none => exact ⟨_, by simp [hpresent, Option.filter], hpresent⟩
    | some b =>
      obtain ⟨col, hmem, hname, -⟩ := exists_column_of_lookup_ownValues row.own_eq hown
      have hno := List.find?_eq_none.mp hcol col hmem
      exact absurd (beq_iff_eq.mpr hname) hno

end

/-- Nothing gives the column a value. The entity has none for it, and the last key that is delivered
to it is absent; if the column has a field, which keeps an earlier key, all of them are. -/
structure OwnRow.Starved {validating : Bool} (row : OwnRow x validating e v w) (name : String) :
    Prop where
  fields : ∀ col ∈ e.columns, col.name = name → w.records.get v col.field = .null
  last : lastKey row.deliveries name = some .null
  all : (∃ col ∈ e.columns, col.name = name) →
    ∀ p ∈ row.deliveries, p.1.target = name → p.2 = .null

/-- A column to which a key is delivered has a value in the row, or nothing gives it one. -/
theorem OwnRow.value_or_starved {validating : Bool} (row : OwnRow x validating e v w)
    {name : String} {key : Value}
    (hcounted : ∀ col ∈ e.columns, col.name = name → col.autoIncrement = false)
    (hkey : lastKey row.deliveries name = some key) :
    (∃ b, row.values.lookup name = some b ∧ b.isNull = false) ∨ row.Starved name := by
  by_cases hvalue : ∃ b, row.values.lookup name = some b ∧ b.isNull = false
  · exact .inl hvalue
  have hnull : ∀ {value : Value}, (value.isNull = false →
      ∃ b, row.values.lookup name = some b ∧ b.isNull = false) → value = .null := fun h =>
    Value.isNull_iff.mp (Bool.of_not_eq_false fun hpresent => hvalue (h hpresent))
  refine .inr ⟨fun col hcol hname => hnull fun hpresent => ?_, ?_, ?_⟩
  · exact hname ▸ row.exists_value_of_own hcol (hcounted col hcol hname) hpresent
  · rw [hkey, hnull fun hpresent => row.exists_value_of_lastKey hcounted hkey hpresent]
  · rintro hfield ⟨j, key'⟩ hmem rfl
    -- a key that is present would have stayed in the field of the column
    obtain ⟨col, hcol⟩ := Option.isSome_iff_exists.mp
      (List.find?_isSome.mpr (hfield.imp fun _ h => ⟨h.1, beq_iff_eq.mpr h.2⟩))
    obtain ⟨hcolumn, hname⟩ := Entity.mem_of_columnNamed? hcol
    exact hnull fun hpresent =>
      row.exists_value_of_mem hcol (hcounted col hcolumn hname) hmem hpresent

/-- A valid entity of a class whose table can be defined is inserted with a value for each column
that the table declares `NOT NULL` without a default, except that of the key that is counted up;
unless the entity itself has none for it and what its joins deliver to it is absent. -/
theorem save_binds_required {validating : Bool} {t : TableDefinition} {d : ColumnDefinition}
    {r : Except Failure Value} {w₁ : World δ} (htable : x.catalogue.defineTable e = .ok t)
    (hd : d ∈ t.columns) (hrequired : d.notNull = true) (hdefault : d.default = none)
    (hcounted : ∀ col ∈ e.columns, col.name = d.name → col.autoIncrement = false)
    (hvalid : validate x e v w = (.ok (), w₁)) (hsave : save x validating e v w₁ = (r, w')) :
    ((∃ u, r = .ok u) → Nonempty (OwnRow x validating e v w₁))
      ∧ ∀ row : OwnRow x validating e v w₁, row.before.events ++ [row.event] <+: w'.events
        ∧ ((∃ b, row.values.lookup d.name = some b ∧ b.isNull = false) ∨ row.Starved d.name) := by
  refine ⟨?_, fun row => ⟨row.issued hsave, ?_⟩⟩
  · rintro ⟨u, rfl⟩
    exact exists_ownRow hsave
  have hrecords : w₁.records = w.records :=
    ((validate_reads readInvariant_true w w (Adds.refl _ _ w)).1 _ _ hvalid).records
  have hsupplied : Supplied w₁.records e v := hrecords ▸ validate_supplied hvalid
  rcases hsupplied.own_or_join htable hd hrequired hdefault hcounted with
    ⟨col, hcol, hname, hpresent⟩ | ⟨j, hj, htarget, hsupplies⟩
  · exact .inl (hname ▸ row.exists_value_of_own hcol (hcounted col hcol hname) hpresent)
  · obtain ⟨key, hkey⟩ := row.exists_delivery hj hsupplies
    rw [htarget] at hkey
    exact row.value_or_starved hcounted hkey

/-! ## Products with and without what their column needs -/

namespace Sample

/-- The world after a new product has been validated. -/
def validated : World Script :=
  (validate library newProduct.entity newProduct.object { records, database := {} }).2

theorem validate_newProduct :
    validate library newProduct.entity newProduct.object
        ({ records, database := {} } : World Script)
      = (.ok (), validated) := by
  have hok : (validate library newProduct.entity newProduct.object
      ({ records, database := {} } : World Script)).1.isOk = true := by
    decide +kernel
  obtain ⟨_, w, h⟩ := Op.exists_ok hok
  rw [h, validated, h]

end Sample

open Sample in
/-- A new product is inserted with its name. -/
theorem save_binds_required_newProduct :
    ∃ row : OwnRow library true newProduct.entity newProduct.object validated,
      row.before.events ++ [row.event]
          <+: (save library true newProduct.entity newProduct.object validated).2.events
        ∧ ∃ b, row.values.lookup "name" = some b ∧ b.isNull = false := by
  obtain ⟨t, ht, hmem⟩ := nameDefinition_mem
  have hok : (save library true newProduct.entity newProduct.object validated).1.isOk = true := by
    decide +kernel
  obtain ⟨u, w', hsave⟩ := Op.exists_ok hok
  have hcounted : ∀ col ∈ newProduct.entity.columns, col.name = nameDefinition.name →
      col.autoIncrement = false := by
    decide
  obtain ⟨hrow, hall⟩ :=
    save_binds_required ht hmem rfl rfl hcounted validate_newProduct hsave
  obtain ⟨row⟩ := hrow ⟨u, rfl⟩
  refine ⟨row, by rw [hsave]; exact (hall row).1, (hall row).2.resolve_right ?_⟩
  intro hstarved
  have hname := congrArg Value.isNull (hstarved.fields nameColumn (by decide) rfl)
  exact absurd hname (by decide +kernel)

namespace Codeless

open Sample (key column)

/-- A production line with a code, which may be absent. -/
def line : ClassDeclaration where
  name := "Line"
  table := some "lines"
  fields := [key, column "code" "str" {}]

/-- A product, made on a line that is found by its code. -/
def product : ClassDeclaration where
  name := "Product"
  table := some "products"
  fields :=
    [key, ⟨"line", "Line", .join { target := "line_code", related := "Line", source := "code" }⟩]

def library : Library where
  catalogue := (Catalogue.ofDeclarations [line, product] []).toOption.getD {}
  management := { location := .file, timeout := .int 10, foreignKeys := false }

def toLine : Join :=
  { field := "line", target := "line_code", related := "Line", source := "code" }

def newProduct : Node where
  entity := ⟨"Product", "products", [.column Sample.keyColumn, .join toLine]⟩
  object := .entity 0

/-- A new product on a line that is saved and has no code. -/
def codeless : World Script where
  records :=
    [⟨"Product", [("id", .null), ("line", .entity 1)], false⟩,
     ⟨"Line", [("id", .int 1), ("code", .null)], false⟩]
  database := {}

/-- The table and the columns of an insertion. -/
def insertion? : Event → Option (String × List String)
  | .ran (.insert table columns) _ => some (table, columns)
  | _ => none

/-- The product is valid, since it has a line; but nothing is inserted for the column of the line,
which the table declares `NOT NULL` without a default. -/
theorem validate_accepts_codeless :
    library.catalogue.describe "Product" = .ok newProduct.entity
      ∧ ((library.catalogue.defineTable newProduct.entity).map fun t =>
        t.columns.map fun d => (d.name, d.notNull, d.autoIncrement, d.default))
          = .ok [("id", true, true, none), ("line_code", true, false, none)]
      ∧ (validate library newProduct.entity newProduct.object codeless).1.isOk = true
      ∧ (save library true newProduct.entity newProduct.object
          (validate library newProduct.entity newProduct.object codeless).2).2.events.filterMap
          insertion? = [("products", [])] := by
  decide +kernel

end Codeless

end EntityMap
