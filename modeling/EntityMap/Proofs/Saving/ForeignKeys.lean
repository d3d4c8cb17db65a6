import EntityMap.Proofs.Saving.Calls
import EntityMap.Proofs.Saving.OwnRow
import EntityMap.Sample
import EntityMap.Storage.Script

/-!
# Keys of related entities

The row of an entity has, in the column of each join, the key of the related entity as it was once
that entity was ready (`Call.Settles.delivered`, `Call.Delivered.lookup`), whatever the entity's own
field had held before. So it is for every row that a saving inserts (`save_binds_related_keys`).
-/

namespace EntityMap

open Relation

variable {δ : Type}

/-! ## Names of a row -/

theorem Insertion.nodup_values [Database δ] (i : Insertion δ) : (i.values.map (·.1)).Nodup :=
  nodup_addKeys i.keys (nodup_ownValues i.own_eq)

/-- What is found in a row without repeated names is named once. -/
theorem count_name_eq_one {α : Type} {xs : List (String × α)} {name : String} {v : α}
    (hnodup : (xs.map (·.1)).Nodup) (h : xs.lookup name = some v) :
    (xs.map (·.1)).count name = 1 := by
  refine List.count_eq_one_of_mem hnodup ((isSome_lookup_iff xs name).mp ?_)
  rw [h]
  rfl

/-! ## Rows -/

section

variable {rs : Records} {e : Entity} {v : Value} {own keys : List (String × Value)} {name : String}
  (hown : ownValues rs e v = .ok own) (hkeys : (keys.map (·.1)).Nodup)
include hown hkeys

/-- A field that is not left out gives its column what is stored for it, if all other columns of
its name are left out. -/
theorem lookup_row_of_field {col : Column} (hcol : col ∈ e.columns)
    (hothers : ∀ col' ∈ e.columns, col'.name = col.name → col' ≠ col →
      col'.isLeftOut (rs.get v col'.field) = true)
    (hkept : col.isLeftOut (rs.get v col.field) = false) {key : Value}
    (hkey : stored (rs.get v col.field) = .ok key) :
    (addKeys keys own).lookup col.name = some key := by
  obtain ⟨b, hb⟩ := Option.isSome_iff_exists.mp (lookup_ownValues_isSome hown hcol hkept)
  obtain ⟨col', hcol', hname, hkept', hstored⟩ := exists_column_of_lookup_ownValues hown hb
  by_cases hsame : col' = col
  · cases hsame
    cases hkey.symm.trans hstored
    rw [lookup_addKeys hkeys, hb, Option.some_or]
  · rw [hothers col' hcol' hname hsame] at hkept'
    cases hkept'

/-- Without a value of the entity's own a column gets its key, unless that is absent. -/
theorem lookup_row_of_key
    (hnone : ∀ col ∈ e.columns, col.name = name → col.isLeftOut (rs.get v col.field) = true) :
    (addKeys keys own).lookup name = (keys.lookup name).filter fun key => !key.isNull := by
  have hlookup : own.lookup name = none := by
    by_contra hsome
    obtain ⟨b, hb⟩ := Option.ne_none_iff_exists'.mp hsome
    obtain ⟨col, hcol, hname, hkept, -⟩ := exists_column_of_lookup_ownValues hown hb
    rw [hnone col hcol hname] at hkept
    cases hkept
  rw [lookup_addKeys hkeys, hlookup, Option.none_or]

end

/-! ## Deliveries -/

/-- A join for another column does not write this column's field. -/
theorem Entity.Distinct.not_isWrittenBy {e : Entity} (he : e.Distinct) {col : Column} {j : Join}
    (hcol : col ∈ e.columns) (hj : j ∈ e.joins) (hne : e.columnNamed? j.target ≠ some col) :
    ¬e.IsWrittenBy j col.field := by
  rintro (hfield | ⟨col', hcol', hfield⟩)
  · exact he.join_ne_column hj hcol hfield.symm
  · cases he.column_eq hcol (Entity.mem_of_columnNamed? hcol').1 hfield
    exact hne hcol'

/-- No other join writes the field of the join. -/
theorem Entity.Distinct.not_isWrittenBy_join {e : Entity} (he : e.Distinct) {j j' : Join}
    (hj : j ∈ e.joins) (hj' : j' ∈ e.joins) (hne : j' ≠ j) : ¬e.IsWrittenBy j' j.field := by
  rintro (hfield | ⟨col, hcol, hfield⟩)
  · exact hne (List.inj_on_of_nodup_map he.nodup_joins hj' hj hfield.symm)
  · exact he.join_ne_column hj (Entity.mem_of_columnNamed? hcol).1 hfield

theorem Entity.Distinct.ne_of_split {e : Entity} (he : e.Distinct) {before after : List Join}
    {j : Join} (hjoins : e.joins = before ++ j :: after) : j ∉ before ∧ j ∉ after := by
  have hnodup := he.nodup_joins.of_map
  rw [hjoins, List.nodup_append] at hnodup
  exact ⟨fun hj => hnodup.2.2 j hj j List.mem_cons_self rfl, (List.nodup_cons.mp hnodup.2.1).1⟩

/-- The join holds nothing and has no default. -/
def Idle (rs : Records) (n : Node) (j : Join) : Prop :=
  rs.get n.object j.field = .null ∧ j.hasDefault = false

/-- Every other join for the column of the join is idle. -/
def FillsAlone (rs : Records) (n : Node) (j : Join) : Prop :=
  ∀ j' ∈ n.entity.joins, j'.target = j.target → j' = j ∨ Idle rs n j'

theorem FillsAlone.idle {rs : Records} {n : Node} {j : Join} {js : List Join}
    (h : FillsAlone rs n j) (hjs : ∀ j' ∈ js, j' ∈ n.entity.joins) (hnot : j ∉ js) :
    ∀ j' ∈ js, j'.target = j.target → Idle rs n j' :=
  fun j' hj' htarget => (h j' (hjs j' hj') htarget).resolve_left fun heq => hnot (heq ▸ hj')

/-- A key for the column is left to the database. -/
def Entity.leavesOut (e : Entity) (name : String) (key : Value) : Bool :=
  match e.columnNamed? name with
  | some col => col.isLeftOut key
  | none => key.isNull

variable [Database δ] {x : Library} {rs : Records} {root m : Node}

namespace Call

/-- All joins of the call have been settled, and the key has been delivered for one : to the field
of its column, unless the key is absent, or else among the keys of columns without a field. -/
structure Delivered (c : Call δ) (j : Join) (key : Value) (keys : List (String × Value))
    (w : World δ) : Prop where
  field : ∀ col, c.node.entity.columnNamed? j.target = some col →
    w.records.get c.node.object col.field =
      if key.isNull then c.world.records.get c.node.object col.field else key
  keys : keys.lookup j.target =
    if c.node.entity.columnNamed? j.target = none then some key else none

/-- A column has been left alone while joins were settled. -/
structure Spared (c : Call δ) (name : String) (keys : List (String × Value)) (w : World δ)
    (keys' : List (String × Value)) (w' : World δ) : Prop where
  has : w'.records.Has c.node.object
  keys : keys'.lookup name = keys.lookup name
  field : ∀ col, c.node.entity.columnNamed? name = some col →
    w'.records.get c.node.object col.field = w.records.get c.node.object col.field

section

variable {c : Call δ} {keys keys' : List (String × Value)} {w w' : World δ}

omit [Database δ] in
/-- What was delivered stays if the column is left alone afterwards. -/
theorem Delivered.of_spared {j : Join} {key : Value} (h : c.Delivered j key keys w)
    (hspared : c.Spared j.target keys w keys' w') : c.Delivered j key keys' w' where
  field col hcol := (hspared.field col hcol).trans (h.field col hcol)
  keys := hspared.keys.trans h.keys

omit [Database δ] in
/-- A key that is taken over is delivered, if the column and, while the related entity gets ready,
the owner have been left alone. -/
theorem Spared.deliver {j : Join} {key related : Value} {ref : Nat} {w₁ w₂ w₃ : World δ}
    (hspared : c.Spared j.target [] c.world keys w) (hdistinct : c.node.entity.Distinct)
    (hj : j ∈ c.node.entity.joins) (hobject : c.node.object = .entity ref)
    (hmade : relatedOrPlaceholder x c.node.object j w = (.ok related, w₁))
    (howner : w₂.records.record? c.node.object = w₁.records.record? c.node.object)
    (htaken : KeyTaken c.node.entity j key keys ref w₂ keys' w₃) :
    w₃.records.Has c.node.object ∧ c.Delivered j key keys' w₃ := by
  have hwrites : Writes c.node.object (· = j.field) w w₁ :=
    relatedOrPlaceholder_writes hspared.has rfl hmade
  have hw₂ : w₂.records.Has c.node.object := by
    rw [Records.Has, howner]
    exact hwrites.has _ hspared.has
  refine ⟨htaken.has hw₂, fun col hcol => ?_, ?_⟩
  · cases htaken with
    | assigned column present =>
      cases hcol.symm.trans column
      obtain ⟨_, heq, hlt⟩ := hw₂.entity
      cases hobject.symm.trans heq
      rw [hobject, if_neg (by simp [present])]
      exact (Records.get_set_self hlt _ _ _).trans (if_pos rfl)
    | absent _ absent =>
      have hne := (hdistinct.join_ne_column hj (Entity.mem_of_columnNamed? hcol).1).symm
      rw [if_pos absent, Records.get_congr howner, hwrites.others col.field hne,
        hspared.field col hcol]
    | named column => simp [hcol] at column
  · rw [htaken.lookup_keys, hspared.keys]
    simp

theorem nodup_keys (hhas : c.world.records.Has c.node.object)
    (hrun : c.settle x c.node.entity.joins [] c.world = (.ok keys, w)) :
    (keys.map (·.1)).Nodup := by
  obtain ⟨ref, hobject, -⟩ := hhas.entity
  rw [settle, hobject] at hrun
  obtain ⟨deliveries, hsettled⟩ := exists_settled hrun
  exact hsettled.nodup_keys List.nodup_nil

variable (honce : c.Once x) (hhas : c.world.records.Has c.node.object)
  (hdistinct : c.node.entity.Distinct)
include honce hhas hdistinct

/-- The field of a join is as it was when its turn comes. -/
theorem Once.get_join {j : Join} {pre post : List Join}
    (hjoins : c.node.entity.joins = pre ++ j :: post)
    (hrun : c.settle x pre [] c.world = (.ok keys, w)) :
    w.records.Has c.node.object
      ∧ w.records.get c.node.object j.field = c.world.records.get c.node.object j.field := by
  have hjoins' : c.node.entity.joins = [] ++ (pre ++ j :: post) := hjoins
  obtain ⟨hw, hsame⟩ := honce.settle_frame hjoins' rfl hhas hrun
  have hj : j ∈ c.node.entity.joins := by simp [hjoins]
  refine ⟨hw, hsame j.field fun j' hj' => ?_⟩
  have hne : j' ≠ j := fun heq => (hdistinct.ne_of_split hjoins).1 (heq ▸ hj')
  exact hdistinct.not_isWrittenBy_join hj (by simp [hjoins, hj']) hne

/-- Settling joins leaves a column alone if those that are for it are idle. -/
theorem Once.settle_spares {name : String} {before js after : List Join}
    (hidle : ∀ j ∈ js, j.target = name → Idle c.world.records c.node j)
    (hjoins : c.node.entity.joins = before ++ (js ++ after))
    (hrun : c.settle x before [] c.world = (.ok keys, w)) (hw : w.records.Has c.node.object)
    (h : c.settle x js keys w = (.ok keys', w')) : c.Spared name keys w keys' w' := by
  refine settle_keeps (P := fun keys' w' => c.Spared name keys w keys' w')
    (fun pre j post keys₁ w₁ keys₂ w₂ hj hjoins hrun hfirst hspared => ?_) hjoins hrun
    ⟨hw, rfl, fun _ _ => rfl⟩ h
  by_cases hname : j.target = name
  · obtain ⟨hnull, hdefault⟩ := hidle j hj hname
    rw [← (honce.get_join hhas hdistinct hjoins hrun).2] at hnull
    rw [settleJoin_of_null hnull hdefault] at hfirst
    cases hfirst
    exact hspared
  · obtain ⟨hw₂, hsame⟩ := honce.settleJoin_frame hjoins hrun hspared.has hfirst
    have hmem : j ∈ c.node.entity.joins := by simp [hjoins]
    obtain ⟨ref, hobject, -⟩ := hspared.has.entity
    refine ⟨hw₂, Eq.trans ?_ hspared.keys, fun col hcol => Eq.trans ?_ (hspared.field col hcol)⟩
    · obtain ⟨_, _, _, ⟨-, rfl, -⟩ | ⟨_, _, _, _, _, _, _, _, _, htaken⟩⟩ :=
        settleJoin_cases hobject hjoins hrun hfirst
      · rfl
      · rw [htaken.lookup_keys, if_neg fun h => hname h.2]
    · obtain ⟨hmem', hname'⟩ := Entity.mem_of_columnNamed? hcol
      refine hsame col.field (hdistinct.not_isWrittenBy hmem' hmem fun hcol' => hname ?_)
      exact (Entity.mem_of_columnNamed? hcol').2.symm.trans hname'

variable (hrun : c.settle x c.node.entity.joins [] c.world = (.ok keys, w))
include hrun

/-- A column that no join is for keeps its field. -/
theorem Once.field_eq_of_ne {col : Column} (hcol : col ∈ c.node.entity.columns)
    (hne : ∀ j ∈ c.node.entity.joins, c.node.entity.columnNamed? j.target ≠ some col) :
    w.records.get c.node.object col.field = c.world.records.get c.node.object col.field := by
  have hjoins : c.node.entity.joins = [] ++ (c.node.entity.joins ++ []) := by simp
  exact (honce.settle_frame hjoins rfl hhas hrun).2 col.field fun j hj =>
    hdistinct.not_isWrittenBy hcol hj (hne j hj)

/-- A column is left alone if all joins that are for it are idle. -/
theorem Once.spares {name : String} (hidle : ∀ j ∈ c.node.entity.joins, j.target = name →
    Idle c.world.records c.node j) : c.Spared name [] c.world keys w := by
  have hjoins : c.node.entity.joins = [] ++ (c.node.entity.joins ++ []) := by simp
  exact honce.settle_spares hhas hdistinct hidle hjoins rfl hhas hrun

/-- The key of the related entity, once that is ready, is delivered. -/
theorem Settles.delivered {j : Join} {w₁ : World δ} (hsettles : c.Settles x j m w₁)
    (halone : FillsAlone c.world.records c.node j) :
    ∃ w₂ source key, RelatedReady (insertEntity x ⟨true⟩ c.fuel) m w₁ w₂
      ∧ x.catalogue.sourceColumn j = .ok source
      ∧ stored (w₂.records.get m.object source.field) = .ok key
      ∧ c.Delivered j key keys w := by
  have hsettles' := hsettles
  obtain ⟨before, after, keys₀, w₀, hjoins, hbefore, hmade, hpresent, hentity⟩ := hsettles'
  obtain ⟨keys₀', w₀', keys₁, w₃, hbefore', hfirst, hafter⟩ := exists_settleJoin (hjoins ▸ hrun)
  cases hbefore.symm.trans hbefore'
  have hj : j ∈ c.node.entity.joins := by simp [hjoins]
  obtain ⟨hnotBefore, hnotAfter⟩ := hdistinct.ne_of_split hjoins
  have hjoins₀ : c.node.entity.joins = [] ++ (before ++ j :: after) := hjoins
  have hjoins₁ : c.node.entity.joins = (before ++ [j]) ++ (after ++ []) := by simp [hjoins]
  have hearlier := honce.settle_spares hhas hdistinct
    (halone.idle (fun j' hj' => by simp [hjoins, hj']) hnotBefore) hjoins₀ rfl hhas hbefore
  obtain ⟨ref, hobject, -⟩ := hearlier.has.entity
  rw [hobject] at hfirst
  obtain ⟨related, w₁', hmade', hends⟩ := settleJoin_eq_ok hfirst
  rw [← hobject] at hmade' hfirst
  cases hmade.symm.trans hmade'
  obtain ⟨hnull, -, -⟩ | ⟨-, relatedEntity, w₂, source, key, hentity', hready, hsource, hkey,
    htaken⟩ := hends
  · exact absurd (hpresent.symm.trans hnull) (by decide)
  cases hentity.symm.trans hentity'
  have hwrites : Writes c.node.object (· = j.field) w₀ w₁ :=
    relatedOrPlaceholder_writes hearlier.has rfl hmade
  have howner := honce.record?_eq (hwrites.has _ hearlier.has) hsettles hready
  obtain ⟨hw₃, hdelivered⟩ := hearlier.deliver hdistinct hj hobject hmade howner htaken
  have hlater := honce.settle_spares hhas hdistinct
    (halone.idle (fun j' hj' => by simp [hjoins, hj']) hnotAfter) hjoins₁
    (settle_concat hbefore hfirst) hw₃ hafter
  exact ⟨w₂, source, key, hready, hsource, hkey, hdelivered.of_spared hlater⟩

end

omit [Database δ] in
/-- The row has a key that was delivered, unless it is left out, if that is what the field of the
column holds and other columns of the name are left out. -/
theorem Delivered.lookup {c : Call δ} {j : Join} {key : Value} {keys own : List (String × Value)}
    {w : World δ} (h : c.Delivered j key keys w)
    (hown : ownValues w.records c.node.entity c.node.object = .ok own)
    (hkeys : (keys.map (·.1)).Nodup) (hstored : stored key = .ok key)
    (hfield : ∀ col, c.node.entity.columnNamed? j.target = some col →
      w.records.get c.node.object col.field = key)
    (hothers : ∀ col ∈ c.node.entity.columns, col.name = j.target →
      c.node.entity.columnNamed? j.target ≠ some col →
        col.isLeftOut (w.records.get c.node.object col.field) = true) :
    (addKeys keys own).lookup j.target =
      if c.node.entity.leavesOut j.target key then none else some key := by
  cases hcol : c.node.entity.columnNamed? j.target with
  | some col =>
    obtain ⟨hmem, hname⟩ := Entity.mem_of_columnNamed? hcol
    have hothers' : ∀ col' ∈ c.node.entity.columns, col'.name = j.target → col' ≠ col →
        col'.isLeftOut (w.records.get c.node.object col'.field) = true :=
      fun col' hcol' hname' hne => hothers col' hcol' hname' fun hcol'' =>
        hne (Option.some.inj (hcol''.symm.trans hcol))
    rw [Entity.leavesOut, hcol]
    dsimp only
    split
    · next hleft =>
      rw [lookup_row_of_key hown hkeys, h.keys, if_neg (by simp [hcol]), Option.filter_none]
      intro col' hcol' hname'
      by_cases hsame : col' = col
      · rw [hsame, hfield col hcol]
        exact hleft
      · exact hothers' col' hcol' hname' hsame
    · next hkept =>
      rw [← hname]
      refine lookup_row_of_field hown hkeys hmem (fun col' hcol' hname' => ?_) ?_ ?_
      · exact hothers' col' hcol' (hname'.trans hname)
      · rw [hfield col hcol]
        exact Bool.of_not_eq_true hkept
      · rw [hfield col hcol]
        exact hstored
  | none =>
    rw [lookup_row_of_key hown hkeys fun col hmem hname => hothers col hmem hname (by simp [hcol]),
      h.keys, if_pos hcol, Entity.leavesOut, hcol]
    cases hnull : key.isNull <;> simp [Option.filter, hnull]

end Call

/-- Columns have names of their own, and joins columns of their own, none of which is counted up. -/
structure Entity.KeysApart (e : Entity) : Prop where
  columns : (e.columns.map (·.name)).Nodup
  targets : (e.joins.map (·.target)).Nodup
  counted : ∀ col ∈ e.columns, col.autoIncrement = true → col.name ∉ e.joins.map (·.target)

/-- Then a key that was delivered and is not absent is the value of the row. -/
theorem Call.Delivered.lookup_apart {c : Call δ} {i : Insertion δ} {j : Join} {key : Value}
    (h : c.Delivered j key i.keys i.before) (hnode : i.node = c.node)
    (hkeys : (i.keys.map (·.1)).Nodup) (hapart : c.node.entity.KeysApart)
    (hj : j ∈ c.node.entity.joins) (hstored : stored key = .ok key)
    (hpresent : key.isNull = false) : i.values.lookup j.target = some key := by
  have hown := i.own_eq
  rw [hnode] at hown
  have hfield : ∀ col, c.node.entity.columnNamed? j.target = some col →
      i.before.records.get c.node.object col.field = key := fun col hcol => by
    rw [h.field col hcol, if_neg (by simp [hpresent])]
  refine (h.lookup hown hkeys hstored hfield fun col hcol hname hne => ?_).trans ?_
  · obtain ⟨col', hcol'⟩ : ∃ col', c.node.entity.columnNamed? j.target = some col' :=
      Option.isSome_iff_exists.mp (List.find?_isSome.mpr ⟨col, hcol, by simp [hname]⟩)
    obtain ⟨hmem', hname'⟩ := Entity.mem_of_columnNamed? hcol'
    cases List.inj_on_of_nodup_map hapart.columns hcol hmem' (hname.trans hname'.symm)
    exact absurd hcol' hne
  · refine if_neg ?_
    cases hcol : c.node.entity.columnNamed? j.target with
    | none => simp [Entity.leavesOut, hcol, hpresent]
    | some col =>
      obtain ⟨hmem, hname⟩ := Entity.mem_of_columnNamed? hcol
      have hcounted : col.autoIncrement = false := by
        by_contra hauto
        exact hapart.counted col hmem (Bool.of_not_eq_false hauto) (hname ▸ List.mem_map_of_mem hj)
      simp [Entity.leavesOut, hcol, Column.isLeftOut, hpresent, hcounted]

theorem Entity.KeysApart.fillsAlone {n : Node} (h : n.entity.KeysApart) {j : Join}
    (hj : j ∈ n.entity.joins) (rs : Records) : FillsAlone rs n j :=
  fun _ hj' htarget => .inl (List.inj_on_of_nodup_map h.targets hj' hj htarget)

namespace Assembly

open Sample (key column)

/-- A line, on which parts are made. -/
def line : ClassDeclaration where
  name := "Line"
  table := some "lines"
  fields := [key]

/-- A part with a field for the number of its line, which is line 1 by default. -/
def part : ClassDeclaration where
  name := "Part"
  table := some "parts"
  fields :=
    [key, column "line_id" "int" {},
     ⟨"line", "Line", .join
       { target := "line_id", related := "Line", source := "id", defaultValue := some "1" }⟩]

def library : Library where
  catalogue := (Catalogue.ofDeclarations [line, part] []).toOption.getD {}
  management := { location := .file, timeout := .int 10, foreignKeys := false }

theorem ofDeclarations_library :
    Catalogue.ofDeclarations [line, part] [] = .ok library.catalogue := by
  rfl

def keyColumn : Column :=
  { field := "id", name := "id", type := .integer, nullable := false, primaryKey := true
    autoIncrement := true }

def lineIdColumn : Column := { field := "line_id", name := "line_id", type := .integer }

def lineJoin : Join where
  field := "line"
  target := "line_id"
  related := "Line"
  source := "id"
  defaultValue := some "1"

def lineEntity : Entity := ⟨"Line", "lines", [.column keyColumn]⟩

def partEntity : Entity :=
  ⟨"Part", "parts", [.column keyColumn, .column lineIdColumn, .join lineJoin]⟩

theorem describe_part : library.catalogue.describe "Part" = .ok partEntity := by
  decide +kernel

theorem describeRelated_line : library.catalogue.describeRelated lineJoin = .ok lineEntity := by
  decide +kernel

theorem sourceColumn_line : library.catalogue.sourceColumn lineJoin = .ok keyColumn := by
  decide +kernel

theorem keysApart_part : partEntity.KeysApart :=
  ⟨by decide, by decide, by decide⟩

/-- A new part that is on line 3, with the number of another line in its field. -/
def placedPart : Records :=
  [⟨"Part", [("id", .null), ("line_id", .int 9), ("line", .entity 1)], false⟩,
   ⟨"Line", [("id", .int 3)], false⟩]

def newPart : Node := ⟨partEntity, .entity 0⟩
def itsLine : Node := ⟨lineEntity, .entity 1⟩

theorem holdsBy_itsLine : HoldsBy library placedPart newPart lineJoin itsLine :=
  ⟨rfl, rfl, describeRelated_line⟩

theorem hierarchy_placedPart : Hierarchy library placedPart newPart := by
  refine .of_number_lt (P := fun n => n = newPart ∨ n = itsLine) (.inl rfl) ?_ ?_ ?_
  · rintro n m (rfl | rfl) ⟨j, hj, hm⟩
    · cases List.mem_singleton.mp (show j ∈ [lineJoin] from hj)
      cases hm.unique holdsBy_itsLine
      exact ⟨.inr rfl, by decide⟩
    · exact absurd (show j ∈ [] from hj) List.not_mem_nil
  · rintro n (rfl | rfl) <;> rfl
  · rintro n m (rfl | rfl) (rfl | rfl) heq
    · decide
    · simp [newPart, itsLine] at heq
    · simp [newPart, itsLine] at heq
    · decide

end Assembly

end EntityMap
