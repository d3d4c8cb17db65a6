import Mathlib.Data.List.Induction
import EntityMap.Proofs.Schema.Fields
import EntityMap.Schema.Definition

/-!
# Physical columns

A member of an entity lies in a physical column, and several members may lie in one
(`Entity.physicalColumns`). The definition of the entity's table has each of these once
(`map_name_columns`), defined by the members that lie in it (`DefinedBy`) : by the last column
field, or else by the first join. Its foreign keys lead from such a column to the source of a join
(`mem_foreignKeys`).

Whatever name the lookups of an entity give for a field is that of a physical column
(`mem_of_lookup_fieldColumns`, `mem_of_resolveColumn?`).
-/

namespace EntityMap

variable {c : Catalogue} {e : Entity} {t : TableDefinition}

/-! ## Members and their columns -/

/-- The physical column in which a member lies. -/
def Member.physical : Member → String
  | column col => col.name
  | join j => j.target

namespace Entity

/-- A column field that is found by a name lies in the column of this name. -/
theorem mem_of_columnNamed? {name : String} {col : Column} (h : e.columnNamed? name = some col) :
    col ∈ e.columns ∧ col.name = name :=
  ⟨List.mem_of_find?_eq_some h, by simpa using List.find?_some h⟩

/-- The last column field that lies in a column is one of the entity. -/
theorem mem_of_last {name : String} {col : Column}
    (h : e.columns.reverse.find? (·.name == name) = some col) : col ∈ e.columns ∧ col.name = name :=
  ⟨List.mem_reverse.mp (List.mem_of_find?_eq_some h), by simpa using List.find?_some h⟩

/-- The first join onto a column is one of the entity. -/
theorem mem_of_first {name : String} {j : Join}
    (h : e.joins.find? (·.target == name) = some j) : j ∈ e.joins ∧ j.target = name :=
  ⟨List.mem_of_find?_eq_some h, by simpa using List.find?_some h⟩

/-- The physical columns of the members, in their order. -/
def physicalColumns (e : Entity) : List String := e.members.map (·.physical)

theorem mem_physicalColumns {name : String} :
    name ∈ e.physicalColumns ↔
      (∃ col ∈ e.columns, col.name = name) ∨ ∃ j ∈ e.joins, j.target = name := by
  rw [physicalColumns, List.mem_map]
  constructor
  · rintro ⟨col | j, hm, rfl⟩
    · exact .inl ⟨col, mem_columns.mpr hm, rfl⟩
    · exact .inr ⟨j, mem_joins.mpr hm, rfl⟩
  · rintro (⟨col, hcol, rfl⟩ | ⟨j, hj, rfl⟩)
    · exact ⟨.column col, mem_columns.mp hcol, rfl⟩
    · exact ⟨.join j, mem_joins.mp hj, rfl⟩

theorem name_mem_physicalColumns {col : Column} (h : col ∈ e.columns) :
    col.name ∈ e.physicalColumns :=
  mem_physicalColumns.mpr (.inl ⟨col, h, rfl⟩)

theorem target_mem_physicalColumns {j : Join} (h : j ∈ e.joins) : j.target ∈ e.physicalColumns :=
  mem_physicalColumns.mpr (.inr ⟨j, h, rfl⟩)

/-- The column of a field is a physical one. -/
theorem mem_of_lookup_fieldColumns {key name : String}
    (h : e.fieldColumns.lookup key = some name) : name ∈ e.physicalColumns := by
  let Physical (keys : List (String × String)) : Prop :=
    ∀ key name, keys.lookup key = some name → name ∈ e.physicalColumns
  have hcolumns : Physical (e.columns.foldl (fun keys col =>
      setNamed (fieldKey col.field) col.name keys) []) := by
    refine List.foldlRecOn (motive := Physical) e.columns _ ?_ ?_
    · intro key name h
      simp at h
    · intro keys hkeys col hcol key name h
      rw [lookup_setNamed] at h
      split at h
      · cases h
        exact name_mem_physicalColumns hcol
      · exact hkeys key name h
  have hjoins : Physical e.fieldColumns := by
    refine List.foldlRecOn (motive := Physical) e.joins _ hcolumns ?_
    intro keys hkeys j hj key name h
    rw [lookup_setNew, Option.or_eq_some_iff] at h
    rcases h with h | ⟨-, h⟩
    · exact hkeys key name h
    · split at h
      · cases h
        exact target_mem_physicalColumns hj
      · simp at h
  exact hjoins key name h

/-- The column that a name stands for is a physical one. -/
theorem mem_of_resolveColumn? {key name : String} (h : e.resolveColumn? key = some name) :
    name ∈ e.physicalColumns := by
  unfold resolveColumn? at h
  split at h
  · next hnamed =>
    cases h
    rcases Bool.or_eq_true_iff.mp hnamed with hcol | hjoin
    · obtain ⟨col, hcol⟩ := Option.isSome_iff_exists.mp hcol
      obtain ⟨hmem, hname⟩ := mem_of_columnNamed? hcol
      exact hname ▸ name_mem_physicalColumns hmem
    · obtain ⟨j, hj, hname⟩ := List.any_eq_true.mp hjoin
      exact (beq_iff_eq.mp hname) ▸ target_mem_physicalColumns hj
  · exact mem_of_lookup_fieldColumns h

end Entity

/-! ## Groups -/

/-- The group with one more member. -/
def ColumnGroup.add (g : ColumnGroup) : Member → ColumnGroup
  | .column col => { g with column := some col }
  | .join j => { g with join := g.join.or (some j) }

theorem addMember_nil (m : Member) :
    addMember m [] = [ColumnGroup.add ⟨m.physical, none, none⟩ m] := by
  cases m <;> rfl

theorem addMember_cons (m : Member) (g : ColumnGroup) (gs : List ColumnGroup) :
    addMember m (g :: gs) =
      if g.name = m.physical then g.add m :: gs else g :: addMember m gs := by
  cases m <;> rfl

/-- The group of a physical column : the last column field and the first join that lie in it. -/
def groupOf (members : List Member) (name : String) : ColumnGroup where
  name := name
  column := (members.filterMap (·.column?)).reverse.find? (·.name == name)
  join := (members.filterMap (·.join?)).find? (·.target == name)

@[simp] theorem groupOf_name (members : List Member) (name : String) :
    (groupOf members name).name = name :=
  rfl

/-- A further column field is the one of its group. -/
theorem groupOf_concat_column (members : List Member) (col : Column) (name : String) :
    groupOf (members ++ [.column col]) name =
      { groupOf members name with
        column := if col.name == name then some col else (groupOf members name).column } := by
  cases h : col.name == name <;>
    simp only [groupOf, Member.column?, Member.join?, List.filterMap_append, List.filterMap_cons,
      List.filterMap_nil, List.append_nil, List.reverse_append, List.reverse_singleton,
      List.singleton_append, List.find?_cons, h, if_true, Bool.false_eq_true, if_false]

/-- A further join is the one of its group if there is none. -/
theorem groupOf_concat_join (members : List Member) (j : Join) (name : String) :
    groupOf (members ++ [.join j]) name =
      { groupOf members name with
        join := (groupOf members name).join.or (if j.target == name then some j else none) } := by
  cases h : j.target == name <;>
    simp only [groupOf, Member.column?, Member.join?, List.filterMap_append, List.filterMap_cons,
      List.filterMap_nil, List.append_nil, List.find?_append, List.find?_cons, List.find?_nil, h,
      if_true, Bool.false_eq_true, if_false]

/-- One more member goes to the group of its column. -/
theorem groupOf_concat (members : List Member) (m : Member) (name : String) :
    groupOf (members ++ [m]) name =
      if name = m.physical then (groupOf members name).add m else groupOf members name := by
  cases m with
  | column col =>
    rw [groupOf_concat_column]
    by_cases h : name = col.name
    · simp [ColumnGroup.add, Member.physical, h]
    · simp only [Member.physical, h, beq_eq_false_iff_ne.mpr (Ne.symm h), Bool.false_eq_true,
        if_false]
  | join j =>
    rw [groupOf_concat_join]
    by_cases h : name = j.target
    · simp [ColumnGroup.add, Member.physical, h]
    · simp only [Member.physical, h, beq_eq_false_iff_ne.mpr (Ne.symm h), Bool.false_eq_true,
        if_false, Option.or_none]

/-- No member lies in a column that none names. -/
theorem groupOf_of_not_mem {members : List Member} {name : String}
    (h : name ∉ members.map (·.physical)) : groupOf members name = ⟨name, none, none⟩ := by
  induction members using List.reverseRecOn with
  | nil => rfl
  | append_singleton members m ih =>
    simp only [List.map_append, List.map_cons, List.map_nil, List.mem_append, List.mem_singleton,
      not_or] at h
    rw [groupOf_concat, if_neg h.2, ih h.1]

/-- A member of a new column comes last, and one of a column that is there in its place. -/
theorem addMember_map_groupOf {members : List Member} {names : List String} {m : Member}
    (hnodup : names.Nodup) (hnames : m.physical ∈ members.map (·.physical) → m.physical ∈ names) :
    addMember m (names.map (groupOf members)) =
      (if m.physical ∈ names then names else names ++ [m.physical]).map
        (groupOf (members ++ [m])) := by
  have hsame : ∀ ns : List String, m.physical ∉ ns →
      ns.map (groupOf members) = ns.map (groupOf (members ++ [m])) := by
    intro ns hns
    refine List.map_congr_left fun n hn => ?_
    have hne : n ≠ m.physical := fun h => hns (h ▸ hn)
    rw [groupOf_concat, if_neg hne]
  induction names with
  | nil =>
    have hnew : m.physical ∉ members.map (·.physical) := fun h => List.not_mem_nil (hnames h)
    simp [addMember_nil, groupOf_concat, groupOf_of_not_mem hnew]
  | cons n ns ih =>
    obtain ⟨hn, hns⟩ := List.nodup_cons.mp hnodup
    rw [List.map_cons, addMember_cons, groupOf_name]
    by_cases h : n = m.physical
    · subst h
      have hhead : groupOf (members ++ [m]) m.physical = (groupOf members m.physical).add m := by
        rw [groupOf_concat, if_pos rfl]
      rw [if_pos rfl, if_pos List.mem_cons_self, List.map_cons, hhead, hsame ns hn]
    · have h' : m.physical ≠ n := fun hm => h hm.symm
      have htail := ih hns fun hm => (List.mem_cons.mp (hnames hm)).resolve_left h'
      have hhead : groupOf (members ++ [m]) n = groupOf members n := by
        rw [groupOf_concat, if_neg h]
      rw [if_neg h, htail]
      simp only [List.mem_cons, h', false_or]
      split <;> simp [hhead]

/-- The names of new columns are added at the end. -/
theorem eraseDups_concat (names : List String) (name : String) :
    (names ++ [name]).eraseDups =
      if name ∈ names then names.eraseDups else names.eraseDups ++ [name] := by
  rw [List.eraseDups_append]
  by_cases h : name ∈ names <;> simp [List.removeAll, List.eraseDups_cons, h]

theorem nodup_eraseDups (names : List String) : names.eraseDups.Nodup := by
  induction names using List.reverseRecOn with
  | nil => simp
  | append_singleton names name ih =>
    rw [eraseDups_concat]
    split
    · exact ih
    · next h =>
      rw [List.nodup_append]
      refine ⟨ih, by simp, fun a ha b hb hab => h ?_⟩
      rw [List.mem_singleton] at hb
      exact List.mem_eraseDups.mp (hb ▸ hab ▸ ha)

/-- There is one group for each physical column, in the order of their first members. -/
theorem groupMembers_eq (members : List Member) :
    groupMembers members = (members.map (·.physical)).eraseDups.map (groupOf members) := by
  induction members using List.reverseRecOn with
  | nil => rfl
  | append_singleton members m ih =>
    have hsplit : groupMembers (members ++ [m]) = addMember m (groupMembers members) := by
      simp [groupMembers]
    rw [hsplit, ih, addMember_map_groupOf (nodup_eraseDups _) List.mem_eraseDups.mpr,
      List.map_append, List.map_cons, List.map_nil, eraseDups_concat]
    simp only [List.mem_eraseDups]

/-! ## Definitions -/

/-- The definition of a column repeats what is declared for it. -/
theorem ColumnDefinition.make_eq_ok {name : String} {type : SemanticType}
    {nullable primaryKey autoIncrement unique : Bool} {defaultValue : Option String}
    {d : ColumnDefinition}
    (h : ColumnDefinition.make name type nullable primaryKey autoIncrement unique defaultValue
      = .ok d) :
    d.name = name ∧ d.notNull = !nullable ∧ d.unique = (unique && !primaryKey)
      ∧ (d.default = none → isDefault defaultValue = false) := by
  unfold ColumnDefinition.make at h
  split at h
  · simp at h
  cases defaultValue with
  | none =>
    cases h
    exact ⟨rfl, rfl, rfl, fun _ => rfl⟩
  | some s =>
    dsimp only at h
    split at h
    · next hempty =>
      cases h
      exact ⟨rfl, rfl, rfl, fun _ => by simp [isDefault, hempty]⟩
    · obtain ⟨default, hdefault, h⟩ := Except.bind_eq_ok.mp h
      obtain ⟨_, _, rfl⟩ := Except.map_eq_ok.mp hdefault
      cases h
      exact ⟨rfl, rfl, rfl, fun h => nomatch h⟩

/-- The members that define a column of an entity's table : the last column field that lies in it,
with the first join, or the first join alone. -/
inductive DefinedBy (e : Entity) (d : ColumnDefinition) : Prop
  | field {col : Column} (last : e.columns.reverse.find? (·.name == d.name) = some col)
      (notNull : d.notNull = !col.nullable)
      (unique : d.unique = ((col.unique || (e.joins.find? (·.target == d.name)).any (·.unique))
        && !col.primaryKey))
      (default : d.default = none → col.hasDefault = false)
  | join {j : Join} (noField : ∀ col ∈ e.columns, col.name ≠ d.name)
      (first : e.joins.find? (·.target == d.name) = some j) (notNull : d.notNull = !j.nullable)
      (unique : d.unique = j.unique) (default : d.default = none → j.hasDefault = false)

/-- The definition of a group is that of its members. -/
theorem defineColumn_eq_ok {name : String} {d : ColumnDefinition}
    (h : c.defineColumn (groupOf e.members name) = .ok (some d)) :
    d.name = name ∧ DefinedBy e d := by
  cases hcol : (groupOf e.members name).column with
  | some col =>
    rw [Catalogue.defineColumn, hcol] at h
    obtain ⟨d', hd, h⟩ := Except.map_eq_ok.mp (describing_eq_ok.mp h)
    cases h
    obtain ⟨hname, hnull, hunique, hdefault⟩ := ColumnDefinition.make_eq_ok hd
    rw [(Entity.mem_of_last hcol).2] at hname
    subst hname
    exact ⟨rfl, .field hcol hnull hunique hdefault⟩
  | none =>
    cases hjoin : (groupOf e.members name).join with
    | some j =>
      rw [Catalogue.defineColumn, hcol, hjoin] at h
      obtain ⟨type, _, h⟩ := Except.bind_eq_ok.mp h
      obtain ⟨d', hd, h⟩ := Except.map_eq_ok.mp (describing_eq_ok.mp h)
      cases h
      obtain ⟨hname, hnull, hunique, hdefault⟩ := ColumnDefinition.make_eq_ok hd
      rw [(Entity.mem_of_first hjoin).2] at hname
      subst hname
      refine ⟨rfl, .join (fun col hmem => ?_) hjoin hnull (by simpa using hunique) hdefault⟩
      simpa using List.find?_eq_none.mp hcol col (List.mem_reverse.mpr hmem)
    | none =>
      rw [Catalogue.defineColumn, hcol, hjoin] at h
      simp at h

/-- A group with a member has a definition, if none of its parts fails. -/
theorem defineColumn_ne_none {g : ColumnGroup} (h : g.column.isSome ∨ g.join.isSome) :
    c.defineColumn g ≠ .ok none := by
  intro hnone
  unfold Catalogue.defineColumn at hnone
  split at hnone
  · obtain ⟨_, _, h⟩ := Except.map_eq_ok.mp (describing_eq_ok.mp hnone)
    cases h
  · obtain ⟨_, _, hnone⟩ := Except.bind_eq_ok.mp hnone
    obtain ⟨_, _, h⟩ := Except.map_eq_ok.mp (describing_eq_ok.mp hnone)
    cases h
  · next hcol hjoin => simp [hcol, hjoin] at h

/-- The group of a physical column has a member. -/
theorem groupOf_isSome {members : List Member} {name : String}
    (h : name ∈ members.map (·.physical)) :
    (groupOf members name).column.isSome ∨ (groupOf members name).join.isSome := by
  obtain ⟨m, hm, rfl⟩ := List.mem_map.mp h
  cases m with
  | column col =>
    refine .inl (List.find?_isSome.mpr ⟨col, ?_, by simp [Member.physical]⟩)
    exact List.mem_reverse.mpr (List.mem_filterMap.mpr ⟨_, hm, rfl⟩)
  | join j =>
    refine .inr (List.find?_isSome.mpr ⟨j, ?_, by simp [Member.physical]⟩)
    exact List.mem_filterMap.mpr ⟨_, hm, rfl⟩

/-! ## Tables -/

/-- If every value is there, then dropping absent ones drops none. -/
theorem forall₂_filterMap_id {α β : Type} {as : List α} {bs : List (Option β)}
    {R : α → Option β → Prop} (h : List.Forall₂ R as bs) (hnone : ∀ a ∈ as, ¬R a none) :
    List.Forall₂ (fun a b => R a (some b)) as (bs.filterMap id) := by
  induction h with
  | nil => exact .nil
  | @cons a b as bs hb _ ih =>
    have htail := ih fun a' ha' => hnone a' (List.mem_cons_of_mem _ ha')
    cases b with
    | none => exact absurd hb (hnone a List.mem_cons_self)
    | some b => exact .cons hb htail

/-- The table of an entity has one column for each physical column, in the order of their first
members. -/
theorem forall₂_columns (h : c.defineTable e = .ok t) :
    List.Forall₂ (fun name d => c.defineColumn (groupOf e.members name) = .ok (some d))
      e.physicalColumns.eraseDups t.columns := by
  obtain ⟨columns, hcolumns, h⟩ := Except.bind_eq_ok.mp h
  obtain ⟨keys, -, h⟩ := Except.bind_eq_ok.mp h
  cases h
  rw [groupMembers_eq, mapM_eq_ok, List.forall₂_map_left_iff] at hcolumns
  refine forall₂_filterMap_id hcolumns fun name hname => ?_
  exact defineColumn_ne_none (groupOf_isSome (List.mem_eraseDups.mp hname))

theorem defineTable_name (h : c.defineTable e = .ok t) : t.name = e.table := by
  obtain ⟨columns, -, h⟩ := Except.bind_eq_ok.mp h
  obtain ⟨keys, -, h⟩ := Except.bind_eq_ok.mp h
  cases h
  rfl

theorem map_name_columns (h : c.defineTable e = .ok t) :
    t.columns.map (·.name) = e.physicalColumns.eraseDups := by
  have hnames : List.Forall₂ (· = ·) e.physicalColumns.eraseDups (t.columns.map (·.name)) := by
    rw [List.forall₂_map_right_iff]
    exact (forall₂_columns h).imp fun _ _ hd => (defineColumn_eq_ok hd).1.symm
  rw [List.forall₂_eq_eq_eq] at hnames
  exact hnames.symm

/-- The table has just the physical columns. -/
theorem mem_map_name_columns (h : c.defineTable e = .ok t) {name : String} :
    name ∈ t.columns.map (·.name) ↔ name ∈ e.physicalColumns := by
  rw [map_name_columns h, List.mem_eraseDups]

/-- Each column of the table is defined by the members that lie in it. -/
theorem definedBy_of_mem_columns (h : c.defineTable e = .ok t) {d : ColumnDefinition}
    (hd : d ∈ t.columns) : DefinedBy e d := by
  obtain ⟨name, -, hdefined⟩ := exists_of_forall₂ (forall₂_columns h) hd
  exact (defineColumn_eq_ok hdefined).2

/-- A foreign key leads from the target of a join to its source in the related table. -/
theorem mem_foreignKeys (h : c.defineTable e = .ok t) {k : ForeignKey} (hk : k ∈ t.foreignKeys) :
    ∃ j ∈ e.joins, ∃ related source, c.describeRelated j = .ok related
      ∧ c.sourceColumn j = .ok source ∧ k = ⟨j.target, related.table, source.name⟩ := by
  obtain ⟨columns, -, h⟩ := Except.bind_eq_ok.mp h
  obtain ⟨keys, hkeys, h⟩ := Except.bind_eq_ok.mp h
  cases h
  obtain ⟨_, hk, rfl⟩ := List.mem_filterMap.mp hk
  obtain ⟨j, hj, hkey⟩ := exists_of_forall₂ (mapM_eq_ok.mp hkeys) hk
  unfold Catalogue.foreignKey at hkey
  split at hkey
  · simp at hkey
  · simp at hkey
  · next related hrelated =>
    obtain ⟨source, hsource, hkey⟩ := Except.bind_eq_ok.mp hkey
    cases hkey
    exact ⟨j, hj, related, source, hrelated, hsource, rfl⟩

/-- The source of a join is a column of the related entity. -/
theorem sourceColumn_eq_ok {j : Join} {related : Entity} {source : Column}
    (hrelated : c.describeRelated j = .ok related) (h : c.sourceColumn j = .ok source) :
    source ∈ related.columns := by
  obtain ⟨related', hrelated', h⟩ := Except.bind_eq_ok.mp h
  cases hrelated.symm.trans hrelated'
  split at h
  · next col hcol =>
    cases h
    rcases Option.or_eq_some_iff.mp hcol with hcol | ⟨-, hcol⟩
    · exact List.mem_of_find?_eq_some hcol
    · exact List.mem_of_find?_eq_some hcol
  · simp at h

end EntityMap
