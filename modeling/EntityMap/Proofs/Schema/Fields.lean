import Mathlib.Data.List.Nodup
import EntityMap.Proofs.Result
import EntityMap.Schema.Describe

/-!
# The fields of an entity

In a catalogue of declarations no two fields of a record have one name : a field that is declared
again keeps its place (`addField`), so whatever a class inherits and adds stays distinct
(`ofDeclarations_distinct`). A description has one member for each mapped field under the name of
the field, hence its columns and joins lie in different fields too (`Entity.Distinct`). It has at
most one primary key, and only a primary key is counted up by the database (`Keyed`).
-/

namespace EntityMap

/-! ## Records -/

/-- The names of the fields are those that were there, and the new one at the end unless it was. -/
theorem map_name_addField (f : Field) (fs : List Field) :
    (addField f fs).map (·.name) =
      if f.name ∈ fs.map (·.name) then fs.map (·.name) else fs.map (·.name) ++ [f.name] := by
  induction fs with
  | nil => rfl
  | cons g gs ih =>
    by_cases h : g.name = f.name
    · simp [addField, h]
    · have h' : ¬f.name = g.name := fun hf => h hf.symm
      simp only [addField, h, if_false, List.map_cons, ih, List.mem_cons, h', false_or]
      split <;> rfl

theorem nodup_addField (f : Field) {fs : List Field} (h : (fs.map (·.name)).Nodup) :
    ((addField f fs).map (·.name)).Nodup := by
  rw [map_name_addField]
  split
  · exact h
  · next hf =>
    rw [List.nodup_append]
    refine ⟨h, by simp, ?_⟩
    rintro a ha b hb rfl
    exact hf (List.mem_singleton.mp hb ▸ ha)

/-- Fields that fit together are taken as they are. -/
theorem checkRecord_eq_ok {own : List String} {fields checked : List Field}
    (h : checkRecord own fields = .ok checked) : checked = fields := by
  unfold checkRecord at h
  dsimp only at h
  split at h
  · simp at h
  · simp at h
  · simp at h
  · simp at h
  · exact (Except.ok.inj h).symm

/-- The fields of a record have different names. -/
def EntityClass.Distinct (cls : EntityClass) : Prop :=
  ∀ fields, cls.fields = some fields → (fields.map (·.name)).Nodup

/-- A class that is made of a base with distinct fields has distinct fields. -/
theorem ofDeclaration_distinct {base : Option EntityClass} {d : ClassDeclaration}
    {cls : EntityClass} (hbase : ∀ b, base = some b → b.Distinct)
    (h : EntityClass.ofDeclaration base d = .ok cls) : cls.Distinct := by
  have hinherited : ∀ fields, base.bind (·.fields) = some fields → (fields.map (·.name)).Nodup := by
    intro fields hf
    obtain ⟨b, hb, hf⟩ := Option.bind_eq_some_iff.mp hf
    exact hbase b hb fields hf
  have hstart : (((base.bind (·.fields)).getD []).map (·.name)).Nodup := by
    cases hb : base.bind (·.fields) with
    | none => simp
    | some fields => exact hinherited fields hb
  have hadd : ∀ (role : String → FieldRole) (names : List String) (fs : List Field),
      (fs.map (·.name)).Nodup →
        ((names.foldl (fun fs name => addField ⟨name, role name⟩ fs) fs).map (·.name)).Nodup := by
    intro role names
    induction names with
    | nil => exact fun _ hfs => hfs
    | cons n names ih => exact fun fs hfs => ih _ (nodup_addField _ hfs)
  unfold EntityClass.ofDeclaration at h
  dsimp only at h
  split at h
  · obtain ⟨fields, hfields, h⟩ := Except.bind_eq_ok.mp h
    cases h
    rintro fs rfl
    obtain ⟨checked, hc, hfs⟩ := Except.map_eq_ok.mp hfields
    cases hfs
    rw [checkRecord_eq_ok hc]
    exact hadd _ _ _ hstart
  · obtain ⟨fields, hfields, h⟩ := Except.bind_eq_ok.mp h
    cases h
    rintro fs rfl
    exact hinherited fs (Except.ok.inj hfields)

/-! ## Catalogues -/

/-- All records have distinct fields. -/
def Catalogue.Distinct (c : Catalogue) : Prop := ∀ cls ∈ c.classes, cls.Distinct

theorem Catalogue.add_distinct {c c' : Catalogue} {d : ClassDeclaration} (hc : c.Distinct)
    (h : c.add d = .ok c') : c'.Distinct := by
  obtain ⟨cls, hcls, h⟩ := Except.bind_eq_ok.mp h
  cases h
  have hbase : ∀ b, d.base.bind c.find? = some b → b.Distinct := by
    intro b hb
    obtain ⟨name, -, hb⟩ := Option.bind_eq_some_iff.mp hb
    exact hc b (List.mem_of_find?_eq_some hb)
  intro k hk
  rcases List.mem_cons.mp hk with rfl | hk
  · exact ofDeclaration_distinct hbase hcls
  · exact hc k hk

/-- All records of a catalogue of declarations have distinct fields. -/
theorem ofDeclarations_distinct {ds : List ClassDeclaration} {constants : List (String × Value)}
    {c : Catalogue} (h : Catalogue.ofDeclarations ds constants = .ok c) : c.Distinct :=
  foldlM_keeps ds (fun _ _ _ _ hc => Catalogue.add_distinct hc) (by simp [Catalogue.Distinct]) h

/-! ## Descriptions -/

/-- The field of a member. -/
def Member.field : Member → String
  | column c => c.field
  | join j => j.field

/-- The members lie in different fields. -/
def Entity.Distinct (e : Entity) : Prop := (e.members.map (·.field)).Nodup

theorem describing_eq_ok {α : Type} {r : Except SchemaError α} {a : α} :
    describing r = .ok a ↔ r = .ok a := by
  cases r <;> simp [describing]

/-- A column whose flags agree is taken as it is. -/
theorem Column.check_eq_ok {c col : Column} (h : c.check = .ok col) : col = c := by
  unfold Column.check at h
  split at h
  · simp at h
  · split at h
    · simp at h
    · exact (Except.ok.inj h).symm

/-- A column has the name of the field that it is made of. -/
theorem Column.ofSpec_field {c : Catalogue} {className field : String} {m : Annotation.Meaning}
    {spec : ColumnSpec} {col : Column} (h : Column.ofSpec c className field m spec = .ok col) :
    col.field = field := by
  unfold Column.ofSpec at h
  dsimp only at h
  split at h <;> obtain ⟨type, -, h⟩ := Except.bind_eq_ok.mp h
  · rw [Column.check_eq_ok (describing_eq_ok.mp h)]
  · rw [Column.check_eq_ok (describing_eq_ok.mp h)]

/-- A join has the name of the field that it is made of. -/
theorem Join.ofSpec_field {c : Catalogue} {className field : String} {spec : JoinSpec} {j : Join}
    (h : Join.ofSpec c className field spec = .ok j) : j.field = field := by
  unfold Join.ofSpec at h
  split at h
  · simp at h
  · split at h
    · simp at h
    · obtain ⟨related, -, h⟩ := Except.bind_eq_ok.mp h
      cases h
      rfl

/-- The member of a field has the field's name. -/
theorem Member.ofField_field {c : Catalogue} {className : String}
    {meanings : List (String × Annotation.Meaning)} {f : Field} {m : Member}
    (h : Member.ofField c className meanings f = .ok (some m)) : m.field = f.name := by
  unfold Member.ofField at h
  split at h
  · obtain ⟨col, hcol, hm⟩ := Except.map_eq_ok.mp h
    cases hm
    exact Column.ofSpec_field hcol
  · obtain ⟨j, hj, hm⟩ := Except.map_eq_ok.mp (describing_eq_ok.mp h)
    cases hm
    exact Join.ofSpec_field hj
  · simp at h

/-- One more field adds its member at the end, if it is mapped. -/
theorem Member.addField_eq_ok {c : Catalogue} {className : String}
    {meanings : List (String × Annotation.Meaning)} {members members' : List Member} {f : Field}
    (h : Member.addField c className meanings members f = .ok members') :
    ∃ added, Member.ofField c className meanings f = .ok added
      ∧ members' = members ++ added.toList := by
  obtain ⟨added, hadded, h⟩ := Except.bind_eq_ok.mp h
  refine ⟨added, hadded, ?_⟩
  split at h
  · cases h
    simp
  · split at h
    · simp at h
    · cases h
      rfl
  · cases h
    rfl

/-- The members are those of the mapped fields, in their order. -/
theorem foldlM_addField_eq_ok {c : Catalogue} {className : String}
    {meanings : List (String × Annotation.Meaning)} {fs : List Field}
    {members members' : List Member}
    (h : fs.foldlM (Member.addField c className meanings) members = .ok members') :
    ∃ added, fs.mapM (Member.ofField c className meanings) = .ok added
      ∧ members' = members ++ added.filterMap id := by
  induction fs generalizing members with
  | nil =>
    cases h
    exact ⟨[], rfl, by simp⟩
  | cons f fs ih =>
    rw [List.foldlM_cons] at h
    obtain ⟨next, hnext, h⟩ := Except.bind_eq_ok.mp h
    obtain ⟨first, hfirst, rfl⟩ := Member.addField_eq_ok hnext
    obtain ⟨rest, hrest, rfl⟩ := ih h
    refine ⟨first :: rest, mapM_eq_ok.mpr (.cons hfirst (mapM_eq_ok.mp hrest)), ?_⟩
    cases first <;> simp

/-- They lie in different fields, if the fields are different. -/
theorem sublist_map_field {c : Catalogue} {className : String}
    {meanings : List (String × Annotation.Meaning)} {fs : List Field} {added : List (Option Member)}
    (h : fs.mapM (Member.ofField c className meanings) = .ok added) :
    ((added.filterMap id).map (·.field)).Sublist (fs.map (·.name)) := by
  induction mapM_eq_ok.mp h with
  | nil => exact List.Sublist.slnil
  | @cons f added fs rest hfirst hrest ih =>
    have ih := ih (mapM_eq_ok.mpr hrest)
    cases added with
    | none => exact ih.cons _
    | some m =>
      rw [List.filterMap_cons_some (by rfl), List.map_cons, List.map_cons,
        Member.ofField_field hfirst]
      exact ih.cons_cons _

/-- The description of a class with distinct fields has its members in different fields. -/
theorem EntityClass.describe_distinct {c : Catalogue} {cls : EntityClass} {e : Entity}
    (hcls : cls.Distinct) (h : cls.describe c = .ok e) : e.Distinct := by
  obtain ⟨table, -, h⟩ := Except.bind_eq_ok.mp h
  split at h
  · simp at h
  · next fields hfields =>
    obtain ⟨meanings, -, h⟩ := Except.bind_eq_ok.mp h
    obtain ⟨members, hmembers, h⟩ := Except.bind_eq_ok.mp h
    obtain ⟨added, hadded, rfl⟩ := foldlM_addField_eq_ok hmembers
    split at h
    · simp at h
    · cases h
      exact (sublist_map_field hadded).nodup (hcls fields hfields)

theorem Catalogue.Distinct.describe {c : Catalogue} (hc : c.Distinct) {className : String}
    {e : Entity} (h : c.describe className = .ok e) : e.Distinct := by
  unfold Catalogue.describe at h
  split at h
  · next cls hcls => exact EntityClass.describe_distinct (hc cls (List.mem_of_find?_eq_some hcls)) h
  · simp at h

theorem Catalogue.Distinct.describeRelated {c : Catalogue} (hc : c.Distinct) {j : Join}
    {e : Entity} (h : c.describeRelated j = .ok e) : e.Distinct := by
  unfold Catalogue.describeRelated at h
  split at h
  · next cls hcls =>
    have hmem : cls ∈ c.classes := by
      have := List.mem_of_getElem? hcls
      rw [Catalogue.versions, List.mem_reverse, List.mem_filter] at this
      exact this.1
    exact EntityClass.describe_distinct (hc cls hmem) h
  · simp at h

/-! ## Columns and joins -/

theorem Entity.mem_joins {e : Entity} {j : Join} : j ∈ e.joins ↔ .join j ∈ e.members := by
  unfold Entity.joins
  rw [List.mem_filterMap]
  constructor
  · rintro ⟨m, hm, h⟩
    cases m with
    | column c => simp [Member.join?] at h
    | join j' =>
      cases h
      exact hm
  · exact fun h => ⟨_, h, rfl⟩

theorem Entity.mem_columns {e : Entity} {c : Column} : c ∈ e.columns ↔ .column c ∈ e.members := by
  unfold Entity.columns
  rw [List.mem_filterMap]
  constructor
  · rintro ⟨m, hm, h⟩
    cases m with
    | column c' =>
      cases h
      exact hm
    | join j => simp [Member.column?] at h
  · exact fun h => ⟨_, h, rfl⟩

/-- No join lies in the field of a column. -/
theorem Entity.Distinct.join_ne_column {e : Entity} (he : e.Distinct) {j : Join} {c : Column}
    (hj : j ∈ e.joins) (hc : c ∈ e.columns) : j.field ≠ c.field := by
  intro h
  have := List.inj_on_of_nodup_map he (Entity.mem_joins.mp hj) (Entity.mem_columns.mp hc) h
  simp at this

/-- No two columns lie in one field. -/
theorem Entity.Distinct.column_eq {e : Entity} (he : e.Distinct) {c c' : Column}
    (hc : c ∈ e.columns) (hc' : c' ∈ e.columns) (h : c.field = c'.field) : c = c' := by
  have hsame := List.inj_on_of_nodup_map he (mem_columns.mp hc) (mem_columns.mp hc') h
  exact Member.column.inj hsame

/-- The columns lie in different fields. -/
theorem Entity.Distinct.nodup_columns {e : Entity} (he : e.Distinct) :
    (e.columns.map (·.field)).Nodup := by
  refine List.Sublist.nodup ?_ he
  unfold columns
  induction e.members with
  | nil => exact List.Sublist.slnil
  | cons m ms ih =>
    cases m with
    | column c => exact ih.cons_cons _
    | join j => exact ih.cons _

/-- The joins lie in different fields. -/
theorem Entity.Distinct.nodup_joins {e : Entity} (he : e.Distinct) :
    (e.joins.map (·.field)).Nodup := by
  refine List.Sublist.nodup ?_ he
  unfold joins
  induction e.members with
  | nil => exact List.Sublist.slnil
  | cons m ms ih =>
    cases m with
    | column c => exact ih.cons _
    | join j => exact ih.cons_cons _

/-! ## Keys -/

variable {c : Catalogue} {e : Entity}

/-- At most one column is a primary key, and only a primary key is counted up. -/
structure Keyed (members : List Member) : Prop where
  single : ((members.filterMap (·.column?)).filter (·.primaryKey)).length ≤ 1
  autoIncrement : ∀ col, .column col ∈ members → col.autoIncrement = true → col.primaryKey = true

theorem Column.primaryKey_of_check {col col' : Column} (h : col.check = .ok col')
    (hauto : col'.autoIncrement = true) : col'.primaryKey = true := by
  obtain rfl := Column.check_eq_ok h
  unfold Column.check at h
  split at h
  · simp at h
  · next hflags =>
    by_contra hkey
    exact hflags (by simp [hauto, hkey])

theorem Column.primaryKey_of_ofSpec {className field : String} {m : Annotation.Meaning}
    {spec : ColumnSpec} {col : Column} (h : Column.ofSpec c className field m spec = .ok col)
    (hauto : col.autoIncrement = true) : col.primaryKey = true := by
  unfold Column.ofSpec at h
  dsimp only at h
  split at h <;> obtain ⟨type, -, h⟩ := Except.bind_eq_ok.mp h
  · exact Column.primaryKey_of_check (describing_eq_ok.mp h) hauto
  · exact Column.primaryKey_of_check (describing_eq_ok.mp h) hauto

/-- A column field is made by its specification. -/
theorem Member.ofField_column {className : String} {meanings : List (String × Annotation.Meaning)}
    {f : Field} {col : Column}
    (h : Member.ofField c className meanings f = .ok (some (.column col))) :
    ∃ m spec, Column.ofSpec c className f.name m spec = .ok col := by
  unfold Member.ofField at h
  split at h
  · obtain ⟨col', hcol, hm⟩ := Except.map_eq_ok.mp h
    cases hm
    exact ⟨_, _, hcol⟩
  · obtain ⟨j, -, hm⟩ := Except.map_eq_ok.mp (describing_eq_ok.mp h)
    cases hm
  · simp at h

/-- One more field keeps this : a second primary key is refused. -/
theorem Keyed.addField {className : String} {meanings : List (String × Annotation.Meaning)}
    {members members' : List Member} {f : Field} (hkeyed : Keyed members)
    (h : Member.addField c className meanings members f = .ok members') : Keyed members' := by
  obtain ⟨added, hadded, h⟩ := Except.bind_eq_ok.mp h
  split at h
  · cases h
    exact hkeyed
  · next col =>
    obtain ⟨m, spec, hspec⟩ := Member.ofField_column hadded
    split at h
    · simp at h
    next hfirst =>
    cases h
    refine ⟨?_, fun col' hcol' => ?_⟩
    · rw [List.filterMap_append, List.filter_append, List.length_append]
      cases hkey : col.primaryKey with
      | false => simpa [Member.column?, hkey] using hkeyed.single
      | true =>
        have hnone : (members.filterMap (·.column?)).find? (·.primaryKey) = none := by
          rw [Option.eq_none_iff_forall_not_mem]
          exact fun first hmem => hfirst first hmem hkey
        rw [List.filter_eq_nil_iff.mpr (List.find?_eq_none.mp hnone)]
        simp [Member.column?, hkey]
    · rcases List.mem_append.mp hcol' with hcol' | hcol'
      · exact hkeyed.autoIncrement col' hcol'
      · cases List.mem_singleton.mp hcol'
        exact Column.primaryKey_of_ofSpec hspec
  · next m hm =>
    cases h
    cases m with
    | column col => exact absurd rfl (hm col)
    | join j =>
      refine ⟨?_, fun col' hcol' => hkeyed.autoIncrement col' ?_⟩
      · simpa [Member.column?] using hkeyed.single
      · simpa using hcol'

theorem EntityClass.describe_keyed {cls : EntityClass} (h : cls.describe c = .ok e) :
    Keyed e.members ∧ e.members ≠ [] := by
  obtain ⟨table, -, h⟩ := Except.bind_eq_ok.mp h
  split at h
  · simp at h
  · next fields hfields =>
    obtain ⟨meanings, -, h⟩ := Except.bind_eq_ok.mp h
    obtain ⟨members, hmembers, h⟩ := Except.bind_eq_ok.mp h
    have hkeyed : Keyed members :=
      foldlM_keeps fields (fun _ _ _ _ hmembers => hmembers.addField) ⟨by simp, by simp⟩ hmembers
    split at h
    · simp at h
    · next hne =>
      cases h
      exact ⟨hkeyed, by simpa using hne⟩

theorem Catalogue.describe_keyed {className : String} (h : c.describe className = .ok e) :
    Keyed e.members := by
  unfold Catalogue.describe at h
  split at h
  · exact (EntityClass.describe_keyed h).1
  · simp at h

/-- Of two primary keys of an entity each is the other. -/
theorem Keyed.unique (h : Keyed e.members) {col col' : Column} (hcol : col ∈ e.columns)
    (hcol' : col' ∈ e.columns) (hkey : col.primaryKey = true) (hkey' : col'.primaryKey = true) :
    col = col' := by
  have hmem : col ∈ e.columns.filter (·.primaryKey) := List.mem_filter.mpr ⟨hcol, hkey⟩
  have hmem' : col' ∈ e.columns.filter (·.primaryKey) := List.mem_filter.mpr ⟨hcol', hkey'⟩
  have hsingle : (e.columns.filter (·.primaryKey)).length ≤ 1 := h.single
  rcases hfilter : e.columns.filter (·.primaryKey) with _ | ⟨key, _ | ⟨_, _⟩⟩
  · simp [hfilter] at hmem
  · rw [hfilter, List.mem_singleton] at hmem hmem'
    exact hmem.trans hmem'.symm
  · simp [hfilter] at hsingle

/-- The key of an entity, if the database counts it up. -/
def Entity.countedKey? (e : Entity) : Option Column := e.primaryKey.filter (·.autoIncrement)

theorem Entity.mem_of_countedKey? {key : Column} (h : e.countedKey? = some key) :
    key ∈ e.columns := by
  obtain ⟨hkey, -⟩ := Option.filter_eq_some_iff.mp h
  exact List.mem_of_find?_eq_some hkey

/-- A column that is counted up is the key that is. -/
theorem Keyed.countedKey?_eq_some (h : Keyed e.members) {col : Column} (hcol : col ∈ e.columns)
    (hauto : col.autoIncrement = true) : e.countedKey? = some col := by
  have hkey := h.autoIncrement col (Entity.mem_columns.mp hcol) hauto
  have hfound : (e.columns.find? (·.primaryKey)).isSome :=
    List.find?_isSome.mpr ⟨col, hcol, hkey⟩
  obtain ⟨first, hfirst⟩ := Option.isSome_iff_exists.mp hfound
  cases h.unique hcol (List.mem_of_find?_eq_some hfirst) hkey (List.find?_some hfirst)
  rw [Entity.countedKey?, Entity.primaryKey, hfirst, Option.filter_some, if_pos hauto]

/-- No other column is counted up. -/
theorem Keyed.autoIncrement_eq_false (h : Keyed e.members) {col : Column} (hcol : col ∈ e.columns)
    (hne : e.countedKey? ≠ some col) : col.autoIncrement = false := by
  by_contra hauto
  exact hne (h.countedKey?_eq_some hcol (Bool.of_not_eq_false hauto))

end EntityMap
