import EntityMap.Proofs.Schema.Inheritance

/-!
# Registries

A registry answers as if it remembered nothing : what it knows is what describing gives anyway
(`Registry.Sound`), each call keeps this (`Registry.Sound.describe`), and so do all calls one after
another (`Registry.Sound.describeAll`). What it answers is the description of a class in the sense
of `EntityClass.Describes`.
-/

namespace EntityMap

variable {c : Catalogue}

/-! ## Calls -/

namespace Registry

/-- The answers to calls one after another, and the registry after them. -/
def describeAll (c : Catalogue) :
    List String → Registry → List (Except DescribeError Entity) × Registry
  | [], r => ([], r)
  | name :: names, r =>
    let (answer, r) := r.describe c name
    let (answers, r) := describeAll c names r
    (answer :: answers, r)

/-- What the registry knows is what describing gives. -/
def Sound (c : Catalogue) (r : Registry) : Prop :=
  ∀ name e, r.known.lookup name = some e → c.describe name = .ok e

theorem sound_empty (c : Catalogue) : Sound c {} := nofun

theorem describe_empty (c : Catalogue) (name : String) :
    (describe c name {}).1 = c.describe name := by
  unfold describe
  dsimp only [List.lookup_nil]
  cases c.describe name <;> rfl

/-- One call answers what describing gives, and what was known stays known. The class becomes known
exactly if it is described. -/
theorem Sound.describe {r : Registry} (hr : Sound c r) (name : String) :
    (r.describe c name).1 = c.describe name
      ∧ Sound c (r.describe c name).2
      ∧ ∀ other, (r.describe c name).2.knows other = true ↔
          r.knows other = true ∨ other = name ∧ ∃ e, c.describe name = .ok e := by
  unfold Registry.describe
  cases hknown : r.known.lookup name with
  | some e =>
    have he := hr name e hknown
    refine ⟨he.symm, hr, fun other => ⟨.inl, ?_⟩⟩
    rintro (h | ⟨rfl, -⟩)
    · exact h
    · dsimp only [knows]
      rw [hknown]
      rfl
  | none =>
    dsimp only
    cases he : c.describe name with
    | error err => simpa using hr
    | ok e =>
      refine ⟨rfl, fun other e' h => ?_, fun other => ?_⟩
      · rw [List.lookup_cons] at h
        split at h
        · next hsame =>
          cases h
          rw [beq_iff_eq.mp hsame]
          exact he
        · exact hr other e' h
      · unfold knows
        rw [List.lookup_cons]
        cases hsame : other == name with
        | true => simp [beq_iff_eq.mp hsame]
        | false => simp [ne_of_beq_false hsame]

/-- Calls one after another answer what describing gives, and make known exactly the classes that
one of them describes. -/
theorem Sound.describeAll {r : Registry} (hr : Sound c r) (names : List String) :
    (describeAll c names r).1 = names.map c.describe
      ∧ Sound c (describeAll c names r).2
      ∧ ∀ other, (describeAll c names r).2.knows other = true ↔
          r.knows other = true ∨ other ∈ names ∧ ∃ e, c.describe other = .ok e := by
  induction names generalizing r with
  | nil => exact ⟨rfl, hr, by simp [Registry.describeAll]⟩
  | cons name names ih =>
    obtain ⟨hanswer, hnext, hknows⟩ := hr.describe name
    obtain ⟨hanswers, hlast, hknows'⟩ := ih hnext
    unfold Registry.describeAll
    refine ⟨?_, hlast, fun other => ?_⟩
    · dsimp only
      rw [hanswer, hanswers, List.map_cons]
    · dsimp only
      rw [hknows', hknows, List.mem_cons]
      constructor
      · rintro ((h | ⟨rfl, h⟩) | ⟨hmem, h⟩)
        · exact .inl h
        · exact .inr ⟨.inl rfl, h⟩
        · exact .inr ⟨.inr hmem, h⟩
      · rintro (h | ⟨rfl | hmem, h⟩)
        · exact .inl (.inl h)
        · exact .inl (.inr ⟨rfl, h⟩)
        · exact .inr ⟨hmem, h⟩

end Registry

/-! ## Descriptions -/

/-- The field is declared as a column. -/
def FieldRole.isColumn : FieldRole → Bool
  | column _ => true
  | _ => false

/-- The field is declared as a join. -/
def FieldRole.isJoin : FieldRole → Bool
  | join _ => true
  | _ => false

/-- An entity is well formed and has just the fields that are declared as columns or joins in the
record of its class. -/
structure EntityClass.Describes (cls : EntityClass) (e : Entity) : Prop where
  className : e.className = cls.name
  table : cls.table = some e.table
  table_ne : e.table ≠ ""
  members_ne : e.members ≠ []
  members : ∃ fields, cls.fields = some fields
    ∧ e.members.map (·.field) = (fields.filter (·.role.isMapped)).map (·.name)
    ∧ e.columns.map (·.field) = (fields.filter (·.role.isColumn)).map (·.name)
    ∧ e.joins.map (·.field) = (fields.filter (·.role.isJoin)).map (·.name)
  disjoint : (e.columns.map (·.field)).Disjoint (e.joins.map (·.field))
  primaryKey : e.columns.filter (·.primaryKey) = e.primaryKey.toList
  autoIncrement : ∀ col ∈ e.columns, col.autoIncrement = true → col.primaryKey = true
  notNull : ∀ col ∈ e.columns, col.primaryKey = true → col.nullable = false

/-- The members that are of one kind lie in the fields that are. -/
theorem map_field_filterMap {α : Type} {className : String}
    {meanings : List (String × Annotation.Meaning)} {pick : Member → Option α} {field : α → String}
    {kind : FieldRole → Bool}
    (hkind : ∀ f o, Member.ofField c className meanings f = .ok o →
      (o.bind pick).map field = if kind f.role then some f.name else none)
    {fs : List Field} {added : List (Option Member)}
    (h : fs.mapM (Member.ofField c className meanings) = .ok added) :
    ((added.filterMap id).filterMap pick).map field
      = (fs.filter (kind ·.role)).map (·.name) := by
  replace h := mapM_eq_ok.mp h
  rw [List.filterMap_filterMap, List.map_filterMap]
  induction h with
  | nil => rfl
  | @cons f o fs rest hfirst hrest ih =>
    rw [List.filterMap_cons, id_eq, hkind f o hfirst, ih]
    cases hrole : kind f.role with
    | true => simp [hrole]
    | false => simp [hrole]

/-- A field is mapped to a member of the kind that it is declared as. -/
theorem Member.ofField_kind {className : String} {meanings : List (String × Annotation.Meaning)}
    {f : Field} {o : Option Member} (h : Member.ofField c className meanings f = .ok o) :
    o.map (·.field) = (if f.role.isMapped then some f.name else none)
      ∧ (o.bind (·.column?)).map (·.field) = (if f.role.isColumn then some f.name else none)
      ∧ (o.bind (·.join?)).map (·.field) = if f.role.isJoin then some f.name else none := by
  have hfield (m : Member) (hm : o = some m) : m.field = f.name :=
    Member.ofField_field (hm ▸ h)
  unfold Member.ofField at h
  split at h
  · next spec hrole =>
    obtain ⟨col, -, rfl⟩ := Except.map_eq_ok.mp h
    have hname : col.field = f.name := hfield _ rfl
    simp [hrole, FieldRole.isMapped, FieldRole.isColumn, FieldRole.isJoin, Member.field,
      Member.column?, Member.join?, hname]
  · next spec hrole =>
    obtain ⟨j, -, rfl⟩ := Except.map_eq_ok.mp (describing_eq_ok.mp h)
    have hname : j.field = f.name := hfield _ rfl
    simp [hrole, FieldRole.isMapped, FieldRole.isColumn, FieldRole.isJoin, Member.field,
      Member.column?, Member.join?, hname]
  · next initial hrole =>
    cases h
    simp [hrole, FieldRole.isMapped, FieldRole.isColumn, FieldRole.isJoin]

/-- The flags of a field's column agree. -/
theorem Column.check_of_ofSpec {className field : String} {m : Annotation.Meaning}
    {spec : ColumnSpec} {col : Column} (h : Column.ofSpec c className field m spec = .ok col) :
    col.check = .ok col := by
  unfold Column.ofSpec at h
  dsimp only at h
  split at h <;> obtain ⟨type, -, h⟩ := Except.bind_eq_ok.mp h
  all_goals
    have hcheck := describing_eq_ok.mp h
    rwa [← Column.check_eq_ok hcheck] at hcheck

theorem Column.nullable_of_check {col : Column} (h : col.check = .ok col)
    (hkey : col.primaryKey = true) : col.nullable = false := by
  unfold Column.check at h
  split at h
  · cases h
  · split at h
    · cases h
    · next hflags =>
      by_contra hnullable
      exact hflags (by simp [hkey, hnullable])

/-- The primary key is the only column that is flagged as one. -/
theorem Keyed.filter_primaryKey {e : Entity} (h : Keyed e.members) :
    e.columns.filter (·.primaryKey) = e.primaryKey.toList := by
  have hsingle : (e.columns.filter (·.primaryKey)).length ≤ 1 := h.single
  rw [Entity.primaryKey, ← List.head?_filter]
  rcases hkeys : e.columns.filter (·.primaryKey) with _ | ⟨key, rest⟩
  · rw [hkeys]
    rfl
  · rw [hkeys, List.length_cons] at hsingle
    rw [hkeys, List.eq_nil_of_length_eq_zero (by omega : rest.length = 0)]
    rfl

theorem EntityClass.tableName_eq_ok {cls : EntityClass} {table : String}
    (h : cls.tableName = .ok table) : cls.table = some table ∧ table ≠ "" := by
  unfold EntityClass.tableName at h
  split at h
  · cases h
  · next hsome =>
    split at h
    · cases h
    · next hne =>
      cases h
      exact ⟨hsome, hne⟩

/-- Describing a class gives a description of it. -/
theorem EntityClass.describes {cls : EntityClass} {e : Entity} (hdistinct : cls.Distinct)
    (h : cls.describe c = .ok e) : cls.Describes e := by
  have hkeyed := (EntityClass.describe_keyed h).1
  have hfields := EntityClass.describe_distinct hdistinct h
  obtain ⟨table, htable, h⟩ := Except.bind_eq_ok.mp h
  obtain ⟨htable, hne⟩ := EntityClass.tableName_eq_ok (describing_eq_ok.mp htable)
  split at h
  · cases h
  next fields hrecord =>
  obtain ⟨meanings, -, h⟩ := Except.bind_eq_ok.mp h
  obtain ⟨members, hmembers, h⟩ := Except.bind_eq_ok.mp h
  obtain ⟨added, hadded, rfl⟩ := foldlM_addField_eq_ok hmembers
  split at h
  · cases h
  next hsome =>
  cases h
  have hspec (col : Column) (hcol : .column col ∈ added.filterMap id) :
      col.check = .ok col := by
    obtain ⟨_, hmem, rfl⟩ := List.mem_filterMap.mp hcol
    obtain ⟨f, -, hmade⟩ := exists_of_forall₂ (mapM_eq_ok.mp hadded) hmem
    obtain ⟨m, spec, hcol⟩ := Member.ofField_column hmade
    exact Column.check_of_ofSpec hcol
  refine ⟨rfl, htable, hne, by simpa using hsome, ⟨fields, hrecord, ?_, ?_, ?_⟩, ?_,
    hkeyed.filter_primaryKey, fun col hcol => hkeyed.autoIncrement col (Entity.mem_columns.mp hcol),
    fun col hcol => Column.nullable_of_check (hspec col (Entity.mem_columns.mp hcol))⟩
  · have hkind (f : Field) (o : Option Member) (ho : Member.ofField c cls.name meanings f = .ok o) :
        (o.bind some).map (·.field) = if f.role.isMapped then some f.name else none := by
      rw [Option.bind_fun_some]
      exact (Member.ofField_kind ho).1
    have h := map_field_filterMap hkind hadded
    rwa [List.filterMap_some] at h
  · exact map_field_filterMap (fun f o ho => (Member.ofField_kind ho).2.1) hadded
  · exact map_field_filterMap (fun f o ho => (Member.ofField_kind ho).2.2) hadded
  · intro name hcolumn hjoin
    obtain ⟨col, hcol, rfl⟩ := List.mem_map.mp hcolumn
    obtain ⟨j, hj, hsame⟩ := List.mem_map.mp hjoin
    exact hfields.join_ne_column hj hcol hsame

/-! ## Descriptions that are given -/

/-- Let a registry that knows nothing be asked for classes one after another, in any order. Each
answer is the one that a registry gives at first. It then knows exactly the classes that one of the
answers described. Every description among the answers is one of its class. -/
theorem describeAll_describes {ds : List ClassDeclaration} {constants : List (String × Value)}
    (hcatalogue : Catalogue.ofDeclarations ds constants = .ok c) {names : List String}
    {answers : List (Except DescribeError Entity)} {r : Registry}
    (hcalls : Registry.describeAll c names {} = (answers, r)) :
    answers = names.map (fun name => (Registry.describe c name {}).1)
      ∧ (∀ name, r.knows name = true ↔ ∃ e, (name, .ok e) ∈ names.zip answers)
      ∧ ∀ name e, (name, .ok e) ∈ names.zip answers →
          ∃ cls, c.find? name = some cls ∧ cls.name = name ∧ cls.Describes e := by
  obtain ⟨hanswers, -, hknows⟩ := (Registry.sound_empty c).describeAll names
  rw [hcalls] at hanswers hknows
  obtain rfl : answers = names.map c.describe := hanswers
  have hzip (name : String) (e : Entity) :
      (name, .ok e) ∈ names.zip (names.map c.describe)
        ↔ name ∈ names ∧ c.describe name = .ok e := by
    rw [← List.map_prod_left_eq_zip]
    simp only [List.mem_map, Prod.mk.injEq]
    constructor
    · rintro ⟨_, hmem, rfl, he⟩
      exact ⟨hmem, he⟩
    · rintro ⟨hmem, he⟩
      exact ⟨name, hmem, rfl, he⟩
  refine ⟨List.map_congr_left fun name _ => (Registry.describe_empty c name).symm,
    fun name => ?_, fun name e hanswer => ?_⟩
  · simp only [hzip, hknows name, exists_and_left]
    exact or_iff_right (by simp [Registry.knows])
  · have he := ((hzip name e).mp hanswer).2
    unfold Catalogue.describe at he
    split at he
    · next cls hcls =>
      have hdistinct := ofDeclarations_distinct hcatalogue cls (List.mem_of_find?_eq_some hcls)
      exact ⟨cls, hcls, by simpa using List.find?_some hcls, EntityClass.describes hdistinct he⟩
    · cases he

namespace Sample.Instruments

/-- A class with two primary keys. -/
def meter : ClassDeclaration where
  name := "Meter"
  table := some "meters"
  fields := [key, column "serial" "str" { primaryKey := true }]

def meters : Catalogue :=
  (Catalogue.ofDeclarations [instrument, gauge, meter] []).toOption.getD {}

theorem meters_describe_meter : meters.describe "Meter"
    = .error (.schema (.severalPrimaryKeys "Meter" "id" "serial")) := by
  decide +kernel

theorem meters_describe_gauge : meters.describe "Gauge" = .ok gaugeEntity := by
  decide +kernel

/-- The answers for the meter, the gauge and both again, and the registry after them. -/
def calls : List (Except DescribeError Entity) × Registry :=
  Registry.describeAll meters ["Meter", "Gauge", "Gauge", "Meter"] {}

/-- The gauge is described twice and the meter not at all. -/
theorem describeAll_describes_gauge :
    calls.1 = [.error (.schema (.severalPrimaryKeys "Meter" "id" "serial")), .ok gaugeEntity,
        .ok gaugeEntity, .error (.schema (.severalPrimaryKeys "Meter" "id" "serial"))]
      ∧ calls.2.knows "Gauge" = true ∧ calls.2.knows "Meter" = false
      ∧ ∃ cls, meters.find? "Gauge" = some cls ∧ cls.Describes gaugeEntity := by
  have hcatalogue : Catalogue.ofDeclarations [instrument, gauge, meter] [] = .ok meters := rfl
  have hcalls : Registry.describeAll meters ["Meter", "Gauge", "Gauge", "Meter"] {}
      = (calls.1, calls.2) := rfl
  obtain ⟨hanswers, hknows, hdescribes⟩ := describeAll_describes hcatalogue hcalls
  simp only [List.map_cons, List.map_nil, Registry.describe_empty, meters_describe_meter,
    meters_describe_gauge] at hanswers
  rw [hanswers] at hknows hdescribes
  obtain ⟨cls, hcls, -, hgauge⟩ := hdescribes "Gauge" gaugeEntity (by simp)
  refine ⟨hanswers, (hknows "Gauge").mpr ⟨gaugeEntity, by simp⟩, ?_, cls, hcls, hgauge⟩
  rw [← Bool.not_eq_true, hknows "Meter"]
  simp

end Sample.Instruments

end EntityMap
