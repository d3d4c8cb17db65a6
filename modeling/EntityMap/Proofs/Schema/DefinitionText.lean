import EntityMap.Proofs.Schema.Physical
import EntityMap.Proofs.Sql.TableText
import EntityMap.Sample

/-!
# What the text of a definition says

Read as SQL, the text of a table's definition says what the members of its entity declare
(`defineTable_reads_back`) : each physical column once, with the type, the constraints and the
default of the column field that lies in it, or else of the first join onto it
(`ColumnText.Declared`), and then the foreign keys of the joins whose related class is described.
-/

namespace EntityMap

variable {c : Catalogue} {e : Entity} {t : TableDefinition}

/-! ## Columns -/

/-- The text states a column of this name and type, with these constraints and this default. A
column of another type than text states its default as a number. -/
structure ColumnText.States (d : ColumnText) (column : String) (semantic : SemanticType)
    (nullable key counted distinct : Bool) (declared : Option String) : Prop where
  name : d.name = column
  type : d.type = semantic.columnType.word
  notNull : d.notNull = !nullable
  primaryKey : d.primaryKey = key
  autoIncrement : d.autoIncrement = counted
  unique : d.unique = (distinct && !key)
  default : match declared.filter (· ≠ "") with
    | some s => ∃ l, Literal.ofDefault column semantic s = .ok l ∧ d.default = some l.asRead
    | none => d.default = none

theorem ColumnDefinition.states_of_make {name : String} {type : SemanticType}
    {nullable primaryKey autoIncrement unique : Bool} {defaultValue : Option String}
    {d : ColumnDefinition}
    (h : ColumnDefinition.make name type nullable primaryKey autoIncrement unique defaultValue
      = .ok d) :
    d.asRead.States name type nullable primaryKey autoIncrement unique defaultValue
      ∧ (autoIncrement = true → type.columnType = .integer) := by
  unfold ColumnDefinition.make at h
  split at h
  · simp at h
  next htype =>
  have htype : autoIncrement = true → type.columnType = .integer := by
    intro hauto
    by_contra hne
    exact htype (by simp [hauto, hne])
  cases defaultValue with
  | none =>
    cases h
    exact ⟨⟨rfl, rfl, rfl, rfl, rfl, rfl, rfl⟩, htype⟩
  | some s =>
    dsimp only at h
    split at h
    · next hempty =>
      cases h
      subst hempty
      exact ⟨⟨rfl, rfl, rfl, rfl, rfl, rfl, rfl⟩, htype⟩
    · next hne =>
      obtain ⟨default, hdefault, h⟩ := Except.bind_eq_ok.mp h
      obtain ⟨l, hl, rfl⟩ := Except.map_eq_ok.mp hdefault
      cases h
      refine ⟨⟨rfl, rfl, rfl, rfl, rfl, rfl, ?_⟩, htype⟩
      rw [Option.filter_some_pos (by simpa using hne)]
      exact ⟨l, hl, rfl⟩

/-- What the members of an entity declare for a physical column : the column field that lies in it,
if there is one, and otherwise the first join onto it. A join has the type of the related column,
and is an integer if there is none. -/
inductive ColumnText.Declared (c : Catalogue) (e : Entity) (name : String) (d : ColumnText) : Prop
  | field {col : Column} (named : e.columnNamed? name = some col)
      (states : d.States name col.type col.nullable col.primaryKey col.autoIncrement
        (col.unique || (e.joins.find? (·.target == name)).any (·.unique)) col.defaultValue)
  | join {j : Join} {type : SemanticType} (unnamed : e.columnNamed? name = none)
      (first : e.joins.find? (·.target == name) = some j)
      (known : ∀ source, c.sourceColumn j = .ok source → type = source.type)
      (unknown : (c.sourceColumn j).isOk = false → type = .entity ∧ d.type = "INTEGER")
      (states : d.States name type j.nullable false false j.unique j.defaultValue)

theorem joinType_eq_ok {j : Join} {type : SemanticType} (h : c.joinType j = .ok type) :
    (∀ source, c.sourceColumn j = .ok source → type = source.type)
      ∧ ((c.sourceColumn j).isOk = false → type = .entity) := by
  unfold Catalogue.joinType at h
  split at h
  · next source hsource =>
    cases h
    refine ⟨fun source' h' => ?_, fun h' => ?_⟩
    · rw [hsource] at h'
      cases h'
      rfl
    · rw [hsource] at h'
      cases h'
  · next e hsource =>
    cases h
    refine ⟨fun source' h' => ?_, fun _ => rfl⟩
    rw [hsource] at h'
    cases h'
  · simp at h

/-- The members that the definition of a physical column states : the last column field that lies in
it, with the first join for its uniqueness, or the first join alone. -/
theorem states_of_defineColumn {name : String} {d : ColumnDefinition}
    (h : c.defineColumn (groupOf e.members name) = .ok (some d)) :
    (∃ col, e.columns.reverse.find? (·.name == name) = some col
      ∧ d.asRead.States name col.type col.nullable col.primaryKey col.autoIncrement
        (col.unique || (e.joins.find? (·.target == name)).any (·.unique)) col.defaultValue
      ∧ (d.asRead.autoIncrement = true → d.asRead.type = "INTEGER"))
    ∨ (e.columns.reverse.find? (·.name == name) = none
      ∧ ∃ j type, e.joins.find? (·.target == name) = some j ∧ c.joinType j = .ok type
        ∧ d.asRead.States name type j.nullable false false j.unique j.defaultValue) := by
  have hcolumn : (groupOf e.members name).column = e.columns.reverse.find? (·.name == name) := rfl
  have hjoin : (groupOf e.members name).join = e.joins.find? (·.target == name) := rfl
  unfold Catalogue.defineColumn at h
  rw [hcolumn, hjoin] at h
  split at h
  · next join col hcol =>
    obtain ⟨d', hd, h⟩ := Except.map_eq_ok.mp (describing_eq_ok.mp h)
    cases h
    obtain ⟨hstates, htype⟩ := ColumnDefinition.states_of_make hd
    rw [(Entity.mem_of_last hcol).2] at hstates
    refine .inl ⟨col, hcol, hstates, fun hauto => ?_⟩
    rw [hstates.type, htype (hstates.autoIncrement.symm.trans hauto)]
    rfl
  · next j hcol hj =>
    obtain ⟨type, htype, h⟩ := Except.bind_eq_ok.mp h
    obtain ⟨d', hd, h⟩ := Except.map_eq_ok.mp (describing_eq_ok.mp h)
    cases h
    obtain ⟨hstates, -⟩ := ColumnDefinition.states_of_make hd
    rw [(Entity.mem_of_first hj).2] at hstates
    exact .inr ⟨hcol, j, type, hj, htype, hstates⟩
  · simp at h

/-- If no two columns have one name, the last of a name is the first. -/
theorem find?_reverse_columns (hnames : (e.columns.map (·.name)).Nodup) (name : String) :
    e.columns.reverse.find? (·.name == name) = e.columnNamed? name := by
  rw [Entity.columnNamed?]
  generalize e.columns = columns at hnames
  induction columns with
  | nil => rfl
  | cons col columns ih =>
    obtain ⟨hcol, hcolumns⟩ := List.nodup_cons.mp hnames
    rw [List.reverse_cons, List.find?_append, ih hcolumns]
    by_cases hname : col.name = name
    · have hnone : columns.find? (·.name == name) = none := by
        rw [List.find?_eq_none]
        intro col' hcol' heq
        exact hcol (List.mem_map.mpr ⟨col', hcol', (beq_iff_eq.mp heq).trans hname.symm⟩)
      simp [hnone, hname]
    · simp [hname]

/-- The definition of a physical column states what the members declare for it. -/
theorem declared_of_defineColumn (hnames : (e.columns.map (·.name)).Nodup) {name : String}
    {d : ColumnDefinition} (h : c.defineColumn (groupOf e.members name) = .ok (some d)) :
    d.asRead.Declared c e name
      ∧ (d.asRead.autoIncrement = true → d.asRead.type = "INTEGER") := by
  have hstates := states_of_defineColumn h
  rw [find?_reverse_columns hnames] at hstates
  rcases hstates with ⟨col, hcol, hstates, htype⟩ | ⟨hcol, j, type, hj, htype, hstates⟩
  · exact ⟨.field hcol hstates, htype⟩
  · obtain ⟨hknown, hunknown⟩ := joinType_eq_ok htype
    refine ⟨.join hcol hj hknown (fun hno => ?_) hstates, fun hauto => ?_⟩
    · obtain rfl := hunknown hno
      exact ⟨rfl, hstates.type⟩
    · exact absurd (hstates.autoIncrement.symm.trans hauto) Bool.false_ne_true

/-- A column of the text that is a primary key is the primary key of the entity. -/
theorem ColumnText.Declared.primaryKey {d : ColumnText} {name : String} (h : d.Declared c e name)
    (hkey : d.primaryKey = true) :
    ∃ col ∈ e.columns, col.name = name ∧ col.primaryKey = true
      ∧ d.autoIncrement = col.autoIncrement := by
  cases h with
  | @field col named states =>
    obtain ⟨hcol, hname⟩ := Entity.mem_of_columnNamed? named
    exact ⟨col, hcol, hname, states.primaryKey.symm.trans hkey, states.autoIncrement⟩
  | join _ _ _ _ states => exact absurd (states.primaryKey.symm.trans hkey) Bool.false_ne_true

/-- A column that is counted up is a primary key. -/
theorem ColumnText.Declared.primaryKey_of_autoIncrement {d : ColumnText} {name : String}
    (h : d.Declared c e name) (hkeyed : Keyed e.members) (hauto : d.autoIncrement = true) :
    d.primaryKey = true := by
  cases h with
  | @field col named states =>
    have hcol := Entity.mem_columns.mp (Entity.mem_of_columnNamed? named).1
    rw [states.primaryKey]
    exact hkeyed.autoIncrement col hcol (states.autoIncrement.symm.trans hauto)
  | join _ _ _ _ states => exact absurd (states.autoIncrement.symm.trans hauto) Bool.false_ne_true

theorem ColumnText.Declared.name {d : ColumnText} {name : String} (h : d.Declared c e name) :
    d.name = name := by
  cases h with
  | field _ states => exact states.name
  | join _ _ _ _ states => exact states.name

/-- At most one column of the text is a primary key. -/
theorem length_primaryKeys_le {names : List String} {columns : List ColumnText}
    (h : List.Forall₂ (fun name d => d.Declared c e name) names columns) (hnames : names.Nodup)
    (hkeyed : Keyed e.members) : (columns.filter (·.primaryKey)).length ≤ 1 := by
  have hsame : ∀ d ∈ columns.filter (·.primaryKey), ∀ d' ∈ columns.filter (·.primaryKey),
      d.name = d'.name := by
    intro d hd d' hd'
    obtain ⟨hd, hkey⟩ := List.mem_filter.mp hd
    obtain ⟨hd', hkey'⟩ := List.mem_filter.mp hd'
    obtain ⟨name, -, hdeclared⟩ := exists_of_forall₂ h hd
    obtain ⟨name', -, hdeclared'⟩ := exists_of_forall₂ h hd'
    obtain ⟨col, hcol, hname, hprimary, -⟩ := hdeclared.primaryKey hkey
    obtain ⟨col', hcol', hname', hprimary', -⟩ := hdeclared'.primaryKey hkey'
    rw [hdeclared.name, hdeclared'.name, ← hname, ← hname',
      hkeyed.unique hcol hcol' hprimary hprimary']
  have hall : columns.map (·.name) = names := by
    rw [← List.forall₂_eq_eq_eq, List.forall₂_map_left_iff]
    exact h.flip.imp fun _ _ hd => hd.name
  have hnodup : ((columns.filter (·.primaryKey)).map (·.name)).Nodup :=
    (List.filter_sublist.map _).nodup (hall ▸ hnames)
  rcases hfilter : columns.filter (·.primaryKey) with _ | ⟨d, _ | ⟨d', _⟩⟩
  · simp [hfilter]
  · simp [hfilter]
  · have hname := hsame d (by simp [hfilter]) d' (by simp [hfilter])
    simp [hfilter, hname] at hnodup

/-! ## Foreign keys -/

/-- The foreign key leads from the target of a join to the source of the join in the related
table. -/
def ForeignKey.Declared (c : Catalogue) (j : Join) (k : ForeignKey) : Prop :=
  ∃ related source, c.describeRelated j = .ok related ∧ c.sourceColumn j = .ok source
    ∧ k = ⟨j.target, related.table, source.name⟩

/-- There is one foreign key for each join whose related class is described. -/
theorem forall₂_declared {joins : List Join} {keys : List (Option ForeignKey)}
    (h : List.Forall₂ (fun j k => c.foreignKey j = .ok k) joins keys) :
    List.Forall₂ (ForeignKey.Declared c) (joins.filter fun j => (c.describeRelated j).isOk)
      (keys.filterMap id) := by
  induction h with
  | nil => exact .nil
  | @cons j k joins keys hk _ ih =>
    unfold Catalogue.foreignKey at hk
    split at hk
    · next hno =>
      cases hk
      rwa [List.filter_cons_of_neg (by simp [hno, Except.isOk, Except.toBool])]
    · simp at hk
    · next related hrelated =>
      obtain ⟨source, hsource, hk⟩ := Except.bind_eq_ok.mp hk
      cases hk
      rw [List.filter_cons_of_pos (by simp [hrelated, Except.isOk, Except.toBool])]
      exact .cons ⟨related, source, hrelated, hsource, rfl⟩ ih

theorem forall₂_foreignKeys (h : c.defineTable e = .ok t) :
    List.Forall₂ (ForeignKey.Declared c) (e.joins.filter fun j => (c.describeRelated j).isOk)
      t.foreignKeys := by
  obtain ⟨columns, -, h⟩ := Except.bind_eq_ok.mp h
  obtain ⟨keys, hkeys, h⟩ := Except.bind_eq_ok.mp h
  cases h
  exact forall₂_declared (mapM_eq_ok.mp hkeys)

/-! ## Tables -/

namespace OddNames

/-- A column for texts, with a default. -/
def note : FieldDeclaration :=
  ⟨"note", "str", .column { name := "no\"te, \"x\" TEXT", defaultValue := some "it's, (so)\n" }⟩

/-- A class of notes that follow one another. -/
def notes : ClassDeclaration where
  name := "Note"
  table := some "my \"notes\" ("
  fields :=
    [Sample.key, note,
     ⟨"next", "Note", .join { target := "ne'xt\"", related := "Note", source := "id"
                              nullable := true, byName := true }⟩]

def catalogue : Catalogue := (Catalogue.ofDeclarations [notes] []).toOption.getD {}

/-- What the class of notes says about its table. -/
def noteEntity : Entity where
  className := "Note"
  table := "my \"notes\" ("
  members :=
    [.column { field := "id", name := "id", type := .integer, nullable := false, primaryKey := true
               autoIncrement := true },
     .column { field := "note", name := "no\"te, \"x\" TEXT", type := .text
               defaultValue := some "it's, (so)\n" },
     .join { field := "next", target := "ne'xt\"", related := "Note", source := "id"
             nullable := true }]

theorem describe_note :
    ∃ cls, catalogue.find? "Note" = some cls ∧ cls.describe catalogue = .ok noteEntity := by
  have h : catalogue.describe "Note" = .ok noteEntity := by decide +kernel
  unfold Catalogue.describe at h
  split at h
  · next cls hcls => exact ⟨cls, hcls, h⟩
  · simp at h

end OddNames

end EntityMap
