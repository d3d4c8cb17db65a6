import EntityMap.Proofs.Schema.DefinitionText

/-!
# Unique columns of a table

The definition of a column has room for one column field and one join : the last column field that
lies in the column and the first join onto it count, and no other (`Entity.Counts`). So the text of
the definition says `UNIQUE` if and only if a member that counts is declared unique, unless the
column is the primary key (`defineTable_marks_unique`). Where no two column fields and no two joins
share a column every member counts, and any of them makes the column unique. Where they do, what a
member that does not count declares is lost (`Badges.defineTable_drops_unique`).
-/

namespace EntityMap

variable {c : Catalogue} {e : Entity} {t : TableDefinition}

/-! ## Members that count -/

/-- The member is declared unique. -/
def Member.unique : Member → Bool
  | column col => col.unique
  | join j => j.unique

/-- The member has a part in the definition of its column : it is the last column field that lies in
it, or the first join onto it. -/
def Entity.Counts (e : Entity) : Member → Prop
  | .column col => e.columns.reverse.find? (·.name == col.name) = some col
  | .join j => e.joins.find? (·.target == j.target) = some j

/-- A list with at most one element of a kind has no other than the one that is found. -/
theorem find?_eq_some_of_length_filter_le {α : Type} {p : α → Bool} {as : List α} {a : α}
    (h : (as.filter p).length ≤ 1) (ha : a ∈ as) (hp : p a = true) : as.find? p = some a := by
  obtain ⟨b, hb⟩ := Option.isSome_iff_exists.mp (List.find?_isSome.mpr ⟨a, ha, hp⟩)
  have hmem : a ∈ as.filter p := List.mem_filter.mpr ⟨ha, hp⟩
  have hfound : b ∈ as.filter p :=
    List.mem_filter.mpr ⟨List.mem_of_find?_eq_some hb, List.find?_some hb⟩
  rcases hfilter : as.filter p with _ | ⟨x, _ | ⟨y, ys⟩⟩
  · simp [hfilter] at hmem
  · rw [hfilter, List.mem_singleton] at hmem hfound
    rw [hb, hfound, hmem]
  · simp [hfilter] at h

/-- Where no two column fields and no two joins share a column, every member of it counts. -/
theorem Entity.counts_of_length_le {name : String} {m : Member} (hm : m ∈ e.members)
    (hname : m.physical = name) (hcolumns : (e.columns.filter (·.name == name)).length ≤ 1)
    (hjoins : (e.joins.filter (·.target == name)).length ≤ 1) : e.Counts m := by
  subst hname
  cases m with
  | column col =>
    refine find?_eq_some_of_length_filter_le ?_ (List.mem_reverse.mpr (mem_columns.mpr hm))
      (by simp)
    rwa [List.filter_reverse, List.length_reverse]
  | join j => exact find?_eq_some_of_length_filter_le hjoins (mem_joins.mpr hm) (by simp)

/-- Some member of a column counts and is unique if and only if the one column field or the one join
that the definition states is. -/
theorem exists_counts_iff {name : String} :
    (∃ m ∈ e.members, m.physical = name ∧ m.unique = true ∧ e.Counts m) ↔
      (e.columns.reverse.find? (·.name == name)).any (·.unique) = true
        ∨ (e.joins.find? (·.target == name)).any (·.unique) = true := by
  simp only [Option.any_eq_true]
  constructor
  · rintro ⟨col | j, -, rfl, hunique, hcounts⟩
    · exact .inl ⟨col, hcounts, hunique⟩
    · exact .inr ⟨j, hcounts, hunique⟩
  · rintro (⟨col, hcol, hunique⟩ | ⟨j, hj, hunique⟩)
    · obtain ⟨hmem, rfl⟩ := Entity.mem_of_last hcol
      exact ⟨.column col, Entity.mem_columns.mp hmem, rfl, hunique, hcol⟩
    · obtain ⟨hmem, rfl⟩ := Entity.mem_of_first hj
      exact ⟨.join j, Entity.mem_joins.mp hmem, rfl, hunique, hj⟩

/-! ## Definitions -/

/-- A column is unique if and only if it is no primary key and a member that counts is unique. -/
theorem unique_of_defineColumn {name : String} {d : ColumnDefinition}
    (h : c.defineColumn (groupOf e.members name) = .ok (some d)) :
    d.unique = true ↔ d.primaryKey = false
      ∧ ∃ m ∈ e.members, m.physical = name ∧ m.unique = true ∧ e.Counts m := by
  rw [exists_counts_iff]
  rcases states_of_defineColumn h with ⟨col, hcol, hstates, -⟩ | ⟨hcol, j, type, hj, -, hstates⟩
  · have hkey : d.primaryKey = col.primaryKey := hstates.primaryKey
    have hunique : d.unique = _ := hstates.unique
    rw [hunique, hkey, hcol, Option.any_some, Bool.and_eq_true, Bool.or_eq_true, Bool.not_eq_true',
      and_comm]
  · have hkey : d.primaryKey = false := hstates.primaryKey
    have hunique : d.unique = _ := hstates.unique
    simp [hunique, hkey, hcol, hj]

/-- A column that is counted up is a primary key. -/
theorem primaryKey_of_defineColumn {name : String} {d : ColumnDefinition}
    (h : c.defineColumn (groupOf e.members name) = .ok (some d)) (hkeyed : Keyed e.members)
    (hauto : d.autoIncrement = true) : d.primaryKey = true := by
  rcases states_of_defineColumn h with ⟨col, hcol, hstates, -⟩ | ⟨-, j, type, -, -, hstates⟩
  · have hmem := Entity.mem_columns.mp (Entity.mem_of_last hcol).1
    exact hstates.primaryKey.trans
      (hkeyed.autoIncrement col hmem (hstates.autoIncrement.symm.trans hauto))
  · exact absurd (hstates.autoIncrement.symm.trans hauto) Bool.false_ne_true

/-- An entity with a member has a column in its table. -/
theorem columns_ne_nil (hne : e.members ≠ []) (ht : c.defineTable e = .ok t) : t.columns ≠ [] := by
  obtain ⟨m, members, hm⟩ := List.exists_cons_of_ne_nil hne
  have hmem : m.physical ∈ t.columns.map (·.name) :=
    (mem_map_name_columns ht).mpr (by simp [Entity.physicalColumns, hm])
  rintro hempty
  simp [hempty] at hmem

/-! ## Tables -/

/-- The text of a table's definition, read as SQL, says of each physical column that it is unique if
and only if it does not say that it is the primary key, and a member that counts for the column is
declared unique. So it is unique if any member of it is declared so, in whatever order they are
declared, where no two column fields and no two joins share the column. -/
theorem defineTable_marks_unique {cls : EntityClass} (he : cls.describe c = .ok e)
    (ht : c.defineTable e = .ok t) :
    ∃ (columns : List ColumnText) (keys : List ForeignKey),
      readTable? (tokens t.sql.toList)
        = some ⟨e.table, columns.map .column ++ keys.map .foreignKey⟩
      ∧ List.Forall₂ (fun name d => d.name = name
        ∧ (d.unique = true ↔ d.primaryKey = false
          ∧ ∃ m ∈ e.members, m.physical = name ∧ m.unique = true ∧ e.Counts m)
        ∧ ((e.columns.filter (·.name == name)).length ≤ 1 →
          (e.joins.filter (·.target == name)).length ≤ 1 →
          (d.unique = true ↔ d.primaryKey = false
            ∧ ∃ m ∈ e.members, m.physical = name ∧ m.unique = true)))
        e.physicalColumns.eraseDups columns := by
  obtain ⟨hkeyed, hne⟩ := EntityClass.describe_keyed he
  refine ⟨t.columns.map (·.asRead), t.foreignKeys, ?_, ?_⟩
  · have hcounted : ∀ d ∈ t.columns, d.autoIncrement = true → d.primaryKey = true := by
      intro d hd hauto
      obtain ⟨name, -, hdefined⟩ := exists_of_forall₂ (forall₂_columns ht) hd
      exact primaryKey_of_defineColumn hdefined hkeyed hauto
    rw [t.readTable?_sql (columns_ne_nil hne ht) hcounted, TableDefinition.asRead,
      defineTable_name ht, List.map_map]
    rfl
  · rw [List.forall₂_map_right_iff]
    refine (forall₂_columns ht).imp fun name d hd => ?_
    have hunique := unique_of_defineColumn hd
    refine ⟨(defineColumn_eq_ok hd).1, hunique, fun hcolumns hjoins => hunique.trans ?_⟩
    refine and_congr_right fun _ => exists_congr fun m => and_congr_right fun hm => ?_
    refine and_congr_right fun hname => and_iff_left ?_
    exact Entity.counts_of_length_le hm hname hcolumns hjoins

/-! ### Two joins onto a column

A badge is for a line, and for a place at it that no other badge may have. Both are found by the
column for the line. -/

namespace Badges

/-- A badge for a line and for the only place there. -/
def badge : ClassDeclaration where
  name := "Badge"
  table := some "badges"
  fields :=
    [Sample.key,
     ⟨"line", "Line | None", .join
       { target := "line_id", related := "Line", source := "id", nullable := true }⟩,
     ⟨"place", "Line | None", .join
       { target := "line_id", related := "Line", source := "id", nullable := true
         unique := true }⟩]

def catalogue : Catalogue := (Catalogue.ofDeclarations [Sample.line, badge] []).toOption.getD {}

/-- What the class of badges says about its table. -/
def badgeEntity : Entity where
  className := "Badge"
  table := "badges"
  members :=
    [.column { field := "id", name := "id", type := .integer, nullable := false, primaryKey := true
               autoIncrement := true },
     .join { field := "line", target := "line_id", related := "Line", source := "id"
             nullable := true },
     .join { field := "place", target := "line_id", related := "Line", source := "id"
             nullable := true, unique := true }]

theorem describe_badge :
    ∃ cls, catalogue.find? "Badge" = some cls ∧ cls.describe catalogue = .ok badgeEntity := by
  have h : catalogue.describe "Badge" = .ok badgeEntity := by decide +kernel
  unfold Catalogue.describe at h
  split at h
  · next cls hcls => exact ⟨cls, hcls, h⟩
  · simp at h

/-- The definition of the table for badges. -/
def badgeTable : TableDefinition where
  name := "badges"
  columns :=
    [⟨"id", .integer, true, true, true, false, none⟩,
     ⟨"line_id", .integer, false, false, false, false, none⟩]
  foreignKeys := [⟨"line_id", "lines", "id"⟩, ⟨"line_id", "lines", "id"⟩]

theorem defineTable_badge : catalogue.defineTable badgeEntity = .ok badgeTable := by
  decide +kernel

/-- The text of the definition says of the column for the line what the members that count for it
say. -/
theorem defineTable_marks_unique_badge :
    ∃ (columns : List ColumnText) (keys : List ForeignKey),
      readTable? (tokens badgeTable.sql.toList)
        = some ⟨"badges", columns.map .column ++ keys.map .foreignKey⟩
      ∧ ∃ d ∈ columns, d.name = "line_id" ∧ (d.unique = true ↔ d.primaryKey = false
          ∧ ∃ m ∈ badgeEntity.members, m.physical = "line_id" ∧ m.unique = true
            ∧ badgeEntity.Counts m) := by
  obtain ⟨cls, -, hcls⟩ := describe_badge
  obtain ⟨columns, keys, hread, hcolumns⟩ := defineTable_marks_unique hcls defineTable_badge
  have hname : "line_id" ∈ badgeEntity.physicalColumns.eraseDups := by decide
  obtain ⟨d, hd, hd', hunique, -⟩ := exists_of_forall₂ hcolumns.flip hname
  exact ⟨columns, keys, hread, d, hd, hd', hunique⟩

/-- The place is declared unique, and the column that it lies in is not. -/
theorem defineTable_drops_unique :
    ∃ cls t, catalogue.find? "Badge" = some cls ∧ cls.describe catalogue = .ok badgeEntity
      ∧ catalogue.defineTable badgeEntity = .ok t
      ∧ t.sql = "CREATE TABLE IF NOT EXISTS \"badges\" (\n"
        ++ "    \"id\" INTEGER NOT NULL PRIMARY KEY AUTOINCREMENT,\n"
        ++ "    \"line_id\" INTEGER,\n"
        ++ "    FOREIGN KEY (\"line_id\") REFERENCES \"lines\" (\"id\"),\n"
        ++ "    FOREIGN KEY (\"line_id\") REFERENCES \"lines\" (\"id\")\n);"
      ∧ ∃ d ∈ t.columns, ¬(d.unique = true ↔ d.primaryKey = false
          ∧ ∃ m ∈ badgeEntity.members, m.physical = d.name ∧ m.unique = true) := by
  obtain ⟨cls, hfind, hcls⟩ := describe_badge
  refine ⟨cls, badgeTable, hfind, hcls, defineTable_badge, by decide +kernel,
    ⟨"line_id", .integer, false, false, false, false, none⟩, by decide, ?_⟩
  decide

end Badges

end EntityMap
