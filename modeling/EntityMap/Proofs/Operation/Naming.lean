import EntityMap.Proofs.Operation.Statements
import EntityMap.Proofs.Saving.Cascade
import EntityMap.Proofs.Sql.Definition

/-!
# The names in statements

Whatever is called on an entity, the statements name tables that are defined, and of each table
only columns of its definition (`invoke_names_known`) : a statement is about the entity or about
one that joins lead to (`invoke_about`), and the columns of a table are the physical columns of its
entity. So it is with both sides of a foreign key, and nothing else stands in the text of a
definition.
-/

namespace EntityMap

variable {δ : Type} [Database δ] {x : Library} {e : Entity}

/-- The statement is about an entity that joins lead to. -/
def AboutReached (x : Library) (e : Entity) (s : Statement) : Prop :=
  ∃ e', Reaches x e e' ∧ s.About e'

/-- Every statement of a call is about the entity of the call, or about one that joins lead to. -/
theorem invoke_about (name : String) (args : List Value) (many : Option Bool) :
    (invoke x e name args many : Op δ Value).Issues (AboutReached x e) := by
  have hself : ∀ {s : Statement}, s.About e → AboutReached x e s := fun hs => ⟨e, .refl, hs⟩
  have hselects : ∀ s, Selects e s → AboutReached x e s := fun s hs => hself hs.2
  have hone : ∀ {P : Statement → Prop} {l : List Statement}, (∀ s, P s → AboutReached x e s) →
      (l = [] ∨ ∃ s, P s ∧ l = [s]) → ∀ s ∈ l, AboutReached x e s := by
    rintro P l hP (rfl | ⟨s, hs, rfl⟩)
    · simp
    · simpa using hP s hs
  unfold invoke
  split
  · refine Op.Issues.ofResult_bind fun v _ => ?_
    exact Op.Issues.bind (validate_issues.mono hselects) fun _ => Op.Issues.pure _
  split
  · refine Op.Issues.ofResult_bind fun v _ => ?_
    exact Op.Issues.bind (isValid_issues.mono hselects) fun _ => Op.Issues.pure _
  refine Op.Issues.ofResult_bind fun q _ => ?_
  have hfind : (find x e q args many : Op δ Value).Issues (AboutReached x e) := by
    refine find_issues.mono ?_
    rintro s (hs | ⟨e', he', hs⟩)
    · exact hselects s hs
    · exact ⟨e', .single he', hs.2⟩
  unfold runQuery
  split
  · refine Op.Issues.ofResult_bind fun v _ => save_issues.mono ?_
    rintro s ⟨e', he', hs | hs⟩
    · exact ⟨e', he', hs.2⟩
    · exact ⟨e', he', hs.2⟩
  · exact hfind
  · exact hfind
  · exact update_runs.mono fun l => hone fun s hs => hself hs.about
  · exact delete_runs.mono fun l => hone fun s hs => hself hs.about
  · exact anyExists_issues.mono hselects

/-- The names are that of the table and then names of its columns. -/
def TableDefinition.Covers (t : TableDefinition) (names : List String) : Prop :=
  ∃ columns, names = t.name :: columns ∧ ∀ c ∈ columns, c ∈ t.columns.map (·.name)

theorem Statement.About.covers {s : Statement} {t : TableDefinition} (h : s.About e)
    (ht : x.catalogue.defineTable e = .ok t) : t.Covers s.names := by
  obtain ⟨columns, hnames, hcolumns⟩ := h
  refine ⟨columns, by rw [hnames, defineTable_name ht], fun c hc => ?_⟩
  exact (mem_map_name_columns ht).mpr (hcolumns c hc)

/-- If the tables of an entity and of all that joins lead to are defined, then a call runs only
statements whose names are, as SQL reads them, the name of one of these tables and names of its
columns, whatever is called with whatever arguments, whatever the database answers and whichever
way the call ends. The text of such a table's definition names the table, its columns, and what its
foreign keys name; and each of these leads from a column of its own table to a column of another
one. -/
theorem invoke_names_known
    (hddl : ∀ e', Reaches x e e' → ∃ t, x.catalogue.defineTable e' = .ok t) :
    (∀ (name : String) (args : List Value) (many : Option Bool) (w : World δ),
      ∃ l, (invoke x e name args many w).2.statements = w.statements ++ l
        ∧ ∀ s ∈ l, ∃ e' t, Reaches x e e' ∧ x.catalogue.defineTable e' = .ok t ∧ t.Covers s.names)
    ∧ ∀ e' t, Reaches x e e' → x.catalogue.defineTable e' = .ok t →
      (Statement.createTable t).names =
          t.name :: (t.columns.map (·.name) ++ t.foreignKeys.flatMap (·.names))
        ∧ ∀ k ∈ t.foreignKeys, t.Covers [t.name, k.column]
          ∧ ∃ e'' t', Reaches x e e'' ∧ x.catalogue.defineTable e'' = .ok t'
            ∧ t'.Covers [k.table, k.references] := by
  refine ⟨fun name args many w => ?_, fun e' t he' ht => ⟨names_createTable t, fun k hk => ?_⟩⟩
  · obtain ⟨l, hl, hall⟩ := invoke_about (δ := δ) (x := x) (e := e) name args many w
    refine ⟨l, hl, fun s hs => ?_⟩
    obtain ⟨e', he', habout⟩ := hall s hs
    obtain ⟨t, ht⟩ := hddl e' he'
    exact ⟨e', t, he', ht, habout.covers ht⟩
  · obtain ⟨j, hj, related, source, hrelated, hsource, rfl⟩ := mem_foreignKeys ht hk
    have hreaches : Reaches x e related := he'.related hj hrelated
    obtain ⟨t', ht'⟩ := hddl related hreaches
    have htarget : j.target ∈ t.columns.map (·.name) :=
      (mem_map_name_columns ht).mpr (Entity.target_mem_physicalColumns hj)
    have hreferences : source.name ∈ t'.columns.map (·.name) :=
      (mem_map_name_columns ht').mpr
        (Entity.name_mem_physicalColumns (sourceColumn_eq_ok hrelated hsource))
    refine ⟨⟨[j.target], rfl, by simpa using htarget⟩, related, t', hreaches, ht',
      [source.name], by rw [defineTable_name ht'], by simpa using hreferences⟩

namespace Sample

/-- Joins lead from products to lines, and no further. -/
theorem reaches_product {e : Entity} (h : Reaches library productEntity e) :
    e = productEntity ∨ e = lineEntity := by
  induction h with
  | refl => exact .inl rfl
  | tail _ hlead ih =>
    obtain ⟨j, hj, hrelated⟩ := hlead
    rcases ih with rfl | rfl
    · obtain rfl : j = lineJoin := List.mem_singleton.mp (show j ∈ [lineJoin] from hj)
      exact .inr (Except.ok.inj (hrelated.symm.trans describeRelated_line))
    · exact absurd (show j ∈ [] from hj) List.not_mem_nil

end Sample

open Sample in
/-- A product is looked for by its name, in tables that are defined. -/
theorem invoke_names_known_findByName :
    (∀ e, Reaches library productEntity e → ∃ t, library.catalogue.defineTable e = .ok t)
      ∧ ∃ l, (invoke library productEntity "findByName" [.text "pump"] none
          ({ database := {} } : World Script)).2.statements = l ∧ l.length = 1
        ∧ ∀ s ∈ l, ∃ e t, Reaches library productEntity e
          ∧ library.catalogue.defineTable e = .ok t ∧ t.Covers s.names := by
  have hddl : ∀ e, Reaches library productEntity e →
      ∃ t, library.catalogue.defineTable e = .ok t := by
    intro e he
    rcases reaches_product he with rfl | rfl
    · exact Except.exists_ok (by decide +kernel)
    · exact Except.exists_ok (by decide +kernel)
  obtain ⟨l, hl, hall⟩ := (invoke_names_known hddl).1 "findByName" [.text "pump"] none
    ({ database := {} } : World Script)
  have hone : (invoke library productEntity "findByName" [.text "pump"] none
      ({ database := {} } : World Script)).2.statements.length = 1 := by
    decide +kernel
  exact ⟨hddl, l, hl, by rw [hl] at hone; exact hone, hall⟩

end EntityMap
