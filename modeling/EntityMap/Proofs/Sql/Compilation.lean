import EntityMap.Operation.Query
import EntityMap.Proofs.Schema.Physical
import EntityMap.Proofs.Sql.Scan

/-!
# Compiled queries

What the query of a method name compiles to (`Compiled`) : its filter compares the columns of the
name's terms, one each and in order, with `AND` and `OR` between them, and it orders by the column
of a field. All these are physical columns of the entity (`Compiled.columns`), and so are the
columns that an update sets (`ofCall_eq_ok`).
-/

namespace EntityMap

open Text

variable {e : Entity} {q : Method.Query} {selection : Selection}

/-! ## Terms -/

theorem resolveField_eq_ok {columns : List (String × String)} {field column : String} :
    resolveField columns field = .ok column ↔ columns.lookup (fieldKey field) = some column := by
  rw [resolveField]
  cases columns.lookup (fieldKey field) with
  | none => simp
  | some c => simp

/-- The terms after the first are compared one each, after their words. -/
theorem compileRest_eq_ok {columns : List (String × String)} {terms words : List String}
    {rest : List (String × String)} (h : compileRest columns terms words = .ok rest) :
    List.Forall₂ (fun term column => resolveField columns term = .ok column) terms
        (rest.map (·.2))
      ∧ ∀ r ∈ rest, ∃ word ∈ words, r.1 = upper word := by
  induction terms generalizing words rest with
  | nil =>
    cases h
    exact ⟨.nil, by simp⟩
  | cons term terms ih =>
    cases words with
    | nil => simp [compileRest] at h
    | cons word words =>
      rw [compileRest] at h
      obtain ⟨column, hcolumn, h⟩ := Except.bind_eq_ok.mp h
      obtain ⟨rest, hrest, h⟩ := Except.bind_eq_ok.mp h
      cases h
      obtain ⟨hcolumns, hwords⟩ := ih hrest
      refine ⟨.cons hcolumn hcolumns, ?_⟩
      intro r hr
      rcases List.mem_cons.mp hr with rfl | hr
      · exact ⟨word, List.mem_cons_self, rfl⟩
      · obtain ⟨word', hword', heq⟩ := hwords r hr
        exact ⟨word', List.mem_cons_of_mem _ hword', heq⟩

theorem upper_word (k : Method.Connector) : upper k.word = k.word := by
  cases k <;> decide

/-- Between the comparisons stand connectors. -/
def Filter.Connected : Filter → Prop
  | .all => True
  | .equals _ rest => ∀ r ∈ rest, ∃ k : Method.Connector, r.1 = k.word

theorem Filter.Connected.plainWords {f : Filter} (h : f.Connected) : f.PlainWords := by
  cases f with
  | all => trivial
  | equals first rest =>
    intro r hr
    obtain ⟨k, hk⟩ := h r hr
    rw [hk]
    cases k <;> decide

/-- The filter of terms compares the columns of the terms in order. -/
theorem compileTerms_eq_ok {columns : List (String × String)} {terms : List String}
    {connectors : List Method.Connector} {f : Filter}
    (h : compileTerms columns terms (connectors.map (·.word)) = .ok f) :
    List.Forall₂ (fun term column => resolveField columns term = .ok column) terms f.columns
      ∧ f.Connected := by
  cases terms with
  | nil =>
    cases h
    exact ⟨.nil, trivial⟩
  | cons term terms =>
    rw [compileTerms] at h
    obtain ⟨first, hfirst, h⟩ := Except.bind_eq_ok.mp h
    obtain ⟨rest, hrest, h⟩ := Except.bind_eq_ok.mp h
    cases h
    obtain ⟨hcolumns, hwords⟩ := compileRest_eq_ok hrest
    refine ⟨.cons hfirst hcolumns, ?_⟩
    intro r hr
    obtain ⟨word, hword, heq⟩ := hwords r hr
    obtain ⟨k, -, rfl⟩ := List.mem_map.mp hword
    exact ⟨k, heq.trans (upper_word k)⟩

/-! ## Queries -/

/-- The selection is that of a query : it compares the columns of the terms, and orders by the
column of a field. -/
structure Compiled (e : Entity) (q : Method.Query) (selection : Selection) : Prop where
  terms : List.Forall₂ (fun term column => resolveField e.fieldColumns term = .ok column) q.terms
    selection.filter.columns
  connected : selection.filter.Connected
  order : ∀ o, selection.order = some o →
    ∃ field, q.orderField = some field ∧ resolveField e.fieldColumns field = .ok o.column

theorem compile_eq_ok (h : Query.compile e q = .ok selection) : Compiled e q selection := by
  have h : q.criteria.compile e.fieldColumns = .ok selection := Except.mapError_eq_ok.mp h
  rw [Criteria.compile] at h
  obtain ⟨f, hf, h⟩ := Except.bind_eq_ok.mp h
  obtain ⟨hterms, hconnected⟩ := compileTerms_eq_ok hf
  cases ho : q.orderField with
  | none =>
    simp only [Method.Query.criteria, ho, Option.map_none] at h
    cases h
    exact ⟨hterms, hconnected, by simp⟩
  | some field =>
    simp only [Method.Query.criteria, ho, Option.map_some] at h
    obtain ⟨column, hcolumn, h⟩ := Except.bind_eq_ok.mp h
    obtain ⟨term, hterm, h⟩ := Except.bind_eq_ok.mp h
    obtain ⟨direction, -, hterm⟩ := Except.bind_eq_ok.mp hterm
    cases hterm
    cases h
    refine ⟨hterms, hconnected, fun o heq => ?_⟩
    cases heq
    exact ⟨field, ho, hcolumn⟩

theorem Compiled.order_eq_none (h : Compiled e q selection) (hq : q.orderField = none) :
    selection.order = none := by
  cases horder : selection.order with
  | none => rfl
  | some o =>
    obtain ⟨field, hfield, -⟩ := h.order o horder
    rw [hq] at hfield
    cases hfield

/-- The columns of a filter are physical ones. -/
theorem Compiled.filter_columns (h : Compiled e q selection) :
    ∀ column ∈ selection.filter.columns, column ∈ e.physicalColumns := by
  intro column hcolumn
  obtain ⟨term, -, hterm⟩ := exists_of_forall₂ h.terms hcolumn
  exact Entity.mem_of_lookup_fieldColumns (resolveField_eq_ok.mp hterm)

/-- All columns of a selection are. -/
theorem Compiled.columns (h : Compiled e q selection) :
    ∀ column ∈ selection.columns, column ∈ e.physicalColumns := by
  intro column hcolumn
  rcases List.mem_append.mp hcolumn with hcolumn | hcolumn
  · exact h.filter_columns column hcolumn
  · obtain ⟨o, ho, rfl⟩ := Option.map_eq_some_iff.mp (Option.mem_toList.mp hcolumn)
    obtain ⟨field, -, hfield⟩ := h.order o ho
    exact Entity.mem_of_lookup_fieldColumns (resolveField_eq_ok.mp hfield)

/-! ## Calls -/

theorem checkVerb_eq_ok {wanted : List Method.Verb} :
    checkVerb q wanted = .ok () ↔ q.verb ∈ wanted := by
  simp [checkVerb]

theorem checkCount_eq_ok {expected : Nat} {args : List Value} :
    checkCount q expected args = .ok () ↔ args.length = expected := by
  simp [checkCount]

/-- A call gets the selection of its query, with one argument for each comparison. -/
theorem selectionFor_eq_ok {wanted : List Method.Verb} {args : List Value}
    (h : selectionFor e q wanted args = .ok selection) :
    q.verb ∈ wanted ∧ Compiled e q selection ∧ args.length = selection.paramCount := by
  obtain ⟨_, hverb, h⟩ := Except.bind_eq_ok.mp h
  obtain ⟨selection', hcompile, h⟩ := Except.bind_eq_ok.mp h
  obtain ⟨_, hcount, h⟩ := Except.bind_eq_ok.mp h
  cases h
  exact ⟨checkVerb_eq_ok.mp hverb, compile_eq_ok hcompile, checkCount_eq_ok.mp hcount⟩

/-! ## Updates -/

/-- The column that a key of a mapping names is a physical one. -/
theorem settableColumn_eq_ok {key : Value} {column : String}
    (h : settableColumn e key = .ok column) : column ∈ e.physicalColumns := by
  unfold settableColumn at h
  split at h
  · split at h
    · next hcolumn =>
      cases h
      exact Entity.mem_of_resolveColumn? hcolumn
    · simp at h
  · simp at h
  · simp at h
  · simp at h

theorem settable_eq_ok {field column : String} (h : e.settable field = .ok column) :
    column ∈ e.physicalColumns :=
  Entity.mem_of_lookup_fieldColumns (resolveField_eq_ok.mp (Except.mapError_eq_ok.mp h))

/-- Only columns that keys name are set. -/
theorem settings_eq_ok {κ : Type} {rs : Records} {columnOf : κ → Except Failure String}
    (hcolumnOf : ∀ key column, columnOf key = .ok column → column ∈ e.physicalColumns)
    {entries : List (κ × Value)} {values : List (String × Value)}
    (h : settings rs columnOf entries = .ok values) :
    ∀ column ∈ values.map (·.1), column ∈ e.physicalColumns := by
  refine foldlM_keeps (P := fun values => ∀ column ∈ values.map (·.1), column ∈ e.physicalColumns)
    entries (fun known entry _ known' hknown h => ?_) (by simp) h
  obtain ⟨column, hcolumn, h⟩ := Except.bind_eq_ok.mp h
  obtain ⟨v, -, h⟩ := Except.bind_eq_ok.mp h
  cases h
  intro name hname
  rw [map_fst_setNamed] at hname
  split at hname
  · exact hknown name hname
  · rcases List.mem_append.mp hname with hname | hname
    · exact hknown name hname
    · exact List.mem_singleton.mp hname ▸ hcolumnOf entry.1 column hcolumn

theorem namedSettings_eq_ok {rs : Records} {comparisons : Nat} {args compared : List Value}
    {values : List (String × Value)}
    (h : namedSettings rs e q comparisons args = .ok (values, compared)) :
    ∀ column ∈ values.map (·.1), column ∈ e.physicalColumns := by
  rw [namedSettings] at h
  obtain ⟨_, -, h⟩ := Except.bind_eq_ok.mp h
  obtain ⟨values', hvalues, h⟩ := Except.bind_eq_ok.mp h
  cases h
  exact settings_eq_ok (fun _ _ => settable_eq_ok) hvalues

theorem mappedSettings_eq_ok {rs : Records} {comparisons : Nat} {args compared : List Value}
    {values : List (String × Value)}
    (h : mappedSettings rs e q comparisons args = .ok (values, compared)) :
    ∀ column ∈ values.map (·.1), column ∈ e.physicalColumns := by
  unfold mappedSettings at h
  split at h
  · simp at h
  · obtain ⟨_, -, h⟩ := Except.bind_eq_ok.mp h
    obtain ⟨values', hvalues, h⟩ := Except.bind_eq_ok.mp h
    cases h
    exact settings_eq_ok (fun _ _ => settableColumn_eq_ok) hvalues
  · simp at h

/-- An update that is settled sets physical columns, on the rows that its name states. -/
theorem ofCall_eq_ok {rs : Records} {args : List Value} {u : Update}
    (h : Update.ofCall rs e q args = .ok u) :
    q.verb = .update ∧ (∃ selection, Compiled e q selection ∧ u.filter = selection.filter)
      ∧ ∀ column ∈ u.values.map (·.1), column ∈ e.physicalColumns := by
  rw [Update.ofCall] at h
  obtain ⟨_, hverb, h⟩ := Except.bind_eq_ok.mp h
  obtain ⟨selection, hcompile, h⟩ := Except.bind_eq_ok.mp h
  have hverb : q.verb = .update := by simpa using checkVerb_eq_ok.mp hverb
  have hrest : (∀ column ∈ u.values.map (·.1), column ∈ e.physicalColumns)
      ∧ u.filter = selection.filter := by
    split at h
    · obtain ⟨⟨values, compared⟩, hvalues, h⟩ := Except.bind_eq_ok.mp h
      obtain ⟨parameters, -, h⟩ := Except.bind_eq_ok.mp h
      cases h
      exact ⟨mappedSettings_eq_ok hvalues, rfl⟩
    · obtain ⟨⟨values, compared⟩, hvalues, h⟩ := Except.bind_eq_ok.mp h
      obtain ⟨parameters, -, h⟩ := Except.bind_eq_ok.mp h
      cases h
      exact ⟨namedSettings_eq_ok hvalues, rfl⟩
  exact ⟨hverb, ⟨selection, compile_eq_ok hcompile, hrest.2⟩, hrest.1⟩

end EntityMap
