import EntityMap.Proofs.Method.Reading
import EntityMap.Proofs.Sql.Compilation
import EntityMap.Proofs.Sql.Token

/-!
# The condition that a method name means

The query of a method name compiles if and only if all of its fields are mapped to columns
(`compile_of_resolved`), and otherwise the first that is not is blamed (`compile_of_unmapped`).
`readCondition?` reads the tokens of a condition : columns, each compared with a parameter, and the
connectors between them. The text of the compiled condition has such tokens (`hasTokens_filter`),
and read in this way it gives back the columns of the name's terms and its connectors
(`compile_reads_back`).
-/

namespace EntityMap

open Text

variable {columns : List (String × String)} {q : Method.Query}

/-! ## Fields -/

/-- The fields that a query compares, and then the one that it orders by. -/
def Method.Query.fields (q : Method.Query) : List String := q.terms ++ q.orderField.toList

/-- The field is mapped to no column. -/
def isUnmapped (columns : List (String × String)) (field : String) : Bool :=
  (columns.lookup (fieldKey field)).isNone

/-- The field is mapped to a column. -/
def Resolves (columns : List (String × String)) (field column : String) : Prop :=
  columns.lookup (fieldKey field) = some column

theorem isUnmapped_eq_false {field : String} :
    isUnmapped columns field = false ↔ ∃ column, Resolves columns field column := by
  rw [isUnmapped, Option.isNone_eq_false_iff, Option.isSome_iff_exists]
  rfl

theorem resolveField_of_unmapped {field : String} (h : isUnmapped columns field = true) :
    resolveField columns field = .error (.fieldNotFound field) := by
  rw [resolveField, Option.isNone_iff_eq_none.mp h]

theorem exists_resolved {terms : List String} (h : ∀ t ∈ terms, ∃ c, Resolves columns t c) :
    ∃ resolved, List.Forall₂ (Resolves columns) terms resolved := by
  induction terms with
  | nil => exact ⟨[], .nil⟩
  | cons t terms ih =>
    obtain ⟨c, hc⟩ := h t List.mem_cons_self
    obtain ⟨resolved, hresolved⟩ := ih fun u hu => h u (List.mem_cons_of_mem _ hu)
    exact ⟨c :: resolved, .cons hc hresolved⟩

/-! ## Compiling -/

/-- The filter that compares columns, with words between them. -/
def Filter.joining : List String → List String → Filter
  | [], _ => .all
  | c :: cs, words => .equals c (words.zip cs)

theorem columns_joining {cs words : List String} (h : cs.length ≤ words.length + 1) :
    (Filter.joining cs words).columns = cs := by
  cases cs with
  | nil => rfl
  | cons c cs =>
    rw [Filter.joining, Filter.columns, List.map_snd_zip (by simpa using h)]

theorem paramCount_joining {cs words : List String} (h : cs.length ≤ words.length + 1)
    (order : Option SortTerm) : (Selection.mk (.joining cs words) order).paramCount = cs.length := by
  rw [Selection.paramCount, columns_joining h]

theorem compileRest_of_resolved {terms cs words : List String}
    (h : List.Forall₂ (Resolves columns) terms cs) (hwords : terms.length ≤ words.length) :
    compileRest columns terms words = .ok ((words.map upper).zip cs) := by
  induction h generalizing words with
  | nil => simp [compileRest]
  | cons hc _ ih =>
    cases words with
    | nil => simp at hwords
    | cons w words =>
      have hrest := @ih words (by simpa using hwords)
      rw [compileRest, resolveField_eq_ok.mpr hc, hrest]
      rfl

theorem compileTerms_of_resolved {terms cs words : List String}
    (h : List.Forall₂ (Resolves columns) terms cs) (hwords : terms.length ≤ words.length + 1) :
    compileTerms columns terms words = .ok (.joining cs (words.map upper)) := by
  cases h with
  | nil => rfl
  | cons hc hrest =>
    have hrest := @compileRest_of_resolved _ _ _ words hrest (by simpa using hwords)
    rw [compileTerms, resolveField_eq_ok.mpr hc, hrest]
    rfl

theorem compileRest_of_unmapped {terms words : List String} {field : String}
    (h : terms.find? (isUnmapped columns) = some field) (hwords : terms.length ≤ words.length) :
    compileRest columns terms words = .error (.fieldNotFound field) := by
  induction terms generalizing words with
  | nil => simp at h
  | cons t terms ih =>
    cases words with
    | nil => simp at hwords
    | cons w words =>
      rw [compileRest]
      cases ht : isUnmapped columns t with
      | true =>
        rw [List.find?_cons_of_pos ht] at h
        cases h
        rw [resolveField_of_unmapped ht]
        rfl
      | false =>
        obtain ⟨c, hc⟩ := isUnmapped_eq_false.mp ht
        rw [List.find?_cons_of_neg (by simp [ht])] at h
        rw [resolveField_eq_ok.mpr hc, ih h (by simpa using hwords)]
        rfl

theorem compileTerms_of_unmapped {terms words : List String} {field : String}
    (h : terms.find? (isUnmapped columns) = some field)
    (hwords : terms.length ≤ words.length + 1) :
    compileTerms columns terms words = .error (.fieldNotFound field) := by
  cases terms with
  | nil => simp at h
  | cons t terms =>
    rw [compileTerms]
    cases ht : isUnmapped columns t with
    | true =>
      rw [List.find?_cons_of_pos ht] at h
      cases h
      rw [resolveField_of_unmapped ht]
      rfl
    | false =>
      obtain ⟨c, hc⟩ := isUnmapped_eq_false.mp ht
      rw [List.find?_cons_of_neg (by simp [ht])] at h
      rw [resolveField_eq_ok.mpr hc, compileRest_of_unmapped h (by simpa using hwords)]
      rfl

theorem directionOfWord_word (d : Method.Direction) : directionOfWord d.word = .ok d := by
  cases d <;> decide

/-- A name states one connector fewer than it states terms. -/
theorem length_terms_of_ofName? {name : String} (hq : Method.Query.ofName? name = .ok q) :
    q.terms.length = q.connectors.length + 1 ∨ q.terms = [] ∧ q.connectors = [] := by
  obtain ⟨d, -, rfl⟩ := (Method.ofName?_eq_ok_iff_derivation name q).mp hq
  exact Method.length_terms name d

theorem length_terms_le {name : String} (hq : Method.Query.ofName? name = .ok q) :
    q.terms.length ≤ q.connectors.length + 1 := by
  rcases length_terms_of_ofName? hq with h | ⟨h, -⟩
  · exact h.le
  · simp [h]

/-- A query whose fields are all mapped compiles : to the columns of its terms with its connectors
between them, and the column of its order. -/
theorem compile_of_resolved {cs : List String} {order : Option String}
    (hwords : q.terms.length ≤ q.connectors.length + 1)
    (hterms : List.Forall₂ (Resolves columns) q.terms cs)
    (horder : Option.Rel (Resolves columns) q.orderField order) :
    q.criteria.compile columns =
      .ok ⟨.joining cs (q.connectors.map (·.word)), order.map (⟨·, q.direction⟩)⟩ := by
  have hupper : (q.connectors.map (·.word)).map upper = q.connectors.map (·.word) := by
    rw [List.map_map]
    exact List.map_congr_left fun k _ => upper_word k
  have hwords : q.terms.length ≤ (q.connectors.map (·.word)).length + 1 := by simpa using hwords
  have hfilter := compileTerms_of_resolved hterms hwords
  rw [hupper] at hfilter
  rw [Criteria.compile, show q.criteria.terms = q.terms from rfl,
    show q.criteria.connectors = q.connectors.map (·.word) from rfl, hfilter]
  rcases hfield : q.orderField with _ | field
  · rw [hfield] at horder
    cases horder
    simp only [Method.Query.criteria, hfield]
    rfl
  · rw [hfield] at horder
    cases horder with
    | some hcolumn =>
      simp only [Method.Query.criteria, hfield, Option.map_some]
      rw [resolveField_eq_ok.mpr hcolumn]
      simp [compileOrder, directionOfWord_word]
      rfl

/-- All fields of a query are mapped if those that it compares are and the one that it orders by. -/
theorem exists_resolved_fields (h : ∀ field ∈ q.fields, ∃ c, Resolves columns field c) :
    ∃ cs order, List.Forall₂ (Resolves columns) q.terms cs
      ∧ Option.Rel (Resolves columns) q.orderField order := by
  obtain ⟨cs, hcs⟩ := exists_resolved fun t ht => h t (List.mem_append_left _ ht)
  cases hfield : q.orderField with
  | none => exact ⟨cs, none, hcs, .none⟩
  | some field =>
    obtain ⟨c, hc⟩ := h field (List.mem_append_right _ (by simp [hfield]))
    exact ⟨cs, some c, hcs, .some hc⟩

/-- Then it compiles, to one comparison for each term. -/
theorem exists_compile (hwords : q.terms.length ≤ q.connectors.length + 1)
    (h : ∀ field ∈ q.fields, ∃ c, Resolves columns field c) :
    ∃ selection, q.criteria.compile columns = .ok selection
      ∧ selection.paramCount = q.terms.length := by
  obtain ⟨cs, order, hcs, horder⟩ := exists_resolved_fields h
  refine ⟨_, compile_of_resolved hwords hcs horder, ?_⟩
  rw [paramCount_joining, hcs.length_eq]
  rwa [List.length_map, ← hcs.length_eq]

/-- A query with a field that is not mapped does not compile, and the first such field is blamed. -/
theorem compile_of_unmapped (hwords : q.terms.length ≤ q.connectors.length + 1) {field : String}
    (h : q.fields.find? (isUnmapped columns) = some field) :
    q.criteria.compile columns = .error (.fieldNotFound field) := by
  have hwords : q.terms.length ≤ (q.connectors.map (·.word)).length + 1 := by simpa using hwords
  rw [Method.Query.fields, List.find?_append] at h
  rw [Criteria.compile, show q.criteria.terms = q.terms from rfl,
    show q.criteria.connectors = q.connectors.map (·.word) from rfl]
  cases hterms : q.terms.find? (isUnmapped columns) with
  | some t =>
    rw [hterms, Option.some_or] at h
    cases h
    rw [compileTerms_of_unmapped hterms hwords]
    rfl
  | none =>
    rw [hterms, Option.none_or] at h
    have hmapped : ∀ t ∈ q.terms, ∃ c, Resolves columns t c := fun t ht =>
      isUnmapped_eq_false.mp (by simpa using List.find?_eq_none.mp hterms t ht)
    obtain ⟨cs, hcs⟩ := exists_resolved hmapped
    rw [compileTerms_of_resolved hcs hwords]
    cases hfield : q.orderField with
    | none => simp [hfield] at h
    | some last =>
      rw [hfield, Option.toList_some, List.find?_singleton] at h
      split at h
      · next hlast =>
        cases h
        simp only [Method.Query.criteria, hfield, Option.map_some]
        rw [resolveField_of_unmapped hlast]
        rfl
      · simp at h

/-- A query compiles only if its fields are all mapped. -/
theorem exists_resolved_of_compile (hwords : q.terms.length ≤ q.connectors.length + 1)
    {selection : Selection} (h : q.criteria.compile columns = .ok selection) :
    ∀ field ∈ q.fields, ∃ c, Resolves columns field c := by
  intro field hfield
  refine isUnmapped_eq_false.mp (Bool.eq_false_iff.mpr fun hunmapped => ?_)
  obtain ⟨first, hfirst⟩ :=
    Option.isSome_iff_exists.mp (List.find?_isSome.mpr ⟨field, hfield, hunmapped⟩)
  rw [compile_of_unmapped hwords hfirst] at h
  cases h

/-- Between as many columns as a name states terms stand its connectors. -/
theorem length_resolved {name : String} (hq : Method.Query.ofName? name = .ok q)
    {cs : List String} (hcs : List.Forall₂ (Resolves columns) q.terms cs) :
    cs.length = q.connectors.length + 1 ∨ cs = [] ∧ q.connectors = [] := by
  rcases length_terms_of_ofName? hq with hlength | ⟨hterms, hconnectors⟩
  · exact .inl (hcs.length_eq ▸ hlength)
  · rw [hterms] at hcs
    cases hcs
    exact .inr ⟨rfl, hconnectors⟩

/-! ## Reading conditions -/

/-- The tokens of a column that is compared with a parameter. -/
def comparisonTokens (column : String) : List SqlToken := [.name column, .sign '=', .sign '?']

/-- The connector that a word is. -/
def connectorOf? (word : String) : Option Method.Connector :=
  if word = "AND" then some .and else if word = "OR" then some .or else none

/-- Reads the comparisons after the first, each after its connector. -/
def readJoined? : List SqlToken → Option (List (Method.Connector × String))
  | [] => some []
  | .word w :: .name c :: .sign '=' :: .sign '?' :: ts => do
    return (← connectorOf? w, c) :: (← readJoined? ts)
  | _ => none

/-- Reads a condition : the columns compared, one parameter each, and the connectors between
them. -/
def readCondition? : List SqlToken → Option (List String × List Method.Connector)
  | [] => some ([], [])
  | .name c :: .sign '=' :: .sign '?' :: ts => do
    let joined ← readJoined? ts
    return (c :: joined.map (·.2), joined.map (·.1))
  | _ => none

theorem connectorOf?_word (k : Method.Connector) : connectorOf? k.word = some k := by
  cases k <;> decide

/-- The tokens of comparisons after the first. -/
def joinedTokens (joined : List (Method.Connector × String)) : List SqlToken :=
  joined.flatMap fun r => .word r.1.word :: comparisonTokens r.2

theorem readJoined?_joinedTokens (joined : List (Method.Connector × String)) :
    readJoined? (joinedTokens joined) = some joined := by
  induction joined with
  | nil => rfl
  | cons r joined ih =>
    show (do return (← connectorOf? r.1.word, r.2) :: (← readJoined? (joinedTokens joined))) = _
    rw [ih, connectorOf?_word]
    rfl

theorem count_joinedTokens (joined : List (Method.Connector × String)) :
    (joinedTokens joined).count (.sign '?') = joined.length := by
  induction joined with
  | nil => rfl
  | cons r joined ih =>
    rw [joinedTokens, List.flatMap_cons, List.count_append, ← joinedTokens, ih, List.length_cons,
      Nat.add_comm]
    simp [comparisonTokens]

theorem hasTokens_comparison (column : String) :
    HasTokens (comparison column) (comparisonTokens column) := by
  have hequals : Plain " = ?".toList := by decide
  have hopens : BreaksAtStart " = ?".toList := by decide
  intro rest hrest
  rw [comparison, String.toList_append, List.append_assoc,
    tokens_identifier_append (EndsToken.of_breaksAtStart hopens rest).name,
    tokens_append_of_endsWord hequals hrest.word]
  rfl

/-- A comparison after its connector. -/
theorem hasTokens_joinedComparison (k : Method.Connector) (column : String) :
    HasTokens (joinedComparison k.word column) (.word k.word :: comparisonTokens column) := by
  have hclosed : BreaksAtEnd (" " ++ k.word ++ " ").toList := by cases k <;> decide
  have hword : tokens (" " ++ k.word ++ " ").toList = [.word k.word] := by cases k <;> decide
  intro rest hrest
  rw [joinedComparison, String.toList_append, List.append_assoc,
    tokens_append_of_breaksAtEnd hclosed, hword, hasTokens_comparison column rest hrest]
  rfl

theorem breaksAtStart_joinedComparison (k : Method.Connector) (column : String) :
    BreaksAtStart (joinedComparison k.word column).toList := by
  simp only [joinedComparison, String.append_assoc, String.toList_append]
  exact BreaksAtStart.append (by decide) _

/-- The tokens of the text of a filter. -/
theorem hasTokens_filter (first : String) (joined : List (Method.Connector × String)) :
    HasTokens (Filter.equals first (joined.map fun r => (r.1.word, r.2))).text
      (comparisonTokens first ++ joinedTokens joined) := by
  rw [Filter.text]
  induction joined using List.reverseRecOn with
  | nil => simpa [joinedTokens] using hasTokens_comparison first
  | append_singleton joined r ih =>
    intro rest hrest
    have hends := EndsToken.of_breaksAtStart (breaksAtStart_joinedComparison r.1 r.2) rest
    rw [List.map_append, List.foldl_append, List.map_singleton, List.foldl_cons, List.foldl_nil,
      String.toList_append, List.append_assoc, ih _ hends,
      hasTokens_joinedComparison _ _ rest hrest]
    simp [joinedTokens]

/-- The text of a filter is read back as the columns and the connectors that it is made of. -/
theorem readCondition?_joining {cs : List String} {ks : List Method.Connector}
    (h : cs.length = ks.length + 1 ∨ cs = [] ∧ ks = []) :
    readCondition? (tokens (Filter.joining cs (ks.map (·.word))).text.toList) = some (cs, ks)
      ∧ (tokens (Filter.joining cs (ks.map (·.word))).text.toList).count (.sign '?')
        = cs.length := by
  rcases h with h | ⟨rfl, rfl⟩
  · obtain ⟨c, cs, rfl⟩ := List.exists_cons_of_length_eq_add_one h
    have hlength : ks.length = cs.length := by simpa using h.symm
    have hzip : (ks.map (·.word)).zip cs = (ks.zip cs).map fun r => (r.1.word, r.2) := by
      rw [List.zip_map_left]
      rfl
    have hfilter : Filter.joining (c :: cs) (ks.map (·.word))
        = .equals c ((ks.zip cs).map fun r => (r.1.word, r.2)) := by
      rw [Filter.joining, hzip]
    rw [hfilter, (hasTokens_filter c (ks.zip cs)).tokens_eq]
    constructor
    · simp only [comparisonTokens, List.cons_append, List.nil_append, readCondition?,
        readJoined?_joinedTokens]
      simp [List.map_fst_zip hlength.le, List.map_snd_zip hlength.ge]
    · rw [List.count_append, count_joinedTokens, List.length_zip, hlength]
      simp [comparisonTokens, Nat.add_comm]
  · exact ⟨rfl, rfl⟩

/-- An order is a column and a direction. -/
theorem hasTokens_sortTerm (o : SortTerm) :
    HasTokens o.text [.name o.column, .word o.direction.word] := by
  have hdirection : Plain (" " ++ o.direction.word).toList := by
    cases o.direction <;> decide
  have htokens : tokens (" " ++ o.direction.word).toList = [.word o.direction.word] := by
    cases o.direction <;> decide
  have hopens : BreaksAtStart (" " ++ o.direction.word).toList := by
    cases o.direction <;> decide
  intro rest hrest
  rw [SortTerm.text, String.append_assoc, String.toList_append, List.append_assoc,
    tokens_identifier_append (EndsToken.of_breaksAtStart hopens rest).name,
    tokens_append_of_endsWord hdirection hrest.word, htokens]
  rfl

/-- For whatever mapping of fields to columns, the query of a name compiles if and only if each of
its fields is mapped, and otherwise the first that is not is blamed, the terms coming before the
order. The text of the condition is then read back as the columns of the terms in the order of the
name, compared with one parameter each, and the connectors of the name between them ; and the text
of the order as the column of its field and the direction. This holds of all names of columns,
whatever characters they have. -/
theorem compile_reads_back {name : String} (hq : Method.Query.ofName? name = .ok q)
    (columns : List (String × String)) :
    ((∃ selection, q.criteria.compile columns = .ok selection) ↔
      ∀ field ∈ q.fields, ∃ column, Resolves columns field column)
    ∧ (∀ field, q.fields.find? (isUnmapped columns) = some field →
      q.criteria.compile columns = .error (.fieldNotFound field))
    ∧ ∀ selection, q.criteria.compile columns = .ok selection →
      ∃ resolved, List.Forall₂ (Resolves columns) q.terms resolved
        ∧ readCondition? (tokens selection.filter.text.toList) = some (resolved, q.connectors)
        ∧ (tokens selection.filter.text.toList).count (.sign '?') = selection.paramCount
        ∧ selection.paramCount = q.terms.length
        ∧ match q.orderField with
          | none => selection.orderText = ""
          | some field => ∃ column, Resolves columns field column
            ∧ tokens selection.orderText.toList = [.name column, .word q.direction.word] := by
  have hwords := length_terms_le hq
  refine ⟨⟨fun ⟨_, h⟩ => exists_resolved_of_compile hwords h, fun h => ?_⟩,
    fun field h => compile_of_unmapped hwords h, fun selection h => ?_⟩
  · obtain ⟨selection, hselection, -⟩ := exists_compile hwords h
    exact ⟨selection, hselection⟩
  obtain ⟨cs, order, hcs, horder⟩ := exists_resolved_fields (exists_resolved_of_compile hwords h)
  obtain rfl := Except.ok.inj ((compile_of_resolved hwords hcs horder).symm.trans h)
  have hparams : (Selection.mk (.joining cs (q.connectors.map (·.word)))
      (order.map (⟨·, q.direction⟩))).paramCount = cs.length := by
    refine paramCount_joining ?_ _
    rwa [List.length_map, ← hcs.length_eq]
  obtain ⟨hread, hcount⟩ := readCondition?_joining (length_resolved hq hcs)
  refine ⟨cs, hcs, hread, hcount.trans hparams.symm, hparams.trans hcs.length_eq.symm, ?_⟩
  rcases hfield : q.orderField with _ | field
  · rw [hfield] at horder
    cases horder
    rfl
  · rw [hfield] at horder
    cases horder with
    | some hcolumn => exact ⟨_, hcolumn, (hasTokens_sortTerm _).tokens_eq⟩

/-- Columns whose names have marks, blanks and signs in them. -/
def oddColumns : List (String × String) :=
  [("name", "na\"me\" = ?"), ("alltypes", "? OR 1=1 --"), ("code", "co de\" DESC")]

/-- Of `findByNameOrAllTypesOrderByCodeDesc` nothing is lost in columns with such names. -/
theorem compile_reads_back_oddColumns :
    ∃ q selection, Method.Query.ofName? "findByNameOrAllTypesOrderByCodeDesc" = .ok q
      ∧ q.criteria.compile oddColumns = .ok selection
      ∧ readCondition? (tokens selection.filter.text.toList)
        = some (["na\"me\" = ?", "? OR 1=1 --"], [.or])
      ∧ tokens selection.orderText.toList = [.name "co de\" DESC", .word "DESC"] := by
  have hq : Method.Query.ofName? "findByNameOrAllTypesOrderByCodeDesc" = .ok
      { name := "findByNameOrAllTypesOrderByCodeDesc", verb := .find, terms := ["name", "allTypes"]
        connectors := [.or], orderField := some "code", direction := .desc, setFields := [] } := by
    rfl
  obtain ⟨hcompiles, -, hreads⟩ := compile_reads_back hq oddColumns
  have hmapped : ∀ field ∈ ["name", "allTypes", "code"], isUnmapped oddColumns field = false := by
    decide +kernel
  obtain ⟨selection, hselection⟩ :=
    hcompiles.mpr fun field hfield => isUnmapped_eq_false.mp (hmapped field hfield)
  obtain ⟨resolved, hresolved, hcondition, -, -, column, hcolumn, horder⟩ :=
    hreads selection hselection
  have hfirst : Resolves oddColumns "name" "na\"me\" = ?" := by
    rfl
  have hsecond : Resolves oddColumns "allTypes" "? OR 1=1 --" := by
    rfl
  have hlast : Resolves oddColumns "code" "co de\" DESC" := by
    rfl
  obtain _ | ⟨h₁, _ | ⟨h₂, _ | _⟩⟩ := hresolved
  obtain rfl := Option.some.inj (hfirst.symm.trans h₁)
  obtain rfl := Option.some.inj (hsecond.symm.trans h₂)
  obtain rfl := Option.some.inj (hlast.symm.trans hcolumn)
  exact ⟨_, selection, hq, hselection, hcondition, horder⟩

end EntityMap
