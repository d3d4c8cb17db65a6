import EntityMap.Proofs.Named
import EntityMap.Proofs.Operation.Faults

/-!
# What is explained is what is run

`explain` puts its texts together from the name and the entity alone, with the order of the rows
whatever the verb is, and an update's columns as the name states them. A call runs what the
operations settle. `explain_shows_first_statement` says that the texts are the same : a name that
orders nothing has no order after its condition (`explain_eq_statement`), and fields with columns of
their own are set in the order in which they are stated (`settings_of_nodup`).
-/

namespace EntityMap

variable {δ : Type} {e : Entity} {q : Method.Query} {rs : Records}

/-! ## Fields to set -/

/-- Distinct columns are set one after the other, behind those that are set already. -/
theorem foldlM_settings {κ : Type} {columnOf : κ → Except Failure String}
    {entries : List (κ × Value)} {columns : List String} {ps : List Value}
    {known : List (String × Value)}
    (hcolumns : List.Forall₂ (fun entry column => columnOf entry.1 = .ok column) entries columns)
    (hvalues : List.Forall₂ (fun entry p => bindValue rs entry.2 = .ok p) entries ps)
    (hnodup : (known.map (·.1) ++ columns).Nodup) :
    entries.foldlM (fun known entry => do
      let column ← columnOf entry.1
      return setNamed column (← bindValue rs entry.2) known) known =
        .ok (known ++ columns.zip ps) := by
  induction hcolumns generalizing ps known with
  | nil => simp [pure, Except.pure]
  | @cons entry column entries columns hcolumn _ ih =>
    cases hvalues with
    | @cons _ p _ ps hvalue hvalues =>
      have hnew : column ∉ known.map (·.1) := fun hmem =>
        (List.nodup_append.mp hnodup).2.2 column hmem column List.mem_cons_self rfl
      have hrest : ((known ++ [(column, p)]).map (·.1) ++ columns).Nodup := by
        simpa using hnodup
      rw [List.foldlM_cons, hcolumn, hvalue]
      show List.foldlM _ (setNamed column p known) entries = _
      rw [setNamed_eq_append p hnew, ih hvalues hrest]
      simp

/-- Fields with columns of their own are set in their order. -/
theorem settings_of_nodup {κ : Type} {columnOf : κ → Except Failure String}
    {entries : List (κ × Value)} {columns : List String} {ps : List Value}
    (hcolumns : List.Forall₂ (fun entry column => columnOf entry.1 = .ok column) entries columns)
    (hvalues : List.Forall₂ (fun entry p => bindValue rs entry.2 = .ok p) entries ps)
    (hnodup : columns.Nodup) : settings rs columnOf entries = .ok (columns.zip ps) :=
  foldlM_settings hcolumns hvalues hnodup

theorem settable_of_resolves {field column : String} (h : Resolves e.fieldColumns field column) :
    e.settable field = .ok column :=
  Except.mapError_eq_ok.mpr (resolveField_eq_ok.mpr h)

/-! ## Calls that are in order -/

/-- The arguments of a call pass its checks : there is one for each field to set, which can be
written, and then one for each comparison, which is a text or a number. -/
structure Accepts (rs : Records) (q : Method.Query) (args : List Value) : Prop where
  count : args.length = q.setFields.length + q.terms.length
  written : ∀ v ∈ args.take q.setFields.length, ∃ p, bindValue rs v = .ok p
  compared : ∀ v ∈ args.drop q.setFields.length, v.isComparable = true

theorem exists_bound {vs : List Value} (h : ∀ v ∈ vs, ∃ p, bindValue rs v = .ok p) :
    ∃ ps, List.Forall₂ (fun v p => bindValue rs v = .ok p) vs ps := by
  induction vs with
  | nil => exact ⟨[], .nil⟩
  | cons v vs ih =>
    obtain ⟨p, hp⟩ := h v List.mem_cons_self
    obtain ⟨ps, hps⟩ := ih fun u hu => h u (List.mem_cons_of_mem _ hu)
    exact ⟨p :: ps, .cons hp hps⟩

/-- The query is one of the verbs that are explained as they are run, and an update states its
fields, which have columns of their own. -/
inductive Explained (e : Entity) (q : Method.Query) : Prop
  | rows (verb : q.verb ∈ [Method.Verb.find, .findAll, .exist, .delete])
  | fields (verb : q.verb = .update) (stated : q.setFields ≠ []) {columns : List String}
    (resolved : List.Forall₂ (Resolves e.fieldColumns) q.setFields columns)
    (distinct : columns.Nodup)

section

variable {selection : Selection} {columns : List String} {args : List Value}
  (hcompile : Query.compile e q = .ok selection) (hverb : q.verb = .update)
  (hstated : q.setFields ≠ [])
  (hresolved : List.Forall₂ (Resolves e.fieldColumns) q.setFields columns)
include hcompile hverb hstated hresolved

/-- An update whose fields are stated sets their columns, in order. -/
theorem exists_ofCall_of_fields (hparams : selection.paramCount = q.terms.length)
    (hdistinct : columns.Nodup) (hargs : Accepts rs q args) :
    ∃ u, Update.ofCall rs e q args = .ok u ∧ u.values.map (·.1) = columns
      ∧ u.filter = selection.filter := by
  let count := q.setFields.length
  obtain ⟨ps, hps⟩ := exists_bound hargs.written
  have htaken : (args.take count).length = count := by
    rw [List.length_take, hargs.count]
    omega
  have hcolumns : List.Forall₂ (fun entry column => e.settable entry.1 = .ok column)
      (q.setFields.zip (args.take count)) columns := by
    have hsettable := hresolved.imp fun _ _ => settable_of_resolves
    rwa [← List.map_fst_zip htaken.ge, List.forall₂_map_left_iff] at hsettable
  have hvalues : List.Forall₂ (fun entry p => bindValue rs entry.2 = .ok p)
      (q.setFields.zip (args.take count)) ps := by
    rwa [← List.map_snd_zip htaken.le, List.forall₂_map_left_iff] at hps
  have hsettings := settings_of_nodup hcolumns hvalues hdistinct
  have hcount : args.length = count + selection.paramCount := by rw [hargs.count, hparams]
  refine ⟨⟨columns.zip ps, selection.filter, (args.drop count).map Value.asParameter⟩, ?_, ?_, rfl⟩
  · have hnamed : namedSettings rs e q selection.paramCount args =
        .ok (columns.zip ps, args.drop count) := by
      rw [namedSettings, checkCount_eq_ok.mpr hcount]
      show (settings rs e.settable (q.setFields.zip (args.take count)) >>= _) = _
      rw [hsettings]
      rfl
    refine ofCall_of_settings hverb hcompile ?_ (bindArguments_of_isComparable rs hargs.compared)
    rwa [if_neg (by simpa using hstated)]
  · refine List.map_fst_zip ?_
    rw [← hresolved.length_eq, ← hps.length_eq, htaken]

/-- It is shown with these columns. -/
theorem explain_eq_update (horder : selection.order = none) :
    explain e q = .ok (Statement.update e.table columns (.filter selection.filter)).text := by
  have hshown : shownAssignments e q = .ok (assignments columns) := by
    have hcolumns : q.setFields.mapM e.settable = .ok columns :=
      mapM_eq_ok.mpr (hresolved.imp fun _ _ => settable_of_resolves)
    rw [shownAssignments, if_neg (by simpa using hstated), hcolumns]
    rfl
  unfold explain
  rw [hcompile, hverb, hshown]
  show Except.ok ("UPDATE " ++ Text.identifier e.table ++ " SET " ++ assignments columns
    ++ selection.suffix) = _
  rw [suffix_eq_clause horder]
  rfl

end

/-! ## The first statement -/

variable [Database δ]

/-- What is run first on a connection is the first statement that is run. -/
theorem statements_of_runs_first {m : Management} {w w₁ w' : World δ} {s : Statement}
    {ps : List Value} (hopen : ensureOpen m w = (.ok (), w₁))
    (h : w₁.events ++ [.ran s ps] <+: w'.events) : w.statements ++ [s] <+: w'.statements := by
  have hsilent := (silent_of_ensureOpen readInvariant_true hopen).statements
  have hstatements := h.filterMap (·.statement?)
  rw [List.filterMap_append] at hstatements
  rwa [← hsilent]

/-- For every entity and every name that is accepted and whose fields are mapped, of a search, a
count or a deletion or of an update that states fields with columns of their own : the name is
explained, and every call whose arguments pass the checks runs, once the connection is open, a
statement with exactly that text before any other. -/
theorem explain_shows_first_statement (x : Library) {name : String}
    (hq : Method.Query.ofName? name = .ok q) (hexplained : Explained e q)
    (hmapped : ∀ field ∈ q.fields, ∃ column, Resolves e.fieldColumns field column) :
    ∃ text, explain e q = .ok text ∧
      ∀ args many (w w₁ : World δ), Accepts w.records q args →
        ensureOpen x.management w = (.ok (), w₁) →
        ∃ s, s.text = text
          ∧ w.statements ++ [s] <+: (invoke x e name args many w).2.statements := by
  obtain ⟨selection, hselection, hparams⟩ := exists_compile (length_terms_le hq) hmapped
  have hcompile : Query.compile e q = .ok selection := Except.mapError_eq_ok.mpr hselection
  cases hexplained with
  | rows hverb =>
    have hset : q.setFields = [] := by
      refine Method.setFields_eq_nil hq fun hupdate => ?_
      rw [hupdate] at hverb
      simp at hverb
    refine ⟨_, explain_eq_statement hq hverb hcompile, fun args many w w₁ hargs hopen => ?_⟩
    have hcount : args.length = selection.paramCount := by
      rw [hargs.count, hset, hparams, List.length_nil, Nat.zero_add]
    have hcompared : ∀ v ∈ args, v.isComparable = true := by
      have h := hargs.compared
      rwa [hset, List.length_nil, List.drop_zero] at h
    have hruns := runQuery_runs_first hcompile hcount hcompared hopen hverb many
    rw [← invoke_eq_runQuery hq] at hruns
    exact ⟨_, rfl, statements_of_runs_first hopen hruns⟩
  | fields hverb hstated hresolved hdistinct =>
    have hfield : q.orderField = none := Method.orderField_eq_none hq (by rw [hverb]; rfl)
    have horder := (compile_eq_ok hcompile).order_eq_none hfield
    refine ⟨_, explain_eq_update hcompile hverb hstated hresolved horder,
      fun args many w w₁ hargs hopen => ?_⟩
    obtain ⟨u, hu, rfl, hfilter⟩ := exists_ofCall_of_fields hcompile hverb hstated hresolved hparams
      hdistinct hargs
    have hruns := update_runs_first hu hopen
    have hinvoke : (invoke x e name args many : Op δ Value) = update x e q args := by
      rw [invoke_eq_runQuery hq, runQuery, hverb]
    rw [← hinvoke, hfilter] at hruns
    exact ⟨_, rfl, statements_of_runs_first hopen hruns⟩

open Sample in
/-- The new name and mark of a product are explained as they are set. -/
theorem explain_shows_first_statement_product :
    ∃ q s, Method.Query.ofName? "updateNameAndActiveByName" = .ok q
      ∧ explain productEntity q =
        .ok "UPDATE \"products\" SET \"name\" = ?, \"active\" = ? WHERE \"name\" = ?"
      ∧ s.text = "UPDATE \"products\" SET \"name\" = ?, \"active\" = ? WHERE \"name\" = ?"
      ∧ [s] <+: (invoke library productEntity "updateNameAndActiveByName"
        [.text "valve", .bool false, .text "pump"] none
        ({ database := {} } : World Script)).2.statements := by
  let q : Method.Query :=
    { name := "updateNameAndActiveByName", verb := .update, terms := ["name"], connectors := []
      orderField := none, direction := .asc, setFields := ["name", "active"] }
  have hq : Method.Query.ofName? "updateNameAndActiveByName" = .ok q := by
    rfl
  have hmapped : ∀ field ∈ ["name"], isUnmapped productEntity.fieldColumns field = false := by
    decide +kernel
  have hresolved : List.Forall₂ (Resolves productEntity.fieldColumns) ["name", "active"]
      ["name", "active"] :=
    .cons rfl (.cons rfl .nil)
  obtain ⟨text, htext, hruns⟩ := explain_shows_first_statement (δ := Script) library hq
    (.fields rfl (by simp) hresolved (by decide))
    fun field hfield => isUnmapped_eq_false.mp (hmapped field hfield)
  have hshown : explain productEntity q =
      .ok "UPDATE \"products\" SET \"name\" = ?, \"active\" = ? WHERE \"name\" = ?" := by
    rfl
  obtain rfl := Except.ok.inj (htext.symm.trans hshown)
  obtain ⟨_, w₁, hopen⟩ := Op.exists_ok (r := ensureOpen library.management
    ({ database := {} } : World Script)) rfl
  have hwritten : ∀ v ∈ [Value.text "valve", .bool false], ∃ p, bindValue [] v = .ok p :=
    List.forall_mem_cons.mpr ⟨⟨_, rfl⟩, List.forall_mem_cons.mpr ⟨⟨_, rfl⟩, by simp⟩⟩
  have haccepts : Accepts [] q [.text "valve", .bool false, .text "pump"] :=
    ⟨rfl, hwritten, by decide⟩
  obtain ⟨s, hs, hfirst⟩ := hruns _ none { database := {} } w₁ haccepts hopen
  exact ⟨_, s, hq, htext, hs, hfirst⟩

end EntityMap
