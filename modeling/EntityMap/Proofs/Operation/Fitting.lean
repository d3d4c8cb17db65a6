import EntityMap.Proofs.Method.Predicate
import EntityMap.Proofs.Operation.Explanation

/-!
# Arguments that fit a predicate

A predicate comes after any verb but `save`. Whether the arguments of a call fit it (`Fits`) is a
matter of the entity, the predicate and the arguments, and not of the verb. If they do, each verb
runs its statement on the rows of one filter, with one text of the condition and the same parameters
for it (`Fits.runs_first`, `text_statementOn`), and `exists`, `delete` and `update` run no other
(`Fits.statements`). If they do not, these three refuse them (`act_refused`) : with a fault of the
call, before any statement.

An update has a mapping before the arguments. A mapping that is valid refuses nothing by itself
(`mappedSettings_eq`).
-/

namespace EntityMap

open Method (Verb PredicatePhrase StartsWord)

variable {δ α β : Type} {x : Library} {e : Entity} {q : Method.Query} {p : PredicatePhrase}
  {args : List Value}

/-! ## Faults of a call only -/

/-- If the result is a failure, it is a fault of the call. -/
def Faulting (r : Except Failure α) : Prop := ∀ f, r = .error f → f.isCallFault = true

theorem Faulting.ok (a : α) : Faulting (.ok a) :=
  fun _ h => nomatch h

theorem Faulting.error {f : Failure} (h : f.isCallFault = true) :
    Faulting (.error f : Except Failure α) := by
  rintro _ ⟨⟩
  exact h

theorem Faulting.bind {r : Except Failure α} {f : α → Except Failure β} (hr : Faulting r)
    (hf : ∀ a, Faulting (f a)) : Faulting (r >>= f) := by
  cases r with
  | error e => exact .error (hr e rfl)
  | ok a => exact hf a

theorem faulting_checkVerb (q : Method.Query) (wanted : List Verb) :
    Faulting (checkVerb q wanted) := by
  unfold checkVerb
  split
  · exact .ok ()
  · exact .error rfl

theorem faulting_checkCount (q : Method.Query) (expected : Nat) (args : List Value) :
    Faulting (checkCount q expected args) := by
  unfold checkCount
  split
  · exact .ok ()
  · exact .error rfl

/-- A query with connectors between its terms does not compile only if a field is not mapped. -/
theorem faulting_compile (hwords : q.terms.length ≤ q.connectors.length + 1) :
    Faulting (Query.compile e q) := by
  cases hunmapped : q.fields.find? (isUnmapped e.fieldColumns) with
  | some field =>
    rw [Query.compile, compile_of_unmapped hwords hunmapped]
    exact .error rfl
  | none =>
    have hmapped : ∀ field ∈ q.fields, ∃ column, Resolves e.fieldColumns field column :=
      fun field hfield => isUnmapped_eq_false.mp
        (by simpa using List.find?_eq_none.mp hunmapped field hfield)
    obtain ⟨selection, hselection, -⟩ := exists_compile hwords hmapped
    rw [Query.compile, hselection]
    exact .ok selection

theorem faulting_bindArguments (rs : Records) (args : List Value) :
    Faulting (bindArguments rs args) := by
  unfold bindArguments
  induction args with
  | nil => exact .ok []
  | cons v args ih =>
    rw [List.mapM_cons]
    refine Faulting.bind ?_ fun p => ih.bind fun ps => .ok (p :: ps)
    cases v <;> first | exact .ok _ | exact .error rfl

theorem faulting_selectionFor (hwords : q.terms.length ≤ q.connectors.length + 1)
    (wanted : List Verb) (args : List Value) : Faulting (selectionFor e q wanted args) :=
  (faulting_checkVerb q wanted).bind fun _ => (faulting_compile hwords).bind fun selection =>
    (faulting_checkCount q selection.paramCount args).bind fun _ => .ok selection

/-! ## Refused calls -/

/-- The step is refused : it fails with a fault of the call, and runs no statement. -/
def Op.Refused (m : Op δ α) (w : World δ) : Prop :=
  ∃ f w', m w = (.error f, w') ∧ f.isCallFault = true ∧ w'.statements = w.statements

namespace Op.Refused

variable {m : Op δ α} {w w₁ : World δ}

theorem ofResult_bind {r : Except Failure α} {f : Failure} {k : α → Op δ β} (h : r = .error f)
    (hr : Faulting r) : (Op.ofResult r >>= k).Refused w := by
  subst h
  exact ⟨f, w, rfl, hr f rfl, rfl⟩

theorem records_bind {k : Records → Op δ β} (h : (k w.records).Refused w) :
    (Op.records >>= k).Refused w :=
  h

theorem bind (h : m.Refused w) (k : α → Op δ β) : (m >>= k).Refused w := by
  obtain ⟨f, w', hm, hf⟩ := h
  exact ⟨f, w', Op.bind_eq_error.mpr (.inl hm), hf⟩

/-- What is refused on a connection that is open is refused. -/
theorem withConnection [Database δ] {management : Management}
    (hopen : ensureOpen management w = (.ok (), w₁)) (h : m.Refused w₁) :
    (EntityMap.withConnection management m).Refused w := by
  obtain ⟨f, w₂, hm, hf, hstatements⟩ := h
  have hsilent := (silent_of_ensureOpen readInvariant_true hopen).statements
  have hleave := (rollback_leave_silent readInvariant_true management w₂).statements
  have hcommitting : committing m w₁ = (.error f, w₂) := committing_eq_error.mpr (.inl hm)
  exact ⟨f, _, withConnection_eq_error.mpr (.inr ⟨w₁, w₂, hopen, hcommitting, rfl⟩), hf,
    hleave.trans (hstatements.trans hsilent)⟩

end Op.Refused

/-! ## Arguments that fit -/

/-- The arguments fit the predicate : its fields are mapped, to the columns that the filter
compares, there is one argument for each of these, and all are texts or numbers. -/
structure Fits (e : Entity) (p : PredicatePhrase) (args : List Value) (f : Filter) : Prop where
  compiled : ∀ v : Verb, Query.compile e (v.queryBy p) = .ok ⟨f, none⟩
  count : args.length = f.columns.length
  comparable : ∀ v ∈ args, v.isComparable = true

theorem length_terms_queryBy (v : Verb) (p : PredicatePhrase) :
    (v.queryBy p).terms.length ≤ (v.queryBy p).connectors.length + 1 := by
  simp [Method.Verb.queryBy, PredicatePhrase.fields, PredicatePhrase.connectors]

theorem isComparable_of_bindArguments {rs : Records} {ps : List Value}
    (h : bindArguments rs args = .ok ps) : ∀ v ∈ args, v.isComparable = true := by
  intro v hv
  obtain ⟨b, -, hb⟩ := exists_of_forall₂ (List.Forall₂.flip (mapM_eq_ok.mp h)) hv
  cases v <;> first | rfl | cases hb

/-- What one verb has compiled is what all do. -/
theorem Fits.of_compile {v : Verb} {selection : Selection} {rs : Records} {ps : List Value}
    (hcompile : Query.compile e (v.queryBy p) = .ok selection)
    (hcount : args.length = selection.paramCount) (hbound : bindArguments rs args = .ok ps) :
    Fits e p args selection.filter := by
  have horder : selection.order = none := (compile_eq_ok hcompile).order_eq_none rfl
  refine ⟨fun _ => ?_, hcount, isComparable_of_bindArguments hbound⟩
  rw [← horder]
  exact hcompile

theorem Fits.of_selectionFor {v : Verb} {wanted : List Verb} {selection : Selection} {rs : Records}
    {ps : List Value} (h : selectionFor e (v.queryBy p) wanted args = .ok selection)
    (hbound : bindArguments rs args = .ok ps) : Fits e p args selection.filter := by
  obtain ⟨_, -, h⟩ := Except.bind_eq_ok.mp h
  obtain ⟨_, hcompile, h⟩ := Except.bind_eq_ok.mp h
  obtain ⟨_, hcount, h⟩ := Except.bind_eq_ok.mp h
  cases h
  exact .of_compile hcompile (checkCount_eq_ok.mp hcount) hbound

/-! ## Mappings -/

/-- What is written does not depend on the records. -/
theorem bindValue_congr {rs : Records} {v b : Value} (h : bindValue rs v = .ok b)
    (rs' : Records) : bindValue rs' v = .ok b := by
  cases v <;> first | exact h | cases h

/-- A mapping that is valid is so whatever the records are. -/
theorem settings_congr {κ : Type} {rs : Records} {columnOf : κ → Except Failure String}
    {entries : List (κ × Value)} {values : List (String × Value)}
    (h : settings rs columnOf entries = .ok values) (rs' : Records) :
    settings rs' columnOf entries = .ok values := by
  unfold settings at h ⊢
  generalize ([] : List (String × Value)) = known at h ⊢
  induction entries generalizing known with
  | nil => exact h
  | cons entry entries ih =>
    rw [List.foldlM_cons] at h ⊢
    obtain ⟨known', hknown, h⟩ := Except.bind_eq_ok.mp h
    obtain ⟨column, hcolumn, hknown⟩ := Except.bind_eq_ok.mp hknown
    obtain ⟨b, hb, hknown⟩ := Except.bind_eq_ok.mp hknown
    refine Except.bind_eq_ok.mpr ⟨known', ?_, ih known' h⟩
    exact Except.bind_eq_ok.mpr ⟨column, hcolumn,
      Except.bind_eq_ok.mpr ⟨b, bindValue_congr hb rs', hknown⟩⟩

/-- The arguments of a call that compares `args` : for an update a mapping comes first. -/
def Method.Verb.arguments (entries : List (Value × Value)) (args : List Value) : Verb → List Value
  | .update => .mapping entries :: args
  | _ => args

section

variable {entries : List (Value × Value)} {values : List (String × Value)} {rs : Records}
  (hentries : entries ≠ []) (hvalid : settings rs (settableColumn e) entries = .ok values)
include hentries hvalid

/-- With a valid mapping only the number of arguments can be wrong. -/
theorem mappedSettings_eq (q : Method.Query) (n : Nat) (args : List Value) :
    mappedSettings rs e q n (.mapping entries :: args) =
      (checkCount q (n + 1) (.mapping entries :: args)).map fun _ => (values, args) := by
  cases entries with
  | nil => exact absurd rfl hentries
  | cons entry entries =>
    show (checkCount q (n + 1) (.mapping (entry :: entries) :: args) >>= fun _ => _) = _
    rw [hvalid]
    cases checkCount q (n + 1) (.mapping (entry :: entries) :: args) <;> rfl

/-- What refuses an update with a valid mapping is a fault of the call. -/
theorem faulting_ofCall (p : PredicatePhrase) (args : List Value) :
    Faulting (Update.ofCall rs e (Verb.update.queryBy p) (.mapping entries :: args)) := by
  refine (faulting_checkVerb _ _).bind fun _ =>
    (faulting_compile (length_terms_queryBy _ p)).bind fun selection => ?_
  show Faulting (mappedSettings rs e (Verb.update.queryBy p) selection.paramCount
    (.mapping entries :: args) >>= fun settled => bindArguments rs settled.2 >>= fun _ => _)
  refine Faulting.bind ?_ fun settled => (faulting_bindArguments rs _).bind fun _ => .ok _
  rw [mappedSettings_eq hentries hvalid]
  exact (faulting_checkCount _ _ _).bind fun _ => .ok _

/-- An update with a valid mapping that is not refused has arguments that fit. -/
theorem Fits.of_ofCall {u : Update}
    (h : Update.ofCall rs e (Verb.update.queryBy p) (.mapping entries :: args) = .ok u) :
    Fits e p args u.filter := by
  obtain ⟨_, -, h⟩ := Except.bind_eq_ok.mp h
  obtain ⟨selection, hcompile, h⟩ := Except.bind_eq_ok.mp h
  obtain ⟨⟨_, _⟩, hmapped, h⟩ := Except.bind_eq_ok.mp h
  rw [mappedSettings_eq hentries hvalid] at hmapped
  obtain ⟨_, hcount, hpair⟩ := Except.map_eq_ok.mp hmapped
  cases hpair
  obtain ⟨ps, hbound, h⟩ := Except.bind_eq_ok.mp h
  cases h
  have hcount := checkCount_eq_ok.mp hcount
  exact .of_compile hcompile (by simpa using hcount) hbound

/-- Arguments that fit settle an update. -/
theorem Fits.ofCall {f : Filter} (h : Fits e p args f) :
    Update.ofCall rs e (Verb.update.queryBy p) (.mapping entries :: args) =
      .ok ⟨values, f, args.map Value.asParameter⟩ := by
  refine ofCall_of_settings rfl (h.compiled _) ?_ (bindArguments_of_isComparable rs h.comparable)
  show mappedSettings rs e _ _ _ = _
  have hcount : (Value.mapping entries :: args).length = f.columns.length + 1 := by
    rw [List.length_cons, h.count]
  rw [mappedSettings_eq hentries hvalid, Selection.paramCount, checkCount_eq_ok.mpr hcount]
  rfl

end

/-! ## Refused alike -/

section

variable [Database δ] {w w₁ : World δ} {P : String} {v : Verb}
  {entries : List (Value × Value)} {values : List (String × Value)} {rs : Records}

/-- What looks at its arguments on a connection refuses those that do not fit. -/
theorem refused_on_connection (v : Verb) (wanted : List Verb) (hfits : ¬ ∃ f, Fits e p args f)
    (hopen : ensureOpen x.management w = (.ok (), w₁)) (body : Selection → List Value → Op δ α)
    (k : α → Op δ β) :
    (do
      let selection ← Op.ofResult (selectionFor e (v.queryBy p) wanted args)
      let a ← withConnection x.management do
        body selection (← Op.ofResult (bindArguments (← Op.records) args))
      k a : Op δ β).Refused w := by
  have hfaulting := faulting_selectionFor (e := e) (length_terms_queryBy v p) wanted args
  cases hselection : selectionFor e (v.queryBy p) wanted args with
  | error f => exact .ofResult_bind rfl (hselection ▸ hfaulting)
  | ok selection =>
    refine Op.Refused.bind (.withConnection hopen (.records_bind ?_)) _
    cases hbound : bindArguments w₁.records args with
    | error f => exact .ofResult_bind rfl (hbound ▸ faulting_bindArguments _ args)
    | ok ps => exact absurd ⟨_, Fits.of_selectionFor hselection hbound⟩ hfits

theorem anyExists_refused (hfits : ¬ ∃ f, Fits e p args f)
    (hopen : ensureOpen x.management w = (.ok (), w₁)) :
    (anyExists x e (Verb.exist.queryBy p) args).Refused w :=
  refused_on_connection .exist [.exist] hfits hopen
    (fun selection ps => runStatement (.count e.table selection) ps)
    fun reply => do return Value.bool (← Op.ofResult reply.countsAny)

theorem delete_refused (hfits : ¬ ∃ f, Fits e p args f)
    (hopen : ensureOpen x.management w = (.ok (), w₁)) :
    (delete x e (Verb.delete.queryBy p) args).Refused w :=
  refused_on_connection .delete [.delete] hfits hopen
    (fun selection ps => Connection.delete ⟨true⟩ e.table (.filter selection.filter) ps)
    fun n => return Value.int n

theorem update_refused (hentries : entries ≠ [])
    (hvalid : settings rs (settableColumn e) entries = .ok values)
    (hfits : ¬ ∃ f, Fits e p args f) :
    (update x e (Verb.update.queryBy p) (.mapping entries :: args)).Refused w := by
  have hvalid := settings_congr hvalid w.records
  unfold update
  refine .records_bind ?_
  cases hsettled : Update.ofCall w.records e (Verb.update.queryBy p) (.mapping entries :: args) with
  | error f => exact .ofResult_bind rfl (hsettled ▸ faulting_ofCall hentries hvalid p args)
  | ok u => exact absurd ⟨_, Fits.of_ofCall hentries hvalid hsettled⟩ hfits

omit [Database δ] in
theorem ne_save_of_mem (hv : v ∈ [Verb.exist, .delete, .update]) : v ≠ .save :=
  fun hsave => absurd (hsave ▸ hv) (by decide)

/-- If the arguments do not fit, every verb that a predicate alone can follow refuses them. -/
theorem act_refused (hv : v ∈ [Verb.exist, .delete, .update])
    (hq : Method.Query.ofName? (v.nameBy P) = .ok (v.queryBy p)) (hentries : entries ≠ [])
    (hvalid : settings rs (settableColumn e) entries = .ok values)
    (hfits : ¬ ∃ f, Fits e p args f) (hopen : ensureOpen x.management w = (.ok (), w₁))
    (many : Option Bool) :
    (invoke x e (v.nameBy P) (v.arguments entries args) many).Refused w := by
  rw [invoke_eq_runQuery hq]
  simp only [List.mem_cons, List.not_mem_nil, or_false] at hv
  rcases hv with rfl | rfl | rfl
  · exact anyExists_refused hfits hopen
  · exact delete_refused hfits hopen
  · exact update_refused hentries hvalid hfits

/-- So they do if their names do not parse. -/
theorem misnamed_refused {fault : Method.SyntaxError} (hv : v ∈ [Verb.exist, .delete, .update])
    (h : Method.Query.ofName? (v.nameBy P) = .error fault) (many : Option Bool) :
    (invoke x e (v.nameBy P) args many).Refused w := by
  have hword : v.word.toList ≠ [] ∧ v.word.toList.head? ∈ [some 'e', some 'd', some 'u'] := by
    simp only [List.mem_cons, List.not_mem_nil, or_false] at hv
    rcases hv with rfl | rfl | rfl <;> decide
  have hinitial : (v.nameBy P).toList.head? ∈ [some 'e', some 'd', some 'u'] := by
    rw [Verb.nameBy, String.toList_append, String.toList_append, List.append_assoc,
      List.head?_append_of_ne_nil _ hword.1]
    exact hword.2
  have hvalidate : v.nameBy P ≠ "validate" := fun hname => by
    rw [hname] at hinitial
    exact absurd hinitial (by decide)
  have hvalid : v.nameBy P ≠ "is_valid" := fun hname => by
    rw [hname] at hinitial
    exact absurd hinitial (by decide)
  rw [invoke, if_neg hvalidate, if_neg hvalid]
  refine .ofResult_bind (f := .call (.misnamed fault)) ?_ ?_
  · rw [queryNamed, h]
    rfl
  · rw [queryNamed, h]
    exact .error rfl

end

/-! ## The statement of a predicate -/

/-- The text of a verb's statement before the condition. -/
def Method.Verb.head (e : Entity) (columns : List String) : Verb → String
  | .exist => "SELECT COUNT(*) FROM " ++ Text.identifier e.table
  | .delete => "DELETE FROM " ++ Text.identifier e.table
  | .update => "UPDATE " ++ Text.identifier e.table ++ " SET " ++ assignments columns
  | _ => "SELECT * FROM " ++ Text.identifier e.table

/-- The statement of a verb on the rows of a filter; an update sets columns. -/
def Method.Verb.statementOn (e : Entity) (columns : List String) (f : Filter) : Verb → Statement
  | .exist => .count e.table ⟨f, none⟩
  | .delete => .delete e.table (.filter f)
  | .update => .update e.table columns (.filter f)
  | _ => .select e.table ⟨f, none⟩

/-- The parameters of a verb's statement before those of the condition. -/
def Method.Verb.written (values : List (String × Value)) : Verb → List Value
  | .update => values.map (·.2)
  | _ => []

theorem foldl_joined_ne_empty (rest : List (String × String)) {s : String} (hs : s ≠ "") :
    rest.foldl (fun s r => s ++ joinedComparison r.1 r.2) s ≠ "" := by
  induction rest generalizing s with
  | nil => exact hs
  | cons r rest ih => exact ih (by simp [hs])

theorem Filter.text_ne_empty {f : Filter} (h : f.columns ≠ []) : f.text ≠ "" := by
  cases f with
  | all => exact absurd rfl h
  | equals first rest => exact foldl_joined_ne_empty rest (by simp [comparison])

/-- A filter that arguments fit compares a column at least. -/
theorem Fits.text_ne_empty {f : Filter} (h : Fits e p args f) : f.text ≠ "" := by
  refine Filter.text_ne_empty fun hnone => ?_
  have hterms := (compile_eq_ok (h.compiled .find)).terms.length_eq
  simp [hnone, Method.Verb.queryBy, PredicatePhrase.fields] at hterms

/-- The condition is written alike after every verb. -/
theorem text_statementOn (v : Verb) (columns : List String) {f : Filter} (h : f.text ≠ "") :
    (v.statementOn e columns f).text = v.head e columns ++ " WHERE " ++ f.text := by
  have hsuffix : (Selection.mk f none).suffix = " WHERE " ++ f.text := by
    rw [suffix_eq_clause rfl, clause, if_neg h]
  have hclause : clause " WHERE " (Condition.filter f).text = " WHERE " ++ f.text := if_neg h
  rw [String.append_assoc]
  cases v
  case delete => exact congrArg (Verb.delete.head e columns ++ ·) hclause
  case update => exact congrArg (Verb.update.head e columns ++ ·) hclause
  case exist => exact congrArg (Verb.exist.head e columns ++ ·) hsuffix
  all_goals exact congrArg (Verb.find.head e columns ++ ·) hsuffix

/-! ## Accepted alike -/

section

variable [Database δ] {w w₁ : World δ} {P : String} {v : Verb} {f : Filter}
  {entries : List (Value × Value)} {values : List (String × Value)} {rs : Records}

/-- If the arguments fit, every verb runs its statement on the rows of the filter first. -/
theorem Fits.runs_first (h : Fits e p args f) (hv : v ≠ .save)
    (hq : Method.Query.ofName? (v.nameBy P) = .ok (v.queryBy p)) (hentries : entries ≠ [])
    (hvalid : settings rs (settableColumn e) entries = .ok values)
    (hopen : ensureOpen x.management w = (.ok (), w₁)) (many : Option Bool) :
    w₁.events ++ [.ran (v.statementOn e (values.map (·.1)) f)
        (v.written values ++ args.map Value.asParameter)]
      <+: (invoke x e (v.nameBy P) (v.arguments entries args) many w).2.events := by
  rw [invoke_eq_runQuery hq]
  have hcompile := h.compiled v
  have hcount : args.length = (Selection.mk f none).paramCount := h.count
  cases v with
  | save => exact absurd rfl hv
  | find => exact find_runs_first hcompile hcount h.comparable hopen (.inl rfl) many
  | findAll => exact find_runs_first hcompile hcount h.comparable hopen (.inr rfl) many
  | exist => exact anyExists_runs_first hcompile hcount h.comparable hopen rfl
  | delete => exact delete_runs_first hcompile hcount h.comparable hopen rfl
  | update =>
    exact update_runs_first (h.ofCall hentries (settings_congr hvalid w.records)) hopen

/-- A count runs its one statement, if any. -/
theorem anyExists_runs_once : (anyExists x e q args : Op δ Value).Runs (·.length ≤ 1) := by
  refine Op.Runs.ofResult_bind (by simp) fun selection _ => ?_
  refine Op.Runs.bind_quiet (Op.Runs.withConnection (by simp) ?_) fun reply w => ?_
  · refine Op.Runs.records_bind fun rs => Op.Runs.ofResult_bind (by simp) fun ps _ => ?_
    exact Op.Runs.runStatement ps (by simp)
  · cases hcounts : reply.countsAny <;> rfl

/-- What a predicate alone follows runs one statement at most. -/
theorem runs_once (hv : q.verb ∈ [Verb.exist, .delete, .update]) (many : Option Bool) :
    (runQuery x e q args many : Op δ Value).Runs (·.length ≤ 1) := by
  have hone : ∀ {P : Statement → Prop} (l : List Statement),
      (l = [] ∨ ∃ s, P s ∧ l = [s]) → l.length ≤ 1 := by
    rintro P l (rfl | ⟨s, -, rfl⟩) <;> simp
  unfold runQuery
  simp only [List.mem_cons, List.not_mem_nil, or_false] at hv
  rcases hv with hv | hv | hv <;> rw [hv]
  · exact anyExists_runs_once
  · exact delete_runs.mono hone
  · exact update_runs.mono hone

omit [Database δ] in
/-- What is run first by a step that runs one statement at most is all that it runs. -/
theorem Op.Runs.eq_of_first {m : Op δ α} {s : Statement} (hruns : m.Runs (·.length ≤ 1))
    (hfirst : w.statements ++ [s] <+: (m w).2.statements) :
    (m w).2.statements = w.statements ++ [s] := by
  obtain ⟨l, hl, hone⟩ := hruns w
  rw [hl] at hfirst ⊢
  rw [((List.prefix_append_right_inj _).mp hfirst).eq_of_length_le hone]

/-- It runs that statement only. -/
theorem Fits.statements (h : Fits e p args f) (hv : v ∈ [Verb.exist, .delete, .update])
    (hq : Method.Query.ofName? (v.nameBy P) = .ok (v.queryBy p)) (hentries : entries ≠ [])
    (hvalid : settings rs (settableColumn e) entries = .ok values)
    (hopen : ensureOpen x.management w = (.ok (), w₁)) (many : Option Bool) :
    (invoke x e (v.nameBy P) (v.arguments entries args) many w).2.statements =
      w.statements ++ [v.statementOn e (values.map (·.1)) f] := by
  have hfirst := statements_of_runs_first hopen
    (h.runs_first (ne_save_of_mem hv) hq hentries hvalid hopen many)
  have hruns : (runQuery x e (v.queryBy p) (v.arguments entries args) many : Op δ Value).Runs
      (·.length ≤ 1) := runs_once hv many
  rw [invoke_eq_runQuery hq] at hfirst ⊢
  exact hruns.eq_of_first hfirst

end

end EntityMap
