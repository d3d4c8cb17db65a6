import EntityMap.Proofs.Named
import EntityMap.Proofs.Operation.Explanation

/-!
# The assignments of an update

An update is supplied with new values, for the keys of a mapping or for the fields of its name
(`suppliedValues`). Each key or field resolves to a column, and each value is bound (`Resolution`).
The statement assigns the values under these columns, but each column once : of two values for one
column the later is assigned and the earlier is not (`exists_resolution`). So as many values are
assigned as are supplied exactly if they are for different columns (`update_assigns_supplied`).
-/

namespace EntityMap

variable {δ : Type} {x : Library} {e : Entity} {q : Method.Query} {rs : Records}
  {args : List Value}

/-! ## Supplied values -/

/-- The new values that a call supplies, each with the column that its key or its field resolves
to : those of the mapping, or the first ones, one for each field of the name. -/
def suppliedValues (e : Entity) (q : Method.Query) (args : List Value) :
    List (Except Failure String × Value) :=
  if q.setFields.isEmpty then
    match args with
    | .mapping entries :: _ => entries.map fun entry => (settableColumn e entry.1, entry.2)
    | _ => []
  else
    (q.setFields.zip (args.take q.setFields.length)).map fun entry => (e.settable entry.1, entry.2)

/-- Each supplied value is bound, for a column of the entity. -/
def Resolution (rs : Records) (supplied : List (Except Failure String × Value))
    (assignments : List (String × Value)) : Prop :=
  List.Forall₂ (fun s a => s.1 = .ok a.1 ∧ bindValue rs s.2 = .ok a.2) supplied assignments

/-- What is set is every supplied value under its column, but of two for one column the later. -/
theorem exists_resolution {κ : Type} {columnOf : κ → Except Failure String}
    {entries : List (κ × Value)} {values : List (String × Value)}
    (h : settings rs columnOf entries = .ok values) :
    ∃ assignments, Resolution rs (entries.map fun entry => (columnOf entry.1, entry.2)) assignments
      ∧ values = distinctNames assignments := by
  unfold Resolution
  simp only [List.forall₂_map_left_iff]
  induction entries using List.reverseRecOn generalizing values with
  | nil =>
    cases h
    exact ⟨[], .nil, rfl⟩
  | append_singleton entries entry ih =>
    rw [settings, List.foldlM_append] at h
    obtain ⟨known, hknown, h⟩ := Except.bind_eq_ok.mp h
    obtain ⟨assignments, hfirst, rfl⟩ := ih hknown
    rw [List.foldlM_cons] at h
    obtain ⟨_, hset, h⟩ := Except.bind_eq_ok.mp h
    cases h
    obtain ⟨column, hcolumn, hset⟩ := Except.bind_eq_ok.mp hset
    obtain ⟨b, hb, hset⟩ := Except.bind_eq_ok.mp hset
    cases hset
    refine ⟨assignments ++ [(column, b)], ?_, (distinctNames_concat assignments (column, b)).symm⟩
    exact List.rel_append hfirst (.cons ⟨hcolumn, hb⟩ .nil)

/-- An update that is settled sets what is supplied. -/
theorem ofCall_resolution {u : Update} (h : Update.ofCall rs e q args = .ok u) :
    ∃ assignments, Resolution rs (suppliedValues e q args) assignments
      ∧ u.values = distinctNames assignments := by
  rw [Update.ofCall] at h
  obtain ⟨_, -, h⟩ := Except.bind_eq_ok.mp h
  obtain ⟨selection, -, h⟩ := Except.bind_eq_ok.mp h
  unfold suppliedValues
  split at h
  · next hnone =>
    rw [if_pos hnone]
    obtain ⟨⟨values, compared⟩, hvalues, h⟩ := Except.bind_eq_ok.mp h
    obtain ⟨_, -, h⟩ := Except.bind_eq_ok.mp h
    cases h
    unfold mappedSettings at hvalues
    split at hvalues
    · cases hvalues
    · obtain ⟨_, -, hvalues⟩ := Except.bind_eq_ok.mp hvalues
      obtain ⟨values', hsettings, hvalues⟩ := Except.bind_eq_ok.mp hvalues
      cases hvalues
      exact exists_resolution hsettings
    · cases hvalues
  · next hsome =>
    rw [if_neg hsome]
    obtain ⟨⟨values, compared⟩, hvalues, h⟩ := Except.bind_eq_ok.mp h
    obtain ⟨_, -, h⟩ := Except.bind_eq_ok.mp h
    cases h
    obtain ⟨_, -, hvalues⟩ := Except.bind_eq_ok.mp hvalues
    obtain ⟨values', hsettings, hvalues⟩ := Except.bind_eq_ok.mp hvalues
    cases hvalues
    exact exists_resolution hsettings

/-! ## Calls -/

variable [Database δ]

/-- For every entity and every call of an update, in both shapes : either the call fails before any
statement is run, or every supplied value resolves to a column and the update that is run first sets
each of these columns to the last value that is supplied for it. It has as many assignments as there
are supplied values, and then exactly these, if and only if the values are for different columns. -/
theorem update_assigns_supplied {name : String} (hq : Method.Query.ofName? name = .ok q)
    (hverb : q.verb = .update) (args : List Value) (many : Option Bool) (w : World δ) :
    (∃ f w', invoke x e name args many w = (.error f, w') ∧ w'.statements = w.statements)
      ∨ ∃ (assignments values : List (String × Value)) (rows : Filter) (parameters : List Value)
          (w₁ : World δ),
        Resolution w.records (suppliedValues e q args) assignments
        ∧ w₁.statements = w.statements
        ∧ w₁.events ++ [.ran (.update e.table (values.map (·.1)) (.filter rows))
            (values.map (·.2) ++ parameters)] <+: (invoke x e name args many w).2.events
        ∧ (values.map (·.1)).Nodup
        ∧ (∀ column, values.lookup column = assignments.reverse.lookup column)
        ∧ (values.length = (suppliedValues e q args).length ↔ (assignments.map (·.1)).Nodup)
        ∧ ((assignments.map (·.1)).Nodup → values = assignments) := by
  have hinvoke : (invoke x e name args many : Op δ Value) = update x e q args := by
    rw [invoke_eq_runQuery hq, runQuery, hverb]
  rw [hinvoke]
  cases hcall : Update.ofCall w.records e q args with
  | error f =>
    refine .inl ⟨f, w, ?_, rfl⟩
    rw [update, Op.records_bind, hcall]
    rfl
  | ok u =>
    obtain ⟨assignments, hresolution, hvalues⟩ := ofCall_resolution hcall
    have hsilent := (ensureOpen_silent readInvariant_true x.management w).statements
    rcases hopen : ensureOpen x.management w with ⟨f | _, w₁⟩ <;> rw [hopen] at hsilent
    · refine .inl ⟨f, w₁, ?_, hsilent⟩
      rw [update, Op.records_bind, hcall]
      refine Op.bind_eq_error.mpr (.inr ⟨u, w, rfl, Op.bind_eq_error.mpr (.inl ?_)⟩)
      exact withConnection_eq_error.mpr (.inl hopen)
    · have hlength := length_distinctNames_eq_iff assignments
      rw [← hresolution.length_eq, ← hvalues] at hlength
      exact .inr ⟨assignments, u.values, u.filter, u.parameters, w₁, hresolution, hsilent,
        update_runs_first hcall hopen, hvalues ▸ nodup_distinctNames assignments,
        fun column => hvalues ▸ lookup_distinctNames assignments column, hlength,
        fun hnodup => hvalues.trans (distinctNames_of_nodup hnodup)⟩

open Sample in
/-- The new name and mark of a product are both assigned. -/
theorem update_assigns_supplied_product :
    ∃ (rows : Filter) (parameters : List Value) (w₁ : World Script),
      w₁.events ++ [.ran (.update "products" ["name", "active"] (.filter rows))
          ([.text "valve", .int 0] ++ parameters)]
        <+: (invoke library productEntity "updateNameAndActiveByName"
          [.text "valve", .bool false, .text "pump"] none
          ({ database := {} } : World Script)).2.events := by
  let q : Method.Query :=
    { name := "updateNameAndActiveByName", verb := .update, terms := ["name"], connectors := []
      orderField := none, direction := .asc, setFields := ["name", "active"] }
  have hq : Method.Query.ofName? "updateNameAndActiveByName" = .ok q := by
    rfl
  have hok : (invoke library productEntity "updateNameAndActiveByName"
      [.text "valve", .bool false, .text "pump"] none
      ({ database := {} } : World Script)).1.isOk = true := by
    decide +kernel
  rcases update_assigns_supplied (x := library) (e := productEntity) hq rfl
    [.text "valve", .bool false, .text "pump"] none ({ database := {} } : World Script) with
    ⟨f, w', hfails, -⟩ | ⟨assignments, values, rows, parameters, w₁, hresolution, -, hruns, -, -, -,
      hall⟩
  · rw [hfails] at hok
    cases hok
  · have hassignments : assignments = [("name", .text "valve"), ("active", .int 0)] := by
      obtain ⟨⟨_, _⟩, _, ⟨hname, hvalve⟩, hrest, rfl⟩ := List.forall₂_cons_left_iff.mp hresolution
      obtain ⟨⟨_, _⟩, _, ⟨hactive, hfalse⟩, hnil, rfl⟩ := List.forall₂_cons_left_iff.mp hrest
      cases List.forall₂_nil_left_iff.mp hnil
      cases hname
      cases hvalve
      cases hactive
      cases hfalse
      rfl
    rw [hall (by simp [hassignments]), hassignments] at hruns
    exact ⟨rows, parameters, w₁, hruns⟩

/-- The columns that a run has set, with all parameters as they are shown. -/
def settingsRun (w : World Script) : List (List String × List String) :=
  w.events.filterMap fun
    | .ran (.update _ columns _) ps => some (columns, ps.map (·.literal fun _ => "..."))
    | _ => none

open Sample in
/-- Two values are supplied for one column, by a mapping and by the fields of a name, and the
statement assigns the later one only. -/
theorem update_drops_earlier_value :
    ∃ q q' : Method.Query,
      (Method.Query.ofName? "updateByName" = .ok q
        ∧ suppliedValues productEntity q
            [.mapping [(.text "active", .bool false), (.text "Active", .bool true)], .text "pump"]
          = [(.ok "active", .bool false), (.ok "active", .bool true)]
        ∧ settingsRun (invoke library productEntity "updateByName"
            [.mapping [(.text "active", .bool false), (.text "Active", .bool true)], .text "pump"]
            none { database := {} }).2
          = [(["active"], ["1", "'pump'"])])
      ∧ Method.Query.ofName? "updateNameAndNameByName" = .ok q'
        ∧ suppliedValues productEntity q' [.text "valve", .text "tap", .text "pump"]
          = [(.ok "name", .text "valve"), (.ok "name", .text "tap")]
        ∧ settingsRun (invoke library productEntity "updateNameAndNameByName"
            [.text "valve", .text "tap", .text "pump"] none { database := {} }).2
          = [(["name"], ["'tap'", "'pump'"])] := by
  refine ⟨_, _, ⟨rfl, rfl, ?_⟩, rfl, rfl, ?_⟩
  · decide +kernel
  · decide +kernel

end EntityMap
