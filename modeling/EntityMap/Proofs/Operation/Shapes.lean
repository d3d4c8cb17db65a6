import EntityMap.Proofs.Operation.Assignment
import EntityMap.Proofs.Operation.Fitting
import EntityMap.Proofs.Schema.CamelCase
import EntityMap.Proofs.Schema.Lookup
import EntityMap.Proofs.Schema.Physical

/-!
# The two shapes of an update

An update has its fields in its name and one value for each before the arguments that are compared,
or it has a mapping with the fields as keys. A field of a name is found by its key, a key of a
mapping as the name of a column first. If no two fields have one key, and no field is called like a
column of another one, then both ways lead to the column of the field (`settable_of_key`,
`resolveColumn?_of_mem`). So both shapes settle the same update, or none of them does
(`ofCall_named_eq_ok`, `ofCall_mapped_eq_ok`), and a call in one shape is the call in the other
(`update_shapes_agree`), unless the words of a field in the name are read as two fields.
-/

namespace EntityMap

open Method (FieldPhrase PredicatePhrase StartsWord Verb Word nameSetting querySetting)

variable {δ : Type} {x : Library} {e : Entity} {rs : Records} {args vs : List Value}

/-! ## Columns of fields -/

/-- No two fields have one key, and a field that is called like a column is the column's own. -/
structure Entity.NamesApart (e : Entity) : Prop where
  keys : (e.members.map fun m => fieldKey m.field).Nodup
  own : ∀ m ∈ e.members, m.field ∈ e.physicalColumns → m.physical = m.field

/-- A field is found by its key. -/
theorem lookup_fieldColumns_of_mem (h : (e.members.map fun m => fieldKey m.field).Nodup)
    {m : Member} (hm : m ∈ e.members) :
    e.fieldColumns.lookup (fieldKey m.field) = some m.physical := by
  have hunique : ∀ m' ∈ e.members, fieldKey m'.field = fieldKey m.field → m' = m :=
    fun m' hm' => List.inj_on_of_nodup_map h hm' hm
  rw [e.lookup_fieldColumns]
  cases hlast : e.lastColumn? m.field with
  | some col =>
    have hcol := Entity.mem_columns.mp (List.mem_reverse.mp (List.mem_of_find?_eq_some hlast))
    obtain rfl := hunique _ hcol (beq_iff_eq.mp (List.find?_some hlast :))
    rfl
  | none =>
    have hnone := List.find?_eq_none.mp (Entity.lastColumn?_eq_none_iff.mp hlast)
    cases m with
    | column col => exact absurd (beq_self_eq_true _) (hnone col (Entity.mem_columns.mpr hm))
    | join j =>
      show (e.join? j.field).map (·.target) = some j.target
      cases hjoin : e.join? j.field with
      | none =>
        have hno := List.find?_eq_none.mp hjoin j (Entity.mem_joins.mpr hm)
        exact absurd (beq_self_eq_true _) hno
      | some j' =>
        have hj' := Entity.mem_joins.mp (List.mem_of_find?_eq_some hjoin)
        cases hunique _ hj' (beq_iff_eq.mp (List.find?_some hjoin :))
        rfl

namespace Entity.NamesApart

variable (h : e.NamesApart) {m : Member} (hm : m ∈ e.members)
include h hm

/-- A key of a mapping that is a field's name means the column of the field. -/
theorem resolveColumn?_of_mem : e.resolveColumn? m.field = some m.physical := by
  unfold Entity.resolveColumn?
  split
  · next hcolumn =>
    have hmem : m.field ∈ e.physicalColumns := by
      refine Entity.mem_physicalColumns.mpr ?_
      simpa [Entity.columnNamed?, List.find?_isSome] using hcolumn
    rw [h.own m hm hmem]
  · exact lookup_fieldColumns_of_mem h.keys hm

theorem settableColumn_of_mem : settableColumn e (.text m.field) = .ok m.physical := by
  rw [settableColumn, h.resolveColumn?_of_mem hm]

/-- A field of a name with the key of a field means its column as well. -/
theorem settable_of_key {f : FieldPhrase} (hkey : fieldKey f.text = fieldKey m.field) :
    e.settable f.name = .ok m.physical := by
  refine settable_of_resolves ?_
  rw [Resolves, fieldKey_name, hkey]
  exact lookup_fieldColumns_of_mem h.keys hm

end Entity.NamesApart

/-! ## Values for columns -/

/-- What is set depends on the columns that are meant, and not on how they are called. -/
theorem settings_zip {κ : Type} {columnOf : κ → Except Failure String} {keys : List κ}
    {columns : List String} (h : List.Forall₂ (fun key column => columnOf key = .ok column) keys
      columns) (vs : List Value) :
    settings rs columnOf (keys.zip vs) = settings rs Except.ok (columns.zip vs) := by
  unfold settings
  generalize ([] : List (String × Value)) = known
  induction h generalizing vs known with
  | nil => rfl
  | @cons key column keys columns hkey _ ih =>
    cases vs with
    | nil => rfl
    | cons v vs =>
      rw [List.zip_cons_cons, List.zip_cons_cons, List.foldlM_cons, List.foldlM_cons, hkey]
      exact congrArg (_ >>= ·) (funext fun known' => ih vs known')

/-- Values for columns of their own are set in their order, each as it is bound. -/
theorem exists_bound_of_settings {columns : List String} {values : List (String × Value)}
    (h : settings rs Except.ok (columns.zip vs) = .ok values) (hlength : vs.length = columns.length)
    (hnodup : columns.Nodup) :
    ∃ ps, List.Forall₂ (fun v p => bindValue rs v = .ok p) vs ps ∧ values = columns.zip ps := by
  obtain ⟨assignments, hresolution, rfl⟩ := exists_resolution h
  rw [Resolution, List.forall₂_map_left_iff] at hresolution
  have hcolumns : assignments.map (·.1) = columns := by
    have hnames : List.Forall₂ (· = ·) ((columns.zip vs).map (·.1)) (assignments.map (·.1)) := by
      rw [List.forall₂_map_left_iff, List.forall₂_map_right_iff]
      exact hresolution.imp fun entry a h => Except.ok.inj h.1
    rw [List.forall₂_eq_eq_eq] at hnames
    rw [← hnames, List.map_fst_zip hlength.ge]
  have hvalues : List.Forall₂ (fun v p => bindValue rs v = .ok p) vs (assignments.map (·.2)) := by
    have hbound : List.Forall₂ (fun v p => bindValue rs v = .ok p) ((columns.zip vs).map (·.2))
        (assignments.map (·.2)) := by
      rw [List.forall₂_map_left_iff, List.forall₂_map_right_iff]
      exact hresolution.imp fun entry a h => h.2
    rwa [List.map_snd_zip hlength.le] at hbound
  refine ⟨assignments.map (·.2), hvalues, ?_⟩
  rw [distinctNames_of_nodup (hcolumns ▸ hnodup), ← hcolumns, List.zip_map', List.map_id']

/-! ## Both shapes -/

section

variable {fields : List FieldPhrase} {entries : List (Value × Value)} {p : PredicatePhrase}
  {u : Update}

/-- What an update that is settled has been settled by. -/
theorem exists_settings_of_ofCall {q : Method.Query} (h : Update.ofCall rs e q args = .ok u) :
    ∃ selection compared, Query.compile e q = .ok selection
      ∧ (if q.setFields.isEmpty then mappedSettings rs e q selection.paramCount args
        else namedSettings rs e q selection.paramCount args) = .ok (u.values, compared)
      ∧ bindArguments rs compared = .ok u.parameters ∧ u.filter = selection.filter := by
  obtain ⟨_, -, h⟩ := Except.bind_eq_ok.mp h
  obtain ⟨selection, hcompile, h⟩ := Except.bind_eq_ok.mp h
  dsimp only at h
  split at h
  · next hnone =>
    obtain ⟨⟨values, compared⟩, hsettings, h⟩ := Except.bind_eq_ok.mp h
    obtain ⟨ps, hbound, h⟩ := Except.bind_eq_ok.mp h
    cases h
    exact ⟨selection, compared, hcompile, by rw [if_pos hnone]; exact hsettings, hbound, rfl⟩
  · next hsome =>
    obtain ⟨⟨values, compared⟩, hsettings, h⟩ := Except.bind_eq_ok.mp h
    obtain ⟨ps, hbound, h⟩ := Except.bind_eq_ok.mp h
    cases h
    exact ⟨selection, compared, hcompile, by rw [if_neg hsome]; exact hsettings, hbound, rfl⟩

/-- The update is for the rows of a filter that the arguments fit, and compares these. -/
structure Update.Compares (u : Update) (e : Entity) (p : PredicatePhrase) (args : List Value) :
    Prop where
  fits : Fits e p args u.filter
  parameters : u.parameters = args.map Value.asParameter

/-- A call whose fields stand in the name settles what the fields and values settle, if the other
arguments fit the predicate. -/
theorem ofCall_setting_eq_ok (hne : fields ≠ []) (hlength : vs.length = fields.length) :
    Update.ofCall rs e (querySetting fields p) (vs ++ args) = .ok u ↔
      settings rs e.settable ((fields.map FieldPhrase.name).zip vs) = .ok u.values
        ∧ u.Compares e p args := by
  have hset : ¬(querySetting fields p).setFields.isEmpty = true := by
    simpa [querySetting] using hne
  have hcount : (querySetting fields p).setFields.length = vs.length := by
    simp [querySetting, hlength]
  have hcompiles : Query.compile e (querySetting fields p)
      = Query.compile e (Verb.update.queryBy p) := rfl
  constructor
  · intro h
    obtain ⟨selection, compared, hcompile, hnamed, hbound, hfilter⟩ := exists_settings_of_ofCall h
    rw [if_neg hset, namedSettings, hcount, List.take_left, List.drop_left] at hnamed
    obtain ⟨_, hlengths, hnamed⟩ := Except.bind_eq_ok.mp hnamed
    obtain ⟨values, hsettings, hnamed⟩ := Except.bind_eq_ok.mp hnamed
    cases hnamed
    have hargs : args.length = selection.paramCount := by
      simpa using checkCount_eq_ok.mp hlengths
    have hfits := Fits.of_compile (hcompiles ▸ hcompile) hargs hbound
    rw [bindArguments_of_isComparable rs hfits.comparable] at hbound
    exact ⟨hsettings, hfilter ▸ hfits, (Except.ok.inj hbound).symm⟩
  · rintro ⟨hsettings, hfits, hparameters⟩
    obtain ⟨values, filter, parameters⟩ := u
    cases hparameters
    have hlengths : (vs ++ args).length = vs.length + (Selection.mk filter none).paramCount := by
      rw [List.length_append, hfits.count]
      rfl
    refine ofCall_of_settings rfl (hcompiles.trans (hfits.compiled .update)) ?_
      (bindArguments_of_isComparable rs hfits.comparable)
    rw [if_neg hset, namedSettings, hcount, List.take_left, List.drop_left,
      checkCount_eq_ok.mpr hlengths]
    refine Except.bind_eq_ok.mpr ⟨(), rfl, Except.bind_eq_ok.mpr ⟨values, hsettings, rfl⟩⟩

/-- A call with a mapping settles what the mapping settles, if the other arguments fit. -/
theorem ofCall_mapping_eq_ok (hne : entries ≠ []) :
    Update.ofCall rs e (Verb.update.queryBy p) (.mapping entries :: args) = .ok u ↔
      settings rs (settableColumn e) entries = .ok u.values ∧ u.Compares e p args := by
  constructor
  · intro h
    obtain ⟨selection, compared, -, hmapped, hbound, -⟩ := exists_settings_of_ofCall h
    obtain ⟨entry, entries, rfl⟩ := List.exists_cons_of_ne_nil hne
    obtain ⟨_, -, hmapped⟩ := Except.bind_eq_ok.mp hmapped
    obtain ⟨values, hsettings, hmapped⟩ := Except.bind_eq_ok.mp hmapped
    cases hmapped
    have hfits := Fits.of_ofCall hne hsettings h
    rw [bindArguments_of_isComparable rs hfits.comparable] at hbound
    exact ⟨hsettings, hfits, (Except.ok.inj hbound).symm⟩
  · rintro ⟨hsettings, hfits, hparameters⟩
    obtain ⟨values, filter, parameters⟩ := u
    cases hparameters
    exact hfits.ofCall hne hsettings

end

/-! ## Calls alike -/

section

variable {fields : List FieldPhrase} {ms : List Member} {p : PredicatePhrase}

/-- The mapping of fields to values. -/
def mappingOf (ms : List Member) (vs : List Value) : List (Value × Value) :=
  (ms.map fun m => Value.text m.field).zip vs

variable (h : e.NamesApart) (hms : ms ≠ []) (hmembers : ∀ m ∈ ms, m ∈ e.members)
  (hspelled : List.Forall₂ (fun f m => fieldKey f.text = fieldKey m.field) fields ms)
  (hlength : vs.length = ms.length)
include h hms hmembers hspelled hlength

/-- An update with its fields in the name sets their columns. -/
theorem Entity.NamesApart.ofCall_named_eq_ok (u : Update) :
    Update.ofCall rs e (querySetting fields p) (vs ++ args) = .ok u ↔
      settings rs Except.ok ((ms.map (·.physical)).zip vs) = .ok u.values
        ∧ u.Compares e p args := by
  have hfields : fields ≠ [] := by
    rintro rfl
    exact hms (List.forall₂_nil_left_iff.mp hspelled)
  have hnamed : List.Forall₂ (fun field column => e.settable field = .ok column)
      (fields.map FieldPhrase.name) (ms.map (·.physical)) := by
    rw [List.forall₂_map_left_iff, List.forall₂_map_right_iff]
    have hboth := (List.forall₂_and_left ms fields).mpr ⟨hmembers, hspelled.flip⟩
    exact (hboth.imp fun m f hm => h.settable_of_key hm.1 hm.2).flip
  rw [ofCall_setting_eq_ok hfields (hlength.trans hspelled.length_eq.symm), settings_zip hnamed]

omit hspelled in
/-- An update with its fields in a mapping sets the same columns. -/
theorem Entity.NamesApart.ofCall_mapped_eq_ok (u : Update) :
    Update.ofCall rs e (Verb.update.queryBy p) (.mapping (mappingOf ms vs) :: args) = .ok u ↔
      settings rs Except.ok ((ms.map (·.physical)).zip vs) = .ok u.values
        ∧ u.Compares e p args := by
  have hentries : mappingOf ms vs ≠ [] := by
    have hpos : 0 < ms.length := List.length_pos_iff.mpr hms
    refine List.ne_nil_of_length_pos ?_
    simpa [mappingOf, hlength] using hpos
  have hmapped : List.Forall₂ (fun key column => settableColumn e key = .ok column)
      (ms.map fun m => Value.text m.field) (ms.map (·.physical)) := by
    rw [List.forall₂_map_left_iff, List.forall₂_map_right_iff, List.forall₂_same]
    exact fun m hm => h.settableColumn_of_mem (hmembers m hm)
  rw [ofCall_mapping_eq_ok hentries, mappingOf, settings_zip hmapped]

end

variable [Database δ]

/-- Updates that are settled alike are run alike. -/
theorem update_congr {q q' : Method.Query} {args' : List Value} {w : World δ}
    (h : Update.ofCall w.records e q args = Update.ofCall w.records e q' args') :
    (update x e q args w : Except Failure Value × World δ) = update x e q' args' w := by
  show (Op.ofResult (Update.ofCall w.records e q args) >>= _ : Op δ Value) w
    = (Op.ofResult (Update.ofCall w.records e q' args') >>= _ : Op δ Value) w
  rw [h]

/-- A call of an update that is not settled fails at once. -/
theorem update_eq_error {q : Method.Query} {w : World δ}
    (h : ¬∃ u, Update.ofCall w.records e q args = .ok u) :
    ∃ f, update x e q args w = (.error f, w) := by
  cases hcall : Update.ofCall w.records e q args with
  | ok u => exact absurd ⟨u, hcall⟩ h
  | error f =>
    refine ⟨f, ?_⟩
    rw [update, Op.records_bind, hcall]
    rfl

/-- For every entity whose fields have keys of their own, and none of whose fields is called like
the column of another one : an update that has fields with different columns in its name, none with
the word `And`, is the update that has them as the keys of a mapping. Whatever the values and the
other arguments are, either both calls fail at once, or they are one and the same. Then, once the
connection is open, they run one statement, which sets the columns of the fields, in their order,
with the values as they are bound and then the other arguments. -/
theorem update_shapes_agree (x : Library) (h : e.NamesApart) {fields : List FieldPhrase}
    {ms : List Member} {predicate : String} {q : Method.Query} (hms : ms ≠ [])
    (hmembers : ∀ m ∈ ms, m ∈ e.members) (hcolumns : (ms.map (·.physical)).Nodup)
    (hspelled : List.Forall₂ (fun f m => fieldKey f.text = fieldKey m.field) fields ms)
    (hand : ∀ f ∈ fields, Word.and ∉ f.words) (hpredicate : StartsWord predicate)
    (hq : Method.Query.ofName? (nameSetting fields predicate) = .ok q)
    (hlength : vs.length = ms.length) (args : List Value) (many : Option Bool) (w : World δ) :
    (∃ f f', invoke x e (nameSetting fields predicate) (vs ++ args) many w = (.error f, w)
        ∧ invoke x e (Verb.update.nameBy predicate) (.mapping (mappingOf ms vs) :: args) many w
          = (.error f', w))
      ∨ ∃ (ps : List Value) (rows : Filter),
        List.Forall₂ (fun v p => bindValue w.records v = .ok p) vs ps
        ∧ invoke x e (nameSetting fields predicate) (vs ++ args) many w
          = invoke x e (Verb.update.nameBy predicate) (.mapping (mappingOf ms vs) :: args) many w
        ∧ ∀ w₁, ensureOpen x.management w = (.ok (), w₁) →
          w₁.events ++ [.ran (.update e.table (ms.map (·.physical)) (.filter rows))
              (ps ++ args.map Value.asParameter)]
            <+: (invoke x e (nameSetting fields predicate) (vs ++ args) many w).2.events
          ∧ (invoke x e (nameSetting fields predicate) (vs ++ args) many w).2.statements
            = w.statements ++ [.update e.table (ms.map (·.physical)) (.filter rows)] := by
  have hfields : fields ≠ [] := by
    rintro rfl
    exact hms (List.forall₂_nil_left_iff.mp hspelled)
  obtain ⟨p, hends, rfl, rfl⟩ := Method.exists_predicate_of_nameSetting hfields hand hpredicate hq
  have hmapped := Method.ofName?_nameBy (v := .update) (by decide) hends
  rw [invoke_eq_runQuery hq, invoke_eq_runQuery hmapped]
  show (∃ f f', update x e (querySetting fields p) (vs ++ args) w = _
      ∧ update x e (Verb.update.queryBy p) (.mapping (mappingOf ms vs) :: args) w = _) ∨ _
  have hnamed : ∀ u, Update.ofCall w.records e (querySetting fields p) (vs ++ args) = .ok u ↔ _ :=
    h.ofCall_named_eq_ok hms hmembers hspelled hlength
  have hmapping : ∀ u, Update.ofCall w.records e (Verb.update.queryBy p)
      (.mapping (mappingOf ms vs) :: args) = .ok u ↔ _ :=
    h.ofCall_mapped_eq_ok hms hmembers hlength
  by_cases hsettled : ∃ u, Update.ofCall w.records e (querySetting fields p) (vs ++ args) = .ok u
  · obtain ⟨u, hu⟩ := hsettled
    have hu' := (hmapping u).mpr ((hnamed u).mp hu)
    obtain ⟨hvalues, hcompares⟩ := (hnamed u).mp hu
    obtain ⟨ps, hps, hzip⟩ := exists_bound_of_settings hvalues (by simp [hlength]) hcolumns
    have hcount : ps.length = (ms.map (·.physical)).length := by
      rw [← hps.length_eq, hlength, List.length_map]
    have hruns : (update x e (querySetting fields p) (vs ++ args) : Op δ Value).Runs
        (·.length ≤ 1) := by
      refine update_runs.mono ?_
      rintro l (rfl | ⟨s, -, rfl⟩) <;> simp
    refine .inr ⟨ps, u.filter, hps, update_congr (hu.trans hu'.symm), fun w₁ hopen => ?_⟩
    have hfirst := update_runs_first (x := x) hu hopen
    rw [hzip, List.map_fst_zip hcount.ge, List.map_snd_zip hcount.le, hcompares.parameters]
      at hfirst
    exact ⟨hfirst, hruns.eq_of_first (statements_of_runs_first hopen hfirst)⟩
  · have hnone : ¬∃ u, Update.ofCall w.records e (Verb.update.queryBy p)
        (.mapping (mappingOf ms vs) :: args) = .ok u :=
      fun ⟨u, hu⟩ => hsettled ⟨u, (hnamed u).mpr ((hmapping u).mp hu)⟩
    obtain ⟨f, hf⟩ := update_eq_error (x := x) hsettled
    obtain ⟨f', hf'⟩ := update_eq_error (x := x) hnone
    exact .inl ⟨f, f', hf, hf'⟩

namespace Sample

/-- The field for the mark of a product in a name. -/
def activePhrase : FieldPhrase := ⟨.of 'A' "ctive".toList rfl, []⟩

/-- The field for the day of a product in a name. -/
def datePhrase : FieldPhrase :=
  ⟨.of 'D' "ate".toList rfl, [.of 'C' "reation".toList rfl]⟩

theorem nameSetting_product :
    nameSetting [activePhrase, datePhrase] "Name" = "updateActiveAndDateCreationByName" := by
  rfl

theorem namesApart_product : productEntity.NamesApart := by
  refine ⟨by decide +kernel, ?_⟩
  decide +kernel

end Sample

open Sample in
/-- The mark and the day of a product are set alike in both shapes. -/
theorem update_shapes_agree_product :
    ∃ rows : Filter,
      (invoke library productEntity "updateActiveAndDateCreationByName"
          [.bool false, .null, .text "pump"] none ({ database := {} } : World Script)).2.statements
        = [.update "products" ["active", "date_creation"] (.filter rows)]
      ∧ invoke library productEntity "updateActiveAndDateCreationByName"
          [.bool false, .null, .text "pump"] none ({ database := {} } : World Script)
        = invoke library productEntity "updateByName"
          [.mapping [(.text "active", .bool false), (.text "date_creation", .null)], .text "pump"]
          none { database := {} } := by
  have hdate : datePhrase.text = camelCase "date_creation" := by
    decide +kernel
  have hactive : activePhrase.text = camelCase "active" := by
    decide +kernel
  let active : Column :=
    { field := "active", name := "active", type := .boolean, defaultValue := some "true" }
  let date : Column := { field := "date_creation", name := "date_creation", type := .timestamp }
  have hspelled : List.Forall₂ (fun (f : FieldPhrase) (m : Member) =>
      fieldKey f.text = fieldKey m.field) [activePhrase, datePhrase]
      [.column active, .column date] :=
    .cons (hactive ▸ fieldKey_camelCase (by simp))
      (.cons (hdate ▸ fieldKey_camelCase (by simp)) .nil)
  have hname : StartsWord "Name" := by
    rintro _ ⟨⟩
    decide
  have hok : (invoke library productEntity "updateActiveAndDateCreationByName"
      [.bool false, .null, .text "pump"] none
      ({ database := {} } : World Script)).1.isOk = true := by
    decide +kernel
  obtain ⟨_, w₁, hopen⟩ := Op.exists_ok (r := ensureOpen library.management
    ({ database := {} } : World Script)) rfl
  rcases update_shapes_agree library namesApart_product (List.cons_ne_nil _ _)
    (by decide) (by decide) hspelled (by decide) hname
    (show Method.Query.ofName? (nameSetting [activePhrase, datePhrase] "Name") = .ok _ from rfl)
    (show [Value.bool false, .null].length = _ from rfl) [.text "pump"] none
    ({ database := {} } : World Script) with ⟨f, f', hf, -⟩ | ⟨ps, rows, -, hsame, hruns⟩
  · rw [nameSetting_product] at hf
    have hfails : (invoke library productEntity "updateActiveAndDateCreationByName"
        [.bool false, .null, .text "pump"] none
        ({ database := {} } : World Script)).1 = .error f := congrArg Prod.fst hf
    rw [hfails] at hok
    cases hok
  · rw [nameSetting_product] at hsame hruns
    exact ⟨rows, (hruns w₁ hopen).2, hsame⟩

/-! ### A field that is read as two -/

namespace Plots

/-- A plot, with a field for both of its coordinates. -/
def plot : ClassDeclaration where
  name := "Plot"
  table := some "plots"
  fields := [Sample.key, Sample.column "name" "str" {}, Sample.column "x_and_y" "int" {}]

def library : Library where
  catalogue := (Catalogue.ofDeclarations [plot] []).toOption.getD {}
  management := { location := .file, timeout := .int 10, foreignKeys := false }

def coordinates : Member := .column { field := "x_and_y", name := "x_and_y", type := .integer }

def plotEntity : Entity where
  className := "Plot"
  table := "plots"
  members :=
    [.column Sample.keyColumn, .column { field := "name", name := "name", type := .text },
     coordinates]

/-- The coordinates in a name. -/
def coordinatesPhrase : FieldPhrase := ⟨.of 'X' [] rfl, [.and, .of 'Y' [] rfl]⟩

/-- The field in camel case has the word `And`, and the name with it is accepted, but as one that
sets two fields. So a call with the coordinates is refused, and a mapping sets them. -/
theorem update_shapes_differ :
    library.catalogue.describe "Plot" = .ok plotEntity
      ∧ plotEntity.NamesApart ∧ coordinates ∈ plotEntity.members
      ∧ coordinatesPhrase.text = camelCase "x_and_y"
      ∧ fieldKey coordinatesPhrase.text = fieldKey coordinates.field
      ∧ nameSetting [coordinatesPhrase] "Name" = "updateXAndYByName"
      ∧ (Method.Query.ofName? "updateXAndYByName").isOk = true
      ∧ isFaulty (invoke library plotEntity "updateXAndYByName" [.int 3, .text "north"] none
        ({ database := {} } : World Script)).1 = true
      ∧ (invoke library plotEntity "updateXAndYByName" [.int 3, .text "north"] none
        ({ database := {} } : World Script)).2.statements = []
      ∧ (invoke library plotEntity "updateByName"
        [.mapping [(.text "x_and_y", .int 3)], .text "north"] none
        ({ database := {} } : World Script)).1.isOk = true
      ∧ (invoke library plotEntity "updateByName"
        [.mapping [(.text "x_and_y", .int 3)], .text "north"] none
        ({ database := {} } : World Script)).2.statements
        = [.update "plots" ["x_and_y"] (.filter (.equals "name" []))] := by
  refine ⟨by decide +kernel, ⟨by decide +kernel, by decide +kernel⟩, by decide, by decide +kernel,
    by decide +kernel, by rfl, by decide +kernel, by decide +kernel, by decide +kernel,
    by decide +kernel, by decide +kernel⟩

end Plots

end EntityMap
