import EntityMap.Operation.Invocation
import EntityMap.Proofs.Finding.Joins
import EntityMap.Proofs.Operation.Faults

/-!
# The entities of rows

The rows that a statement gives are made entities one after another, each with its joins followed
before the next row is looked at (`Loaded`); so there is one new entity for each row, in order
(`Loaded.entities`). With the connection around it that is all a result consists of (`RowsFetched`).

If only one entity is asked for then the rows are cut short before they are loaded. What is loaded
of the first row does not depend on those after it (`loadRows_take_one`), and what is left out are
lookups at the end (`CutShort`, `single_form_cuts_list`). Only the commit comes after them; that it
is not refused because of them has to be asked of the database (`SelectsApart`).
-/

namespace EntityMap

variable {δ : Type} [Database δ] {x : Library} {e : Entity} {row : Row} {rows : List Row}
  {w w₁ w' : World δ} {lookups : List JoinLookup} {v : Value} {vs : List Value}

/-! ## Loading -/

/-- Rows are made entities one after another, each as a new record whose joins are followed. -/
inductive Loaded (x : Library) (e : Entity) :
    List Row → World δ → List JoinLookup → List Value → World δ → Prop
  | nil (w : World δ) : Loaded x e [] w [] [] w
  | cons {row : Row} {rows : List Row} {r : Record} {w w₁ w' : World δ}
      {lookups lookups' : List JoinLookup} {vs : List Value}
      (hydrated : hydrate x.catalogue w.records e row = .ok r)
      (followed : JoinsFollowed x e (.entity w.records.length) (some row) e.joins
        { w with records := w.records ++ [r] } lookups w₁)
      (rest : Loaded x e rows w₁ lookups' vs w') :
      Loaded x e (row :: rows) w (lookups ++ lookups') (.entity w.records.length :: vs) w'

/-- One row is loaded. -/
theorem loadRow_eq_ok (hc : x.catalogue.Distinct) (he : e.Distinct)
    (h : loadRow x e row w = (.ok v, w')) :
    v = .entity w.records.length
      ∧ ∃ r lookups, hydrate x.catalogue w.records e row = .ok r
        ∧ JoinsFollowed x e (.entity w.records.length) (some row) e.joins
          { w with records := w.records ++ [r] } lookups w' := by
  obtain ⟨u, w₁, hrow, h⟩ := Op.bind_eq_ok.mp h
  rw [hydrateRow, Op.records_bind] at hrow
  obtain ⟨r, hr, hrow⟩ := Op.ofResult_bind_eq_ok.mp hrow
  cases hrow
  obtain ⟨_, w₂, hjoins, h⟩ := Op.bind_eq_ok.mp h
  cases h
  have howner : (w.records ++ [r] : Records).Has (.entity w.records.length) := by
    rw [Records.Has, Records.record?_length]
    rfl
  obtain ⟨lookups, hfollowed⟩ := forM_resolveJoin_follows hc he.nodup_joins
    (fun j hj col hcol => (he.join_ne_column hj hcol).symm) howner hjoins
  exact ⟨rfl, r, lookups, hr, hfollowed⟩

/-- So are several. -/
theorem loadRows_eq_ok (hc : x.catalogue.Distinct) (he : e.Distinct)
    (h : loadRows x e rows w = (.ok vs, w')) : ∃ lookups, Loaded x e rows w lookups vs w' := by
  unfold loadRows at h
  induction rows generalizing w vs with
  | nil =>
    cases h
    exact ⟨[], .nil _⟩
  | cons row rows ih =>
    rw [List.mapM_cons] at h
    obtain ⟨v, w₁, hrow, h⟩ := Op.bind_eq_ok.mp h
    obtain ⟨vs, w₂, hrows, h⟩ := Op.bind_eq_ok.mp h
    cases h
    obtain ⟨rfl, r, lookups, hr, hfollowed⟩ := loadRow_eq_ok hc he hrow
    obtain ⟨lookups', hrest⟩ := ih hrows
    exact ⟨lookups ++ lookups', .cons hr hfollowed hrest⟩

/-- With several rows at hand the first is loaded as if it were the only one. -/
theorem loadRows_take_one (h : loadRows x e rows w = (.ok vs, w')) :
    ∃ w₁, loadRows x e (rows.take 1) w = (.ok (vs.take 1), w₁)
      ∧ loadRows x e (rows.drop 1) w₁ = (.ok (vs.drop 1), w') := by
  cases rows with
  | nil =>
    cases h
    exact ⟨_, rfl, rfl⟩
  | cons row rows =>
    unfold loadRows at h
    rw [List.mapM_cons] at h
    obtain ⟨v, w₁, hrow, h⟩ := Op.bind_eq_ok.mp h
    obtain ⟨vs, w₂, hrows, h⟩ := Op.bind_eq_ok.mp h
    cases h
    refine ⟨w₁, ?_, hrows⟩
    unfold loadRows
    rw [List.take_succ_cons, List.take_zero, List.mapM_cons]
    exact Op.bind_eq_ok.mpr ⟨v, w₁, hrow, rfl⟩

/-! ## What has been loaded -/

/-- What is set after an entity has been added leaves those that there were. -/
theorem SetsOnly.isPrefix {fields : List String} {rs rs' : Records} {r : Record}
    (h : SetsOnly (.entity rs.length) fields (rs ++ [r]) rs') : rs <+: rs' := by
  rw [List.prefix_iff_getElem?]
  intro i hi
  have hhas : (rs ++ [r] : Records).Has (.entity i) := by
    rw [Records.Has, Records.record?, List.getElem?_append_left hi]
    simp [hi]
  have hne : Value.entity i ≠ .entity rs.length := fun h => by
    cases h
    omega
  have hsame : rs'[i]? = (rs ++ [r])[i]? := h.others _ hhas hne
  rw [hsame, List.getElem?_append_left hi, List.getElem?_eq_getElem hi]

/-- The value is the entity of a row, up to the fields of its joins. -/
def IsEntityOf (x : Library) (e : Entity) (rs : Records) (row : Row) (v : Value) : Prop :=
  ∃ before r found, hydrate x.catalogue before e row = .ok r ∧ rs.record? v = some found
    ∧ found.className = r.className ∧ found.isPlaceholder = r.isPlaceholder
    ∧ ∀ field ∉ e.joins.map (·.field), found.fields.lookup field = r.fields.lookup field

theorem IsEntityOf.mono {rs rs' : Records} (h : IsEntityOf x e rs row v) (hrs : rs <+: rs') :
    IsEntityOf x e rs' row v := by
  obtain ⟨before, r, found, hr, hfound, hsame⟩ := h
  obtain ⟨more, rfl⟩ := hrs
  have hhas : rs.Has v := Option.isSome_iff_exists.mpr ⟨found, hfound⟩
  exact ⟨before, r, found, hr, (Records.record?_append hhas more).trans hfound, hsame⟩

namespace Loaded

variable {rows' : List Row} {lookups' : List JoinLookup} {vs' : List Value}

theorem append (h : Loaded x e rows w lookups vs w₁) (h' : Loaded x e rows' w₁ lookups' vs' w') :
    Loaded x e (rows ++ rows') w (lookups ++ lookups') (vs ++ vs') w' := by
  induction h with
  | nil => exact h'
  | cons hydrated followed _ ih =>
    rw [List.append_assoc]
    exact .cons hydrated followed (ih h')

theorem answers (h : Loaded x e rows w lookups vs w') :
    Answers w.database lookups w'.database := by
  induction h with
  | nil => exact .nil _
  | cons _ followed _ ih => exact followed.answers.append ih

theorem events (h : Loaded x e rows w lookups vs w') :
    w'.events = w.events ++ ranAll (lookups.map (·.call)) := by
  induction h with
  | nil => simp [ranAll]
  | cons _ followed _ ih =>
    rw [ih, followed.events, List.append_assoc, List.map_append, ranAll, ranAll, ranAll,
      List.map_append]

theorem isOpen (h : Loaded x e rows w lookups vs w') : w'.isOpen = w.isOpen := by
  induction h with
  | nil => rfl
  | cons _ followed _ ih => exact ih.trans followed.isOpen

/-- The entities that there were are as they were. -/
theorem records_prefix (h : Loaded x e rows w lookups vs w') : w.records <+: w'.records := by
  induction h with
  | nil => exact List.prefix_refl _
  | cons _ followed _ ih => exact followed.sets.isPrefix.trans ih

/-- There is one entity for each row, in the order of the rows. -/
theorem entities (h : Loaded x e rows w lookups vs w') :
    List.Forall₂ (IsEntityOf x e w'.records) rows vs := by
  induction h with
  | nil => exact .nil
  | @cons row rows r w w₁ w' _ _ _ hydrated followed rest ih =>
    refine .cons ?_ ih
    have hfirst : IsEntityOf x e w₁.records row (.entity w.records.length) := by
      obtain ⟨found, hfound, hsame⟩ := followed.sets.own r (Records.record?_length r)
      exact ⟨w.records, r, found, hydrated, hfound, hsame⟩
    exact hfirst.mono rest.records_prefix

/-- They are new. -/
theorem not_has (h : Loaded x e rows w lookups vs w') : ∀ v ∈ vs, ¬w.records.Has v := by
  induction h with
  | nil => simp
  | @cons row rows r w w₁ w' _ _ _ hydrated followed rest ih =>
    have hprefix := followed.sets.isPrefix
    refine List.forall_mem_cons.mpr ⟨by simp [Records.Has, Records.record?], fun v hv hhas => ?_⟩
    refine ih v hv ?_
    obtain ⟨more, hmore⟩ := hprefix
    rw [← hmore]
    exact hhas.append more

/-- They are different. -/
theorem nodup (h : Loaded x e rows w lookups vs w') : vs.Nodup := by
  induction h with
  | nil => exact List.nodup_nil
  | @cons row rows r w w₁ w' _ _ _ hydrated followed rest ih =>
    refine List.nodup_cons.mpr ⟨fun hmem => rest.not_has _ hmem ?_, ih⟩
    exact followed.sets.has (by rw [Records.Has, Records.record?_length]; rfl)

end Loaded

/-! ## The rows of a statement -/

variable {s : Statement} {ps : List Value} {reply : Reply}

/-- A statement is run on a connection, rows of what the database answers are loaded, and the
database commits. -/
inductive RowsFetched (x : Library) (e : Entity) (s : Statement) (ps : List Value) (w : World δ)
    (reply : Reply) (rows : List Row) (lookups : List JoinLookup) (vs : List Value) :
    World δ → Prop
  | intro {opened w₁ w₂ : World δ} (opening : ensureOpen x.management w = (.ok (), opened))
      (run : runStatement s ps opened = (.ok reply, w₁))
      (loaded : Loaded x e rows w₁ lookups vs w₂)
      (agreed : (Database.commit w₂.database).1 = .ok ()) :
      RowsFetched x e s ps w reply rows lookups vs (w₂.commit.leave x.management)

/-- The events are those of one connection, on which the statement is followed by the lookups. -/
theorem RowsFetched.events (h : RowsFetched x e s ps w reply rows lookups vs w') :
    w'.events = w.events ++ x.management.opening w.isOpen
      ++ ranAll ((s, ps) :: lookups.map (·.call)) ++ [.committed] ++ x.management.closing := by
  obtain ⟨hopen, hrun, hloaded, -⟩ := h
  obtain ⟨d, -, rfl⟩ := runStatement_eq_ok.mp hrun
  rw [(leave_events _ _).1]
  simp [World.commit, World.after, hloaded.events, ((ensureOpen_opening _ _).1 _ _ hopen).1, ranAll]

omit [Database δ] in
theorem leave_records (m : Management) (w : World δ) : (w.leave m).records = w.records := by
  unfold World.leave
  split <;> rfl

/-- There is one entity for each row, in the order of the rows, and no two are the same. -/
theorem RowsFetched.entities (h : RowsFetched x e s ps w reply rows lookups vs w') :
    List.Forall₂ (IsEntityOf x e w'.records) rows vs ∧ vs.Nodup := by
  obtain ⟨-, -, hloaded, -⟩ := h
  rw [leave_records]
  exact ⟨hloaded.entities, hloaded.nodup⟩

/-- The result of a statement's rows is read off its parts. -/
theorem loadResult_eq_ok {many : Bool} :
    loadResult x e s ps many w = (.ok v, w') ↔
      ∃ opened reply w₁ vs w₂, ensureOpen x.management w = (.ok (), opened)
        ∧ runStatement s ps opened = (.ok reply, w₁)
        ∧ loadRows x e (if many then reply.fetched else reply.fetched.take 1) w₁ = (.ok vs, w₂)
        ∧ (Database.commit w₂.database).1 = .ok ()
        ∧ v = (if many then .list vs else vs.head?.getD .null)
        ∧ w' = w₂.commit.leave x.management := by
  rw [loadResult, reading, withConnection_eq_ok]
  constructor
  · rintro ⟨opened, w₂, hopen, hbody, hagreed, rfl⟩
    obtain ⟨_, w₁, hrows, hbody⟩ := Op.bind_eq_ok.mp hbody
    obtain ⟨reply, _, hrun, hrows⟩ := Op.bind_eq_ok.mp hrows
    cases hrows
    refine ⟨opened, reply, w₁, ?_⟩
    cases many <;> obtain ⟨vs, _, hload, hbody⟩ := Op.bind_eq_ok.mp hbody <;> cases hbody <;>
      exact ⟨vs, w₂, hopen, hrun, hload, hagreed, rfl, rfl⟩
  · rintro ⟨opened, reply, w₁, vs, w₂, hopen, hrun, hload, hagreed, rfl, rfl⟩
    refine ⟨opened, w₂, hopen, ?_, hagreed, rfl⟩
    refine Op.bind_eq_ok.mpr ⟨_, w₁, Op.bind_eq_ok.mpr ⟨reply, w₁, hrun, rfl⟩, ?_⟩
    cases many <;> exact Op.bind_eq_ok.mpr ⟨vs, w₂, hload, rfl⟩

/-- The result of a statement is a list of the entities of all rows, or else the first. -/
theorem exists_rowsFetched {many : Bool} (hc : x.catalogue.Distinct) (he : e.Distinct)
    (h : loadResult x e s ps many w = (.ok v, w')) :
    ∃ reply lookups vs, v = (if many then .list vs else vs.head?.getD .null)
      ∧ RowsFetched x e s ps w reply (if many then reply.fetched else reply.fetched.take 1)
        lookups vs w' := by
  obtain ⟨opened, reply, w₁, vs, w₂, hopen, hrun, hload, hagreed, hv, rfl⟩ :=
    loadResult_eq_ok.mp h
  obtain ⟨lookups, hloaded⟩ := loadRows_eq_ok hc he hload
  exact ⟨reply, lookups, vs, hv, .intro hopen hrun hloaded hagreed⟩

/-! ## One entity and all of them -/

/-- Whether the database refuses to commit does not depend on what is selected before. -/
def SelectsApart (δ : Type) [Database δ] : Prop :=
  ∀ rs table selection ps (d : δ),
    (Database.commit (Database.run rs (.select table selection) ps d).2).1
      = (Database.commit d).1

theorem Answers.commit {d d' : δ} (hδ : SelectsApart δ) (h : Answers d lookups d') :
    (Database.commit d').1 = (Database.commit d).1 := by
  induction h with
  | nil => rfl
  | @cons d d₁ d' l _ run _ ih =>
    have hselect := hδ l.records l.related.table (.byColumn l.source.name) [l.key] d
    rw [ih, ← hselect]
    exact congrArg (fun r => (Database.commit r.2).1) run.symm

/-- In one world all rows of a reply have been loaded, in the other the first alone. There the first
entity and those that it holds are the same, and after the statement only the lookups for the first
row are run. -/
structure CutShort (x : Library) (e : Entity) (s : Statement) (ps : List Value) (w : World δ)
    (reply : Reply) (lookups more : List JoinLookup) (vs : List Value) (w' w'' : World δ) :
    Prop where
  all : RowsFetched x e s ps w reply reply.fetched (lookups ++ more) vs w'
  first : RowsFetched x e s ps w reply (reply.fetched.take 1) lookups (vs.take 1) w''
  records : w''.records <+: w'.records
  allRun : w'.events = w.events ++ x.management.opening w.isOpen
    ++ ranAll ((s, ps) :: lookups.map (·.call) ++ more.map (·.call)) ++ [.committed]
    ++ x.management.closing
  firstRun : w''.events = w.events ++ x.management.opening w.isOpen
    ++ ranAll ((s, ps) :: lookups.map (·.call)) ++ [.committed] ++ x.management.closing

/-- Asked for one entity instead of a list, the same statement gives the first of the list. -/
theorem loadResult_cutShort (hc : x.catalogue.Distinct) (he : e.Distinct) (hδ : SelectsApart δ)
    (h : loadResult x e s ps true w = (.ok v, w')) :
    ∃ reply lookups more vs w'', v = .list vs
      ∧ loadResult x e s ps false w = (.ok (vs.head?.getD .null), w'')
      ∧ CutShort x e s ps w reply lookups more vs w' w'' := by
  obtain ⟨opened, reply, w₁, vs, w₃, hopen, hrun, hload, hagreed, rfl, rfl⟩ :=
    loadResult_eq_ok.mp h
  rw [if_pos rfl] at hload
  obtain ⟨w₂, hfirst, hrest⟩ := loadRows_take_one hload
  obtain ⟨lookups, hfirstLoaded⟩ := loadRows_eq_ok hc he hfirst
  obtain ⟨more, hrestLoaded⟩ := loadRows_eq_ok hc he hrest
  have hagreed' : (Database.commit w₂.database).1 = .ok () :=
    (hrestLoaded.answers.commit hδ).symm.trans hagreed
  have hall : Loaded x e reply.fetched w₁ (lookups ++ more) vs w₃ := by
    have happend := hfirstLoaded.append hrestLoaded
    rwa [List.take_append_drop, List.take_append_drop] at happend
  have hfetched : RowsFetched x e s ps w reply reply.fetched (lookups ++ more) vs _ :=
    .intro hopen hrun hall hagreed
  have hfetched' : RowsFetched x e s ps w reply (reply.fetched.take 1) lookups (vs.take 1) _ :=
    .intro hopen hrun hfirstLoaded hagreed'
  refine ⟨reply, lookups, more, vs, w₂.commit.leave x.management, rfl, ?_, hfetched, hfetched', ?_,
    ?_, hfetched'.events⟩
  · refine loadResult_eq_ok.mpr ⟨opened, reply, w₁, vs.take 1, w₂, hopen, hrun, hfirst, hagreed',
      ?_, rfl⟩
    cases vs <;> rfl
  · rw [leave_records, leave_records]
    exact hrestLoaded.records_prefix
  · rw [hfetched.events, List.map_append, List.cons_append]

/-- Whether a name finds entities or SQL is given in full, the form that gives one entity is the form
that gives a list, cut short after the first row. -/
theorem single_form_cuts_list {ds : List ClassDeclaration} {constants : List (String × Value)}
    {className : String} (hcatalogue : Catalogue.ofDeclarations ds constants = .ok x.catalogue)
    (hentity : x.catalogue.describe className = .ok e) (hδ : SelectsApart δ) (w : World δ) :
    (∀ name q args v w', Method.Query.ofName? name = .ok q → q.verb ∈ [.find, .findAll] →
      invoke x e name args (some true) w = (.ok v, w') →
        ∃ selection ps reply lookups more vs w'', v = .list vs
          ∧ invoke x e name args (some false) w = (.ok (vs.head?.getD .null), w'')
          ∧ CutShort x e (.select e.table selection) ps w reply lookups more vs w' w'')
      ∧ ∀ q args v w', q.captures = true → runSql x e q args true w = (.ok v, w') →
        ∃ ps reply lookups more vs w'', v = .list vs
          ∧ runSql x e q args false w = (.ok (vs.head?.getD .null), w'')
          ∧ CutShort x e (.verbatim q.sql) ps w reply lookups more vs w' w'' := by
  have hc := ofDeclarations_distinct hcatalogue
  have he := hc.describe hentity
  refine ⟨fun name q args v w' hq hverb h => ?_, fun q args v w' hcaptures h => ?_⟩
  · have hfind : ∀ many, (invoke x e name args many : Op δ Value) = find x e q args many := by
      intro many
      rw [invoke_eq_runQuery hq, runQuery]
      rcases List.mem_cons.mp hverb with hverb | hverb
      · rw [hverb]
      · rw [List.mem_singleton.mp hverb]
    rw [hfind] at h ⊢
    obtain ⟨selection, hselection, h⟩ := Op.ofResult_bind_eq_ok.mp h
    rw [Op.records_bind] at h
    obtain ⟨ps, hps, h⟩ := Op.ofResult_bind_eq_ok.mp h
    obtain ⟨reply, lookups, more, vs, w'', hv, hone, hcut⟩ := loadResult_cutShort hc he hδ h
    refine ⟨selection, ps, reply, lookups, more, vs, w'', hv, ?_, hcut⟩
    refine Op.ofResult_bind_eq_ok.mpr ⟨selection, hselection, ?_⟩
    rw [Op.records_bind]
    exact Op.ofResult_bind_eq_ok.mpr ⟨ps, hps, hone⟩
  · rw [runSql, Op.records_bind] at h ⊢
    obtain ⟨ps, hps, h⟩ := Op.ofResult_bind_eq_ok.mp h
    rw [if_pos hcaptures] at h
    obtain ⟨reply, lookups, more, vs, w'', hv, hone, hcut⟩ := loadResult_cutShort hc he hδ h
    refine ⟨ps, reply, lookups, more, vs, w'', hv, ?_, hcut⟩
    refine Op.ofResult_bind_eq_ok.mpr ⟨ps, hps, ?_⟩
    rw [if_pos hcaptures]
    exact hone

/-! ## Two products -/

namespace Sample

/-- Two products are found, the first of them on a line. -/
def twoProducts : World Script where
  database :=
    { replies :=
      [.ok { columns := ["id", "name", "line"]
             rows := [[.int 1, .text "pump", .int 7], [.int 2, .text "valve", .null]] },
       .ok { columns := ["id", "name"], rows := [[.int 7, .text "main"]] }] }

/-- The query for the products that are active. -/
def activeQuery : Method.Query where
  name := "findAllByActive"
  verb := .findAll
  terms := ["active"]
  connectors := []
  orderField := none
  direction := .asc
  setFields := []

theorem ofName?_findAllByActive :
    Method.Query.ofName? "findAllByActive" = .ok activeQuery := by
  rfl

end Sample

/-- A script does not refuse to commit. -/
theorem selectsApart_script : SelectsApart Script :=
  fun _ _ _ _ _ => rfl

open Sample in
/-- The first of them is found alone, by its name or by given SQL. -/
theorem single_form_cuts_list_twoProducts :
    (∃ s ps reply lookups more vs w' w'', invoke library productEntity "findAllByActive"
        [.bool true] (some true) twoProducts = (.ok (.list vs), w')
      ∧ CutShort library productEntity s ps twoProducts reply lookups more vs w' w'')
    ∧ ∃ s ps reply lookups more vs w' w'', runSql library productEntity
        ⟨"SELECT * FROM products", true⟩ [] true twoProducts = (.ok (.list vs), w')
      ∧ CutShort library productEntity s ps twoProducts reply lookups more vs w' w'' := by
  obtain ⟨hname, hsql⟩ := single_form_cuts_list ofDeclarations_library describe_product
    selectsApart_script twoProducts
  constructor
  · obtain ⟨v, w', h⟩ := Op.exists_ok (r := invoke library productEntity "findAllByActive"
      [.bool true] (some true) twoProducts) (by decide +kernel)
    obtain ⟨selection, ps, reply, lookups, more, vs, w'', rfl, -, hcut⟩ :=
      hname _ _ _ v w' ofName?_findAllByActive (by decide) h
    exact ⟨_, ps, reply, lookups, more, vs, w', w'', h, hcut⟩
  · obtain ⟨v, w', h⟩ := Op.exists_ok (r := runSql library productEntity
      ⟨"SELECT * FROM products", true⟩ [] true twoProducts) (by decide +kernel)
    obtain ⟨ps, reply, lookups, more, vs, w'', rfl, -, hcut⟩ := hsql _ _ v w' rfl h
    exact ⟨_, ps, reply, lookups, more, vs, w', w'', h, hcut⟩

end EntityMap
