import EntityMap.Operation.Explain
import EntityMap.Proofs.Saving.StandIns
import EntityMap.Proofs.Schema.Uniqueness
import EntityMap.Proofs.Sql.Scan
import EntityMap.Proofs.Storage.Running
import EntityMap.Proofs.Validation.Required

/-!
# The columns of a row and what is explained

The row of an entity names each column once, at its first place : the columns of the fields that are
not left out, then those of the joins onto columns without a field (`OwnRow.map_fst_values`).
`explain` lists the columns of an entity with all fields set on its own account, and does not see
that two of them are the same. So what it shows for a saving is the insertion that is run exactly
if it lists no column twice, and any at all (`explain_shows_insertion`).
-/

namespace EntityMap

variable {δ : Type}

/-! ## Names that come once -/

theorem eraseDups_append_eraseDups (as bs : List String) :
    (as ++ bs.eraseDups).eraseDups = (as ++ bs).eraseDups := by
  induction bs using List.reverseRecOn with
  | nil => simp
  | append_singleton bs b ih =>
    rw [← List.append_assoc, eraseDups_concat (as ++ bs), eraseDups_concat bs]
    by_cases hb : b ∈ bs
    · rw [if_pos hb, if_pos (List.mem_append_right as hb), ih]
    · rw [if_neg hb, ← List.append_assoc, eraseDups_concat, ih]
      simp

theorem eraseDups_eraseDups_append (as bs : List String) :
    (as.eraseDups ++ bs).eraseDups = (as ++ bs).eraseDups := by
  induction bs using List.reverseRecOn with
  | nil =>
    have h := eraseDups_append_eraseDups [] as
    simpa using h
  | append_singleton bs b ih =>
    rw [← List.append_assoc, ← List.append_assoc, eraseDups_concat, eraseDups_concat, ih]
    simp

/-- Nothing is taken away exactly if no name comes twice. -/
theorem eraseDups_eq_self_iff {names : List String} : names.eraseDups = names ↔ names.Nodup := by
  refine ⟨fun h => h ▸ nodup_eraseDups names, fun h => ?_⟩
  induction names using List.reverseRecOn with
  | nil => rfl
  | append_singleton names name ih =>
    obtain ⟨hnames, -, hnew⟩ := List.nodup_append.mp h
    have hname : name ∉ names := fun hmem => hnew name hmem name List.mem_cons_self rfl
    rw [eraseDups_concat, if_neg hname, ih hnames]

/-- A value under a name that is not there yet comes to the end. -/
theorem map_fst_setNew {α : Type} (name : String) (v : α) (xs : List (String × α)) :
    (setNew name v xs).map (·.1) =
      if name ∈ xs.map (·.1) then xs.map (·.1) else xs.map (·.1) ++ [name] := by
  unfold setNew
  by_cases h : name ∈ xs.map (·.1)
  · rw [if_pos h, if_pos ((isSome_lookup_iff xs name).mpr h)]
  · rw [if_neg h, if_neg (mt (isSome_lookup_iff xs name).mp h), List.map_append]
    rfl

/-! ## Names of a row -/

/-- The own values name the columns of the fields that are not left out. -/
theorem map_fst_ownValues {rs : Records} {e : Entity} {v : Value} {own : List (String × Value)}
    (h : ownValues rs e v = .ok own) : own.map (·.1) =
      ((e.columns.filter fun col => !col.isLeftOut (rs.get v col.field)).map (·.name)).eraseDups := by
  have hdone := foldlM_rest (I := fun rest known => ∃ done, e.columns = done ++ rest
    ∧ known.map (·.1) =
      ((done.filter fun col => !col.isLeftOut (rs.get v col.field)).map (·.name)).eraseDups)
    ?_ ⟨[], rfl, rfl⟩ h
  · obtain ⟨done, hcolumns, hnames⟩ := hdone
    rw [hcolumns, List.append_nil, hnames]
  rintro col rest known known' ⟨done, hcolumns, hnames⟩ hround
  refine ⟨done ++ [col], by simpa using hcolumns, ?_⟩
  rw [List.filter_append, List.map_append]
  dsimp only at hround
  split at hround
  · next hleft =>
    cases hround
    simpa [hleft] using hnames
  · next hkept =>
    obtain ⟨new, -, rfl⟩ := Except.map_eq_ok.mp hround
    have hkept : (!col.isLeftOut (rs.get v col.field)) = true := by simpa using hkept
    rw [List.filter_singleton, hkept, cond_true, List.map_singleton, eraseDups_concat,
      map_fst_setNamed, hnames]
    exact if_congr List.mem_eraseDups rfl rfl

/-- Keys that are there are named after the own values. -/
theorem map_fst_addKeys {keys values : List (String × Value)}
    (hkeys : ∀ k ∈ keys, k.2.isNull = false) (hvalues : (values.map (·.1)).Nodup) :
    (addKeys keys values).map (·.1) = (values.map (·.1) ++ keys.map (·.1)).eraseDups := by
  induction keys using List.reverseRecOn with
  | nil => simpa [addKeys] using (eraseDups_eq_self_iff.mpr hvalues).symm
  | append_singleton keys k ih =>
    obtain ⟨hkeys, hlast⟩ := List.forall_mem_append.mp hkeys
    have hk : k.2.isNull = false := hlast k List.mem_cons_self
    rw [addKeys, List.foldl_concat, ← addKeys, if_neg (by simp [hk]), map_fst_setNew, ih hkeys,
      List.map_append, ← List.append_assoc, List.map_singleton, eraseDups_concat]
    exact if_congr List.mem_eraseDups rfl rfl

/-! ## Keys that are delivered -/

/-- The join has a related entity with a value in the field that the key is taken from. -/
structure Join.HasKey (x : Library) (rs : Records) (v : Value) (j : Join) : Prop where
  related : (rs.get v j.field).isNull = false
  source : ∃ col, x.catalogue.sourceColumn j = .ok col
    ∧ (rs.get (rs.get v j.field) col.field).isNull = false

/-- The targets of joins that have no field of their own, in order. -/
def Entity.bareTargets (e : Entity) (js : List Join) : List String :=
  (js.filter fun j => (e.columnNamed? j.target).isNone).map (·.target)

theorem Entity.bareTargets_concat (e : Entity) (js : List Join) (j : Join) :
    e.bareTargets (js ++ [j]) =
      if (e.columnNamed? j.target).isNone then e.bareTargets js ++ [j.target]
      else e.bareTargets js := by
  unfold bareTargets
  cases hnone : (e.columnNamed? j.target).isNone <;> simp [hnone]

variable [Database δ] {x : Library} {e : Entity} {v : Value}

/-- A related entity that gets ready loses no value. -/
theorem RelatedReady.grows {k : Connection} {fuel : Nat} {m : Node} {w w' : World δ}
    (h : RelatedReady (insertEntity x k fuel) m w w') : Grows w w' := by
  cases h with
  | inserted _ run => exact (insertEntity_grows k fuel m w w (Grows.refl w)).1 _ _ run
  | present _ => exact Grows.refl w

omit [Database δ] in
/-- Nor does an entity for which a key is taken over. -/
theorem KeyTaken.grows {j : Join} {key : Value} {keys keys' : List (String × Value)} {ref : Nat}
    {w w' : World δ} (h : KeyTaken e j key keys ref w keys' w') : Grows w w' := by
  cases h with
  | @assigned col _ present => exact (Grows.refl w).setField present ref col.field
  | absent _ _ => exact Grows.refl w
  | named _ => exact Grows.refl w

omit [Database δ] in
/-- A key is kept for a target without a field. -/
theorem KeyTaken.map_fst_keys {j : Join} {key : Value} {keys keys' : List (String × Value)}
    {ref : Nat} {w w' : World δ} {js : List Join} (h : KeyTaken e j key keys ref w keys' w')
    (hkeys : keys.map (·.1) = (e.bareTargets js).eraseDups) :
    keys'.map (·.1) = (e.bareTargets (js ++ [j])).eraseDups := by
  rw [Entity.bareTargets_concat]
  cases h with
  | assigned column _ => simpa [column] using hkeys
  | absent column _ => simpa [column] using hkeys
  | named column =>
    rw [if_pos (by simp [column]), map_fst_setNamed, hkeys, eraseDups_concat]
    exact if_congr List.mem_eraseDups rfl rfl

/-- What has been kept once some joins of a call have been settled : keys that are there, under the
targets of these joins that have no field. -/
structure Call.Kept (c : Call δ) (js : List Join) (keys : List (String × Value)) (w : World δ) :
    Prop where
  names : keys.map (·.1) = (c.node.entity.bareTargets js).eraseDups
  present : ∀ k ∈ keys, k.2.isNull = false
  grows : Grows c.world w

section

variable {c : Call δ} (honce : c.Once x) (hhas : c.world.records.Has c.node.object)
  (hdistinct : c.node.entity.Distinct)
  (hkeys : ∀ j ∈ c.node.entity.joins, j.HasKey x c.world.records c.node.object)
include honce hhas hdistinct hkeys

/-- Settling one more join whose key is there keeps it for a target without a field. -/
theorem Call.Once.kept_concat {pre post : List Join} {j : Join} {keys keys' : List (String × Value)}
    {w w' : World δ} (hjoins : c.node.entity.joins = pre ++ j :: post)
    (hrun : c.settle x pre [] c.world = (.ok keys, w)) (hkept : c.Kept pre keys w)
    (hfirst : settleJoin x (insertEntity x ⟨true⟩ c.fuel) c.node.entity c.node.object keys j w
      = (.ok keys', w')) : c.Kept (pre ++ [j]) keys' w' := by
  obtain ⟨hrelated, source, hsource, hvalue⟩ := hkeys j (by simp [hjoins])
  obtain ⟨hw, hget⟩ := honce.get_join hhas hdistinct hjoins hrun
  obtain ⟨ref, hobject, -⟩ := hw.entity
  obtain ⟨related, w₁, hmade, hends⟩ := settleJoin_cases hobject hjoins hrun hfirst
  rw [← hget] at hrelated hvalue
  rcases relatedOrPlaceholder_eq_ok hmade with ⟨rfl, rfl, -⟩ | ⟨hnull, -⟩
  · rcases hends with ⟨hnull, -⟩ | ⟨m, w₂, source', key, hm, -, hready, hsource', hkey, htaken⟩
    · exact absurd (hrelated.symm.trans hnull) Bool.false_ne_true
    cases hsource.symm.trans hsource'
    have hgrows := hkept.grows.trans hready.grows
    have hpresent : key.isNull = false := by
      rw [isNull_of_stored hkey, hm]
      exact hgrows.fields _ _ hvalue
    refine ⟨htaken.map_fst_keys hkept.names, ?_, hgrows.trans htaken.grows⟩
    cases htaken with
    | assigned _ _ => exact hkept.present
    | absent _ _ => exact hkept.present
    | named _ =>
      intro k hk
      rcases mem_setNamed hk with rfl | hk
      · exact hpresent
      · exact hkept.present k hk
  · rw [hnull] at hrelated
    cases hrelated

/-- So it is for all joins that are settled one after the other. -/
theorem Call.Once.kept {pre post : List Join} {keys : List (String × Value)} {w : World δ}
    (hjoins : c.node.entity.joins = pre ++ post)
    (hrun : c.settle x pre [] c.world = (.ok keys, w)) : c.Kept pre keys w := by
  induction pre using List.reverseRecOn generalizing post keys w with
  | nil =>
    cases hrun
    exact ⟨rfl, by simp, Grows.refl _⟩
  | append_singleton pre j ih =>
    obtain ⟨keys₀, w₀, keys₁, w₁, hbefore, hfirst, hnothing⟩ := exists_settleJoin hrun
    cases hnothing
    have hjoins' : c.node.entity.joins = pre ++ j :: post := by simpa using hjoins
    exact honce.kept_concat hhas hdistinct hkeys hjoins' hbefore (ih hjoins' hbefore) hfirst

end

/-- The row names the columns of the fields that are not left out in the end, and then the targets
of joins that have no field, each once. -/
theorem OwnRow.map_fst_values {validating : Bool} {w : World δ} (row : OwnRow x validating e v w)
    (hdistinct : e.Distinct) (honce : InsertedOnce x w e v)
    (hkeys : ∀ j ∈ e.joins, j.HasKey x w.records v) : row.values.map (·.1) =
      ((e.columns.filter fun col => !col.isLeftOut (row.before.records.get v col.field)).map (·.name)
        ++ e.bareTargets e.joins).eraseDups := by
  have hkept := (honce row.opened row.records_opened).kept row.has hdistinct
    (row.records_opened ▸ hkeys) (List.append_nil _).symm row.settle
  rw [OwnRow.values, map_fst_addKeys hkept.present (nodup_ownValues row.own_eq), hkept.names,
    eraseDups_append_eraseDups, map_fst_ownValues row.own_eq, eraseDups_eraseDups_append]
  rfl

/-! ## Entities with everything set -/

/-- The entity is new and has everything else : the key that is counted up is unset, every other
field has a value, and every join has the key that it takes. -/
structure AllSet (x : Library) (rs : Records) (e : Entity) (v : Value) : Prop where
  counted : ∀ col ∈ e.columns, col.autoIncrement = true →
    col.isLeftOut (rs.get v col.field) = true
  present : ∀ col ∈ e.columns, col.autoIncrement = false → (rs.get v col.field).isNull = false
  keys : ∀ j ∈ e.joins, j.HasKey x rs v

/-- No join is for a column that is counted up. -/
def Entity.CountsAlone (e : Entity) : Prop :=
  ∀ j ∈ e.joins, ∀ col ∈ e.columns, col.autoIncrement = true → col.name ≠ j.target

/-- Then the columns of an insertion are those of the fields that are not counted up, and the
targets of joins without a field. -/
theorem Entity.CountsAlone.insertedColumns_eq (h : e.CountsAlone) : e.insertedColumns =
    (e.columns.filter fun col => !col.autoIncrement).map (·.name) ++ e.bareTargets e.joins := by
  let plain := (e.columns.filter fun col => !col.autoIncrement).map (·.name)
  have hbare : (e.joins.filter fun j => j.target ∉ plain)
      = e.joins.filter fun j => (e.columnNamed? j.target).isNone := by
    refine List.filter_congr fun j hj => ?_
    have hplain : j.target ∉ plain ↔ e.columnNamed? j.target = none := by
      refine ⟨fun hnew => ?_, fun hnone hmem => ?_⟩
      · rw [Entity.columnNamed?, List.find?_eq_none]
        intro col hcol hname
        have hname : col.name = j.target := by simpa using hname
        have hauto : col.autoIncrement = false :=
          Bool.of_not_eq_true fun hauto => h j hj col hcol hauto hname
        exact hnew (List.mem_map.mpr ⟨col, List.mem_filter.mpr ⟨hcol, by simp [hauto]⟩, hname⟩)
      · obtain ⟨col, hcol, hname⟩ := List.mem_map.mp hmem
        rw [Entity.columnNamed?, List.find?_eq_none] at hnone
        exact hnone col (List.mem_of_mem_filter hcol) (by simp [hname])
    rw [Bool.eq_iff_iff, decide_eq_true_iff, Option.isNone_iff_eq_none, hplain]
  show plain ++ (e.joins.filter fun j => j.target ∉ plain).map (·.target) = _
  rw [hbare, Entity.bareTargets]

section

variable {validating : Bool} {w : World δ} (row : OwnRow x validating e v w)
  (hdistinct : e.Distinct) (honce : InsertedOnce x w e v) (hcounted : e.CountsAlone)
  (hset : AllSet x w.records e v)
include hdistinct honce hcounted hset

/-- By the time of the insertion the fields that are left out are those that are counted up. -/
theorem OwnRow.isLeftOut_eq {col : Column} (hcol : col ∈ e.columns) :
    col.isLeftOut (row.before.records.get v col.field) = col.autoIncrement := by
  have honce := honce row.opened row.records_opened
  cases hauto : col.autoIncrement with
  | true =>
    have hsame : row.before.records.get v col.field = row.opened.records.get v col.field := by
      refine honce.field_eq_of_ne row.has hdistinct row.settle hcol fun j hj hcol' => ?_
      exact hcounted j hj col hcol hauto (Entity.mem_of_columnNamed? hcol').2
    rw [hsame, row.records_opened]
    exact hset.counted col hcol hauto
  | false =>
    have hgrows := (honce.kept row.has hdistinct (row.records_opened ▸ hset.keys)
      (List.append_nil _).symm row.settle).grows
    have hpresent := hset.present col hcol hauto
    rw [← row.records_opened] at hpresent
    simp [Column.isLeftOut, hauto, hgrows.fields v col.field hpresent]

/-- The row of an entity with everything set has the columns of an insertion, each once. -/
theorem OwnRow.map_fst_values_of_allSet :
    row.values.map (·.1) = e.insertedColumns.eraseDups := by
  rw [row.map_fst_values hdistinct honce hset.keys, hcounted.insertedColumns_eq]
  have hkept : (e.columns.filter fun col => !col.isLeftOut (row.before.records.get v col.field))
      = e.columns.filter fun col => !col.autoIncrement :=
    List.filter_congr fun col hcol =>
      congrArg (!·) (row.isLeftOut_eq hdistinct honce hcounted hset hcol)
  rw [hkept]

end

/-! ## What is explained -/

/-- The text that `explain` puts together for an insertion. -/
theorem explain_save {q : Method.Query} (hq : Method.Query.ofName? "save" = .ok q) (e : Entity) :
    explain e q = .ok ("INSERT INTO " ++ Text.identifier e.table ++ " ("
      ++ identifiers e.insertedColumns ++ ") VALUES (" ++ parameters e.insertedColumns.length
      ++ ")") := by
  have hquery : Method.Query.ofName? "save"
      = .ok (Method.Draft.toQuery { verb := .save } "save" none .asc) := by
    rfl
  cases hquery.symm.trans hq
  rfl

theorem insertText_of_ne_nil {table : String} {columns : List String} (h : columns ≠ []) :
    insertText table columns = "INSERT INTO " ++ Text.identifier table ++ " ("
      ++ identifiers columns ++ ") VALUES (" ++ parameters columns.length ++ ")" := by
  unfold insertText
  exact if_neg (by simpa using h)

/-- Without columns it is not that of an insertion. -/
theorem insertText_nil_ne (table : String) : "INSERT INTO " ++ Text.identifier table ++ " ("
    ++ identifiers [] ++ ") VALUES (" ++ parameters 0 ++ ")" ≠ insertText table [] := by
  have hplaces : parameters 0 = "" := by
    rfl
  have hnames : identifiers [] = "" := by
    rfl
  rw [hplaces, hnames, insertText, List.isEmpty_nil, if_pos rfl]
  simp only [String.append_assoc, ne_eq, String.append_right_inj]
  decide

/-- It is that of an insertion which names each column once if and only if it lists some columns,
and none of them twice. -/
theorem explain_save_eq_iff {q : Method.Query} (hq : Method.Query.ofName? "save" = .ok q)
    (e : Entity) :
    explain e q = .ok (Statement.insert e.table e.insertedColumns.eraseDups).text ↔
      e.insertedColumns.Nodup ∧ e.insertedColumns ≠ [] := by
  by_cases hempty : e.insertedColumns = []
  · refine iff_of_false (fun h => insertText_nil_ne e.table ?_) fun h => h.2 hempty
    rw [explain_save hq, hempty] at h
    exact Except.ok.inj h
  · have htext : explain e q = .ok (insertText e.table e.insertedColumns) := by
      rw [insertText_of_ne_nil hempty]
      exact explain_save hq e
    rw [htext]
    refine ⟨fun h => ⟨?_, hempty⟩, fun h => ?_⟩
    · have hnames : (Statement.insert e.table e.insertedColumns).names
          = (Statement.insert e.table e.insertedColumns.eraseDups).names :=
        congrArg (fun text : String => EntityMap.names text.toList) (Except.ok.inj h)
      rw [names_insert, names_insert] at hnames
      exact eraseDups_eq_self_iff.mp (List.cons.inj hnames).2.symm
    · rw [eraseDups_eq_self_iff.mpr h.1]
      rfl

/-- For every entity with everything set, none of whose joins is for a column that is counted up :
a saving that succeeds runs last the insertion of the columns that `explain` lists, each once, and
so does one that comes to the row and fails. The text is the one that `explain` shows if and only
if the columns are listed once, and there are any. -/
theorem explain_shows_insertion {ds : List ClassDeclaration} {constants : List (String × Value)}
    {className : String} {validating : Bool} {q : Method.Query} {r : Except Failure Value}
    {w w' : World δ} (hcatalogue : Catalogue.ofDeclarations ds constants = .ok x.catalogue)
    (hentity : x.catalogue.describe className = .ok e) (hcounted : e.CountsAlone)
    (honce : InsertedOnce x w e v) (hset : AllSet x w.records e v)
    (hq : Method.Query.ofName? "save" = .ok q) (h : save x validating e v w = (r, w')) :
    (∀ u, r = .ok u →
        ∃ before, w'.statements = before ++ [.insert e.table e.insertedColumns.eraseDups])
      ∧ (∀ row : OwnRow x validating e v w, ∃ ps,
        row.before.events ++ [.ran (.insert e.table e.insertedColumns.eraseDups) ps] <+: w'.events)
      ∧ (explain e q = .ok (Statement.insert e.table e.insertedColumns.eraseDups).text ↔
        e.insertedColumns.Nodup ∧ e.insertedColumns ≠ []) := by
  have hdistinct := (ofDeclarations_distinct hcatalogue).describe hentity
  refine ⟨?_, fun row => ?_, explain_save_eq_iff hq e⟩
  · rintro u rfl
    obtain ⟨row, i, hnode, -, hvalues, ⟨closing, hclosing, hquiet⟩, -⟩ := exists_insertion h
    refine ⟨i.before.statements, ?_⟩
    have hnames := row.map_fst_values_of_allSet hdistinct honce hcounted hset
    have hevent : i.event.statement? = some (.insert e.table e.insertedColumns.eraseDups) := by
      rw [Insertion.event, hnode, hvalues, hnames]
      rfl
    have hnothing : closing.filterMap (·.statement?) = [] := List.filterMap_eq_nil_iff.mpr hquiet
    simp [World.statements, hclosing, hevent, hnothing]
  · have hissued := row.issued h
    rw [OwnRow.event, row.map_fst_values_of_allSet hdistinct honce hcounted hset] at hissued
    exact ⟨_, hissued⟩

namespace Assembly

theorem allSet_newPart : AllSet library placedPart newPart.entity newPart.object where
  counted := by decide
  present := by decide
  keys j hj := by
    cases List.mem_singleton.mp (show j ∈ [lineJoin] from hj)
    exact ⟨rfl, keyColumn, sourceColumn_line, rfl⟩

theorem countsAlone_part : partEntity.CountsAlone := by
  unfold Entity.CountsAlone
  decide

end Assembly

open Assembly in
/-- A part that is put on a line is inserted with the number of the line, as it is explained. -/
theorem explain_shows_insertion_newPart :
    ∃ (q : Method.Query) (r : Value) (w' : World Script) (before : List Statement),
      Method.Query.ofName? "save" = .ok q
        ∧ save library true newPart.entity newPart.object { records := placedPart, database := {} }
          = (.ok r, w')
        ∧ w'.statements = before ++ [.insert "parts" ["line_id"]]
        ∧ explain newPart.entity q = .ok "INSERT INTO \"parts\" (\"line_id\") VALUES (?)" := by
  have hok : (save library true newPart.entity newPart.object
      ({ records := placedPart, database := {} } : World Script)).1.isOk = true := by
    decide +kernel
  obtain ⟨r, w', h⟩ := Op.exists_ok hok
  have hq : Method.Query.ofName? "save"
      = .ok (Method.Draft.toQuery { verb := .save } "save" none .asc) := by
    rfl
  obtain ⟨hlast, -, htext⟩ := explain_shows_insertion ofDeclarations_library describe_part
    countsAlone_part hierarchy_placedPart.insertedOnce allSet_newPart hq h
  obtain ⟨before, hbefore⟩ := hlast r rfl
  exact ⟨_, r, w', before, hq, h, hbefore, htext.mpr ⟨by decide, by decide⟩⟩

/-! ### A column that is listed twice -/

namespace Badges

def library : Library where
  catalogue := catalogue
  management := { location := .file, timeout := .int 10, foreignKeys := false }

/-- A new badge for a line and for the place there. -/
def newBadge : Records :=
  [⟨"Badge", [("id", .null), ("line", .entity 1), ("place", .entity 1)], false⟩,
   ⟨"Line", [("id", .int 3), ("name", .text "north")], false⟩]

/-- The column of a line that gives the key of both joins. -/
def idColumn : Column :=
  { field := "id", name := "id", type := .integer, nullable := false, primaryKey := true
    autoIncrement := true }

theorem allSet_newBadge : AllSet library newBadge badgeEntity (.entity 0) where
  counted := by decide
  present := by decide
  keys := by
    have hsource : ∀ j ∈ badgeEntity.joins, library.catalogue.sourceColumn j = .ok idColumn := by
      decide +kernel
    have hrelated : ∀ j ∈ badgeEntity.joins, newBadge.get (.entity 0) j.field = .entity 1 :=
      List.forall_mem_cons.mpr ⟨rfl, List.forall_mem_cons.mpr ⟨rfl, List.forall_mem_nil _⟩⟩
    refine fun j hj => ⟨by rw [hrelated j hj]; rfl, idColumn, hsource j hj, ?_⟩
    rw [hrelated j hj]
    rfl

/-- Both joins of a badge are for one column. It is explained twice, and inserted once. -/
theorem explain_repeats_column :
    ∃ q, Method.Query.ofName? "save" = .ok q
      ∧ catalogue.describe "Badge" = .ok badgeEntity
      ∧ catalogue.defineTable badgeEntity = .ok badgeTable
      ∧ AllSet library newBadge badgeEntity (.entity 0)
      ∧ (save library true badgeEntity (.entity 0)
          ({ records := newBadge, database := {} } : World Script)).1.isOk = true
      ∧ explain badgeEntity q
        = .ok "INSERT INTO \"badges\" (\"line_id\", \"line_id\") VALUES (?, ?)"
      ∧ (save library true badgeEntity (.entity 0)
          ({ records := newBadge, database := {} } : World Script)).2.statements.getLast?
        = some (.insert "badges" ["line_id"])
      ∧ (Statement.insert "badges" ["line_id"]).text
        = "INSERT INTO \"badges\" (\"line_id\") VALUES (?)" := by
  refine ⟨_, rfl, by decide +kernel, defineTable_badge, allSet_newBadge, by decide +kernel, by rfl,
    by decide +kernel, by rfl⟩

end Badges

end EntityMap
