import EntityMap.Proofs.Saving.ForeignKeys

/-!
# Stand-ins and their keys

Where a relation is absent and its join declares a default, saving puts a stand-in there and takes
over what the stand-in has in the source of the join (`standInKey`), even if the entity's own field
for the column has a key (`save_replaces_own_key`).
-/

namespace EntityMap

open Relation

variable {δ : Type} {x : Library} {rs : Records} {e : Entity} {v : Value} {j : Join} {key : Value}

/-! ## Keys of stand-ins -/

/-- What is stored for the source of the join in a stand-in. -/
def standInKey (x : Library) (j : Join) : Except Failure Value := do
  let stub ← placeholderRecord x j
  let source ← (x.catalogue.sourceColumn j).mapError DescribeError.toFailure
  stored ((stub.fields.lookup source.field).getD .null)

theorem standInKey_eq_ok : standInKey x j = .ok key ↔
    ∃ stub source, placeholderRecord x j = .ok stub ∧ x.catalogue.sourceColumn j = .ok source
      ∧ stored ((stub.fields.lookup source.field).getD .null) = .ok key := by
  simp only [standInKey, Except.bind_eq_ok, Except.mapError_eq_ok, exists_and_left]

theorem Records.get_of_record? {r : Record} (h : rs.record? v = some r) (field : String) :
    rs.get v field = (r.fields.lookup field).getD .null := by
  simp [get, h]

/-- A stand-in can be made only if the related class can be described. -/
theorem exists_related_of_placeholderRecord {stub : Record} (h : placeholderRecord x j = .ok stub) :
    ∃ related, x.catalogue.describeRelated j = .ok related := by
  obtain ⟨related, hrelated, -⟩ := Except.bind_eq_ok.mp h
  exact ⟨related, Except.mapError_eq_ok.mp hrelated⟩

/-- A stand-in is an empty entity of the related class, but for its key. -/
theorem standInKey_of_parts {related : Entity} {empty : Record} {keyColumn source : Column}
    {value : Value} (hrelated : x.catalogue.describeRelated j = .ok related)
    (hempty : Record.empty x.catalogue related.className = .ok empty)
    (hplaceholder : placeholderKey x related j = .ok keyColumn)
    (hvalue : parseDefault keyColumn.name keyColumn.type j.defaultText = .ok value)
    (hsource : x.catalogue.sourceColumn j = .ok source)
    (hstored : stored (((empty.set keyColumn.field value).fields.lookup source.field).getD .null)
      = .ok key) : standInKey x j = .ok key := by
  refine standInKey_eq_ok.mpr
    ⟨{ empty.set keyColumn.field value with isPlaceholder := true }, source, ?_, hsource, hstored⟩
  refine Except.bind_eq_ok.mpr ⟨related, Except.mapError_eq_ok.mpr hrelated, ?_⟩
  refine Except.bind_eq_ok.mpr ⟨keyColumn, Except.mapError_eq_ok.mpr hplaceholder, ?_⟩
  refine Except.bind_eq_ok.mpr ⟨empty, Except.mapError_eq_ok.mpr hempty, ?_⟩
  exact Except.bind_eq_ok.mpr ⟨value, Except.mapError_eq_ok.mpr hvalue, rfl⟩

/-- An absent relation with a default gets a stand-in. -/
theorem relatedOrPlaceholder_of_null {ref : Nat} {stub : Record} {w : World δ}
    (hnull : w.records.get (.entity ref) j.field = .null) (hdefault : j.hasDefault = true)
    (hstub : placeholderRecord x j = .ok stub) :
    relatedOrPlaceholder x (.entity ref) j w = (.ok (.entity w.records.length),
      { w with records :=
          (w.records ++ [stub]).set ref j.field (.entity w.records.length) }) := by
  rw [relatedOrPlaceholder, Op.records_bind, hnull, hdefault]
  refine Op.bind_eq_ok.mpr ⟨.entity w.records.length,
    { w with records := w.records ++ [stub] }, ?_, ?_⟩
  · exact Op.ofResult_bind_eq_ok.mpr ⟨stub, hstub, rfl⟩
  · exact Op.bind_eq_ok.mpr ⟨(), _, rfl, rfl⟩

/-- The record of a new stand-in. -/
theorem record?_standIn {ref : Nat} {stub : Record} {field : String} (hlt : ref < rs.length) :
    ((rs ++ [stub] : Records).set ref field (.entity rs.length)).record? (.entity rs.length)
      = some stub := by
  have hne : Value.entity rs.length ≠ .entity ref := by
    intro heq
    cases heq
    exact Nat.lt_irrefl _ hlt
  rw [Records.record?_set_of_ne hne, Records.record?_length]

/-- A key can always be taken over, in one of the three ways. -/
theorem exists_keyTaken (e : Entity) (j : Join) (key : Value) (keys : List (String × Value))
    (ref : Nat) (w : World δ) : ∃ keys' w', KeyTaken e j key keys ref w keys' w' := by
  cases hcol : e.columnNamed? j.target with
  | none => exact ⟨_, _, .named hcol⟩
  | some col =>
    cases hkey : key.isNull with
    | true => exact ⟨_, _, .absent hcol hkey⟩
    | false => exact ⟨_, _, .assigned hcol hkey⟩

/-- Taking over what is stored for the source. -/
theorem KeyTaken.settleKey_eq {ref : Nat} {related : Value} {source : Column}
    {keys keys' : List (String × Value)} {w w' : World δ} (h : KeyTaken e j key keys ref w keys' w')
    (hsource : x.catalogue.sourceColumn j = .ok source)
    (hkey : stored (w.records.get related source.field) = .ok key) :
    settleKey x e (.entity ref) keys j related w = (.ok keys', w') := by
  refine Op.describing_bind_eq_ok.mpr ⟨source, hsource, ?_⟩
  rw [Op.records_bind]
  refine Op.ofResult_bind_eq_ok.mpr ⟨key, hkey, ?_⟩
  cases h with
  | assigned column present =>
    rw [column, present]
    rfl
  | absent column absent =>
    rw [column, absent]
    rfl
  | named column =>
    rw [column]
    rfl

/-- A join is settled with a stand-in whose key can be stored. -/
theorem exists_settleJoin_standIn {insertRelated : Entity → Value → Op δ Int}
    {keys : List (String × Value)} {w : World δ} (hv : w.records.Has v)
    (hnull : w.records.get v j.field = .null) (hdefault : j.hasDefault = true)
    (hkey : standInKey x j = .ok key) :
    ∃ keys' w', settleJoin x insertRelated e v keys j w = (.ok keys', w') := by
  obtain ⟨ref, rfl, hlt⟩ := hv.entity
  obtain ⟨stub, source, hstub, hsource, hstored⟩ := standInKey_eq_ok.mp hkey
  obtain ⟨related, hrelated⟩ := exists_related_of_placeholderRecord hstub
  have hmade := relatedOrPlaceholder_of_null hnull hdefault hstub
  let w₁ : World δ :=
    { w with records := Records.set (w.records ++ [stub]) ref j.field (.entity w.records.length) }
  have hrecord : w₁.records.record? (.entity w.records.length) = some stub := record?_standIn hlt
  rw [← Records.get_of_record? hrecord] at hstored
  obtain ⟨keys', w', htaken⟩ := exists_keyTaken e j key keys ref w₁
  refine ⟨keys', w', ?_⟩
  rw [settleJoin_eq]
  refine Op.bind_eq_ok.mpr ⟨_, _, hmade, ?_⟩
  refine Op.describing_bind_eq_ok.mpr ⟨related, hrelated, ?_⟩
  rw [Op.records_bind, isPlaceholder_standIn hstub]
  exact htaken.settleKey_eq hsource hstored

/-! ## Calls with stand-ins -/

variable [Database δ]

section

variable {c : Call δ} {keys : List (String × Value)} {w : World δ} (honce : c.Once x)
  (hhas : c.world.records.Has c.node.object) (hdistinct : c.node.entity.Distinct)
  (hj : j ∈ c.node.entity.joins) (hnull : c.world.records.get c.node.object j.field = .null)
  (hdefault : j.hasDefault = true)
  (hrun : c.settle x c.node.entity.joins [] c.world = (.ok keys, w))
include honce hhas hdistinct hj hnull hdefault hrun

/-- A join that has a default and no related entity comes to a stand-in. -/
theorem Call.Once.settles_standIn : ∃ m w₁ stub, c.Settles x j m w₁
    ∧ placeholderRecord x j = .ok stub ∧ w₁.records.record? m.object = some stub := by
  obtain ⟨before, after, hjoins⟩ := List.append_of_mem hj
  obtain ⟨keys₀, w₀, keys₁, w₁, hbefore, hfirst, -⟩ := Call.exists_settleJoin (hjoins ▸ hrun)
  obtain ⟨hw₀, hget⟩ := honce.get_join hhas hdistinct hjoins hbefore
  obtain ⟨ref, hobject, hlt⟩ := hw₀.entity
  obtain ⟨related, w₂, hmade, hends⟩ := Call.settleJoin_cases hobject hjoins hbefore hfirst
  rcases relatedOrPlaceholder_eq_ok hmade with
    ⟨rfl, -, habsent⟩ | ⟨-, -, rfl, ref', stub, hobject', hstub, rfl⟩
  · rw [hget, hnull] at habsent
    exact absurd (hdefault.symm.trans (habsent rfl)) (by decide)
  · cases hobject.symm.trans hobject'
    rcases hends with ⟨hnone, -⟩ | ⟨m, -, -, -, hm, hsettles, -⟩
    · cases hnone
    · refine ⟨m, _, stub, hsettles, hstub, ?_⟩
      rw [hm]
      exact record?_standIn hlt

/-- What is delivered for it is the key of the stand-in. -/
theorem Call.Once.delivers_standIn (halone : FillsAlone c.world.records c.node j) :
    ∃ key, standInKey x j = .ok key ∧ c.Delivered j key keys w := by
  obtain ⟨m, w₁, stub, hsettles, hstub, hrecord⟩ :=
    honce.settles_standIn hhas hdistinct hj hnull hdefault hrun
  obtain ⟨w₂, source, key, hready, hsource, hkey, hdelivered⟩ :=
    hsettles.delivered honce hhas hdistinct hrun halone
  have hstandIn : w₁.records.isPlaceholder m.object = true := by
    rw [Records.isPlaceholder, hrecord]
    exact placeholderRecord_eq_ok hstub
  cases hready with
  | inserted unsaved _ => exact absurd (hstandIn.symm.trans unsaved.1) (by decide)
  | present _ =>
    rw [Records.get_of_record? hrecord] at hkey
    exact ⟨key, standInKey_eq_ok.mpr ⟨stub, source, hstub, hsource, hkey⟩, hdelivered⟩

end

namespace OwnRow

variable {validating : Bool} {w : World δ} (row : OwnRow x validating e v w)

/-- The row is that of the call which the saving makes for the entity itself. -/
theorem settle : (rootCall e v row.opened).settle x e.joins [] row.opened
    = (.ok row.keys, row.before) := by
  rw [Call.settle, rootCall, row.records_opened]
  exact row.run

theorem has : row.opened.records.Has v := by
  rw [row.records_opened]
  exact has_of_checkSavable row.savable

/-- What the field of a column holds in the end, if the relation of the one join that fills it is
absent : what it held, or else the key of a stand-in. -/
theorem field_of_null (hdistinct : e.Distinct) (honce : InsertedOnce x w e v) (hj : j ∈ e.joins)
    (halone : FillsAlone w.records ⟨e, v⟩ j) (hnull : w.records.get v j.field = .null)
    {col : Column} (hcol : e.columnNamed? j.target = some col) :
    ∃ key, (if j.hasDefault then standInKey x j = .ok key else key = .null)
      ∧ row.before.records.get v col.field =
        if key.isNull then w.records.get v col.field else key := by
  have honce := honce row.opened row.records_opened
  have hrecords := row.records_opened
  by_cases hdefault : j.hasDefault = true
  · obtain ⟨key, hkey, hdelivered⟩ := honce.delivers_standIn row.has hdistinct hj
      (hrecords ▸ hnull) hdefault row.settle (hrecords ▸ halone)
    refine ⟨key, by rwa [if_pos hdefault], ?_⟩
    rw [← hrecords]
    exact hdelivered.field col hcol
  · have hidle : ∀ j' ∈ e.joins, j'.target = j.target → Idle row.opened.records ⟨e, v⟩ j' := by
      intro j' hj' htarget
      rw [hrecords]
      rcases halone j' hj' htarget with rfl | hidle
      · exact ⟨hnull, Bool.of_not_eq_true hdefault⟩
      · exact hidle
    refine ⟨.null, by rw [if_neg hdefault], ?_⟩
    rw [if_pos (show Value.null.isNull = true from rfl), ← hrecords]
    exact (honce.spares row.has hdistinct row.settle hidle).field col hcol

end OwnRow

/-- Writing the number of a row leaves the fields of columns that are not counted up. -/
theorem Insertion.Leaves.get_eq {i : Insertion δ} (h : i.Leaves rs)
    (hdistinct : i.node.entity.Distinct) {col : Column} (hcol : col ∈ i.node.entity.columns)
    (hcounted : col.autoIncrement = false) :
    rs.get i.object col.field = i.before.records.get i.object col.field := by
  cases h with
  | @numbered key ref counted entity =>
    rcases Records.get_set_or i.before.records ref key.field (.int i.reply.rowId) i.object
      col.field with hsame | ⟨-, hfield, -⟩
    · exact hsame
    · cases hdistinct.column_eq hcol (Entity.mem_of_countedKey? counted) hfield
      obtain ⟨-, hauto⟩ := Option.filter_eq_some_iff.mp counted
      exact absurd (hcounted.symm.trans hauto) (by decide)
  | unchanged _ => rfl

/-! ## Keys of the entity's own -/

/-- If the relation of a join is absent and the entity's own field for the column has a key, then
the row of the entity has this key, unless the join declares a default and the key of the stand-in
is not absent : then this is put in the field as well. -/
theorem save_replaces_own_key {ds : List ClassDeclaration} {constants : List (String × Value)}
    {className : String} {validating : Bool} {r b : Value} {w w' : World δ} {col : Column}
    (hcatalogue : Catalogue.ofDeclarations ds constants = .ok x.catalogue)
    (hentity : x.catalogue.describe className = .ok e) (honce : InsertedOnce x w e v)
    (hj : j ∈ e.joins) (halone : FillsAlone w.records ⟨e, v⟩ j)
    (hcol : e.columnNamed? j.target = some col)
    (hsingle : ∀ col' ∈ e.columns, col'.name = j.target → col' = col)
    (hcounted : col.autoIncrement = false) (hnull : w.records.get v j.field = .null)
    (hown : stored (w.records.get v col.field) = .ok b) (hpresent : b.isNull = false)
    (h : save x validating e v w = (.ok r, w')) :
    ∃ (i : Insertion δ) (key : Value), i.node = ⟨e, v⟩ ∧ i.event ∈ w'.events
      ∧ (if j.hasDefault then standInKey x j = .ok key else key = .null)
      ∧ i.values.lookup j.target = some (if key.isNull then b else key)
      ∧ w'.records.get v col.field = if key.isNull then w.records.get v col.field else key := by
  have hdistinct := (ofDeclarations_distinct hcatalogue).describe hentity
  obtain ⟨row, i, hnode, hbefore, hvalues, ⟨closing, hclosing, -⟩, hleaves⟩ := exists_insertion h
  obtain ⟨key, hkey, hfield⟩ := row.field_of_null hdistinct honce hj halone hnull hcol
  obtain ⟨hmem, hname⟩ := Entity.mem_of_columnNamed? hcol
  have hstandIn : stored key = .ok key := by
    split at hkey
    · obtain ⟨_, _, _, _, hstored⟩ := standInKey_eq_ok.mp hkey
      exact stored_of_stored hstored
    · rw [hkey]
      rfl
  refine ⟨i, key, hnode, by simp [hclosing], hkey, ?_, ?_⟩
  · have hstored : stored (row.before.records.get v col.field)
        = .ok (if key.isNull then b else key) := by
      rw [hfield]
      split
      · exact hown
      · exact hstandIn
    have hkept : col.isLeftOut (row.before.records.get v col.field) = false := by
      have hnotNull := isNull_of_stored hstored
      rw [Column.isLeftOut, hcounted, Bool.false_and, Bool.or_false, ← hnotNull]
      cases hkeyNull : key.isNull <;> simp [hkeyNull, hpresent]
    rw [hvalues, ← hname]
    exact lookup_row_of_field row.own_eq (row.settled.nodup_keys List.nodup_nil) hmem
      (fun col' hcol' hname' hne => absurd (hsingle col' hcol' (hname'.trans hname)) hne) hkept
      hstored
  · have hleft := hleaves.get_eq (hnode ▸ hdistinct) (hnode ▸ hmem) hcounted
    rw [Insertion.object, hnode] at hleft
    rw [← hfield, ← hbefore]
    exact hleft

namespace Assembly

/-- A new part with a number in its field that is on no line. -/
def partNumbered (number : Value) : Records :=
  [⟨"Part", [("id", .null), ("line_id", number), ("line", .null)], false⟩]

theorem insertedOnce_newPart (number : Value) :
    InsertedOnce library ({ records := partNumbered number, database := {} } : World Script)
      newPart.entity newPart.object := by
  have hdistinct : newPart.entity.Distinct :=
    (ofDeclarations_distinct ofDeclarations_library).describe describe_part
  have hroot : (partNumbered number).Has newPart.object := by
    rfl
  refine (Hierarchy.of_not_holds hdistinct hroot ?_).insertedOnce
  rintro m ⟨j, hj, hheld, hpresent, -⟩
  cases List.mem_singleton.mp (show j ∈ [lineJoin] from hj)
  rw [← hheld] at hpresent
  cases hpresent

theorem fillsAlone_newPart (rs : Records) : FillsAlone rs newPart lineJoin :=
  keysApart_part.fillsAlone (List.mem_singleton_self _) rs

theorem standInKey_line : standInKey library lineJoin = .ok (.int 1) := by
  with_unfolding_all rfl

end Assembly

open Assembly in
/-- A part that has the number of another line is put on the line by default. -/
theorem save_replaces_own_key_newPart :
    ∃ (r : Value) (w' : World Script) (i : Insertion Script),
      save library true newPart.entity newPart.object
          { records := partNumbered (.int 9), database := {} } = (.ok r, w')
        ∧ i.event ∈ w'.events ∧ i.values.lookup "line_id" = some (.int 1)
        ∧ w'.records.get newPart.object "line_id" = .int 1 := by
  have hok : (save library true newPart.entity newPart.object
      ({ records := partNumbered (.int 9), database := {} } : World Script)).1.isOk = true := by
    decide +kernel
  obtain ⟨r, w', h⟩ := Op.exists_ok hok
  obtain ⟨i, key, -, hevent, hkey, hvalue, hfield⟩ := save_replaces_own_key ofDeclarations_library
    describe_part (insertedOnce_newPart (.int 9)) (List.mem_singleton_self lineJoin)
    (fillsAlone_newPart _) (show _ = some lineIdColumn from rfl) (by decide) rfl rfl
    (show stored (.int 9) = .ok _ from rfl) rfl h
  cases standInKey_line.symm.trans hkey
  exact ⟨r, w', i, h, hevent, hvalue, hfield⟩

/-- What an insertion has bound, as it is shown. -/
def Event.shownRow? : Event → Option (List (String × String))
  | .ran (.insert _ columns) ps => some (columns.zip (ps.map (·.literal fun _ => "...")))
  | _ => none

open Assembly in
/-- The part has number 9 in its field, and its row gets number 1. -/
theorem save_overwrites_line_number :
    (partNumbered (.int 9)).get newPart.object "line_id" = .int 9
      ∧ (partNumbered (.int 9)).get newPart.object "line" = .null
      ∧ (save library true newPart.entity newPart.object
          ({ records := partNumbered (.int 9), database := {} } : World Script)).1.isOk = true
      ∧ (save library true newPart.entity newPart.object
          ({ records := partNumbered (.int 9), database := {} } : World Script)).2.events.filterMap
            Event.shownRow? = [[("line_id", "1")]]
      ∧ (save library true newPart.entity newPart.object
          ({ records := partNumbered (.int 9), database := {} } : World Script)).2.records.get
            newPart.object "line_id" = .int 1 := by
  refine ⟨rfl, rfl, by decide +kernel, by decide +kernel, by with_unfolding_all rfl⟩

end EntityMap
