import Mathlib.Data.List.Nodup
import EntityMap.Engine.Engine
import EntityMap.Proofs.Result

/-!
# The rows that a statement addresses

A statement with a condition is about the rows that `Engine.selected` gives : a selection returns
them, a count counts them, a deletion leaves the others (`execute_delete`) and an update changes
them and leaves the others as they are (`execute_update`).

An update changes one row after the other, and finds each by its number. So it needs a table whose
rows are in the order of their numbers, no two alike (`StoredTable.Numbered`). Every statement keeps
tables so (`numbered_execute`), so every database has such tables only (`Reached.numbered`).
-/

namespace EntityMap.Engine

/-! ## Rows in the order of their numbers -/

/-- The rows are in the order of their numbers, which are different. -/
def StoredTable.Numbered (t : StoredTable) : Prop := t.rows.Pairwise (·.id < ·.id)

theorem perm_place (r : StoredRow) (rows : List StoredRow) :
    (StoredTable.place r rows).Perm (r :: rows) := by
  have h : (rows.takeWhile (·.id < r.id) ++ r :: rows.dropWhile (·.id < r.id)).Perm
      (r :: (rows.takeWhile (·.id < r.id) ++ rows.dropWhile (·.id < r.id))) := List.perm_middle
  rwa [List.takeWhile_append_dropWhile] at h

/-- A row whose number is new is put in order. -/
theorem pairwise_place {r : StoredRow} {rows : List StoredRow}
    (hrows : rows.Pairwise (·.id < ·.id)) (hr : ∀ s ∈ rows, s.id ≠ r.id) :
    (StoredTable.place r rows).Pairwise (·.id < ·.id) := by
  induction hrows with
  | nil => exact List.pairwise_singleton _ _
  | @cons s rows hs hrows ih =>
    by_cases hlt : s.id < r.id
    · have hplace : StoredTable.place r (s :: rows) = s :: StoredTable.place r rows := by
        simp [StoredTable.place, hlt]
      rw [hplace]
      refine .cons (fun u hu => ?_) (ih fun u hu => hr u (List.mem_cons_of_mem _ hu))
      rcases List.mem_cons.mp ((perm_place r rows).mem_iff.mp hu) with rfl | hu
      · exact hlt
      · exact hs u hu
    · have hplace : StoredTable.place r (s :: rows) = r :: s :: rows := by
        simp [StoredTable.place, hlt]
      have hrs : r.id < s.id := by
        have hne := hr s List.mem_cons_self
        omega
      rw [hplace]
      refine .cons (fun u hu => ?_) (.cons hs hrows)
      rcases List.mem_cons.mp hu with rfl | hu
      · exact hrs
      · exact Int.lt_trans hrs (hs u hu)

/-- A row that passes the check has a number of its own. -/
theorem id_ne_of_check {t : StoredTable} {others : List StoredRow} {r : StoredRow}
    (h : t.check others r = .ok ()) : ∀ s ∈ others, s.id ≠ r.id := by
  unfold StoredTable.check at h
  split at h
  · cases h
  split at h
  · cases h
  · next hids => simpa using hids

/-- Rows with one number are one row. -/
theorem StoredTable.Numbered.eq_of_id_eq {t : StoredTable} (h : t.Numbered) {r s : StoredRow}
    (hr : r ∈ t.rows) (hs : s ∈ t.rows) (hid : r.id = s.id) : r = s := by
  have hids : (t.rows.map (·.id)).Nodup := List.pairwise_map.mpr (h.imp Int.ne_of_lt)
  exact List.inj_on_of_nodup_map hids hr hs hid

/-! ## Inserting and changing -/

theorem StoredTable.insert_eq_ok {t t' : StoredTable} {cells : List Cell} {id : Int}
    (h : t.insert cells = .ok (id, t')) :
    t'.definition = t.definition ∧ (t.Numbered → t'.Numbered) := by
  obtain ⟨id', -, h⟩ := Except.bind_eq_ok.mp h
  obtain ⟨_, hcheck, h⟩ := Except.bind_eq_ok.mp h
  cases h
  exact ⟨rfl, fun ht => pairwise_place ht (id_ne_of_check hcheck)⟩

/-- A row with some of its cells set. -/
def StoredTable.changed (t : StoredTable) (settings : List (Nat × Cell)) (r : StoredRow) :
    StoredRow :=
  let cells := t.setCells settings r.cells
  t.rowOf ((t.changedId cells r.id).toOption.getD r.id) cells

/-- What is changed depends on the columns only. -/
theorem StoredTable.changed_congr {t u : StoredTable} (h : t.definition = u.definition) :
    t.changed = u.changed := by
  unfold changed changedId rowOf setCells rowKey? columns
  rw [h]

theorem StoredTable.replace_eq_ok {t t' : StoredTable} {settings : List (Nat × Cell)}
    {r : StoredRow} (h : t.replace r (t.setCells settings r.cells) = .ok t') :
    t'.definition = t.definition
      ∧ t'.rows.Perm (t.changed settings r :: t.rows.filter (·.id != r.id))
      ∧ (∀ s ∈ t.rows.filter (·.id != r.id), s.id ≠ (t.changed settings r).id)
      ∧ (t.Numbered → t'.Numbered) := by
  obtain ⟨id, hid, h⟩ := Except.bind_eq_ok.mp h
  obtain ⟨_, hcheck, h⟩ := Except.bind_eq_ok.mp h
  cases h
  have hchanged : t.changed settings r = t.rowOf id (t.setCells settings r.cells) := by
    rw [changed, hid]
    rfl
  rw [hchanged]
  have hids := id_ne_of_check hcheck
  exact ⟨rfl, perm_place _ _, hids, fun ht => pairwise_place (ht.filter _) hids⟩

/-- After a row is replaced, the rows that are none of `rows` are the new row and those that were
neither the old row nor of `rows` before. -/
theorem StoredTable.Numbered.perm_filter_notMem {t u : StoredTable} {r s : StoredRow}
    {rows : List StoredRow} (h : t.Numbered) (hr : r ∈ t.rows) (hs : s ∉ rows)
    (hperm : u.rows.Perm (s :: t.rows.filter (·.id != r.id))) :
    (u.rows.filter (· ∉ rows)).Perm (s :: t.rows.filter (· ∉ r :: rows)) := by
  have hrest : (t.rows.filter (·.id != r.id)).filter (· ∉ rows) =
      t.rows.filter (· ∉ r :: rows) := by
    rw [List.filter_filter]
    refine List.filter_congr fun q hq => ?_
    have hid : q.id = r.id ↔ q = r := ⟨fun heq => h.eq_of_id_eq hq hr heq, fun heq => heq ▸ rfl⟩
    rw [Bool.eq_iff_iff]
    simp [hid, and_comm]
  have hfilter := hperm.filter (· ∉ rows)
  rwa [List.filter_cons_of_pos (by simpa using hs), hrest] at hfilter

/-- After rows are changed one after the other, the table has the other rows as they were and the
rows as they are changed. -/
theorem perm_of_replaceAll {settings : List (Nat × Cell)} {rows : List StoredRow}
    {t t' : StoredTable} (ht : t.Numbered) (hmem : ∀ r ∈ rows, r ∈ t.rows)
    (hids : rows.Pairwise (·.id ≠ ·.id))
    (h : rows.foldlM (fun u r => u.replace r (u.setCells settings r.cells)) t = .ok t') :
    t'.definition = t.definition ∧ t'.Numbered
      ∧ t'.rows.Perm (t.rows.filter (· ∉ rows) ++ rows.map (t.changed settings)) := by
  induction rows generalizing t with
  | nil =>
    cases h
    exact ⟨rfl, ht, by simp⟩
  | cons r rows ih =>
    rw [List.foldlM_cons] at h
    obtain ⟨u, hu, h⟩ := Except.bind_eq_ok.mp h
    obtain ⟨hdefinition, hperm, hnew, hnumbered⟩ := StoredTable.replace_eq_ok hu
    obtain ⟨hr, hrows⟩ := List.pairwise_cons.mp hids
    obtain ⟨hrt, hrowst⟩ := List.forall_mem_cons.mp hmem
    have hothers : ∀ s ∈ rows, s ∈ t.rows.filter (·.id != r.id) := fun s hs =>
      List.mem_filter.mpr ⟨hrowst s hs, by simpa using (hr s hs).symm⟩
    have hmem' : ∀ s ∈ rows, s ∈ u.rows := fun s hs =>
      hperm.mem_iff.mpr (List.mem_cons_of_mem _ (hothers s hs))
    obtain ⟨hdefinition', hnumbered', hperm'⟩ := ih (hnumbered ht) hmem' hrows h
    refine ⟨hdefinition'.trans hdefinition, hnumbered', hperm'.trans ?_⟩
    rw [StoredTable.changed_congr hdefinition, List.map_cons]
    -- The changed row is none of those that are still to be changed.
    have hchanged : t.changed settings r ∉ rows := fun hin => hnew _ (hothers _ hin) rfl
    have hkept := ht.perm_filter_notMem hrt hchanged hperm
    exact (hkept.append_right _).trans List.perm_middle.symm

/-! ## Tables in their place -/

theorem refuse_eq_ok {α : Type} {r : Except EngineError α} {a : α} :
    refuse r = .ok a ↔ r = .ok a :=
  Except.mapError_eq_ok

theorem mem_of_findTable {d : Contents} {name : String} {t : StoredTable}
    (h : findTable d name = .ok t) : t ∈ d := by
  unfold findTable at h
  split at h
  · next htable =>
    cases h
    exact List.mem_of_find?_eq_some htable
  · cases h

theorem settled_eq_ok {enforcing : Bool} {d d' : Contents} (h : settled enforcing d = .ok d') :
    d' = d := by
  unfold settled at h
  split at h
  · cases h
  · exact (Except.ok.inj h).symm

/-- The tables of a database have their rows in order. -/
def NumberedTables (d : Contents) : Prop := ∀ t ∈ d, t.Numbered

theorem NumberedTables.putTable {d : Contents} {t : StoredTable} (hd : NumberedTables d)
    (ht : t.Numbered) : NumberedTables (putTable d t) := by
  intro u hu
  obtain ⟨v, hv, rfl⟩ := List.mem_map.mp hu
  split
  · exact ht
  · exact hd v hv

/-! ## Parameters -/

/-- The cell of a parameter is the same wherever it stands. -/
def Binds (rs : Records) (v : Value) (c : Cell) : Prop :=
  ∀ position, bindParameter rs position v = .ok c

theorem binds_iff {rs : Records} {position : Nat} {v : Value} {c : Cell} :
    bindParameter rs position v = .ok c ↔ Binds rs v c := by
  refine ⟨fun h position' => ?_, fun h => h position⟩
  unfold bindParameter at h ⊢
  split at h <;> first | exact h | cases h

theorem bindParameters_eq_ok {rs : Records} {used : Nat} {vs : List Value} {cells : List Cell} :
    bindParameters rs used vs = .ok cells ↔
      vs.length = used ∧ List.Forall₂ (Binds rs) vs cells := by
  have hvs : vs.zipIdx.map Prod.fst = vs := List.zipIdx_map_fst 0 vs
  unfold bindParameters
  split
  · next hlength =>
    rw [mapM_eq_ok]
    simp only [binds_iff]
    rw [← List.forall₂_map_left_iff (R := Binds rs) (f := Prod.fst), hvs]
    simp [hlength]
  · next hlength => simp [hlength, refuse, Except.mapError]

/-! ## Statements with a condition -/

section

variable {rs : Records} {enforcing : Bool} {d d' : Contents} {table : String} {f : Filter}
  {ps : List Value} {reply : Reply}

theorem execute_select_eq_ok {s : Selection} :
    execute rs enforcing d (.select table s) ps = .ok (reply, d') ↔
      ∃ t rows, selected rs d table s ps = .ok (t, rows) ∧ reply = rowsReply t rows ∧ d' = d := by
  constructor
  · intro h
    obtain ⟨⟨t, rows⟩, hrows, h⟩ := Except.bind_eq_ok.mp h
    cases h
    exact ⟨t, rows, hrows, rfl, rfl⟩
  · rintro ⟨t, rows, hrows, rfl, rfl⟩
    exact Except.bind_eq_ok.mpr ⟨(t, rows), hrows, rfl⟩

theorem execute_count_eq_ok {s : Selection} :
    execute rs enforcing d (.count table s) ps = .ok (reply, d') ↔
      ∃ t rows, selected rs d table s ps = .ok (t, rows)
        ∧ reply = { columns := ["COUNT(*)"], rows := [[.int rows.length]] } ∧ d' = d := by
  constructor
  · intro h
    obtain ⟨⟨t, rows⟩, hrows, h⟩ := Except.bind_eq_ok.mp h
    cases h
    exact ⟨t, rows, hrows, rfl, rfl⟩
  · rintro ⟨t, rows, hrows, rfl, rfl⟩
    exact Except.bind_eq_ok.mpr ⟨(t, rows), hrows, rfl⟩

/-- Without an order the rows of a selection are those of its condition. -/
theorem selected_eq_ok {t : StoredTable} {rows : List StoredRow} :
    selected rs d table ⟨f, none⟩ ps = .ok (t, rows) ↔ findTable d table = .ok t
      ∧ ∃ cells, bindParameters rs f.columns.length ps = .ok cells ∧ matching t f cells = rows := by
  constructor
  · intro h
    obtain ⟨t', ht, h⟩ := Except.bind_eq_ok.mp h
    obtain ⟨cells, hcells, h⟩ := Except.bind_eq_ok.mp h
    cases h
    exact ⟨refuse_eq_ok.mp ht, cells, hcells, rfl⟩
  · rintro ⟨ht, cells, hcells, rfl⟩
    exact Except.bind_eq_ok.mpr ⟨t, refuse_eq_ok.mpr ht, Except.bind_eq_ok.mpr ⟨cells, hcells, rfl⟩⟩

/-- The rows that are kept are those that are not of the condition. -/
theorem filter_not_satisfies (t : StoredTable) (f : Filter) (cells : List Cell) :
    t.rows.filter (fun r => !satisfies t f cells r) =
      t.rows.filter (· ∉ matching t f cells) := by
  refine List.filter_congr fun r hr => ?_
  rw [Bool.eq_iff_iff]
  simp [matching, hr]

/-- A deletion takes the rows of its condition away and leaves the others. -/
theorem execute_delete
    (h : execute rs enforcing d (.delete table (.filter f)) ps = .ok (reply, d')) :
    ∃ t rows, selected rs d table ⟨f, none⟩ ps = .ok (t, rows) ∧ reply.changed = rows.length
      ∧ d' = putTable d { t with rows := t.rows.filter (· ∉ rows) } := by
  obtain ⟨f', hf, h⟩ := Except.bind_eq_ok.mp h
  obtain rfl := Except.ok.inj (refuse_eq_ok.mp hf)
  obtain ⟨⟨n, d₁⟩, hrun, h⟩ := Except.bind_eq_ok.mp h
  cases h
  unfold runDelete at hrun
  obtain ⟨t, ht, hrun⟩ := Except.bind_eq_ok.mp hrun
  have hrun : (bindParameters rs f.columns.length ps >>= fun cells => do
      let rows := matching t f cells
      let kept := t.rows.filter fun r => !satisfies t f cells r
      return (rows.length, ← refuse (settled enforcing (putTable d { t with rows := kept })))) =
        .ok (n, d') := by
    dsimp only at hrun
    split at hrun
    · obtain ⟨_, -, hrun⟩ := Except.bind_eq_ok.mp hrun
      obtain ⟨_, -, hrun⟩ := Except.bind_eq_ok.mp hrun
      exact hrun
    · exact hrun
  obtain ⟨cells, hcells, hrun⟩ := Except.bind_eq_ok.mp hrun
  obtain ⟨d₂, hsettled, hrun⟩ := Except.bind_eq_ok.mp hrun
  cases hrun
  obtain rfl := settled_eq_ok (refuse_eq_ok.mp hsettled)
  refine ⟨t, _, selected_eq_ok.mpr ⟨refuse_eq_ok.mp ht, cells, hcells, rfl⟩, rfl, ?_⟩
  rw [filter_not_satisfies]

/-- An update changes the rows of its condition and leaves the others. -/
theorem runUpdate_eq_ok {columns : List String} {parameters : List Value} {n : Nat}
    (hd : NumberedTables d)
    (h : runUpdate rs enforcing d table columns f parameters = .ok (n, d')) :
    ∃ t places cells t', findTable d table = .ok t ∧ updatedPlaces t columns = .ok places
      ∧ bindParameters rs (columns.length + f.columns.length) parameters = .ok cells
      ∧ n = (matching t f (cells.drop columns.length)).length ∧ d' = putTable d t'
      ∧ t'.definition = t.definition ∧ t'.Numbered
      ∧ t'.rows.Perm (t.rows.filter (· ∉ matching t f (cells.drop columns.length))
        ++ (matching t f (cells.drop columns.length)).map (t.changed (places.zip cells))) := by
  unfold runUpdate at h
  obtain ⟨t, ht, h⟩ := Except.bind_eq_ok.mp h
  obtain ⟨places, hplaces, h⟩ := Except.bind_eq_ok.mp h
  have h : (bindParameters rs (columns.length + f.columns.length) parameters >>= fun cells => do
      let rows := matching t f (cells.drop columns.length)
      let t ← refuse (rows.foldlM (fun u r =>
        u.replace r (u.setCells (places.zip cells) r.cells)) t)
      return (rows.length, ← refuse (settled enforcing (putTable d t)))) = .ok (n, d') := by
    dsimp only at h
    split at h
    · obtain ⟨_, -, h⟩ := Except.bind_eq_ok.mp h
      obtain ⟨_, -, h⟩ := Except.bind_eq_ok.mp h
      exact h
    · exact h
  obtain ⟨cells, hcells, h⟩ := Except.bind_eq_ok.mp h
  obtain ⟨t', hchanged, h⟩ := Except.bind_eq_ok.mp h
  obtain ⟨d₁, hsettled, h⟩ := Except.bind_eq_ok.mp h
  cases h
  have htable := hd t (mem_of_findTable (refuse_eq_ok.mp ht))
  exact ⟨t, places, cells, t', refuse_eq_ok.mp ht, refuse_eq_ok.mp hplaces, hcells, rfl,
    settled_eq_ok (refuse_eq_ok.mp hsettled), perm_of_replaceAll htable
      (fun r hr => List.mem_of_mem_filter hr) ((htable.filter _).imp Int.ne_of_lt)
      (refuse_eq_ok.mp hchanged)⟩

theorem places_of_updatedPlaces {t : StoredTable} {columns : List String} {places : List Nat}
    (h : updatedPlaces t columns = .ok places) :
    List.Forall₂ (fun column place => t.columnIndex? column = some place) columns places := by
  refine (mapM_eq_ok.mp h).imp fun column place hplace => ?_
  split at hplace
  · next heq => rw [heq, Except.ok.inj hplace]
  · cases hplace

/-- The settings put the cells of values in the places of columns. -/
structure Changes (rs : Records) (t : StoredTable) (columns : List String) (values : List Value)
    (settings : List (Nat × Cell)) : Prop where
  columns : List.Forall₂ (fun column s => t.columnIndex? column = some s.1) columns settings
  values : List.Forall₂ (fun v s => Binds rs v s.2) values settings

/-- Places of columns and the cells of their values, which come first. -/
theorem Changes.of_places {t : StoredTable} {columns : List String} {places : List Nat}
    {values : List Value} {cells : List Cell}
    (hplaces : List.Forall₂ (fun column place => t.columnIndex? column = some place) columns places)
    (hvalues : List.Forall₂ (Binds rs) values (cells.take columns.length))
    (hlength : columns.length ≤ cells.length) :
    Changes rs t columns values (places.zip cells) := by
  rw [hplaces.length_eq] at hvalues hlength
  have hzip : (places.zip cells).map Prod.snd = cells.take places.length := by
    rw [List.zip_eq_zip_take_min, Nat.min_eq_left hlength, List.take_length,
      List.map_snd_zip (List.length_take_le _ _)]
  constructor
  · rwa [← List.map_fst_zip hlength, List.forall₂_map_right_iff] at hplaces
  · rwa [← hzip, List.forall₂_map_right_iff] at hvalues

/-- An update changes the rows of its condition, in the columns that it sets, and leaves the
others. -/
theorem execute_update {columns : List String} {values : List Value} (hd : NumberedTables d)
    (hlength : values.length = columns.length)
    (h : execute rs enforcing d (.update table columns (.filter f)) (values ++ ps) =
      .ok (reply, d')) :
    ∃ t rows settings t', selected rs d table ⟨f, none⟩ ps = .ok (t, rows)
      ∧ Changes rs t columns values settings ∧ reply.changed = rows.length
      ∧ d' = putTable d t' ∧ t'.definition = t.definition
      ∧ t'.rows.Perm (t.rows.filter (· ∉ rows) ++ rows.map (t.changed settings)) := by
  obtain ⟨f', hf, h⟩ := Except.bind_eq_ok.mp h
  obtain rfl := Except.ok.inj (refuse_eq_ok.mp hf)
  split at h
  · cases h
  obtain ⟨⟨n, d₁⟩, hrun, h⟩ := Except.bind_eq_ok.mp h
  cases h
  obtain ⟨t, places, cells, t', ht, hplaces, hcells, rfl, rfl, hdefinition, -, hperm⟩ :=
    runUpdate_eq_ok hd hrun
  obtain ⟨-, hbound⟩ := bindParameters_eq_ok.mp hcells
  have hplacesAt := places_of_updatedPlaces hplaces
  have hwritten := List.forall₂_take values.length hbound
  have hcompared := List.forall₂_drop values.length hbound
  rw [List.take_left, hlength] at hwritten
  rw [List.drop_left, hlength] at hcompared
  have hselected : bindParameters rs f.columns.length ps = .ok (cells.drop columns.length) := by
    refine bindParameters_eq_ok.mpr ⟨?_, hcompared⟩
    have hcount := (bindParameters_eq_ok.mp hcells).1
    rw [List.length_append, hlength] at hcount
    omega
  have hcellsCount : columns.length ≤ cells.length := by
    rw [← hbound.length_eq, List.length_append, hlength]
    omega
  exact ⟨t, _, places.zip cells, t', selected_eq_ok.mpr ⟨ht, _, hselected, rfl⟩,
    .of_places hplacesAt hwritten hcellsCount, rfl, rfl, hdefinition, hperm⟩

end

/-! ## Every statement keeps tables in order -/

section

variable {rs : Records} {enforcing : Bool} {d d' : Contents}

theorem numbered_create {definition : TableDefinition} (hd : NumberedTables d)
    (h : create d definition = .ok d') : NumberedTables d' := by
  unfold create at h
  dsimp only at h
  split at h
  · cases h
  obtain ⟨_, -, h⟩ := Except.bind_eq_ok.mp h
  cases h
  split
  · exact hd
  · intro t ht
    rcases List.mem_append.mp ht with ht | ht
    · exact hd t ht
    · obtain rfl := List.mem_singleton.mp ht
      exact .nil

theorem numbered_runInsert {table : String} {columns : List String} {parameters : List Value}
    {id : Int} (hd : NumberedTables d)
    (h : runInsert rs enforcing d table columns parameters = .ok (id, d')) :
    NumberedTables d' := by
  unfold runInsert at h
  obtain ⟨t, ht, h⟩ := Except.bind_eq_ok.mp h
  obtain ⟨places, -, h⟩ := Except.bind_eq_ok.mp h
  have h : (bindParameters rs columns.length parameters >>= fun cells => do
      let new ← refuse (t.insert (t.newCells (places.zip cells)))
      return (new.1, ← refuse (settled enforcing (putTable d new.2)))) = .ok (id, d') := by
    dsimp only at h
    split at h
    · obtain ⟨_, -, h⟩ := Except.bind_eq_ok.mp h
      exact h
    · exact h
  obtain ⟨cells, -, h⟩ := Except.bind_eq_ok.mp h
  obtain ⟨⟨id', t'⟩, hinsert, h⟩ := Except.bind_eq_ok.mp h
  obtain ⟨d₁, hsettled, h⟩ := Except.bind_eq_ok.mp h
  cases h
  rw [settled_eq_ok (refuse_eq_ok.mp hsettled)]
  have htable := hd t (mem_of_findTable (refuse_eq_ok.mp ht))
  exact hd.putTable ((StoredTable.insert_eq_ok (refuse_eq_ok.mp hinsert)).2 htable)

theorem numbered_runDelete {table : String} {f : Filter} {parameters : List Value} {n : Nat}
    (hd : NumberedTables d) (h : runDelete rs enforcing d table f parameters = .ok (n, d')) :
    NumberedTables d' := by
  have hexecute : execute rs enforcing d (.delete table (.filter f)) parameters =
      .ok ({ changed := n }, d') := by
    exact Except.bind_eq_ok.mpr ⟨f, rfl, Except.bind_eq_ok.mpr ⟨(n, d'), h, rfl⟩⟩
  obtain ⟨t, rows, hrows, -, rfl⟩ := execute_delete hexecute
  have htable := hd t (mem_of_findTable (selected_eq_ok.mp hrows).1)
  exact hd.putTable (htable.filter _)

/-- What a statement leaves has its rows in order if what it found has. -/
theorem numbered_execute {s : Statement} {parameters : List Value} {reply : Reply}
    (hd : NumberedTables d) (h : execute rs enforcing d s parameters = .ok (reply, d')) :
    NumberedTables d' := by
  cases s with
  | createTable definition =>
    obtain ⟨d₁, hcreate, h⟩ := Except.bind_eq_ok.mp h
    cases h
    exact numbered_create hd (refuse_eq_ok.mp hcreate)
  | select table selection =>
    obtain ⟨-, -, -, -, rfl⟩ := execute_select_eq_ok.mp h
    exact hd
  | count table selection =>
    obtain ⟨-, -, -, -, rfl⟩ := execute_count_eq_ok.mp h
    exact hd
  | insert table columns =>
    obtain ⟨⟨id, d₁⟩, hinsert, h⟩ := Except.bind_eq_ok.mp h
    cases h
    exact numbered_runInsert hd hinsert
  | update table columns condition =>
    obtain ⟨f, -, h⟩ := Except.bind_eq_ok.mp h
    split at h
    · cases h
    obtain ⟨⟨n, d₁⟩, hrun, h⟩ := Except.bind_eq_ok.mp h
    cases h
    obtain ⟨t, -, -, t', ht, -, -, -, rfl, -, hnumbered, -⟩ := runUpdate_eq_ok hd hrun
    exact hd.putTable hnumbered
  | delete table condition =>
    obtain ⟨f, -, h⟩ := Except.bind_eq_ok.mp h
    obtain ⟨⟨n, d₁⟩, hrun, h⟩ := Except.bind_eq_ok.mp h
    cases h
    exact numbered_runDelete hd hrun
  | dump table =>
    obtain ⟨⟨t, rows⟩, -, h⟩ := Except.bind_eq_ok.mp h
    cases h
    exact hd
  | verbatim sql => cases h

/-- The contents that statements lead to, from a database without tables on. -/
inductive Reached : Contents → Prop
  | empty : Reached []
  | after {rs : Records} {enforcing : Bool} {d d' : Contents} {s : Statement}
    {parameters : List Value} {reply : Reply} (before : Reached d)
    (run : execute rs enforcing d s parameters = .ok (reply, d')) : Reached d'

/-- Whatever statements are run, the rows of a table are in the order of their numbers. -/
theorem Reached.numbered (h : Reached d) : NumberedTables d := by
  induction h with
  | empty => exact fun t ht => nomatch ht
  | after _ hrun ih => exact numbered_execute ih hrun

end

end EntityMap.Engine
