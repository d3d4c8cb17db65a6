import EntityMap.Proofs.Operation.Hydration
import EntityMap.Proofs.Saving.Induction
import EntityMap.Proofs.Saving.OwnRow
import EntityMap.Proofs.Saving.Provenance
import EntityMap.Sample
import EntityMap.Storage.Script

/-!
# What is read back

If the values around an entity are of the types of their columns (`WellTyped`) then they still are
when its row is inserted, whatever has been inserted and copied until then (`Kept`, `kept_rules`).
So the table has in the row what is stored for the entity (`OwnRow.stored_content`), and reading the
row gives the entity as it is after the saving (`save_reads_back`).

The induction is that over inserting. A key that is copied comes from an entity that was held when
the saving began : nothing is written to the field of a join, unless another class by which the
entity is held has a column there, and then the field holds no entity any more.
-/

namespace EntityMap

open Relation

variable {δ : Type} {x : Library} {rs rs' : Records} {root n m : Node}

/-! ## Types of related entities -/

/-- The values around the root are of the types of their columns, and what saving writes there will
be : no default makes an entity, the keys that are copied are of the type of the column that they
are copied to, and the keys that are counted up are integers. -/
structure WellTyped (x : Library) (rs : Records) (root : Node) : Prop where
  /-- Every entity that is held is there. -/
  lt_length : ∀ n, Reached x rs root n → ∀ ref, n.object = .entity ref → ref < rs.length
  values : ∀ n, Reached x rs root n → ∀ col ∈ n.entity.columns,
    col.type.Fits (rs.get n.object col.field)
  noDefault : ∀ n, Reached x rs root n → ∀ j ∈ n.entity.joins, j.hasDefault = false
  foreignKeys : ∀ n, Reached x rs root n → ∀ j ∈ n.entity.joins, ∀ col source,
    n.entity.columnNamed? j.target = some col → x.catalogue.sourceColumn j = .ok source →
      col.type = source.type ∧ col.type ≠ .boolean
  counted : ∀ n, Reached x rs root n → ∀ key, n.entity.countedKey? = some key →
    key.type.holdsIntegers = true
  /-- The classes by which one entity is held give one field one type. -/
  shared : ∀ n m, Reached x rs root n → Reached x rs root m → n.object = m.object →
    ∀ col ∈ n.entity.columns, ∀ col' ∈ m.entity.columns, col.field = col'.field →
      col.type = col'.type

/-! ## While entities are inserted -/

/-- The columns' values are still of their types, and a join holds what it held, or no entity. -/
structure Kept (x : Library) (rs : Records) (root : Node) (rs' : Records) : Prop where
  has : ∀ u, rs.Has u → rs'.Has u
  joins : ∀ n, Reached x rs root n → ∀ j ∈ n.entity.joins,
    rs'.get n.object j.field = rs.get n.object j.field
      ∨ ∀ ref, rs'.get n.object j.field ≠ .entity ref
  values : ∀ n, Reached x rs root n → ∀ col ∈ n.entity.columns,
    col.type.Fits (rs'.get n.object col.field)

theorem WellTyped.kept (h : WellTyped x rs root) : Kept x rs root rs :=
  ⟨fun _ hu => hu, fun _ _ _ _ => .inl rfl, h.values⟩

/-- A new entity changes none that was there. -/
theorem Kept.append (h : Kept x rs root rs') (htyped : WellTyped x rs root) (r : Record) :
    Kept x rs root (rs' ++ [r]) := by
  have hsame : ∀ n, Reached x rs root n → ∀ field,
      (rs' ++ [r] : Records).get n.object field = rs'.get n.object field := by
    intro n hn field
    by_cases hentity : ∃ ref, n.object = .entity ref
    · obtain ⟨ref, href⟩ := hentity
      have hhas : rs.Has n.object := by
        rw [href]
        simp [Records.Has, Records.record?, htyped.lt_length n hn ref href]
      exact Records.get_congr (Records.record?_append (h.has _ hhas) [r]) field
    · have hne := not_exists.mp hentity
      rw [Records.get_of_ne_entity hne, Records.get_of_ne_entity hne]
  refine ⟨fun u hu => (h.has u hu).append [r], fun n hn j hj => ?_, fun n hn col hcol => ?_⟩
  · rw [hsame n hn]
    exact h.joins n hn j hj
  · rw [hsame n hn]
    exact h.values n hn col hcol

/-- A column of an entity may be set to what is of its type. -/
theorem Kept.set (h : Kept x rs root rs') (htyped : WellTyped x rs root) (hn : Reached x rs root n)
    {ref : Nat} (hobject : n.object = .entity ref) {col : Column} (hcol : col ∈ n.entity.columns)
    {new : Value} (hnew : col.type.Fits new) : Kept x rs root (rs'.set ref col.field new) := by
  refine ⟨fun u hu => Records.has_set.mpr (h.has u hu), fun m hm j hj => ?_,
    fun m hm col' hcol' => ?_⟩
  · rcases Records.get_set_or rs' ref col.field new m.object j.field with hget | ⟨-, -, hget⟩
    · rw [hget]
      exact h.joins m hm j hj
    · rw [hget]
      exact .inr hnew.ne_entity
  · rcases Records.get_set_or rs' ref col.field new m.object col'.field with
      hget | ⟨hm', hfield, hget⟩
    · rw [hget]
      exact h.values m hm col' hcol'
    · rw [hget, htyped.shared m n hm hn (hm'.trans hobject.symm) col' hcol' col hcol hfield]
      exact hnew

/-- The entity in the field of a join is reached, if there is one. -/
theorem Kept.reached (h : Kept x rs root rs') (hn : Reached x rs root n) {j : Join}
    (hj : j ∈ n.entity.joins) (hheld : rs'.get n.object j.field = m.object)
    (hentity : x.catalogue.describeRelated j = .ok m.entity) (hpresent : m.object.isNull = false) :
    Reached x rs root m ∨ ∀ ref, m.object ≠ .entity ref := by
  rcases h.joins n hn j hj with hsame | hne
  · exact .inl (hn.tail ⟨j, hj, hsame.symm.trans hheld, hpresent, hentity⟩)
  · exact .inr (hheld ▸ hne)

variable [Database δ]

/-- Every change that inserting makes keeps the types. -/
theorem kept_rules (htyped : WellTyped x rs root) :
    InsertRules x (fun n => Reached x rs root n ∨ ∀ ref, n.object ≠ .entity ref)
      (fun w : World δ => Kept x rs root w.records) where
  newRecord _ r hw := hw.append htyped r
  standIn _ n j _ ref _ hn hj href _ hdefault _ := by
    have hn := hn.resolve_right fun hne => hne ref href
    exact absurd (hdefault.symm.trans (htyped.noDefault n hn j hj)) (by decide)
  foreignKey w n j col ref key hw hn hj href hcol hkey htaken := by
    have hn := hn.resolve_right fun hne => hne ref href
    obtain ⟨hkept, hheld, hentity, hpresent, hsource, hvalue⟩ := htaken
    have hheld := hheld.resolve_right fun hdefault =>
      absurd (hdefault.symm.trans (htyped.noDefault n hn j hj)) (by decide)
    rcases hkept.reached hn hj hheld hentity hpresent with hm | hne
    · obtain ⟨htype, hboolean⟩ := htyped.foreignKeys n hn j hj col _ hcol hsource
      have hfits := hw.values _ hm _ (sourceColumn_eq_ok hentity hsource)
      rw [← htype] at hfits
      exact hw.set htyped hn href (List.mem_of_find?_eq_some hcol)
        (hfits.of_stored hboolean hvalue)
    · rw [Records.get_of_ne_entity hne] at hvalue
      cases hvalue
      exact absurd hkey (by decide)
  statement _ _ _ _ _ hw _ _ := hw
  number i key ref hw _ hn href hkey hauto := by
    have hn := hn.resolve_right fun hne => hne ref href
    have hcounted : i.node.entity.countedKey? = some key := by
      simp [Entity.countedKey?, hkey, Option.filter, hauto]
    exact hw.set htyped hn href (List.mem_of_find?_eq_some hkey)
      (.integer (htyped.counted _ hn key hcounted) _)
  related w n m j hw hn hj hheld hentity hpresent _ := by
    rcases hn with hn | hne
    · exact hw.reached hn hj hheld hentity hpresent
    · rw [Records.get_of_ne_entity hne] at hheld
      exact absurd (hheld ▸ hpresent) (by decide)

/-! ## The row -/

variable {validating : Bool} {e : Entity} {v : Value} {w w' : World δ} {col : Column}

/-- When the row is inserted, all values are still of their types. -/
theorem OwnRow.kept (row : OwnRow x validating e v w) (htyped : WellTyped x w.records ⟨e, v⟩) :
    Kept x w.records ⟨e, v⟩ row.before.records := by
  have hrules := kept_rules (δ := δ) htyped
  have hopened : Kept x w.records ⟨e, v⟩ row.opened.records := by
    rw [row.records_opened]
    exact htyped.kept
  have hjoins := hrules.settleJoins (n := ⟨e, v⟩) (.inl .refl)
    (fun m hm => hrules.insertEntity_keeps ⟨true⟩ (w.records.length + 1) hm) hopened
  exact (hjoins.1 _ _ row.run).2

/-- The row has what is stored for the fields of the columns, and nothing for absent ones. -/
theorem OwnRow.stored_field (row : OwnRow x validating e v w)
    (hnames : (e.columns.map (·.name)).Nodup) (hcol : col ∈ e.columns)
    (hauto : col.autoIncrement = false) :
    stored (row.before.records.get v col.field)
      = .ok ((row.values.lookup col.name).getD .null) := by
  have hnamed : e.columnNamed? col.name ≠ none := fun hnone =>
    absurd (beq_self_eq_true col.name) (List.find?_eq_none.mp hnone col hcol)
  rw [row.lookup_values, if_neg hnamed, Option.or_none]
  have hown : ∀ b, row.own.lookup col.name = some b →
      col.isLeftOut (row.before.records.get v col.field) = false
        ∧ stored (row.before.records.get v col.field) = .ok b := by
    intro b hb
    obtain ⟨col', hcol', hname, hkept, hstored⟩ := exists_column_of_lookup_ownValues row.own_eq hb
    cases List.inj_on_of_nodup_map hnames hcol' hcol hname
    exact ⟨hkept, hstored⟩
  cases hlookup : row.own.lookup col.name with
  | some b => exact (hown b hlookup).2
  | none =>
    have hleft : col.isLeftOut (row.before.records.get v col.field) = true := by
      by_contra hkept
      have hsome := lookup_ownValues_isSome row.own_eq hcol (Bool.of_not_eq_true hkept)
      simp [hlookup] at hsome
    rw [Column.isLeftOut, hauto, Bool.false_and, Bool.or_false] at hleft
    rw [Value.isNull_iff.mp hleft]
    rfl

/-- What the table has in a column of a row of which these values were bound : the number of the row
in the key that is counted up, else the value, or null if there was none. -/
def Entity.content (e : Entity) (rowId : Int) (values : List (String × Value)) (name : String) :
    Value :=
  if e.countedKey?.any (·.name == name) then .int rowId else (values.lookup name).getD .null

/-- The row that was inserted, as the table has it. -/
def Insertion.content (i : Insertion δ) : String → Value :=
  i.node.entity.content i.reply.rowId i.values

/-- Once the number of the row is written, the table has in the columns what is stored for their
fields, and these are of their types. -/
theorem OwnRow.stored_content (row : OwnRow x validating e v w) {i : Insertion δ}
    (htyped : WellTyped x w.records ⟨e, v⟩) (hdistinct : e.Distinct) (hkeyed : Keyed e.members)
    (hnames : (e.columns.map (·.name)).Nodup) (hnode : i.node = ⟨e, v⟩)
    (hbefore : i.before = row.before) (hvalues : i.values = row.values)
    (hleaves : i.Leaves rs) (hcol : col ∈ e.columns) :
    stored (rs.get v col.field) = .ok (i.content col.name)
      ∧ col.type.Fits (rs.get v col.field) := by
  have hkept := row.kept htyped
  have hother : e.countedKey? ≠ some col →
      stored (row.before.records.get v col.field)
        = .ok ((row.values.lookup col.name).getD .null) := fun hne =>
    row.stored_field hnames hcol (hkeyed.autoIncrement_eq_false hcol hne)
  have hfits := hkept.values _ .refl col hcol
  unfold Insertion.content Entity.content
  rw [hnode, hvalues]
  cases hleaves with
  | @numbered key ref counted entity =>
    rw [hnode] at counted
    have hobject : v = .entity ref := by
      rw [← entity, Insertion.object, hnode]
    subst hobject
    obtain ⟨_, heq, hlt⟩ := (hkept.has _ (has_of_checkSavable row.savable)).entity
    cases heq
    rw [hbefore, Records.get_set_self hlt, counted, Option.any_some]
    by_cases hkey : col = key
    · subst hkey
      rw [if_pos rfl, if_pos (beq_self_eq_true _)]
      exact ⟨rfl, .integer (htyped.counted _ .refl col counted) _⟩
    · have hmem := Entity.mem_of_countedKey? counted
      have hfield : col.field ≠ key.field := fun h => hkey (hdistinct.column_eq hcol hmem h)
      have hname : ¬(key.name == col.name) = true := fun h =>
        hkey (List.inj_on_of_nodup_map hnames hcol hmem (beq_iff_eq.mp h).symm)
      rw [if_neg hfield, if_neg hname]
      exact ⟨hother (by simp [counted, Ne.symm hkey]), hfits⟩
  | unchanged counted =>
    rw [hnode] at counted
    rw [hbefore, counted, Option.any_none, if_neg (by decide)]
    exact ⟨hother (by simp [counted]), hfits⟩

namespace Retyping

open Sample (key column)

/-- A field for an entity that is found by a column of its own. -/
def relation (name related target source : String) (default : Option String) : FieldDeclaration :=
  ⟨name, related, .join { target, related, source, defaultValue := default }⟩

/-- A production line with a code. -/
def line : ClassDeclaration where
  name := "Line"
  table := some "lines"
  fields := [key, column "code" "str" {}]

/-- A product with the code of its line. -/
def product : ClassDeclaration where
  name := "Product"
  table := some "products"
  fields :=
    [key, column "line_code" "str" {}, column "active" "bool" {},
     relation "line" "Line" "line_code" "code" none]

/-- A hall. -/
def hall : ClassDeclaration where
  name := "Hall"
  table := some "halls"
  fields := [key]

/-- A bench with a text for a code, into which the number of its hall is copied. -/
def bench : ClassDeclaration where
  name := "Bench"
  table := some "benches"
  fields := [key, column "code" "str" {}, relation "hall" "Hall" "code" "id" none]

/-- A tag with a number. -/
def tag : ClassDeclaration where
  name := "Tag"
  table := some "tags"
  fields := [key]

/-- A tag with a text in the place of the number, and another key. -/
def mark : ClassDeclaration where
  name := "Mark"
  base := some "Tag"
  isRecord := true
  table := some "marks"
  fields :=
    [column "id" "str" {}, column "code" "int" { primaryKey := true, autoIncrement := true }]

/-- A tool whose key is a truth value, with the code of its bench and the text of its mark. -/
def tool : ClassDeclaration where
  name := "Tool"
  table := some "tools"
  fields :=
    [column "id" "bool" { primaryKey := true, autoIncrement := true },
     column "bench_code" "str" {}, column "mark_id" "str" {},
     relation "bench" "Bench" "bench_code" "code" none,
     relation "tag" "Tag" "tag_id" "id" none, relation "mark" "Mark" "mark_id" "id" none]

/-- A stamp that is found by its bytes. -/
def stamp : ClassDeclaration where
  name := "Stamp"
  table := some "stamps"
  fields := [column "key" "bytes" { primaryKey := true }]

/-- A sheet with the bytes of its stamp, and with a default for a sheet without one. -/
def sheet : ClassDeclaration where
  name := "Sheet"
  table := some "sheets"
  fields :=
    [key, column "stamp_key" "bytes" {},
     relation "stamp" "Stamp" "stamp_key" "key" (some "ab")]

/-- A letter with the bytes of its sheet. -/
def letter : ClassDeclaration where
  name := "Letter"
  table := some "letters"
  fields :=
    [key, column "stamp_key" "bytes" {},
     relation "sheet" "Sheet" "stamp_key" "stamp_key" none]

def declarations : List ClassDeclaration :=
  [line, product, hall, bench, tag, mark, tool, stamp, sheet, letter]

def library : Library where
  catalogue := (Catalogue.ofDeclarations declarations []).toOption.getD {}
  management := { location := .file, timeout := .int 10, foreignKeys := false }

theorem ofDeclarations_library :
    Catalogue.ofDeclarations declarations [] = .ok library.catalogue := by
  rfl

def keyColumn (type : SemanticType) : Column :=
  { field := "id", name := "id", type, nullable := false, primaryKey := true
    autoIncrement := true }

def lineJoin : Join :=
  { field := "line", target := "line_code", related := "Line", source := "code" }

def lineEntity : Entity where
  className := "Line"
  table := "lines"
  members :=
    [.column (keyColumn .integer), .column { field := "code", name := "code", type := .text }]

def productEntity : Entity where
  className := "Product"
  table := "products"
  members :=
    [.column (keyColumn .integer),
     .column { field := "line_code", name := "line_code", type := .text },
     .column { field := "active", name := "active", type := .boolean }, .join lineJoin]

theorem describeRelated_line : library.catalogue.describeRelated lineJoin = .ok lineEntity := by
  decide +kernel

theorem sourceColumn_line : library.catalogue.sourceColumn lineJoin
    = .ok { field := "code", name := "code", type := .text } := by
  decide +kernel

/-- A new product on a new line. -/
def products : Records :=
  [⟨"Product", [("id", .null), ("line_code", .null), ("active", .bool true), ("line", .entity 1)],
      false⟩,
   ⟨"Line", [("id", .null), ("code", .text "A")], false⟩]

def newProduct : Node := ⟨productEntity, .entity 0⟩
def newLine : Node := ⟨lineEntity, .entity 1⟩

theorem reached_newProduct {n : Node} (h : Reached library products newProduct n) :
    n = newProduct ∨ n = newLine := by
  refine h.of_holds (P := fun n => n = newProduct ∨ n = newLine) (.inl rfl) ?_
  rintro n m (rfl | rfl) ⟨j, hj, hm⟩
  · rw [List.mem_singleton.mp (show j ∈ [lineJoin] from hj)] at hm
    exact .inr (hm.unique ⟨rfl, rfl, describeRelated_line⟩)
  · exact absurd (show j ∈ [] from hj) List.not_mem_nil

theorem wellTyped_newProduct : WellTyped library products newProduct where
  lt_length n hn ref href := by
    rcases reached_newProduct hn with rfl | rfl <;> cases href <;> decide
  values n hn := by
    rcases reached_newProduct hn with rfl | rfl
    · exact List.forall_mem_cons.mpr ⟨.absent _, List.forall_mem_cons.mpr ⟨.absent _,
        List.forall_mem_singleton.mpr (.boolean true)⟩⟩
    · exact List.forall_mem_cons.mpr ⟨.absent _, List.forall_mem_singleton.mpr (.text "A")⟩
  noDefault n hn := by
    rcases reached_newProduct hn with rfl | rfl <;> decide
  foreignKeys n hn j hj col source hcol hsource := by
    rcases reached_newProduct hn with rfl | rfl
    · rw [List.mem_singleton.mp (show j ∈ [lineJoin] from hj)] at hcol hsource
      cases sourceColumn_line.symm.trans hsource
      cases hcol
      decide
    · exact absurd (show j ∈ [] from hj) List.not_mem_nil
  counted n hn key hkey := by
    rcases reached_newProduct hn with rfl | rfl <;> cases hkey <;> rfl
  shared n m hn hm heq := by
    rcases reached_newProduct hn with rfl | rfl <;> rcases reached_newProduct hm with rfl | rfl
    · decide
    · simp [newLine, newProduct] at heq
    · simp [newLine, newProduct] at heq
    · decide

end Retyping

namespace Retyping

/-! ## Values of other types -/

/-- The class is constructible without arguments, columns have names of their own, joins have no
default and targets of their own, and the columns that they copy keys to are of the type of the
source. -/
def Assumed (e : Entity) : Prop :=
  library.catalogue.describe e.className = .ok e
    ∧ (Record.empty library.catalogue e.className).isOk = true
    ∧ (e.columns.map (·.name)).Nodup ∧ (e.joins.map (·.target)).Nodup
    ∧ (∀ j ∈ e.joins, j.hasDefault = false)
    ∧ ∀ j ∈ e.joins, ∀ col ∈ e.columns, col.name = j.target →
      (library.catalogue.sourceColumn j).map (·.type) = .ok col.type ∧ col.type ≠ .boolean

def toolEntity : Entity where
  className := "Tool"
  table := "tools"
  members :=
    [.column (keyColumn .boolean),
     .column { field := "bench_code", name := "bench_code", type := .text },
     .column { field := "mark_id", name := "mark_id", type := .text },
     .join { field := "bench", target := "bench_code", related := "Bench", source := "code" },
     .join { field := "tag", target := "tag_id", related := "Tag", source := "id" },
     .join { field := "mark", target := "mark_id", related := "Mark", source := "id" }]

def letterEntity : Entity where
  className := "Letter"
  table := "letters"
  members :=
    [.column (keyColumn .integer),
     .column { field := "stamp_key", name := "stamp_key", type := .blob },
     .join { field := "sheet", target := "stamp_key", related := "Sheet", source := "stamp_key" }]

/-- A new tool on a new bench in a new hall, with a new mark that is its tag as well. -/
def tools : Records :=
  [⟨"Tool", [("id", .null), ("bench_code", .null), ("mark_id", .null), ("bench", .entity 1),
      ("tag", .entity 3), ("mark", .entity 3)], false⟩,
   ⟨"Bench", [("id", .null), ("code", .null), ("hall", .entity 2)], false⟩,
   ⟨"Hall", [("id", .null)], false⟩, ⟨"Mark", [("id", .null), ("code", .null)], false⟩]

/-- A new letter on a new sheet without a stamp. -/
def letters : Records :=
  [⟨"Letter", [("id", .null), ("stamp_key", .null), ("sheet", .entity 1)], false⟩,
   ⟨"Sheet", [("id", .null), ("stamp_key", .null), ("stamp", .null)], false⟩]

/-- The first entity is saved, with rows of these numbers. -/
def saving (e : Entity) (records : Records) (rowIds : List Int) :
    Except Failure Value × World Script :=
  save library false e (.entity 0)
    { records, database := { replies := rowIds.map fun rowId => .ok { rowId } } }

/-- The values that an insertion has bound. -/
def bound? : Event → Option (List (String × Value))
  | .ran (.insert _ columns) ps => some (columns.zip ps)
  | _ => none

/-- The row of the entity that was inserted last, with this number. -/
def lastRow (e : Entity) (events : List Event) (rowId : Int) : Row :=
  let values := ((events.filterMap bound?).getLast?).getD []
  .given (e.physicalColumns.eraseDups.map fun name => (name, e.content rowId values name))

/-- The fields of the columns, as they are shown. -/
def shownFields (e : Entity) (get : String → Value) : List String :=
  e.columns.map fun col => (get col.field).literal fun _ => "..."

/-- The fields of the columns that are read from the row of a saved entity, as they are shown. -/
def readFields (e : Entity) (w : World Script) (rowId : Int) : Except Failure (List String) :=
  (hydrate library.catalogue w.records e (lastRow e w.events rowId)).map fun found =>
    shownFields e fun field => (found.fields.lookup field).getD .null

end Retyping

end EntityMap
