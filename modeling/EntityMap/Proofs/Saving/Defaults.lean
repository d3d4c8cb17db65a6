import EntityMap.Proofs.Saving.StandIns

/-!
# Defaults of joins

A join's default is read twice : as the literal of the column in the table, of the type of the
source, and as the key of the stand-in that saving makes, of the type of that key. What a row has
comes from the source in the stand-in (`OwnRow.lookup_standIn`). So it is the default if the
stand-in has its key there, or if the stand-in has nothing there and the column is left to the table
(`save_stores_default`).
-/

namespace EntityMap

section

variable {δ : Type} {x : Library} {e : Entity} {v : Value} {j : Join} {key : Value}

/-! ## Defaults of tables -/

theorem Join.defaultValue_eq (hdefault : j.hasDefault = true) :
    j.defaultValue = some j.defaultText ∧ j.defaultText ≠ "" := by
  unfold Join.hasDefault isDefault at hdefault
  split at hdefault
  · next s hs =>
    rw [Join.defaultText, hs]
    exact ⟨rfl, by simpa using hdefault⟩
  · cases hdefault

/-- The literal of a column's definition is that of the text which is declared. -/
theorem ColumnDefinition.make_default {name text : String} {type : SemanticType}
    {nullable primaryKey autoIncrement unique : Bool} {d : ColumnDefinition} (htext : text ≠ "")
    (h : ColumnDefinition.make name type nullable primaryKey autoIncrement unique (some text)
      = .ok d) : ∃ l, Literal.ofDefault name type text = .ok l ∧ d.default = some l := by
  unfold ColumnDefinition.make at h
  split at h
  · cases h
  · dsimp only at h
    rw [if_neg htext] at h
    obtain ⟨default, hdefault, h⟩ := Except.bind_eq_ok.mp h
    obtain ⟨l, hl, rfl⟩ := Except.map_eq_ok.mp hdefault
    cases h
    exact ⟨l, hl, rfl⟩

/-- A column without a field of its own has the default of the first join onto it, read as the type
of the source. -/
theorem exists_default_of_first {t : TableDefinition} {source : Column}
    (htable : x.catalogue.defineTable e = .ok t) (hnone : e.columnNamed? j.target = none)
    (hfirst : e.joins.find? (·.target == j.target) = some j) (hdefault : j.hasDefault = true)
    (hsource : x.catalogue.sourceColumn j = .ok source) :
    ∃ d ∈ t.columns, d.name = j.target ∧ ∃ l,
      Literal.ofDefault j.target source.type j.defaultText = .ok l ∧ d.default = some l := by
  have hmem : j.target ∈ e.physicalColumns.eraseDups :=
    List.mem_eraseDups.mpr (Entity.target_mem_physicalColumns (List.mem_of_find?_eq_some hfirst))
  obtain ⟨d, hd, hdefined⟩ := exists_of_forall₂ (forall₂_columns htable).flip hmem
  refine ⟨d, hd, (defineColumn_eq_ok hdefined).1, ?_⟩
  have hcolumn : (groupOf e.members j.target).column = none := by
    refine List.find?_eq_none.mpr fun col hcol => ?_
    exact List.find?_eq_none.mp hnone col (List.mem_reverse.mp hcol)
  have hjoin : (groupOf e.members j.target).join = some j := hfirst
  obtain ⟨hvalue, htext⟩ := Join.defaultValue_eq hdefault
  rw [Catalogue.defineColumn, hcolumn, hjoin] at hdefined
  obtain ⟨type, htype, hdefined⟩ := Except.bind_eq_ok.mp hdefined
  rw [Catalogue.joinType, hsource] at htype
  cases htype
  obtain ⟨d', hd', hsame⟩ := Except.map_eq_ok.mp (describing_eq_ok.mp hdefined)
  cases hsame
  rw [hvalue] at hd'
  exact ColumnDefinition.make_default htext hd'

variable [Database δ]

/-! ## Rows -/

/-- The values give the column of a join the default : it is among them, read as the type of the
source, or they leave the column out and the table has this very default for it. -/
def StoresDefault (j : Join) (source : Column) (t : TableDefinition)
    (values : List (String × Value)) : Prop :=
  (∃ value b, parseDefault source.name source.type j.defaultText = .ok value
      ∧ stored value = .ok b ∧ values.lookup j.target = some b)
    ∨ (values.lookup j.target = none ∧ ∃ d ∈ t.columns, d.name = j.target ∧ ∃ l,
      Literal.ofDefault j.target source.type j.defaultText = .ok l ∧ d.default = some l)

/-- A join with a default violates nothing. -/
theorem joinViolation_of_default {w : World δ} (hnull : w.records.get v j.field = .null)
    (hdefault : j.hasDefault = true) : joinViolation x e v j w = (.ok none, w) := by
  rw [joinViolation, Op.records_bind, hnull, hdefault]
  simp [Value.isNull]

/-- Nor does the column that it is for. -/
theorem columnViolation_of_default {w : World δ} {col : Column} (hj : j ∈ e.joins)
    (htarget : col.name = j.target) (hnull : w.records.get v col.field = .null)
    (hdefault : j.hasDefault = true) : columnViolation x e v col w = (.ok none, w) := by
  have hfilled : e.filledByJoin w.records v col.name = true :=
    List.any_eq_true.mpr ⟨j, hj, by simp [htarget, hdefault]⟩
  rw [columnViolation, Op.records_bind, hnull, hfilled]
  cases hauto : col.autoIncrement <;> simp [Value.isNull]

/-- The row of an entity whose relation is absent has the key of the stand-in, unless that is left
to the database. -/
theorem OwnRow.lookup_standIn {validating : Bool} {w : World δ} (row : OwnRow x validating e v w)
    (hdistinct : e.Distinct) (honce : InsertedOnce x w e v) (hj : j ∈ e.joins)
    (halone : FillsAlone w.records ⟨e, v⟩ j) (hnull : w.records.get v j.field = .null)
    (hown : ∀ col ∈ e.columns, col.name = j.target → w.records.get v col.field = .null)
    (hdefault : j.hasDefault = true) (hkey : standInKey x j = .ok key) :
    row.values.lookup j.target = if e.leavesOut j.target key then none else some key := by
  have honce := honce row.opened row.records_opened
  have hrecords := row.records_opened
  obtain ⟨key', hkey', hdelivered⟩ := honce.delivers_standIn row.has hdistinct hj
    (hrecords ▸ hnull) hdefault row.settle (hrecords ▸ halone)
  cases hkey.symm.trans hkey'
  obtain ⟨_, _, _, _, hstored⟩ := standInKey_eq_ok.mp hkey
  refine hdelivered.lookup row.own_eq (row.settled.nodup_keys List.nodup_nil)
    (stored_of_stored hstored) (fun col hcol => ?_) fun col hcol hname hne => ?_
  · obtain ⟨hmem, hname⟩ := Entity.mem_of_columnNamed? hcol
    refine (hdelivered.field col hcol).trans ?_
    split
    · next hkeyNull =>
      rw [Value.isNull_iff.mp hkeyNull]
      exact hrecords ▸ hown col hmem hname
    · rfl
  · have hkept : row.before.records.get v col.field = row.opened.records.get v col.field := by
      refine honce.field_eq_of_ne row.has hdistinct row.settle hcol fun j' _ hcol' => hne ?_
      rw [← hname, (Entity.mem_of_columnNamed? hcol').2]
      exact hcol'
    have hleft : row.before.records.get v col.field = .null := by
      rw [hkept, hrecords]
      exact hown col hcol hname
    show col.isLeftOut (row.before.records.get v col.field) = true
    rw [hleft]
    rfl

end

namespace Defaults

open Sample (key column)

/-! ## Defaults that are lost -/

def declare (name table : String) (fields : List FieldDeclaration) : ClassDeclaration :=
  { name, fields, table := some table }

def joinTo (field related target source : String) (defaultValue : Option String) :
    FieldDeclaration :=
  ⟨field, related, .join { target, related, source, defaultValue }⟩

/-- Classes with a join that has a default, after those that they are related to. -/
def declarations : List ClassDeclaration :=
  [declare "Line" "lines" [key],
   declare "Crate" "crates" [key, column "code" "str" {}],
   declare "Tag" "tags" [key, column "code" "str" { initial := .text "none" }],
   declare "Letter" "letters" [⟨"sender", "str", .plain none⟩, key],
   declare "Box" "boxes"
     [key, column "crate_code" "str" {}, joinTo "crate" "Crate" "crate_code" "code" (some "7")],
   declare "Bag" "bags" [key, joinTo "crate" "Crate" "crate_code" "code" (some "A1")],
   declare "Label" "labels" [key, joinTo "tag" "Tag" "tag_code" "code" (some "7")],
   declare "Kit" "kits"
     [key, joinTo "line" "Line" "line_id" "id" (some "1"),
      joinTo "spare" "Line" "line_id" "id" none],
   declare "Jar" "jars"
     [key, joinTo "spare" "Crate" "crate_code" "code" none,
      joinTo "crate" "Crate" "crate_code" "code" (some "7")],
   declare "Slot" "slots" [key, joinTo "line" "Line" "id" "id" (some "0")],
   declare "Envelope" "envelopes" [key, joinTo "letter" "Letter" "letter_id" "id" (some "1")],
   declare "Seat" "seats"
     [key, column "line_id" "int" {}, joinTo "spot" "Line" "line_id" "id" none],
   declare "Holder" "holders" [key, joinTo "seat" "Seat" "seat_id" "id" none],
   { declare "Chair" "chairs"
       [⟨"spot", "Line", .plain (some .null)⟩, joinTo "line" "Line" "line_id" "id" (some "1"),
        joinTo "holder" "Holder" "holder_id" "id" none] with
     isRecord := true, base := some "Seat" }]

def library : Library where
  catalogue := (Catalogue.ofDeclarations declarations []).toOption.getD {}
  management := { location := .file, timeout := .int 10, foreignKeys := false }

def entityOf (className : String) : Entity :=
  (library.catalogue.describe className).toOption.getD ⟨className, "", []⟩

/-- The table of the class can be defined, the join has a default, and in the first record it has no
related entity and no column for it has a value. -/
def Defaulted (className field : String) (records : Records) : Prop :=
  (library.catalogue.describe className).isOk = true
    ∧ (library.catalogue.defineTable (entityOf className)).isOk = true
    ∧ ∃ j ∈ (entityOf className).joins, j.field = field ∧ j.hasDefault = true
      ∧ (records.get (.entity 0) field).isNull = true
      ∧ ∀ col ∈ (entityOf className).columns, col.name = j.target →
        (records.get (.entity 0) col.field).isNull = true

instance (className field : String) (records : Records) :
    Decidable (Defaulted className field records) :=
  inferInstanceAs (Decidable (_ ∧ _ ∧ ∃ j ∈ (entityOf className).joins, _))

/-- What the row of the first record has in the column, as it is shown, and the default that the
table has for it; nothing if the record cannot be saved. -/
def outcome (className columnName : String) (records : Records) :
    Option (Option String × Option String) :=
  let e := entityOf className
  let script : Script := { replies := [5, 6, 7].map fun rowId => .ok { rowId } }
  let run := save library false e (.entity 0) { records, database := script }
  let definition := (library.catalogue.defineTable e).toOption.bind fun t =>
    t.columns.find? (·.name == columnName)
  if run.1.isOk then
    some ((((run.2.events.filterMap Event.shownRow?).getLast?).getD []).lookup columnName,
      (definition.bind (·.default)).map (·.sql))
  else none

def boxes : Records := [⟨"Box", [("id", .null), ("crate_code", .null), ("crate", .null)], false⟩]
def bags : Records := [⟨"Bag", [("id", .null), ("crate", .null)], false⟩]
def labels : Records := [⟨"Label", [("id", .null), ("tag", .null)], false⟩]
def slots : Records := [⟨"Slot", [("id", .null), ("line", .null)], false⟩]
def jars : Records := [⟨"Jar", [("id", .null), ("spare", .null), ("crate", .null)], false⟩]
def envelopes : Records := [⟨"Envelope", [("id", .null), ("letter", .null)], false⟩]

/-- A kit with line 3 to spare. -/
def kits : Records :=
  [⟨"Kit", [("id", .null), ("line", .null), ("spare", .entity 1)], false⟩,
   ⟨"Line", [("id", .int 3)], false⟩]

/-- A new chair on a new holder, which has it as a seat; as a seat it is on line 3. -/
def chairs : Records :=
  [⟨"Chair", [("id", .null), ("line_id", .null), ("spot", .entity 2), ("line", .null),
      ("holder", .entity 1)], false⟩,
   ⟨"Holder", [("id", .null), ("seat", .entity 0)], false⟩, ⟨"Line", [("id", .int 3)], false⟩]

end Defaults

end EntityMap
