import EntityMap.Engine.Engine
import EntityMap.Operation.Table
import EntityMap.Proofs.Saving.Cascade
import EntityMap.Proofs.Saving.Provenance
import EntityMap.Proofs.Validation.Violations

/-!
# Columns that must be unique

The table declares a column `UNIQUE` if the member that defines it is unique, or the first join onto
it; but validating looks up only what each member gives that is unique itself. So a value that the
row puts into such a column and that the table holds already is refused, unless it comes from a
member that is not looked up (`Unchecked`) : because another member of the column is the unique one,
because it is the key that is counted up, or because it is a join whose related entity is still to
be made (`validate_refuses_taken`).
-/

namespace EntityMap

variable {δ : Type} [Database δ] {x : Library} {e : Entity} {v b : Value} {w : World δ}

/-! ## Members -/

/-- The member declares that its values are unique. -/
def Member.isUnique : Member → Bool
  | column col => col.unique
  | join j => j.unique

/-- The violation of a member whose value is in the table already. -/
def Member.taken (shown : String) : Member → Violation
  | column col => .columnTaken col.field shown
  | join j => .joinTaken j.field shown

/-- Why what a member gives to its column is not looked up. -/
inductive Unchecked (rs : Records) (e : Entity) (v : Value) : Member → Prop
  | shared {m m' : Member} (notUnique : m.isUnique = false) (mem : m' ∈ e.members)
      (same : m'.physical = m.physical) (unique : m'.isUnique = true) : Unchecked rs e v m
  | counted {col : Column} (autoIncrement : col.autoIncrement = true) :
      Unchecked rs e v (.column col)
  | standIn {j : Join} (absent : rs.get v j.field = .null) (default : j.hasDefault = true) :
      Unchecked rs e v (.join j)

/-- A unique column of the table has a member that is unique. -/
theorem DefinedBy.exists_unique {d : ColumnDefinition} (h : DefinedBy e d)
    (hunique : d.unique = true) :
    ∃ m ∈ e.members, m.physical = d.name ∧ m.isUnique = true := by
  have hjoin : ∀ j, e.joins.find? (·.target == d.name) = some j → j.unique = true →
      ∃ m ∈ e.members, m.physical = d.name ∧ m.isUnique = true := fun j hj hu => by
    obtain ⟨hmem, htarget⟩ := Entity.mem_of_first hj
    exact ⟨.join j, Entity.mem_joins.mp hmem, htarget, hu⟩
  cases h with
  | @field col last _ unique _ =>
    rw [hunique, eq_comm, Bool.and_eq_true, Bool.or_eq_true, Option.any_eq_true] at unique
    rcases unique.1 with hcol | ⟨j, hj, hu⟩
    · obtain ⟨hmem, hname⟩ := Entity.mem_of_last last
      exact ⟨.column col, Entity.mem_columns.mp hmem, hname, hcol⟩
    · exact hjoin j hj hu
  | @join j _ first _ unique _ => exact hjoin j first (unique.symm.trans hunique)

/-- What a member gives is looked up, and refused if the table holds it, unless it is unchecked. -/
theorem Gives.violates {taken : Lookup} {rs : Records} {m m' : Member} (h : Gives x rs v b m)
    (hm : m ∈ e.members) (hm' : m' ∈ e.members) (hsame : m'.physical = m.physical)
    (hunique : m'.isUnique = true) (hpresent : b.isNull = false)
    (hfound : taken e.table m.physical b = .ok true) :
    Unchecked rs e v m ∨ ∃ shown, Violates taken x rs ⟨e, v⟩ (m.taken shown) := by
  cases hmember : m.isUnique with
  | false => exact .inl (.shared hmember hm' hsame hunique)
  | true =>
    cases h with
    | @field col value =>
      cases hauto : col.autoIncrement with
      | true => exact .inl (.counted hauto)
      | false =>
        have hvalue := (isNull_of_stored value).symm.trans hpresent
        exact .inr ⟨_, .inl ⟨col, Entity.mem_columns.mpr hm,
          .taken hauto hvalue hmember value hfound⟩⟩
    | @related j source present column value =>
      exact .inr ⟨_, .inr ⟨j, Entity.mem_joins.mpr hm,
        .taken present hmember column value hpresent hfound⟩⟩
    | standIn absent default => exact .inl (.standIn absent default)

/-! ## Validating -/

/-- Suppose that a class of a catalogue has a definition of its table, and that the related entities
of an entity are saved. If its row would put a value into a unique column that the table holds there
already, then a member that lies in the column gives this value; and unless the member is unchecked,
the entity is not valid. What fails it then lists the violation of this member, unless some value
cannot be looked up. -/
theorem validate_refuses_taken {ds : List ClassDeclaration} {constants : List (String × Value)}
    {className : String} {t : TableDefinition} {d : ColumnDefinition} {I : δ → Prop}
    {taken : Lookup} (hcatalogue : Catalogue.ofDeclarations ds constants = .ok x.catalogue)
    (hentity : x.catalogue.describe className = .ok e)
    (htable : x.catalogue.defineTable e = .ok t) (hd : d ∈ t.columns) (hunique : d.unique = true)
    (hcontent : Content w.records I taken) (hstate : I w.database)
    (hrelated : RelatedSaved x w.records ⟨e, v⟩) (row : OwnRow x false e v w)
    (hb : row.values.lookup d.name = some b) (hfound : taken e.table d.name b = .ok true) :
    ∃ m ∈ e.members, m.physical = d.name ∧ Gives x w.records v b m
      ∧ (Unchecked w.records e v m
        ∨ (∀ w', validate x e v w ≠ (.ok (), w'))
          ∧ (Checkable taken x w.records ⟨e, v⟩ → ∃ found w' shown,
            validate x e v w = (.error (.invalid found), w') ∧ m.taken shown ∈ found)) := by
  have hdistinct : e.Distinct := (ofDeclarations_distinct hcatalogue).describe hentity
  obtain ⟨hpresent, m, hm, hphysical, hgives⟩ := row.exists_gives hdistinct hrelated hb
  obtain ⟨m', hm', hsame, hu⟩ := (definedBy_of_mem_columns htable hd).exists_unique hunique
  refine ⟨m, hm, hphysical, hgives, ?_⟩
  refine (hgives.violates hm hm' (hsame.trans hphysical.symm) hu hpresent
    (hphysical ▸ hfound)).imp_right ?_
  rintro ⟨shown, hviol⟩
  -- the connection on which the row would be inserted is opened for validating as well
  have hopen : (ensureOpen x.management).Ends w (fun _ => Reads I w) fun _ _ => False := by
    obtain ⟨w₁, hsame, hopen⟩ := row.opens
    rw [show w₁ = w from hsame] at hopen
    have hsilent := (ensureOpen_silent hcontent.toReadInvariant x.management w).reads
    exact ⟨fun _ w' h => by rwa [h] at hsilent, fun f w' h => by simp [hopen] at h⟩
  have hobject : v.isNull = false := by
    rw [show v = .entity row.ref from row.object]
    rfl
  have hends := validate_ends_of_open (x := x) (n := ⟨e, v⟩) hcontent hstate hopen hobject
  refine ⟨fun w' hok => hends.1 _ _ hok _ hviol, fun hcheckable => ?_⟩
  rcases hrun : validate x e v w with ⟨f | _, w'⟩
  · rcases hends.2 _ _ hrun with ⟨found, rfl, -, hall⟩ | ⟨_, hfails⟩ | hnot
    · exact ⟨found, w', shown, rfl, (hall _).mpr hviol⟩
    · exact hfails.elim
    · exact absurd hcheckable hnot
  · exact absurd hviol (hends.1 _ _ hrun _)

/-! ## Tables in memory -/

/-- What looking a value up gives with such contents. -/
def lookIn (rs : Records) (contents : Engine.Contents) : Lookup := fun table column key =>
  ((Database.run rs (.count table (.byColumn column)) [key]
    ({ contents, committed := contents } : MemoryDatabase)).1.mapError
      StatementError.toFailure).bind Reply.countsAny

/-- Counting leaves the contents, and does not ask whether foreign keys are enforced. -/
theorem execute_count (rs : Records) (enforcing : Bool) (contents : Engine.Contents)
    (table : String) (s : Selection) (ps : List Value) :
    Engine.execute rs enforcing contents (.count table s) ps =
      (Engine.selected rs contents table s ps).map fun selected =>
        ({ columns := ["COUNT(*)"], rows := [[.int selected.2.length]] }, contents) := by
  show (Engine.selected rs contents table s ps >>= fun selected => pure _) = _
  cases Engine.selected rs contents table s ps <;> rfl

/-- A database in memory answers by its contents, as long as it is only asked to count. -/
theorem content_memory (rs : Records) (contents : Engine.Contents) :
    Content rs (fun d : MemoryDatabase => d.contents = contents ∧ d.committed = contents)
      (lookIn rs contents) where
  connect _ _ hd := hd
  count rs table s ps d hd := by
    show (MemoryDatabase.run rs (.count table s) ps d).2.contents = _
      ∧ (MemoryDatabase.run rs (.count table s) ps d).2.committed = _
    rw [MemoryDatabase.run, execute_count]
    cases Engine.selected rs d.contents table s ps
    · exact hd
    · exact hd
  commit _ hd := ⟨hd.1, hd.1⟩
  commits _ _ := rfl
  rollback _ hd := ⟨hd.2, hd.2⟩
  answers table column key d hd := by
    obtain ⟨rfl, -⟩ := hd
    show ((MemoryDatabase.run _ _ _ d).1.mapError _).bind _ = ((MemoryDatabase.run _ _ _
      { contents := d.contents, committed := d.contents }).1.mapError _).bind _
    simp only [MemoryDatabase.run, execute_count]
    cases Engine.selected rs d.contents table (.byColumn column) [key]
    · rfl
    · rfl

/-! ## A product whose name is taken -/

namespace Sample

/-- A new product on a line that is saved. -/
def shelf : Records :=
  [⟨"Product", [("id", .null), ("name", .text "pump"), ("active", .bool true),
      ("date_creation", .null), ("line", .entity 1)], false⟩,
   ⟨"Line", [("id", .int 1), ("name", .text "main")], false⟩]

/-- The tables after such a product has been saved. -/
def stock : Engine.Contents :=
  let made : World MemoryDatabase :=
    (createTable library productEntity { records := shelf, database := {} }).2
  (save library false productEntity (.entity 0) made).2.database.contents

def stocked : World MemoryDatabase where
  records := shelf
  database := { contents := stock, committed := stock }

theorem lookIn_stock : lookIn shelf stock "products" "name" (.text "pump") = .ok true := by
  decide +kernel

theorem sourceColumn_line : library.catalogue.sourceColumn lineJoin = .ok keyColumn := by
  decide +kernel

/-- The product gets the key of its line, which is not inserted. -/
theorem delivers_line (insertRelated : Entity → Value → Op MemoryDatabase Int)
    {w : World MemoryDatabase} (hw : w.records = shelf) :
    Delivers library insertRelated productEntity 0 [] lineJoin w (.int 1) [("line", .int 1)] w := by
  have hthere : relatedOrPlaceholder library (.entity 0) lineJoin w = (.ok (.entity 1), w) := by
    rw [relatedOrPlaceholder, Op.records_bind, hw]
    rfl
  have hrun : settleJoin library insertRelated productEntity (.entity 0) [] lineJoin w
      = (.ok [("line", .int 1)], w) := by
    rw [settleJoin_eq]
    refine Op.bind_eq_ok.mpr ⟨.entity 1, w, hthere, ?_⟩
    refine Op.describing_bind_eq_ok.mpr ⟨lineEntity, describeRelated_line, ?_⟩
    rw [Op.records_bind, hw]
    refine Op.describing_bind_eq_ok.mpr ⟨keyColumn, sourceColumn_line, ?_⟩
    rw [Op.records_bind, hw]
    rfl
  refine ⟨hrun, .entity 1, w, lineEntity, w, keyColumn, hthere, rfl, describeRelated_line,
    .present ?_, sourceColumn_line, ?_, .named rfl⟩
  · rw [hw, Unsaved]
    decide +kernel
  · rw [hw]
    rfl

/-- The row of the product has its name. -/
theorem exists_ownRow_shelf : ∃ row : OwnRow library false productEntity (.entity 0) stocked,
    row.values.lookup "name" = some (.text "pump") := by
  let opened : World MemoryDatabase := (ensureOpen library.management stocked).2
  have hdelivers := fun insertRelated => delivers_line insertRelated (w := opened) rfl
  refine ⟨⟨0, rfl, opened, [(lineJoin, .int 1)], [("line", .int 1)], opened,
    [("name", .text "pump"), ("active", .int 1)], rfl, ⟨stocked, rfl, rfl⟩, ?_,
    .delivered (hdelivers _) .nil, rfl⟩, rfl⟩
  exact Op.bind_eq_ok.mpr ⟨_, _, (hdelivers _).run, rfl⟩

theorem relatedSaved_shelf : RelatedSaved library shelf ⟨productEntity, .entity 0⟩ := by
  have hline : ∀ j ∈ productEntity.joins, j = lineJoin := by
    decide
  refine ⟨fun j hj ref href => ?_, fun j hj href => ?_, ?_⟩
  · cases hline j hj
    cases href
    decide
  · cases hline j hj
    cases href
  · rintro m ⟨j, hj, hm⟩
    cases hline j hj
    have hheld : HoldsBy library shelf ⟨productEntity, .entity 0⟩ lineJoin
        ⟨lineEntity, .entity 1⟩ :=
      ⟨rfl, rfl, describeRelated_line⟩
    cases hm.unique hheld
    rw [Unsaved]
    decide +kernel

theorem checkable_shelf : Checkable (lookIn shelf stock) library shelf
    ⟨productEntity, .entity 0⟩ := by
  have hname : ∀ col ∈ productEntity.columns, col.unique = true → col = nameColumn := by
    decide
  have hjoin : ∀ j ∈ productEntity.joins, j.unique = false := by
    decide
  refine ⟨fun col hcol _ _ hunique => ?_, fun j hj _ hunique => ?_⟩
  · cases hname col hcol hunique
    exact ⟨.text "pump", true, rfl, lookIn_stock⟩
  · exact absurd ((hjoin j hj).symm.trans hunique) Bool.false_ne_true

end Sample

open Sample in
/-- A product with a name that is in the table already is refused for its name. -/
theorem validate_refuses_taken_shelf :
    ∃ (row : OwnRow library false productEntity (.entity 0) stocked) (found : List Violation)
      (w' : World MemoryDatabase) (shown : String),
      row.values.lookup "name" = some (.text "pump")
        ∧ validate library productEntity (.entity 0) stocked = (.error (.invalid found), w')
        ∧ .columnTaken "name" shown ∈ found := by
  obtain ⟨t, ht, hmem⟩ := nameDefinition_mem
  obtain ⟨row, hrow⟩ := exists_ownRow_shelf
  obtain ⟨m, hm, hname, -, hlooked⟩ := validate_refuses_taken (t := t) (d := nameDefinition)
    (b := .text "pump") ofDeclarations_library describe_product ht hmem rfl
    (content_memory shelf stock) ⟨rfl, rfl⟩ relatedSaved_shelf row hrow lookIn_stock
  have hone : ∀ m ∈ productEntity.members, m.physical = "name" → m = .column nameColumn := by
    decide
  cases hone m hm hname
  have hchecked : ¬Unchecked stocked.records productEntity (.entity 0) (.column nameColumn) := by
    intro h
    cases h with
    | shared notUnique _ _ _ => cases notUnique
    | counted autoIncrement => cases autoIncrement
  obtain ⟨found, w', shown, hinvalid, hfound⟩ :=
    (hlooked.resolve_left hchecked).2 checkable_shelf
  exact ⟨row, found, w', shown, hrow, hinvalid, hfound⟩

/-! ## Values that are not looked up

A member that is not unique is not looked up, although it shares its column with one that is. What
a stand-in is going to give is not looked up either. And an entity that is related to itself is
looked up as it is, though another join may change it before its key is taken over. -/

namespace SharedColumn

open Sample (key column)

def line : ClassDeclaration where
  name := "Line"
  table := some "lines"
  fields := [key, column "code" "str" {}]

/-- A product with the code of its line, which is to be unique among products. -/
def product : ClassDeclaration where
  name := "Product"
  table := some "products"
  fields :=
    [key, column "line_code" "str" { unique := true },
     ⟨"line", "Line", .join { target := "line_code", related := "Line", source := "code" }⟩]

/-- A ticket for a line, one for each, which is the first line if none is given. -/
def ticket : ClassDeclaration where
  name := "Ticket"
  table := some "tickets"
  fields :=
    [key, ⟨"line", "Line", .join
      { target := "line_id", related := "Line", source := "id", unique := true
        defaultValue := some "1" }⟩]

def part : ClassDeclaration where
  name := "Part"
  table := some "parts"
  fields := [key, column "code" "str" {}]

/-- A part that has the code of its line, and has a part as its only twin. -/
def assembly : ClassDeclaration where
  name := "Assembly"
  base := some "Part"
  isRecord := true
  table := some "assemblies"
  fields :=
    [⟨"line", "Line", .join { target := "code", related := "Line", source := "code" }⟩,
     ⟨"twin", "Part", .join
       { target := "twin_code", related := "Part", source := "code", unique := true }⟩]

def library : Library where
  catalogue :=
    (Catalogue.ofDeclarations [line, product, ticket, part, assembly] []).toOption.getD {}
  management := { location := .file, timeout := .int 10, foreignKeys := false }

def toLine (target source : String) : Join :=
  { field := "line", target := target, related := "Line", source := source }

def productEntity : Entity where
  className := "Product"
  table := "products"
  members :=
    [.column Sample.keyColumn,
     .column { field := "line_code", name := "line_code", type := .text, unique := true },
     .join (toLine "line_code" "code")]

def ticketEntity : Entity where
  className := "Ticket"
  table := "tickets"
  members :=
    [.column Sample.keyColumn,
     .join { toLine "line_id" "id" with unique := true, defaultValue := some "1" }]

def assemblyEntity : Entity where
  className := "Assembly"
  table := "assemblies"
  members :=
    [.column Sample.keyColumn, .column { field := "code", name := "code", type := .text },
     .join (toLine "code" "code"),
     .join
       { field := "twin", target := "twin_code", related := "Part", source := "code",
         unique := true }]

/-- A line that is saved. -/
def savedLine : Record := ⟨"Line", [("id", .int 1), ("code", .text "A")], false⟩

/-- Two products, of which the first has the code itself and the second has it from its line. -/
def products : Records :=
  [⟨"Product", [("id", .null), ("line_code", .text "A"), ("line", .null)], false⟩,
   ⟨"Product", [("id", .null), ("line_code", .null), ("line", .entity 2)], false⟩, savedLine]

/-- Two tickets, of which the second gets the same line by default. -/
def tickets : Records :=
  [⟨"Ticket", [("id", .null), ("line", .entity 2)], false⟩,
   ⟨"Ticket", [("id", .null), ("line", .null)], false⟩, savedLine]

/-- Two assemblies, of which the second is its own twin and gets a new code from its line. -/
def assemblies : Records :=
  [⟨"Assembly", [("id", .null), ("code", .text "A"), ("line", .null), ("twin", .entity 3)], false⟩,
   ⟨"Assembly", [("id", .int 7), ("code", .text "B"), ("line", .entity 2), ("twin", .entity 1)],
     false⟩,
   savedLine, ⟨"Part", [("id", .int 1), ("code", .text "A")], false⟩]

/-- The world after the first entity has been saved in a new table. -/
def savedFirst (e : Entity) (records : Records) : World MemoryDatabase :=
  (save library false e (.entity 0) (createTable library e { records, database := {} }).2).2

/-- The second entity is valid, and its row is refused for a value that must be unique. -/
def RefusedThough (e : Entity) (records : Records) (name : String) : Prop :=
  library.catalogue.describe e.className = .ok e
    ∧ (validate library e (.entity 1) (savedFirst e records)).1.isOk = true
    ∧ ((save library false e (.entity 1) (savedFirst e records)).1.map fun _ => ())
      = .error (.storage (.refused ("UNIQUE constraint failed: " ++ e.table ++ "." ++ name)))

/-- The code of the line, the default line and the code of the twin are not looked up. -/
theorem validate_accepts_taken :
    RefusedThough productEntity products "line_code"
      ∧ RefusedThough ticketEntity tickets "line_id"
      ∧ RefusedThough assemblyEntity assemblies "twin_code" := by
  unfold RefusedThough
  decide +kernel

end SharedColumn

end EntityMap
