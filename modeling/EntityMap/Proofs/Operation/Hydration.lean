import EntityMap.Operation.Hydration
import EntityMap.Proofs.Result

/-!
# Reading rows

What a column stores for a value of its type reads as this value again, or as some moment if it is
that of a timestamp (`Fits.exists_reading`). An entity that is read from a row has in its columns'
fields what the values under their names read as (`exists_foldlM_hydrateColumn`), whether the caller
put the row together or it was fetched (`Row.Shows`), and has nothing else of the row (`Row.Fills`,
`hydrate_eq_ok`).
-/

namespace EntityMap

/-! ## Stored values -/

/-- What is stored for a value is absent only if the value is. -/
theorem isNull_of_stored {v new : Value} (h : stored v = .ok new) : new.isNull = v.isNull := by
  rw [stored, Except.mapError_eq_ok] at h
  cases v <;> simp only [Value.toStored] at h
  case moment t =>
    split at h
    · cases h
      rfl
    · simp at h
  all_goals
    cases h
    rfl

/-- What is stored for a value is stored as it is. -/
theorem stored_of_stored {v new : Value} (h : stored v = .ok new) : stored new = .ok new := by
  rw [stored, Except.mapError_eq_ok] at h ⊢
  cases v <;> simp only [Value.toStored] at h
  case moment t =>
    split at h
    · cases h
      rfl
    · simp at h
  all_goals
    cases h
    rfl

/-! ## Values of a type -/

/-- Columns of this type hold any integers, and nothing else. -/
def SemanticType.holdsIntegers : SemanticType → Bool
  | integer | bigint | entity => true
  | _ => false

/-- The value is absent or of the type. One of a timestamp need only be stored as what reads as a
moment. -/
inductive SemanticType.Fits : SemanticType → Value → Prop
  | absent (type : SemanticType) : Fits type .null
  | integer {type : SemanticType} (integers : type.holdsIntegers = true) (i : Int) :
      Fits type (.int i)
  | text (s : String) : Fits .text (.text s)
  | boolean (b : Bool) : Fits .boolean (.bool b)
  | real (x : Number.Binary64) : Fits .real (.real x)
  | blob (bs : List UInt8) : Fits .blob (.bytes bs)
  | timestamp {v new : Value} {t : Time.Moment} (value : stored v = .ok new)
      (reading : new.toMoment = .ok t) : Fits .timestamp v

namespace SemanticType

variable {type : SemanticType} {v new : Value}

/-- No entity is a column's value. -/
theorem Fits.ne_entity (h : type.Fits v) (ref : Nat) : v ≠ .entity ref := by
  rintro rfl
  cases h with
  | timestamp value reading =>
    cases value
    cases reading

/-- What is stored for a value fits the type too, unless truth values become numbers. -/
theorem Fits.of_stored (h : type.Fits v) (htype : type ≠ .boolean) (hnew : stored v = .ok new) :
    type.Fits new := by
  have hvalue := Except.mapError_eq_ok.mp hnew
  cases h with
  | boolean b => exact absurd rfl htype
  | timestamp value reading =>
    cases hnew.symm.trans value
    exact .timestamp (stored_of_stored value) reading
  | absent type =>
    cases hvalue
    exact .absent type
  | integer integers i =>
    cases hvalue
    exact .integer integers i
  | text s =>
    cases hvalue
    exact .text s
  | real x =>
    cases hvalue
    exact .real x
  | blob bs =>
    cases hvalue
    exact .blob bs

/-- What is stored for a value of the type reads as this value, or as some moment. -/
theorem Fits.exists_reading (h : type.Fits v) (hnew : stored v = .ok new)
    (entity : Nat → String) :
    ∃ u, new.ofStored entity type = .ok u ∧ (type ≠ .timestamp → u = v) := by
  have hvalue := Except.mapError_eq_ok.mp hnew
  cases h with
  | @timestamp _ _ t value reading =>
    cases hnew.symm.trans value
    unfold Value.ofStored
    split
    · exact ⟨.null, rfl, fun h => absurd rfl h⟩
    · exact ⟨.moment t, congrArg (Except.map Value.moment) reading, fun h => absurd rfl h⟩
  | absent type =>
    cases hvalue
    exact ⟨.null, rfl, fun _ => rfl⟩
  | integer integers i =>
    cases hvalue
    cases type <;> first | exact ⟨.int i, rfl, fun _ => rfl⟩ | cases integers
  | text s =>
    cases hvalue
    exact ⟨.text s, rfl, fun _ => rfl⟩
  | boolean b =>
    cases hvalue
    cases b <;> exact ⟨_, rfl, fun _ => rfl⟩
  | real x =>
    cases hvalue
    exact ⟨.real x, rfl, fun _ => rfl⟩
  | blob bs =>
    cases hvalue
    exact ⟨.bytes bs, rfl, fun _ => rfl⟩

end SemanticType

/-! ## Rows -/

/-- The row has the values under the names, and is one that was put together, or one that was
fetched whose names differ in more than the case of letters. -/
def Row.Shows (row : Row) (names : List String) (content : String → Value) : Prop :=
  row = .given (names.map fun name => (name, content name))
    ∨ row = .fetched (names.map fun name => (name, content name))
      ∧ ∀ name ∈ names, ∀ other ∈ names, foldAscii other = foldAscii name → other = name

theorem Row.Shows.value? {row : Row} {names : List String} {content : String → Value}
    (h : row.Shows names content) {name : String} (hname : name ∈ names) :
    row.value? name = some (content name) := by
  rcases h with rfl | ⟨rfl, hcase⟩
  · unfold Row.value?
    rw [Row.cells, List.lookup_graph content hname]
  · unfold Row.value?
    rw [Row.cells, List.lookup_graph content hname]
    -- the first name that differs in case at most is this one
    have hfound : (names.find? fun other => Row.foldAscii other == Row.foldAscii name).isSome :=
      List.find?_isSome.mpr ⟨name, hname, beq_self_eq_true _⟩
    obtain ⟨other, hother⟩ := Option.isSome_iff_exists.mp hfound
    have hfold : Row.foldAscii other = Row.foldAscii name := by
      simpa using List.find?_some hother
    have hsame := hcase name hname other (List.mem_of_find?_eq_some hother) hfold
    have hcell : (names.map fun name => (name, content name)).find?
        (fun cell => Row.foldAscii cell.1 == Row.foldAscii name) = some (name, content name) := by
      rw [List.find?_map]
      exact congrArg (Option.map fun name => (name, content name)) (hsame ▸ hother)
    dsimp only
    rw [hcell, Option.map_some]

variable {c : Catalogue} {rs : Records} {row : Row}

/-- Columns in different fields give each its field what their values read as, and leave the other
fields. -/
theorem exists_foldlM_hydrateColumn {S : Column → Value → Prop} {cols : List Column}
    (hfields : (cols.map (·.field)).Nodup)
    (hread : ∀ col ∈ cols, ∃ raw u, row.value? col.name = some raw
      ∧ raw.ofStored (rs.shown c) col.type = .ok u ∧ S col u) (r : Record) :
    ∃ found, cols.foldlM (hydrateColumn c rs row) r = .ok found
      ∧ (∀ col ∈ cols, ∃ u, found.fields.lookup col.field = some u ∧ S col u)
      ∧ ∀ field ∉ cols.map (·.field), found.fields.lookup field = r.fields.lookup field := by
  induction cols generalizing r with
  | nil => exact ⟨r, rfl, by simp, fun _ _ => rfl⟩
  | cons col cols ih =>
    obtain ⟨hfield, hfields⟩ := List.nodup_cons.mp hfields
    obtain ⟨raw, u, hraw, hu, hS⟩ := hread col List.mem_cons_self
    have hround : hydrateColumn c rs row r col = .ok (r.set col.field u) := by
      rw [hydrateColumn, hraw]
      dsimp only
      rw [hu]
    obtain ⟨found, hfound, hcols, hothers⟩ :=
      ih hfields (fun col' hcol' => hread col' (List.mem_cons_of_mem _ hcol')) (r.set col.field u)
    refine ⟨found, ?_, List.forall_mem_cons.mpr ⟨⟨u, ?_, hS⟩, hcols⟩, fun field hnone => ?_⟩
    · rw [List.foldlM_cons, hround]
      exact hfound
    · rw [hothers col.field hfield, Record.set, lookup_setNamed, if_pos rfl]
    · rw [List.map_cons, List.mem_cons, not_or] at hnone
      rw [hothers field hnone.2, Record.set, lookup_setNamed, if_neg hnone.1]

/-- What a row makes of a record : the columns that it has get their fields, and nothing else
changes. -/
structure Row.Fills (c : Catalogue) (rs : Records) (row : Row) (cols : List Column)
    (r found : Record) : Prop where
  className : found.className = r.className
  isPlaceholder : found.isPlaceholder = r.isPlaceholder
  columns : ∀ col ∈ cols, ∀ raw, row.value? col.name = some raw →
    ∃ u, raw.ofStored (rs.shown c) col.type = .ok u ∧ found.fields.lookup col.field = some u
  others : ∀ field ∉ cols.map (·.field), found.fields.lookup field = r.fields.lookup field

/-- A column gets its field from the row, if the row has the column. -/
theorem hydrateColumn_eq_ok {r r' : Record} {col : Column}
    (h : hydrateColumn c rs row r col = .ok r') :
    (row.value? col.name = none ∧ r' = r)
      ∨ ∃ raw u, row.value? col.name = some raw ∧ raw.ofStored (rs.shown c) col.type = .ok u
        ∧ r' = r.set col.field u := by
  unfold hydrateColumn at h
  split at h
  · next hnone =>
    cases h
    exact .inl ⟨hnone, rfl⟩
  · next raw hraw =>
    split at h
    · next u hu =>
      cases h
      exact .inr ⟨raw, u, hraw, hu, rfl⟩
    · cases h

/-- Columns in different fields that are all filled are filled by the row. -/
theorem foldlM_hydrateColumn_eq_ok {cols : List Column} {r found : Record}
    (hfields : (cols.map (·.field)).Nodup)
    (h : cols.foldlM (hydrateColumn c rs row) r = .ok found) : row.Fills c rs cols r found := by
  induction cols generalizing r with
  | nil =>
    cases h
    exact ⟨rfl, rfl, by simp, fun _ _ => rfl⟩
  | cons col cols ih =>
    obtain ⟨hfield, hfields⟩ := List.nodup_cons.mp hfields
    rw [List.foldlM_cons] at h
    obtain ⟨next, hnext, h⟩ := Except.bind_eq_ok.mp h
    have hrest := ih hfields h
    rcases hydrateColumn_eq_ok hnext with ⟨hnone, rfl⟩ | ⟨raw, u, hraw, hu, rfl⟩
    · refine ⟨hrest.className, hrest.isPlaceholder, List.forall_mem_cons.mpr ⟨?_, hrest.columns⟩,
        fun field hnot => hrest.others field fun hmem => hnot (List.mem_cons_of_mem _ hmem)⟩
      intro raw hraw
      cases hnone.symm.trans hraw
    · refine ⟨hrest.className, hrest.isPlaceholder, List.forall_mem_cons.mpr ⟨?_, hrest.columns⟩,
        fun field hnot => ?_⟩
      · intro raw' hraw'
        cases hraw.symm.trans hraw'
        refine ⟨u, hu, ?_⟩
        rw [hrest.others col.field hfield, Record.set, lookup_setNamed, if_pos rfl]
      · rw [List.map_cons, List.mem_cons, not_or] at hnot
        rw [hrest.others field hnot.2, Record.set, lookup_setNamed, if_neg hnot.1]

/-- The entity of a row is an empty one whose columns the row fills. -/
theorem hydrate_eq_ok {e : Entity} {found : Record} (hfields : (e.columns.map (·.field)).Nodup)
    (h : hydrate c rs e row = .ok found) :
    ∃ empty, Record.empty c e.className = .ok empty ∧ row.Fills c rs e.columns empty found := by
  obtain ⟨empty, hempty, h⟩ := Except.bind_eq_ok.mp h
  exact ⟨empty, Except.mapError_eq_ok.mp hempty, foldlM_hydrateColumn_eq_ok hfields h⟩

end EntityMap
