import EntityMap.Proofs.Sql.Numeral
import EntityMap.Schema.Definition

/-!
# The names in a table definition

The text of a definition names the table, then its columns, and then for each foreign key its
column, the other table and the column there (`names_createTable`). The default of a column adds no
name : a numeral holds no mark (`IsNumeral.plain`), and a text stands between marks of its own.
-/

namespace EntityMap

open Text

/-! ## Columns -/

/-- A default names nothing. -/
theorem complete_literal (l : Literal) : Complete l.sql ∧ names l.sql.toList = [] := by
  cases l with
  | text s =>
    refine complete_of fun rest h => ?_
    rw [Literal.sql, stringLiteral, String.toList_ofList, names,
      scan_quote_append (by decide) (h.head?_ne (by decide))]
    rfl
  | int i => exact complete_plain (isNumeral_toString i).plain
  | real x => exact complete_plain (isNumeral_text x).plain

/-- A name, and words that name nothing. -/
theorem complete_name_words (name : String) {words : List String}
    (hwords : ∀ w ∈ words, Complete w ∧ names w.toList = []) :
    Complete (" ".intercalate (identifier name :: words))
      ∧ names (" ".intercalate (identifier name :: words)).toList = [name] := by
  have hparts : ∀ p ∈ identifier name :: words, Complete p :=
    List.forall_mem_cons.mpr ⟨(complete_identifier name).1, fun w hw => (hwords w hw).1⟩
  have hnames : words.flatMap (fun w => names w.toList) = [] :=
    List.flatMap_eq_nil_iff.mpr fun w hw => (hwords w hw).2
  refine complete_of fun rest h => ?_
  rw [names_intercalate (by decide) (by decide) hparts h, List.flatMap_cons,
    (complete_identifier name).2, hnames, List.append_nil]

/-- The definition of a column names the column. -/
theorem complete_column (c : ColumnDefinition) :
    Complete c.sql ∧ names c.sql.toList = [c.name] := by
  have hkeyword : ∀ {given : Bool} {word w : String}, Plain word.toList →
      w ∈ (if given then [word] else []) → Complete w ∧ names w.toList = [] := by
    intro given word w hword hw
    cases given with
    | true =>
      rw [List.mem_singleton.mp hw]
      exact complete_plain hword
    | false => exact absurd hw List.not_mem_nil
  unfold ColumnDefinition.sql ColumnDefinition.parts
  simp only [List.append_assoc, List.cons_append, List.nil_append]
  refine complete_name_words c.name fun w hw => ?_
  simp only [List.mem_cons, List.mem_append] at hw
  rcases hw with rfl | hw | hw | hw | hw | hw
  · exact complete_plain (by cases c.type <;> decide)
  · exact hkeyword (by decide) hw
  · exact hkeyword (by decide) hw
  · exact hkeyword (by decide) hw
  · exact hkeyword (by decide) hw
  · split at hw
    · next l _ =>
      rw [List.mem_singleton.mp hw]
      obtain ⟨hcomplete, hnames⟩ := complete_literal l
      refine complete_of fun rest h => ?_
      rw [String.toList_append, List.append_assoc, names_plain_append (by decide),
        hcomplete rest h, hnames]
    · exact absurd hw List.not_mem_nil

/-- What a foreign key names : its column, the other table and the column there. -/
def ForeignKey.names (k : ForeignKey) : List String := [k.column, k.table, k.references]

theorem complete_foreignKey (k : ForeignKey) :
    Complete k.sql ∧ names k.sql.toList = k.names := by
  have hopen : Plain "FOREIGN KEY (".toList := by decide
  have hreferences : Plain ") REFERENCES ".toList := by decide
  have hcolumn : Plain " (".toList := by decide
  have hclose : Plain ")".toList := by decide
  refine complete_of fun rest _ => ?_
  unfold ForeignKey.sql
  simp only [String.toList_append, List.append_assoc]
  rw [names_plain_append hopen,
    names_identifier_append (EndsName.of_plain hreferences (by decide) _),
    names_plain_append hreferences,
    names_identifier_append (EndsName.of_plain hcolumn (by decide) _),
    names_plain_append hcolumn, names_identifier_append (EndsName.of_plain hclose (by decide) _),
    names_plain_append hclose]
  rfl

/-! ## Tables -/

/-- The definition of a table names the table, its columns, and what its foreign keys name. -/
theorem names_createTable (t : TableDefinition) : (Statement.createTable t).names =
    t.name :: (t.columns.map (·.name) ++ t.foreignKeys.flatMap (·.names)) := by
  have hkeyword : Plain "CREATE TABLE IF NOT EXISTS ".toList := by decide
  have hopen : Plain " (\n    ".toList := by decide
  have hclose : Plain "\n);".toList := by decide
  have hparts : ∀ p ∈ t.columns.map (·.sql) ++ t.foreignKeys.map (·.sql), Complete p :=
    List.forall_mem_append.mpr ⟨List.forall_mem_map.mpr fun c _ => (complete_column c).1,
      List.forall_mem_map.mpr fun k _ => (complete_foreignKey k).1⟩
  have hends : EndsName "\n);".toList := by decide
  show names t.sql.toList = _
  unfold TableDefinition.sql
  simp only [String.toList_append, List.append_assoc]
  rw [names_plain_append hkeyword,
    names_identifier_append (EndsName.of_plain hopen (by decide) _), names_plain_append hopen,
    names_intercalate (by decide) (by decide) hparts hends, names_plain hclose, List.append_nil,
    List.flatMap_append, List.flatMap_map, List.flatMap_map]
  simp only [(complete_column _).2, (complete_foreignKey _).2, ← List.map_eq_flatMap]

end EntityMap
