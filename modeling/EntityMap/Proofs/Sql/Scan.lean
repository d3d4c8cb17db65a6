import Mathlib.Data.List.Induction
import EntityMap.Sql.Statement

/-!
# Scanning SQL

`scan` takes a text of SQL apart as SQL reads it : a text between marks is one lexeme, in which a
mark stands doubled, and every other character is one of its own. Between characters without marks
and quoted texts nothing is lost (`scan_plain_append`, `scan_quote_append`).

`names` are the texts between double marks. What names a statement has is read off its text, part
by part (`names_select`, `names_insert`, `names_update` and so on) : the table, and then the
columns in their order.
-/

namespace EntityMap

open Text

/-! ## Lexemes -/

/-- A part of a text of SQL. -/
inductive Lexeme
  /-- A text between two marks, in which the mark is not doubled any more. -/
  | quoted (mark : Char) (content : List Char)
  /-- A text after a mark that is never closed. -/
  | unclosed (mark : Char) (content : List Char)
  | sign (c : Char)
  deriving DecidableEq, Repr

/-- The character opens a quoted text. -/
def isMark (c : Char) : Bool := c == '"' || c == '\''

/-- How far a scan has come. -/
inductive ScanState
  | outside
  /-- After an opening mark and what has followed it. -/
  | inside (mark : Char) (content : List Char)
  /-- After one more mark, which closes the text unless it is doubled. -/
  | closing (mark : Char) (content : List Char)

/-- The lexemes of the characters that are left. -/
def scanFrom : ScanState → List Char → List Lexeme
  | .outside, [] => []
  | .inside mark content, [] => [.unclosed mark content]
  | .closing mark content, [] => [.quoted mark content]
  | .outside, c :: cs =>
    if isMark c then scanFrom (.inside c []) cs else .sign c :: scanFrom .outside cs
  | .inside mark content, c :: cs =>
    if c = mark then scanFrom (.closing mark content) cs
    else scanFrom (.inside mark (content ++ [c])) cs
  | .closing mark content, c :: cs =>
    if c = mark then scanFrom (.inside mark (content ++ [mark])) cs
    else
      .quoted mark content ::
        (if isMark c then scanFrom (.inside c []) cs else .sign c :: scanFrom .outside cs)

/-- The lexemes of a text. -/
def scan (cs : List Char) : List Lexeme := scanFrom .outside cs

/-- No character is a mark. -/
def Plain (cs : List Char) : Prop := ∀ c ∈ cs, isMark c = false

instance (cs : List Char) : Decidable (Plain cs) := List.decidableBAll _ cs

theorem Plain.mono {cs ds : List Char} (h : Plain ds) (hsub : cs ⊆ ds) : Plain cs :=
  fun c hc => h c (hsub hc)

theorem plain_nil : Plain [] :=
  List.forall_mem_nil _

theorem plain_cons {c : Char} {cs : List Char} :
    Plain (c :: cs) ↔ isMark c = false ∧ Plain cs :=
  List.forall_mem_cons

theorem Plain.append {cs ds : List Char} (hcs : Plain cs) (hds : Plain ds) : Plain (cs ++ ds) :=
  List.forall_mem_append.mpr ⟨hcs, hds⟩

/-- Characters without marks are lexemes of their own. -/
theorem scan_plain_append {cs : List Char} (h : Plain cs) (rest : List Char) :
    scan (cs ++ rest) = cs.map .sign ++ scan rest := by
  induction cs with
  | nil => rfl
  | cons c cs ih =>
    have hc : isMark c = false := h c List.mem_cons_self
    have htail : scan (cs ++ rest) = cs.map .sign ++ scan rest :=
      ih fun d hd => h d (List.mem_cons_of_mem _ hd)
    simp only [scan] at htail ⊢
    simp [scanFrom, hc, htail]

/-- A closed text ends where no further mark follows. -/
theorem scanFrom_closing {mark : Char} {rest : List Char} (h : rest.head? ≠ some mark)
    (content : List Char) :
    scanFrom (.closing mark content) rest = .quoted mark content :: scan rest := by
  cases rest with
  | nil => rfl
  | cons c cs =>
    have hc : c ≠ mark := by simpa using h
    simp [scan, scanFrom, hc]

theorem scanFrom_inside {mark : Char} {rest : List Char} (h : rest.head? ≠ some mark)
    (content cs : List Char) :
    scanFrom (.inside mark content) (doubleMarks mark cs ++ mark :: rest) =
      .quoted mark (content ++ cs) :: scan rest := by
  induction cs generalizing content with
  | nil => simp [doubleMarks, scanFrom, scanFrom_closing h]
  | cons c cs ih =>
    by_cases hc : c = mark
    · subst hc
      simp [doubleMarks, scanFrom, ih]
    · simp [doubleMarks, scanFrom, hc, ih]

/-- A quoted text is one lexeme, whatever follows but another mark. -/
theorem scan_quote_append {mark : Char} {rest : List Char} (hmark : isMark mark = true)
    (h : rest.head? ≠ some mark) (cs : List Char) :
    scan (quote mark cs ++ rest) = .quoted mark cs :: scan rest := by
  simp [scan, quote, scanFrom, hmark, scanFrom_inside h]

/-! ## Names -/

/-- The name that a lexeme is, if it stands between double marks. -/
def Lexeme.name? : Lexeme → Option String
  | quoted '"' content => some (String.ofList content)
  | _ => none

/-- The names in a text of SQL, in order. -/
def names (cs : List Char) : List String := (scan cs).filterMap (·.name?)

/-- The names in a statement, in order. -/
def Statement.names (s : Statement) : List String := EntityMap.names s.text.toList

theorem names_plain_append {cs : List Char} (h : Plain cs) (rest : List Char) :
    names (cs ++ rest) = names rest := by
  have hsigns : (cs.map Lexeme.sign).filterMap (·.name?) = [] := by
    rw [List.filterMap_eq_nil_iff, List.forall_mem_map]
    exact fun _ _ => rfl
  rw [names, scan_plain_append h, List.filterMap_append, hsigns, List.nil_append, names]

@[simp] theorem names_nil : names [] = [] :=
  rfl

theorem names_plain {cs : List Char} (h : Plain cs) : names cs = [] := by
  have happend := names_plain_append h []
  rwa [List.append_nil] at happend

/-- What follows begins with no mark, so that it does not continue a quoted text. -/
def EndsName (rest : List Char) : Prop := Plain (rest.take 1)

instance (rest : List Char) : Decidable (EndsName rest) :=
  inferInstanceAs (Decidable (Plain (rest.take 1)))

theorem EndsName.nil : EndsName [] :=
  plain_nil

theorem EndsName.of_plain {cs : List Char} (h : Plain cs) (hcs : cs ≠ []) (rest : List Char) :
    EndsName (cs ++ rest) := by
  cases cs with
  | nil => exact absurd rfl hcs
  | cons c cs => exact plain_cons.mpr ⟨(plain_cons.mp h).1, plain_nil⟩

theorem EndsName.head?_ne {rest : List Char} (h : EndsName rest) {mark : Char}
    (hmark : isMark mark = true) : rest.head? ≠ some mark := by
  intro hhead
  obtain ⟨cs, rfl⟩ := List.head?_eq_some_iff.mp hhead
  exact absurd ((plain_cons.mp h).1.symm.trans hmark) Bool.false_ne_true

theorem names_identifier_append {rest : List Char} (h : EndsName rest) (name : String) :
    names ((identifier name).toList ++ rest) = name :: names rest := by
  rw [names, identifier, String.toList_ofList,
    scan_quote_append (by decide) (h.head?_ne (by decide)),
    List.filterMap_cons_some (b := name), names]
  simp [Lexeme.name?]

/-! ## Lists of names -/

/-- The text has its names whatever follows. -/
def Complete (text : String) : Prop :=
  ∀ rest, EndsName rest → names (text.toList ++ rest) = names text.toList ++ names rest

/-- A text is complete, and has certain names, if what follows adds its own names to them. -/
theorem complete_of {text : String} {ns : List String}
    (h : ∀ rest, EndsName rest → names (text.toList ++ rest) = ns ++ names rest) :
    Complete text ∧ names text.toList = ns := by
  have hns : names text.toList = ns := by simpa using h [] EndsName.nil
  exact ⟨fun rest hrest => hns.symm ▸ h rest hrest, hns⟩

theorem complete_plain {text : String} (h : Plain text.toList) :
    Complete text ∧ names text.toList = [] :=
  complete_of fun rest _ => names_plain_append h rest

theorem complete_identifier (name : String) :
    Complete (identifier name) ∧ names (identifier name).toList = [name] :=
  complete_of fun _ h => names_identifier_append h name

/-- The names of complete parts that stand between signs are those of each part, in their order. -/
theorem names_intercalate {between : String} (hplain : Plain between.toList)
    (hbetween : between.toList ≠ []) {parts : List String} (hparts : ∀ p ∈ parts, Complete p)
    {rest : List Char} (h : EndsName rest) :
    names ((between.intercalate parts).toList ++ rest) =
      parts.flatMap (fun p => names p.toList) ++ names rest := by
  rw [String.toList_intercalate]
  induction parts with
  | nil => simp
  | cons p parts ih =>
    obtain ⟨hp, hrest⟩ := List.forall_mem_cons.mp hparts
    cases parts with
    | nil => simpa using hp rest h
    | cons q parts =>
      have htail := EndsName.of_plain hplain hbetween
        (between.toList.intercalate ((q :: parts).map String.toList) ++ rest)
      rw [List.map_cons, List.map_cons, List.intercalate_cons_cons, ← List.map_cons,
        List.append_assoc, List.append_assoc, hp _ htail, names_plain_append hplain, ih hrest,
        ← List.append_assoc]
      rfl

/-- If each part is complete and has one name, they have these names. -/
theorem names_intercalate_map {part : String → String} {between : String}
    (hplain : Plain between.toList) (hbetween : between.toList ≠ [])
    (hpart : ∀ name, Complete (part name) ∧ names (part name).toList = [name])
    (ns : List String) {rest : List Char} (h : EndsName rest) :
    names ((between.intercalate (ns.map part)).toList ++ rest) = ns ++ names rest := by
  have hparts : ∀ p ∈ ns.map part, Complete p := List.forall_mem_map.mpr fun n _ => (hpart n).1
  rw [names_intercalate hplain hbetween hparts h, List.flatMap_map]
  simp only [(hpart _).2, List.flatMap_singleton']

theorem names_identifiers_append (ns : List String) {rest : List Char} (h : EndsName rest) :
    names ((identifiers ns).toList ++ rest) = ns ++ names rest :=
  names_intercalate_map (by decide) (by decide) complete_identifier ns h

theorem names_comparison_append (column : String) (rest : List Char) :
    names ((comparison column).toList ++ rest) = column :: names rest := by
  have hequals : Plain " = ?".toList := by decide
  have hends := EndsName.of_plain hequals (by decide) rest
  rw [comparison, String.toList_append, List.append_assoc, names_identifier_append hends,
    names_plain_append hequals]

theorem names_assignments_append (columns : List String) {rest : List Char} (h : EndsName rest) :
    names ((assignments columns).toList ++ rest) = columns ++ names rest :=
  names_intercalate_map (by decide) (by decide)
    (fun name => complete_of fun rest _ => names_comparison_append name rest) columns h

/-! ## Conditions and orders -/

/-- The words between the comparisons have no marks. -/
def Filter.PlainWords : Filter → Prop
  | .all => True
  | .equals _ rest => ∀ r ∈ rest, Plain r.1.toList

theorem names_joinedComparison_append {word : String} (h : Plain word.toList) (column : String)
    (rest : List Char) :
    names ((joinedComparison word column).toList ++ rest) = column :: names rest := by
  have hword : Plain (" " ++ word ++ " ").toList := by
    rw [String.toList_append, String.toList_append]
    exact (Plain.append (by decide) h).append (by decide)
  rw [joinedComparison, String.toList_append, List.append_assoc, names_plain_append hword,
    names_comparison_append]

/-- A filter names its columns. -/
theorem names_filter_append {f : Filter} (h : f.PlainWords) (rest : List Char) :
    names (f.text.toList ++ rest) = f.columns ++ names rest := by
  cases f with
  | all => simp [Filter.text, Filter.columns]
  | equals first joined =>
    rw [Filter.text, Filter.columns]
    induction joined using List.reverseRecOn generalizing rest with
    | nil => simpa using names_comparison_append first rest
    | append_singleton joined r ih =>
      have hr : Plain r.1.toList := h r (by simp)
      have hjoined : (Filter.equals first joined).PlainWords := fun r' hr' =>
        h r' (List.mem_append_left _ hr')
      rw [List.foldl_append, List.foldl_cons, List.foldl_nil, String.toList_append,
        List.append_assoc, ih _ hjoined, names_joinedComparison_append hr]
      simp

/-- A clause has the names of its text. -/
theorem names_clause_append {keyword text : String} {ns : List String}
    (hkeyword : Plain keyword.toList) {rest : List Char}
    (htext : names (text.toList ++ rest) = ns ++ names rest) :
    names ((clause keyword text).toList ++ rest) = ns ++ names rest := by
  unfold clause
  split
  · next hempty => simpa [hempty] using htext
  · rw [String.toList_append, List.append_assoc, names_plain_append hkeyword, htext]

theorem ends_clause {keyword : String} (hkeyword : Plain keyword.toList)
    (hne : keyword.toList ≠ []) (text : String) {rest : List Char} (h : EndsName rest) :
    EndsName ((clause keyword text).toList ++ rest) := by
  unfold clause
  split
  · exact h
  · rw [String.toList_append, List.append_assoc]
    exact EndsName.of_plain hkeyword hne _

/-- The columns that a selection names. -/
def Selection.columns (s : Selection) : List String :=
  s.filter.columns ++ (s.order.map (·.column)).toList

theorem names_orderText (s : Selection) :
    names s.orderText.toList = (s.order.map (·.column)).toList := by
  cases ho : s.order with
  | none => simp [Selection.orderText, ho]
  | some o =>
    have hdirection : Plain (" " ++ o.direction.word).toList := by
      cases o.direction <;> decide
    have hends : EndsName (" " ++ o.direction.word).toList := by
      have happend := EndsName.of_plain hdirection (by simp) []
      rwa [List.append_nil] at happend
    simp only [Selection.orderText, ho, Option.elim_some, SortTerm.text, Option.map_some,
      Option.toList_some]
    rw [String.append_assoc, String.toList_append, names_identifier_append hends,
      names_plain hdirection]

/-- What follows the table in a selection names its columns. -/
theorem names_suffix {s : Selection} (h : s.filter.PlainWords) :
    names s.suffix.toList = s.columns := by
  have hwhere : Plain " WHERE ".toList := by decide
  have hkeyword : Plain " ORDER BY ".toList := by decide
  have horder : names (clause " ORDER BY " s.orderText).toList
      = (s.order.map (·.column)).toList := by
    have htext : names (s.orderText.toList ++ []) =
        (s.order.map (·.column)).toList ++ names [] := by
      simpa using names_orderText s
    simpa using names_clause_append hkeyword htext
  rw [Selection.suffix, String.toList_append,
    names_clause_append hwhere (names_filter_append h _), horder, Selection.columns]

theorem ends_suffix (s : Selection) : EndsName s.suffix.toList := by
  have hkeyword : Plain " ORDER BY ".toList := by decide
  have horder := ends_clause hkeyword (by decide) s.orderText EndsName.nil
  rw [List.append_nil] at horder
  rw [Selection.suffix, String.toList_append]
  exact ends_clause (by decide) (by decide) _ horder

/-! ## Statements -/

/-- The name after a keyword, and then the names of what follows. -/
theorem names_keyword {keyword : String} (hkeyword : Plain keyword.toList) (table : String)
    {rest : String} (h : EndsName rest.toList) :
    names (keyword ++ identifier table ++ rest).toList = table :: names rest.toList := by
  rw [String.append_assoc, String.toList_append, names_plain_append hkeyword, String.toList_append,
    names_identifier_append h]

theorem names_select (table : String) {s : Selection} (h : s.filter.PlainWords) :
    (Statement.select table s).names = table :: s.columns := by
  have hkeyword : Plain "SELECT * FROM ".toList := by decide
  show names ("SELECT * FROM " ++ identifier table ++ s.suffix).toList = _
  rw [names_keyword hkeyword table (ends_suffix s), names_suffix h]

theorem names_count (table : String) {s : Selection} (h : s.filter.PlainWords) :
    (Statement.count table s).names = table :: s.columns := by
  have hkeyword : Plain "SELECT COUNT(*) FROM ".toList := by decide
  show names ("SELECT COUNT(*) FROM " ++ identifier table ++ s.suffix).toList = _
  rw [names_keyword hkeyword table (ends_suffix s), names_suffix h]

/-- Places for parameters hold no marks. -/
theorem plain_parameters (n : Nat) : Plain (parameters n).toList := by
  have hreplicate : ∀ n, Plain ((", ".toList).intercalate (List.replicate n "?".toList)) := by
    intro n
    induction n with
    | zero => decide
    | succ n ih =>
      cases n with
      | zero => decide
      | succ n =>
        rw [List.replicate_succ, List.replicate_succ, List.intercalate_cons_cons,
          ← List.replicate_succ]
        exact (Plain.append (by decide) (by decide)).append ih
  rw [parameters, String.toList_intercalate, List.map_replicate]
  exact hreplicate n

theorem names_insert (table : String) (columns : List String) :
    (Statement.insert table columns).names = table :: columns := by
  have hkeyword : Plain "INSERT INTO ".toList := by decide
  show names (insertText table columns).toList = _
  unfold insertText
  split
  · next hempty =>
    have hdefaults : Plain " DEFAULT VALUES".toList := by decide
    rw [names_keyword hkeyword table (by decide), names_plain hdefaults,
      List.isEmpty_iff.mp hempty]
  · have hopen : Plain " (".toList := by decide
    have hclose : Plain (") VALUES (" ++ (parameters columns.length ++ ")")).toList := by
      rw [String.toList_append, String.toList_append]
      exact Plain.append (by decide) ((plain_parameters _).append (by decide))
    have hends : EndsName (") VALUES (" ++ (parameters columns.length ++ ")")).toList := by
      rw [String.toList_append]
      exact EndsName.of_plain (by decide) (by decide) _
    simp only [String.append_assoc]
    rw [← String.append_assoc, names_keyword hkeyword table, String.toList_append,
      names_plain_append hopen, String.toList_append, names_identifiers_append columns hends,
      names_plain hclose, List.append_nil]
    rw [String.toList_append]
    exact EndsName.of_plain hopen (by decide) _

/-- An update names the columns that it sets and then those of its condition. -/
theorem names_update (table : String) (columns : List String) {f : Filter} (h : f.PlainWords) :
    (Statement.update table columns (.filter f)).names = table :: (columns ++ f.columns) := by
  have hkeyword : Plain "UPDATE ".toList := by decide
  have hset : Plain " SET ".toList := by decide
  have hwhere : Plain " WHERE ".toList := by decide
  have hcondition := names_clause_append hwhere (names_filter_append h [])
  have hends := ends_clause hwhere (by decide) f.text EndsName.nil
  rw [List.append_nil] at hcondition hends
  show names ("UPDATE " ++ identifier table ++ " SET " ++ assignments columns
    ++ clause " WHERE " f.text).toList = _
  simp only [String.append_assoc]
  rw [← String.append_assoc, names_keyword hkeyword table, String.toList_append,
    names_plain_append hset, String.toList_append, names_assignments_append columns hends,
    hcondition, names_nil, List.append_nil]
  rw [String.toList_append]
  exact EndsName.of_plain hset (by decide) _

theorem names_delete (table : String) {f : Filter} (h : f.PlainWords) :
    (Statement.delete table (.filter f)).names = table :: f.columns := by
  have hkeyword : Plain "DELETE FROM ".toList := by decide
  have hwhere : Plain " WHERE ".toList := by decide
  have hcondition := names_clause_append hwhere (names_filter_append h [])
  have hends := ends_clause hwhere (by decide) f.text EndsName.nil
  rw [List.append_nil] at hcondition hends
  show names ("DELETE FROM " ++ identifier table ++ clause " WHERE " f.text).toList = _
  rw [names_keyword hkeyword table hends, hcondition, names_nil, List.append_nil]

end EntityMap
