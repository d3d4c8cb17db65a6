import EntityMap.Proofs.Sql.Condition
import EntityMap.Proofs.Sql.TableText

/-!
# The places for parameters

A parameter belongs to a place, which is a sign of its own in the text of a statement :
`placeColumns?` reads off the tokens, place by place, the column that each is for. In an insertion
the places are counted off against the names before them ; everywhere else a place follows the
column that it is compared with or assigned to. A place for no column makes the reading fail, so
what is read has one column for each place (`count_of_placeColumns?`).

Every statement but the definition of a table is read back as the columns that it is made of, the
ones that are set before the ones that are compared (`placeColumns?_statement`). Names are single
tokens, whatever characters they have, and a question mark in a name is no place.
-/

namespace EntityMap

open Text

/-! ## Reading -/

/-- Reads the columns that are compared or assigned, each before its place. -/
def comparedColumns? : List SqlToken → Option (List String)
  | [] => some []
  | .name c :: .sign '=' :: .sign '?' :: ts => (comparedColumns? ts).map (c :: ·)
  | t :: ts => if t = .sign '?' then none else comparedColumns? ts

/-- Reads names with commas between them, up to a closing bracket. -/
def readNames? : List SqlToken → Option (List String × List SqlToken)
  | .name c :: .sign ',' :: ts => (readNames? ts).map fun r => (c :: r.1, r.2)
  | .name c :: .sign ')' :: ts => some ([c], ts)
  | _ => none

/-- Counts places with commas between them, up to a closing bracket at the end. -/
def countPlaces? : List SqlToken → Option Nat
  | .sign '?' :: .sign ',' :: ts => (countPlaces? ts).map (· + 1)
  | [.sign '?', .sign ')'] => some 1
  | _ => none

/-- Reads the columns of an insertion from what follows the table's name : there are as many places
as names, or neither names nor places. -/
def insertedColumns? (ts : List SqlToken) : Option (List String) :=
  if ts = [.word "DEFAULT", .word "VALUES"] then some []
  else do
    let (columns, rest) ← readNames? (← after? [.sign '('] ts)
    let n ← countPlaces? (← after? [.word "VALUES", .sign '('] rest)
    if n = columns.length then some columns else none

/-- Reads the column of each place of a statement. -/
def placeColumns? (ts : List SqlToken) : Option (List String) :=
  match after? (wordTokens ["INSERT", "INTO"]) ts with
  | some (.name _ :: rest) => insertedColumns? rest
  | _ => comparedColumns? ts

/-! ## One column for each place -/

theorem count_of_comparedColumns? {ts : List SqlToken} {cs : List String}
    (h : comparedColumns? ts = some cs) : ts.count (.sign '?') = cs.length := by
  fun_induction comparedColumns? ts generalizing cs with
  | case1 =>
    cases h
    rfl
  | case2 c ts ih =>
    obtain ⟨cs, hcs, rfl⟩ := Option.map_eq_some_iff.mp h
    simp [ih hcs]
  | case3 => cases h
  | case4 t ts _ hne ih =>
    rw [List.count_cons_of_ne hne, ih h]

theorem count_of_readNames? {ts rest : List SqlToken} {cs : List String}
    (h : readNames? ts = some (cs, rest)) : ts.count (.sign '?') = rest.count (.sign '?') := by
  fun_induction readNames? ts generalizing cs with
  | case1 c ts ih =>
    obtain ⟨⟨cs, rest⟩, hcs, heq⟩ := Option.map_eq_some_iff.mp h
    cases heq
    simp [ih hcs]
  | case2 c ts =>
    cases h
    simp
  | case3 => cases h

theorem count_of_countPlaces? {ts : List SqlToken} {n : Nat} (h : countPlaces? ts = some n) :
    ts.count (.sign '?') = n := by
  fun_induction countPlaces? ts generalizing n with
  | case1 ts ih =>
    obtain ⟨n, hn, rfl⟩ := Option.map_eq_some_iff.mp h
    simp [ih hn]
  | case2 =>
    cases h
    rfl
  | case3 => cases h

theorem count_of_insertedColumns? {ts : List SqlToken} {cs : List String}
    (h : insertedColumns? ts = some cs) : ts.count (.sign '?') = cs.length := by
  unfold insertedColumns? at h
  split at h
  · next hdefaults =>
    cases h
    rw [hdefaults]
    rfl
  · obtain ⟨inner, hinner, h⟩ := Option.bind_eq_some_iff.mp h
    obtain ⟨⟨columns, rest⟩, hcolumns, h⟩ := Option.bind_eq_some_iff.mp h
    obtain ⟨places, hplaces, h⟩ := Option.bind_eq_some_iff.mp h
    obtain ⟨n, hn, h⟩ := Option.bind_eq_some_iff.mp h
    split at h
    · next hlength =>
      cases h
      rw [after?_eq_some hinner, List.count_append, count_of_readNames? hcolumns,
        after?_eq_some hplaces, List.count_append, count_of_countPlaces? hn, hlength]
      simp
    · cases h

/-- What is read has as many columns as there are places. -/
theorem count_of_placeColumns? {ts : List SqlToken} {cs : List String}
    (h : placeColumns? ts = some cs) : ts.count (.sign '?') = cs.length := by
  unfold placeColumns? at h
  split at h
  · next name rest hinsert =>
    rw [after?_eq_some hinsert, List.count_append, List.count_cons_of_ne (by simp),
      count_of_insertedColumns? h]
    simp [wordTokens]
  · exact count_of_comparedColumns? h

/-! ## Columns that are compared -/

/-- Among the tokens the places are for these columns, whatever follows. -/
def Places (ts : List SqlToken) (cs : List String) : Prop :=
  ∀ rest, comparedColumns? (ts ++ rest) = (comparedColumns? rest).map (cs ++ ·)

theorem Places.read {ts : List SqlToken} {cs : List String} (h : Places ts cs) :
    comparedColumns? ts = some cs := by
  simpa [comparedColumns?] using h []

theorem Places.nil : Places [] [] := by
  intro rest
  simp

theorem Places.append {ts us : List SqlToken} {cs ds : List String} (h : Places ts cs)
    (h' : Places us ds) : Places (ts ++ us) (cs ++ ds) := by
  intro rest
  rw [List.append_assoc, h, h', Option.map_map]
  simp [Function.comp_def]

/-- The token is a word or a sign, but no place. -/
def SqlToken.isFiller : SqlToken → Bool
  | word _ => true
  | sign c => c != '?'
  | _ => false

theorem places_filler {ts : List SqlToken} (h : ts.all (·.isFiller) = true) : Places ts [] := by
  intro rest
  induction ts with
  | nil => simp
  | cons t ts ih =>
    rw [List.all_cons, Bool.and_eq_true] at h
    rw [← ih h.2]
    cases t with
    | word w => simp [comparedColumns?]
    | sign c =>
      have hc : c ≠ '?' := by simpa [SqlToken.isFiller] using h.1
      simp [comparedColumns?, hc]
    | _ => cases h.1

theorem places_comparison (column : String) : Places (comparisonTokens column) [column] := by
  intro rest
  simp [comparisonTokens, comparedColumns?]

/-- A name that nothing is compared with has no place. -/
theorem comparedColumns?_name_cons (name : String) {ts : List SqlToken}
    (h : ts.head? ≠ some (.sign '=')) :
    comparedColumns? (.name name :: ts) = comparedColumns? ts := by
  cases ts with
  | nil => rfl
  | cons t ts =>
    have hne : t ≠ .sign '=' := by simpa using h
    rw [comparedColumns?]
    · simp
    · rintro _ _ - heq
      exact hne (List.cons.inj heq).1

/-! ## Clauses -/

/-- The text can come after a name, and its places are for these columns. -/
structure ClauseText (text : String) (columns : List String) : Prop where
  ends : ∀ rest, EndsToken rest → EndsToken (text.toList ++ rest)
  tokens : ∃ ts, HasTokens text ts ∧ Places ts columns ∧ ts.head? ≠ some (.sign '=')

theorem clauseText_empty : ClauseText "" [] :=
  ⟨fun _ h => h, [], fun _ _ => rfl, .nil, by simp⟩

/-- The text is a word and then words and signs that are no places, up to a blank. -/
structure IsKeyword (text : String) (word : String) : Prop where
  breaks : BreaksAtEnd text.toList
  tokens : ∃ ts, tokens text.toList = .word word :: ts ∧ ts.all (·.isFiller) = true

theorem clauseText_keyword {keyword text word : String} {ts : List SqlToken}
    {columns : List String} (hkeyword : IsKeyword keyword word)
    (hstart : BreaksAtStart keyword.toList) (htext : HasTokens text ts)
    (hplaces : Places ts columns) : ClauseText (keyword ++ text) columns where
  ends rest _ := by
    rw [String.toList_append, List.append_assoc]
    exact EndsToken.of_breaksAtStart hstart _
  tokens := by
    obtain ⟨us, hus, hfiller⟩ := hkeyword.tokens
    refine ⟨(.word word :: us) ++ ts, fun rest hrest => ?_, ?_, by simp⟩
    · rw [String.toList_append, List.append_assoc,
        tokens_append_of_breaksAtEnd hkeyword.breaks, hus, htext rest hrest, List.append_assoc]
    · have hword : Places (.word word :: us) [] := places_filler hfiller
      exact hword.append hplaces

theorem ClauseText.append {text text' : String} {cs ds : List String} (h : ClauseText text cs)
    (h' : ClauseText text' ds) : ClauseText (text ++ text') (cs ++ ds) where
  ends rest hrest := by
    rw [String.toList_append, List.append_assoc]
    exact h.ends _ (h'.ends rest hrest)
  tokens := by
    obtain ⟨ts, hts, hcs, hhead⟩ := h.tokens
    obtain ⟨us, hus, hds, hhead'⟩ := h'.tokens
    refine ⟨ts ++ us, fun rest hrest => ?_, hcs.append hds, ?_⟩
    · rw [String.toList_append, List.append_assoc, hts _ (h'.ends rest hrest), hus rest hrest,
        List.append_assoc]
    · cases ts with
      | nil => exact hhead'
      | cons t ts => exact hhead

theorem places_joinedTokens (joined : List (Method.Connector × String)) :
    Places (joinedTokens joined) (joined.map (·.2)) := by
  induction joined with
  | nil => exact .nil
  | cons r joined ih =>
    have hword : Places [.word r.1.word] [] := places_filler rfl
    exact (hword.append (places_comparison r.2)).append ih

/-- The condition of a filter compares its columns. -/
theorem Filter.Connected.clauseText {f : Filter} (h : f.Connected) :
    ClauseText (clause " WHERE " f.text) f.columns := by
  cases f with
  | all => exact clauseText_empty
  | equals first rest =>
    -- Between what is compared stand the words of connectors, which are no names.
    obtain ⟨joined, rfl⟩ : ∃ joined : List (Method.Connector × String),
        rest = joined.map fun r => (r.1.word, r.2) := by
      induction rest with
      | nil => exact ⟨[], rfl⟩
      | cons r rest ih =>
        obtain ⟨k, hk⟩ := h r List.mem_cons_self
        obtain ⟨joined, rfl⟩ := ih fun r hr => h r (List.mem_cons_of_mem _ hr)
        exact ⟨(k, r.2) :: joined, by simp [← hk]⟩
    have htext := hasTokens_filter first joined
    have hplaces : Places (comparisonTokens first ++ joinedTokens joined)
        (Filter.equals first (joined.map fun r => (r.1.word, r.2))).columns := by
      rw [Filter.columns, List.map_map]
      exact (places_comparison first).append (places_joinedTokens joined)
    unfold clause
    split
    · next hempty =>
      have h := htext.tokens_eq
      rw [hempty] at h
      simp [comparisonTokens] at h
    · have hkeyword : IsKeyword " WHERE " "WHERE" := ⟨by decide, [], by decide, rfl⟩
      exact clauseText_keyword hkeyword (by decide) htext hplaces

/-- An order has no places. -/
theorem clauseText_order (s : Selection) : ClauseText (clause " ORDER BY " s.orderText) [] := by
  have hkeyword : IsKeyword " ORDER BY " "ORDER" := ⟨by decide, [.word "BY"], by decide, rfl⟩
  unfold clause
  split
  · exact clauseText_empty
  · next hsome =>
    rcases horder : s.order with _ | o
    · exact absurd (by rw [Selection.orderText, horder]; rfl) hsome
    · rw [Selection.orderText, horder]
      refine clauseText_keyword hkeyword (by decide) (hasTokens_sortTerm o) fun rest => ?_
      have hword : Places [.word o.direction.word] [] := places_filler rfl
      rw [List.cons_append, comparedColumns?_name_cons _ (by simp)]
      exact hword rest

/-! ## Columns that are set -/

/-- Of parts with a comma between them each keeps its places. -/
theorem places_intercalate {parts : List (List SqlToken)} {columns : List String}
    (h : List.Forall₂ (fun ts c => Places ts [c]) parts columns) :
    Places ([.sign ','].intercalate parts) columns := by
  induction h with
  | nil => exact .nil
  | @cons ts c parts columns hts hrest ih =>
    cases hrest with
    | nil => simpa using hts
    | cons hu hrest =>
      have hcomma : Places [.sign ','] [] := places_filler rfl
      rw [List.intercalate_cons_cons, List.append_assoc]
      exact hts.append (hcomma.append ih)

/-- The assignments of an update. -/
theorem clauseText_assignments (columns : List String) :
    ClauseText (" SET " ++ assignments columns) columns := by
  have hkeyword : IsKeyword " SET " "SET" := ⟨by decide, [], by decide, rfl⟩
  have hparts : List.Forall₂ HasTokens (columns.map comparison) (columns.map comparisonTokens) := by
    rw [List.forall₂_map_left_iff, List.forall₂_map_right_iff]
    exact List.forall₂_same.mpr fun c _ => hasTokens_comparison c
  have htext : HasTokens (assignments columns) _ := hasTokens_commas hparts
  refine clauseText_keyword hkeyword (by decide) htext (places_intercalate ?_)
  rw [List.forall₂_map_left_iff]
  exact List.forall₂_same.mpr fun c _ => places_comparison c

/-! ## Statements -/

/-- A keyword, the name of a table and then clauses. -/
theorem placeColumns?_clauses {keyword text word : String} {columns : List String}
    (hkeyword : IsKeyword keyword word) (hword : word ≠ "INSERT") (table : String)
    (htext : ClauseText text columns) :
    placeColumns? (tokens (keyword ++ identifier table ++ text).toList) = some columns := by
  obtain ⟨ts, hts, hfiller⟩ := hkeyword.tokens
  obtain ⟨us, hus, hcolumns, hhead⟩ := htext.tokens
  have htokens : tokens (keyword ++ identifier table ++ text).toList
      = (.word word :: ts) ++ .name table :: us := by
    have hrest := htext.ends [] .nil
    rw [List.append_nil] at hrest
    rw [String.append_assoc, String.toList_append, tokens_append_of_breaksAtEnd hkeyword.breaks,
      hts, String.toList_append, tokens_identifier_append hrest.name, hus.tokens_eq]
  -- The first word tells that it is no insertion.
  have hnone : after? (wordTokens ["INSERT", "INTO"]) ((.word word :: ts) ++ .name table :: us)
      = none := by
    rw [after?, if_neg]
    rintro ⟨rest, h⟩
    exact hword (SqlToken.word.inj (List.cons.inj h).1).symm
  have hplaces : Places (.word word :: ts) [] := places_filler hfiller
  rw [htokens, placeColumns?, hnone]
  dsimp only
  rw [hplaces, comparedColumns?_name_cons _ hhead, hcolumns.read]
  rfl

/-- Names that are listed are read back. -/
theorem readNames?_intercalate {columns : List String} (hne : columns ≠ [])
    (rest : List SqlToken) :
    readNames? ([.sign ','].intercalate (columns.map fun c => [.name c]) ++ .sign ')' :: rest)
      = some (columns, rest) := by
  induction columns with
  | nil => exact absurd rfl hne
  | cons c columns ih =>
    cases columns with
    | nil => rfl
    | cons c' columns =>
      have hrest := ih (List.cons_ne_nil _ _)
      simp only [List.map_cons] at hrest
      rw [List.map_cons, List.map_cons, List.intercalate_cons_cons, List.append_assoc,
        List.append_assoc, List.singleton_append, List.singleton_append, readNames?, hrest]
      rfl

/-- So are the places. -/
theorem countPlaces?_intercalate (n : Nat) :
    countPlaces? ([.sign ','].intercalate (List.replicate (n + 1) [.sign '?']) ++ [.sign ')'])
      = some (n + 1) := by
  induction n with
  | zero => rfl
  | succ n ih =>
    rw [List.replicate_succ, List.replicate_succ, List.intercalate_cons_cons,
      ← List.replicate_succ, List.append_assoc, List.append_assoc, List.singleton_append,
      List.singleton_append, countPlaces?, ih]
    rfl

/-- The tokens of an insertion. -/
theorem tokens_insertText (table : String) {columns : List String} (hne : columns ≠ []) :
    tokens (insertText table columns).toList = wordTokens ["INSERT", "INTO"] ++ .name table ::
      ([.sign '('] ++ ([.sign ','].intercalate (columns.map fun c => [.name c]) ++ .sign ')' ::
        ([.word "VALUES", .sign '('] ++ ([.sign ','].intercalate
          (List.replicate columns.length [.sign '?']) ++ [.sign ')'])))) := by
  have hnames : HasTokens (identifiers columns)
      ([.sign ','].intercalate (columns.map fun c => [.name c])) := by
    refine hasTokens_commas ?_
    rw [List.forall₂_map_left_iff, List.forall₂_map_right_iff]
    exact List.forall₂_same.mpr fun c _ => hasTokens_identifier c
  have hplaces : HasTokens (parameters columns.length)
      ([.sign ','].intercalate (List.replicate columns.length [.sign '?'])) := by
    have hplace : HasTokens "?" [.sign '?'] := hasTokens_plain (by decide)
    refine hasTokens_commas ?_
    induction columns.length with
    | zero => exact .nil
    | succ n ih => exact .cons hplace ih
  have hkeyword : tokens "INSERT INTO ".toList = wordTokens ["INSERT", "INTO"] := by decide
  have hopen : tokens " (".toList = [.sign '('] := by decide
  have hvalues : tokens ") VALUES (".toList = [.sign ')', .word "VALUES", .sign '('] := by decide
  have hclose : tokens ")".toList = [.sign ')'] := by decide
  have hendOpen : BreaksAtEnd " (".toList := by decide
  have hendValues : BreaksAtEnd ") VALUES (".toList := by decide
  rw [insertText, if_neg (by simpa using hne)]
  simp only [String.append_assoc, String.toList_append]
  rw [tokens_append_of_breaksAtEnd (by decide), hkeyword,
    tokens_identifier_append (EndsToken.of_breaksAtStart (by decide) _).name,
    tokens_append_of_breaksAtEnd hendOpen, hopen,
    hnames _ (EndsToken.of_breaksAtStart (by decide) _),
    tokens_append_of_breaksAtEnd hendValues, hvalues,
    hplaces ")".toList (.of_isBreak (by decide) []), hclose]
  rfl

theorem placeColumns?_insertText (table : String) (columns : List String) :
    placeColumns? (tokens (insertText table columns).toList) = some columns := by
  cases columns with
  | nil =>
    have hkeyword : tokens "INSERT INTO ".toList = wordTokens ["INSERT", "INTO"] := by decide
    have hdefaults : tokens " DEFAULT VALUES".toList = [.word "DEFAULT", .word "VALUES"] := by
      decide
    rw [insertText, if_pos List.isEmpty_nil, String.append_assoc, String.toList_append,
      tokens_append_of_breaksAtEnd (by decide), hkeyword, String.toList_append,
      tokens_identifier_append (by decide), hdefaults, placeColumns?, after?_append]
    rfl
  | cons c rest =>
    have hne : c :: rest ≠ [] := List.cons_ne_nil c rest
    rw [tokens_insertText table hne, placeColumns?, after?_append]
    simp only [insertedColumns?, after?_append, readNames?_intercalate hne, Option.bind_eq_bind,
      Option.bind_some, List.length_cons, countPlaces?_intercalate, if_true]
    simp

/-- The statement is one that the library puts together around columns : a selection or a count of
rows, an insertion, an update or a deletion, with connectors between what it compares. -/
inductive Placed : Statement → List String → Prop
  | select (table : String) {s : Selection} (h : s.filter.Connected) :
      Placed (.select table s) s.filter.columns
  | count (table : String) {s : Selection} (h : s.filter.Connected) :
      Placed (.count table s) s.filter.columns
  | insert (table : String) (columns : List String) : Placed (.insert table columns) columns
  | update (table : String) (columns : List String) {f : Filter} (h : f.Connected) :
      Placed (.update table columns (.filter f)) (columns ++ f.columns)
  | delete (table : String) {f : Filter} (h : f.Connected) :
      Placed (.delete table (.filter f)) f.columns

/-- The text of such a statement is read back as these columns. -/
theorem placeColumns?_statement {s : Statement} {columns : List String} (h : Placed s columns) :
    placeColumns? (tokens s.text.toList) = some columns := by
  cases h with
  | @select table selection h =>
    have hkeyword : IsKeyword "SELECT * FROM " "SELECT" :=
      ⟨by decide, [.sign '*', .word "FROM"], by decide, rfl⟩
    have htext := h.clauseText.append (clauseText_order selection)
    rw [List.append_nil] at htext
    exact placeColumns?_clauses hkeyword (by decide) table htext
  | @count table selection h =>
    have hkeyword : IsKeyword "SELECT COUNT(*) FROM " "SELECT" :=
      ⟨by decide, [.word "COUNT", .sign '(', .sign '*', .sign ')', .word "FROM"], by decide, rfl⟩
    have htext := h.clauseText.append (clauseText_order selection)
    rw [List.append_nil] at htext
    exact placeColumns?_clauses hkeyword (by decide) table htext
  | insert table columns => exact placeColumns?_insertText table columns
  | @update table columns f h =>
    have hkeyword : IsKeyword "UPDATE " "UPDATE" := ⟨by decide, [], by decide, rfl⟩
    have htext := (clauseText_assignments columns).append h.clauseText
    have hplaces := placeColumns?_clauses hkeyword (by decide) table htext
    rwa [← String.append_assoc, ← String.append_assoc] at hplaces
  | @delete table f h =>
    have hkeyword : IsKeyword "DELETE FROM " "DELETE" := ⟨by decide, [.word "FROM"], by decide, rfl⟩
    exact placeColumns?_clauses hkeyword (by decide) table h.clauseText

/-- Three question marks are in names, and two are places. -/
example : placeColumns? (tokens (Statement.update "rates?" ["per cent ?"]
    (.filter (.equals "\"year\" = ?" []))).text.toList) = some ["per cent ?", "\"year\" = ?"] := by
  decide +kernel

end EntityMap
