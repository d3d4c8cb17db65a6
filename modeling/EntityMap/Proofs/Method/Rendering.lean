import EntityMap.Proofs.Method.Spelling

/-!
# Queries written out again

`Query.spelling` writes a query as a method name. For the query of a phrase that is what the phrase
is written as, but for a direction that is written and need not be (`spelling_query`), and every
name that is accepted is that of a phrase : so reading loses nothing of a name but an `Asc` at its
end.
-/

namespace EntityMap.Method

/-! ## Writing a query -/

/-- A text with its first letter made large. -/
def capitalized (field : String) : String :=
  match field.toList with
  | [] => field
  | c :: cs => String.ofList (c.toUpper :: cs)

/-- Fields with connectors between them. -/
def joinedFields (connectors : List Connector) : List String → String
  | [] => ""
  | field :: fields =>
    capitalized field ++
      String.join ((connectors.zip fields).map fun l => l.1.keyword.text ++ capitalized l.2)

/-- `By` and a predicate, if there is one. -/
def Query.predicateText (q : Query) : String :=
  if q.hasPredicate then "By" ++ joinedFields q.connectors q.terms else ""

/-- `OrderBy` and a field, if there is one. What is ascending is not said to be. -/
def Query.orderText (q : Query) : String :=
  match q.orderField with
  | none => ""
  | some field => "OrderBy" ++ capitalized field ++ if q.direction = .desc then "Desc" else ""

/-- The query as a method name. -/
def Query.spelling (q : Query) : String :=
  q.verb.word ++ "And".intercalate (q.setFields.map capitalized) ++ q.predicateText ++ q.orderText

/-! ## The parts of a phrase -/

theorem toList_capitalized_name (f : FieldPhrase) :
    (capitalized f.name).toList = charsOf f.words := by
  rw [capitalized, FieldPhrase.name, String.toList_ofList]
  simp only [String.toList_ofList]
  rw [toUpper_toLower f.first.initial_isUpper]
  rfl

theorem toList_joinedLinks (ls : Links) :
    (String.join (((ls.map (·.1)).zip (ls.map fun l => l.2.name)).map fun l =>
      l.1.keyword.text ++ capitalized l.2)).toList = charsOf ls.words := by
  induction ls with
  | nil => rfl
  | cons l ls ih =>
    rw [List.map_cons, List.map_cons, List.zip_cons_cons, List.map_cons, String.join_cons,
      String.toList_append, String.toList_append, toList_capitalized_name, ih, Word.text,
      String.toList_ofList, Links.words_cons, charsOf_cons, charsOf_append, List.append_assoc]

theorem toList_joinedFields (p : PredicatePhrase) :
    (joinedFields p.connectors (p.fields.map FieldPhrase.name)).toList = charsOf p.words := by
  rw [PredicatePhrase.fields, List.map_cons, joinedFields, String.toList_append,
    toList_capitalized_name, List.map_map, PredicatePhrase.words, charsOf_append]
  exact congrArg (charsOf p.first.words ++ ·) (toList_joinedLinks p.more)

theorem toList_setFields (first : FieldPhrase) (more : List FieldPhrase) :
    ("And".intercalate (((first :: more).map FieldPhrase.name).map capitalized)).toList =
      charsOf (first.words ++ Links.words (more.map (Connector.and, ·))) := by
  induction more generalizing first with
  | nil => simp [toList_capitalized_name]
  | cons f more ih =>
    have hwords : charsOf (first.words ++ Links.words ((f :: more).map (Connector.and, ·))) =
        charsOf first.words ++ ("And".toList
          ++ charsOf (f.words ++ Links.words (more.map (Connector.and, ·)))) := by
      rw [charsOf_append]
      rfl
    rw [hwords, ← ih f, List.map_cons, List.map_cons, List.map_cons, List.map_cons,
      String.intercalate_cons_cons, String.toList_append, String.toList_append,
      toList_capitalized_name, List.append_assoc]

section

variable (p : Phrase)

theorem toList_predicateText : p.query.predicateText.toList =
    charsOf (p.predicate?.elim [] fun predicate => .by_ :: predicate.words) := by
  cases hp : p.predicate? with
  | none => simp [Query.predicateText, Query.hasPredicate, Phrase.query, hp]
  | some predicate =>
    have hterms : p.query.terms = predicate.fields.map FieldPhrase.name := by
      simp [Phrase.query, hp]
    have hconnectors : p.query.connectors = predicate.connectors := by simp [Phrase.query, hp]
    have hhas : p.query.hasPredicate = true := by
      simp [Query.hasPredicate, hterms, PredicatePhrase.fields]
    rw [Query.predicateText, if_pos hhas, String.toList_append, hterms, hconnectors,
      toList_joinedFields]
    rfl

/-- An ascending order may be written or not. -/
def Phrase.ascText : String :=
  if p.order?.bind OrderPhrase.direction = some .asc then "Asc" else ""

theorem toList_orderText :
    (p.query.orderText ++ p.ascText).toList = charsOf (orderWords p.order?) := by
  rw [Query.orderText, Phrase.ascText, Phrase.query]
  cases p.order? with
  | none => rfl
  | some o =>
    obtain ⟨field, direction⟩ := o
    have hwords : charsOf (orderWords (some ⟨field, direction⟩)) = "OrderBy".toList ++
        (charsOf field.words ++ charsOf (direction.map Direction.keyword).toList) := by
      rw [← charsOf_append]
      rfl
    simp only [Option.map_some, Option.bind_some]
    rw [hwords, String.toList_append, String.toList_append, String.toList_append,
      toList_capitalized_name]
    rcases direction with _ | _ | _ <;> simp [Direction.keyword, Word.chars, Word.asc, Word.desc]

/-- What a phrase means is written out as the phrase is, but for an `Asc` at its end. -/
theorem Phrase.spelling_query : p.query.spelling ++ p.ascText = p.spelling := by
  apply String.toList_inj.mp
  rw [Query.spelling, String.append_assoc, String.toList_append, toList_orderText,
    String.toList_append, toList_predicateText, String.toList_append, Phrase.spelling,
    String.toList_ofList]
  cases p with
  | save => rfl
  | findAll order =>
    simp [query, verb, setFields, Verb.word, Verb.opening, words, predicate?, order?, Word.all,
      Word.chars]
  | find all predicate order =>
    cases all <;> simp [query, verb, setFields, Verb.word, Verb.opening, words, predicate?, order?,
      Word.all, Word.chars]
  | act v predicate =>
    obtain ⟨v, hv⟩ := v
    simp only [List.mem_cons, List.not_mem_nil, or_false] at hv
    rcases hv with rfl | rfl | rfl <;> simp [query, verb, setFields, Verb.word, Verb.opening,
      words, predicate?, order?, orderWords]
  | updateFields first more predicate =>
    have hset : (updateFields first more predicate).query.setFields =
        (first :: more).map FieldPhrase.name := rfl
    rw [hset, toList_setFields]
    simp [query, verb, Verb.word, Verb.opening, words, predicate?, order?, orderWords]

end

/-! ## What is read is written again -/

/-- A name is its query written out, or that with an `Asc` after the field to order by. -/
theorem eq_spelling_or_append_asc {name : String} {q : Query} (h : Query.ofName? name = .ok q) :
    q.spelling = name ∨
      q.orderField.isSome ∧ q.direction = .asc ∧ q.spelling ++ "Asc" = name := by
  obtain ⟨p, -, rfl, rfl⟩ := ofName?_eq_ok_iff_phrase.mp h
  have hspelling := p.spelling_query
  by_cases hasc : p.order?.bind OrderPhrase.direction = some .asc
  · refine Or.inr ⟨?_, by rw [Phrase.query, hasc]; rfl, ?_⟩
    · obtain ⟨o, ho, -⟩ := Option.bind_eq_some_iff.mp hasc
      simp [Phrase.query, ho]
    · rwa [Phrase.ascText, if_pos hasc] at hspelling
  · rw [Phrase.ascText, if_neg hasc, String.append_empty] at hspelling
    exact Or.inl hspelling

/-- Reading loses nothing : the query of a name written out again is the name, or the name without
the `Asc` at its end. So two names with the same query differ at most in an `Asc` after the field to
order by. -/
theorem ofName?_loses_nothing {name : String} {q : Query} (h : Query.ofName? name = .ok q) :
    (q.spelling = name ∨
      q.orderField.isSome ∧ q.direction = .asc ∧ q.spelling ++ "Asc" = name) ∧
    ∀ name' q', Query.ofName? name' = .ok q' → { q' with name := q.name } = q →
      name' = name ∨ q.orderField.isSome ∧ (name' = name ++ "Asc" ∨ name = name' ++ "Asc") := by
  refine ⟨eq_spelling_or_append_asc h, fun name' q' h' hsame => ?_⟩
  have hspelling : q'.spelling = q.spelling := by rw [← hsame]; rfl
  rcases eq_spelling_or_append_asc h with hname | ⟨horder, -, hname⟩ <;>
    rcases eq_spelling_or_append_asc h' with hname' | ⟨horder', -, hname'⟩ <;>
    rw [hspelling] at hname'
  · exact Or.inl (hname'.symm.trans hname)
  · have horder : q.orderField.isSome := by rw [← hsame]; exact horder'
    exact Or.inr ⟨horder, Or.inl (by rw [← hname, hname'])⟩
  · exact Or.inr ⟨horder, Or.inr (by rw [← hname', hname])⟩
  · exact Or.inl (hname'.symm.trans hname)

/-- The query of `findAllByNameAndTypeOrderByNameAsc`. -/
def nameAndTypeByName : Query where
  name := "findAllByNameAndTypeOrderByNameAsc"
  verb := .findAll
  terms := ["name", "type"]
  connectors := [.and]
  orderField := some "name"
  direction := .asc
  setFields := []

theorem ofName?_loses_nothing_nameAndTypeByName :
    (nameAndTypeByName.spelling = "findAllByNameAndTypeOrderByNameAsc" ∨
      nameAndTypeByName.orderField.isSome ∧ nameAndTypeByName.direction = .asc ∧
        nameAndTypeByName.spelling ++ "Asc" = "findAllByNameAndTypeOrderByNameAsc") ∧
    ("findAllByNameAndTypeOrderByName" = "findAllByNameAndTypeOrderByNameAsc" ∨
      nameAndTypeByName.orderField.isSome ∧
        ("findAllByNameAndTypeOrderByName" = "findAllByNameAndTypeOrderByNameAsc" ++ "Asc" ∨
          "findAllByNameAndTypeOrderByNameAsc" = "findAllByNameAndTypeOrderByName" ++ "Asc")) :=
  have h := ofName?_loses_nothing
    (rfl : Query.ofName? nameAndTypeByName.name = .ok nameAndTypeByName)
  ⟨h.1, h.2 "findAllByNameAndTypeOrderByName"
    { nameAndTypeByName with name := "findAllByNameAndTypeOrderByName" } rfl rfl⟩

end EntityMap.Method
