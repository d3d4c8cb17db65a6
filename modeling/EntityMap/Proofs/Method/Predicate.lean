import EntityMap.Proofs.Method.Spelling

/-!
# One predicate after every verb

A verb, `By` and a text. After `exists`, `delete` and `update` the text is either read as the same
predicate or not at all, and what they read `find` and `findAll` read as well (`nameBy_alike`) :
which words of the text are keywords depends on the words after them, and these are the same.

The text must not go on with the word `By`. Otherwise `update` could read it as a field to set,
which has the letters `By` in front.
-/

namespace EntityMap.Method

/-- The name of a verb, `By` and a text. -/
def Verb.nameBy (v : Verb) (text : String) : String := v.word ++ "By" ++ text

namespace PredicatePhrase

/-- A predicate as it is written. -/
def text (p : PredicatePhrase) : String := String.ofList (charsOf p.words)

/-- A name may end with the predicate : no field has `By`, `And` or `Or` among its words, and the
last word is not `Asc` or `Desc`. -/
structure Ends (p : PredicatePhrase) : Prop where
  free : ∀ f ∈ p.fields, f.Free
  last : p.words.getLast? ≠ some .asc ∧ p.words.getLast? ≠ some .desc

end PredicatePhrase

/-- What a verb and a predicate are to mean. -/
def Verb.queryBy (v : Verb) (p : PredicatePhrase) : Query where
  name := v.nameBy p.text
  verb := v
  terms := p.fields.map FieldPhrase.name
  connectors := p.connectors
  orderField := none
  direction := .asc
  setFields := []

/-! ## Phrases of a predicate alone -/

/-- If a phrase has no more than its predicate, the predicate says whether it is expressible. -/
theorem Phrase.expressible_iff_ends {ph : Phrase} {p : PredicatePhrase} (before : List Word)
    (hpredicate : ph.predicate? = some p) (hset : ph.setFields = []) (horder : ph.order? = none)
    (hwords : ph.words = before ++ p.words) : ph.Expressible ↔ p.Ends := by
  have hfields : ph.fields = p.fields := by simp [fields, hpredicate, hset, horder]
  have hlast : ph.words.getLast? = p.words.getLast? := by
    rw [hwords, List.getLast?_append_of_ne_nil _ p.words_ne_nil]
  constructor
  · intro h
    have hend := h.last (by rw [horder]; rfl)
    rw [hlast] at hend
    exact ⟨hfields ▸ h.free, hend⟩
  · intro h
    exact ⟨hfields ▸ h.free, fun _ => hlast ▸ h.last, by simp [hset]⟩

theorem opening_act {v : Verb} (hv : v ∈ [Verb.exist, .delete, .update]) :
    v.opening = v.word.toList := by
  cases v <;> first | rfl | simp at hv

theorem spelling_act (v : ActVerb) (p : PredicatePhrase) :
    (Phrase.act v p).spelling = v.val.nameBy p.text := by
  apply String.toList_inj.mp
  rw [Phrase.spelling, Phrase.verb, opening_act v.property]
  simp [Phrase.words, Verb.nameBy, PredicatePhrase.text, Word.chars, Word.by_]

theorem query_act (v : ActVerb) (p : PredicatePhrase) :
    (Phrase.act v p).query = v.val.queryBy p := by
  rw [Phrase.query, Verb.queryBy, spelling_act]
  rfl

theorem expressible_act (v : ActVerb) (p : PredicatePhrase) :
    (Phrase.act v p).Expressible ↔ p.Ends :=
  Phrase.expressible_iff_ends [.by_] rfl rfl rfl rfl

theorem spelling_find (all : Bool) (p : PredicatePhrase) :
    (Phrase.find all p none).spelling =
      (if all then Verb.findAll else Verb.find).nameBy p.text := by
  apply String.toList_inj.mp
  cases all <;> simp [Phrase.spelling, Phrase.verb, Phrase.words, Verb.opening, Verb.nameBy,
    PredicatePhrase.text, orderWords, Word.chars, Word.by_, Word.all, Verb.word]

theorem query_find (all : Bool) (p : PredicatePhrase) :
    (Phrase.find all p none).query = (if all then Verb.findAll else Verb.find).queryBy p := by
  rw [Phrase.query, Verb.queryBy, spelling_find]
  rfl

theorem expressible_find (all : Bool) (p : PredicatePhrase) :
    (Phrase.find all p none).Expressible ↔ p.Ends :=
  Phrase.expressible_iff_ends ((if all then [Word.all] else []) ++ [.by_]) rfl rfl rfl
    (by simp [Phrase.words, orderWords])

/-- Every verb but `save` reads a predicate that a name may end with. -/
theorem ofName?_nameBy {v : Verb} (hv : v ≠ .save) {p : PredicatePhrase} (h : p.Ends) :
    Query.ofName? (v.nameBy p.text) = .ok (v.queryBy p) := by
  have hact : ∀ v : ActVerb, Query.ofName? (v.val.nameBy p.text) = .ok (v.val.queryBy p) := by
    intro v
    rw [← spelling_act, ← query_act]
    exact (ofName?_spelling_eq_ok_iff _).mpr ((expressible_act v p).mpr h)
  have hfind : ∀ all : Bool, Query.ofName? ((if all then Verb.findAll else Verb.find).nameBy p.text)
      = .ok ((if all then Verb.findAll else Verb.find).queryBy p) := by
    intro all
    rw [← spelling_find, ← query_find]
    exact (ofName?_spelling_eq_ok_iff _).mpr ((expressible_find all p).mpr h)
  cases v with
  | save => exact absurd rfl hv
  | find => exact hfind false
  | findAll => exact hfind true
  | exist => exact hact ⟨.exist, by decide⟩
  | delete => exact hact ⟨.delete, by decide⟩
  | update => exact hact ⟨.update, by decide⟩

/-! ## What a text is read as -/

/-- The text begins with no letter, digit or mark that would continue a word. -/
def StartsWord (text : String) : Prop := ∀ c ∈ text.toList.head?, continuesWord c = false

theorem eq_of_opening {v v' : Verb} (hv : v ∈ [Verb.exist, .delete, .update])
    (h : v'.opening = v.opening) : v' = v := by
  cases v <;> cases v' <;> revert hv h <;> decide

theorem head?_charsOf_append (ws : List Word) {cs : List Char}
    (hcs : ∀ c ∈ cs.head?, continuesWord c = false) :
    ∀ c ∈ (charsOf ws ++ cs).head?, continuesWord c = false := by
  cases ws with
  | nil => exact hcs
  | cons w ws => exact head?_charsOf (w :: ws)

/-- Words are cut off the front of a text that begins another one. -/
theorem splitWords_charsOf_append (ws : List Word) {cs : List Char}
    (hcs : ∀ c ∈ cs.head?, continuesWord c = false) :
    splitWords (charsOf ws ++ cs) = ws.map Word.chars ++ splitWords cs := by
  induction ws with
  | nil => rfl
  | cons w ws ih =>
    rw [charsOf_cons, List.append_assoc, Word.chars, List.cons_append,
      splitWords_append w.rest_continues (head?_charsOf_append ws hcs), ih]
    rfl

/-- A phrase that is spelled as a verb, words and a text has the verb, and these words and then some
that are spelled as the text. -/
theorem words_of_spelling {v : Verb} (hv : v ∈ [Verb.exist, .delete, .update])
    {before : List Word} {text : String} (htext : StartsWord text) {ph : Phrase}
    (h : ph.spelling.toList = v.word.toList ++ (charsOf before ++ text.toList)) :
    ph.verb = v ∧ ∃ ws, ph.words = before ++ ws ∧ text = String.ofList (charsOf ws) := by
  obtain ⟨c, cs, hopening, -, hcs⟩ := v.exists_opening
  obtain ⟨c', cs', hopening', -, hcs'⟩ := ph.verb.exists_opening
  have hchars : ph.verb.opening ++ charsOf ph.words =
      v.opening ++ (charsOf before ++ text.toList) := by
    rwa [Phrase.spelling, String.toList_ofList, ← opening_act hv] at h
  -- Both sides are cut into words, the first of which is the opening.
  have hspelled : splitWords (ph.verb.opening ++ charsOf ph.words) =
      ph.verb.opening :: ph.words.map Word.chars := by
    rw [hopening', List.cons_append, splitWords_append hcs' (head?_charsOf _), splitWords_charsOf]
  have hnamed : splitWords (v.opening ++ (charsOf before ++ text.toList)) =
      v.opening :: (before.map Word.chars ++ splitWords text.toList) := by
    rw [hopening, List.cons_append, splitWords_append hcs (head?_charsOf_append before htext),
      splitWords_charsOf_append before htext]
  rw [hchars, hnamed] at hspelled
  obtain ⟨hverb, hrest⟩ := List.cons.inj hspelled
  obtain ⟨before', ws, hwords, hbefore, hws⟩ := List.map_eq_append_iff.mp hrest.symm
  refine ⟨eq_of_opening hv hverb.symm, ws, ?_, ?_⟩
  · rw [hwords, Word.chars_injective.list_map hbefore]
  · rw [charsOf, hws, flatten_splitWords, String.ofList_toList]

/-- What `exists`, `delete` or `update` reads after `By` is a predicate. -/
theorem exists_predicate_of_ofName? {v : Verb} (hv : v ∈ [Verb.exist, .delete, .update])
    {text : String} (htext : StartsWord text) {q : Query}
    (h : Query.ofName? (v.nameBy text) = .ok q) :
    ∃ p : PredicatePhrase, p.Ends ∧ text = p.text := by
  obtain ⟨ph, hph, hspelling, -⟩ := ofName?_eq_ok_iff_phrase.mp h
  have hchars : ph.spelling.toList = v.word.toList ++ (charsOf [.by_] ++ text.toList) := by
    rw [hspelling, Verb.nameBy, String.toList_append, String.toList_append, List.append_assoc]
    rfl
  obtain ⟨hverb, ws, hwords, rfl⟩ := words_of_spelling hv htext hchars
  cases ph with
  | save => cases hwords
  | findAll order => cases hwords
  | find all p order => exact absurd hverb.symm (act_verb_ne_find ⟨v, hv⟩ all)
  | act v' p =>
    obtain rfl := (List.cons.inj hwords).2
    exact ⟨p, (expressible_act v' p).mp hph, rfl⟩
  | updateFields first more p =>
    -- The first field would begin with `By`.
    have hfirst : first.first = .by_ := (List.cons.inj hwords).1
    have hfree := hph.free first (Phrase.mem_fields.mpr (.inl List.mem_cons_self))
    exact absurd hfirst (hfree first.first List.mem_cons_self).1

/-- After `By`, a text that does not go on with that word is read by `exists`, `delete` and `update`
alike : either by none of them, or as one predicate by all of them and by `find` and `findAll`. -/
theorem nameBy_alike {text : String} (htext : StartsWord text) :
    (∀ v ∈ [Verb.exist, .delete, .update], ∃ fault, Query.ofName? (v.nameBy text) = .error fault)
      ∨ ∃ p : PredicatePhrase, ∀ v : Verb, v ≠ .save →
        Query.ofName? (v.nameBy text) = .ok (v.queryBy p) := by
  by_cases hread : ∃ v ∈ [Verb.exist, .delete, .update], ∃ q, Query.ofName? (v.nameBy text) = .ok q
  · obtain ⟨v, hv, q, hq⟩ := hread
    obtain ⟨p, hends, rfl⟩ := exists_predicate_of_ofName? hv htext hq
    exact .inr ⟨p, fun u hu => ofName?_nameBy hu hends⟩
  · refine .inl fun v hv => ?_
    cases h : Query.ofName? (v.nameBy text) with
    | error fault => exact ⟨fault, rfl⟩
    | ok q => exact absurd ⟨v, hv, q, h⟩ hread

end EntityMap.Method
