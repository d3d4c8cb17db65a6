import Mathlib.Data.List.Basic
import EntityMap.Proofs.Method.Predicate
import EntityMap.Proofs.Method.Rendering

/-!
# Names that state fields to set

An update may state its fields in its name : `update`, the fields with `And` between them, `By` and
a text (`nameSetting`). Such a name is cut into the words that it was put together from, and if no
field has the word `And` among them, then it is read as stating these fields or not at all
(`exists_predicate_of_nameSetting`). A field with that word is read as two.
-/

namespace EntityMap.Method

/-- A field as it is written in a name. -/
def FieldPhrase.text (f : FieldPhrase) : String := String.ofList (charsOf f.words)

/-- The name of an update that states its fields, before `By` and a text. -/
def nameSetting (fields : List FieldPhrase) (text : String) : String :=
  "update" ++ "And".intercalate (fields.map FieldPhrase.text) ++ "By" ++ text

/-- The words of fields with `And` between them. -/
def setWords (fields : List FieldPhrase) : List Word :=
  [Word.and].intercalate (fields.map FieldPhrase.words)

/-! ## The words of a name -/

theorem setWords_cons (first : FieldPhrase) (more : List FieldPhrase) :
    setWords (first :: more) = first.words ++ Links.words (more.map (Connector.and, ·)) := by
  induction more generalizing first with
  | nil => simp [setWords]
  | cons f more ih =>
    have hcut : setWords (first :: f :: more) = first.words ++ .and :: setWords (f :: more) := by
      simp [setWords, List.intercalate_cons_cons]
    rw [hcut, ih f, List.map_cons, Links.words_cons]
    rfl

theorem setWords_ne_nil {fields : List FieldPhrase} (h : fields ≠ []) : setWords fields ≠ [] := by
  obtain ⟨first, more, rfl⟩ := List.exists_cons_of_ne_nil h
  rw [setWords_cons]
  exact List.append_ne_nil_of_left_ne_nil first.words_ne_nil _

/-- The fields are written as their words. -/
theorem toList_intercalate_text (fields : List FieldPhrase) :
    ("And".intercalate (fields.map FieldPhrase.text)).toList = charsOf (setWords fields) := by
  have htext : FieldPhrase.text = capitalized ∘ FieldPhrase.name := by
    funext f
    apply String.toList_inj.mp
    rw [FieldPhrase.text, String.toList_ofList, Function.comp_apply, toList_capitalized_name]
  cases fields with
  | nil => rfl
  | cons first more => rw [htext, ← List.map_map, toList_setFields, setWords_cons]

/-- Fields without `And` are told apart by their words. -/
theorem setWords_inj {fields fields' : List FieldPhrase} (h : setWords fields = setWords fields')
    (hne : fields ≠ []) (hne' : fields' ≠ []) (hand : ∀ f ∈ fields, .and ∉ f.words)
    (hand' : ∀ f ∈ fields', .and ∉ f.words) : fields = fields' := by
  have hsplit : ∀ fs : List FieldPhrase, fs ≠ [] → (∀ f ∈ fs, .and ∉ f.words) →
      (setWords fs).splitOn .and = fs.map FieldPhrase.words := fun fs hfs hfree =>
    List.splitOn_intercalate _ (List.forall_mem_map.mpr hfree) (by simpa using hfs)
  have hinjective : Function.Injective FieldPhrase.words := fun f g heq =>
    FieldPhrase.ext (List.cons.inj heq).1 (List.cons.inj heq).2
  apply hinjective.list_map
  rw [← hsplit fields hne hand, ← hsplit fields' hne' hand', h]

/-! ## What a name is read as -/

theorem by_notMem_links {ls : Links} (h : ∀ l ∈ ls, l.2.Free) : Word.by_ ∉ ls.words := by
  intro hby
  obtain ⟨l, hl, hw⟩ := List.mem_flatMap.mp hby
  rcases List.mem_cons.mp hw with hw | hw
  · exact keyword_ne_by l.1 hw.symm
  · exact (h l hl _ hw).1 rfl

theorem PredicatePhrase.by_notMem_words {p : PredicatePhrase} (h : ∀ f ∈ p.fields, f.Free) :
    Word.by_ ∉ p.words := by
  intro hby
  rcases List.mem_append.mp hby with hw | hw
  · exact (h p.first List.mem_cons_self _ hw).1 rfl
  · exact by_notMem_links (fun l hl => h l.2 (List.mem_cons_of_mem _ (List.mem_map_of_mem hl))) hw

theorem by_notMem_setWords {fields : List FieldPhrase} (h : ∀ f ∈ fields, f.Free) :
    Word.by_ ∉ setWords fields := by
  cases fields with
  | nil => simp [setWords]
  | cons first more =>
    rw [setWords_cons]
    intro hby
    rcases List.mem_append.mp hby with hw | hw
    · exact (h first List.mem_cons_self _ hw).1 rfl
    · refine by_notMem_links (List.forall_mem_map.mpr fun f hf => ?_) hw
      exact h f (List.mem_cons_of_mem _ hf)

/-- What an update that sets fields means. -/
def querySetting (fields : List FieldPhrase) (p : PredicatePhrase) : Query where
  name := nameSetting fields p.text
  verb := .update
  terms := p.fields.map FieldPhrase.name
  connectors := p.connectors
  orderField := none
  direction := .asc
  setFields := fields.map FieldPhrase.name

/-- If a name that states fields without `And` is read, then as stating these fields, and as what
its predicate says : the text after `By`, with which a name may end. -/
theorem exists_predicate_of_nameSetting {fields : List FieldPhrase} {text : String} {q : Query}
    (hne : fields ≠ []) (hand : ∀ f ∈ fields, .and ∉ f.words) (htext : StartsWord text)
    (h : Query.ofName? (nameSetting fields text) = .ok q) :
    ∃ p : PredicatePhrase, p.Ends ∧ text = p.text ∧ q = querySetting fields p := by
  obtain ⟨ph, hph, hspelling, rfl⟩ := ofName?_eq_ok_iff_phrase.mp h
  have hchars : ph.spelling.toList =
      Verb.update.word.toList ++ (charsOf (setWords fields ++ [.by_]) ++ text.toList) := by
    rw [hspelling, nameSetting, String.toList_append, String.toList_append, String.toList_append,
      toList_intercalate_text, charsOf_append, List.append_assoc, List.append_assoc,
      List.append_assoc]
    rfl
  obtain ⟨hverb, ws, hwords, rfl⟩ := words_of_spelling (by decide) htext hchars
  rw [List.append_assoc, List.singleton_append] at hwords
  cases ph with
  | save => cases hverb
  | findAll order => cases hverb
  | find all p order => cases all <;> cases hverb
  | act v p =>
    -- The words of the fields would stand before the `By` that is the first word.
    have hnotMem := PredicatePhrase.by_notMem_words (hph.free_predicate rfl)
    have hcut : [] ++ .by_ :: p.words = setWords fields ++ .by_ :: ws := hwords
    have hnone := ((List.append_cons_inj_of_notMem List.not_mem_nil hnotMem).mp hcut).1
    exact absurd hnone.symm (setWords_ne_nil hne)
  | updateFields first more p =>
    have hset : ∀ f ∈ first :: more, f.Free := fun f hf =>
      hph.free f (Phrase.mem_fields.mpr (.inl hf))
    have hnotMem := PredicatePhrase.by_notMem_words (hph.free_predicate rfl)
    have hcut : setWords (first :: more) ++ .by_ :: p.words = setWords fields ++ .by_ :: ws := by
      rw [← hwords, setWords_cons, List.append_assoc]
      rfl
    obtain ⟨hfields, -, rfl⟩ :=
      (List.append_cons_inj_of_notMem (by_notMem_setWords hset) hnotMem).mp hcut
    obtain rfl := setWords_inj hfields (List.cons_ne_nil _ _) hne
      (fun f hf hmem => (hset f hf _ hmem).2.1 rfl) hand
    refine ⟨p, ⟨hph.free_predicate rfl, ?_⟩, rfl, ?_⟩
    · refine hph.last_words (setWords (first :: more) ++ [.by_]) ?_ rfl
      rw [hwords, List.append_assoc]
      rfl
    · rw [querySetting, PredicatePhrase.text, ← hspelling]
      rfl

end EntityMap.Method
