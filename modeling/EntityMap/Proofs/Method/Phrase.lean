import EntityMap.Proofs.Method.Reading

/-!
# Phrases

A `Phrase` is a method name before it is written : a shape of the grammar with its fields as lists
of words, its connectors and perhaps an order. `Phrase.spelling` writes it down, `Phrase.query` is
what it is to mean. A phrase is `Expressible` if its fields keep away from the words that would be
read as keywords where they stand.

What is written is cut again into the words it was put together from (`splitWords_charsOf`,
`tokenize_words`), since each of them begins with a capital; and every name is a first word and
such words (`exists_words_of_tokenize`).
-/

namespace EntityMap.Method

/-! ## Characters -/

theorem isUpper_iff {c : Char} : c.isUpper = true ↔ 'A'.val ≤ c.val ∧ c.val ≤ 'Z'.val :=
  decide_eq_true_iff

theorem val_toLower {c : Char} (h : c.isUpper = true) :
    c.toLower.val = c.val + ('a'.val - 'A'.val) :=
  congrArg Char.val (dif_pos (isUpper_iff.mp h))

theorem val_toUpper {c : Char} (h : 'a'.val ≤ c.val ∧ c.val ≤ 'z'.val) :
    c.toUpper.val = c.val + ('A'.val - 'a'.val) := by
  delta Char.toUpper
  rw [dif_pos h]

theorem continuesWord_of_isUpper {c : Char} (h : c.isUpper = true) : continuesWord c = false := by
  have hlower : c.isLower = (decide ('a'.val ≤ c.val) && decide (c.val ≤ 'z'.val)) := rfl
  have hdigit : c.isDigit = (decide ('0'.val ≤ c.val) && decide (c.val ≤ '9'.val)) := rfl
  have hunderscore : c ≠ '_' := by
    rintro rfl
    cases h
  have hupper := isUpper_iff.mp h
  simp [UInt32.le_iff_toNat_le] at hupper
  simp [continuesWord, hlower, hdigit, UInt32.le_iff_toNat_le, hunderscore]
  omega

/-- A capital that is made small is made a capital again. -/
theorem toUpper_toLower {c : Char} (h : c.isUpper = true) : c.toLower.toUpper = c := by
  have hlower : 'a'.val ≤ c.toLower.val ∧ c.toLower.val ≤ 'z'.val := by
    have hupper := isUpper_iff.mp h
    rw [val_toLower h]
    simp only [UInt32.le_iff_toNat_le] at hupper ⊢
    simp at hupper ⊢
    omega
  apply Char.ext
  rw [val_toUpper hlower, val_toLower h, UInt32.add_assoc]
  exact UInt32.add_zero _

/-! ## Words -/

/-- A capital letter, and the small letters, digits and underscores after it. -/
@[ext] structure Word where
  initial : Char
  rest : List Char
  initial_isUpper : initial.isUpper = true
  rest_continues : ∀ c ∈ rest, continuesWord c = true
  deriving DecidableEq

namespace Word

/-- The characters of a word. -/
def chars (w : Word) : List Char := w.initial :: w.rest

/-- A word as a text. -/
def text (w : Word) : String := String.ofList w.chars

def by_ : Word := ⟨'B', ['y'], rfl, List.all_eq_true.mp rfl⟩
def and : Word := ⟨'A', ['n', 'd'], rfl, List.all_eq_true.mp rfl⟩
def or : Word := ⟨'O', ['r'], rfl, List.all_eq_true.mp rfl⟩
def all : Word := ⟨'A', ['l', 'l'], rfl, List.all_eq_true.mp rfl⟩
def order : Word := ⟨'O', ['r', 'd', 'e', 'r'], rfl, List.all_eq_true.mp rfl⟩
def asc : Word := ⟨'A', ['s', 'c'], rfl, List.all_eq_true.mp rfl⟩
def desc : Word := ⟨'D', ['e', 's', 'c'], rfl, List.all_eq_true.mp rfl⟩

/-- The word of a letter and what follows it, by one check of both. -/
def of (initial : Char) (rest : List Char)
    (h : (initial.isUpper && rest.all continuesWord) = true) : Word where
  initial := initial
  rest := rest
  initial_isUpper := (Bool.and_eq_true_iff.mp h).1
  rest_continues := List.all_eq_true.mp (Bool.and_eq_true_iff.mp h).2

theorem chars_injective : Function.Injective chars := by
  intro v w h
  obtain ⟨hinitial, hrest⟩ := List.cons.inj h
  exact Word.ext hinitial hrest

end Word

/-- The characters of words, one after the other. -/
def charsOf (ws : List Word) : List Char := (ws.map Word.chars).flatten

@[simp] theorem charsOf_nil : charsOf [] = [] :=
  rfl

@[simp] theorem charsOf_cons (w : Word) (ws : List Word) :
    charsOf (w :: ws) = w.chars ++ charsOf ws :=
  rfl

@[simp] theorem charsOf_append (ws vs : List Word) :
    charsOf (ws ++ vs) = charsOf ws ++ charsOf vs := by
  simp [charsOf]

/-- The word of a method name for a connector. -/
def Connector.keyword : Connector → Word
  | .and => .and
  | .or => .or

/-- The word of a method name for a direction. -/
def Direction.keyword : Direction → Word
  | .asc => .asc
  | .desc => .desc

/-! ## Cutting -/

theorem head?_charsOf (ws : List Word) : ∀ c ∈ (charsOf ws).head?, continuesWord c = false := by
  cases ws with
  | nil => simp
  | cons w ws =>
    intro c hc
    obtain rfl : w.initial = c := by simpa [Word.chars] using hc
    exact continuesWord_of_isUpper w.initial_isUpper

/-- Words that are written one after the other are cut apart as they were. -/
theorem splitWords_charsOf (ws : List Word) : splitWords (charsOf ws) = ws.map Word.chars := by
  induction ws with
  | nil => rfl
  | cons w ws ih =>
    rw [charsOf_cons, Word.chars, List.cons_append,
      splitWords_append w.rest_continues (head?_charsOf ws), ih]
    rfl

theorem charsOf_injective : Function.Injective charsOf := by
  intro ws vs h
  apply Word.chars_injective.list_map
  rw [← splitWords_charsOf, ← splitWords_charsOf, h]

theorem illegalFrom_eq_none {cs : List Char} {position : Nat} :
    illegalFrom position cs = none ↔ ∀ c ∈ cs, isNameChar c = true := by
  induction cs generalizing position with
  | nil => simp [illegalFrom]
  | cons c cs ih =>
    rw [illegalFrom]
    cases hc : isNameChar c <;> simp [hc, ih]

theorem isNameChar_charsOf {ws : List Word} {c : Char} (h : c ∈ charsOf ws) :
    isNameChar c = true := by
  obtain ⟨_, hmem, hc⟩ := List.mem_flatten.mp h
  obtain ⟨w, -, rfl⟩ := List.mem_map.mp hmem
  rcases List.mem_cons.mp hc with rfl | hc
  · simp [isNameChar, w.initial_isUpper]
  · exact isNameChar_of_continuesWord (w.rest_continues c hc)

/-- The first word of a name, which may begin with any legal character, and then words : these are
the tokens of the name. -/
theorem tokenize_words {c : Char} {cs : List Char} (hc : isNameChar c = true)
    (hcs : ∀ d ∈ cs, continuesWord d = true) (ws : List Word) :
    tokenize (String.ofList (c :: (cs ++ charsOf ws))) =
      .ok (tokensOf 0 ((c :: cs) :: ws.map Word.chars)) := by
  have hlegal : illegalFrom 0 (c :: (cs ++ charsOf ws)) = none := by
    refine illegalFrom_eq_none.mpr fun d hd => ?_
    rcases List.mem_cons.mp hd with rfl | hd
    · exact hc
    rcases List.mem_append.mp hd with hd | hd
    · exact isNameChar_of_continuesWord (hcs d hd)
    · exact isNameChar_charsOf hd
  rw [tokenize_eq, String.toList_ofList, hlegal]
  simp only
  rw [splitWords_append hcs (head?_charsOf ws), splitWords_charsOf]

/-- Legal characters continue a word, and then words follow. -/
theorem exists_words {cs : List Char} (h : ∀ c ∈ cs, isNameChar c = true) :
    ∃ (begin : List Char) (ws : List Word), cs = begin ++ charsOf ws
      ∧ ∀ c ∈ begin, continuesWord c = true := by
  induction cs with
  | nil => exact ⟨[], [], rfl, by simp⟩
  | cons c cs ih =>
    obtain ⟨begin, ws, rfl, hbegin⟩ := ih fun d hd => h d (List.mem_cons_of_mem _ hd)
    by_cases hc : continuesWord c = true
    · exact ⟨c :: begin, ws, rfl, by simpa [hc] using hbegin⟩
    · -- A legal character that continues no word is a capital, with which a word begins.
      have hupper : c.isUpper = true := by simpa [isNameChar, hc] using h c List.mem_cons_self
      exact ⟨[], ⟨c, begin, hupper, hbegin⟩ :: ws, rfl, by simp⟩

/-- The tokens of a name are its first word and then words. -/
theorem exists_words_of_tokenize {name : String} {t : Token} {ts : List Token}
    (h : tokenize name = .ok (t :: ts)) :
    ∃ (first : List Char) (ws : List Word), name = String.ofList (first ++ charsOf ws)
      ∧ t :: ts = tokensOf 0 (first :: ws.map Word.chars) := by
  have hnone : illegalFrom 0 name.toList = none := by
    rw [tokenize_eq] at h
    split at h
    · cases h
    · assumption
  have hlegal := illegalFrom_eq_none.mp hnone
  have hts := eq_tokensOf_of_tokenize h
  cases hname : name.toList with
  | nil =>
    rw [hname] at hts
    cases hts
  | cons c cs =>
    rw [hname] at hts hlegal
    obtain ⟨begin, ws, rfl, hbegin⟩ := exists_words fun d hd => hlegal d (List.mem_cons_of_mem _ hd)
    refine ⟨c :: begin, ws, ?_, ?_⟩
    · rw [List.cons_append, ← hname, String.ofList_toList]
    · rw [hts, splitWords_append hbegin (head?_charsOf ws), splitWords_charsOf]

/-! ## Phrases -/

/-- A field : one or more words. -/
@[ext] structure FieldPhrase where
  first : Word
  more : List Word
  deriving DecidableEq

/-- The words of a field. -/
def FieldPhrase.words (f : FieldPhrase) : List Word := f.first :: f.more

theorem FieldPhrase.words_ne_nil (f : FieldPhrase) : f.words ≠ [] :=
  List.cons_ne_nil _ _

/-- The name of a field : its words put together, the first letter made small. -/
def FieldPhrase.name (f : FieldPhrase) : String :=
  String.ofList (f.first.initial.toLower :: (f.first.rest ++ charsOf f.more))

/-- Fields, each with a connector before it. -/
abbrev Links := List (Connector × FieldPhrase)

/-- The words of fields with connectors before them. -/
def Links.words (ls : Links) : List Word := ls.flatMap fun l => l.1.keyword :: l.2.words

@[simp] theorem Links.words_nil : Links.words [] = [] :=
  rfl

theorem Links.words_cons (l : Connector × FieldPhrase) (ls : Links) :
    Links.words (l :: ls) = l.1.keyword :: (l.2.words ++ Links.words ls) :=
  rfl

/-- A predicate : fields with connectors between them. -/
@[ext] structure PredicatePhrase where
  first : FieldPhrase
  more : Links
  deriving DecidableEq

namespace PredicatePhrase

variable (p : PredicatePhrase)

/-- The words of a predicate. -/
def words : List Word := p.first.words ++ p.more.words

theorem words_ne_nil : p.words ≠ [] :=
  List.append_ne_nil_of_left_ne_nil p.first.words_ne_nil _

/-- The fields of a predicate. -/
def fields : List FieldPhrase := p.first :: p.more.map (·.2)

/-- The connectors of a predicate. -/
def connectors : List Connector := p.more.map (·.1)

end PredicatePhrase

/-- An order : a field, and its direction if it is written. -/
@[ext] structure OrderPhrase where
  field : FieldPhrase
  direction : Option Direction
  deriving DecidableEq

/-- The words of an order. -/
def OrderPhrase.words (o : OrderPhrase) : List Word :=
  .order :: .by_ :: (o.field.words ++ (o.direction.map Direction.keyword).toList)

/-- The words of an order that may be left out. -/
def orderWords (o : Option OrderPhrase) : List Word := o.elim [] OrderPhrase.words

/-- A verb that a predicate follows and nothing else. -/
abbrev ActVerb := {v : Verb // v ∈ [Verb.exist, .delete, .update]}

/-- A method name by its parts. -/
inductive Phrase
  | save
  | findAll (order : Option OrderPhrase)
  /-- `findBy`, or `findAllBy` for all. -/
  | find (all : Bool) (predicate : PredicatePhrase) (order : Option OrderPhrase)
  /-- `existsBy`, `deleteBy` or `updateBy`. -/
  | act (verb : ActVerb) (predicate : PredicatePhrase)
  | updateFields (first : FieldPhrase) (more : List FieldPhrase) (predicate : PredicatePhrase)
  deriving DecidableEq

/-- The characters before the first capital. -/
def Verb.opening : Verb → List Char
  | .findAll => Verb.find.word.toList
  | v => v.word.toList

namespace Phrase

/-- What the name does. -/
def verb : Phrase → Verb
  | save => .save
  | findAll _ => .findAll
  | find all _ _ => if all then .findAll else .find
  | act v _ => v
  | updateFields .. => .update

/-- The words from the first capital on. -/
def words : Phrase → List Word
  | save => []
  | findAll order => .all :: orderWords order
  | find all predicate order =>
    (if all then [Word.all] else []) ++ .by_ :: (predicate.words ++ orderWords order)
  | act _ predicate => .by_ :: predicate.words
  | updateFields first more predicate =>
    first.words ++ (Links.words (more.map (Connector.and, ·)) ++ .by_ :: predicate.words)

/-- The name as it is written. -/
def spelling (p : Phrase) : String := String.ofList (p.verb.opening ++ charsOf p.words)

/-- The fields that are set. -/
def setFields : Phrase → List FieldPhrase
  | updateFields first more _ => first :: more
  | _ => []

/-- The predicate, if there is one. -/
def predicate? : Phrase → Option PredicatePhrase
  | find _ predicate _ | act _ predicate | updateFields _ _ predicate => some predicate
  | _ => none

/-- The order, if there is one. -/
def order? : Phrase → Option OrderPhrase
  | findAll order | find _ _ order => order
  | _ => none

/-- The query that the name is to mean. -/
def query (p : Phrase) : Query where
  name := p.spelling
  verb := p.verb
  terms := (p.predicate?.elim [] PredicatePhrase.fields).map FieldPhrase.name
  connectors := p.predicate?.elim [] PredicatePhrase.connectors
  orderField := p.order?.map fun o => o.field.name
  direction := (p.order?.bind OrderPhrase.direction).getD .asc
  setFields := p.setFields.map FieldPhrase.name

/-- All fields, in the order of the name. -/
def fields (p : Phrase) : List FieldPhrase :=
  p.setFields ++ p.predicate?.elim [] PredicatePhrase.fields ++ (p.order?.map (·.field)).toList

theorem mem_fields {p : Phrase} {f : FieldPhrase} :
    f ∈ p.fields ↔ f ∈ p.setFields ∨ (∃ predicate ∈ p.predicate?, f ∈ predicate.fields) ∨
      ∃ o ∈ p.order?, o.field = f := by
  cases hp : p.predicate? <;> cases ho : p.order? <;> simp [fields, hp, ho, eq_comm]

end Phrase

/-- None of the words is a keyword everywhere. -/
def FieldPhrase.Free (f : FieldPhrase) : Prop :=
  ∀ w ∈ f.words, w ≠ .by_ ∧ w ≠ .and ∧ w ≠ .or

/-- A name can say what the phrase does : no field has `By`, `And` or `Or` among its words, the last
word is not `Asc` or `Desc` unless that is the direction, and the last field to set does not end
with `Order`. -/
structure Phrase.Expressible (p : Phrase) : Prop where
  free : ∀ f ∈ p.fields, f.Free
  last : p.order?.bind OrderPhrase.direction = none →
    p.words.getLast? ≠ some .asc ∧ p.words.getLast? ≠ some .desc
  set : ∀ f, p.setFields.getLast? = some f → f.words.getLast? ≠ some .order

end EntityMap.Method
