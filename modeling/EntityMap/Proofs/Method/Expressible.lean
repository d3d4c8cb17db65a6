import EntityMap.Proofs.Method.Phrase

/-!
# Expressible phrases are read

In an expressible phrase the words of a field have the kinds that the grammar wants of the words of
a field (`kind_of_free`), whatever stands after them (`MayEnd`). So the tokens of the spelling have
a derivation, built from a tree for each part of the phrase, and the derivation means what the
phrase is to mean (`Phrase.Expressible.exists_derivation`).
-/

namespace EntityMap.Method

/-! ## Words of fields -/

theorem reserved_chars {w : Word} (hw : w ≠ .by_ ∧ w ≠ .and ∧ w ≠ .or) :
    TokenKind.reserved w.chars ∈ [TokenKind.word, .all] := by
  have hupper := w.initial_isUpper
  have hby : w.chars ≠ Word.by_.chars := fun h => hw.1 (Word.chars_injective h)
  have hand : w.chars ≠ Word.and.chars := fun h => hw.2.1 (Word.chars_injective h)
  have hor : w.chars ≠ Word.or.chars := fun h => hw.2.2 (Word.chars_injective h)
  unfold TokenKind.reserved
  split <;> simp_all [Word.chars, Word.by_, Word.and, Word.or]

/-- A word that is no keyword is a word of a field, unless it is `Order` before `By`, or `Asc` or
`Desc` at the end. -/
theorem kind_of_free {w : Word} {after : List Word} (hw : w ≠ .by_ ∧ w ≠ .and ∧ w ≠ .or)
    (horder : w = .order → after.head? ≠ some .by_)
    (hlast : after = [] → w ≠ .asc ∧ w ≠ .desc) :
    TokenKind.of w.chars (after.map Word.chars) ∈ [TokenKind.word, .all] := by
  have hkind : TokenKind.of w.chars (after.map Word.chars) = .reserved w.chars := by
    unfold TokenKind.of
    rw [if_neg, if_neg, if_neg]
    · rintro ⟨hchars, hnil⟩
      exact (hlast (List.map_eq_nil_iff.mp hnil)).2 (Word.chars_injective hchars)
    · rintro ⟨hchars, hnil⟩
      exact (hlast (List.map_eq_nil_iff.mp hnil)).1 (Word.chars_injective hchars)
    · rintro ⟨hchars, hhead⟩
      rw [List.head?_map] at hhead
      obtain ⟨v, hv, hvchars⟩ := Option.map_eq_some_iff.mp hhead
      obtain rfl : v = .by_ := Word.chars_injective hvchars
      exact horder (Word.chars_injective hchars) hv
  rw [hkind]
  exact reserved_chars hw

/-! ## Trees of phrases -/

/-- The tokens of words, the first of which stands at `position`. -/
def wordTokens (position : Nat) (ws : List Word) : List Token :=
  tokensOf position (ws.map Word.chars)

theorem wordTokens_cons (position : Nat) (w : Word) (ws : List Word) :
    wordTokens position (w :: ws) =
      ⟨.of w.chars (ws.map Word.chars), w.text, position⟩
        :: wordTokens (position + w.chars.length) ws :=
  rfl

/-- A field may end with the words before the words `after`. -/
structure MayEnd (ws after : List Word) : Prop where
  order : after.head? = some .by_ → ws.getLast? ≠ some .order
  direction : after = [] → ws.getLast? ≠ some .asc ∧ ws.getLast? ≠ some .desc

theorem getLast?_ne_of_append {before ws : List Word} {w : Word}
    (h : (before ++ ws).getLast? ≠ some w) : ws.getLast? ≠ some w := by
  intro hw
  apply h
  rw [List.getLast?_append, hw, Option.some_or]

theorem mayEnd_nil (after : List Word) : MayEnd [] after :=
  ⟨fun _ => by simp, fun _ => by simp⟩

theorem MayEnd.of_cons {w : Word} {ws after : List Word} (h : MayEnd (w :: ws) after) :
    MayEnd ws after := by
  cases ws with
  | nil => exact mayEnd_nil after
  | cons v ws => exact ⟨by simpa using h.order, by simpa using h.direction⟩

/-- The words of a field are read as such. -/
theorem exists_leaves_words {ws after : List Word}
    (hfree : ∀ w ∈ ws, w ≠ .by_ ∧ w ≠ .and ∧ w ≠ .or) (hends : MayEnd ws after) (n : Nat) :
    ∃ (xs : List (Terminal [.word, .all])) (m : Nat),
      wordTokens n (ws ++ after) = leaves xs ++ wordTokens m after
        ∧ xs.map (·.val.text) = ws.map Word.text := by
  induction ws generalizing n with
  | nil => exact ⟨[], n, rfl, rfl⟩
  | cons w ws ih =>
    obtain ⟨xs, m, htokens, htexts⟩ :=
      ih (fun v hv => hfree v (List.mem_cons_of_mem _ hv)) hends.of_cons (n + w.chars.length)
    have hkind : TokenKind.of w.chars ((ws ++ after).map Word.chars) ∈ [TokenKind.word, .all] := by
      refine kind_of_free (hfree w List.mem_cons_self) ?_ ?_
      · -- The next word is one of the field, which is not `By`, or else the first after it.
        rintro rfl hby
        cases ws with
        | nil => exact hends.order hby rfl
        | cons v ws =>
          have hv := hfree v (List.mem_cons_of_mem _ List.mem_cons_self)
          exact hv.1 (Option.some.inj hby)
      · intro hnil
        obtain ⟨rfl, rfl⟩ := List.append_eq_nil_iff.mp hnil
        simpa using hends.direction rfl
    refine ⟨⟨⟨_, w.text, n⟩, hkind⟩ :: xs, m, ?_, by rw [List.map_cons, htexts, List.map_cons]⟩
    rw [List.cons_append, wordTokens_cons, htokens]
    rfl

theorem fieldStart_text (w : Word) :
    fieldStart w.text = String.ofList (w.initial.toLower :: w.rest) := by
  simp [fieldStart, Word.text, Word.chars]

theorem toList_join_text (ws : List Word) :
    (String.join (ws.map Word.text)).toList = charsOf ws := by
  induction ws with
  | nil => rfl
  | cons w ws ih =>
    rw [List.map_cons, String.join_cons, String.toList_append, ih, charsOf_cons, Word.text,
      String.toList_ofList]

/-- The name of a field is that of a tree whose texts are its words. -/
theorem name_eq_of_texts {t : FieldTree} {f : FieldPhrase}
    (hfirst : t.first.val.text = f.first.text)
    (hmore : t.more.map (·.val.text) = f.more.map Word.text) : t.name = f.name := by
  apply String.toList_inj.mp
  rw [FieldTree.name, joinedText, hfirst, hmore, fieldStart_text, String.toList_append,
    toList_join_text, FieldPhrase.name]
  simp

theorem FieldPhrase.exists_tree {f : FieldPhrase} {after : List Word} (hfree : f.Free)
    (hends : MayEnd f.words after) (n : Nat) :
    ∃ (t : FieldTree) (m : Nat), wordTokens n (f.words ++ after) = t.tokens ++ wordTokens m after
      ∧ t.name = f.name := by
  obtain ⟨xs, m, htokens, htexts⟩ := exists_leaves_words hfree hends n
  obtain ⟨x, xs, rfl, hfirst, hmore⟩ := List.map_eq_cons_iff.mp htexts
  exact ⟨⟨x, xs⟩, m, htokens, name_eq_of_texts hfirst hmore⟩

/-- The kind of a connector's word. -/
def Connector.kind : Connector → TokenKind
  | .and => .and
  | .or => .or

theorem kind_connector (k : Connector) (after : List (List Char)) :
    TokenKind.of k.keyword.chars after = k.kind := by
  cases k <;>
    simp [TokenKind.of, Connector.keyword, Connector.kind, Word.and, Word.or, Word.chars,
      TokenKind.reserved]

theorem keyword_ne_by (k : Connector) : k.keyword ≠ .by_ := by
  cases k <;> decide

/-- What ends a list of links ends their last field, and the fields before end at a connector. -/
theorem MayEnd.split {ws after : List Word} {ls : Links} (h : MayEnd (ws ++ ls.words) after) :
    MayEnd ws (ls.words ++ after) ∧ MayEnd ls.words after := by
  cases ls with
  | nil => exact ⟨by simpa using h, mayEnd_nil after⟩
  | cons l ls =>
    rw [Links.words_cons] at h ⊢
    refine ⟨⟨fun hby => ?_, by simp⟩, ⟨fun hby => ?_, fun hnil => ?_⟩⟩
    · exact absurd (Option.some.inj hby) (keyword_ne_by l.1)
    · simpa [List.getLast?_append] using h.order hby
    · simpa [List.getLast?_append] using h.direction hnil

theorem linkTokens_cons {ks : List TokenKind} (l : Terminal ks × FieldTree)
    (ls : List (Terminal ks × FieldTree)) :
    linkTokens (l :: ls) = l.1.val :: (l.2.tokens ++ linkTokens ls) :=
  rfl

/-- Fields with connectors before them are read one by one. -/
theorem Links.exists_trees {ks : List TokenKind} {ls : Links} {after : List Word}
    (hks : ∀ l ∈ ls, l.1.kind ∈ ks) (hfree : ∀ l ∈ ls, l.2.Free) (hends : MayEnd ls.words after)
    (n : Nat) :
    ∃ (ts : List (Terminal ks × FieldTree)) (m : Nat),
      wordTokens n (ls.words ++ after) = linkTokens ts ++ wordTokens m after
        ∧ ts.map (fun t => (t.1.val.kind, t.2.name)) = ls.map fun l => (l.1.kind, l.2.name) := by
  induction ls generalizing n with
  | nil => exact ⟨[], n, rfl, rfl⟩
  | cons l ls ih =>
    rw [words_cons] at hends
    obtain ⟨hfield, hrest⟩ := hends.of_cons.split
    obtain ⟨f, m₁, hf, hname⟩ :=
      FieldPhrase.exists_tree (hfree l List.mem_cons_self) hfield (n + l.1.keyword.chars.length)
    obtain ⟨ts, m, hts, hlinks⟩ := ih (fun l' h => hks l' (List.mem_cons_of_mem _ h))
      (fun l' h => hfree l' (List.mem_cons_of_mem _ h)) hrest m₁
    refine ⟨(⟨⟨l.1.kind, l.1.keyword.text, n⟩, hks l List.mem_cons_self⟩, f) :: ts, m, ?_, ?_⟩
    · rw [Links.words_cons, List.cons_append, List.append_assoc, wordTokens_cons, kind_connector,
        hf, hts, linkTokens_cons, List.cons_append, List.append_assoc]
    · rw [List.map_cons, hlinks, List.map_cons, ← hname]

theorem map_connector {ts : List (Terminal [.and, .or] × FieldTree)} {ls : Links}
    (h : ts.map (fun t => (t.1.val.kind, t.2.name)) = ls.map fun l => (l.1.kind, l.2.name)) :
    ts.map (·.1.connector) = ls.map (·.1) ∧ ts.map (·.2.name) = ls.map (·.2.name) := by
  induction ts generalizing ls with
  | nil =>
    obtain rfl := List.map_eq_nil_iff.mp h.symm
    exact ⟨rfl, rfl⟩
  | cons t ts ih =>
    cases ls with
    | nil => simp at h
    | cons l ls =>
      simp only [List.map_cons, List.cons.injEq, Prod.mk.injEq] at h
      obtain ⟨⟨hkind, hname⟩, hrest⟩ := h
      obtain ⟨hconnectors, hnames⟩ := ih hrest
      have hconnector : t.1.connector = l.1 := by
        rw [Terminal.connector, hkind]
        cases l.1 <;> rfl
      exact ⟨by rw [List.map_cons, List.map_cons, hconnector, hconnectors],
        by rw [List.map_cons, List.map_cons, hname, hnames]⟩

/-- A predicate is read as a whole. -/
theorem PredicatePhrase.exists_tree {p : PredicatePhrase} {after : List Word}
    (hfree : ∀ f ∈ p.fields, f.Free) (hends : MayEnd p.words after) (n : Nat) :
    ∃ (t : PredicateTree) (m : Nat),
      wordTokens n (p.words ++ after) = t.tokens ++ wordTokens m after
      ∧ t.terms = p.fields.map FieldPhrase.name ∧ t.connectors = p.connectors := by
  obtain ⟨hfirst, hmore⟩ := MayEnd.split hends
  obtain ⟨f, m₁, hf, hname⟩ := FieldPhrase.exists_tree (hfree p.first List.mem_cons_self) hfirst n
  have hks : ∀ l ∈ p.more, l.1.kind ∈ [TokenKind.and, .or] := by
    rintro ⟨k, f⟩ -
    cases k <;> simp [Connector.kind]
  have hlinks : ∀ l ∈ p.more, l.2.Free := fun l hl =>
    hfree l.2 (List.mem_cons_of_mem _ (List.mem_map_of_mem hl))
  obtain ⟨ts, m, hts, hmap⟩ := Links.exists_trees hks hlinks hmore m₁
  obtain ⟨hconnectors, hnames⟩ := map_connector hmap
  refine ⟨⟨f, ts⟩, m, ?_, ?_, hconnectors⟩
  · rw [PredicatePhrase.words, List.append_assoc, hf, hts, PredicateTree.tokens, List.append_assoc]
  · rw [PredicateTree.terms, hname, hnames, PredicatePhrase.fields, List.map_cons, List.map_map]
    rfl

/-- So is a predicate that ends the name. -/
theorem PredicatePhrase.exists_last {p : PredicatePhrase} (hfree : ∀ f ∈ p.fields, f.Free)
    (hlast : p.words.getLast? ≠ some .asc ∧ p.words.getLast? ≠ some .desc) (n : Nat) :
    ∃ t : PredicateTree, wordTokens n p.words = t.tokens
      ∧ t.terms = p.fields.map FieldPhrase.name ∧ t.connectors = p.connectors := by
  have hends : MayEnd p.words [] := ⟨by simp, fun _ => hlast⟩
  obtain ⟨t, m, htokens, hmeaning⟩ := PredicatePhrase.exists_tree hfree hends n
  rw [List.append_nil] at htokens
  exact ⟨t, htokens.trans (List.append_nil _), hmeaning⟩

theorem direction_ne_by (k : Direction) : k.keyword ≠ .by_ := by
  cases k <;> decide

/-- An order is read as a whole; it ends the name. -/
theorem OrderPhrase.exists_tree {o : OrderPhrase} (hfree : o.field.Free)
    (hlast : o.direction = none →
      o.field.words.getLast? ≠ some .asc ∧ o.field.words.getLast? ≠ some .desc) (n : Nat) :
    ∃ t : OrderTree, wordTokens n o.words = t.tokens
      ∧ t.field.name = o.field.name ∧ t.toDirection = o.direction.getD .asc := by
  obtain ⟨field, direction⟩ := o
  have hends : MayEnd field.words (direction.map Direction.keyword).toList := by
    cases direction with
    | none => exact ⟨by simp, fun _ => hlast rfl⟩
    | some k => exact ⟨fun hby => absurd (Option.some.inj hby) (direction_ne_by k), by simp⟩
  obtain ⟨f, m, hf, hname⟩ := FieldPhrase.exists_tree hfree hends
    (n + Word.order.chars.length + Word.by_.chars.length)
  have hwords : wordTokens n (OrderPhrase.words ⟨field, direction⟩) =
      ⟨.order, Word.order.text, n⟩ :: ⟨.by_, Word.by_.text, n + Word.order.chars.length⟩
        :: (f.tokens ++ wordTokens m (direction.map Direction.keyword).toList) := by
    rw [← hf]
    rfl
  rw [hwords]
  let order : Terminal [.order] := ⟨⟨.order, Word.order.text, n⟩, List.mem_singleton.mpr rfl⟩
  let by_ : Terminal [.by_] :=
    ⟨⟨.by_, Word.by_.text, n + Word.order.chars.length⟩, List.mem_singleton.mpr rfl⟩
  cases direction with
  | none => exact ⟨⟨order, by_, f, none⟩, rfl, hname, rfl⟩
  | some k =>
    cases k with
    | asc =>
      exact ⟨⟨order, by_, f, some ⟨⟨.asc, Word.asc.text, m⟩, by simp⟩⟩, rfl, hname, rfl⟩
    | desc =>
      exact ⟨⟨order, by_, f, some ⟨⟨.desc, Word.desc.text, m⟩, by simp⟩⟩, rfl, hname, rfl⟩

/-- An order that may be left out is read, or there is nothing to read. -/
theorem exists_optionTree {o : Option OrderPhrase} (hfree : ∀ o' ∈ o, o'.field.Free)
    (hlast : o.bind OrderPhrase.direction = none →
      (orderWords o).getLast? ≠ some .asc ∧ (orderWords o).getLast? ≠ some .desc) (n : Nat) :
    ∃ t : Option OrderTree, wordTokens n (orderWords o) = optionTokens OrderTree.tokens t
      ∧ t.map (·.field.name) = o.map (·.field.name)
      ∧ (t.map OrderTree.toDirection).getD .asc = (o.bind OrderPhrase.direction).getD .asc := by
  cases o with
  | none => exact ⟨none, rfl, rfl, rfl⟩
  | some o =>
    have hfield : o.direction = none →
        o.field.words.getLast? ≠ some .asc ∧ o.field.words.getLast? ≠ some .desc := by
      intro hnone
      have hwords : orderWords (some o) = [.order, .by_] ++ o.field.words := by
        simp [orderWords, OrderPhrase.words, hnone]
      have h := hlast hnone
      rw [hwords] at h
      exact ⟨getLast?_ne_of_append h.1, getLast?_ne_of_append h.2⟩
    obtain ⟨t, htokens, hname, hdirection⟩ :=
      OrderPhrase.exists_tree (hfree o rfl) hfield n
    exact ⟨some t, htokens, congrArg some hname, hdirection⟩

theorem Query.ordered_eq {q : Query} (hfield : q.orderField = none)
    (hdirection : q.direction = .asc) (t : Option OrderTree) :
    q.ordered t = { q with orderField := t.map (·.field.name)
                           direction := (t.map OrderTree.toDirection).getD .asc } := by
  cases t with
  | none =>
    rw [Option.map_none, Option.map_none, ← hfield, Option.getD_none, ← hdirection]
    rfl
  | some t => rfl

/-! ## Names of phrases -/

/-- The kind of the word before the first capital. -/
def Verb.kind : Verb → TokenKind
  | .save => .save
  | .find | .findAll => .find
  | .exist => .exist
  | .delete => .delete
  | .update => .update

theorem Verb.kind_opening (v : Verb) (after : List (List Char)) :
    TokenKind.of v.opening after = v.kind := by
  cases v <;> simp [TokenKind.of, Verb.opening, Verb.word, Verb.kind, TokenKind.reserved]

theorem Verb.exists_opening (v : Verb) :
    ∃ c cs, v.opening = c :: cs ∧ isNameChar c = true ∧ ∀ d ∈ cs, continuesWord d = true := by
  cases v <;> exact ⟨_, _, rfl, rfl, List.all_eq_true.mp rfl⟩

/-- What is written is cut into the words that were put together. -/
theorem Phrase.tokenize_spelling (p : Phrase) {v : Verb} (hv : p.verb = v) :
    tokenize p.spelling =
      .ok (⟨v.kind, String.ofList v.opening, 0⟩ :: wordTokens v.opening.length p.words) := by
  obtain ⟨c, cs, hopening, hc, hcs⟩ := v.exists_opening
  rw [← v.kind_opening (p.words.map Word.chars), Phrase.spelling, hv, hopening,
    List.cons_append, tokenize_words hc hcs, tokensOf, Nat.zero_add]
  rfl

/-- The last word of fields to set is that of the last field. -/
theorem getLast?_setWords (first : FieldPhrase) (more : List FieldPhrase) :
    ∃ f, (first :: more).getLast? = some f ∧
      (first.words ++ Links.words (more.map (Connector.and, ·))).getLast? = f.words.getLast? := by
  induction more generalizing first with
  | nil => exact ⟨first, rfl, by simp⟩
  | cons g more ih =>
    obtain ⟨f, hf, hwords⟩ := ih g
    refine ⟨f, by rw [List.getLast?_cons_cons, hf], ?_⟩
    rw [List.map_cons, Links.words_cons, ← hwords, List.getLast?_append, FieldPhrase.words,
      FieldPhrase.words, List.cons_append, List.getLast?_cons_cons, List.getLast?_cons,
      Option.some_or]

/-- The last field to set ends before the `By` after it. -/
theorem Phrase.Expressible.mayEnd_set {first : FieldPhrase} {more : List FieldPhrase}
    {predicate : PredicatePhrase} (h : (updateFields first more predicate).Expressible) :
    MayEnd (first.words ++ Links.words (more.map (Connector.and, ·)))
      (.by_ :: predicate.words) := by
  obtain ⟨f, hf, hwords⟩ := getLast?_setWords first more
  exact ⟨fun _ => hwords ▸ h.set f hf, by simp⟩

section

variable {p : Phrase} (h : p.Expressible)
include h

theorem Phrase.Expressible.free_predicate {predicate : PredicatePhrase}
    (hp : p.predicate? = some predicate) : ∀ f ∈ predicate.fields, f.Free :=
  fun f hf => h.free f (Phrase.mem_fields.mpr (Or.inr (Or.inl ⟨predicate, hp, hf⟩)))

theorem Phrase.Expressible.free_order : ∀ o ∈ p.order?, o.field.Free :=
  fun o ho => h.free _ (Phrase.mem_fields.mpr (Or.inr (Or.inr ⟨o, ho, rfl⟩)))

/-- What ends the words of the phrase is not read as a direction that is not written. -/
theorem Phrase.Expressible.last_words (before : List Word) {ws : List Word}
    (hwords : p.words = before ++ ws) (hnone : p.order?.bind OrderPhrase.direction = none) :
    ws.getLast? ≠ some .asc ∧ ws.getLast? ≠ some .desc := by
  have hlast := h.last hnone
  rw [hwords] at hlast
  exact ⟨getLast?_ne_of_append hlast.1, getLast?_ne_of_append hlast.2⟩

end

theorem exists_derivation_findAll {order : Option OrderPhrase}
    (h : (Phrase.findAll order).Expressible) :
    ∃ d : Derivation, tokenize (Phrase.findAll order).spelling = .ok d.tokens
      ∧ d.query (Phrase.findAll order).spelling = (Phrase.findAll order).query := by
  obtain ⟨t, htokens, hfield, hdirection⟩ := exists_optionTree h.free_order
    (h.last_words [.all] rfl) 7
  refine ⟨.findAll ⟨⟨.find, "find", 0⟩, by simp⟩ ⟨⟨.all, "All", 4⟩, by simp⟩ t, ?_, ?_⟩
  · rw [Phrase.tokenize_spelling _ rfl, Derivation.tokens, ← htokens]
    rfl
  · rw [Derivation.query, Query.ordered_eq rfl rfl, hfield, hdirection]
    rfl

theorem exists_derivation_find {all : Bool} {predicate : PredicatePhrase}
    {order : Option OrderPhrase} (h : (Phrase.find all predicate order).Expressible) :
    ∃ d : Derivation, tokenize (Phrase.find all predicate order).spelling = .ok d.tokens
      ∧ d.query (Phrase.find all predicate order).spelling =
        (Phrase.find all predicate order).query := by
  have hwords : (Phrase.find all predicate order).words =
      ((if all then [Word.all] else []) ++ [Word.by_] ++ predicate.words) ++ orderWords order := by
    simp [Phrase.words]
  have hends : MayEnd predicate.words (orderWords order) := by
    cases order with
    | none =>
      rw [orderWords, Option.elim_none, List.append_nil] at hwords
      exact ⟨by simp [orderWords], fun _ => h.last_words _ hwords rfl⟩
    | some o => exact ⟨fun hby => absurd (Option.some.inj hby) (by decide), fun h => by cases h⟩
  -- The words before the predicate are one more if the verb is `findAll`.
  let n := 4 + (charsOf (if all then [Word.all] else [])).length
  obtain ⟨p, m, hp, hterms, hconnectors⟩ :=
    PredicatePhrase.exists_tree (h.free_predicate rfl) hends (n + 2)
  obtain ⟨t, ht, hfield, hdirection⟩ :=
    exists_optionTree (o := order) h.free_order (h.last_words _ hwords) m
  let all? : Option (Terminal [.all]) := if all then some ⟨⟨.all, "All", 4⟩, by simp⟩ else none
  refine ⟨.find ⟨⟨.find, "find", 0⟩, by simp⟩ all? ⟨⟨.by_, "By", n⟩, by simp⟩ p t, ?_, ?_⟩
  · rw [Derivation.tokens, ← ht, ← hp]
    cases all with
    | false => exact Phrase.tokenize_spelling _ (v := .find) rfl
    | true => exact Phrase.tokenize_spelling _ (v := .findAll) rfl
  · rw [Derivation.query, Query.ordered_eq rfl rfl, hfield, hdirection, Query.comparing, hterms,
      hconnectors]
    cases all <;> rfl

theorem exists_derivation_act {v : ActVerb} {predicate : PredicatePhrase}
    (h : (Phrase.act v predicate).Expressible) :
    ∃ d : Derivation, tokenize (Phrase.act v predicate).spelling = .ok d.tokens
      ∧ d.query (Phrase.act v predicate).spelling = (Phrase.act v predicate).query := by
  obtain ⟨p, hp, hterms, hconnectors⟩ := PredicatePhrase.exists_last (h.free_predicate rfl)
    (h.last_words [.by_] rfl rfl) (v.val.opening.length + 2)
  let t : Token := ⟨v.val.kind, String.ofList v.val.opening, 0⟩
  obtain ⟨hkind, hverb⟩ : ∃ hkind : t.kind ∈ [.exist, .delete, .update],
      Terminal.verb ⟨t, hkind⟩ = v.val := by
    obtain ⟨v, hv⟩ := v
    simp only [List.mem_cons, List.not_mem_nil, or_false] at hv
    rcases hv with rfl | rfl | rfl <;> exact ⟨by simp [t, Verb.kind], rfl⟩
  refine ⟨.act ⟨t, hkind⟩ ⟨⟨.by_, "By", v.val.opening.length⟩, by simp⟩ p, ?_, ?_⟩
  · rw [Phrase.tokenize_spelling _ rfl, Derivation.tokens, ← hp]
    rfl
  · rw [Derivation.query, Query.comparing, hterms, hconnectors, hverb]
    rfl

theorem exists_derivation_updateFields {first : FieldPhrase} {more : List FieldPhrase}
    {predicate : PredicatePhrase} (h : (Phrase.updateFields first more predicate).Expressible) :
    ∃ d : Derivation, tokenize (Phrase.updateFields first more predicate).spelling = .ok d.tokens
      ∧ d.query (Phrase.updateFields first more predicate).spelling =
        (Phrase.updateFields first more predicate).query := by
  let links : Links := more.map (Connector.and, ·)
  have hset : ∀ f ∈ first :: more, f.Free := fun f hf =>
    h.free f (Phrase.mem_fields.mpr (Or.inl hf))
  have hlinks : ∀ l ∈ links, l.1.kind ∈ [TokenKind.and] ∧ l.2.Free := by
    intro l hl
    obtain ⟨f, hf, rfl⟩ := List.mem_map.mp hl
    exact ⟨List.mem_singleton.mpr rfl, hset f (List.mem_cons_of_mem _ hf)⟩
  obtain ⟨hfirst, hmore⟩ : MayEnd first.words (links.words ++ .by_ :: predicate.words) ∧
      MayEnd links.words (.by_ :: predicate.words) := h.mayEnd_set.split
  obtain ⟨f, m₁, hf, hname⟩ :=
    FieldPhrase.exists_tree (hset first List.mem_cons_self) hfirst 6
  obtain ⟨ts, m, hts, hmap⟩ := Links.exists_trees (fun l hl => (hlinks l hl).1)
    (fun l hl => (hlinks l hl).2) hmore m₁
  have hnames : ts.map (·.2.name) = more.map FieldPhrase.name := by
    have := congrArg (List.map Prod.snd) hmap
    simpa [links, Function.comp_def] using this
  have hwords : (Phrase.updateFields first more predicate).words =
      (first.words ++ links.words ++ [Word.by_]) ++ predicate.words := by
    simp [Phrase.words, links]
  obtain ⟨p, hp, hterms, hconnectors⟩ := PredicatePhrase.exists_last (h.free_predicate rfl)
    (h.last_words _ hwords rfl) (m + 2)
  refine ⟨.updateFields ⟨⟨.update, "update", 0⟩, by simp⟩ f ts ⟨⟨.by_, "By", m⟩, by simp⟩ p, ?_, ?_⟩
  · have hby : wordTokens m (.by_ :: predicate.words) = ⟨.by_, "By", m⟩ :: p.tokens := by
      rw [← hp]
      rfl
    rw [Derivation.tokens, ← hby, ← hts, ← hf]
    exact Phrase.tokenize_spelling _ (v := .update) rfl
  · rw [Derivation.query, Query.comparing, hterms, hconnectors, hname, hnames]
    rfl

/-- What an expressible phrase is written as has a derivation, and it means what the phrase is to
mean. -/
theorem Phrase.Expressible.exists_derivation {p : Phrase} (h : p.Expressible) :
    ∃ d : Derivation, tokenize p.spelling = .ok d.tokens ∧ d.query p.spelling = p.query := by
  cases p with
  | save => exact ⟨.save ⟨⟨.save, "save", 0⟩, by simp⟩, tokenize_spelling .save rfl, rfl⟩
  | findAll order => exact exists_derivation_findAll h
  | find all predicate order => exact exists_derivation_find h
  | act v predicate => exact exists_derivation_act h
  | updateFields first more predicate => exact exists_derivation_updateFields h

end EntityMap.Method
