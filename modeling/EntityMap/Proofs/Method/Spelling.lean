import EntityMap.Proofs.Method.Expressible

/-!
# Names and their phrases

Every derivation of a name is one of an expressible phrase, and the name is the spelling of it
(`exists_phrase`) : the words that a tree takes off the tokens have the kinds that its leaves must
have, and these kinds are what makes a field free and says with which words it may end. What a
phrase means determines it (`Phrase.query_injective`), so a name reads as the phrase that it was
spelled from if and only if that phrase is expressible.
-/

namespace EntityMap.Method

/-! ## Words of a kind -/

/-- The one word of a kind, if there is but one. -/
def TokenKind.keyword? : TokenKind → Option Word
  | .order => some .order
  | .asc => some .asc
  | .desc => some .desc
  | .all => some .all
  | .by_ => some .by_
  | .and => some .and
  | .or => some .or
  | _ => none

theorem eq_of_keyword? {w v : Word} {after : List (List Char)}
    (h : (TokenKind.of w.chars after).keyword? = some v) : w = v := by
  apply Word.chars_injective
  unfold TokenKind.of TokenKind.reserved at h
  split_ifs at h with horder hasc hdesc
  · cases h
    exact horder.1
  · cases h
    exact hasc.1
  · cases h
    exact hdesc.1
  · split at h <;> cases h <;> assumption

/-- What the kind of a word of a field says of the word. -/
theorem free_of_kind {w : Word} {after : List Word}
    (h : TokenKind.of w.chars (after.map Word.chars) ∈ [TokenKind.word, .all]) :
    (w ≠ .by_ ∧ w ≠ .and ∧ w ≠ .or) ∧ MayEnd [w] after := by
  have hne : ∀ v : Word, TokenKind.of v.chars (after.map Word.chars) ∉ [TokenKind.word, .all] →
      w ≠ v := by
    rintro v hv rfl
    exact hv h
  refine ⟨⟨hne _ ?_, hne _ ?_, hne _ ?_⟩, ⟨?_, ?_⟩⟩
  · simp [TokenKind.of, Word.by_, Word.chars, TokenKind.reserved]
  · simp [TokenKind.of, Word.and, Word.chars, TokenKind.reserved]
  · simp [TokenKind.of, Word.or, Word.chars, TokenKind.reserved]
  · intro hby hw
    refine hne .order ?_ (Option.some.inj hw)
    simp [TokenKind.of, Word.order, Word.chars, hby, Word.by_]
  · rintro rfl
    refine ⟨fun hw => hne .asc ?_ (Option.some.inj hw),
      fun hw => hne .desc ?_ (Option.some.inj hw)⟩
    · simp [TokenKind.of, Word.asc, Word.chars]
    · simp [TokenKind.of, Word.desc, Word.chars]

/-! ## Phrases of trees -/

/-- A token that is cut off the front of words is one of them. -/
theorem exists_word_of_cons {t : Token} {ts : List Token} {n : Nat} {ws : List Word}
    (h : t :: ts = wordTokens n ws) :
    ∃ w vs, ws = w :: vs ∧ t.text = w.text ∧ t.kind = .of w.chars (vs.map Word.chars)
      ∧ ts = wordTokens (n + w.chars.length) vs := by
  cases ws with
  | nil => cases h
  | cons w vs =>
    obtain ⟨rfl, hts⟩ := List.cons.inj h
    exact ⟨w, vs, rfl, rfl, rfl, hts⟩

/-- A keyword that is cut off the front of words. -/
theorem eq_keyword_of_cons {t : Token} {ts : List Token} {n : Nat} {ws : List Word} {v : Word}
    (h : t :: ts = wordTokens n ws) (hv : t.kind.keyword? = some v) :
    ∃ vs m, ws = v :: vs ∧ ts = wordTokens m vs := by
  obtain ⟨w, vs, rfl, -, hkind, hts⟩ := exists_word_of_cons h
  rw [hkind] at hv
  exact ⟨vs, _, by rw [eq_of_keyword? hv], hts⟩

theorem exists_words_of_leaves {xs : List (Terminal [.word, .all])} {ts : List Token} {n : Nat}
    {ws : List Word} (h : leaves xs ++ ts = wordTokens n ws) :
    ∃ us vs m, ws = us ++ vs ∧ ts = wordTokens m vs ∧ us.map Word.text = xs.map (·.val.text)
      ∧ (∀ w ∈ us, w ≠ .by_ ∧ w ≠ .and ∧ w ≠ .or) ∧ MayEnd us vs := by
  induction xs generalizing n ws with
  | nil => exact ⟨[], ws, n, rfl, h, rfl, by simp, mayEnd_nil ws⟩
  | cons x xs ih =>
    obtain ⟨w, ws, rfl, htext, hkind, hrest⟩ := exists_word_of_cons h
    obtain ⟨us, vs, m, rfl, hts, htexts, hfree, hends⟩ := ih hrest
    have hx := x.property
    rw [hkind] at hx
    obtain ⟨hw, hend⟩ := free_of_kind hx
    refine ⟨w :: us, vs, m, rfl, hts, by rw [List.map_cons, List.map_cons, htext, htexts],
      List.forall_mem_cons.mpr ⟨hw, hfree⟩, ?_⟩
    cases us with
    | nil => exact hend
    | cons u us => exact ⟨by simpa using hends.order, by simpa using hends.direction⟩

theorem FieldTree.exists_phrase {t : FieldTree} {ts : List Token} {n : Nat} {ws : List Word}
    (h : t.tokens ++ ts = wordTokens n ws) :
    ∃ (f : FieldPhrase) (vs : List Word) (m : Nat), ws = f.words ++ vs ∧ ts = wordTokens m vs
      ∧ f.name = t.name ∧ f.Free ∧ MayEnd f.words vs := by
  have hleaves : leaves (t.first :: t.more) ++ ts = wordTokens n ws := h
  obtain ⟨us, vs, m, rfl, hts, htexts, hfree, hends⟩ := exists_words_of_leaves hleaves
  obtain ⟨w, us, rfl, hfirst, hmore⟩ := List.map_eq_cons_iff.mp htexts
  exact ⟨⟨w, us⟩, vs, m, rfl, hts, (name_eq_of_texts hfirst.symm hmore.symm).symm, hfree, hends⟩

/-- Words that may end before the next ones are put together with these. -/
theorem MayEnd.append {ws after : List Word} {ls : Links} (hws : MayEnd ws (ls.words ++ after))
    (hls : MayEnd ls.words after) : MayEnd (ws ++ ls.words) after := by
  cases ls with
  | nil => simpa using hws
  | cons l ls =>
    rw [Links.words_cons] at hls ⊢
    have hlast : ∀ vs : List Word, (ws ++ l.1.keyword :: vs).getLast? =
        (l.1.keyword :: vs).getLast? := fun vs =>
      List.getLast?_append_of_ne_nil ws (List.cons_ne_nil _ vs)
    exact ⟨by rw [hlast]; exact hls.order, by rw [hlast]; exact hls.direction⟩

theorem exists_links_of_linkTokens {ks : List TokenKind} (hks : ks ⊆ [.and, .or])
    {ls : List (Terminal ks × FieldTree)} {ts : List Token} {n : Nat} {ws : List Word}
    (h : linkTokens ls ++ ts = wordTokens n ws) :
    ∃ (links : Links) (vs : List Word) (m : Nat), ws = links.words ++ vs ∧ ts = wordTokens m vs
      ∧ ls.map (fun l => (l.1.val.kind, l.2.name)) = links.map (fun l => (l.1.kind, l.2.name))
      ∧ (∀ l ∈ links, l.2.Free) ∧ MayEnd links.words vs := by
  induction ls generalizing n ws with
  | nil => exact ⟨[], ws, n, rfl, h, rfl, by simp, mayEnd_nil ws⟩
  | cons l ls ih =>
    obtain ⟨k, hkind⟩ : ∃ k : Connector, l.1.val.kind = k.kind := by
      rcases List.mem_pair.mp (hks l.1.property) with hk | hk
      · exact ⟨.and, hk⟩
      · exact ⟨.or, hk⟩
    rw [linkTokens_cons, List.cons_append, List.append_assoc] at h
    have hkeyword : l.1.val.kind.keyword? = some k.keyword := by
      rw [hkind]
      cases k <;> rfl
    obtain ⟨ws, m₁, rfl, hrest⟩ := eq_keyword_of_cons h hkeyword
    obtain ⟨f, ws, m₂, rfl, hrest, hname, hfree, hends⟩ := FieldTree.exists_phrase hrest
    obtain ⟨links, vs, m, rfl, hts, hlinks, hfrees, hlast⟩ := ih hrest
    refine ⟨(k, f) :: links, vs, m, ?_, hts, ?_, List.forall_mem_cons.mpr ⟨hfree, hfrees⟩, ?_⟩
    · rw [Links.words_cons, List.cons_append, List.append_assoc]
    · rw [List.map_cons, List.map_cons, hlinks, hkind, hname]
    · have hwords := hends.append hlast
      have hcons : Links.words ((k, f) :: links) = [k.keyword] ++ (f.words ++ links.words) := rfl
      have hne := List.append_ne_nil_of_left_ne_nil f.words_ne_nil links.words
      rw [hcons]
      exact ⟨by rw [List.getLast?_append_of_ne_nil _ hne]; exact hwords.order,
        by rw [List.getLast?_append_of_ne_nil _ hne]; exact hwords.direction⟩

theorem PredicateTree.exists_phrase {t : PredicateTree} {ts : List Token} {n : Nat}
    {ws : List Word} (h : t.tokens ++ ts = wordTokens n ws) :
    ∃ (p : PredicatePhrase) (vs : List Word) (m : Nat), ws = p.words ++ vs ∧ ts = wordTokens m vs
      ∧ p.fields.map FieldPhrase.name = t.terms ∧ p.connectors = t.connectors
      ∧ (∀ f ∈ p.fields, f.Free) ∧ MayEnd p.words vs := by
  rw [PredicateTree.tokens, List.append_assoc] at h
  obtain ⟨f, ws, m₁, rfl, hrest, hname, hfree, hends⟩ := FieldTree.exists_phrase h
  obtain ⟨links, vs, m, rfl, hts, hlinks, hfrees, hlast⟩ :=
    exists_links_of_linkTokens (List.Subset.refl _) hrest
  obtain ⟨hconnectors, hnames⟩ := map_connector hlinks
  refine ⟨⟨f, links⟩, vs, m, ?_, hts, ?_, hconnectors.symm, ?_, hends.append hlast⟩
  · rw [PredicatePhrase.words, List.append_assoc]
  · rw [PredicateTree.terms, hnames, ← hname, PredicatePhrase.fields, List.map_cons, List.map_map]
    rfl
  · intro g hg
    rcases List.mem_cons.mp hg with rfl | hg
    · exact hfree
    · obtain ⟨l, hl, rfl⟩ := List.mem_map.mp hg
      exact hfrees l hl

theorem eq_nil_of_wordTokens {n : Nat} {ws : List Word} (h : [] = wordTokens n ws) : ws = [] := by
  cases ws with
  | nil => rfl
  | cons w ws => cases h

theorem PredicateTree.exists_last_phrase {t : PredicateTree} {n : Nat} {ws : List Word}
    (h : t.tokens = wordTokens n ws) :
    ∃ p : PredicatePhrase, ws = p.words ∧ p.fields.map FieldPhrase.name = t.terms
      ∧ p.connectors = t.connectors ∧ (∀ f ∈ p.fields, f.Free) ∧ MayEnd p.words [] := by
  rw [← List.append_nil t.tokens] at h
  obtain ⟨p, vs, m, rfl, hnil, hphrase⟩ := PredicateTree.exists_phrase h
  obtain rfl := eq_nil_of_wordTokens hnil
  exact ⟨p, List.append_nil _, hphrase⟩

theorem OrderTree.exists_phrase {t : OrderTree} {n : Nat} {ws : List Word}
    (h : t.tokens = wordTokens n ws) :
    ∃ o : OrderPhrase, ws = o.words ∧ o.field.name = t.field.name
      ∧ o.direction.getD .asc = t.toDirection ∧ o.field.Free
      ∧ (o.direction = none → MayEnd o.field.words []) := by
  obtain ⟨ws, m₁, rfl, hby⟩ := eq_keyword_of_cons h (v := .order) (by rw [t.order.kind_eq]; rfl)
  obtain ⟨ws, m₂, rfl, hrest⟩ := eq_keyword_of_cons hby (v := .by_) (by rw [t.by_.kind_eq]; rfl)
  obtain ⟨f, ws, m, rfl, hdirection, hname, hfree, hends⟩ := FieldTree.exists_phrase hrest
  obtain ⟨order, by_, field, direction⟩ := t
  cases direction with
  | none =>
    obtain rfl := eq_nil_of_wordTokens hdirection
    exact ⟨⟨f, none⟩, rfl, hname, rfl, hfree, fun _ => hends⟩
  | some d =>
    obtain ⟨k, hk, hvalue⟩ : ∃ k : Direction, d.val.kind.keyword? = some k.keyword ∧
        OrderTree.toDirection ⟨order, by_, field, some d⟩ = k := by
      rcases List.mem_pair.mp d.property with hd | hd
      · exact ⟨.asc, by rw [hd]; rfl, by simp [OrderTree.toDirection, hd]⟩
      · exact ⟨.desc, by rw [hd]; rfl, by simp [OrderTree.toDirection, hd]⟩
    have hlast : [d.val] = wordTokens m ws := hdirection
    obtain ⟨ws, m', rfl, hnil⟩ := eq_keyword_of_cons hlast hk
    obtain rfl := eq_nil_of_wordTokens hnil
    exact ⟨⟨f, some k⟩, rfl, hname, hvalue.symm, hfree, fun hnone => by cases hnone⟩

theorem exists_optionPhrase {t : Option OrderTree} {n : Nat} {ws : List Word}
    (h : optionTokens OrderTree.tokens t = wordTokens n ws) :
    ∃ o : Option OrderPhrase, ws = orderWords o
      ∧ o.map (·.field.name) = t.map (·.field.name)
      ∧ (o.bind OrderPhrase.direction).getD .asc = (t.map OrderTree.toDirection).getD .asc
      ∧ ∀ o' ∈ o, o'.field.Free ∧ (o'.direction = none → MayEnd o'.field.words []) := by
  cases t with
  | none =>
    obtain rfl := eq_nil_of_wordTokens h
    exact ⟨none, rfl, rfl, rfl, by simp⟩
  | some t =>
    obtain ⟨o, rfl, hname, hdirection, hfree, hends⟩ := OrderTree.exists_phrase h
    exact ⟨some o, rfl, congrArg some hname, hdirection, by simpa using ⟨hfree, hends⟩⟩

theorem eq_opening_of_kind {v : Verb} {w : List Char} {after : List (List Char)}
    (h : TokenKind.of w after = v.kind) : w = v.opening := by
  unfold TokenKind.of TokenKind.reserved at h
  split_ifs at h
  iterate 3 cases v <;> cases h
  split at h <;> cases v <;> cases h <;> rfl

/-- The first word of a name opens it, and words follow. -/
theorem exists_words_of_verb {name : String} {t : Token} {ts : List Token} {v : Verb}
    (h : tokenize name = .ok (t :: ts)) (hv : t.kind = v.kind) :
    ∃ ws n, name = String.ofList (v.opening ++ charsOf ws) ∧ ts = wordTokens n ws := by
  obtain ⟨first, ws, rfl, hts⟩ := exists_words_of_tokenize h
  obtain ⟨rfl, hrest⟩ := List.cons.inj hts
  exact ⟨ws, _, by rw [eq_opening_of_kind hv], hrest⟩

/-! ## Expressible phrases of derivations -/

/-- What the words before an order and those of the order may end with is all that the end of a
name is asked for. -/
theorem Phrase.Expressible.of_words {p : Phrase} (before ws : List Word)
    (hwords : p.words = before ++ ws ++ orderWords p.order?) (hne : ws ≠ [])
    (hends : MayEnd ws (orderWords p.order?)) (hset : ∀ f ∈ p.setFields, f.Free)
    (hpredicate : ∀ predicate ∈ p.predicate?, ∀ f ∈ predicate.fields, f.Free)
    (horder : ∀ o ∈ p.order?, o.field.Free ∧ (o.direction = none → MayEnd o.field.words []))
    (hlast : ∀ f, p.setFields.getLast? = some f → f.words.getLast? ≠ some .order) :
    p.Expressible := by
  refine ⟨fun f hf => ?_, fun hnone => ?_, hlast⟩
  · rcases Phrase.mem_fields.mp hf with hf | ⟨predicate, hp, hf⟩ | ⟨o, ho, rfl⟩
    · exact hset f hf
    · exact hpredicate predicate hp f hf
    · exact (horder o ho).1
  rw [hwords]
  cases ho : p.order? with
  | none =>
    rw [ho] at hends
    rw [orderWords, Option.elim_none, List.append_nil, List.getLast?_append_of_ne_nil _ hne]
    exact hends.direction rfl
  | some o =>
    have hdirection : o.direction = none := by simpa [ho] using hnone
    have hcut : before ++ ws ++ orderWords (some o) =
        (before ++ ws ++ [.order, .by_]) ++ o.field.words := by
      simp [orderWords, OrderPhrase.words, hdirection]
    rw [hcut, List.getLast?_append_of_ne_nil _ o.field.words_ne_nil]
    exact ((horder o ho).2 hdirection).direction rfl

/-- Fields after `And` only are fields to set. -/
theorem exists_setPhrases {ls : List (Terminal [.and] × FieldTree)} {links : Links}
    (h : ls.map (fun l => (l.1.val.kind, l.2.name)) = links.map fun l => (l.1.kind, l.2.name)) :
    ∃ fs : List FieldPhrase, links = fs.map (Connector.and, ·)
      ∧ fs.map FieldPhrase.name = ls.map (·.2.name) := by
  have hand : ∀ l ∈ links, l.1 = .and := by
    intro l hl
    have hmem : (l.1.kind, l.2.name) ∈ ls.map fun l => (l.1.val.kind, l.2.name) := by
      rw [h]
      exact List.mem_map_of_mem hl
    obtain ⟨t, -, ht⟩ := List.mem_map.mp hmem
    have hkind := (Prod.mk.inj ht).1
    rw [t.1.kind_eq] at hkind
    cases hl : l.1 with
    | and => rfl
    | or => rw [hl] at hkind; cases hkind
  refine ⟨links.map (·.2), ?_, ?_⟩
  · rw [List.map_map]
    exact (List.map_id links).symm.trans
      (List.map_congr_left fun l hl => Prod.ext (hand l hl) rfl)
  · have hnames := congrArg (List.map Prod.snd) h
    simpa [Function.comp_def] using hnames.symm

section

variable {name : String}

theorem exists_phrase_findAll {verb : Terminal [.find]} {all : Terminal [.all]}
    {order : Option OrderTree}
    (h : tokenize name = .ok (Derivation.findAll verb all order).tokens) :
    ∃ p : Phrase, p.Expressible ∧ p.spelling = name
      ∧ p.query = (Derivation.findAll verb all order).query name := by
  obtain ⟨ws, n, rfl, hafter⟩ := exists_words_of_verb (v := .findAll) h verb.kind_eq
  obtain ⟨ws, m, rfl, hrest⟩ := eq_keyword_of_cons hafter (v := .all) (by rw [all.kind_eq]; rfl)
  obtain ⟨o, rfl, hfield, hdirection, horder⟩ := exists_optionPhrase hrest
  refine ⟨.findAll o, ?_, rfl, ?_⟩
  · exact .of_words [] [.all] rfl (List.cons_ne_nil _ _)
      ⟨fun _ => by decide, fun _ => by decide⟩ (by simp [Phrase.setFields])
      (by simp [Phrase.predicate?]) horder (by simp [Phrase.setFields])
  · rw [Derivation.query, Query.ordered_eq rfl rfl, ← hfield, ← hdirection]
    rfl

theorem exists_phrase_find {verb : Terminal [.find]} {all : Option (Terminal [.all])}
    {by_ : Terminal [.by_]} {predicate : PredicateTree} {order : Option OrderTree}
    (h : tokenize name = .ok (Derivation.find verb all by_ predicate order).tokens) :
    ∃ p : Phrase, p.Expressible ∧ p.spelling = name
      ∧ p.query = (Derivation.find verb all by_ predicate order).query name := by
  have hverb : verb.val.kind = (if all.isSome then Verb.findAll else Verb.find).kind := by
    rw [verb.kind_eq]
    split <;> rfl
  obtain ⟨ws, n, rfl, hafter⟩ := exists_words_of_verb h hverb
  obtain ⟨ws, m₁, rfl, hby⟩ : ∃ vs m, ws = (if all.isSome then [Word.all] else []) ++ vs
      ∧ by_.val :: (predicate.tokens ++ optionTokens OrderTree.tokens order) = wordTokens m vs := by
    cases all with
    | none => exact ⟨ws, n, rfl, hafter⟩
    | some all => exact eq_keyword_of_cons hafter (v := .all) (by rw [all.kind_eq]; rfl)
  obtain ⟨ws, m₂, rfl, hrest⟩ := eq_keyword_of_cons hby (v := .by_) (by rw [by_.kind_eq]; rfl)
  obtain ⟨p, ws, m, rfl, hrest, hterms, hconnectors, hfree, hends⟩ :=
    PredicateTree.exists_phrase hrest
  obtain ⟨o, rfl, hfield, hdirection, horder⟩ := exists_optionPhrase hrest
  refine ⟨.find all.isSome p o, ?_, rfl, ?_⟩
  · exact .of_words ((if all.isSome then [Word.all] else []) ++ [.by_]) p.words
      (by simp [Phrase.words, Phrase.order?]) p.words_ne_nil hends (by simp [Phrase.setFields])
      (by simpa [Phrase.predicate?] using hfree) horder (by simp [Phrase.setFields])
  · rw [Derivation.query, Query.ordered_eq rfl rfl, ← hfield, ← hdirection, Query.comparing,
      ← hterms, ← hconnectors]
    rfl

theorem exists_phrase_act {verb : Terminal [.exist, .delete, .update]} {by_ : Terminal [.by_]}
    {predicate : PredicateTree}
    (h : tokenize name = .ok (Derivation.act verb by_ predicate).tokens) :
    ∃ p : Phrase, p.Expressible ∧ p.spelling = name
      ∧ p.query = (Derivation.act verb by_ predicate).query name := by
  obtain ⟨hkind, hmem⟩ : verb.val.kind = verb.verb.kind ∧
      verb.verb ∈ [Verb.exist, .delete, .update] := by
    have hverb := verb.property
    simp only [List.mem_cons, List.not_mem_nil, or_false] at hverb
    rcases hverb with hk | hk | hk <;> simp [Terminal.verb, hk, Verb.kind]
  obtain ⟨ws, n, rfl, hafter⟩ := exists_words_of_verb h hkind
  obtain ⟨ws, m₁, rfl, hrest⟩ := eq_keyword_of_cons hafter (v := .by_) (by rw [by_.kind_eq]; rfl)
  obtain ⟨p, rfl, hterms, hconnectors, hfree, hends⟩ := PredicateTree.exists_last_phrase hrest
  refine ⟨.act ⟨verb.verb, hmem⟩ p, ?_, ?_, ?_⟩
  · exact .of_words [.by_] p.words (by simp [Phrase.words, Phrase.order?, orderWords])
      p.words_ne_nil hends (by simp [Phrase.setFields]) (by simpa [Phrase.predicate?] using hfree)
      (by simp [Phrase.order?]) (by simp [Phrase.setFields])
  · rfl
  · rw [Derivation.query, Query.comparing, ← hterms, ← hconnectors]
    rfl

theorem exists_phrase_updateFields {verb : Terminal [.update]} {first : FieldTree}
    {more : List (Terminal [.and] × FieldTree)} {by_ : Terminal [.by_]} {predicate : PredicateTree}
    (h : tokenize name = .ok (Derivation.updateFields verb first more by_ predicate).tokens) :
    ∃ p : Phrase, p.Expressible ∧ p.spelling = name
      ∧ p.query = (Derivation.updateFields verb first more by_ predicate).query name := by
  obtain ⟨ws, n, rfl, hafter⟩ := exists_words_of_verb (v := .update) h verb.kind_eq
  obtain ⟨f, ws, m₁, rfl, hrest, hname, hfree, hends⟩ := FieldTree.exists_phrase hafter
  obtain ⟨links, ws, m₂, rfl, hby, hlinks, hfrees, hlast⟩ :=
    exists_links_of_linkTokens (by simp) hrest
  obtain ⟨ws, m₃, rfl, htokens⟩ := eq_keyword_of_cons hby (v := .by_) (by rw [by_.kind_eq]; rfl)
  obtain ⟨p, rfl, hterms, hconnectors, hfreeTerms, hend⟩ :=
    PredicateTree.exists_last_phrase htokens
  obtain ⟨fs, rfl, hnames⟩ := exists_setPhrases hlinks
  refine ⟨.updateFields f fs p, ?_, ?_, ?_⟩
  · refine .of_words (f.words ++ Links.words (fs.map (Connector.and, ·)) ++ [.by_]) p.words
      (by simp [Phrase.words, Phrase.order?, orderWords]) p.words_ne_nil hend ?_
      (by simpa [Phrase.predicate?] using hfreeTerms) (by simp [Phrase.order?]) ?_
    · exact List.forall_mem_cons.mpr ⟨hfree, by simpa using hfrees⟩
    · intro g hg
      obtain ⟨g', hg', hwords⟩ := getLast?_setWords f fs
      obtain rfl : g' = g := Option.some.inj (hg'.symm.trans hg)
      rw [← hwords]
      exact (hends.append hlast).order rfl
  · rfl
  · rw [Derivation.query, Query.comparing, ← hterms, ← hconnectors, ← hname, ← hnames]
    rfl

end

/-- A derivation of a name is that of an expressible phrase, which the name spells. -/
theorem exists_phrase {name : String} {d : Derivation} (h : tokenize name = .ok d.tokens) :
    ∃ p : Phrase, p.Expressible ∧ p.spelling = name ∧ p.query = d.query name := by
  cases d with
  | save verb =>
    obtain ⟨ws, n, rfl, hnil⟩ := exists_words_of_verb (v := .save) h verb.kind_eq
    obtain rfl := eq_nil_of_wordTokens hnil
    refine ⟨.save, ⟨by simp [Phrase.mem_fields, Phrase.setFields, Phrase.predicate?, Phrase.order?],
      fun _ => by simp [Phrase.words], by simp [Phrase.setFields]⟩, rfl, rfl⟩
  | findAll verb all order => exact exists_phrase_findAll h
  | find verb all by_ predicate order => exact exists_phrase_find h
  | act verb by_ predicate => exact exists_phrase_act h
  | updateFields verb first more by_ predicate => exact exists_phrase_updateFields h

/-! ## One phrase for a query -/

theorem FieldPhrase.name_injective : Function.Injective FieldPhrase.name := by
  intro f g h
  obtain ⟨hinitial, hrest⟩ := List.cons.inj (String.ofList_injective h)
  have hupper : f.first.initial = g.first.initial := by
    rw [← toUpper_toLower f.first.initial_isUpper, hinitial,
      toUpper_toLower g.first.initial_isUpper]
  have hchars : charsOf f.words = charsOf g.words := by
    change f.first.initial :: (f.first.rest ++ charsOf f.more) =
      g.first.initial :: (g.first.rest ++ charsOf g.more)
    rw [hupper, hrest]
  obtain ⟨hfirst, hmore⟩ := List.cons.inj (charsOf_injective hchars)
  exact FieldPhrase.ext hfirst hmore

/-- The fields and connectors of a predicate are all there is to it. -/
theorem predicate_eq {p q : Option PredicatePhrase}
    (hfields : p.elim [] PredicatePhrase.fields = q.elim [] PredicatePhrase.fields)
    (hconnectors : p.elim [] PredicatePhrase.connectors = q.elim [] PredicatePhrase.connectors) :
    p = q := by
  rcases p with _ | p <;> rcases q with _ | q
  · rfl
  · cases hfields
  · cases hfields
  · obtain ⟨hfirst, hmore⟩ := List.cons.inj hfields
    have hlinks : p.more = q.more := by
      have hzip : ∀ ls : Links, List.zip (ls.map (·.1)) (ls.map (·.2)) = ls := fun ls => by
        rw [List.zip_map', List.map_id']
      rw [← hzip p.more, ← hzip q.more, hmore]
      exact congrArg (List.zip · _) hconnectors
    exact congrArg some (PredicatePhrase.ext hfirst hlinks)

theorem order_eq {o o' : Option OrderPhrase} (hwords : orderWords o = orderWords o')
    (hfield : o.map (·.field.name) = o'.map (·.field.name)) : o = o' := by
  rcases o with _ | o <;> rcases o' with _ | o'
  · rfl
  · cases hfield
  · cases hfield
  · have hname : o.field = o'.field := FieldPhrase.name_injective (Option.some.inj hfield)
    have hdirection : o.direction = o'.direction := by
      simp only [orderWords, Option.elim_some, OrderPhrase.words, hname, List.cons.injEq, true_and,
        List.append_cancel_left_eq] at hwords
      rcases ho : o.direction with _ | _ | _ <;> rcases ho' : o'.direction with _ | _ | _ <;>
        simp_all [Direction.keyword, Word.asc, Word.desc]
    exact congrArg some (OrderPhrase.ext hname hdirection)

theorem act_verb_ne_find (v : ActVerb) (all : Bool) :
    v.val ≠ if all then Verb.findAll else Verb.find := by
  intro h
  have hv := v.property
  rw [h] at hv
  cases all <;> simp at hv

/-- Phrases that mean the same are the same. -/
theorem Phrase.query_injective : Function.Injective Phrase.query := by
  intro p p' h
  have hverb : p.verb = p'.verb := congrArg Query.verb h
  have hset : p.setFields = p'.setFields :=
    FieldPhrase.name_injective.list_map (congrArg Query.setFields h)
  have hpredicate : p.predicate? = p'.predicate? :=
    predicate_eq (FieldPhrase.name_injective.list_map (congrArg Query.terms h))
      (congrArg Query.connectors h)
  have hfield : p.order?.map (·.field.name) = p'.order?.map (·.field.name) :=
    congrArg Query.orderField h
  have hwords : p.words = p'.words := by
    have hspelling := String.ofList_injective (congrArg Query.name h)
    rw [hverb] at hspelling
    exact charsOf_injective (List.append_cancel_left hspelling)
  -- The verb, the fields to set and the predicate tell the shapes apart.
  cases p <;> cases p' <;>
    simp only [verb, setFields, predicate?, reduceCtorEq] at hverb hset hpredicate
  case save.save => rfl
  case findAll.findAll o o' =>
    rw [order_eq (List.cons.inj hwords).2 hfield]
  case find.find all p o all' p' o' =>
    obtain rfl : all = all' := by cases all <;> cases all' <;> simp_all
    obtain rfl := Option.some.inj hpredicate
    simp only [words, List.append_cancel_left_eq, List.cons.injEq, true_and] at hwords
    rw [order_eq hwords hfield]
  case find.act all _ _ v _ => exact absurd hverb.symm (act_verb_ne_find v all)
  case act.find v _ all _ _ => exact absurd hverb (act_verb_ne_find v all)
  case act.act v p v' p' => rw [Subtype.ext hverb, Option.some.inj hpredicate]
  case updateFields.updateFields f fs p f' fs' p' =>
    obtain ⟨rfl, rfl⟩ := List.cons.inj hset
    rw [Option.some.inj hpredicate]

/-! ## Names that are spelled -/

/-- A name is accepted if it is the spelling of an expressible phrase, and then means what the
phrase means. -/
theorem ofName?_eq_ok_iff_phrase {name : String} {q : Query} :
    Query.ofName? name = .ok q ↔ ∃ p : Phrase, p.Expressible ∧ p.spelling = name ∧ p.query = q := by
  rw [ofName?_eq_ok_iff_derivation]
  constructor
  · rintro ⟨d, hd, rfl⟩
    exact exists_phrase hd
  · rintro ⟨p, hp, rfl, rfl⟩
    exact hp.exists_derivation

/-- What a phrase is written as reads as the phrase if and only if the phrase is expressible : no
field has `By`, `And` or `Or` among its words, the name does not end with an `Asc` or `Desc` that is
not its direction, and the last field to set does not end with `Order`. -/
theorem ofName?_spelling_eq_ok_iff (p : Phrase) :
    Query.ofName? p.spelling = .ok p.query ↔ p.Expressible := by
  rw [ofName?_eq_ok_iff_phrase]
  constructor
  · rintro ⟨p', hp', -, hquery⟩
    rwa [← Phrase.query_injective hquery]
  · intro h
    exact ⟨p, h, rfl, rfl⟩

end EntityMap.Method
