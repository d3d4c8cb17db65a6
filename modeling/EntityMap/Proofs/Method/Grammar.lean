import Mathlib.Computability.Language
import EntityMap.Method.Query

/-!
# The grammar of method names

`sentence` is the grammar as a language of token kinds, written the way the grammar is
documented. A `Derivation` is a tree of it with tokens for leaves : `Derivation.tokens` is what it
derives, `Derivation.query` what it means. `map_kind_mem_sentence` says that a list of tokens has a
derivation if and only if its kinds are a sentence, `tokens_injective` that it has only one.

A leaf is a token together with the kinds it may have (`Terminal`), so a tree that does not fit
the grammar cannot be built.
-/

open scoped Computability

namespace EntityMap.Method

/-! ## The language -/

/-- One token of one of the kinds. -/
def anyOf (ks : List TokenKind) : Language TokenKind := {l | ∃ k ∈ ks, l = [k]}

/-- A field : one or more words or `All`. -/
def fieldLanguage : Language TokenKind := anyOf [.word, .all] * (anyOf [.word, .all])∗

/-- A predicate : fields with `And` or `Or` between them. -/
def predicateLanguage : Language TokenKind :=
  fieldLanguage * (anyOf [.and, .or] * fieldLanguage)∗

/-- `OrderBy`, a field and perhaps a direction. -/
def orderLanguage : Language TokenKind :=
  anyOf [.order] * (anyOf [.by_] * (fieldLanguage * (1 + anyOf [.asc, .desc])))

/-- The method names : `save`, `findAll` with an order or without, `findBy` and `findAllBy` with
a predicate, `existsBy`, `deleteBy` and `updateBy` with a predicate, and `update` with fields
before its `By`. -/
def sentence : Language TokenKind :=
  anyOf [.save]
    + (anyOf [.find] * (anyOf [.all] * (1 + orderLanguage))
    + (anyOf [.find] * ((1 + anyOf [.all]) * (anyOf [.by_] *
        (predicateLanguage * (1 + orderLanguage))))
    + (anyOf [.exist, .delete, .update] * (anyOf [.by_] * predicateLanguage)
    + anyOf [.update] * (fieldLanguage * ((anyOf [.and] * fieldLanguage)∗ *
        (anyOf [.by_] * predicateLanguage))))))

/-! ## Trees -/

/-- A token of one of the kinds. -/
abbrev Terminal (ks : List TokenKind) := {t : Token // t.kind ∈ ks}

/-- A field. -/
structure FieldTree where
  first : Terminal [.word, .all]
  more : List (Terminal [.word, .all])

/-- The tokens of a list of words. -/
def leaves {ks : List TokenKind} (ts : List (Terminal ks)) : List Token := ts.map (·.val)

/-- The tokens of a field. -/
def FieldTree.tokens (f : FieldTree) : List Token := f.first.val :: leaves f.more

/-- The tokens of fields, each after a connecting word of the kinds. -/
def linkTokens {ks : List TokenKind} (ls : List (Terminal ks × FieldTree)) : List Token :=
  ls.flatMap fun l => l.1.val :: l.2.tokens

/-- A predicate. -/
structure PredicateTree where
  first : FieldTree
  more : List (Terminal [.and, .or] × FieldTree)

/-- The tokens of a predicate. -/
def PredicateTree.tokens (p : PredicateTree) : List Token := p.first.tokens ++ linkTokens p.more

/-- A token that may be left out. -/
def optionTokens {α : Type} (tokens : α → List Token) : Option α → List Token
  | none => []
  | some a => tokens a

/-- An order. -/
structure OrderTree where
  order : Terminal [.order]
  by_ : Terminal [.by_]
  field : FieldTree
  direction : Option (Terminal [.asc, .desc])

/-- The tokens of an order. -/
def OrderTree.tokens (o : OrderTree) : List Token :=
  o.order.val :: o.by_.val :: (o.field.tokens ++ optionTokens (fun t => [t.val]) o.direction)

/-- A method name as the grammar derives it. -/
inductive Derivation
  | save (verb : Terminal [.save])
  | findAll (verb : Terminal [.find]) (all : Terminal [.all]) (order : Option OrderTree)
  /-- `findBy`, or `findAllBy` with a token for `All`. -/
  | find (verb : Terminal [.find]) (all : Option (Terminal [.all])) (by_ : Terminal [.by_])
    (predicate : PredicateTree) (order : Option OrderTree)
  /-- `existsBy`, `deleteBy` or `updateBy`. -/
  | act (verb : Terminal [.exist, .delete, .update]) (by_ : Terminal [.by_])
    (predicate : PredicateTree)
  | updateFields (verb : Terminal [.update]) (first : FieldTree)
    (more : List (Terminal [.and] × FieldTree)) (by_ : Terminal [.by_])
    (predicate : PredicateTree)

/-- What is derived. -/
def Derivation.tokens : Derivation → List Token
  | save verb => [verb.val]
  | findAll verb all order => verb.val :: all.val :: optionTokens OrderTree.tokens order
  | find verb all by_ predicate order =>
    verb.val :: (optionTokens (fun t => [t.val]) all ++
      by_.val :: (predicate.tokens ++ optionTokens OrderTree.tokens order))
  | act verb by_ predicate => verb.val :: by_.val :: predicate.tokens
  | updateFields verb first more by_ predicate =>
    verb.val :: (first.tokens ++ (linkTokens more ++ by_.val :: predicate.tokens))

/-! ## What a tree means -/

/-- The texts of words put together. -/
def joinedText {ks : List TokenKind} (ts : List (Terminal ks)) : String :=
  String.join (ts.map (·.val.text))

/-- The name of a field : its words put together, the first letter made small. -/
def FieldTree.name (f : FieldTree) : String := fieldStart f.first.val.text ++ joinedText f.more

/-- The connector that a token stands for. -/
def Terminal.connector (t : Terminal [.and, .or]) : Connector :=
  if t.val.kind = .or then .or else .and

/-- The fields of a predicate, in order. -/
def PredicateTree.terms (p : PredicateTree) : List String :=
  p.first.name :: p.more.map (·.2.name)

/-- The connectors of a predicate, in order. -/
def PredicateTree.connectors (p : PredicateTree) : List Connector :=
  p.more.map (·.1.connector)

/-- The direction of an order; what is not written is ascending. -/
def OrderTree.toDirection (o : OrderTree) : Direction :=
  match o.direction with
  | some t => if t.val.kind = .desc then .desc else .asc
  | none => .asc

/-- The verb of a name that compares fields and orders nothing. -/
def Terminal.verb (t : Terminal [.exist, .delete, .update]) : Verb :=
  match t.val.kind with
  | .exist => .exist
  | .delete => .delete
  | _ => .update

/-- The meaning of a name with nothing but its verb. -/
def bareQuery (name : String) (v : Verb) : Query :=
  { name, verb := v, terms := [], connectors := [], orderField := none, direction := .asc,
    setFields := [] }

/-- The query with the fields of a predicate. -/
def Query.comparing (q : Query) (p : PredicateTree) : Query :=
  { q with terms := p.terms, connectors := p.connectors }

/-- The query with an order, if there is one. -/
def Query.ordered (q : Query) : Option OrderTree → Query
  | none => q
  | some o => { q with orderField := some o.field.name, direction := o.toDirection }

/-- What the derivation of a name means. -/
def Derivation.query (name : String) : Derivation → Query
  | save _ => bareQuery name .save
  | findAll _ _ order => (bareQuery name .findAll).ordered order
  | find _ all _ predicate order =>
    ((bareQuery name (if all.isSome then .findAll else .find)).comparing predicate).ordered order
  | act verb _ predicate => (bareQuery name verb.verb).comparing predicate
  | updateFields _ first more _ predicate =>
    { (bareQuery name .update).comparing predicate with
      setFields := first.name :: more.map (·.2.name) }

/-- The predicate of a derivation. -/
def Derivation.predicate? : Derivation → Option PredicateTree
  | save _ | findAll .. => none
  | find _ _ _ predicate _ | act _ _ predicate | updateFields _ _ _ _ predicate => some predicate

/-! ## Trees and sentences

`Yields A tokens` : the trees of a type derive the token lists whose kinds are in `A`. It is
proved for every operation that builds languages, and then follows the definition of `sentence`.
-/

/-- The lists of tokens that have a tree are those whose kinds are in the language. -/
def Yields {α : Type} (A : Language TokenKind) (tokens : α → List Token) : Prop :=
  ∀ ts : List Token, ts.map (·.kind) ∈ A ↔ ∃ a, tokens a = ts

theorem yields_anyOf (ks : List TokenKind) :
    Yields (anyOf ks) fun t : Terminal ks => [t.val] := by
  intro ts
  constructor
  · rintro ⟨k, hk, h⟩
    obtain ⟨t, rfl, rfl⟩ := List.map_eq_singleton_iff.mp h
    exact ⟨⟨t, hk⟩, rfl⟩
  · rintro ⟨t, rfl⟩
    exact ⟨t.val.kind, t.property, rfl⟩

theorem yields_mul {α β : Type} {A B : Language TokenKind} {f : α → List Token}
    {g : β → List Token} (hA : Yields A f) (hB : Yields B g) :
    Yields (A * B) fun p : α × β => f p.1 ++ g p.2 := by
  intro ts
  rw [Language.mem_mul]
  constructor
  · rintro ⟨us, hus, vs, hvs, h⟩
    obtain ⟨us', vs', rfl, rfl, rfl⟩ := List.map_eq_append_iff.mp h.symm
    obtain ⟨a, rfl⟩ := (hA _).mp hus
    obtain ⟨b, rfl⟩ := (hB _).mp hvs
    exact ⟨(a, b), rfl⟩
  · rintro ⟨⟨a, b⟩, rfl⟩
    exact ⟨_, (hA _).mpr ⟨a, rfl⟩, _, (hB _).mpr ⟨b, rfl⟩, List.map_append.symm⟩

theorem yields_kstar {α : Type} {A : Language TokenKind} {f : α → List Token}
    (hA : Yields A f) : Yields A∗ fun as : List α => as.flatMap f := by
  intro ts
  rw [Language.mem_kstar]
  constructor
  · rintro ⟨kss, hts, hA'⟩
    induction kss generalizing ts with
    | nil => exact ⟨[], (List.map_eq_nil_iff.mp hts).symm⟩
    | cons ks kss ih =>
      obtain ⟨us, vs, rfl, rfl, hvs⟩ := List.map_eq_append_iff.mp hts
      obtain ⟨a, rfl⟩ := (hA us).mp (hA' _ List.mem_cons_self)
      obtain ⟨as, rfl⟩ := ih vs hvs fun ks' h => hA' ks' (List.mem_cons_of_mem _ h)
      exact ⟨a :: as, rfl⟩
  · rintro ⟨as, rfl⟩
    refine ⟨as.map fun a => (f a).map (·.kind), ?_, ?_⟩
    · simp [List.flatMap, List.map_flatten, Function.comp_def]
    · intro ks hks
      obtain ⟨a, -, rfl⟩ := List.mem_map.mp hks
      exact (hA _).mpr ⟨a, rfl⟩

theorem yields_add {α β : Type} {A B : Language TokenKind} {f : α → List Token}
    {g : β → List Token} (hA : Yields A f) (hB : Yields B g) :
    Yields (A + B) (Sum.elim f g) := by
  intro ts
  rw [Language.mem_add, hA, hB]
  simp

theorem yields_option {α : Type} {A : Language TokenKind} {f : α → List Token}
    (hA : Yields A f) : Yields (1 + A) (optionTokens f) := by
  intro ts
  rw [Language.mem_add, Language.mem_one, hA, List.map_eq_nil_iff]
  constructor
  · rintro (rfl | ⟨a, rfl⟩)
    · exact ⟨none, rfl⟩
    · exact ⟨some a, rfl⟩
  · rintro ⟨_ | a, rfl⟩
    · exact Or.inl rfl
    · exact Or.inr ⟨a, rfl⟩

/-- Trees of one shape stand for those of another. -/
theorem Yields.map {α β : Type} {A : Language TokenKind} {f : α → List Token}
    {g : β → List Token} (hA : Yields A f) (build : α → β) (hs : Function.Surjective build)
    (hg : ∀ a, g (build a) = f a) : Yields A g := by
  intro ts
  rw [hA]
  constructor
  · rintro ⟨a, rfl⟩
    exact ⟨build a, hg a⟩
  · rintro ⟨b, rfl⟩
    obtain ⟨a, rfl⟩ := hs b
    exact ⟨a, (hg a).symm⟩

theorem yields_field : Yields fieldLanguage FieldTree.tokens := by
  refine (yields_mul (yields_anyOf _) (yields_kstar (yields_anyOf _))).map
    (fun p => ⟨p.1, p.2⟩) (fun f => ⟨(f.first, f.more), rfl⟩) ?_
  rintro ⟨first, more⟩
  exact congrArg (first.val :: ·) List.map_eq_flatMap

theorem yields_links (ks : List TokenKind) :
    Yields (anyOf ks * fieldLanguage)∗ (@linkTokens ks) :=
  yields_kstar (yields_mul (yields_anyOf ks) yields_field)

theorem yields_predicate : Yields predicateLanguage PredicateTree.tokens :=
  (yields_mul yields_field (yields_links _)).map (fun p => ⟨p.1, p.2⟩)
    (fun p => ⟨(p.first, p.more), rfl⟩) fun _ => rfl

theorem yields_order : Yields orderLanguage OrderTree.tokens :=
  (yields_mul (yields_anyOf _) (yields_mul (yields_anyOf _)
    (yields_mul yields_field (yields_option (yields_anyOf _))))).map
    (fun p => ⟨p.1, p.2.1, p.2.2.1, p.2.2.2⟩)
    (fun o => ⟨(o.order, o.by_, o.field, o.direction), rfl⟩) fun _ => rfl

/-- A list of tokens has a derivation if and only if its kinds are a sentence. -/
theorem map_kind_mem_sentence : Yields sentence Derivation.tokens := by
  refine (yields_add (yields_anyOf _)
    (yields_add (yields_mul (yields_anyOf _) (yields_mul (yields_anyOf _)
      (yields_option yields_order)))
    (yields_add (yields_mul (yields_anyOf _) (yields_mul (yields_option (yields_anyOf _))
      (yields_mul (yields_anyOf _) (yields_mul yields_predicate (yields_option yields_order)))))
    (yields_add (yields_mul (yields_anyOf _) (yields_mul (yields_anyOf _) yields_predicate))
      (yields_mul (yields_anyOf _) (yields_mul yields_field (yields_mul (yields_links _)
        (yields_mul (yields_anyOf _) yields_predicate)))))))).map
    (Sum.elim .save (Sum.elim (fun d => .findAll d.1 d.2.1 d.2.2)
      (Sum.elim (fun d => .find d.1 d.2.1 d.2.2.1 d.2.2.2.1 d.2.2.2.2)
        (Sum.elim (fun d => .act d.1 d.2.1 d.2.2)
          fun d => .updateFields d.1 d.2.1 d.2.2.1 d.2.2.2.1 d.2.2.2.2)))) ?_ ?_
  · rintro (v | ⟨v, a, o⟩ | ⟨v, a, b, p, o⟩ | ⟨v, b, p⟩ | ⟨v, f, more, b, p⟩)
    · exact ⟨.inl v, rfl⟩
    · exact ⟨.inr (.inl (v, a, o)), rfl⟩
    · exact ⟨.inr (.inr (.inl (v, a, b, p, o))), rfl⟩
    · exact ⟨.inr (.inr (.inr (.inl (v, b, p)))), rfl⟩
    · exact ⟨.inr (.inr (.inr (.inr (v, f, more, b, p)))), rfl⟩
  · rintro (_ | _ | _ | _ | _) <;> rfl

/-! ## One tree for a sentence

Where a part of a tree ends is seen from the token after it : a field ends before the first token
that is no word, a predicate before the first that connects nothing.
-/

/-- The tokens do not begin with a token of one of the kinds. -/
def Stops (ks : List TokenKind) (ts : List Token) : Prop := ∀ t ∈ ts.head?, t.kind ∉ ks

theorem stops_nil (ks : List TokenKind) : Stops ks [] := by
  simp [Stops]

theorem stops_terminal {ks ks' : List TokenKind} (h : ∀ k ∈ ks, k ∉ ks') (t : Terminal ks)
    (ts : List Token) : Stops ks' (t.val :: ts) := by
  simpa [Stops] using h _ t.property

theorem Stops.mono {ks ks' : List TokenKind} {ts : List Token} (h : ks' ⊆ ks)
    (hts : Stops ks ts) : Stops ks' ts :=
  fun t ht hk => hts t ht (h hk)

theorem leaves_append_inj {ks : List TokenKind} {xs ys : List (Terminal ks)}
    {ts us : List Token} (hts : Stops ks ts) (hus : Stops ks us)
    (h : leaves xs ++ ts = leaves ys ++ us) : xs = ys ∧ ts = us := by
  induction xs generalizing ys with
  | nil =>
    cases ys with
    | nil => exact ⟨rfl, h⟩
    | cons y ys =>
      obtain rfl : ts = y.val :: (leaves ys ++ us) := h
      exact absurd y.property (hts y.val rfl)
  | cons x xs ih =>
    cases ys with
    | nil =>
      obtain rfl : x.val :: (leaves xs ++ ts) = us := h
      exact absurd x.property (hus x.val rfl)
    | cons y ys =>
      obtain ⟨hxy, hrest⟩ := List.cons.inj h
      obtain ⟨rfl, rfl⟩ := ih hrest
      exact ⟨by rw [Subtype.ext hxy], rfl⟩

theorem FieldTree.tokens_append_inj {f g : FieldTree} {ts us : List Token}
    (hts : Stops [.word, .all] ts) (hus : Stops [.word, .all] us)
    (h : f.tokens ++ ts = g.tokens ++ us) : f = g ∧ ts = us := by
  obtain ⟨hfirst, hrest⟩ := List.cons.inj h
  obtain ⟨hmore, rfl⟩ := leaves_append_inj hts hus hrest
  obtain ⟨first, more⟩ := f
  obtain ⟨first', more'⟩ := g
  exact ⟨by rw [FieldTree.mk.injEq]; exact ⟨Subtype.ext hfirst, hmore⟩, rfl⟩

/-- Links of fields begin with a connecting word or are empty. -/
theorem stops_linkTokens {ks : List TokenKind} (hks : ∀ k ∈ ks, k ∉ [TokenKind.word, .all])
    (ls : List (Terminal ks × FieldTree)) {ts : List Token} (hts : Stops [.word, .all] ts) :
    Stops [.word, .all] (linkTokens ls ++ ts) := by
  cases ls with
  | nil => exact hts
  | cons l ls => exact stops_terminal hks l.1 _

theorem linkTokens_append_inj {ks : List TokenKind}
    (hks : ∀ k ∈ ks, k ∉ [TokenKind.word, .all]) {ls ms : List (Terminal ks × FieldTree)}
    {ts us : List Token} (hts : Stops (ks ++ [.word, .all]) ts)
    (hus : Stops (ks ++ [.word, .all]) us) (h : linkTokens ls ++ ts = linkTokens ms ++ us) :
    ls = ms ∧ ts = us := by
  have hts' : Stops [.word, .all] ts := hts.mono (List.subset_append_right _ _)
  have hus' : Stops [.word, .all] us := hus.mono (List.subset_append_right _ _)
  induction ls generalizing ms with
  | nil =>
    cases ms with
    | nil => exact ⟨rfl, h⟩
    | cons m ms =>
      obtain rfl : ts = m.1.val :: (m.2.tokens ++ linkTokens ms ++ us) := by
        simpa [linkTokens] using h
      exact absurd (List.mem_append_left _ m.1.property) (hts m.1.val rfl)
  | cons l ls ih =>
    cases ms with
    | nil =>
      obtain rfl : l.1.val :: (l.2.tokens ++ linkTokens ls ++ ts) = us := by
        simpa [linkTokens] using h
      exact absurd (List.mem_append_left _ l.1.property) (hus l.1.val rfl)
    | cons m ms =>
      obtain ⟨hlink, hrest⟩ : l.1.val = m.1.val ∧
          l.2.tokens ++ (linkTokens ls ++ ts) = m.2.tokens ++ (linkTokens ms ++ us) := by
        simpa [linkTokens] using h
      obtain ⟨hfield, hrest⟩ := FieldTree.tokens_append_inj (stops_linkTokens hks ls hts')
        (stops_linkTokens hks ms hus') hrest
      obtain ⟨rfl, rfl⟩ := ih hrest
      exact ⟨by rw [Prod.ext (Subtype.ext hlink) hfield], rfl⟩

theorem PredicateTree.tokens_append_inj {p q : PredicateTree} {ts us : List Token}
    (hts : Stops [.and, .or, .word, .all] ts) (hus : Stops [.and, .or, .word, .all] us)
    (h : p.tokens ++ ts = q.tokens ++ us) : p = q ∧ ts = us := by
  have hts' : Stops [.word, .all] ts := hts.mono (by simp)
  have hus' : Stops [.word, .all] us := hus.mono (by simp)
  obtain ⟨first, more⟩ := p
  obtain ⟨first', more'⟩ := q
  simp only [PredicateTree.tokens, List.append_assoc] at h
  obtain ⟨rfl, hrest⟩ := FieldTree.tokens_append_inj (stops_linkTokens (by decide) more hts')
    (stops_linkTokens (by decide) more' hus') h
  obtain ⟨rfl, rfl⟩ := linkTokens_append_inj (by decide) hts hus hrest
  exact ⟨rfl, rfl⟩

theorem optionTokens_injective {ks : List TokenKind} :
    Function.Injective (optionTokens fun t : Terminal ks => [t.val]) := by
  rintro (_ | t) (_ | u) h
  · rfl
  · simp [optionTokens] at h
  · simp [optionTokens] at h
  · rw [Subtype.ext (List.cons.inj h).1]

theorem stops_direction (d : Option (Terminal [.asc, .desc])) :
    Stops [.word, .all] (optionTokens (fun t => [t.val]) d) := by
  cases d with
  | none => exact stops_nil _
  | some t => exact stops_terminal (by decide) t []

theorem OrderTree.tokens_injective : Function.Injective OrderTree.tokens := by
  rintro ⟨order, by_, field, direction⟩ ⟨order', by', field', direction'⟩ h
  simp only [OrderTree.tokens, List.cons.injEq] at h
  obtain ⟨horder, hby, hrest⟩ := h
  obtain ⟨hfield, hdirection⟩ :=
    FieldTree.tokens_append_inj (stops_direction _) (stops_direction _) hrest
  rw [OrderTree.mk.injEq]
  exact ⟨Subtype.ext horder, Subtype.ext hby, hfield, optionTokens_injective hdirection⟩

theorem optionOrder_injective : Function.Injective (optionTokens OrderTree.tokens) := by
  rintro (_ | o) (_ | o') h
  · rfl
  · simp [optionTokens, OrderTree.tokens] at h
  · simp [optionTokens, OrderTree.tokens] at h
  · rw [OrderTree.tokens_injective h]

theorem stops_order (o : Option OrderTree) :
    Stops [.and, .or, .word, .all] (optionTokens OrderTree.tokens o) := by
  cases o with
  | none => exact stops_nil _
  | some o => exact stops_terminal (by decide) o.order _

theorem PredicateTree.tokens_injective : Function.Injective PredicateTree.tokens := by
  intro p q h
  exact (PredicateTree.tokens_append_inj (stops_nil _) (stops_nil _)
    (congrArg (· ++ []) h)).1

/-- Two terminals of kinds that have nothing in common are not one token. -/
theorem terminal_ne {ks ks' : List TokenKind} (h : ∀ k ∈ ks, k ∉ ks') (t : Terminal ks)
    (u : Terminal ks') : t.val ≠ u.val :=
  fun htu => h _ t.property (htu ▸ u.property)

theorem findAll_tokens_ne_find {v v' : Terminal [.find]} {a : Terminal [.all]}
    {a' : Option (Terminal [.all])} {b : Terminal [.by_]} {p : PredicateTree}
    {o o' : Option OrderTree} :
    (Derivation.findAll v a o).tokens ≠ (Derivation.find v' a' b p o').tokens := by
  intro h
  obtain ⟨-, hrest⟩ := List.cons.inj h
  cases a' with
  | none => exact terminal_ne (by decide) a b (List.cons.inj hrest).1
  | some a' =>
    obtain ⟨-, hrest⟩ := List.cons.inj hrest
    cases o with
    | none => simp [optionTokens] at hrest
    | some o => exact terminal_ne (by decide) o.order b (List.cons.inj hrest).1

theorem act_tokens_ne_updateFields {v : Terminal [.exist, .delete, .update]}
    {v' : Terminal [.update]} {b b' : Terminal [.by_]} {p p' : PredicateTree} {f : FieldTree}
    {fs : List (Terminal [.and] × FieldTree)} :
    (Derivation.act v b p).tokens ≠ (Derivation.updateFields v' f fs b' p').tokens := by
  intro h
  obtain ⟨-, hrest⟩ := List.cons.inj h
  exact terminal_ne (by decide) b f.first (List.cons.inj hrest).1

/-- A list of tokens has at most one derivation. -/
theorem Derivation.tokens_injective : Function.Injective Derivation.tokens := by
  intro d d' h
  -- The first tokens differ in kind but for two pairs of shapes.
  cases d <;> cases d' <;>
    try exact absurd (List.cons.inj h).1 (terminal_ne (by decide) _ _)
  case save.save => rw [Subtype.ext (List.cons.inj h).1]
  case findAll.findAll =>
    simp only [tokens, List.cons.injEq] at h
    rw [findAll.injEq]
    exact ⟨Subtype.ext h.1, Subtype.ext h.2.1, optionOrder_injective h.2.2⟩
  case findAll.find => exact absurd h findAll_tokens_ne_find
  case find.findAll => exact absurd h.symm findAll_tokens_ne_find
  case find.find verb all by_ p o verb' all' by' p' o' =>
    obtain ⟨hverb, hrest⟩ := List.cons.inj h
    obtain ⟨hall, hby, hrest⟩ : all = all' ∧ by_.val = by'.val ∧
        p.tokens ++ optionTokens OrderTree.tokens o =
          p'.tokens ++ optionTokens OrderTree.tokens o' := by
      rcases all with _ | a <;> rcases all' with _ | a'
      · exact ⟨rfl, List.cons.inj hrest⟩
      · exact absurd (List.cons.inj hrest).1 (terminal_ne (by decide) _ _)
      · exact absurd (List.cons.inj hrest).1 (terminal_ne (by decide) _ _)
      · obtain ⟨ha, hrest⟩ := List.cons.inj hrest
        exact ⟨by rw [Subtype.ext ha], List.cons.inj hrest⟩
    obtain ⟨hp, ho⟩ := PredicateTree.tokens_append_inj (stops_order _) (stops_order _) hrest
    rw [find.injEq]
    exact ⟨Subtype.ext hverb, hall, Subtype.ext hby, hp, optionOrder_injective ho⟩
  case act.act =>
    simp only [tokens, List.cons.injEq] at h
    rw [act.injEq]
    exact ⟨Subtype.ext h.1, Subtype.ext h.2.1, PredicateTree.tokens_injective h.2.2⟩
  case act.updateFields => exact absurd h act_tokens_ne_updateFields
  case updateFields.act => exact absurd h.symm act_tokens_ne_updateFields
  case updateFields.updateFields verb f fs by_ p verb' f' fs' by' p' =>
    obtain ⟨hverb, hrest⟩ := List.cons.inj h
    obtain ⟨hf, hrest⟩ := FieldTree.tokens_append_inj
      (stops_linkTokens (by decide) _ (stops_terminal (by decide) _ _))
      (stops_linkTokens (by decide) _ (stops_terminal (by decide) _ _)) hrest
    obtain ⟨hfs, hrest⟩ := linkTokens_append_inj (by decide)
      (stops_terminal (by decide) _ _) (stops_terminal (by decide) _ _) hrest
    obtain ⟨hby, hp⟩ := List.cons.inj hrest
    rw [updateFields.injEq]
    exact ⟨Subtype.ext hverb, hf, hfs, Subtype.ext hby, PredicateTree.tokens_injective hp⟩

end EntityMap.Method
