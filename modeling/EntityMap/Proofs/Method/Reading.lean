import EntityMap.Proofs.Method.Grammar
import EntityMap.Proofs.Method.Lexing

/-!
# Reading is deriving

`Query.ofName?` reads a name word by word. `read?_eq_some_iff` says that it accepts a list of
tokens if and only if the list has a derivation, and then answers what the derivation means.

The states of the reader that wait for a field share two facts (`read?_leaves`, `read?_field`):
they read a field as a whole and then hold its name. Everything about predicates, orders and
fields to set is put together from these.
-/

namespace EntityMap.Method

/-! ## The reader without its blame -/

/-- The query of the tokens after a progress, if it has one. -/
def Progress.read? (name : String) (p : Progress) : List Token → Option Query
  | [] => p.query? name
  | t :: ts => (p.next? t).bind fun p' => p'.read? name ts

theorem readFrom_eq_ok_iff (name : String) (q : Query) (ts : List Token) :
    ∀ (before : List Token) (p : Progress),
      readFrom name before p ts = .ok q ↔ p.read? name ts = some q := by
  induction ts with
  | nil =>
    intro before p
    rw [readFrom, Progress.read?]
    cases p.query? name <;> simp
  | cons t ts ih =>
    intro before p
    rw [readFrom, Progress.read?]
    cases p.next? t with
    | none => simp
    | some p' => exact ih (t :: before) p'

/-! ## Fields -/

/-- Every list of tokens begins with all the tokens of some kinds that it can. -/
theorem exists_leaves (ks : List TokenKind) (ts : List Token) :
    ∃ (xs : List (Terminal ks)) (rest : List Token), ts = leaves xs ++ rest ∧ Stops ks rest := by
  induction ts with
  | nil => exact ⟨[], [], rfl, stops_nil ks⟩
  | cons t ts ih =>
    by_cases ht : t.kind ∈ ks
    · obtain ⟨xs, rest, rfl, hrest⟩ := ih
      exact ⟨⟨t, ht⟩ :: xs, rest, rfl, hrest⟩
    · exact ⟨[], t :: ts, rfl, by simpa [Stops] using ht⟩

/-- A list of tokens that begins with a word begins with a whole field. -/
theorem exists_fieldTree (t : Terminal [.word, .all]) (ts : List Token) :
    ∃ (f : FieldTree) (rest : List Token), t.val :: ts = f.tokens ++ rest ∧
      Stops [.word, .all] rest := by
  obtain ⟨xs, rest, rfl, hrest⟩ := exists_leaves [.word, .all] ts
  exact ⟨⟨t, xs⟩, rest, rfl, hrest⟩

/-- A field may follow the progress `s`, and `σ part` is the progress within the field of which
`part` is read. -/
structure MayRead (s : Progress) (σ : String → Progress) : Prop where
  first : ∀ t : Terminal [.word, .all], s.next? t.val = some (σ (fieldStart t.val.text))
  more : ∀ (part : String) (t : Terminal [.word, .all]),
    (σ part).next? t.val = some (σ (part ++ t.val.text))

/-- A field must follow the progress `s`. -/
structure MustRead (s : Progress) (σ : String → Progress) : Prop extends MayRead s σ where
  next?_eq_none : ∀ t : Token, t.kind ∉ [TokenKind.word, .all] → s.next? t = none
  query?_eq_none : ∀ name : String, s.query? name = none

section

variable {s : Progress} {σ : String → Progress}

theorem MayRead.read?_leaves (h : MayRead s σ) (name : String) (part : String)
    (xs : List (Terminal [.word, .all])) (ts : List Token) :
    (σ part).read? name (leaves xs ++ ts) = (σ (part ++ joinedText xs)).read? name ts := by
  induction xs generalizing part with
  | nil => simp [leaves, joinedText]
  | cons x xs ih =>
    have hjoin : part ++ joinedText (x :: xs) = part ++ x.val.text ++ joinedText xs := by
      simp [joinedText, String.append_assoc]
    rw [hjoin, ← ih]
    simp [leaves, Progress.read?, h.more part x]

/-- A field is read as a whole. -/
theorem MayRead.read?_field (h : MayRead s σ) (name : String) (f : FieldTree)
    (ts : List Token) : s.read? name (f.tokens ++ ts) = (σ f.name).read? name ts := by
  rw [FieldTree.tokens, List.cons_append, Progress.read?, h.first f.first]
  exact h.read?_leaves name _ f.more ts

/-- What is read where a field must follow begins with a field. -/
theorem MustRead.exists_field (h : MustRead s σ) {name : String} {ts : List Token} {q : Query}
    (hq : s.read? name ts = some q) :
    ∃ (f : FieldTree) (rest : List Token), ts = f.tokens ++ rest ∧ Stops [.word, .all] rest ∧
      (σ f.name).read? name rest = some q := by
  cases ts with
  | nil => simp [Progress.read?, h.query?_eq_none] at hq
  | cons t ts =>
    by_cases ht : t.kind ∈ [TokenKind.word, .all]
    · obtain ⟨f, rest, hts, hrest⟩ := exists_fieldTree ⟨t, ht⟩ ts
      simp only at hts
      rw [hts, h.read?_field] at hq
      exact ⟨f, rest, hts, hrest, hq⟩
    · simp [Progress.read?, h.next?_eq_none t ht] at hq

end

theorem mustRead_termNext (d : Draft) : MustRead (.termNext d) (.term d) where
  first t := by rcases List.mem_pair.mp t.property with h | h <;> simp [Progress.next?, h]
  more part t := by rcases List.mem_pair.mp t.property with h | h <;> simp [Progress.next?, h]
  next?_eq_none t ht := by cases h : t.kind <;> simp_all [Progress.next?]
  query?_eq_none _ := rfl

theorem mustRead_orderBy (d : Draft) : MustRead (.orderBy d) (.orderField d) where
  first t := by rcases List.mem_pair.mp t.property with h | h <;> simp [Progress.next?, h]
  more part t := by rcases List.mem_pair.mp t.property with h | h <;> simp [Progress.next?, h]
  next?_eq_none t ht := by cases h : t.kind <;> simp_all [Progress.next?]
  query?_eq_none _ := rfl

theorem mustRead_setNext (done : List String) : MustRead (.setNext done) (.setField done) where
  first t := by rcases List.mem_pair.mp t.property with h | h <;> simp [Progress.next?, h]
  more part t := by rcases List.mem_pair.mp t.property with h | h <;> simp [Progress.next?, h]
  next?_eq_none t ht := by cases h : t.kind <;> simp_all [Progress.next?]
  query?_eq_none _ := rfl

theorem mayRead_updating : MayRead .updating (.setField []) where
  first t := by rcases List.mem_pair.mp t.property with h | h <;> simp [Progress.next?, h]
  more := (mustRead_setNext []).more

/-! ## Orders -/

theorem read?_direction (d : Draft) (name part : String) (o : OrderTree) :
    (Progress.orderField d part).read? name (optionTokens (fun t => [t.val]) o.direction) =
      some (d.toQuery name (some part) o.toDirection) := by
  obtain ⟨order, by_, field, _ | t⟩ := o
  · rfl
  · rcases List.mem_pair.mp t.property with h | h <;>
      simp [optionTokens, Progress.read?, Progress.next?, Progress.query?,
        OrderTree.toDirection, h]

/-- An order is read as a whole. -/
theorem read?_order (d : Draft) (name : String) (o : OrderTree) :
    (Progress.order d).read? name
        (o.by_.val :: (o.field.tokens ++ optionTokens (fun t => [t.val]) o.direction)) =
      some ((d.toQuery name none .asc).ordered (some o)) := by
  have hby : (Progress.order d).next? o.by_.val = some (.orderBy d) := by
    simp [Progress.next?, List.mem_singleton.mp o.by_.property]
  rw [Progress.read?, hby, Option.bind_some, (mustRead_orderBy d).read?_field, read?_direction]
  rfl

/-- What is read after `Order` is the rest of an order. -/
theorem exists_orderTree (t : Terminal [.order]) {d : Draft} {name : String} {ts : List Token}
    {q : Query} (h : (Progress.order d).read? name ts = some q) :
    ∃ o : OrderTree, t.val :: ts = o.tokens := by
  cases ts with
  | nil => simp [Progress.read?, Progress.query?] at h
  | cons b ts =>
    by_cases hb : b.kind = .by_
    · simp only [Progress.read?, Progress.next?, hb, Option.bind_some] at h
      obtain ⟨f, rest, rfl, hrest, hq⟩ := (mustRead_orderBy d).exists_field h
      obtain ⟨direction, rfl⟩ : ∃ direction : Option (Terminal [.asc, .desc]),
          rest = optionTokens (fun t => [t.val]) direction := by
        cases rest with
        | nil => exact ⟨none, rfl⟩
        | cons u us =>
          -- A direction is the last word that is read.
          have hus : u.kind ∈ [TokenKind.asc, .desc] ∧ us = [] := by
            have hu := hrest u rfl
            cases hk : u.kind <;> cases us <;>
              simp_all [Progress.read?, Progress.next?, Progress.query?]
          obtain ⟨hu, rfl⟩ := hus
          exact ⟨some ⟨u, hu⟩, rfl⟩
      exact ⟨⟨t, ⟨b, List.mem_singleton.mpr hb⟩, f, direction⟩, rfl⟩
    · cases hk : b.kind <;> simp_all [Progress.read?, Progress.next?]

/-! ## Predicates -/

/-- The draft with a term and the fields that are linked to it. -/
def Draft.addLinks (d : Draft) (part : String)
    (ls : List (Terminal [.and, .or] × FieldTree)) : Draft :=
  { d with terms := d.terms ++ part :: ls.map (·.2.name)
           connectors := d.connectors ++ ls.map (·.1.connector) }

theorem next?_term_connector (d : Draft) (part : String) (t : Terminal [.and, .or]) :
    (Progress.term d part).next? t.val =
      some (.termNext ((d.addTerm part).addConnector t.connector)) := by
  rcases List.mem_pair.mp t.property with h | h <;>
    simp [Progress.next?, Terminal.connector, h]

theorem addLinks_cons (d : Draft) (part : String) (l : Terminal [.and, .or] × FieldTree)
    (ls : List (Terminal [.and, .or] × FieldTree)) :
    d.addLinks part (l :: ls) =
      ((d.addTerm part).addConnector l.1.connector).addLinks l.2.name ls := by
  simp [Draft.addLinks, Draft.addTerm, Draft.addConnector]

theorem read?_links (d : Draft) (name part : String)
    (ls : List (Terminal [.and, .or] × FieldTree)) (o : Option OrderTree)
    (ho : o.isSome → d.verb.isFind) :
    (Progress.term d part).read? name (linkTokens ls ++ optionTokens OrderTree.tokens o) =
      some (((d.addLinks part ls).toQuery name none .asc).ordered o) := by
  induction ls generalizing d part with
  | nil =>
    cases o with
    | none => simp [linkTokens, optionTokens, Progress.read?, Progress.query?, Draft.addLinks,
        Draft.addTerm, Query.ordered]
    | some o =>
      have horder : (Progress.term d part).next? o.order.val = some (.order (d.addTerm part)) := by
        simp [Progress.next?, List.mem_singleton.mp o.order.property, ho rfl]
      have hadd : d.addLinks part [] = d.addTerm part := by
        simp [Draft.addLinks, Draft.addTerm]
      rw [hadd, ← read?_order, linkTokens, List.flatMap_nil, List.nil_append, optionTokens,
        OrderTree.tokens, Progress.read?, horder, Option.bind_some]
  | cons l ls ih =>
    have hsplit : linkTokens (l :: ls) ++ optionTokens OrderTree.tokens o =
        l.1.val :: (l.2.tokens ++ (linkTokens ls ++ optionTokens OrderTree.tokens o)) := by
      simp [linkTokens]
    rw [hsplit, Progress.read?, next?_term_connector, Option.bind_some,
      (mustRead_termNext _).read?_field, addLinks_cons]
    exact ih _ _ ho

/-- A predicate is read as a whole, and an order after it if the verb allows one. -/
theorem read?_predicate (d : Draft) (name : String) (p : PredicateTree) (o : Option OrderTree)
    (ho : o.isSome → d.verb.isFind) :
    (Progress.termNext d).read? name (p.tokens ++ optionTokens OrderTree.tokens o) =
      some (((d.addLinks p.first.name p.more).toQuery name none .asc).ordered o) := by
  rw [PredicateTree.tokens, List.append_assoc, (mustRead_termNext d).read?_field]
  exact read?_links d name _ p.more o ho

/-- What is read after a whole term is linked fields and perhaps an order. -/
theorem exists_links {d : Draft} {name part : String} {ts : List Token} {q : Query}
    (hts : Stops [.word, .all] ts) (h : (Progress.term d part).read? name ts = some q) :
    ∃ (ls : List (Terminal [.and, .or] × FieldTree)) (o : Option OrderTree),
      ts = linkTokens ls ++ optionTokens OrderTree.tokens o ∧ (o.isSome → d.verb.isFind) := by
  -- Each link takes a connector and a field off the tokens.
  induction hn : ts.length using Nat.strong_induction_on generalizing d part ts with
  | _ n ih =>
    cases ts with
    | nil => exact ⟨[], none, rfl, by simp⟩
    | cons t ts =>
      rw [Progress.read?] at h
      obtain ⟨p, hp, hq⟩ := Option.bind_eq_some_iff.mp h
      by_cases hlink : t.kind ∈ [TokenKind.and, .or]
      · rw [next?_term_connector d part ⟨t, hlink⟩, Option.some.injEq] at hp
        subst hp
        obtain ⟨f, rest, rfl, hrest, hq⟩ := (mustRead_termNext _).exists_field hq
        have hlength : rest.length < n := by
          simp only [List.length_cons, List.length_append] at hn
          omega
        obtain ⟨ls, o, rfl, ho⟩ := ih _ hlength hrest hq rfl
        exact ⟨(⟨t, hlink⟩, f) :: ls, o, by simp [linkTokens], ho⟩
      · by_cases horder : t.kind = .order
        · by_cases hverb : d.verb.isFind
          · simp only [Progress.next?, horder, hverb, if_true, Option.some.injEq] at hp
            subst hp
            obtain ⟨o, ho⟩ := exists_orderTree ⟨t, List.mem_singleton.mpr horder⟩ hq
            exact ⟨[], some o, ho, fun _ => hverb⟩
          · simp [Progress.next?, horder, hverb] at hp
        · have ht := hts t rfl
          cases hk : t.kind <;> simp_all [Progress.next?]

/-- What is read where a term must follow is a predicate and perhaps an order. -/
theorem exists_predicate {d : Draft} {name : String} {ts : List Token} {q : Query}
    (h : (Progress.termNext d).read? name ts = some q) :
    ∃ (p : PredicateTree) (o : Option OrderTree),
      ts = p.tokens ++ optionTokens OrderTree.tokens o ∧ (o.isSome → d.verb.isFind) := by
  obtain ⟨f, rest, rfl, hrest, hq⟩ := (mustRead_termNext d).exists_field h
  obtain ⟨ls, o, rfl, ho⟩ := exists_links hrest hq
  exact ⟨⟨f, ls⟩, o, by simp [PredicateTree.tokens], ho⟩

/-! ## Fields to set -/

theorem next?_setField_and (done : List String) (part : String) (t : Terminal [.and]) :
    (Progress.setField done part).next? t.val = some (.setNext (done ++ [part])) := by
  simp [Progress.next?, List.mem_singleton.mp t.property]

/-- The fields to set are read as a whole, with the `By` after them. -/
theorem read?_setFields (done : List String) (name part : String)
    (ls : List (Terminal [.and] × FieldTree)) (b : Terminal [.by_]) (ts : List Token) :
    (Progress.setField done part).read? name (linkTokens ls ++ b.val :: ts) =
      (Progress.termNext { verb := .update
                           setFields := done ++ part :: ls.map (·.2.name) }).read? name ts := by
  induction ls generalizing done part with
  | nil =>
    have hby : (Progress.setField done part).next? b.val =
        some (.termNext { verb := .update, setFields := done ++ [part] }) := by
      simp [Progress.next?, List.mem_singleton.mp b.property]
    rw [linkTokens, List.flatMap_nil, List.nil_append, Progress.read?, hby, Option.bind_some]
    rfl
  | cons l ls ih =>
    have hsplit : linkTokens (l :: ls) ++ b.val :: ts =
        l.1.val :: (l.2.tokens ++ (linkTokens ls ++ b.val :: ts)) := by
      simp [linkTokens]
    rw [hsplit, Progress.read?, next?_setField_and, Option.bind_some,
      (mustRead_setNext _).read?_field, ih]
    simp

/-- What is read after a whole field to set is more of them and a `By`. -/
theorem exists_setFields {done : List String} {name part : String} {ts : List Token} {q : Query}
    (hts : Stops [.word, .all] ts) (h : (Progress.setField done part).read? name ts = some q) :
    ∃ (ls : List (Terminal [.and] × FieldTree)) (b : Terminal [.by_]) (rest : List Token),
      ts = linkTokens ls ++ b.val :: rest := by
  induction hn : ts.length using Nat.strong_induction_on generalizing done part ts with
  | _ n ih =>
    cases ts with
    | nil => simp [Progress.read?, Progress.query?] at h
    | cons t ts =>
      rw [Progress.read?] at h
      obtain ⟨p, hp, hq⟩ := Option.bind_eq_some_iff.mp h
      by_cases hand : t.kind ∈ [TokenKind.and]
      · rw [next?_setField_and done part ⟨t, hand⟩, Option.some.injEq] at hp
        subst hp
        obtain ⟨f, rest, rfl, hrest, hq⟩ := (mustRead_setNext _).exists_field hq
        have hlength : rest.length < n := by
          simp only [List.length_cons, List.length_append] at hn
          omega
        obtain ⟨ls, b, rest', rfl⟩ := ih _ hlength hrest hq rfl
        exact ⟨(⟨t, hand⟩, f) :: ls, b, rest', by simp [linkTokens]⟩
      · by_cases hby : t.kind ∈ [TokenKind.by_]
        · exact ⟨[], ⟨t, hby⟩, ts, rfl⟩
        · have ht := hts t rfl
          cases hk : t.kind <;> simp_all [Progress.next?]

/-! ## Names -/

theorem Terminal.kind_eq {k : TokenKind} (t : Terminal [k]) : t.val.kind = k :=
  List.mem_singleton.mp t.property

/-- The verbs that compare fields only are read with the `By` after them. -/
theorem read?_act (name : String) (verb : Terminal [.exist, .delete, .update])
    (by_ : Terminal [.by_]) (ts : List Token) :
    Progress.start.read? name (verb.val :: by_.val :: ts) =
      (Progress.termNext { verb := verb.verb }).read? name ts := by
  obtain ⟨t, ht⟩ := verb
  simp only [List.mem_cons, List.not_mem_nil, or_false] at ht
  rcases ht with h | h | h <;>
    simp [Progress.read?, Progress.next?, h, by_.kind_eq, Terminal.verb]

/-- What is derived is read, and answered with its meaning. -/
theorem read?_tokens (name : String) (d : Derivation) :
    Progress.start.read? name d.tokens = some (d.query name) := by
  cases d with
  | save verb => simp [Derivation.tokens, Progress.read?, Progress.next?, verb.kind_eq,
      Progress.query?, Derivation.query, Draft.toQuery, bareQuery]
  | findAll verb all order =>
    simp only [Derivation.tokens, Progress.read?, Progress.next?, verb.kind_eq, all.kind_eq,
      Option.bind_some]
    cases order with
    | none => rfl
    | some o =>
      simp only [optionTokens, OrderTree.tokens, Progress.read?, Progress.next?, o.order.kind_eq,
        Option.bind_some]
      exact read?_order { verb := .findAll } name o
  | find verb all by_ predicate order =>
    cases all with
    | none =>
      simp only [Derivation.tokens, optionTokens, List.nil_append, Progress.read?,
        Progress.next?, verb.kind_eq, by_.kind_eq, Option.bind_some]
      exact read?_predicate { verb := .find } name predicate order fun _ => rfl
    | some all =>
      simp only [Derivation.tokens, optionTokens, List.singleton_append, Progress.read?,
        Progress.next?, verb.kind_eq, all.kind_eq, by_.kind_eq, Option.bind_some]
      exact read?_predicate { verb := .findAll } name predicate order fun _ => rfl
  | act verb by_ predicate =>
    have hread := read?_predicate { verb := verb.verb } name predicate none (by simp)
    rw [optionTokens, List.append_nil] at hread
    rw [Derivation.tokens, read?_act]
    exact hread
  | updateFields verb first more by_ predicate =>
    have hread := read?_predicate
      { verb := .update, setFields := first.name :: more.map (·.2.name) } name predicate none
      (by simp)
    rw [optionTokens, List.append_nil] at hread
    have hverb : Progress.start.next? verb.val = some .updating := by
      simp [Progress.next?, verb.kind_eq]
    rw [Derivation.tokens, Progress.read?, hverb, Option.bind_some, mayRead_updating.read?_field,
      read?_setFields]
    exact hread

/-- Without an order only a predicate is read. -/
theorem exists_predicate_of_not_isFind {d : Draft} (hd : d.verb.isFind = false) {name : String}
    {ts : List Token} {q : Query} (h : (Progress.termNext d).read? name ts = some q) :
    ∃ p : PredicateTree, ts = p.tokens := by
  obtain ⟨p, o, rfl, ho⟩ := exists_predicate h
  cases o with
  | none => exact ⟨p, List.append_nil _⟩
  | some o => simp [hd] at ho

theorem exists_derivation_found (v : Terminal [.find]) {name : String} {ts : List Token}
    {q : Query} (h : Progress.found.read? name ts = some q) :
    ∃ d : Derivation, d.tokens = v.val :: ts := by
  cases ts with
  | nil => simp [Progress.read?, Progress.query?] at h
  | cons t ts =>
    by_cases hall : t.kind = .all
    · let a : Terminal [.all] := ⟨t, List.mem_singleton.mpr hall⟩
      simp only [Progress.read?, Progress.next?, hall, Option.bind_some] at h
      cases ts with
      | nil => exact ⟨.findAll v a none, rfl⟩
      | cons u us =>
        by_cases hby : u.kind = .by_
        · simp only [Progress.read?, Progress.next?, hby, Option.bind_some] at h
          obtain ⟨p, o, rfl, -⟩ := exists_predicate h
          exact ⟨.find v (some a) ⟨u, List.mem_singleton.mpr hby⟩ p o, rfl⟩
        · by_cases horder : u.kind = .order
          · simp only [Progress.read?, Progress.next?, horder, Option.bind_some] at h
            obtain ⟨o, ho⟩ := exists_orderTree ⟨u, List.mem_singleton.mpr horder⟩ h
            exact ⟨.findAll v a (some o), by simp [Derivation.tokens, optionTokens, ← ho, a]⟩
          · cases hk : u.kind <;> simp_all [Progress.read?, Progress.next?]
    · by_cases hby : t.kind = .by_
      · simp only [Progress.read?, Progress.next?, hby, Option.bind_some] at h
        obtain ⟨p, o, rfl, -⟩ := exists_predicate h
        exact ⟨.find v none ⟨t, List.mem_singleton.mpr hby⟩ p o, rfl⟩
      · cases hk : t.kind <;> simp_all [Progress.read?, Progress.next?]

theorem exists_derivation_updating (t : Token) (ht : t.kind = .update) {name : String}
    {ts : List Token} {q : Query} (h : Progress.updating.read? name ts = some q) :
    ∃ d : Derivation, d.tokens = t :: ts := by
  cases ts with
  | nil => simp [Progress.read?, Progress.query?] at h
  | cons u us =>
    by_cases hby : u.kind = .by_
    · simp only [Progress.read?, Progress.next?, hby, Option.bind_some] at h
      obtain ⟨p, rfl⟩ := exists_predicate_of_not_isFind rfl h
      exact ⟨.act ⟨t, by simp [ht]⟩ ⟨u, List.mem_singleton.mpr hby⟩ p, rfl⟩
    · by_cases hword : u.kind ∈ [TokenKind.word, .all]
      · obtain ⟨f, rest, hus, hrest⟩ := exists_fieldTree ⟨u, hword⟩ us
        simp only at hus
        rw [hus] at h ⊢
        rw [mayRead_updating.read?_field] at h
        obtain ⟨ls, b, rest', rfl⟩ := exists_setFields hrest h
        rw [read?_setFields] at h
        obtain ⟨p, rfl⟩ := exists_predicate_of_not_isFind rfl h
        exact ⟨.updateFields ⟨t, by simp [ht]⟩ f ls b p, rfl⟩
      · cases hk : u.kind <;> simp_all [Progress.read?, Progress.next?]

/-- What is read is derived. -/
theorem exists_derivation {name : String} {ts : List Token} {q : Query}
    (h : Progress.start.read? name ts = some q) : ∃ d : Derivation, d.tokens = ts := by
  cases ts with
  | nil => simp [Progress.read?, Progress.query?] at h
  | cons t ts =>
    rw [Progress.read?] at h
    obtain ⟨p, hp, hq⟩ := Option.bind_eq_some_iff.mp h
    -- The kinds that open no name are refused at once.
    cases hk : t.kind <;> simp only [Progress.next?, hk, Option.some.injEq, reduceCtorEq] at hp <;>
      subst hp
    case save =>
      cases ts with
      | nil => exact ⟨.save ⟨t, by simp [hk]⟩, rfl⟩
      | cons u us => simp [Progress.read?, Progress.next?] at hq
    case find => exact exists_derivation_found ⟨t, by simp [hk]⟩ hq
    case update => exact exists_derivation_updating t hk hq
    all_goals
      cases ts with
      | nil => simp [Progress.read?, Progress.query?] at hq
      | cons u us =>
        by_cases hby : u.kind = .by_
        · simp only [Progress.read?, Progress.next?, hby, Option.bind_some] at hq
          obtain ⟨p, rfl⟩ := exists_predicate_of_not_isFind rfl hq
          exact ⟨.act ⟨t, by simp [hk]⟩ ⟨u, List.mem_singleton.mpr hby⟩ p, rfl⟩
        · cases hu : u.kind <;> simp_all [Progress.read?, Progress.next?]

/-- The reader accepts what has a derivation, and answers with its meaning. -/
theorem read?_eq_some_iff (name : String) (ts : List Token) (q : Query) :
    Progress.start.read? name ts = some q ↔
      ∃ d : Derivation, d.tokens = ts ∧ d.query name = q := by
  constructor
  · intro h
    obtain ⟨d, rfl⟩ := exists_derivation h
    rw [read?_tokens, Option.some.injEq] at h
    exact ⟨d, rfl, h⟩
  · rintro ⟨d, rfl, rfl⟩
    exact read?_tokens name d

/-! ## The words between the fields of a predicate -/

/-- The words between the fields of a derivation's predicate. -/
def Derivation.connectorTokens (d : Derivation) : List Token :=
  match d.predicate? with
  | some p => p.more.map (·.1.val)
  | none => []

theorem reserved_eq_and {w : List Char} (h : TokenKind.reserved w = .and) :
    w = ['A', 'n', 'd'] := by
  unfold TokenKind.reserved at h
  split at h <;> simp_all

theorem reserved_eq_or {w : List Char} (h : TokenKind.reserved w = .or) : w = ['O', 'r'] := by
  unfold TokenKind.reserved at h
  split at h <;> simp_all

/-- The tokens of words are spelled as the words. -/
theorem exists_word_of_mem_tokensOf {t : Token} {position : Nat} {ws : List (List Char)}
    (h : t ∈ tokensOf position ws) :
    ∃ w after, t.text = String.ofList w ∧ t.kind = .of w after := by
  induction ws generalizing position with
  | nil => simp [tokensOf] at h
  | cons w ws ih =>
    rcases List.mem_cons.mp h with rfl | h
    · exact ⟨w, ws, rfl, rfl⟩
    · exact ih h

theorem eq_tokensOf_of_tokenize {name : String} {ts : List Token} (h : tokenize name = .ok ts) :
    ts = tokensOf 0 (splitWords name.toList) := by
  rw [tokenize_eq] at h
  split at h
  · exact absurd h (by simp)
  · exact (Except.ok.inj h).symm

/-- A connecting word of a name is the word of SQL but for its case. -/
theorem word_connector {name : String} {ts : List Token} (h : tokenize name = .ok ts)
    (t : Terminal [.and, .or]) (ht : t.val ∈ ts) : t.connector.word = t.val.text.toUpper := by
  rw [eq_tokensOf_of_tokenize h] at ht
  obtain ⟨w, after, htext, hkind⟩ := exists_word_of_mem_tokensOf ht
  have hreserved : TokenKind.reserved w = t.val.kind := by
    rw [hkind]
    rcases List.mem_pair.mp t.property with hk | hk <;> rw [hkind] at hk <;>
      unfold TokenKind.of at hk ⊢ <;> split_ifs at hk ⊢ <;> simp_all
  rcases List.mem_pair.mp t.property with hk | hk
  · rw [htext, reserved_eq_and (hreserved.trans hk)]
    simp only [Terminal.connector, hk]
    decide +kernel
  · rw [htext, reserved_eq_or (hreserved.trans hk)]
    simp only [Terminal.connector, hk]
    decide +kernel

/-- The query of a derivation compares what its predicate says. -/
theorem query_predicate (name : String) (d : Derivation) :
    (d.query name).terms = (d.predicate?.map (·.terms)).getD [] ∧
      (d.query name).connectors = (d.predicate?.map (·.connectors)).getD [] := by
  rcases d with _ | ⟨_, _, _ | o⟩ | ⟨_, _, _, p, _ | o⟩ | _ | _ <;> exact ⟨rfl, rfl⟩

/-- A token between the fields of a derivation's predicate is one of the derivation's. -/
theorem mem_tokens_of_link {d : Derivation} {p : PredicateTree} (hp : d.predicate? = some p)
    {l : Terminal [.and, .or] × FieldTree} (hl : l ∈ p.more) : l.1.val ∈ d.tokens := by
  have hmem : l.1.val ∈ p.tokens :=
    List.mem_append_right _ (List.mem_flatMap.mpr ⟨l, hl, List.mem_cons_self⟩)
  cases d <;> simp_all [Derivation.predicate?, Derivation.tokens]

/-- There is one connector fewer than there are terms. -/
theorem length_terms (name : String) (d : Derivation) :
    (d.query name).terms.length = (d.query name).connectors.length + 1 ∨
      (d.query name).terms = [] ∧ (d.query name).connectors = [] := by
  obtain ⟨hterms, hconnectors⟩ := query_predicate name d
  rw [hterms, hconnectors]
  cases d.predicate? with
  | none => exact Or.inr ⟨rfl, rfl⟩
  | some p => exact Or.inl (by simp [PredicateTree.terms, PredicateTree.connectors])

/-- The connectors of a name are its connecting words, in order. -/
theorem map_word_connectors {name : String} {d : Derivation}
    (h : tokenize name = .ok d.tokens) :
    (d.query name).connectors.map (·.word) = d.connectorTokens.map (·.text.toUpper) := by
  rw [(query_predicate name d).2, Derivation.connectorTokens]
  cases hp : d.predicate? with
  | none => rfl
  | some p =>
    simp only [Option.map_some, Option.getD_some, PredicateTree.connectors, List.map_map]
    exact List.map_congr_left fun l hl => word_connector h l.1 (mem_tokens_of_link hp hl)

/-! ## The grammar is what is accepted -/

/-- A name opens with a verb. -/
theorem exists_verb_tokens (d : Derivation) :
    ∃ t ts, d.tokens = t :: ts ∧ t.kind.isVerb = true := by
  rcases d with v | ⟨v, _, _⟩ | ⟨v, _, _, _, _⟩ | ⟨v, _, _⟩ | ⟨v, _, _, _, _⟩
  case act =>
    refine ⟨_, _, rfl, ?_⟩
    have hv := v.property
    simp only [List.mem_cons, List.not_mem_nil, or_false] at hv
    rcases hv with h | h | h <;> rw [h] <;> rfl
  all_goals exact ⟨_, _, rfl, by rw [v.kind_eq]; rfl⟩

theorem ofName?_eq_ok_iff_derivation (name : String) (q : Query) :
    Query.ofName? name = .ok q ↔
      ∃ d : Derivation, tokenize name = .ok d.tokens ∧ d.query name = q := by
  unfold Query.ofName?
  cases htokens : tokenize name with
  | error found => simp
  | ok ts =>
    have hread : (∃ d : Derivation, ts = d.tokens ∧ d.query name = q) ↔
        Progress.start.read? name ts = some q := by
      rw [read?_eq_some_iff]
      simp only [eq_comm]
    simp only [Except.ok.injEq, hread]
    cases ts with
    | nil => simp [Progress.read?, Progress.query?]
    | cons t ts =>
      by_cases ht : t.kind.isVerb
      · simp only [ht, if_true]
        exact readFrom_eq_ok_iff name q (t :: ts) [] .start
      · simp only [ht]
        refine iff_of_false (by simp) fun hq => ?_
        obtain ⟨d, hd, -⟩ := (read?_eq_some_iff name (t :: ts) q).mp hq
        obtain ⟨u, us, hu, hverb⟩ := exists_verb_tokens d
        rw [hu] at hd
        exact ht ((List.cons.inj hd).1 ▸ hverb)

/-- Only what is found comes in an order. -/
theorem orderField_eq_none {name : String} {q : Query} (h : Query.ofName? name = .ok q)
    (hverb : q.verb.isFind = false) : q.orderField = none := by
  obtain ⟨d, -, rfl⟩ := (ofName?_eq_ok_iff_derivation name q).mp h
  rcases d with _ | ⟨_, _, _ | o⟩ | ⟨_, _ | all, _, p, _ | o⟩ | _ | _
  case save | act | updateFields => rfl
  all_goals cases hverb

/-- Only an update states fields to set. -/
theorem setFields_eq_nil {name : String} {q : Query} (h : Query.ofName? name = .ok q)
    (hverb : q.verb ≠ .update) : q.setFields = [] := by
  obtain ⟨d, -, rfl⟩ := (ofName?_eq_ok_iff_derivation name q).mp h
  rcases d with _ | ⟨_, _, _ | o⟩ | ⟨_, _, _, p, _ | o⟩ | _ | _
  case updateFields => exact absurd rfl hverb
  all_goals rfl

/-- A name is accepted if and only if it is made of words whose kinds are a sentence. A sentence
has one derivation, and the query of the name is what the derivation means : the connectors are
the connecting words in capitals, in order, one fewer than the terms. -/
theorem ofName?_accepts_sentences (name : String) :
    ((∃ q, Query.ofName? name = .ok q) ↔
      ∃ ts, tokenize name = .ok ts ∧ ts.map (·.kind) ∈ sentence) ∧
    (∀ ts : List Token, ts.map (·.kind) ∈ sentence ↔ ∃! d : Derivation, d.tokens = ts) ∧
    (∀ q, Query.ofName? name = .ok q ↔
      ∃ d : Derivation, tokenize name = .ok d.tokens ∧ d.query name = q) ∧
    ∀ d : Derivation, tokenize name = .ok d.tokens →
      (d.query name).connectors.map (·.word) = d.connectorTokens.map (·.text.toUpper) ∧
      ((d.query name).terms.length = (d.query name).connectors.length + 1 ∨
        (d.query name).terms = [] ∧ (d.query name).connectors = []) := by
  refine ⟨?_, ?_, ofName?_eq_ok_iff_derivation name, ?_⟩
  · constructor
    · rintro ⟨q, hq⟩
      obtain ⟨d, hd, -⟩ := (ofName?_eq_ok_iff_derivation name q).mp hq
      exact ⟨d.tokens, hd, (map_kind_mem_sentence _).mpr ⟨d, rfl⟩⟩
    · rintro ⟨ts, hts, hsentence⟩
      obtain ⟨d, rfl⟩ := (map_kind_mem_sentence ts).mp hsentence
      exact ⟨d.query name, (ofName?_eq_ok_iff_derivation name _).mpr ⟨d, hts, rfl⟩⟩
  · intro ts
    rw [map_kind_mem_sentence]
    constructor
    · rintro ⟨d, hd⟩
      exact ⟨d, hd, fun d' hd' => Derivation.tokens_injective (hd'.trans hd.symm)⟩
    · rintro ⟨d, hd, -⟩
      exact ⟨d, hd⟩
  · intro d hd
    exact ⟨map_word_connectors hd, length_terms name d⟩

/-- The derivation of `findByNameOrAllTypes`. -/
def nameOrAllTypes : Derivation :=
  .find ⟨⟨.find, "find", 0⟩, by decide⟩ none ⟨⟨.by_, "By", 4⟩, by decide⟩
    ⟨⟨⟨⟨.word, "Name", 6⟩, by decide⟩, []⟩,
      [(⟨⟨.or, "Or", 10⟩, by decide⟩,
        ⟨⟨⟨.all, "All", 12⟩, by decide⟩, [⟨⟨.word, "Types", 15⟩, by decide⟩]⟩)]⟩
    none

theorem ofName?_findByNameOrAllTypes :
    tokenize "findByNameOrAllTypes" = .ok nameOrAllTypes.tokens ∧
      Query.ofName? "findByNameOrAllTypes" =
        .ok (nameOrAllTypes.query "findByNameOrAllTypes") ∧
      (nameOrAllTypes.query "findByNameOrAllTypes").connectors.map (·.word) =
        nameOrAllTypes.connectorTokens.map (·.text.toUpper) :=
  have h := ofName?_accepts_sentences "findByNameOrAllTypes"
  ⟨rfl, (h.2.2.1 _).mpr ⟨nameOrAllTypes, rfl, rfl⟩, (h.2.2.2 nameOrAllTypes rfl).1⟩

end EntityMap.Method
