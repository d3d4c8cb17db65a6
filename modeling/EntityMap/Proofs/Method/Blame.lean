import EntityMap.Proofs.Method.Cutting

/-!
# Which word of a name is blamed

Some lists of tokens are no sentence yet and can still be continued to one (`Viable`). These are
just the lists that the reader gets through (`viable_iff`) : whatever it has read, there are tokens
that finish the name (`Progress.finishes`). What begins such a list is one too
(`Viable.of_append`). So the word at which the reader stops is the first one after which no sentence
is possible, and a name of which it reads every word could have gone on (`ofName?_blames_first`).
-/

namespace EntityMap.Method

/-- The tokens can be continued to a sentence of the grammar. -/
def Viable (ts : List Token) : Prop := ∃ ks, ts.map (·.kind) ++ ks ∈ sentence

/-- What begins a list that can be continued can be continued itself. -/
theorem Viable.of_append {ts us : List Token} (h : Viable (ts ++ us)) : Viable ts := by
  obtain ⟨ks, hks⟩ := h
  refine ⟨us.map (·.kind) ++ ks, ?_⟩
  rwa [List.map_append, List.append_assoc] at hks

/-! ## The reader gets through what can be continued -/

namespace Progress

/-- What is read after the tokens, if each of them may come where it stands. -/
def after? (p : Progress) : List Token → Option Progress
  | [] => some p
  | t :: ts => (p.next? t).bind fun p' => p'.after? ts

theorem after?_append (p : Progress) (ts us : List Token) :
    p.after? (ts ++ us) = (p.after? ts).bind fun p' => p'.after? us := by
  induction ts generalizing p with
  | nil => rfl
  | cons t ts ih =>
    rw [List.cons_append, after?, after?, Option.bind_assoc]
    exact congrArg _ (funext fun p' => ih p')

theorem read?_append (name : String) (p : Progress) (ts us : List Token) :
    p.read? name (ts ++ us) = (p.after? ts).bind fun p' => p'.read? name us := by
  induction ts generalizing p with
  | nil => rfl
  | cons t ts ih =>
    rw [List.cons_append, read?, after?, Option.bind_assoc]
    exact congrArg _ (funext fun p' => ih p')

/-- A progress from which tokens lead to the end of a name. -/
def Finishes (p : Progress) : Prop := ∀ name, ∃ ts q, p.read? name ts = some q

theorem Finishes.of_next? {p p' : Progress} {t : Token} (h : p'.Finishes)
    (hnext : p.next? t = some p') : p.Finishes := by
  intro name
  obtain ⟨ts, q, hq⟩ := h name
  exact ⟨t :: ts, q, by rw [read?, hnext, Option.bind_some, hq]⟩

theorem Finishes.of_query? {p : Progress} (h : ∀ name, ∃ q, p.query? name = some q) :
    p.Finishes :=
  fun name => ⟨[], h name⟩

/-- A word that a field may begin with. -/
def someWord : Token := ⟨.word, "Name", 0⟩

/-- A word before a predicate or a field to order by. -/
def someBy : Token := ⟨.by_, "By", 0⟩

/-- However much of a name is read, it can be finished : a field is finished when it has a word,
and whatever waits for a field goes on with one. -/
theorem finishes (p : Progress) : p.Finishes := by
  have hterm : ∀ d : Draft, (termNext d).Finishes := fun d =>
    .of_next? (t := someWord) (.of_query? fun _ => ⟨_, rfl⟩) rfl
  have horder : ∀ d : Draft, (orderBy d).Finishes := fun d =>
    .of_next? (t := someWord) (.of_query? fun _ => ⟨_, rfl⟩) rfl
  have hset : ∀ done part, (setField done part).Finishes := fun _ _ =>
    .of_next? (t := someBy) (hterm _) rfl
  cases p with
  | start => exact .of_next? (t := ⟨.save, "save", 0⟩) (.of_query? fun _ => ⟨_, rfl⟩) rfl
  | saved | foundAll | term | orderField | directed => exact .of_query? fun _ => ⟨_, rfl⟩
  | found => exact .of_next? (t := someBy) (hterm _) rfl
  | verb => exact .of_next? (t := someBy) (hterm _) rfl
  | updating => exact .of_next? (t := someBy) (hterm _) rfl
  | setField done part => exact hset done part
  | setNext done => exact .of_next? (t := someWord) (hset _ _) rfl
  | termNext d => exact hterm d
  | order d => exact .of_next? (t := someBy) (horder d) rfl
  | orderBy d => exact horder d

end Progress

theorem map_kind_mem_sentence_iff_read? (name : String) (ts : List Token) :
    ts.map (·.kind) ∈ sentence ↔ ∃ q, Progress.start.read? name ts = some q := by
  rw [map_kind_mem_sentence]
  constructor
  · rintro ⟨d, rfl⟩
    exact ⟨d.query name, (read?_eq_some_iff name _ _).mpr ⟨d, rfl, rfl⟩⟩
  · rintro ⟨q, hq⟩
    obtain ⟨d, rfl, -⟩ := (read?_eq_some_iff name ts q).mp hq
    exact ⟨d, rfl⟩

/-- Tokens can be continued to a sentence if and only if the reader gets through them. -/
theorem viable_iff (ts : List Token) : Viable ts ↔ ∃ p, Progress.start.after? ts = some p := by
  constructor
  · rintro ⟨ks, hks⟩
    let us : List Token := ks.map fun k => ⟨k, "", 0⟩
    have hkinds : (ts ++ us).map (·.kind) = ts.map (·.kind) ++ ks := by
      simp [us, Function.comp_def]
    rw [← hkinds, map_kind_mem_sentence_iff_read? ""] at hks
    obtain ⟨q, hq⟩ := hks
    rw [Progress.read?_append] at hq
    obtain ⟨p, hp, -⟩ := Option.bind_eq_some_iff.mp hq
    exact ⟨p, hp⟩
  · rintro ⟨p, hp⟩
    obtain ⟨us, q, hq⟩ := p.finishes ""
    refine ⟨us.map (·.kind), ?_⟩
    rw [← List.map_append, map_kind_mem_sentence_iff_read? ""]
    exact ⟨q, by rw [Progress.read?_append, hp, Option.bind_some, hq]⟩

/-- The reader stops at a word if and only if no sentence is possible after it. -/
theorem not_viable_concat_iff {ts : List Token} {t : Token} {p : Progress}
    (h : Progress.start.after? ts = some p) : ¬Viable (ts ++ [t]) ↔ p.next? t = none := by
  rw [viable_iff, Progress.after?_append, h, Option.bind_some, Progress.after?]
  cases p.next? t <;> simp [Progress.after?]

/-! ## What is said of a word, or of the end -/

/-- The last tokens have these kinds. -/
def EndsIn (ks : List TokenKind) (ts : List Token) : Prop := ks <:+ ts.map (·.kind)

theorem endsIn_concat (ks : List TokenKind) {k : TokenKind} {ts : List Token} {t : Token} :
    EndsIn (ks ++ [k]) (ts ++ [t]) ↔ EndsIn ks ts ∧ k = t.kind := by
  have hlength : [k].length = [t.kind].length := rfl
  rw [EndsIn, List.map_append, List.map_singleton,
    List.suffix_append_inj_of_length_eq hlength, List.singleton_inj]
  rfl

theorem endsIn_singleton {k : TokenKind} {ts : List Token} {t : Token} :
    EndsIn [k] (ts ++ [t]) ↔ k = t.kind :=
  (endsIn_concat []).trans (and_iff_right List.nil_suffix)

theorem not_endsIn_nil {k : TokenKind} {ks : List TokenKind} : ¬EndsIn (k :: ks) [] := by
  simp [EndsIn]

/-- What is said of a word that may not follow the words before it. -/
inductive BlamesWord (name : String) (before : List Token) (t : Token) : SyntaxError → Prop
  | predicate (by_ : EndsIn [.by_] before) (joins : t.kind ∈ [TokenKind.order, .and, .or]) :
    BlamesWord name before t (.missingPredicate name)
  | word (other : ¬(EndsIn [.by_] before ∧ t.kind ∈ [TokenKind.order, .and, .or])) :
    BlamesWord name before t (.unexpectedWord t.text t.position name)

/-- What is said of a name that ends too early. -/
inductive BlamesEnd (name : String) (ts : List Token) : SyntaxError → Prop
  | order (orderBy : EndsIn [.order, .by_] ts) : BlamesEnd name ts (.orderWithoutField name)
  | predicate (by_ : EndsIn [.by_] ts) (other : ¬EndsIn [.order, .by_] ts) :
    BlamesEnd name ts (.missingPredicate name)
  | connector {t : Token} (last : ts.getLast? = some t) (joins : t.kind ∈ [TokenKind.and, .or]) :
    BlamesEnd name ts (.danglingConnector t.text name)
  | other (last : ∀ t ∈ ts.getLast?, t.kind ∉ [TokenKind.by_, .and, .or]) :
    BlamesEnd name ts (.unexpectedEnd name)

theorem blamesWord_blameWord (name : String) (before : List Token) (t : Token) :
    BlamesWord name before t (blameWord name before.reverse t) := by
  rcases List.eq_nil_or_concat' before with rfl | ⟨before, ⟨k, text, position⟩, rfl⟩
  · exact .word fun h => not_endsIn_nil h.1
  rw [List.reverse_append, List.reverse_singleton, List.singleton_append]
  by_cases hby : k = .by_
  · subst hby
    have hends : EndsIn [.by_] (before ++ [⟨.by_, text, position⟩]) := endsIn_singleton.mpr rfl
    by_cases ht : t.kind ∈ [TokenKind.order, .and, .or]
    · have hblame : blameWord name (⟨.by_, text, position⟩ :: before.reverse) t
          = .missingPredicate name := by
        simp only [List.mem_cons, List.not_mem_nil, or_false] at ht
        rcases ht with ht | ht | ht <;> simp [blameWord, ht]
      rw [hblame]
      exact .predicate hends ht
    · have hblame : blameWord name (⟨.by_, text, position⟩ :: before.reverse) t
          = .unexpectedWord t.text t.position name := by
        cases hk : t.kind <;> simp_all [blameWord]
      rw [hblame]
      exact .word fun h => ht h.2
  · have hblame : blameWord name (⟨k, text, position⟩ :: before.reverse) t
        = .unexpectedWord t.text t.position name := by
      cases k <;> simp_all [blameWord]
    rw [hblame]
    exact .word fun h => hby (endsIn_singleton.mp h.1).symm

/-- A `By` at the end is that of an order if the word before it is `Order`. -/
theorem blamesEnd_by (name text : String) (position : Nat) (ts : List Token) :
    BlamesEnd name (ts ++ [⟨.by_, text, position⟩])
      (blameEnd name (⟨.by_, text, position⟩ :: ts.reverse)) := by
  have hends : EndsIn [.by_] (ts ++ [⟨.by_, text, position⟩]) := endsIn_singleton.mpr rfl
  have horder : EndsIn [.order, .by_] (ts ++ [⟨.by_, text, position⟩]) ↔ EndsIn [.order] ts :=
    (endsIn_concat [.order]).trans (and_iff_left rfl)
  rcases List.eq_nil_or_concat' ts with rfl | ⟨ts, ⟨k, text', position'⟩, rfl⟩
  · exact .predicate hends (mt horder.mp not_endsIn_nil)
  rw [endsIn_singleton] at horder
  rw [List.reverse_append, List.reverse_singleton, List.singleton_append]
  by_cases hk : .order = k
  · subst hk
    exact .order (horder.mpr rfl)
  · have hblame : blameEnd name (⟨.by_, text, position⟩ :: ⟨k, text', position'⟩ :: ts.reverse)
        = .missingPredicate name := by
      cases k <;> first | rfl | exact absurd rfl hk
    rw [hblame]
    exact .predicate hends (mt horder.mp hk)

theorem blamesEnd_blameEnd (name : String) (ts : List Token) :
    BlamesEnd name ts (blameEnd name ts.reverse) := by
  rcases List.eq_nil_or_concat' ts with rfl | ⟨ts, ⟨k, text, position⟩, rfl⟩
  · exact .other (by simp)
  have hlast : (ts ++ [(⟨k, text, position⟩ : Token)]).getLast? = some ⟨k, text, position⟩ :=
    List.getLast?_concat
  rw [List.reverse_append, List.reverse_singleton, List.singleton_append]
  by_cases hby : k = .by_
  · subst hby
    exact blamesEnd_by name text position ts
  by_cases hjoins : k ∈ [TokenKind.and, .or]
  · have hblame : blameEnd name (⟨k, text, position⟩ :: ts.reverse)
        = .danglingConnector text name := by
      rcases List.mem_pair.mp hjoins with rfl | rfl <;> rfl
    rw [hblame]
    exact .connector hlast hjoins
  · have hblame : blameEnd name (⟨k, text, position⟩ :: ts.reverse) = .unexpectedEnd name := by
      cases k <;> simp_all [blameEnd]
    rw [hblame]
    refine .other fun t ht => ?_
    rw [hlast] at ht
    cases ht
    simpa [hby] using hjoins

/-- How the reading of a list of tokens fails : at a word that may not follow those before it, or
after the last one. -/
theorem readFrom_eq_error {name : String} {err : SyntaxError} (ts : List Token) :
    ∀ (before : List Token) (p : Progress), readFrom name before p ts = .error err →
      (∃ read t rest p', ts = read ++ t :: rest ∧ p.after? read = some p' ∧ p'.next? t = none
        ∧ err = blameWord name (read.reverse ++ before) t)
      ∨ (∃ p', p.after? ts = some p' ∧ p'.query? name = none
        ∧ err = blameEnd name (ts.reverse ++ before)) := by
  induction ts with
  | nil =>
    intro before p h
    rw [readFrom] at h
    cases hq : p.query? name with
    | some q => simp [hq] at h
    | none =>
      rw [hq] at h
      exact .inr ⟨p, rfl, hq, (Except.error.inj h).symm⟩
  | cons t ts ih =>
    intro before p h
    rw [readFrom] at h
    cases hp : p.next? t with
    | none =>
      rw [hp] at h
      exact .inl ⟨[], t, ts, p, rfl, rfl, hp, (Except.error.inj h).symm⟩
    | some p' =>
      rw [hp] at h
      rcases ih (t :: before) p' h with ⟨read, u, rest, p'', rfl, hafter, hnext, rfl⟩ |
        ⟨p'', hafter, hquery, rfl⟩
      · refine .inl ⟨t :: read, u, rest, p'', rfl, ?_, hnext, by simp⟩
        rw [Progress.after?, hp, Option.bind_some, hafter]
      · refine .inr ⟨p'', ?_, hquery, by simp⟩
        rw [Progress.after?, hp, Option.bind_some, hafter]

/-- A word stands where the texts of the words before it end. -/
theorem position_of_tokensOf {position : Nat} {ws : List (List Char)} {before rest : List Token}
    {t : Token} (h : tokensOf position ws = before ++ t :: rest) :
    t.position = position + (before.flatMap (·.text.toList)).length :=
  ((eq_tokensOf_iff.mp rfl).2 before t rest h).1

/-! ## Rejected names -/

/-- A name that is made of words and opens with a verb, and is no method name, is blamed at the first
word that breaks it : the words before it can be continued to a sentence, and with it they cannot.
If there is no such word, then the whole name can be continued, and its end is blamed. -/
theorem ofName?_blames_first {name : String} {ts : List Token} {err : SyntaxError}
    (hts : tokenize name = .ok ts) (hverb : ∃ t ∈ ts.head?, t.kind.isVerb = true)
    (h : Query.ofName? name = .error err) :
    (∃ before t rest, ts = before ++ t :: rest ∧ Viable before ∧ ¬Viable (before ++ [t])
      ∧ t.position = (before.flatMap (·.text.toList)).length ∧ BlamesWord name before t err)
    ∨ (Viable ts ∧ ts.map (·.kind) ∉ sentence ∧ BlamesEnd name ts err) := by
  obtain ⟨t, ht, hverb⟩ := hverb
  obtain ⟨us, rfl⟩ := List.head?_eq_some_iff.mp ht
  have hread : readFrom name [] .start (t :: us) = .error err := by
    rw [Query.ofName?, hts] at h
    simpa only [hverb, if_true] using h
  rcases readFrom_eq_error _ _ _ hread with ⟨before, u, rest, p, hsplit, hafter, hnext, rfl⟩ |
    ⟨p, hafter, hquery, rfl⟩
  · rw [List.append_nil]
    refine .inl ⟨before, u, rest, hsplit, (viable_iff before).mpr ⟨p, hafter⟩,
      (not_viable_concat_iff hafter).mpr hnext, ?_, blamesWord_blameWord name before u⟩
    rw [hsplit] at hts
    simpa using position_of_tokensOf (eq_tokensOf_of_tokenize hts).symm
  · rw [List.append_nil]
    refine .inr ⟨(viable_iff _).mpr ⟨p, hafter⟩, ?_, blamesEnd_blameEnd name _⟩
    rw [map_kind_mem_sentence_iff_read? name]
    rintro ⟨q, hq⟩
    have hread? := Progress.read?_append name .start (t :: us) []
    rw [List.append_nil, hq, hafter, Option.bind_some, Progress.read?, hquery] at hread?
    cases hread?

/-- Only what is found comes in an order. -/
theorem ofName?_blames_existsOrder :
    ∃ ts err, tokenize "existsByNameOrderById" = .ok ts
      ∧ (∃ t ∈ ts.head?, t.kind.isVerb = true)
      ∧ Query.ofName? "existsByNameOrderById" = .error err
      ∧ err = .unexpectedWord "Order" 12 "existsByNameOrderById"
      ∧ ((∃ before t rest, ts = before ++ t :: rest ∧ Viable before ∧ ¬Viable (before ++ [t])
          ∧ t.position = (before.flatMap (·.text.toList)).length
          ∧ BlamesWord "existsByNameOrderById" before t err)
        ∨ (Viable ts ∧ ts.map (·.kind) ∉ sentence
          ∧ BlamesEnd "existsByNameOrderById" ts err)) :=
  have hts : tokenize "existsByNameOrderById" = .ok
    [⟨.exist, "exists", 0⟩, ⟨.by_, "By", 6⟩, ⟨.word, "Name", 8⟩, ⟨.order, "Order", 12⟩,
      ⟨.by_, "By", 17⟩, ⟨.word, "Id", 19⟩] := by decide +kernel
  have hverb : ∃ t ∈ [(⟨.exist, "exists", 0⟩ : Token)].head?, t.kind.isVerb = true :=
    ⟨_, rfl, rfl⟩
  have herr : Query.ofName? "existsByNameOrderById"
    = .error (.unexpectedWord "Order" 12 "existsByNameOrderById") := by decide +kernel
  ⟨_, _, hts, hverb, herr, rfl, ofName?_blames_first hts hverb herr⟩

end EntityMap.Method
