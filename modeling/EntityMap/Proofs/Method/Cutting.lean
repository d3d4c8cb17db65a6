import EntityMap.Proofs.Method.Phrase

/-!
# How a name is cut

A name is refused if and only if it has a character that is no letter, digit or underscore, and
then for the first of these (`FirstIllegal`). The tokens of any other name are the one list that
satisfies `Cuts` : put together they are the name, each stands where those before it end, capitals
begin the words and stand nowhere else, and what a token is shows from its own text and the tokens
after it (`Token.Classified`). `tokenize_cuts` says both.

The words of a name are the one list of words that is put together to it (`splitWords_flatten`,
`areWords_of_splitWords`), and texts with positions and kinds are the tokens of words if and only if
they have these everywhere (`eq_tokensOf_iff`).
-/

namespace EntityMap.Method

/-! ## Legal names -/

/-- A letter, a digit or an underscore, all of ASCII. -/
def IsWordChar (c : Char) : Prop := c.isAlphanum = true ∨ c = '_'

theorem isNameChar_iff {c : Char} : isNameChar c = true ↔ IsWordChar c := by
  have halphanum : c.isAlphanum = (c.isUpper || c.isLower || c.isDigit) := rfl
  simp [isNameChar, continuesWord, IsWordChar, halphanum, or_assoc]

/-- A legal character is a capital, or it continues a word. -/
theorem continuesWord_iff {c : Char} (h : isNameChar c = true) :
    continuesWord c = true ↔ c.isUpper = false := by
  constructor
  · intro hc
    by_contra hupper
    rw [continuesWord_of_isUpper (by simpa using hupper)] at hc
    cases hc
  · intro hupper
    simpa [isNameChar, hupper] using h

/-- The character is the first one of the text that is no letter, digit or underscore, and so many
characters stand before it. -/
def FirstIllegal (cs : List Char) (c : Char) (position : Nat) : Prop :=
  ∃ before after, cs = before ++ c :: after ∧ position = before.length ∧ ¬IsWordChar c ∧
    ∀ d ∈ before, IsWordChar d

theorem firstIllegal_cons_iff {d : Char} {cs : List Char} {c : Char} {position : Nat} :
    FirstIllegal (d :: cs) c position ↔
      ¬IsWordChar d ∧ c = d ∧ position = 0 ∨
      IsWordChar d ∧ ∃ offset, FirstIllegal cs c offset ∧ position = offset + 1 := by
  constructor
  · rintro ⟨before, after, hcs, rfl, hc, hbefore⟩
    cases before with
    | nil =>
      obtain ⟨rfl, -⟩ := List.cons.inj hcs
      exact .inl ⟨hc, rfl, rfl⟩
    | cons b before =>
      obtain ⟨rfl, rfl⟩ := List.cons.inj hcs
      obtain ⟨hd, hbefore⟩ := List.forall_mem_cons.mp hbefore
      exact .inr ⟨hd, before.length, ⟨before, after, rfl, rfl, hc, hbefore⟩, rfl⟩
  · rintro (⟨hd, rfl, rfl⟩ | ⟨hd, offset, ⟨before, after, rfl, rfl, hc, hbefore⟩, rfl⟩)
    · exact ⟨[], cs, rfl, rfl, hd, by simp⟩
    · exact ⟨d :: before, after, rfl, rfl, hc, List.forall_mem_cons.mpr ⟨hd, hbefore⟩⟩

theorem illegalFrom_eq_some_iff {cs : List Char} {start position : Nat} {c : Char} :
    illegalFrom start cs = some (c, position) ↔
      ∃ offset, FirstIllegal cs c offset ∧ position = start + offset := by
  induction cs generalizing start with
  | nil => simp [illegalFrom, FirstIllegal]
  | cons d cs ih =>
    rw [illegalFrom]
    by_cases hd : IsWordChar d
    · rw [if_pos (isNameChar_iff.mpr hd), ih]
      simp only [firstIllegal_cons_iff, hd, not_true_eq_false, false_and, true_and, false_or]
      constructor
      · rintro ⟨offset, hfirst, rfl⟩
        exact ⟨offset + 1, ⟨offset, hfirst, rfl⟩, by omega⟩
      · rintro ⟨_, ⟨offset, hfirst, rfl⟩, rfl⟩
        exact ⟨offset, hfirst, by omega⟩
    · rw [if_neg (mt isNameChar_iff.mp hd)]
      simp only [firstIllegal_cons_iff, hd, not_false_eq_true, true_and, false_and, or_false]
      constructor
      · intro h
        obtain ⟨rfl, rfl⟩ := Prod.mk.inj (Option.some.inj h)
        exact ⟨0, ⟨rfl, rfl⟩, rfl⟩
      · rintro ⟨_, ⟨rfl, rfl⟩, rfl⟩
        rfl

/-! ## Words -/

/-- The words begin with a character each, and in none does a character stand inside that would
begin another. -/
def AreWords (ws : List (List Char)) : Prop :=
  (∀ w ∈ ws, w ≠ [] ∧ ∀ c ∈ w.tail, continuesWord c = true) ∧
    ∀ w ∈ ws.tail, ∀ c ∈ w.head?, continuesWord c = false

theorem AreWords.of_cons {w : List Char} {ws : List (List Char)} (h : AreWords (w :: ws)) :
    AreWords ws :=
  ⟨fun v hv => h.1 v (List.mem_cons_of_mem w hv), fun v hv => h.2 v (List.mem_of_mem_tail hv)⟩

theorem areWords_of_splitWords {cs : List Char} {ws : List (List Char)} (h : splitWords cs = ws) :
    AreWords ws := by
  induction ws generalizing cs with
  | nil => simp [AreWords]
  | cons w ws ih =>
    cases cs with
    | nil => cases h
    | cons c cs =>
      rw [splitWords_cons] at h
      obtain ⟨rfl, hws⟩ := List.cons.inj h
      obtain ⟨hcontinues, hheads⟩ := ih hws
      refine ⟨List.forall_mem_cons.mpr ⟨⟨List.cons_ne_nil _ _, ?_⟩, hcontinues⟩, ?_⟩
      · exact List.all_eq_true.mp List.all_takeWhile
      -- What follows the first word begins with a character that stopped it.
      · have hstop := List.head?_dropWhile_not continuesWord cs
        cases hrest : cs.dropWhile continuesWord with
        | nil =>
          rw [hrest] at hws
          simp [← hws, splitWords]
        | cons d ds =>
          rw [hrest, splitWords_cons] at hws
          rw [hrest] at hstop
          subst hws
          exact List.forall_mem_cons.mpr ⟨by simpa using hstop, hheads⟩

/-- Words are what their characters are cut into. -/
theorem splitWords_flatten {ws : List (List Char)} (h : AreWords ws) :
    splitWords ws.flatten = ws := by
  induction ws with
  | nil => rfl
  | cons w ws ih =>
    obtain ⟨hne, hcontinues⟩ := h.1 w List.mem_cons_self
    obtain ⟨c, cs, rfl⟩ := List.exists_cons_of_ne_nil hne
    have hrest : ∀ d ∈ ws.flatten.head?, continuesWord d = false := by
      cases ws with
      | nil => simp
      | cons v ws =>
        obtain ⟨d, ds, rfl⟩ := List.exists_cons_of_ne_nil (h.of_cons.1 v List.mem_cons_self).1
        simpa using h.2 (d :: ds) List.mem_cons_self d rfl
    rw [List.flatten_cons, List.cons_append, splitWords_append (by simpa using hcontinues) hrest,
      ih h.of_cons]

/-! ## Kinds -/

/-- What kind of word a token is before the tokens `after`. -/
structure Token.Classified (t : Token) (after : List Token) : Prop where
  order : t.kind = .order ↔ t.text = "Order" ∧ after.head?.map (·.text) = some "By"
  asc : t.kind = .asc ↔ t.text = "Asc" ∧ after = []
  desc : t.kind = .desc ↔ t.text = "Desc" ∧ after = []
  other : t.kind ∉ [TokenKind.order, .asc, .desc] → t.kind = .reserved t.text.toList

/-- No spelling alone makes a keyword of a context. -/
theorem reserved_notMem_context (w : List Char) :
    TokenKind.reserved w ∉ [TokenKind.order, .asc, .desc] := by
  unfold TokenKind.reserved
  split <;> simp

theorem TokenKind.of_texts (t : Token) (after : List Token) :
    TokenKind.of t.text.toList (after.map (·.text.toList)) =
      if t.text = "Order" ∧ after.head?.map (·.text) = some "By" then .order
      else if t.text = "Asc" ∧ after = [] then .asc
      else if t.text = "Desc" ∧ after = [] then .desc
      else .reserved t.text.toList := by
  have htext : ∀ s : String, t.text.toList = s.toList ↔ t.text = s := fun s => String.toList_inj
  have hby : (after.map (·.text.toList)).head? = some "By".toList ↔
      after.head?.map (·.text) = some "By" := by
    cases after with
    | nil => simp
    | cons u after =>
      simp only [List.map_cons, List.head?_cons, Option.map_some, Option.some.injEq,
        String.toList_inj]
  simp only [← htext, ← hby, ← List.map_eq_nil_iff (f := fun u : Token => u.text.toList)]
  rfl

theorem Token.classified_iff {t : Token} {after : List Token} :
    t.Classified after ↔ t.kind = .of t.text.toList (after.map (·.text.toList)) := by
  have hreserved := reserved_notMem_context t.text.toList
  rw [TokenKind.of_texts]
  constructor
  · rintro ⟨ho, ha, hd, hother⟩
    split_ifs with h₁ h₂ h₃
    · exact ho.mpr h₁
    · exact ha.mpr h₂
    · exact hd.mpr h₃
    · refine hother ?_
      simp only [List.mem_cons, List.not_mem_nil, or_false, ho, ha, hd, not_or]
      exact ⟨h₁, h₂, h₃⟩
  · intro hkind
    split_ifs at hkind with h₁ h₂ h₃
    · exact ⟨by simp [hkind, h₁], by simp [hkind, h₁.1], by simp [hkind, h₁.1], by simp [hkind]⟩
    · exact ⟨by simp [hkind, h₂.1], by simp [hkind, h₂], by simp [hkind, h₂.1], by simp [hkind]⟩
    · exact ⟨by simp [hkind, h₃.1], by simp [hkind, h₃.1], by simp [hkind, h₃], by simp [hkind]⟩
    · rw [← hkind] at hreserved
      simp only [List.mem_cons, List.not_mem_nil, or_false, not_or] at hreserved
      exact ⟨iff_of_false hreserved.1 h₁, iff_of_false hreserved.2.1 h₂,
        iff_of_false hreserved.2.2 h₃, fun _ => hkind⟩

/-! ## Tokens -/

/-- The tokens cut the name : their texts are the words of it, each with its position and its kind.
A verb is the first of them or none. -/
structure Cuts (name : String) (ts : List Token) : Prop where
  name_eq : ts.flatMap (·.text.toList) = name.toList
  position : ∀ before t after, ts = before ++ t :: after →
    t.position = (before.flatMap (·.text.toList)).length
  nonempty : ∀ t ∈ ts, t.text ≠ ""
  capital : ∀ t ∈ ts.tail, ∃ c ∈ t.text.toList.head?, c.isUpper = true
  small : ∀ t ∈ ts, ∀ c ∈ t.text.toList.tail, c.isUpper = false
  classified : ∀ before t after, ts = before ++ t :: after → t.Classified after
  verb : ∀ t ∈ ts.tail, t.kind.isVerb = false

/-- What holds wherever a list is split holds at its head and wherever the rest is split. -/
theorem forall_split_cons {α : Type} {p : List α → α → List α → Prop} {x : α} {xs : List α} :
    (∀ before y after, x :: xs = before ++ y :: after → p before y after) ↔
      p [] x xs ∧ ∀ before y after, xs = before ++ y :: after → p (x :: before) y after := by
  constructor
  · intro h
    exact ⟨h [] x xs rfl, fun before y after hxs => h (x :: before) y after (by rw [hxs]; rfl)⟩
  · rintro ⟨hx, hxs⟩ before y after h
    cases before with
    | nil =>
      obtain ⟨rfl, rfl⟩ := List.cons.inj h
      exact hx
    | cons z before =>
      obtain ⟨rfl, hrest⟩ := List.cons.inj h
      exact hxs before y after hrest

/-- The tokens of words are all tokens with these texts that stand where the texts before them end
and are classified. -/
theorem eq_tokensOf_iff {ts : List Token} {start : Nat} {ws : List (List Char)} :
    ts = tokensOf start ws ↔ ts.map (·.text.toList) = ws ∧
      ∀ before t after, ts = before ++ t :: after →
        t.position = start + (before.flatMap (·.text.toList)).length ∧ t.Classified after := by
  induction ts generalizing start ws with
  | nil => cases ws <;> simp [tokensOf]
  | cons t ts ih =>
    rw [forall_split_cons, Token.classified_iff]
    cases ws with
    | nil => simp [tokensOf]
    | cons w ws =>
      rw [tokensOf, List.cons.injEq, ih, List.map_cons, List.cons.injEq]
      simp only [List.flatMap_cons, List.flatMap_nil, List.length_append, List.length_nil,
        Nat.add_zero, ← Nat.add_assoc]
      constructor
      · rintro ⟨rfl, rfl, hrest⟩
        simp only [String.toList_ofList, true_and]
        exact hrest
      · rintro ⟨⟨rfl, rfl⟩, ⟨rfl, hkind⟩, hrest⟩
        refine ⟨?_, rfl, hrest⟩
        rw [← hkind, String.ofList_toList]

/-- For legal characters, words are told apart by their capitals. -/
theorem areWords_texts_iff {ts : List Token}
    (hlegal : ∀ t ∈ ts, ∀ c ∈ t.text.toList, isNameChar c = true) :
    AreWords (ts.map (·.text.toList)) ↔ (∀ t ∈ ts, t.text ≠ "") ∧
      (∀ t ∈ ts.tail, ∃ c ∈ t.text.toList.head?, c.isUpper = true) ∧
      ∀ t ∈ ts, ∀ c ∈ t.text.toList.tail, c.isUpper = false := by
  have hnonempty : ∀ t : Token, t.text.toList ≠ [] ↔ t.text ≠ "" := fun t => by simp
  have hsmall : ∀ t ∈ ts, ∀ c ∈ t.text.toList.tail,
      (continuesWord c = true ↔ c.isUpper = false) := fun t ht c hc =>
    continuesWord_iff (hlegal t ht c (List.mem_of_mem_tail hc))
  have hcapital : ∀ t ∈ ts, ∀ c ∈ t.text.toList.head?,
      (continuesWord c = false ↔ c.isUpper = true) := fun t ht c hc => by
    simpa using (continuesWord_iff (hlegal t ht c (List.mem_of_mem_head? hc))).not
  simp only [AreWords, List.forall_mem_map, ← List.map_tail, hnonempty]
  constructor
  · rintro ⟨hwords, hheads⟩
    refine ⟨fun t ht => (hwords t ht).1, fun t ht => ?_,
      fun t ht c hc => (hsmall t ht c hc).mp ((hwords t ht).2 c hc)⟩
    have hmem := List.mem_of_mem_tail ht
    obtain ⟨c, cs, htext⟩ := List.exists_cons_of_ne_nil ((hnonempty t).mpr (hwords t hmem).1)
    have hc : c ∈ t.text.toList.head? := by rw [htext]; rfl
    exact ⟨c, hc, (hcapital t hmem c hc).mp (hheads t ht c hc)⟩
  · rintro ⟨hne, hheads, htails⟩
    refine ⟨fun t ht => ⟨hne t ht, fun c hc => (hsmall t ht c hc).mpr (htails t ht c hc)⟩,
      fun t ht c hc => ?_⟩
    obtain ⟨d, hd, hupper⟩ := hheads t ht
    obtain rfl := Option.mem_unique hd hc
    exact (hcapital t (List.mem_of_mem_tail ht) d hc).mpr hupper

/-- Verbs are written small. -/
theorem isUpper_of_isVerb_reserved {w : List Char} (h : (TokenKind.reserved w).isVerb = true) :
    ∀ c ∈ w.head?, c.isUpper = false := by
  unfold TokenKind.reserved at h
  split at h
  iterate 5 exact fun c hc => by cases hc; rfl
  all_goals cases h

/-- So a word that begins with a capital is no verb. -/
theorem Token.Classified.isVerb_eq_false {t : Token} {after : List Token} (h : t.Classified after)
    (hcapital : ∃ c ∈ t.text.toList.head?, c.isUpper = true) : t.kind.isVerb = false := by
  by_cases hcontext : t.kind ∈ [TokenKind.order, .asc, .desc]
  · simp only [List.mem_cons, List.not_mem_nil, or_false] at hcontext
    rcases hcontext with hkind | hkind | hkind <;> rw [hkind] <;> rfl
  · obtain ⟨c, hc, hupper⟩ := hcapital
    rw [h.other hcontext, ← Bool.not_eq_true]
    intro hverb
    rw [isUpper_of_isVerb_reserved hverb c hc] at hupper
    cases hupper

/-- Names of legal characters are cut into their words. -/
theorem cuts_iff {name : String} {ts : List Token}
    (hname : ∀ c ∈ name.toList, isNameChar c = true) :
    Cuts name ts ↔ ts = tokensOf 0 (splitWords name.toList) := by
  have hlegal : ts.flatMap (·.text.toList) = name.toList →
      ∀ t ∈ ts, ∀ c ∈ t.text.toList, isNameChar c = true := fun htexts t ht c hc =>
    hname c (htexts ▸ List.mem_flatMap.mpr ⟨t, ht, hc⟩)
  rw [eq_tokensOf_iff]
  simp only [Nat.zero_add]
  constructor
  · intro h
    refine ⟨?_, fun before t after hts =>
      ⟨h.position before t after hts, h.classified before t after hts⟩⟩
    rw [← h.name_eq, List.flatMap_def, splitWords_flatten]
    exact (areWords_texts_iff (hlegal h.name_eq)).mpr ⟨h.nonempty, h.capital, h.small⟩
  -- No field of `Cuts` looks at more than the words and at one token before those after it.
  · rintro ⟨hwords, hsplit⟩
    have htexts : ts.flatMap (·.text.toList) = name.toList := by
      rw [List.flatMap_def, hwords, flatten_splitWords]
    obtain ⟨hnonempty, hcapital, hsmall⟩ :=
      (areWords_texts_iff (hlegal htexts)).mp (areWords_of_splitWords hwords.symm)
    refine ⟨htexts, fun before t after hts => (hsplit before t after hts).1, hnonempty, hcapital,
      hsmall, fun before t after hts => (hsplit before t after hts).2, fun t ht => ?_⟩
    obtain ⟨before, after, hts⟩ := List.append_of_mem (List.mem_of_mem_tail ht)
    exact (hsplit before t after hts).2.isVerb_eq_false (hcapital t ht)

/-! ## Names -/

theorem tokenize_eq_error_iff {name : String} {c : Char} {position : Nat} :
    tokenize name = .error (c, position) ↔ FirstIllegal name.toList c position := by
  have hfirst : illegalFrom 0 name.toList = some (c, position) ↔
      FirstIllegal name.toList c position := by
    simp [illegalFrom_eq_some_iff]
  rw [← hfirst, tokenize_eq]
  cases illegalFrom 0 name.toList <;> simp

theorem tokenize_eq_ok_iff {name : String} {ts : List Token} :
    tokenize name = .ok ts ↔ (∀ c ∈ name.toList, IsWordChar c) ∧
      ts = tokensOf 0 (splitWords name.toList) := by
  have hnone : illegalFrom 0 name.toList = none ↔ ∀ c ∈ name.toList, isNameChar c = true :=
    illegalFrom_eq_none
  simp only [← isNameChar_iff]
  rw [← hnone, tokenize_eq]
  cases illegalFrom 0 name.toList <;> simp [eq_comm]

/-- A name is refused if and only if it has a character that is no letter, digit or underscore, and
then for the first of these. Any other name has tokens, which are the one list that cuts it. -/
theorem tokenize_cuts (name : String) :
    ((∃ found, tokenize name = .error found) ↔ ∃ c ∈ name.toList, ¬IsWordChar c) ∧
    (∀ c position, tokenize name = .error (c, position) ↔ FirstIllegal name.toList c position) ∧
    (∀ c position, tokenize name = .error (c, position) →
      Query.ofName? name = .error (.illegalCharacter c position)) ∧
    ((∃ ts, tokenize name = .ok ts) ↔ ∀ c ∈ name.toList, IsWordChar c) ∧
    ∀ ts, tokenize name = .ok ts ↔ (∀ c ∈ name.toList, IsWordChar c) ∧ Cuts name ts := by
  have hok : (∃ ts, tokenize name = .ok ts) ↔ ∀ c ∈ name.toList, IsWordChar c := by
    simp [tokenize_eq_ok_iff]
  refine ⟨?_, fun c position => tokenize_eq_error_iff, fun c position h => ?_, hok, fun ts => ?_⟩
  · have herror : (∃ found, tokenize name = .error found) ↔ ¬∃ ts, tokenize name = .ok ts := by
      cases tokenize name <;> simp
    rw [herror, hok]
    simp
  · rw [Query.ofName?, h]
  · rw [tokenize_eq_ok_iff]
    refine and_congr_right fun hname => (cuts_iff fun c hc => ?_).symm
    exact isNameChar_iff.mpr (hname c hc)

/-- The keywords of a context are words of a field elsewhere. -/
example : tokenize "findByOrderAscOrderByDesc" = .ok
    [⟨.find, "find", 0⟩, ⟨.by_, "By", 4⟩, ⟨.word, "Order", 6⟩, ⟨.word, "Asc", 11⟩,
      ⟨.order, "Order", 14⟩, ⟨.by_, "By", 19⟩, ⟨.desc, "Desc", 21⟩] := by
  decide +kernel

end EntityMap.Method
