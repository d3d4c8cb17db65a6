import EntityMap.Proofs.Sql.Scan

/-!
# Tokens of SQL

`tokens` takes a text of SQL apart as a statement is read : a name stands between double marks and a
text between single ones (`scan`), a word is as many letters, digits and underscores as follow one
another, and any other character is a sign of its own unless it is a blank, which only separates. A
word that begins with a digit is a number ; it goes on over a point, and over a sign after the
letter of its exponent.

Where one part of a text ends and another begins, no word may run on : either the first part ends
in a character that no word has (`tokens_append_of_breaksAtEnd`), or the second begins with one, or
with a mark (`tokens_append_of_endsWord`). Then the tokens of both are those of each, in their
order. Comments are not known : two dashes are two signs.
-/

namespace EntityMap

open Text

/-! ## Tokens -/

/-- A token of SQL. -/
inductive SqlToken
  | name (s : String)
  | text (s : String)
  | word (s : String)
  | sign (c : Char)
  /-- What follows a mark that is never closed. -/
  | unclosed (s : String)
  deriving DecidableEq, Repr

/-- The character stands in words. -/
def isWordChar (c : Char) : Bool := c.isAlphanum || c == '_' || c == '$' || decide (128 ≤ c.toNat)

/-- The character separates tokens and is none. -/
def isSpace (c : Char) : Bool := c.isWhitespace || c == '\x0c'

/-- A word, as far as it is read, goes on with a character. -/
def continuesWord (run : List Char) (c : Char) : Bool :=
  isWordChar c || run.head?.any Char.isDigit &&
    (c == '.' || (c == '+' || c == '-') && run.getLast?.any fun d => d == 'e' || d == 'E')

/-- The word that is read, if there is any. -/
def wordOf (run : List Char) : List SqlToken :=
  if run.isEmpty then [] else [.word (String.ofList run)]

/-- The token of a text between marks. -/
def quotedToken (mark : Char) (content : List Char) : SqlToken :=
  if mark = '"' then .name (String.ofList content) else .text (String.ofList content)

/-- The tokens of the lexemes that are left, after the part `run` of a word. -/
def tokensFrom : List Char → List Lexeme → List SqlToken
  | run, [] => wordOf run
  | run, .quoted mark content :: ls => wordOf run ++ quotedToken mark content :: tokensFrom [] ls
  | run, .unclosed _ content :: ls =>
    wordOf run ++ .unclosed (String.ofList content) :: tokensFrom [] ls
  | run, .sign c :: ls =>
    if continuesWord run c then tokensFrom (run ++ [c]) ls
    else wordOf run ++ (if isSpace c then [] else [.sign c]) ++ tokensFrom [] ls

/-- The tokens of a text. -/
def tokens (cs : List Char) : List SqlToken := tokensFrom [] (scan cs)

@[simp] theorem tokens_nil : tokens [] = [] :=
  rfl

/-! ## Parts of a text -/

/-- No word goes on with the character, and it is no mark. -/
def isBreak (c : Char) : Bool :=
  !(isWordChar c || c == '.' || c == '+' || c == '-' || isMark c)

/-- No word runs on into what follows. -/
def EndsWord (rest : List Char) : Prop :=
  ∀ run, tokensFrom run (scan rest) = wordOf run ++ tokens rest

theorem continuesWord_eq_false {c : Char} (hc : isBreak c = true) (run : List Char) :
    continuesWord run c = false := by
  simp only [isBreak, Bool.not_eq_true', Bool.or_eq_false_iff] at hc
  obtain ⟨⟨⟨⟨hword, hpoint⟩, hplus⟩, hminus⟩, -⟩ := hc
  simp [continuesWord, hword, hpoint, hplus, hminus]

theorem isMark_eq_false {c : Char} (hc : isBreak c = true) : isMark c = false := by
  simp only [isBreak, Bool.not_eq_true', Bool.or_eq_false_iff] at hc
  exact hc.2

theorem scan_cons {c : Char} (hc : isMark c = false) (cs : List Char) :
    scan (c :: cs) = .sign c :: scan cs := by
  simp [scan, scanFrom, hc]

theorem EndsWord.nil : EndsWord [] := by
  intro run
  show wordOf run = wordOf run ++ []
  rw [List.append_nil]

/-- A character that no word has ends what stands before it, and leaves what follows. -/
theorem EndsWord.of_isBreak {c : Char} (hc : isBreak c = true) (cs : List Char) :
    EndsWord (c :: cs) := by
  intro run
  rw [tokens, scan_cons (isMark_eq_false hc), tokensFrom, tokensFrom,
    continuesWord_eq_false hc, continuesWord_eq_false hc]
  simp [wordOf]

/-- The lexemes before a place where no word runs on have their own tokens. -/
theorem tokensFrom_append {rest : List Char} (h : EndsWord rest) (run : List Char)
    (ls : List Lexeme) :
    tokensFrom run (ls ++ scan rest) = tokensFrom run ls ++ tokens rest := by
  induction ls generalizing run with
  | nil => exact h run
  | cons l ls ih =>
    cases l with
    | quoted mark content => simp [tokensFrom, ih]
    | unclosed mark content => simp [tokensFrom, ih]
    | sign c =>
      rw [List.cons_append, tokensFrom, tokensFrom]
      split
      · exact ih _
      · rw [ih, ← List.append_assoc]

theorem tokens_append_of_endsWord {cs rest : List Char} (hcs : Plain cs) (h : EndsWord rest) :
    tokens (cs ++ rest) = tokens cs ++ tokens rest := by
  have hsigns : scan cs = cs.map .sign := by
    have happend := scan_plain_append hcs []
    rwa [List.append_nil, show scan [] = [] from rfl, List.append_nil] at happend
  rw [tokens, scan_plain_append hcs, tokensFrom_append h, ← hsigns]
  rfl

/-- The text ends in a character that no word has. -/
def BreaksAtEnd (cs : List Char) : Prop := Plain cs ∧ cs.getLast?.any isBreak = true

instance (cs : List Char) : Decidable (BreaksAtEnd cs) := inferInstanceAs (Decidable (_ ∧ _))

theorem tokens_append_of_breaksAtEnd {cs : List Char} (h : BreaksAtEnd cs) (rest : List Char) :
    tokens (cs ++ rest) = tokens cs ++ tokens rest := by
  obtain ⟨hcs, hlast⟩ := h
  obtain ⟨c, hget, hc⟩ := (Option.any_eq_true isBreak _).mp hlast
  obtain ⟨before, rfl⟩ := List.getLast?_eq_some_iff.mp hget
  have hbefore : Plain before := hcs.mono (List.subset_append_left _ _)
  have hsign : ∀ cs, tokens (c :: cs) = (if isSpace c then [] else [.sign c]) ++ tokens cs := by
    intro cs
    rw [tokens, scan_cons (isMark_eq_false hc), tokensFrom, continuesWord_eq_false hc]
    rfl
  rw [List.append_assoc, List.singleton_append,
    tokens_append_of_endsWord hbefore (.of_isBreak hc _),
    tokens_append_of_endsWord hbefore (.of_isBreak hc _), hsign, hsign, List.append_assoc,
    tokens_nil, List.append_nil]

theorem tokens_quote_append {mark : Char} (hmark : isMark mark = true) {rest : List Char}
    (h : EndsName rest) (content : List Char) :
    tokens (quote mark content ++ rest) = quotedToken mark content :: tokens rest := by
  rw [tokens, scan_quote_append hmark (h.head?_ne hmark), tokensFrom]
  rfl

/-- A name is one token, whatever characters it has. -/
theorem tokens_identifier_append {rest : List Char} (h : EndsName rest) (name : String) :
    tokens ((identifier name).toList ++ rest) = .name name :: tokens rest := by
  rw [identifier, String.toList_ofList, tokens_quote_append (by decide) h, quotedToken,
    if_pos rfl, String.ofList_toList]

/-- So is a text. -/
theorem tokens_stringLiteral_append {rest : List Char} (h : EndsName rest) (text : String) :
    tokens ((stringLiteral text).toList ++ rest) = .text text :: tokens rest := by
  rw [stringLiteral, String.toList_ofList, tokens_quote_append (by decide) h, quotedToken,
    if_neg (by decide), String.ofList_toList]

/-! ## Lists of parts -/

/-- What follows begins with no mark, and no word runs on into it. -/
structure EndsToken (rest : List Char) : Prop where
  name : EndsName rest
  word : EndsWord rest

theorem EndsToken.nil : EndsToken [] :=
  ⟨.nil, .nil⟩

theorem EndsToken.of_isBreak {c : Char} (hc : isBreak c = true) (cs : List Char) :
    EndsToken (c :: cs) :=
  ⟨plain_cons.mpr ⟨isMark_eq_false hc, plain_nil⟩, .of_isBreak hc cs⟩

/-- The text begins with a character that no word has. -/
def BreaksAtStart (cs : List Char) : Prop := cs.head?.any isBreak = true

instance (cs : List Char) : Decidable (BreaksAtStart cs) := inferInstanceAs (Decidable (_ = _))

theorem BreaksAtStart.append {cs : List Char} (h : BreaksAtStart cs) (ds : List Char) :
    BreaksAtStart (cs ++ ds) := by
  obtain ⟨c, hget, hc⟩ := (Option.any_eq_true isBreak _).mp h
  obtain ⟨after, rfl⟩ := List.head?_eq_some_iff.mp hget
  exact hc

theorem EndsToken.of_breaksAtStart {cs : List Char} (h : BreaksAtStart cs) (rest : List Char) :
    EndsToken (cs ++ rest) := by
  obtain ⟨c, hget, hc⟩ := (Option.any_eq_true isBreak _).mp h
  obtain ⟨after, rfl⟩ := List.head?_eq_some_iff.mp hget
  exact .of_isBreak hc _

/-- The text has these tokens, whatever follows. -/
def HasTokens (text : String) (ts : List SqlToken) : Prop :=
  ∀ rest, EndsToken rest → tokens (text.toList ++ rest) = ts ++ tokens rest

theorem HasTokens.tokens_eq {text : String} {ts : List SqlToken} (h : HasTokens text ts) :
    tokens text.toList = ts := by
  simpa using h [] .nil

theorem hasTokens_plain {text : String} (h : Plain text.toList) :
    HasTokens text (tokens text.toList) :=
  fun _ hrest => tokens_append_of_endsWord h hrest.word

theorem hasTokens_identifier (name : String) : HasTokens (identifier name) [.name name] :=
  fun _ hrest => tokens_identifier_append hrest.name name

theorem hasTokens_stringLiteral (text : String) : HasTokens (stringLiteral text) [.text text] :=
  fun _ hrest => tokens_stringLiteral_append hrest.name text

/-- Parts that stand between signs keep their tokens, and those of the signs are between them. -/
theorem hasTokens_intercalate {between : String} (hopens : BreaksAtStart between.toList)
    (hclosed : BreaksAtEnd between.toList) {parts : List String} {tss : List (List SqlToken)}
    (hparts : List.Forall₂ HasTokens parts tss) :
    HasTokens (between.intercalate parts) ((tokens between.toList).intercalate tss) := by
  intro rest hrest
  rw [String.toList_intercalate]
  induction hparts with
  | nil => simp
  | @cons p ts parts tss hp hparts ih =>
    cases hparts with
    | nil => simpa using hp rest hrest
    | @cons q us parts tss hq hparts =>
      have htail := EndsToken.of_breaksAtStart hopens
        (between.toList.intercalate ((q :: parts).map String.toList) ++ rest)
      rw [List.map_cons, List.map_cons, List.intercalate_cons_cons, ← List.map_cons,
        List.append_assoc, List.append_assoc, hp _ htail, tokens_append_of_breaksAtEnd hclosed, ih,
        List.intercalate_cons_cons]
      simp only [List.append_assoc]

/-- Parts with commas between them. -/
theorem hasTokens_commas {parts : List String} {tss : List (List SqlToken)}
    (hparts : List.Forall₂ HasTokens parts tss) :
    HasTokens (", ".intercalate parts) ([.sign ','].intercalate tss) := by
  have hcomma : tokens ", ".toList = [.sign ','] := by decide
  exact hcomma ▸ hasTokens_intercalate (by decide) (by decide) hparts

/-- Parts between blanks have their own tokens, one after another. -/
theorem hasTokens_blanks {parts : List String} {tss : List (List SqlToken)}
    (hparts : List.Forall₂ HasTokens parts tss) :
    HasTokens (" ".intercalate parts) tss.flatten := by
  have hflatten : ∀ tss : List (List SqlToken), [].intercalate tss = tss.flatten := by
    intro tss
    induction tss with
    | nil => rfl
    | cons ts tss ih => cases tss <;> simp_all
  rw [← hflatten]
  exact hasTokens_intercalate (by decide) (by decide) hparts

end EntityMap
