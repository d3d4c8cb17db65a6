import Mathlib.Data.List.Forall2
import EntityMap.Proofs.Sql.Numeral
import EntityMap.Schema.Definition

/-!
# Reading table definitions

`readTable?` reads the tokens of a `CREATE TABLE` text : the name of the table, and the clauses that
stand between commas, each of which is a column with its type, its constraints and its default, or a
foreign key. The constraints of a column come in a fixed order, and `AUTOINCREMENT` only after
`PRIMARY KEY`.

The text of a definition is read back as the definition (`readTable?_sql`) : a constraint is read if
and only if it is there, because what follows it begins with another word (`readFlag_append`), and
no comma stands within a clause.
-/

namespace EntityMap

open Text

/-! ## Readers -/

/-- A default as a text states it. -/
inductive DefaultText
  | text (s : String)
  | numeral (s : String)
  deriving DecidableEq, Repr

/-- A column as a text states it. -/
structure ColumnText where
  name : String
  type : String
  notNull : Bool
  primaryKey : Bool
  autoIncrement : Bool
  unique : Bool
  default : Option DefaultText
  deriving DecidableEq, Repr

/-- A part of a definition. -/
inductive TableClause
  | column (c : ColumnText)
  | foreignKey (k : ForeignKey)
  deriving DecidableEq, Repr

/-- A table as a text states it. -/
structure TableText where
  name : String
  clauses : List TableClause
  deriving DecidableEq, Repr

/-- What follows the given tokens, if they come first. -/
def after? (start ts : List SqlToken) : Option (List SqlToken) :=
  if start <+: ts then some (ts.drop start.length) else none

/-- The words, one token each. -/
def wordTokens (words : List String) : List SqlToken := words.map .word

/-- Reads whether some words come first, and takes them off. -/
def readFlag (words : List String) (ts : List SqlToken) : Bool × List SqlToken :=
  match after? (wordTokens words) ts with
  | some rest => (true, rest)
  | none => (false, ts)

/-- Reads a default at the end of a column. -/
def readDefault? : List SqlToken → Option (Option DefaultText)
  | [] => some none
  | [.word w, .text s] => if w = "DEFAULT" then some (some (.text s)) else none
  | [.word w, .word s] => if w = "DEFAULT" then some (some (.numeral s)) else none
  | [.word w, .sign '-', .word s] =>
    if w = "DEFAULT" then some (some (.numeral ("-" ++ s))) else none
  | _ => none

/-- Reads a column. -/
def readColumn? : List SqlToken → Option ColumnText
  | .name name :: .word type :: ts =>
    let (notNull, ts) := readFlag ["NOT", "NULL"] ts
    let (primaryKey, ts) := readFlag ["PRIMARY", "KEY"] ts
    let (autoIncrement, ts) := if primaryKey then readFlag ["AUTOINCREMENT"] ts else (false, ts)
    let (unique, ts) := readFlag ["UNIQUE"] ts
    (readDefault? ts).map (⟨name, type, notNull, primaryKey, autoIncrement, unique, ·⟩)
  | _ => none

/-- Reads a foreign key. -/
def readForeignKey? (ts : List SqlToken) : Option ForeignKey :=
  match after? (wordTokens ["FOREIGN", "KEY"]) ts with
  | some [.sign '(', .name column, .sign ')', .word w, .name table, .sign '(', .name references,
      .sign ')'] => if w = "REFERENCES" then some ⟨column, table, references⟩ else none
  | _ => none

/-- Reads a clause. -/
def readClause? (ts : List SqlToken) : Option TableClause :=
  ((readColumn? ts).map .column).or ((readForeignKey? ts).map .foreignKey)

/-- What comes before the given tokens, if they come last. -/
def before? (last ts : List SqlToken) : Option (List SqlToken) :=
  if last <:+ ts then some (ts.take (ts.length - last.length)) else none

/-- Reads the definition of a table. -/
def readTable? (ts : List SqlToken) : Option TableText :=
  match after? (wordTokens ["CREATE", "TABLE", "IF", "NOT", "EXISTS"]) ts with
  | some (.name name :: .sign '(' :: ts) => do
    let body ← before? [.sign ')', .sign ';'] ts
    return ⟨name, ← (body.splitOn (.sign ',')).mapM readClause?⟩
  | _ => none

theorem after?_append (start ts : List SqlToken) : after? start (start ++ ts) = some ts := by
  rw [after?, if_pos (List.prefix_append _ _), List.drop_left]

theorem after?_eq_some {start ts rest : List SqlToken} (h : after? start ts = some rest) :
    ts = start ++ rest := by
  unfold after? at h
  split at h
  · next hprefix =>
    cases h
    exact (List.prefix_iff_eq_append.mp hprefix).symm
  · cases h

theorem before?_append (last ts : List SqlToken) : before? last (ts ++ last) = some ts := by
  rw [before?, if_pos (List.suffix_append _ _), List.length_append, Nat.add_sub_cancel,
    List.take_left]

/-! ## Constraints -/

/-- The tokens begin with one of the words, or there are none. -/
def BeginsIn (words : List String) (ts : List SqlToken) : Prop :=
  ∀ t ∈ ts.head?, ∃ w ∈ words, t = .word w

/-- The tokens of words that are there or not. -/
def flagTokens (given : Bool) (words : List String) : List SqlToken :=
  if given then wordTokens words else []

theorem BeginsIn.nil (words : List String) : BeginsIn words [] := by
  simp [BeginsIn]

theorem BeginsIn.flag {words : List String} {ts : List SqlToken} (h : BeginsIn words ts)
    (given : Bool) (w : String) (ws : List String) :
    BeginsIn (w :: words) (flagTokens given (w :: ws) ++ ts) := by
  cases given with
  | true =>
    intro t ht
    exact ⟨w, List.mem_cons_self, by simpa [flagTokens, wordTokens, eq_comm] using ht⟩
  | false =>
    intro t ht
    obtain ⟨w', hw', rfl⟩ := h t ht
    exact ⟨w', List.mem_cons_of_mem _ hw', rfl⟩

/-- Words are read if and only if they are there, when what follows begins with others. -/
theorem readFlag_append {words : List String} {ts : List SqlToken} (h : BeginsIn words ts)
    (given : Bool) {w : String} {ws : List String} (hw : w ∉ words) :
    readFlag (w :: ws) (flagTokens given (w :: ws) ++ ts) = (given, ts) := by
  cases given with
  | true => rw [readFlag, flagTokens, if_pos rfl, after?_append]
  | false =>
    have hno : ¬wordTokens (w :: ws) <+: ts := by
      rintro ⟨rest, rfl⟩
      obtain ⟨w', hw', heq⟩ := h (.word w) (by simp [wordTokens])
      cases heq
      exact hw hw'
    rw [readFlag, flagTokens, if_neg Bool.false_ne_true, List.nil_append, after?, if_neg hno]

/-! ## Columns -/

/-- The tokens of a literal. -/
def Literal.tokens : Literal → List SqlToken
  | .text s => [.text s]
  | .int i => numeralTokens (toString i)
  | .real x => numeralTokens x.text

theorem Literal.hasTokens (l : Literal) : HasTokens l.sql l.tokens := by
  cases l with
  | text s => exact hasTokens_stringLiteral s
  | int i => exact (isNumeral_toString i).hasTokens
  | real x => exact (isNumeral_text x).hasTokens

/-- A literal as a text states it : a text is what it was, and a number as it is printed. -/
def Literal.asRead : Literal → DefaultText
  | .text s => .text s
  | l => .numeral l.sql

/-- The tokens of a default. -/
def defaultTokens (default : Option Literal) : List SqlToken :=
  match default with
  | some l => .word "DEFAULT" :: l.tokens
  | none => []

theorem readDefault?_numeral {s : String} (h : IsNumeral s) :
    readDefault? (.word "DEFAULT" :: numeralTokens s) = some (some (.numeral s)) := by
  obtain ⟨cs, -, -, ⟨hs, htokens⟩ | ⟨hs, htokens⟩⟩ := h.cases
  · rw [htokens, hs]
    rfl
  · rw [htokens, hs]
    rfl

theorem readDefault?_defaultTokens (default : Option Literal) :
    readDefault? (defaultTokens default) = some (default.map (·.asRead)) := by
  cases default with
  | none => rfl
  | some l =>
    cases l with
    | text s => rfl
    | int i => exact readDefault?_numeral (isNumeral_toString i)
    | real x => exact readDefault?_numeral (isNumeral_text x)

theorem beginsIn_defaultTokens (default : Option Literal) :
    BeginsIn ["DEFAULT"] (defaultTokens default) := by
  cases default with
  | none => exact .nil _
  | some l => simp [BeginsIn, defaultTokens]

theorem ColumnType.hasTokens (type : ColumnType) : HasTokens type.word [.word type.word] := by
  cases type <;> exact hasTokens_plain (by decide)

/-- A constraint has its words for tokens, if it is there. -/
theorem forall₂_flag (given : Bool) (text : String) (words : List String)
    (hplain : Plain text.toList) (hwords : tokens text.toList = wordTokens words) :
    List.Forall₂ HasTokens (if given then [text] else [])
      (if given then [wordTokens words] else []) := by
  cases given with
  | true => exact .cons (hwords ▸ hasTokens_plain hplain) .nil
  | false => exact .nil

/-- So has a default. -/
theorem forall₂_default (default : Option Literal) :
    List.Forall₂ HasTokens (match default with
      | some l => ["DEFAULT " ++ l.sql]
      | none => []) (match default with
      | some l => [defaultTokens (some l)]
      | none => []) := by
  cases default with
  | none => exact .nil
  | some l =>
    refine .cons (fun rest hrest => ?_) .nil
    rw [String.toList_append, List.append_assoc, tokens_append_of_breaksAtEnd (by decide),
      l.hasTokens rest hrest]
    rfl

theorem flatten_flag (given : Bool) (words : List String) :
    (if given then [wordTokens words] else []).flatten = flagTokens given words := by
  cases given <;> simp [flagTokens]

theorem flatten_default (default : Option Literal) :
    (match default with
      | some l => [defaultTokens (some l)]
      | none => []).flatten = defaultTokens default := by
  cases default <;> simp [defaultTokens]

namespace ColumnDefinition

/-- The tokens of a column's definition. -/
def tokens (d : ColumnDefinition) : List SqlToken :=
  .name d.name :: .word d.type.word :: (flagTokens d.notNull ["NOT", "NULL"]
    ++ (flagTokens d.primaryKey ["PRIMARY", "KEY"] ++ (flagTokens d.autoIncrement ["AUTOINCREMENT"]
      ++ (flagTokens d.unique ["UNIQUE"] ++ defaultTokens d.default))))

/-- The definition as a text states it. -/
def asRead (d : ColumnDefinition) : ColumnText :=
  ⟨d.name, d.type.word, d.notNull, d.primaryKey, d.autoIncrement, d.unique,
    d.default.map (·.asRead)⟩

/-- Each constraint is read, if and only if it is there. -/
theorem readColumn?_tokens (d : ColumnDefinition)
    (h : d.autoIncrement = true → d.primaryKey = true) : readColumn? d.tokens = some d.asRead := by
  have hdefault := beginsIn_defaultTokens d.default
  have hunique := hdefault.flag d.unique "UNIQUE" []
  have hauto := hunique.flag d.autoIncrement "AUTOINCREMENT" []
  have hkey := hauto.flag d.primaryKey "PRIMARY" ["KEY"]
  rw [tokens, readColumn?, readFlag_append hkey _ (by decide)]
  dsimp only
  rw [readFlag_append hauto _ (by decide)]
  dsimp only
  have hautoRead : (if d.primaryKey then
      readFlag ["AUTOINCREMENT"] (flagTokens d.autoIncrement ["AUTOINCREMENT"]
        ++ (flagTokens d.unique ["UNIQUE"] ++ defaultTokens d.default))
      else (false, flagTokens d.autoIncrement ["AUTOINCREMENT"]
        ++ (flagTokens d.unique ["UNIQUE"] ++ defaultTokens d.default)))
      = (d.autoIncrement, flagTokens d.unique ["UNIQUE"] ++ defaultTokens d.default) := by
    split
    · exact readFlag_append hunique _ (by decide)
    · next hkey =>
      have hno : d.autoIncrement = false := Bool.eq_false_iff.mpr fun ha => hkey (h ha)
      rw [hno]
      rfl
  rw [hautoRead]
  dsimp only
  rw [readFlag_append hdefault _ (by decide)]
  dsimp only
  rw [readDefault?_defaultTokens]
  rfl

/-- The text of a definition has these tokens. -/
theorem hasTokens (d : ColumnDefinition) : HasTokens d.sql d.tokens := by
  have hparts : List.Forall₂ HasTokens d.parts _ :=
    List.rel_append (List.rel_append (List.rel_append (List.rel_append (List.rel_append
      (.cons (hasTokens_identifier d.name) (.cons d.type.hasTokens .nil))
      (forall₂_flag d.notNull "NOT NULL" ["NOT", "NULL"] (by decide) (by decide)))
      (forall₂_flag d.primaryKey "PRIMARY KEY" ["PRIMARY", "KEY"] (by decide) (by decide)))
      (forall₂_flag d.autoIncrement "AUTOINCREMENT" ["AUTOINCREMENT"] (by decide) (by decide)))
      (forall₂_flag d.unique "UNIQUE" ["UNIQUE"] (by decide) (by decide)))
      (forall₂_default d.default)
  have htokens := hasTokens_blanks hparts
  simp only [List.flatten_append, flatten_flag, flatten_default, List.append_assoc] at htokens
  exact htokens

theorem comma_not_mem_tokens (d : ColumnDefinition) : .sign ',' ∉ d.tokens := by
  have hflag : ∀ (given : Bool) (words : List String), .sign ',' ∉ flagTokens given words := by
    intro given words
    cases given <;> simp [flagTokens, wordTokens]
  have hnumeral : ∀ s, .sign ',' ∉ numeralTokens s := by
    intro s
    unfold numeralTokens
    split <;> simp
  have hdefault : .sign ',' ∉ defaultTokens d.default := by
    cases d.default with
    | none => simp [defaultTokens]
    | some l => cases l <;> simp [defaultTokens, Literal.tokens, hnumeral]
  simp [tokens, hflag, hdefault]

end ColumnDefinition

/-! ## Foreign keys -/

namespace ForeignKey

/-- The tokens of a foreign key. -/
def tokens (k : ForeignKey) : List SqlToken :=
  wordTokens ["FOREIGN", "KEY"] ++ [.sign '(', .name k.column, .sign ')', .word "REFERENCES",
    .name k.table, .sign '(', .name k.references, .sign ')']

theorem readForeignKey?_tokens (k : ForeignKey) : readForeignKey? k.tokens = some k := by
  rw [readForeignKey?, tokens, after?_append]
  rfl

theorem hasTokens (k : ForeignKey) : HasTokens k.sql k.tokens := by
  have hopen : BreaksAtEnd "FOREIGN KEY (".toList := by decide
  have hreferences : BreaksAtEnd ") REFERENCES ".toList := by decide
  have hcolumn : BreaksAtEnd " (".toList := by decide
  have hclose : BreaksAtEnd ")".toList := by decide
  intro rest _
  unfold ForeignKey.sql
  simp only [String.toList_append, List.append_assoc]
  rw [tokens_append_of_breaksAtEnd hopen,
    tokens_identifier_append (EndsName.of_plain hreferences.1 (by decide) _),
    tokens_append_of_breaksAtEnd hreferences,
    tokens_identifier_append (EndsName.of_plain hcolumn.1 (by decide) _),
    tokens_append_of_breaksAtEnd hcolumn,
    tokens_identifier_append (EndsName.of_plain hclose.1 (by decide) _),
    tokens_append_of_breaksAtEnd hclose]
  rfl

theorem comma_not_mem_tokens (k : ForeignKey) : .sign ',' ∉ k.tokens := by
  simp [tokens, wordTokens]

end ForeignKey

/-! ## Tables -/

theorem mapM_map_eq_some {α β γ : Type} {f : β → Option γ} {g : α → β} {h : α → γ} {as : List α}
    (hf : ∀ a ∈ as, f (g a) = some (h a)) : (as.map g).mapM f = some (as.map h) := by
  induction as with
  | nil => rfl
  | cons a as ih =>
    obtain ⟨ha, has⟩ := List.forall_mem_cons.mp hf
    rw [List.map_cons, List.mapM_cons, ha, ih has]
    rfl

namespace TableDefinition

/-- The tokens of each clause. -/
def clauseTokens (t : TableDefinition) : List (List SqlToken) :=
  t.columns.map (·.tokens) ++ t.foreignKeys.map (·.tokens)

/-- The definition as a text states it. -/
def asRead (t : TableDefinition) : TableText :=
  ⟨t.name, t.columns.map (.column ·.asRead) ++ t.foreignKeys.map .foreignKey⟩

/-- The tokens of a definition. -/
def tokens (t : TableDefinition) : List SqlToken :=
  wordTokens ["CREATE", "TABLE", "IF", "NOT", "EXISTS"] ++ .name t.name :: .sign '('
    :: ([.sign ','].intercalate t.clauseTokens ++ [.sign ')', .sign ';'])

theorem tokens_sql (t : TableDefinition) : EntityMap.tokens t.sql.toList = t.tokens := by
  have hkeyword : BreaksAtEnd "CREATE TABLE IF NOT EXISTS ".toList := by decide
  have hopen : BreaksAtEnd " (\n    ".toList := by decide
  have hparts : List.Forall₂ HasTokens (t.columns.map (·.sql) ++ t.foreignKeys.map (·.sql))
      t.clauseTokens := by
    refine List.rel_append ?_ ?_
    · rw [List.forall₂_map_left_iff, List.forall₂_map_right_iff]
      exact List.forall₂_same.mpr fun d _ => d.hasTokens
    · rw [List.forall₂_map_left_iff, List.forall₂_map_right_iff]
      exact List.forall₂_same.mpr fun k _ => k.hasTokens
  have hends : EndsToken "\n);".toList := .of_isBreak (by decide) _
  have hopens : BreaksAtStart ",\n    ".toList := by decide
  have hclauses := hasTokens_intercalate hopens (by decide) hparts _ hends
  unfold TableDefinition.sql
  simp only [String.toList_append, List.append_assoc]
  rw [tokens_append_of_breaksAtEnd hkeyword,
    tokens_identifier_append (EndsName.of_plain hopen.1 (by decide) _),
    tokens_append_of_breaksAtEnd hopen, hclauses]
  rfl

/-- The text of a definition is read back as the definition. -/
theorem readTable?_sql (t : TableDefinition) (hne : t.columns ≠ [])
    (hkeys : ∀ d ∈ t.columns, d.autoIncrement = true → d.primaryKey = true) :
    readTable? (EntityMap.tokens t.sql.toList) = some t.asRead := by
  have hsplit : ([.sign ','].intercalate t.clauseTokens).splitOn (.sign ',') = t.clauseTokens := by
    refine List.splitOn_intercalate _ (List.forall_mem_append.mpr ⟨?_, ?_⟩) (by
      simp [clauseTokens, hne])
    · exact List.forall_mem_map.mpr fun d _ => d.comma_not_mem_tokens
    · exact List.forall_mem_map.mpr fun k _ => k.comma_not_mem_tokens
  have hcolumns : (t.columns.map (·.tokens)).mapM readClause?
      = some (t.columns.map (.column ·.asRead)) := by
    refine mapM_map_eq_some fun d hd => ?_
    rw [readClause?, d.readColumn?_tokens (hkeys d hd)]
    rfl
  have hforeign : (t.foreignKeys.map (·.tokens)).mapM readClause?
      = some (t.foreignKeys.map .foreignKey) := by
    refine mapM_map_eq_some fun k _ => ?_
    rw [readClause?, k.readForeignKey?_tokens]
    rfl
  have hclauses : t.clauseTokens.mapM readClause? = some t.asRead.clauses := by
    rw [clauseTokens, List.mapM_append, hcolumns, hforeign]
    rfl
  rw [tokens_sql, tokens, readTable?, after?_append]
  show (before? _ _).bind _ = _
  rw [before?_append]
  show (do return ⟨t.name, ← (List.splitOn _ _).mapM readClause?⟩ : Option TableText) = _
  rw [hsplit, hclauses]
  rfl

end TableDefinition

end EntityMap
