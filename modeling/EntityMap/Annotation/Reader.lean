import EntityMap.Annotation.Error
import EntityMap.Annotation.Expr
import EntityMap.Annotation.Lexeme

/-!
# Reading expressions

`Expr.ofText?` reads a text as an expression, and `Expr.ofAnnotation` also says what is wrong with
one that cannot be read. Operators bind in the usual order, from conditions and
alternatives down to powers, and the reader of each level is built from that of the level below
(`leftToRight`). All levels rest on the reader of a primary: a name, a literal or an expression in
brackets, and what is behind it. Only brackets contain whole expressions again, so `readPrimary`
alone needs a bound on its depth.
-/

namespace EntityMap.Annotation

/-! ## Readers -/

/-- Reads from the beginning of the words; nothing if they do not fit. -/
abbrev Reading (α : Type) := StateT (List Lexeme) Option α

/-- The next word, which stays. -/
def nextWord : Reading (Option Lexeme) := do return (← get).head?

/-- Takes the word if it is the next one. -/
def accept (w : Lexeme) : Reading Bool := do
  match ← get with
  | x :: rest => if x = w then set rest; return true else return false
  | [] => return false

/-- Takes the mark if it comes next. -/
def acceptMark (m : String) : Reading Bool := accept (.mark m)

/-- Takes the word if it comes next. -/
def acceptWord (s : String) : Reading Bool := accept (.word s)

/-- Takes the mark, which must come next. -/
def expectMark (m : String) : Reading Unit := do
  if !(← acceptMark m) then failure

/-- Takes the word, which must come next. -/
def expectWord (s : String) : Reading Unit := do
  if !(← acceptWord s) then failure

/-- Takes one of several marks and gives what it stands for. -/
def acceptOneOf {α : Type} (marks : List (String × α)) : Reading (Option α) := do
  match ← get with
  | .mark m :: rest =>
    match marks.lookup m with
    | some a => set rest; return some a
    | none => return none
  | _ => return none

/-- Elements between commas up to a word that is not taken, or up to the end, and whether a comma
ends them. -/
def elementsUntil (stop : Option Lexeme) (element : Reading Expr) :
    Nat → Reading (List Expr × Bool)
  | 0 => failure
  | n + 1 => do
    if (← nextWord) = stop then return ([], false)
    else
      let e ← element
      if ← acceptMark "," then
        let (es, endsInComma) ← elementsUntil stop element n
        return (e :: es, es.isEmpty || endsInComma)
      else return ([e], false)

/-- Elements between commas up to a closing mark, which is taken. -/
def elementsIn (close : String) (element : Reading Expr) : Reading (List Expr × Bool) := do
  let r ← elementsUntil (some (.mark close)) element ((← get).length + 1)
  expectMark close
  return r

/-! ## Names -/

/-- The words that are no names. -/
def keywords : List String :=
  ["False", "None", "True", "and", "as", "assert", "async", "await", "break", "class", "continue",
   "def", "del", "elif", "else", "except", "finally", "for", "from", "global", "if", "import", "in",
   "is", "lambda", "nonlocal", "not", "or", "pass", "raise", "return", "try", "while", "with",
   "yield"]

/-- The name of a constant. -/
def debugName : String := "__debug__"

/-- A name that may be given to something. -/
def isFreeName (s : String) : Bool := s ≠ debugName

/-- The name that a word is. -/
def Lexeme.name? : Lexeme → Option String
  | .word s => if s ∈ keywords then none else some s
  | .name s => some s
  | _ => none

/-- The name that comes next. -/
def readName : Reading String := do
  match ← get with
  | w :: rest => set rest; liftM w.name?
  | [] => failure

/-- A name that is given to something. -/
def readFreeName : Reading String := do
  let s ← readName
  if isFreeName s then return s else failure

/-! ## Operators -/

/-- The levels of operators between two operands, each binding more tightly than the one before. -/
def levels : List (List (String × BinaryOp)) :=
  [[("|", .bar)], [("^", .caret)], [("&", .ampersand)],
   [("<<", .shiftLeft), (">>", .shiftRight)], [("+", .add), ("-", .subtract)],
   [("*", .multiply), ("/", .divide), ("//", .floorDivide), ("%", .remainder),
    ("@", .matrixMultiply)]]

/-- The operators before an operand. -/
def unaryOps : List (String × UnaryOp) := [("+", .keep), ("-", .negate), ("~", .invert)]

/-- The comparisons that are marks. -/
def comparisons : List (String × Comparison) :=
  [("==", .equal), ("!=", .unequal), ("<=", .lessOrEqual), ("<", .less), (">=", .greaterOrEqual),
   (">", .greater)]

/-- Operands of one level, joined from left to right. -/
def leftToRight (ops : List (String × BinaryOp)) (operand : Reading Expr) : Reading Expr := do
  let first ← operand
  loop (← get).length first
where
  loop : Nat → Expr → Reading Expr
    | 0, e => return e
    | n + 1, e => do
      match ← acceptOneOf ops with
      | some op => loop n (.binary op e (← operand))
      | none => return e

/-- Operands joined by a word, from left to right. -/
def joinedBy (word : String) (join : Expr → Expr → Expr) (operand : Reading Expr) :
    Reading Expr := do
  let first ← operand
  loop (← get).length first
where
  loop : Nat → Expr → Reading Expr
    | 0, e => return e
    | n + 1, e => do
      if ← acceptWord word then loop n (join e (← operand)) else return e

/-- The comparison that comes next, if one does. -/
def acceptComparison : Reading (Option Comparison) := do
  match ← acceptOneOf comparisons with
  | some c => return some c
  | none =>
    if ← acceptWord "in" then return some .member
    else if ← acceptWord "is" then
      if ← acceptWord "not" then return some .notSame else return some .same
    else match ← get with
      | .word "not" :: .word "in" :: rest => set rest; return some .notMember
      | _ => return none

section

variable (primary : Reading Expr)

/-- An operand with the signs before it; a power binds more tightly than the signs on its left. -/
def readFactor : Nat → Reading Expr
  | 0 => failure
  | n + 1 => do
    match ← acceptOneOf unaryOps with
    | some op => return .unary op (← readFactor n)
    | none =>
      let e ← primary
      if ← acceptMark "**" then return .binary .power e (← readFactor n) else return e

/-- Alternatives, and whatever binds more tightly. -/
def readAlternatives : Reading Expr :=
  levels.foldr leftToRight (do readFactor primary ((← get).length + 1))

/-- The comparisons with what follows. -/
def readComparisons : Nat → Reading (List (Comparison × Expr))
  | 0 => return []
  | n + 1 => do
    match ← acceptComparison with
    | some c =>
      let e ← readAlternatives primary
      return (c, e) :: (← readComparisons n)
    | none => return []

/-- A comparison, with the negations before it. -/
def readNegation : Nat → Reading Expr
  | 0 => failure
  | n + 1 => do
    if ← acceptWord "not" then return .unary .not (← readNegation n)
    else
      let first ← readAlternatives primary
      match ← readComparisons primary (← get).length with
      | [] => return first
      | others => return .compare first others

/-- Conditions joined by `or` and `and`. -/
def readCondition : Reading Expr :=
  joinedBy "or" .either (joinedBy "and" .both (do readNegation primary ((← get).length + 1)))

end

/-! ## Functions and choices -/

/-- What has been read of a function's parameters. -/
structure Parameters where
  list : List (String × Option Expr) := []
  /-- All can be given by place. -/
  isSimple : Bool := true
  /-- A slash has come. -/
  hasSlash : Bool := false
  /-- A star has come. -/
  hasStar : Bool := false
  /-- The last one takes all names. -/
  isClosed : Bool := false

/-- Adds a parameter. A name comes once, and before a star none without a value of its own follows
one that has a value. -/
def Parameters.add (ps : Parameters) (name : String) (initial : Option Expr) :
    Option Parameters :=
  if (ps.list.lookup name).isSome || (!ps.hasStar && initial.isNone && ps.list.any (·.2.isSome))
  then none
  else some { ps with list := ps.list ++ [(name, initial)] }

/-- Reads one parameter, or a sign among them. -/
def readParameter (expression : Reading Expr) (ps : Parameters) : Reading Parameters := do
  if ps.isClosed then failure
  else if ← acceptMark "/" then
    if ps.hasSlash || ps.hasStar || ps.list.isEmpty then failure
    else return { ps with hasSlash := true }
  else if ← acceptMark "**" then
    let ps ← liftM ({ ps with hasStar := true }.add (← readFreeName) none)
    return { ps with isSimple := false, isClosed := true }
  else if ← acceptMark "*" then
    if ps.hasStar then failure
    else
      let ps := { ps with hasStar := true, isSimple := false }
      match ← get with
      | .mark "," :: .word _ :: _ | .mark "," :: .name _ :: _ => return ps
      | _ => liftM (ps.add (← readFreeName) none)
  else
    let name ← readFreeName
    let initial ← if ← acceptMark "=" then some <$> expression else pure none
    liftM (ps.add name initial)

/-- Reads parameters up to the colon. -/
def readParameters (expression : Reading Expr) : Nat → Parameters → Reading Parameters
  | 0, _ => failure
  | n + 1, ps => do
    if ← acceptMark ":" then return ps
    else
      let ps ← readParameter expression ps
      if ← acceptMark "," then readParameters expression n ps
      else
        expectMark ":"
        return ps

section

variable (primary : Reading Expr)

/-- An expression, in at most so many nested functions and choices. -/
def readExpressionWith : Nat → Reading Expr
  | 0 => failure
  | n + 1 => do
    if ← acceptWord "lambda" then
      let ps ← readParameters (readExpressionWith n) ((← get).length + 1) {}
      return .function ps.list ps.isSimple (← readExpressionWith n)
    else
      let e ← readCondition primary
      if ← acceptWord "if" then
        let c ← readCondition primary
        expectWord "else"
        return .choice c e (← readExpressionWith n)
      else return e

/-- An expression. -/
def readExpression : Reading Expr := do
  readExpressionWith primary ((← get).length + 1)

/-- An expression, perhaps with a name that it gets. -/
def readBound : Reading Expr := do
  match ← get with
  | w :: .mark ":=" :: _ =>
    if w.name?.isSome then
      let s ← readFreeName
      expectMark ":="
      return .bound s (← readExpression primary)
    else readExpression primary
  | _ => readExpression primary

/-- An element of a list: an expression, or all elements of a value. -/
def readElement : Reading Expr := do
  if ← acceptMark "*" then return .spread (← readAlternatives primary) else readBound primary

/-! ## Comprehensions -/

/-- What a clause of a comprehension may give a value to. -/
def isTarget : Nat → Expr → Bool
  | 0, _ => false
  | n + 1, e =>
    match e with
    | .name s => isFreeName s
    | .tuple es | .list es => es.all (isTarget n)
    | .spread e => isTarget n e
    | .member .. | .item .. => true
    | _ => false

/-- The target of a clause. -/
def readTarget : Reading Expr := do
  let element : Reading Expr := do
    if ← acceptMark "*" then return .spread (← primary) else primary
  let (es, endsInComma) ← elementsUntil (some (.word "in")) element ((← get).length + 1)
  let target ← match es, endsInComma with
    | [.spread _], false => failure
    | [e], false => pure e
    | [], _ => failure
    | es, _ => pure (.tuple es)
  if isTarget (maxOpenBrackets + 2) target then return target else failure

/-- The conditions of a clause. -/
def readConditions : Nat → Reading (List Expr)
  | 0 => return []
  | n + 1 => do
    if ← acceptWord "if" then
      let c ← readCondition primary
      return c :: (← readConditions n)
    else return []

/-- The clauses of a comprehension, in at most so many. -/
def readClausesWith : Nat → Reading (List Expr)
  | 0 => return []
  | n + 1 => do
    if ← acceptWord "for" then
      let target ← readTarget primary
      expectWord "in"
      let source ← readCondition primary
      let conditions ← readConditions primary (← get).length
      return .clause target source conditions :: (← readClausesWith n)
    else return []

/-- The clauses that come next. -/
def readClauses : Reading (List Expr) := do
  readClausesWith primary (← get).length

/-! ## Brackets -/

/-- An expression that is no element among others and gets no name. -/
def isPlain : Expr → Bool
  | .spread _ | .spreadEntries _ | .bound .. | .given .. => false
  | _ => true

/-- The expression stands for several elements. -/
def isSpread : Expr → Bool
  | .spread _ | .spreadEntries _ => true
  | _ => false

/-- What follows an opening parenthesis. -/
def readParenthesised : Reading Expr := do
  if ← acceptMark ")" then return .tuple []
  else
    let first ← readElement primary
    match ← readClauses primary with
    | [] =>
      if ← acceptMark "," then
        return .tuple (first :: (← elementsIn ")" (readElement primary)).1)
      else if isSpread first then failure
      else
        expectMark ")"
        return first
    | cs =>
      expectMark ")"
      if isSpread first then failure else return .comprehension .generator first cs

/-- What follows an opening square bracket. -/
def readBracketed : Reading Expr := do
  if ← acceptMark "]" then return .list []
  else
    let first ← readElement primary
    match ← readClauses primary with
    | [] =>
      if ← acceptMark "," then
        return .list (first :: (← elementsIn "]" (readElement primary)).1)
      else
        expectMark "]"
        return .list [first]
    | cs =>
      expectMark "]"
      if isSpread first then failure else return .comprehension .list first cs

/-- An element of a set or an entry of a mapping. -/
def readEntry : Reading Expr := do
  if ← acceptMark "**" then return .spreadEntries (← readAlternatives primary)
  else
    let e ← readElement primary
    if (← nextWord) = some (.mark ":") && isPlain e then
      expectMark ":"
      return .entry e (← readExpression primary)
    else return e

/-- The expression is an entry of a mapping. -/
def isEntry : Expr → Bool
  | .entry .. | .spreadEntries _ => true
  | _ => false

/-- What follows an opening brace. -/
def readBraced : Reading Expr := do
  if ← acceptMark "\x7d" then return .mapping []
  else
    let first ← readEntry primary
    match ← readClauses primary with
    | [] =>
      let others ← if ← acceptMark "," then
          Prod.fst <$> elementsIn "\x7d" (readEntry primary)
        else do
          expectMark "\x7d"
          pure []
      if (first :: others).all isEntry then return .mapping (first :: others)
      else if (first :: others).any isEntry then failure
      else return .set (first :: others)
    | cs =>
      expectMark "\x7d"
      if isSpread first then failure
      else return .comprehension (if isEntry first then .mapping else .set) first cs

/-! ## Calls and indices -/

/-- An argument of a call. -/
def readArgument : Reading Expr := do
  if ← acceptMark "*" then return .spread (← readExpression primary)
  else if ← acceptMark "**" then return .spreadEntries (← readExpression primary)
  else match ← get with
    | _ :: .mark "=" :: _ =>
      let s ← readFreeName
      expectMark "="
      return .given s (← readExpression primary)
    | _ => readBound primary

/-- Arguments by place come before those by name, and no name is given twice. -/
def argumentsFit : List Expr → Bool
  | [] => true
  | .given s _ :: es =>
    es.all (fun e => match e with
      | .given t _ => s ≠ t
      | .spread _ | .spreadEntries _ => true
      | _ => false) && argumentsFit es
  | .spreadEntries _ :: es =>
    es.all (fun e => match e with
      | .given .. | .spreadEntries _ => true
      | _ => false) && argumentsFit es
  | _ :: es => argumentsFit es

/-- The arguments of a call. A comprehension needs no brackets of its own if it stands alone. -/
def readArguments : Reading (List Expr) := do
  if ← acceptMark ")" then return []
  else
    let first ← readArgument primary
    match ← readClauses primary with
    | [] =>
      let others ← if ← acceptMark "," then
          Prod.fst <$> elementsIn ")" (readArgument primary)
        else do
          expectMark ")"
          pure []
      if argumentsFit (first :: others) then return first :: others else failure
    | cs =>
      expectMark ")"
      match first with
      | .spread _ | .spreadEntries _ | .given .. => failure
      | _ => return [.comprehension .generator first cs]

/-- One end of a range of indices, which may be left open. -/
def readEnd : Reading (Option Expr) := do
  match ← nextWord with
  | some (.mark ":") | some (.mark ",") | some (.mark "]") => return none
  | _ => return some (← readExpression primary)

/-- An index that is no range: an expression, or all elements of a value. -/
def readPlace : Reading Expr := do
  if ← acceptMark "*" then return .spread (← readExpression primary) else readBound primary

/-- An index, or a range of them. -/
def readIndex : Reading Expr := do
  let start ← if (← nextWord) = some (.mark ":") then pure none else some <$> readPlace primary
  if (← nextWord) = some (.mark ":") && start.all isPlain then
    expectMark ":"
    let stop ← readEnd primary
    let step ← if ← acceptMark ":" then readEnd primary else pure none
    return .slice start stop step
  else liftM start

/-- The index that follows an opening bracket; several are a tuple. -/
def readIndices : Reading Expr := do
  match ← elementsIn "]" (readIndex primary) with
  | ([], _) => failure
  | ([e], false) => return if isSpread e then .tuple [e] else e
  | (es, _) => return .tuple es

/-- What is behind a value: its members, indices and calls. -/
def readTrailers : Nat → Expr → Reading Expr
  | 0, e => return e
  | n + 1, e => do
    if ← acceptMark "." then readTrailers n (.member e (← readName))
    else if ← acceptMark "[" then readTrailers n (.item e (← readIndices primary))
    else if ← acceptMark "(" then readTrailers n (.call e (← readArguments primary))
    else return e

/-! ## Literals -/

/-- The expression of a part of a text. -/
def TextPart.read : TextPart → Option Expr
  | .plain s => some (.constant (.text s))
  | .shown source conversion layout => do
    let isBlank := source.toList.all fun c => c = ' ' || c = '\t' || c = '\n' || c = '\x0c'
    let ws ← if isBlank then none else lexemes ("(" ++ source ++ ")")
    match (readExpression primary).run ws with
    | some (e, []) => some (.shown e conversion layout)
    | _ => none

/-- The texts that come next are one text. -/
def readTexts : Reading Expr := do
  let (parts, rest) := textsOf (← get)
  set rest
  match parts.mapM plain? with
  | some ss => return .constant (.text (String.join ss))
  | none => return .formatted (← liftM (parts.mapM (TextPart.read primary)))
where
  textsOf : List Lexeme → List TextPart × List Lexeme
    | .text ps :: ws => let r := textsOf ws; (ps ++ r.1, r.2)
    | ws => ([], ws)
  plain? : TextPart → Option String
    | .plain s => some s
    | .shown .. => none

/-- The bytes that come next are one value. -/
def readBytes : Reading Expr := do
  let (bs, rest) := bytesOf (← get)
  set rest
  return .constant (.bytes bs)
where
  bytesOf : List Lexeme → List UInt8 × List Lexeme
    | .bytes bs :: ws => let r := bytesOf ws; (bs ++ r.1, r.2)
    | ws => ([], ws)

/-- The expression of a number. -/
def NumberLiteral.expr : NumberLiteral → Expr
  | int n => .constant (.int n)
  | real x => .constant (.real x)
  | imaginary x => .imaginary x

/-- Texts and bytes do not follow one another. -/
def checkNoQuotes : Reading Unit := do
  match ← nextWord with
  | some (.text _) | some (.bytes _) => failure
  | _ => return

/-! ## Primaries -/

/-- A name, a literal or an expression in brackets. -/
def readAtom : Reading Expr := do
  match ← get with
  | .word s :: rest =>
    set rest
    match s with
    | "None" => return .constant .null
    | "True" => return .constant (.bool true)
    | "False" => return .constant (.bool false)
    | _ => if s ∈ keywords then failure else return .name s
  | .name s :: rest => set rest; return .name s
  | .number n :: rest => set rest; return n.expr
  | .text _ :: _ =>
    let e ← readTexts primary
    checkNoQuotes
    return e
  | .bytes _ :: _ =>
    let e ← readBytes
    checkNoQuotes
    return e
  | .mark m :: rest =>
    set rest
    match m with
    | "(" => readParenthesised primary
    | "[" => readBracketed primary
    | "\x7b" => readBraced primary
    | "..." => return .ellipsis
    | _ => failure
  | [] => failure

end

/-- An atom and what is behind it, with brackets in one another to a depth of at most `fuel`. -/
def readPrimary : Nat → Reading Expr
  | 0 => failure
  | fuel + 1 => do
    let e ← readAtom (readPrimary fuel)
    readTrailers (readPrimary fuel) (← get).length e

/-! ## Texts -/

/-- All words as one expression; several between commas are a tuple. Brackets stand in one another
to a depth of at most `fuel`. -/
def readAll (fuel : Nat) : Reading Expr := do
  match ← elementsUntil none (readExpression (readPrimary fuel)) ((← get).length + 1) with
  | ([], _) => failure
  | ([e], false) => return e
  | (es, _) => return .tuple es

/-- Reads a text as an expression. A formatted text in it has brackets around what it shows. -/
def Expr.ofText? (s : String) : Option Expr := do
  match (readAll (2 * s.length + 2)).run (← lexemes s) with
  | some (e, []) => some e
  | _ => none

/-- The text of a value all of whose elements are meant. -/
def spreadText (s : String) : String := "(" ++ s ++ ",)[0]"

/-- Reads the text of an annotation. After a star it means all elements of what follows. -/
def Expr.ofAnnotation (s : String) : Except AnnotationError Expr :=
  if s = "" then .error .empty
  else if s.toList.contains '\x00' then .error .nullCharacter
  else match Expr.ofText? (if s.startsWith "*" then spreadText s else s) with
    | some e => .ok e
    | none => .error .unreadable

end EntityMap.Annotation
