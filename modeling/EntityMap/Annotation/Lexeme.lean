import EntityMap.Annotation.Literal
import EntityMap.Text.NormalForm

/-!
# The words of an annotation

`lexemes` cuts the text of an annotation into names, numbers, quoted texts and marks. Blanks and
comments separate words. The text is one line, which may be continued after a backslash; within
brackets line ends are blanks too. Before and after the line there may be lines without words, and
it begins without blanks.
-/

namespace EntityMap.Annotation

open Number Text

/-- A word of an annotation. -/
inductive Lexeme
  /-- A name or a keyword, in ASCII. -/
  | word (s : String)
  /-- A name with other letters, in normal form. -/
  | name (s : String)
  | number (n : NumberLiteral)
  | text (parts : List TextPart)
  | bytes (bs : List UInt8)
  | mark (s : String)
  deriving DecidableEq, Repr

/-! ## Single words -/

/-- The marks of several characters. -/
def longMarks : List String :=
  ["...", "**", "//", "<<", ">>", "<=", ">=", "==", "!=", ":="]

/-- The marks of one character. -/
def shortMarks : List Char :=
  ['(', ')', '[', ']', '\x7b', '\x7d', ',', ':', '.', '=', '+', '-', '*', '/', '%', '@', '|', '^',
   '&', '~', '<', '>']

/-- The mark at the beginning of the characters, and what follows it. -/
def readMark (cs : List Char) : Option (String × List Char) :=
  match longMarks.find? fun m => m.toList.isPrefixOf cs, cs with
  | some m, _ => some (m, cs.drop m.length)
  | none, c :: rest => if c ∈ shortMarks then some (String.ofList [c], rest) else none
  | none, [] => none

/-- What the letters before a quote say about the literal. -/
structure QuoteKind where
  isRaw : Bool
  isBytes : Bool := false
  isFormatted : Bool := false

/-- The kind that the letters before a quote announce. -/
def QuoteKind.ofLetters? (letters : List Char) : Option QuoteKind :=
  match String.ofList (letters.map Char.toLower) with
  | "" | "u" => some { isRaw := false }
  | "r" => some { isRaw := true }
  | "b" => some { isRaw := false, isBytes := true }
  | "br" | "rb" => some { isRaw := true, isBytes := true }
  | "f" => some { isRaw := false, isFormatted := true }
  | "fr" | "rf" => some { isRaw := true, isFormatted := true }
  | _ => none

/-- The literal of what stands in quotes. -/
def QuoteKind.lexeme? (k : QuoteKind) (body : List Char) : Option Lexeme :=
  if k.isBytes then (bytesOfBody k.isRaw body).map .bytes
  else if k.isFormatted then (formattedParts k.isRaw body).map .text
  else
    (if k.isRaw then some body else unescape false body).map fun cs =>
      .text [.plain (String.ofList cs)]

/-- The quoted literal at the beginning of the characters, after its letters, and what follows
it. -/
def readQuoted (k : QuoteKind) (quote : Char) (cs : List Char) : Option (Lexeme × List Char) := do
  let isLong := [quote, quote, quote].isPrefixOf cs
  let (body, rest) ← quotedBody quote isLong (cs.drop (if isLong then 3 else 1))
  return (← k.lexeme? body, rest)

/-- A character that ends no name: a letter, a digit, an underscore, or any beyond ASCII. -/
def inWord (c : Char) : Bool := c.isAlphanum || c = '_' || 128 ≤ c.toNat

/-- The word at the beginning of the characters, and what follows it. -/
def readLexeme (cs : List Char) : Option (Lexeme × List Char) :=
  match cs with
  | [] => none
  | c :: more =>
    let letters := cs.takeWhile inWord
    let rest := cs.dropWhile inWord
    let kind := match rest with
      | q :: _ => if q = '\'' ∨ q = '"' then (QuoteKind.ofLetters? letters).map (·, q) else none
      | [] => none
    match kind with
    | some (k, q) => readQuoted k q rest
    | none =>
      if isDigitIn 10 c || (c = '.' && (more.head?.any (isDigitIn 10))) then
        (readNumber cs).map fun r => (.number r.1, r.2)
      else if inWord c then
        if letters.all fun d => d.toNat < 128 then some (.word (String.ofList letters), rest)
        else if isName letters then some (.name (String.ofList (normalForm letters)), rest)
        else none
      else (readMark cs).map fun r => (.mark r.1, r.2)

/-! ## Lines -/

/-- The characters with one kind of line end. -/
def unifyLineEnds : List Char → List Char
  | [] => []
  | '\r' :: '\n' :: cs => '\n' :: unifyLineEnds cs
  | c :: cs => (if c = '\r' then '\n' else c) :: unifyLineEnds cs

/-- What follows the blanks at the beginning of a line, and whether they indent it. `held` tells
that blanks before a continuation do. -/
def skipIndent (held indented : Bool) : List Char → Option (Bool × List Char)
  | '\\' :: '\n' :: [] => none
  | '\\' :: '\n' :: cs => skipIndent (held || indented) indented cs
  | c :: cs =>
    if c = ' ' ∨ c = '\t' then skipIndent held true cs
    else if c = '\x0c' then skipIndent held false cs
    else some (held || indented, c :: cs)
  | [] => some (held || indented, [])

/-- What follows a comment, from the line's end on. -/
def afterComment (cs : List Char) : List Char := cs.dropWhile (· ≠ '\n')

/-- What follows the lines without words. -/
def skipEmptyLines : Nat → List Char → Option (Bool × List Char)
  | 0, _ => none
  | fuel + 1, cs => do
    let (isIndented, rest) ← skipIndent false false cs
    match rest with
    | '\n' :: more => skipEmptyLines fuel more
    | '#' :: _ =>
      match afterComment rest with
      | _ :: more => skipEmptyLines fuel more
      | [] => return (false, [])
    | _ => return (isIndented, rest)

/-- The greatest number of brackets that are open at one place. -/
def maxOpenBrackets : Nat := 200

/-- The number of open brackets after a word. -/
def bracketsAfter (depth : Nat) : Lexeme → Option Nat
  | .mark "(" | .mark "[" | .mark "\x7b" =>
    if depth < maxOpenBrackets then some (depth + 1) else none
  | .mark ")" | .mark "]" | .mark "\x7d" => some (depth - 1)
  | _ => some depth

/-- Cuts a line into words, in at most `fuel` steps; `depth` counts the open brackets. -/
def lexemesWith : Nat → Nat → List Char → Option (List Lexeme)
  | 0, _, _ => none
  | _ + 1, _, [] => some []
  | fuel + 1, depth, c :: cs =>
    if c = ' ' ∨ c = '\t' ∨ c = '\x0c' then lexemesWith fuel depth cs
    else if c = '#' then lexemesWith fuel depth (afterComment cs)
    else if c = '\\' then
      match cs with
      | '\n' :: d :: rest => lexemesWith fuel depth (d :: rest)
      | _ => none
    else if c = '\n' then
      if depth = 0 then
        match skipEmptyLines (cs.length + 1) cs with
        | some (_, []) => some []
        | _ => none
      else lexemesWith fuel depth cs
    else do
      let (w, rest) ← readLexeme (c :: cs)
      let depth ← bracketsAfter depth w
      return w :: (← lexemesWith fuel depth rest)

/-- The words of an annotation. -/
def lexemes (s : String) : Option (List Lexeme) := do
  let cs := unifyLineEnds s.toList
  let (isIndented, rest) ← skipEmptyLines (cs.length + 1) cs
  if isIndented && !rest.isEmpty then none else lexemesWith (rest.length + 1) 0 rest

end EntityMap.Annotation
