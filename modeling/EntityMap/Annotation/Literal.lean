import EntityMap.Number.Numeral
import EntityMap.Text.Name

/-!
# Literals of annotations

The numbers and the quoted texts that an annotation may write. `readNumber` takes a number from
the beginning of a list of characters; underscores may stand between digits, and a number in base
16, 8 or 2 has a zero and a letter in front. `quotedBody` takes what stands in quotes, in which
`unescape` replaces the escapes. A formatted text has expressions in braces (`formattedParts`).
-/

namespace EntityMap.Annotation

open Number

/-! ## Numbers -/

/-- A number as it is written. -/
inductive NumberLiteral
  | int (n : Nat)
  | real (x : Binary64)
  | imaginary (x : Binary64)
  deriving DecidableEq, Repr

/-- The value of a digit of a base up to 16. -/
def digitIn? (base : Nat) (c : Char) : Option Nat :=
  let d :=
    if '0' ≤ c && c ≤ '9' then c.toNat - '0'.toNat
    else if 'a' ≤ c && c ≤ 'f' then 10 + (c.toNat - 'a'.toNat)
    else if 'A' ≤ c && c ≤ 'F' then 10 + (c.toNat - 'A'.toNat)
    else base
  if d < base then some d else none

/-- A digit of a base. -/
def isDigitIn (base : Nat) (c : Char) : Bool := (digitIn? base c).isSome

/-- The number that digits of a base write. -/
def natOf (base : Nat) (cs : List Char) : Nat :=
  cs.foldl (fun n c => base * n + (digitIn? base c).getD 0) 0

/-- The digits at the beginning and what follows them. An underscore is left out, and a digit
must follow it. -/
def splitDigits (base : Nat) : List Char → Option (List Char × List Char)
  | [] => some ([], [])
  | ['_'] => none
  | '_' :: c :: cs => if isDigitIn base c then splitDigits base (c :: cs) else none
  | c :: cs =>
    if isDigitIn base c then (splitDigits base cs).map fun r => (c :: r.1, r.2)
    else some ([], c :: cs)

/-- The base that a letter after a zero announces. -/
def baseOf? (c : Char) : Option Nat :=
  match c.toLower with
  | 'x' => some 16
  | 'o' => some 8
  | 'b' => some 2
  | _ => none

/-- The words that may follow a number without a blank. -/
def wordsAfterNumber : List String := ["and", "else", "for", "if", "in", "is", "not", "or"]

/-- A number may end before these characters. -/
def mayEndNumber : List Char → Bool
  | [] => true
  | c :: cs =>
    !(c.isAlphanum || c = '_' || 128 ≤ c.toNat)
      || wordsAfterNumber.any fun w => w.toList.isPrefixOf (c :: cs)

/-- The digits after a point and what follows them; no digit need follow. -/
def splitPlaces (cs : List Char) : Option (List Char × List Char) :=
  match cs with
  | c :: _ => if isDigitIn 10 c then splitDigits 10 cs else some ([], cs)
  | [] => some ([], [])

/-- The exponent at the beginning, as it is written, and what follows it. A sign must be followed
by a digit. -/
def splitExponent (cs : List Char) : Option (List Char × List Char) :=
  match cs with
  | e :: c :: rest =>
    if e ≠ 'e' ∧ e ≠ 'E' then some ([], cs)
    else if isDigitIn 10 c then (splitDigits 10 (c :: rest)).map fun r => ('e' :: r.1, r.2)
    else if c = '+' ∨ c = '-' then
      match rest with
      | d :: _ =>
        if isDigitIn 10 d then (splitDigits 10 rest).map fun r => ('e' :: c :: r.1, r.2) else none
      | [] => none
    else some ([], cs)
  | _ => some ([], cs)

/-- A decimal number at the beginning of the characters, and what follows it. A whole number other
than zero does not begin with a zero. -/
def readDecimalNumber (cs : List Char) : Option (NumberLiteral × List Char) := do
  let (whole, rest) ← splitDigits 10 cs
  let (hasPoint, fraction, rest) ← match rest with
    | '.' :: more => (splitPlaces more).map fun r => (true, r.1, r.2)
    | _ => some (false, [], rest)
  let (exponent, rest) ← splitExponent rest
  let value := readDecimal false (whole ++ '.' :: (fraction ++ exponent))
  match rest with
  | c :: after =>
    if c = 'j' ∨ c = 'J' then return (.imaginary (← value), after)
  | [] => pure ()
  if hasPoint || !exponent.isEmpty then return (.real (← value), rest)
  else if (whole.head? == some '0' && whole.any (· ≠ '0')) || maxIntDigits < whole.length then none
  else return (.int (natOf 10 whole), rest)

/-- The number at the beginning of the characters, and what follows it. -/
def readNumber (cs : List Char) : Option (NumberLiteral × List Char) := do
  let (n, rest) ← match cs with
    | '0' :: c :: digits =>
      match baseOf? c with
      | some base => do
        let (ds, rest) ← splitDigits base digits
        if ds.isEmpty then none else some (.int (natOf base ds), rest)
      | none => readDecimalNumber cs
    | _ => readDecimalNumber cs
  if mayEndNumber rest then some (n, rest) else none

/-! ## Quoted texts -/

/-- What stands before the closing quote, and what follows it; a long text is closed by three
quotes and may hold line ends. A character after a backslash closes nothing. -/
def quotedBody (quote : Char) (isLong : Bool) : List Char → Option (List Char × List Char)
  | [] => none
  | '\\' :: [] => none
  | '\\' :: c :: cs => (quotedBody quote isLong cs).map fun r => ('\\' :: c :: r.1, r.2)
  | c :: cs =>
    if c = quote && !isLong then some ([], cs)
    else if c = quote && [quote, quote].isPrefixOf cs then some ([], cs.drop 2)
    else if c = '\n' && !isLong then none
    else (quotedBody quote isLong cs).map fun r => (c :: r.1, r.2)

/-- The character of a number written in so many digits of base 16, and what follows it. -/
def charOfHex (count : Nat) (cs : List Char) : Option (Char × List Char) :=
  let ds := cs.take count
  let n := natOf 16 ds
  if ds.length = count ∧ ds.all (isDigitIn 16) ∧ n.isValidChar then
    some (Char.ofNat n, cs.drop count)
  else none

/-- The characters of escapes that are one letter after the backslash. -/
def letterEscapes : List (Char × Nat) :=
  [('\\', 92), ('\'', 39), ('"', 34), ('a', 7), ('b', 8), ('f', 12), ('n', 10), ('r', 13),
   ('t', 9), ('v', 11)]

/-- Replaces the escapes, in at most `fuel` steps. An escape without a meaning stays as it is; in
bytes those by a character's number in four or eight digits have none. -/
def unescapeWith (isBytes : Bool) : Nat → List Char → Option (List Char)
  | _, [] => some []
  | 0, _ => none
  | fuel + 1, '\\' :: c :: cs =>
    if c = '\n' then unescapeWith isBytes fuel cs
    else match letterEscapes.lookup c with
      | some n => (unescapeWith isBytes fuel cs).map (Char.ofNat n :: ·)
      | none =>
        if isDigitIn 8 c then
          let ds := (c :: cs.take 2).takeWhile (isDigitIn 8)
          let n := natOf 8 ds
          (unescapeWith isBytes fuel (cs.drop (ds.length - 1))).map
            (Char.ofNat (if isBytes then n % 256 else n) :: ·)
        else if c = 'x' ∨ (!isBytes ∧ (c = 'u' ∨ c = 'U')) then do
          let (d, rest) ← charOfHex (if c = 'x' then 2 else if c = 'u' then 4 else 8) cs
          return d :: (← unescapeWith isBytes fuel rest)
        else if c = 'N' ∧ !isBytes then none
        else (unescapeWith isBytes fuel cs).map ('\\' :: c :: ·)
  | fuel + 1, c :: cs => (unescapeWith isBytes fuel cs).map (c :: ·)

/-- Replaces the escapes. -/
def unescape (isBytes : Bool) (cs : List Char) : Option (List Char) :=
  unescapeWith isBytes (cs.length + 1) cs

/-- The bytes of a literal, which is written in ASCII. -/
def bytesOfBody (isRaw : Bool) (cs : List Char) : Option (List UInt8) :=
  if cs.all fun c => c.toNat < 128 then
    (if isRaw then some cs else unescape true cs).map fun ds => ds.map fun c => UInt8.ofNat c.toNat
  else none

/-! ## Formatted texts -/

/-- A part of a formatted text. -/
inductive TextPart
  | plain (text : String)
  /-- The text of an expression's value, as the conversion letter says; `layout` says how it is laid
  out. -/
  | shown (source : String) (conversion : Option Char) (layout : String)
  deriving DecidableEq, Repr

/-- The expression at the beginning of the characters, up to the sign that ends it. `quote` is the
quote that is open, and `depth` counts the open brackets. -/
def expressionSource (quote : Option Char) (depth : Nat) :
    List Char → Option (List Char × List Char)
  | [] => none
  | c :: cs =>
    let go (quote : Option Char) (depth : Nat) : Option (List Char × List Char) :=
      (expressionSource quote depth cs).map fun r => (c :: r.1, r.2)
    if c = '\\' then none
    else match quote with
      | some q => go (if c = q then none else some q) depth
      | none =>
        if c = '\'' ∨ c = '"' then go (some c) depth
        else if c = '#' then none
        else if c ∈ ['(', '[', '\x7b'] then go none (depth + 1)
        else if depth = 0 ∧ c ∈ ['!', '=', '<', '>'] ∧ cs.head? = some '=' then
          match cs with
          | d :: rest => (expressionSource none depth rest).map fun r => (c :: d :: r.1, r.2)
          | [] => none
        else if depth = 0 ∧ c ∈ ['!', '=', ':', '\x7d'] then some ([], c :: cs)
        else if c ∈ [')', ']', '\x7d'] then (if depth = 0 then none else go none (depth - 1))
        else go none depth

/-- The conversion letter at the beginning, and what follows it. -/
def splitConversion : List Char → Option (Option Char × List Char)
  | '!' :: c :: cs => if c ∈ ['s', 'r', 'a'] then some (some c, cs) else none
  | '!' :: [] => none
  | cs => some (none, cs)

/-- The equals sign at the beginning with the blanks behind it, and what follows them. -/
def splitEquals : List Char → List Char × List Char
  | '=' :: cs => ('=' :: cs.takeWhile (· = ' '), cs.dropWhile (· = ' '))
  | cs => ([], cs)

/-- How a value is laid out, up to the brace that closes the field, and what follows from there
on. `depth` counts the open braces. -/
def splitLayout (depth : Nat) : List Char → List Char × List Char
  | [] => ([], [])
  | c :: cs =>
    if c = '\x7d' ∧ depth = 0 then ([], c :: cs)
    else
      let r := splitLayout
        (if c = '\x7b' then depth + 1 else if c = '\x7d' then depth - 1 else depth) cs
      (c :: r.1, r.2)

/-- Adds characters to the parts that follow them. -/
def addPlain (cs : List Char) : List TextPart → List TextPart
  | .plain s :: parts => .plain (String.ofList (cs ++ s.toList)) :: parts
  | parts => if cs.isEmpty then parts else .plain (String.ofList cs) :: parts

/-- The parts of a formatted text, in at most `fuel` steps. Doubled braces stand for themselves, and
an equals sign behind an expression shows the expression too. -/
def formattedPartsWith : Nat → List Char → Option (List TextPart)
  | _, [] => some []
  | 0, _ => none
  | fuel + 1, '\x7b' :: '\x7b' :: cs => (formattedPartsWith fuel cs).map (addPlain ['\x7b'])
  | fuel + 1, '\x7d' :: '\x7d' :: cs => (formattedPartsWith fuel cs).map (addPlain ['\x7d'])
  | _ + 1, '\x7d' :: _ => none
  | fuel + 1, '\x7b' :: cs => do
    let (source, rest) ← expressionSource none 0 cs
    let (equals, rest) := splitEquals rest
    let (conversion, rest) ← splitConversion rest
    let (layout, rest) := match rest with
      | ':' :: more => splitLayout 0 more
      | _ => ([], rest)
    let conversion :=
      if !equals.isEmpty && conversion.isNone && layout.isEmpty then some 'r' else conversion
    match rest with
    | '\x7d' :: more =>
      return addPlain (if equals.isEmpty then [] else source ++ equals)
        (.shown (String.ofList source) conversion (String.ofList layout)
          :: (← formattedPartsWith fuel more))
    | _ => none
  | fuel + 1, c :: cs => (formattedPartsWith fuel cs).map (addPlain [c])

/-- Replaces the escapes of a part that is plain text. -/
def TextPart.unescape? (isRaw : Bool) : TextPart → Option TextPart
  | .plain s =>
    if isRaw then some (.plain s) else (unescape false s.toList).map (.plain <| String.ofList ·)
  | part => some part

/-- The parts of a formatted text. -/
def formattedParts (isRaw : Bool) (cs : List Char) : Option (List TextPart) := do
  (← formattedPartsWith (cs.length + 1) cs).mapM (TextPart.unescape? isRaw)

end EntityMap.Annotation
