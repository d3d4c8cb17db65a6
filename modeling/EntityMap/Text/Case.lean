import EntityMap.Text.CaseTable

/-!
# Small and capital letters

`lower` and `upper` change the case of a whole text by the case tables. Letters map one by one,
with two exceptions: a few letters have a text of several letters as their other case, and a
capital sigma becomes the final form `ς` at the end of a word (`endsWord`).
-/

namespace EntityMap.Text

/-- The code point `n` moved by the first run that holds it. -/
def shiftLetter (runs : List CaseRun) (n : Nat) : Nat :=
  match runs.find? (·.holds n) with
  | some r => ((n : Int) + r.shift).toNat
  | none => n

/-- One letter changed by a table of texts, else by a table of runs. -/
def changeCase (texts : List (Nat × List Nat)) (runs : List CaseRun) (n : Nat) : List Char :=
  match texts.lookup n with
  | some ns => ns.map Char.ofNat
  | none => [Char.ofNat (shiftLetter runs n)]

/-- The small form of a letter on its own. -/
def lowerChar (c : Char) : List Char :=
  if c.toNat < 128 then [c.toLower] else changeCase smallTexts smallLetters c.toNat

/-- The capital form of a letter. -/
def upperChar (c : Char) : List Char :=
  if c.toNat < 128 then [c.toUpper] else changeCase capitalTexts capitalLetters c.toNat

/-- A letter with a case. -/
def isCased (c : Char) : Bool :=
  casedLetters.any fun r => r.1 ≤ c.toNat && c.toNat ≤ r.2

/-- A sign that does not separate the letters beside it. -/
def isCaseIgnorable (c : Char) : Bool :=
  caseIgnorable.any fun r => r.1 ≤ c.toNat && c.toNat ≤ r.2

/-- The nearest character that counts, in a list read away from a letter, has a case. -/
def meetsCased (cs : List Char) : Bool :=
  match cs.dropWhile isCaseIgnorable with
  | [] => false
  | c :: _ => isCased c

/-- A letter between `before` (nearest first) and `after` stands at the end of a word. -/
def endsWord (before after : List Char) : Bool :=
  meetsCased before && !meetsCased after

/-- Lower-casing from a place in a text; `before` holds what is already read, nearest first. -/
def lowerFrom (before : List Char) : List Char → List Char
  | [] => []
  | c :: cs =>
    (if c = 'Σ' && endsWord before cs then ['ς'] else lowerChar c) ++ lowerFrom (c :: before) cs

/-- The text in small letters. -/
def lower (s : String) : String :=
  String.ofList (lowerFrom [] s.toList)

/-- The text in capital letters. -/
def upper (s : String) : String :=
  String.ofList (s.toList.flatMap upperChar)

end EntityMap.Text
