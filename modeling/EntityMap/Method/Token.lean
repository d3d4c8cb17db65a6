/-!
# The words of a method name

A method name such as `findAllByLineOrderByNameDesc` is cut into words : each begins at a capital
letter, or at the start of the name, and runs over the small letters, digits and underscores
that follow. Some words are keywords everywhere (`TokenKind.reserved`); `Order` is one before `By`
only, `Asc` and `Desc` at the end of the name only.

The words are found by four rules, which are tried in order at the front of what is left of the
name (`rules`, `firstMatch?`). `tokenize` applies them again and again and gives the words with
their kinds and positions, or the first character at which no rule matches.
-/

namespace EntityMap.Method

/-! ## Characters -/

/-- A character that continues a word. -/
def continuesWord (c : Char) : Bool :=
  c.isLower || c.isDigit || c = '_'

/-- A character that a method name may hold. -/
def isNameChar (c : Char) : Bool :=
  c.isUpper || continuesWord c

/-! ## Kinds -/

/-- What a word of a method name can be. -/
inductive TokenKind
  | word | order | asc | desc
  | find | exist | delete | update | save
  | all | by_ | and | or
  deriving DecidableEq, Repr

/-- The kind of a word by its spelling alone. -/
def TokenKind.reserved : List Char → TokenKind
  | ['f', 'i', 'n', 'd'] => .find
  | ['e', 'x', 'i', 's', 't', 's'] => .exist
  | ['d', 'e', 'l', 'e', 't', 'e'] => .delete
  | ['u', 'p', 'd', 'a', 't', 'e'] => .update
  | ['s', 'a', 'v', 'e'] => .save
  | ['A', 'l', 'l'] => .all
  | ['B', 'y'] => .by_
  | ['A', 'n', 'd'] => .and
  | ['O', 'r'] => .or
  | _ => .word

/-- A word that opens a method name. -/
def TokenKind.isVerb : TokenKind → Bool
  | .find | .exist | .delete | .update | .save => true
  | _ => false

/-- A word that can be a part of a field's name. -/
def TokenKind.isFieldWord : TokenKind → Bool
  | .word | .all => true
  | _ => false

/-! ## Rules -/

/-- A rule says which word it finds at the front of a text, if any, and of what kind it is. -/
abbrev Rule := List Char → Option (TokenKind × List Char)

/-- `By` comes next, and no character continues it. -/
def beginsWithBy : List Char → Bool
  | ['B', 'y'] => true
  | 'B' :: 'y' :: c :: _ => !continuesWord c
  | _ => false

/-- Finds `Order` before `By`. -/
def Rule.order : Rule
  | 'O' :: 'r' :: 'd' :: 'e' :: 'r' :: rest =>
    if beginsWithBy rest then some (.order, ['O', 'r', 'd', 'e', 'r']) else none
  | _ => none

/-- Finds a word that is the whole text. -/
def Rule.last (kind : TokenKind) (word : List Char) : Rule :=
  fun text => if text = word then some (kind, word) else none

/-- Finds one character and all that continue the word. -/
def Rule.word : Rule
  | c :: cs =>
    let word := c :: cs.takeWhile continuesWord
    if isNameChar c then some (.reserved word, word) else none
  | [] => none

/-- The rules in the order in which they are tried : a word that the last one would find as well is
a keyword where one of the others finds it. -/
def rules : List Rule :=
  [.order, .last .asc ['A', 's', 'c'], .last .desc ['D', 'e', 's', 'c'], .word]

/-- What the first rule finds that finds a word. -/
def firstMatch? (text : List Char) : Option (TokenKind × List Char) :=
  rules.findSome? fun rule => rule text

/-- No rule finds the empty word. -/
theorem ne_nil_of_firstMatch? {text word : List Char} {kind : TokenKind}
    (h : firstMatch? text = some (kind, word)) : word ≠ [] := by
  obtain ⟨rule, hrule, hfound⟩ := List.exists_of_findSome?_eq_some h
  simp only [rules, List.mem_cons, List.not_mem_nil, or_false] at hrule
  rcases hrule with rfl | rfl | rfl | rfl
  · unfold Rule.order at hfound
    grind
  · grind [Rule.last]
  · grind [Rule.last]
  · unfold Rule.word at hfound
    grind

/-! ## Tokens -/

/-- A word of a method name with its kind and the number of characters before it. -/
structure Token where
  kind : TokenKind
  text : String
  position : Nat
  deriving DecidableEq, Repr

/-- The tokens of what is left of a name from `position` on. It unfolds as far as it must, so that
the tokens of a given name are known by evaluation. -/
@[semireducible] def tokensFrom (position : Nat) : List Char → Except (Char × Nat) (List Token)
  | [] => .ok []
  | c :: cs =>
    match _h : firstMatch? (c :: cs) with
    | none => .error (c, position)
    | some (kind, w) =>
      (tokensFrom (position + w.length) ((c :: cs).drop w.length)).map
        (⟨kind, String.ofList w, position⟩ :: ·)
termination_by cs => cs.length
decreasing_by
  have hw := List.length_pos_iff.mpr (ne_nil_of_firstMatch? _h)
  rw [List.length_drop, List.length_cons]
  omega

/-- The tokens of a method name, or its first illegal character and where it stands. -/
def tokenize (name : String) : Except (Char × Nat) (List Token) :=
  tokensFrom 0 name.toList

end EntityMap.Method
