import EntityMap.Text.NormalTable

/-!
# The normal form of names

Two names that differ only in how their characters are written are one name. `normalForm` writes
every name in one way: characters that stand for others are replaced by them, letters with marks
are taken apart (`decomposed`), the marks on a letter are put in the order of their classes
(`orderMarks`), and what can be written as one character is put together again (`composed`). Names
in ASCII are in normal form.
-/

namespace EntityMap.Text

/-! ## Tables -/

/-- The class of a mark; every other character has class zero. -/
def markClass (c : Char) : Nat :=
  if c.toNat < 0x300 then 0
  else ((markClasses.find? fun r => r.1 ≤ c.toNat && c.toNat ≤ r.2.1).map (·.2.2)).getD 0

/-- What a character stands for, if it stands for others. -/
def standsFor? (c : Char) : Option (List Char) :=
  match singleForms.findSome? fun r =>
      if r.1 ≤ c.toNat then r.2.toList[c.toNat - r.1]? else none with
  | some d => some [d]
  | none => (severalForms.lookup c.toNat).map (·.toList)

/-- The letter of a text of letters, each with its marked form, that has a marked form. -/
def unmarked? (marked : Char) : List Char → Option Char
  | letter :: form :: cs => if form = marked then some letter else unmarked? marked cs
  | _ => none

/-- The marked form of a letter in such a text. -/
def marked? (letter : Char) : List Char → Option Char
  | l :: form :: cs => if l = letter then some form else marked? letter cs
  | _ => none

/-! ## Syllables

A syllable of the Korean script is one character, numbered by its two or three letters. -/

/-- The first syllable. -/
def firstSyllable : Nat := 0xac00

/-- How many syllables there are. -/
def syllableCount : Nat := 19 * 21 * 28

/-- The code points before the last letters, and of the first leading letter and vowel. -/
def beforeFinals : Nat := 0x11a7

/-- The code point of the first leading letter. -/
def firstLeading : Nat := 0x1100

/-- The code point of the first vowel. -/
def firstVowel : Nat := 0x1161

/-- The letters of a syllable. -/
def syllableLetters? (c : Char) : Option (List Char) :=
  if firstSyllable ≤ c.toNat ∧ c.toNat < firstSyllable + syllableCount then
    let n := c.toNat - firstSyllable
    let final := n % 28
    some ([Char.ofNat (firstLeading + n / 588), Char.ofNat (firstVowel + n % 588 / 28)]
      ++ if final = 0 then [] else [Char.ofNat (beforeFinals + final)])
  else none

/-- The syllable of a leading letter and a vowel, or of a syllable without a last letter and such
a letter. -/
def syllable? (a b : Char) : Option Char :=
  if firstLeading ≤ a.toNat ∧ a.toNat < firstLeading + 19
      ∧ firstVowel ≤ b.toNat ∧ b.toNat < firstVowel + 21 then
    some (Char.ofNat
      (firstSyllable + ((a.toNat - firstLeading) * 21 + (b.toNat - firstVowel)) * 28))
  else if firstSyllable ≤ a.toNat ∧ a.toNat < firstSyllable + syllableCount
      ∧ (a.toNat - firstSyllable) % 28 = 0
      ∧ beforeFinals < b.toNat ∧ b.toNat < beforeFinals + 28 then
    some (Char.ofNat (a.toNat + (b.toNat - beforeFinals)))
  else none

/-! ## Taking apart -/

/-- A letter with a mark as the letter and the mark. -/
def parts? (c : Char) : Option (Char × Char) :=
  markedLetters.findSome? fun r => (unmarked? c r.2.toList).map (·, Char.ofNat r.1)

/-- A character taken apart, in at most `fuel` steps. -/
def decomposedWith : Nat → Char → List Char
  | 0, c => [c]
  | fuel + 1, c =>
    if c.toNat < 128 then [c]
    else match syllableLetters? c with
      | some cs => cs
      | none =>
        match standsFor? c with
        | some cs => cs.flatMap (decomposedWith fuel)
        | none =>
          match parts? c with
          | some (letter, mark) => decomposedWith fuel letter ++ [mark]
          | none => [c]

/-- A character taken apart; no table leads further than through five characters. -/
def decomposed (c : Char) : List Char := decomposedWith 6 c

/-! ## Order -/

/-- Puts a mark behind the last character that is no mark of a greater class. The characters
before it come nearest first. -/
def insertMark (mark : Char) : List Char → List Char
  | [] => [mark]
  | c :: cs => if markClass mark < markClass c then c :: insertMark mark cs else mark :: c :: cs

/-- The characters with the marks on each letter in the order of their classes. -/
def orderMarks (cs : List Char) : List Char :=
  (cs.foldl (fun before c => if markClass c = 0 then c :: before else insertMark c before)
    []).reverse

/-! ## Putting together -/

/-- The character of a letter and a mark. -/
def composite? (letter mark : Char) : Option Char :=
  match syllable? letter mark with
  | some c => some c
  | none =>
    markedLetters.findSome? fun r => if r.1 = mark.toNat then marked? letter r.2.toList else none

/-- Puts a letter and what follows it together. The marks on the letter that stay apart come
nearest first; behind one of no smaller class a mark does not reach the letter. -/
def composedFrom (letter : Char) (marks : List Char) : List Char → List Char
  | [] => letter :: marks.reverse
  | c :: cs =>
    let isBlocked := match marks with
      | [] => false
      | m :: _ => markClass c ≤ markClass m
    match if isBlocked then none else composite? letter c with
    | some d => composedFrom d marks cs
    | none =>
      if markClass c = 0 then letter :: (marks.reverse ++ composedFrom c [] cs)
      else composedFrom letter (c :: marks) cs

/-- What can be written as one character is written so. -/
def composed : List Char → List Char
  | [] => []
  | c :: cs => if markClass c = 0 then composedFrom c [] cs else c :: composed cs

/-! ## Names -/

/-- The characters of a name in normal form. -/
def normalForm (cs : List Char) : List Char :=
  if cs.all fun c => c.toNat < 128 then cs else composed (orderMarks (cs.flatMap decomposed))

/-- A name in ASCII is in normal form. -/
theorem normalForm_ascii {cs : List Char} (h : (cs.all fun c => c.toNat < 128) = true) :
    normalForm cs = cs := by
  simp only [normalForm, h, if_true]

end EntityMap.Text
