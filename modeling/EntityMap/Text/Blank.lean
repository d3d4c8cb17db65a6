/-!
# Blank characters

`isBlank` holds of white space: the ASCII blanks, the four information separators, and the
spaces and line breaks of Unicode. `strip` removes blanks from both ends of a text.
-/

namespace EntityMap.Text

/-- Ranges of the blank code points. -/
def blanks : List (Nat × Nat) :=
  [(0x09, 0x0d), (0x1c, 0x20), (0x85, 0x85), (0xa0, 0xa0), (0x1680, 0x1680), (0x2000, 0x200a),
   (0x2028, 0x2029), (0x202f, 0x202f), (0x205f, 0x205f), (0x3000, 0x3000)]

/-- A white-space character. -/
def isBlank (c : Char) : Bool :=
  blanks.any fun r => r.1 ≤ c.toNat && c.toNat ≤ r.2

/-- The list without the elements of a class at its two ends. -/
def trim (p : Char → Bool) (cs : List Char) : List Char :=
  ((cs.dropWhile p).reverse.dropWhile p).reverse

/-- The text without the blanks at its two ends. -/
def strip (s : String) : String :=
  String.ofList (trim isBlank s.toList)

end EntityMap.Text
