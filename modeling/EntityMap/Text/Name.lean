import EntityMap.Text.NameTable

/-!
# Names

A name is a letter or an underscore followed by letters, underscores, digits and, outside ASCII,
the marks and joining signs of the scripts (`isName`).
-/

namespace EntityMap.Text

/-- A code point lies in one of the ranges. -/
def inRanges (ranges : List (Nat × Nat)) (n : Nat) : Bool :=
  ranges.any fun r => r.1 ≤ n && n ≤ r.2

/-- A name may begin with the character. -/
def startsName (c : Char) : Bool :=
  if c.toNat < 128 then c.isAlpha || c = '_' else inRanges nameStarts c.toNat

/-- A name may contain the character after its first one. -/
def continuesName (c : Char) : Bool :=
  startsName c || (if c.toNat < 128 then c.isDigit else inRanges nameParts c.toNat)

/-- The characters are a name. -/
def isName : List Char → Bool
  | [] => false
  | c :: cs => startsName c && cs.all continuesName

end EntityMap.Text
