/-!
# Quoted text

A quoted text of SQL stands between two marks, and a mark inside it is written twice. `quote`
writes a text so; `unquote` reads one off the front of a text and gives back what follows it.
`identifier` and `stringLiteral` are the two uses: names stand between double marks, string
values between single ones.
-/

namespace EntityMap.Text

/-- The characters with every mark written twice. -/
def doubleMarks (mark : Char) : List Char → List Char
  | [] => []
  | c :: cs => if c = mark then mark :: mark :: doubleMarks mark cs else c :: doubleMarks mark cs

/-- The characters between two marks. -/
def quote (mark : Char) (cs : List Char) : List Char :=
  mark :: (doubleMarks mark cs ++ [mark])

/-- Reads up to the closing mark: the text before it and the characters after it. -/
def unquoteRest (mark : Char) : List Char → Option (List Char × List Char)
  | [] => none
  | [c] => if c = mark then some ([], []) else none
  | c :: d :: cs =>
    if c = mark then
      if d = mark then (unquoteRest mark cs).map fun r => (mark :: r.1, r.2)
      else some ([], d :: cs)
    else (unquoteRest mark (d :: cs)).map fun r => (c :: r.1, r.2)

/-- Reads a quoted text off the front: its content and the characters after it. -/
def unquote (mark : Char) : List Char → Option (List Char × List Char)
  | [] => none
  | c :: cs => if c = mark then unquoteRest mark cs else none

/-- What was written between marks is read back, whatever follows but another mark. -/
theorem unquoteRest_doubleMarks {mark : Char} {rest : List Char} (h : rest.head? ≠ some mark)
    (cs : List Char) :
    unquoteRest mark (doubleMarks mark cs ++ mark :: rest) = some (cs, rest) := by
  induction cs with
  | nil =>
    cases rest with
    | nil => simp [doubleMarks, unquoteRest]
    | cons d ds =>
      have hd : d ≠ mark := by simpa using h
      simp [doubleMarks, unquoteRest, hd]
  | cons c cs ih =>
    by_cases hc : c = mark
    · subst hc
      simp [doubleMarks, unquoteRest, ih]
    · obtain ⟨d, ds, hds⟩ : ∃ d ds, doubleMarks mark cs ++ mark :: rest = d :: ds :=
        List.exists_cons_of_ne_nil (by simp)
      rw [hds] at ih
      simp [doubleMarks, hc, hds, unquoteRest, ih]

/-- A quoted text is read back, whatever follows but another mark. -/
theorem unquote_quote {mark : Char} {rest : List Char} (h : rest.head? ≠ some mark)
    (cs : List Char) : unquote mark (quote mark cs ++ rest) = some (cs, rest) := by
  simp [quote, unquote, unquoteRest_doubleMarks h]

/-- A name of a table or a column, between double marks. -/
def identifier (name : String) : String :=
  String.ofList (quote '"' name.toList)

/-- A string value, between single marks. -/
def stringLiteral (text : String) : String :=
  String.ofList (quote '\'' text.toList)

end EntityMap.Text
