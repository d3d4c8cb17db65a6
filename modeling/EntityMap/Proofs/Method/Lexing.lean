import Mathlib.Tactic.SplitIfs
import EntityMap.Method.Token

/-!
# The words that the rules find

A name can be cut into words without any rule (`splitWords`), and what a word is can be said from
the words after it (`TokenKind.of`). The rules come to the same : whichever of them matches first,
it finds the next of these words, with the kind that this has there (`firstMatch?_cons`). So a run
of the rules gives the words of a name that has no illegal character (`tokenize_eq`).
-/

namespace EntityMap.Method

/-! ## Words -/

/-- Adds a character to the front of the first word. -/
def consFirst (c : Char) : List (List Char) → List (List Char)
  | [] => [[c]]
  | w :: ws => (c :: w) :: ws

/-- Cuts a name before every character that does not continue a word. -/
def splitWords : List Char → List (List Char)
  | [] => []
  | [c] => [[c]]
  | c :: d :: cs =>
    if continuesWord d then consFirst c (splitWords (d :: cs)) else [c] :: splitWords (d :: cs)

/-- The characters that are added to the first word stand before those of all words. -/
theorem flatten_consFirst (c : Char) (ws : List (List Char)) :
    (consFirst c ws).flatten = c :: ws.flatten := by
  cases ws <;> simp [consFirst]

/-- Nothing is lost: the words put together are the name. -/
theorem flatten_splitWords (cs : List Char) : (splitWords cs).flatten = cs := by
  fun_induction splitWords cs with
  | case1 => rfl
  | case2 c => rfl
  | case3 c d cs h ih => rw [flatten_consFirst, ih]
  | case4 c d cs h ih => simp [ih]

/-- The first word is one character and all that continue it. -/
theorem splitWords_cons (c : Char) (cs : List Char) :
    splitWords (c :: cs) =
      (c :: cs.takeWhile continuesWord) :: splitWords (cs.dropWhile continuesWord) := by
  induction cs generalizing c with
  | nil => rfl
  | cons d cs ih =>
    cases hd : continuesWord d
    · simp [splitWords, hd]
    · simp [splitWords, hd, ih, consFirst]

/-- A word is cut off the front of whatever begins another one. -/
theorem splitWords_append {c : Char} {cs rest : List Char}
    (hcs : ∀ d ∈ cs, continuesWord d = true) (hrest : ∀ d ∈ rest.head?, continuesWord d = false) :
    splitWords (c :: (cs ++ rest)) = (c :: cs) :: splitWords rest := by
  have hstop : rest.takeWhile continuesWord = [] ∧ rest.dropWhile continuesWord = rest := by
    cases rest with
    | nil => exact ⟨rfl, rfl⟩
    | cons d ds => simp [hrest d rfl]
  rw [splitWords_cons, List.takeWhile_append_of_pos hcs, List.dropWhile_append_of_pos hcs,
    hstop.1, hstop.2, List.append_nil]

/-- The words after the first are those of what follows it. -/
theorem splitWords_eq_cons {text w : List Char} {after : List (List Char)}
    (h : splitWords text = w :: after) :
    text = w ++ after.flatten ∧ splitWords after.flatten = after := by
  refine ⟨by rw [← flatten_splitWords text, h, List.flatten_cons], ?_⟩
  cases text with
  | nil => cases h
  | cons c cs =>
    rw [splitWords_cons] at h
    obtain ⟨-, rfl⟩ := List.cons.inj h
    rw [flatten_splitWords]

/-! ## Kinds in context -/

/-- The kind of a word before the words `after`. -/
def TokenKind.of (w : List Char) (after : List (List Char)) : TokenKind :=
  if w = ['O', 'r', 'd', 'e', 'r'] ∧ after.head? = some ['B', 'y'] then .order
  else if w = ['A', 's', 'c'] ∧ after = [] then .asc
  else if w = ['D', 'e', 's', 'c'] ∧ after = [] then .desc
  else .reserved w

/-- The tokens of a list of words, the first of which stands at `position`. -/
def tokensOf (position : Nat) : List (List Char) → List Token
  | [] => []
  | w :: ws => ⟨.of w ws, String.ofList w, position⟩ :: tokensOf (position + w.length) ws

/-- The first character that no word may hold, with its position. -/
def illegalFrom (position : Nat) : List Char → Option (Char × Nat)
  | [] => none
  | c :: cs => if isNameChar c then illegalFrom (position + 1) cs else some (c, position)

theorem isNameChar_of_continuesWord {c : Char} (h : continuesWord c = true) :
    isNameChar c = true := by
  simp [isNameChar, h]

/-- Legal characters are passed over. -/
theorem illegalFrom_append {cs : List Char} (h : ∀ c ∈ cs, isNameChar c = true) (position : Nat)
    (rest : List Char) :
    illegalFrom position (cs ++ rest) = illegalFrom (position + cs.length) rest := by
  induction cs generalizing position with
  | nil => rfl
  | cons c cs ih =>
    obtain ⟨hc, hcs⟩ := List.forall_mem_cons.mp h
    rw [List.cons_append, illegalFrom, if_pos hc, ih hcs, List.length_cons, Nat.add_assoc,
      Nat.add_comm 1]

/-! ## Rules -/

theorem head?_of_beginsWithBy {cs : List Char} (h : beginsWithBy cs = true) :
    ∀ c ∈ cs.head?, continuesWord c = false := by
  unfold beginsWithBy at h
  split at h
  · simp; rfl
  · simp; rfl
  · cases h

/-- `By` comes next if it is the first word. -/
theorem beginsWithBy_iff (cs : List Char) :
    beginsWithBy cs = true ↔ (splitWords cs).head? = some ['B', 'y'] := by
  have hy : continuesWord 'y' = true := rfl
  fun_cases beginsWithBy cs with
  | case1 => simp [splitWords, hy, consFirst]
  | case2 c cs => cases hc : continuesWord c <;> simp [splitWords_cons, hy, hc]
  | case3 _ hend hgoes =>
    simp only [Bool.false_eq_true, false_iff]
    intro h
    obtain ⟨after, hsplit⟩ := List.head?_eq_some_iff.mp h
    obtain ⟨rfl, hafter⟩ := splitWords_eq_cons hsplit
    cases hrest : after.flatten with
    | nil => exact hend (by rw [hrest]; rfl)
    | cons c rest => exact hgoes c rest (by rw [hrest]; rfl)

section

variable {text w : List Char} {after : List (List Char)}

/-- `Order` is found where it is a word and `By` the next one. -/
theorem Rule.order_eq (h : splitWords text = w :: after) :
    Rule.order text =
      if w = ['O', 'r', 'd', 'e', 'r'] ∧ after.head? = some ['B', 'y'] then some (.order, w)
      else none := by
  obtain ⟨htext, hafter⟩ := splitWords_eq_cons h
  by_cases hby : w = ['O', 'r', 'd', 'e', 'r'] ∧ after.head? = some ['B', 'y']
  · have hbegins : beginsWithBy after.flatten = true := by
      rw [beginsWithBy_iff, hafter]
      exact hby.2
    rw [if_pos hby, htext, hby.1]
    exact if_pos hbegins
  · rw [if_neg hby]
    fun_cases Rule.order text with
    | case1 rest hbegins =>
      have hcut : splitWords ('O' :: (['r', 'd', 'e', 'r'] ++ rest)) =
          ['O', 'r', 'd', 'e', 'r'] :: splitWords rest :=
        splitWords_append (List.all_eq_true.mp rfl) (head?_of_beginsWithBy hbegins)
      obtain ⟨rfl, rfl⟩ := List.cons.inj (hcut.symm.trans h)
      exact absurd ⟨rfl, (beginsWithBy_iff rest).mp hbegins⟩ hby
    | case2 => rfl
    | case3 => rfl

/-- A word is the whole text if it is the first one and no other comes after it. -/
theorem Rule.last_eq (kind : TokenKind) {v : List Char} (hv : splitWords v = [v])
    (h : splitWords text = w :: after) :
    Rule.last kind v text = if w = v ∧ after = [] then some (kind, w) else none := by
  by_cases hw : w = v ∧ after = []
  · obtain ⟨rfl, rfl⟩ := hw
    have htext : text = w := by simpa using (splitWords_eq_cons h).1
    rw [Rule.last, if_pos htext, if_pos ⟨rfl, rfl⟩]
  · have htext : text ≠ v := by
      rintro rfl
      rw [hv, List.cons.injEq] at h
      exact hw ⟨h.1.symm, h.2.symm⟩
    rw [Rule.last, if_neg htext, if_neg hw]

/-- Whichever rule finds a word, it is the first word of the text, with the kind that this has
before the others. No rule finds one where the first character is illegal. -/
theorem firstMatch?_cons {c : Char} {cs : List Char} (h : splitWords (c :: cs) = w :: after) :
    firstMatch? (c :: cs) = if isNameChar c then some (.of w after, w) else none := by
  have hw : w = c :: cs.takeWhile continuesWord := by
    rw [splitWords_cons] at h
    exact (List.cons.inj h).1.symm
  have horder := Rule.order_eq h
  have hasc := Rule.last_eq .asc (rfl : splitWords ['A', 's', 'c'] = _) h
  have hdesc := Rule.last_eq .desc (rfl : splitWords ['D', 'e', 's', 'c'] = _) h
  have hword : Rule.word (c :: cs) = if isNameChar c then some (.reserved w, w) else none := by
    rw [hw]
    rfl
  simp only [firstMatch?, rules, List.findSome?_cons, horder, hasc, hdesc, hword, TokenKind.of]
  by_cases hc : isNameChar c = true
  · rw [if_pos hc, if_pos hc]
    split_ifs <;> rfl
  -- The keywords begin with legal characters, so that no rule finds one of them here.
  · have hne : ∀ d ds, isNameChar d = true → w ≠ d :: ds := by
      rintro d ds hd rfl
      exact hc ((List.cons.inj hw).1 ▸ hd)
    simp [hc, hne 'O' _ rfl, hne 'A' _ rfl, hne 'D' _ rfl]

end

/-! ## Runs of the rules -/

/-- A run from anywhere in a name gives the words of the rest, unless this has an illegal
character. -/
theorem tokensFrom_eq (position : Nat) (cs : List Char) :
    tokensFrom position cs =
      match illegalFrom position cs with
      | some found => .error found
      | none => .ok (tokensOf position (splitWords cs)) := by
  fun_induction tokensFrom position cs with
  | case1 position => rfl
  | case2 position c cs hnone =>
    have hc : isNameChar c = false := by simpa [firstMatch?_cons (splitWords_cons c cs)] using hnone
    simp [illegalFrom, hc]
  | case3 position c cs kind w hfound ih =>
    have hsplit := splitWords_cons c cs
    rw [firstMatch?_cons hsplit, Option.ite_none_right_eq_some] at hfound
    obtain ⟨hc, hfound⟩ := hfound
    obtain ⟨rfl, rfl⟩ := Prod.mk.inj (Option.some.inj hfound)
    -- The rest of the run begins where the first word ends.
    have htext : c :: cs = (c :: cs.takeWhile continuesWord) ++ cs.dropWhile continuesWord := by
      rw [List.cons_append, List.takeWhile_append_dropWhile]
    have hlegal : ∀ d ∈ c :: cs.takeWhile continuesWord, isNameChar d = true :=
      List.forall_mem_cons.mpr ⟨hc, fun d hd => isNameChar_of_continuesWord
        (List.all_eq_true.mp List.all_takeWhile d hd)⟩
    rw [htext, List.drop_left] at ih
    rw [hsplit, tokensOf, htext, List.drop_left, ih, illegalFrom_append hlegal]
    cases illegalFrom (position + (c :: cs.takeWhile continuesWord).length)
      (cs.dropWhile continuesWord) <;> rfl

/-- The tokens of a name are its words with their kinds and positions, unless it has an illegal
character. -/
theorem tokenize_eq (name : String) :
    tokenize name =
      match illegalFrom 0 name.toList with
      | some found => .error found
      | none => .ok (tokensOf 0 (splitWords name.toList)) :=
  tokensFrom_eq 0 name.toList

end EntityMap.Method
