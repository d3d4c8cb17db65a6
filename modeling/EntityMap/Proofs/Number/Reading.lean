import Mathlib.Data.List.DropRight
import Mathlib.Tactic.IntervalCases
import EntityMap.Number.Numeral
import EntityMap.Proofs.Number.Rounding

/-!
# What is read as a number

Both readers look at what is between the blanks at the two ends, and take nothing there but ASCII
characters that occur in numerals (`IsReader`). The blanks of Unicode may therefore be stripped off
a text before it is read, or not (`IsReader.read_strip`). Only the information separators are
blanks that no reader takes for blanks (`IsReader.noSeparator`). A number that is read is in the
canonical form of the format, if it is finite (`isCanonical_of_readReal`).
-/

namespace EntityMap.Number

open Text

/-! ## Blanks at the two ends -/

section Trim

variable {p : Char → Bool}

theorem trim_append {before after : List Char} (hbefore : ∀ c ∈ before, p c = true)
    (hafter : ∀ c ∈ after, p c = true) (cs : List Char) :
    trim p (before ++ cs ++ after) = trim p cs := by
  unfold trim
  rw [List.append_assoc, List.dropWhile_append_of_pos hbefore, List.dropWhile_append]
  split
  · next hempty =>
    have hnil : after.dropWhile p = [] := by simpa using hafter
    rw [hnil, List.isEmpty_iff.mp hempty]
  · rw [List.reverse_append, List.dropWhile_append_of_pos (by simpa using hafter)]

theorem exists_append_trim (p : Char → Bool) (cs : List Char) : ∃ before after,
    cs = before ++ trim p cs ++ after
      ∧ (∀ c ∈ before, p c = true) ∧ ∀ c ∈ after, p c = true := by
  refine ⟨cs.takeWhile p, (cs.dropWhile p).rtakeWhile p, ?_,
    List.all_eq_true.mp List.all_takeWhile, fun c hc => List.mem_rtakeWhile_imp hc⟩
  have htrim : trim p cs = (cs.dropWhile p).rdropWhile p := rfl
  rw [htrim, List.append_assoc, List.rdropWhile_append_rtakeWhile,
    List.takeWhile_append_dropWhile]

end Trim

/-! ## The characters of numerals -/

/-- A blank, a letter, a digit, a sign, a point or an underscore. -/
def isNumeralChar (c : Char) : Bool :=
  isAsciiBlank c || c.isAlphanum || c ∈ ['+', '-', '.', '_']

/-- The characters occur in numerals. -/
def NumeralChars (cs : List Char) : Prop := ∀ c ∈ cs, isNumeralChar c = true

theorem numeralChars_nil : NumeralChars [] := nofun

theorem numeralChars_cons {c : Char} {cs : List Char} :
    NumeralChars (c :: cs) ↔ isNumeralChar c = true ∧ NumeralChars cs :=
  List.forall_mem_cons

theorem numeralChars_append {cs ds : List Char} :
    NumeralChars (cs ++ ds) ↔ NumeralChars cs ∧ NumeralChars ds :=
  List.forall_mem_append

theorem isDigit_eq (c : Char) : isDigit c = c.isDigit := by
  unfold isDigit asciiDigitValue? Char.isDigit
  split <;> simp_all [Char.le_def]

theorem numeralChars_of_digits {cs : List Char} (h : cs.all isDigit = true) : NumeralChars cs := by
  intro c hc
  have hdigit : c.isDigit = true := by
    rw [← isDigit_eq]
    exact List.all_eq_true.mp h c hc
  simp [isNumeralChar, Char.isAlphanum, hdigit]

theorem numeralChars_trim {cs : List Char} (h : NumeralChars (trim isAsciiBlank cs)) :
    NumeralChars cs := by
  obtain ⟨before, after, hcs, hbefore, hafter⟩ := exists_append_trim isAsciiBlank cs
  have hblank : ∀ c, isAsciiBlank c = true → isNumeralChar c = true := fun c hc => by
    simp [isNumeralChar, hc]
  rw [hcs, numeralChars_append, numeralChars_append]
  exact ⟨⟨fun c hc => hblank c (hbefore c hc), h⟩, fun c hc => hblank c (hafter c hc)⟩

theorem numeralChars_dropUnderscores {afterDigit : Bool} {cs ds : List Char}
    (hds : dropUnderscores afterDigit cs = some ds) (h : NumeralChars ds) : NumeralChars cs := by
  induction afterDigit, cs using dropUnderscores.induct generalizing ds with
  | case1 => exact numeralChars_nil
  | case2 => cases hds
  | case3 _ c hc =>
    rw [dropUnderscores, if_neg hc] at hds
    cases hds
    exact h
  | case4 _ d cs hdigit ih =>
    rw [dropUnderscores, if_pos rfl, if_pos hdigit] at hds
    exact numeralChars_cons.mpr ⟨rfl, ih hds h⟩
  | case5 _ d cs hdigit =>
    rw [dropUnderscores, if_pos rfl, if_neg hdigit] at hds
    cases hds
  | case6 _ c d cs hc ih =>
    rw [dropUnderscores, if_neg hc, Option.map_eq_some_iff] at hds
    obtain ⟨ds', hds', rfl⟩ := hds
    obtain ⟨hhead, htail⟩ := numeralChars_cons.mp h
    exact numeralChars_cons.mpr ⟨hhead, ih hds' htail⟩

theorem numeralChars_splitSign {cs : List Char} (h : NumeralChars (splitSign cs).2) :
    NumeralChars cs := by
  unfold splitSign at h
  split at h
  · exact numeralChars_cons.mpr ⟨rfl, h⟩
  · exact numeralChars_cons.mpr ⟨rfl, h⟩
  · exact h

theorem numeralChars_readExponent {cs : List Char} {e : Int} (he : readExponent cs = some e) :
    NumeralChars cs := by
  cases cs with
  | nil => exact numeralChars_nil
  | cons c cs =>
    rw [readExponent] at he
    split at he
    · next hc =>
      have hletter : isNumeralChar c = true := by
        rcases hc with rfl | rfl <;> rfl
      refine numeralChars_cons.mpr ⟨hletter, numeralChars_splitSign ?_⟩
      dsimp only at he
      split at he
      · cases he
      · next hdigits =>
        simp only [Bool.or_eq_true, Bool.not_eq_true', not_or, Bool.not_eq_false] at hdigits
        exact numeralChars_of_digits hdigits.2
    · cases he

theorem numeralChars_splitFraction {cs : List Char} (h : NumeralChars (splitFraction cs).2) :
    NumeralChars cs := by
  unfold splitFraction at h
  split at h
  · next cs =>
    refine numeralChars_cons.mpr ⟨rfl, ?_⟩
    rw [← List.takeWhile_append_dropWhile (p := isDigit) (l := cs), numeralChars_append]
    exact ⟨numeralChars_of_digits List.all_takeWhile, h⟩
  · exact h

theorem numeralChars_readDecimal {negative : Bool} {cs : List Char} {x : Binary64}
    (hx : readDecimal negative cs = some x) : NumeralChars cs := by
  rw [← List.takeWhile_append_dropWhile (p := isDigit) (l := cs), numeralChars_append]
  refine ⟨numeralChars_of_digits List.all_takeWhile, numeralChars_splitFraction ?_⟩
  unfold readDecimal at hx
  obtain ⟨e, he, -⟩ := Option.bind_eq_some_iff.mp hx
  exact numeralChars_readExponent he

theorem isAlpha_of_toLower {c : Char} (h : c.toLower.isAlpha = true) : c.isAlpha = true := by
  by_cases hc : c.val ≥ 'A'.val ∧ c.val ≤ 'Z'.val
  · exact Bool.or_eq_true_iff.mpr (.inl (decide_eq_true hc))
  · have hsame : c.toLower = c := dif_neg hc
    rwa [hsame] at h

theorem numeralChars_readSpecial {negative : Bool} {cs : List Char} {x : Binary64}
    (hx : readSpecial negative cs = some x) : NumeralChars cs := by
  have hname : cs.map Char.toLower ∈ ["inf".toList, "infinity".toList, "nan".toList] := by
    unfold readSpecial at hx
    dsimp only at hx
    split at hx
    · next h => rcases h with h | h <;> simp [h]
    split at hx
    · next h => simp [h]
    · cases hx
  have hletters : ∀ name ∈ ["inf".toList, "infinity".toList, "nan".toList],
      name.all Char.isAlpha = true := by decide
  intro c hc
  have hlower := List.all_eq_true.mp (hletters _ hname) _ (List.mem_map_of_mem hc)
  have hc := isAlpha_of_toLower hlower
  simp [isNumeralChar, Char.isAlphanum, hc]

/-! ## Readers -/

/-- A reader of numbers looks at what is between blanks, and takes only what occurs in numerals. -/
structure IsReader {α : Type} (read : List Char → Option α) : Prop where
  trims : ∀ {cs ds}, trim isAsciiBlank cs = trim isAsciiBlank ds → read cs = read ds
  numeralChars : ∀ {cs a}, read cs = some a → NumeralChars cs

theorem isReader_readInt : IsReader readInt where
  trims h := by
    unfold readInt
    rw [h]
  numeralChars := by
    intro cs i hi
    unfold readInt at hi
    obtain ⟨ds, hds, hi⟩ := Option.bind_eq_some_iff.mp hi
    refine numeralChars_trim (numeralChars_dropUnderscores hds (numeralChars_splitSign ?_))
    dsimp only at hi
    split at hi
    · cases hi
    · next hdigits =>
      simp only [Bool.or_eq_true, Bool.not_eq_true', not_or, Bool.not_eq_false] at hdigits
      exact numeralChars_of_digits hdigits.1.2

theorem isReader_readReal : IsReader readReal where
  trims h := by
    unfold readReal
    rw [h]
  numeralChars := by
    intro cs x hx
    unfold readReal at hx
    obtain ⟨ds, hds, hx⟩ := Option.bind_eq_some_iff.mp hx
    refine numeralChars_trim (numeralChars_dropUnderscores hds (numeralChars_splitSign ?_))
    rcases Option.or_eq_some_iff.mp hx with hx | ⟨-, hx⟩
    · exact numeralChars_readSpecial hx
    · exact numeralChars_readDecimal hx

/-- A blank that separates units of information. -/
def isSeparator (c : Char) : Bool := c ∈ ['\x1c', '\x1d', '\x1e', '\x1f']

/-- The text holds none of the separators. -/
def NoSeparator (s : String) : Prop := ∀ c ∈ s.toList, isSeparator c = false

/-- Blanks of every kind but the separators become blanks that a reader knows. -/
theorem isAsciiBlank_asciiNumeralChar {c : Char} (hblank : isBlank c = true)
    (hseparator : isSeparator c = false) : isAsciiBlank (asciiNumeralChar c) = true := by
  unfold asciiNumeralChar
  split
  · next hascii =>
    have hrange : 9 ≤ c.toNat ∧ c.toNat ≤ 13 ∨ 28 ≤ c.toNat ∧ c.toNat ≤ 32 := by
      simp [isBlank, blanks] at hblank
      omega
    generalize hn : c.toNat = n at hrange
    obtain rfl : c = Char.ofNat n := by rw [← hn, Char.ofNat_toNat]
    obtain ⟨hlow, hhigh⟩ | ⟨hlow, hhigh⟩ := hrange <;> interval_cases n <;>
      first | rfl | cases hseparator
  · rfl

namespace IsReader

variable {α : Type} {read : List Char → Option α}

theorem eq_none (hread : IsReader read) {c : Char} {cs : List Char} (hc : c ∈ cs)
    (hnot : isNumeralChar c = false) : read cs = none := by
  rw [Option.eq_none_iff_forall_ne_some]
  intro a ha
  have hnumeral := hread.numeralChars ha c hc
  rw [hnot] at hnumeral
  cases hnumeral

/-- What is brought to ASCII is read as if this were done to all characters. -/
theorem read_asciiNumeral (hread : IsReader read) (cs : List Char) :
    read (asciiNumeral cs) = read (cs.map asciiNumeralChar) := by
  unfold asciiNumeral
  split
  · next hascii =>
    -- Only the last character of ASCII would not stay as it is.
    by_cases hdelete : '\x7f' ∈ cs
    · rw [hread.eq_none hdelete rfl, hread.eq_none (List.mem_map_of_mem hdelete) rfl]
    · have hsame : ∀ c ∈ cs, asciiNumeralChar c = id c := by
        intro c hc
        have hrange : c.toNat < 128 := by simpa using List.all_eq_true.mp hascii c hc
        have hlast : c.toNat ≠ 127 := by
          rintro h
          obtain rfl : c = '\x7f' := Char.toNat_inj.mp h
          exact hdelete hc
        exact if_pos (by omega)
      rw [List.map_congr_left hsame, List.map_id]
  · rfl

/-- A text with a separator is no number. -/
theorem noSeparator (hread : IsReader read) {s : String} {a : α}
    (ha : read (asciiNumeral s.toList) = some a) : NoSeparator s := by
  intro c hc
  by_contra hseparator
  rw [hread.read_asciiNumeral, hread.eq_none (List.mem_map_of_mem hc)] at ha
  · cases ha
  · simp only [isSeparator, List.mem_cons, List.not_mem_nil, or_false, decide_eq_true_eq,
      Bool.not_eq_false] at hseparator
    rcases hseparator with rfl | rfl | rfl | rfl <;> rfl

/-- The other blanks may be stripped off. -/
theorem read_strip (hread : IsReader read) {s : String} (hs : NoSeparator s) :
    read (asciiNumeral (strip s).toList) = read (asciiNumeral s.toList) := by
  obtain ⟨before, after, hcs, hbefore, hafter⟩ := exists_append_trim isBlank s.toList
  have hblanks : ∀ ds ⊆ s.toList, (∀ c ∈ ds, isBlank c = true) →
      ∀ c ∈ ds.map asciiNumeralChar, isAsciiBlank c = true := by
    intro ds hsubset hblank c hc
    obtain ⟨d, hd, rfl⟩ := List.mem_map.mp hc
    exact isAsciiBlank_asciiNumeralChar (hblank d hd) (hs d (hsubset hd))
  have hfirst := hblanks before (by rw [hcs]; simp) hbefore
  have hlast := hblanks after (by rw [hcs]; simp) hafter
  rw [strip, String.toList_ofList, hread.read_asciiNumeral, hread.read_asciiNumeral]
  conv_rhs => rw [hcs, List.map_append, List.map_append]
  exact hread.trims (trim_append hfirst hlast _).symm

end IsReader

/-! ## Numbers that are read -/

/-- The number is in the canonical form of the format, or it is not finite. -/
inductive IsCanonical : Binary64 → Prop
  | nan : IsCanonical .nan
  | infinite (negative : Bool) : IsCanonical (.infinite negative)
  | finite {m : Nat} {e : Int} (negative : Bool) (h : Binary64.Canonical m e) :
    IsCanonical (.finite negative m e)

theorem isCanonical_zero (negative : Bool) : IsCanonical (.zero negative) :=
  .finite negative Binary64.canonical_zero

theorem isCanonical_ofMagnitude (negative : Bool) {q : ℚ} (hq : 0 ≤ q) :
    IsCanonical (.ofMagnitude negative q) := by
  rcases Binary64.ofMagnitude_cases negative hq with h | ⟨m, e, h, hm⟩
  · exact h ▸ .infinite negative
  · exact h ▸ .finite negative hm

theorem isCanonical_ofDecimal (negative : Bool) (digits count : Nat) (exponent : Int) :
    IsCanonical (ofDecimal negative digits count exponent) := by
  unfold ofDecimal
  split
  · exact isCanonical_zero negative
  split
  · exact .infinite negative
  split
  · exact isCanonical_zero negative
  · refine isCanonical_ofMagnitude negative (mul_nonneg (Nat.cast_nonneg digits) ?_)
    rw [tenPow_eq]
    exact zpow_nonneg (by norm_num) exponent

theorem isCanonical_of_readSpecial {negative : Bool} {cs : List Char} {x : Binary64}
    (hx : readSpecial negative cs = some x) : IsCanonical x := by
  unfold readSpecial at hx
  dsimp only at hx
  split at hx
  · cases hx
    exact .infinite negative
  split at hx
  · cases hx
    exact .nan
  · cases hx

theorem isCanonical_of_readDecimal {negative : Bool} {cs : List Char} {x : Binary64}
    (hx : readDecimal negative cs = some x) : IsCanonical x := by
  unfold readDecimal at hx
  obtain ⟨e, -, hx⟩ := Option.bind_eq_some_iff.mp hx
  obtain ⟨-, hx⟩ := Option.ite_none_left_eq_some.mp hx
  cases hx
  exact isCanonical_ofDecimal ..

theorem isCanonical_of_readReal {cs : List Char} {x : Binary64} (hx : readReal cs = some x) :
    IsCanonical x := by
  unfold readReal at hx
  obtain ⟨ds, -, hx⟩ := Option.bind_eq_some_iff.mp hx
  rcases Option.or_eq_some_iff.mp hx with hx | ⟨-, hx⟩
  · exact isCanonical_of_readSpecial hx
  · exact isCanonical_of_readDecimal hx

end EntityMap.Number
