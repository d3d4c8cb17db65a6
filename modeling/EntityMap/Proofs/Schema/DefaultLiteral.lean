import EntityMap.Proofs.Number.Reading
import EntityMap.Proofs.Result
import EntityMap.Proofs.Sql.NumericLiteral
import EntityMap.Schema.Default

/-!
# Defaults as literals and as values

The default of a column is read twice: as the literal that stands after `DEFAULT` in the definition
of its table, and as the value that a stand-in carries. For a column of numbers the literal is a
number of SQL with the value that was read (`default_isNumber_iff`), except for infinity and the
value that is no number, which are accepted and printed as names. What is parsed for a stand-in is
what the column gives for the value of its literal (`default_agrees_iff`), with two exceptions
more. The number of a timestamp is not parsed as the moment that is read from a column. And the
separators among the blanks are stripped off a number before it becomes a literal, but not before
it is parsed.
-/

namespace EntityMap

open Number Text

/-! ## Literals -/

/-- Columns of this type have numbers for defaults. -/
def SemanticType.IsNumeric (type : SemanticType) : Prop := type.isIntegral = true ∨ type = .real

/-- How the numbers that are not finite are printed. -/
def nonFiniteNames : List String := ["nan", "inf", "-inf"]

/-- What a literal was made from. -/
def Literal.value : Literal → Value
  | .text s => .text s
  | .int i => .int i
  | .real x => .real x

variable {column value : String} {type : SemanticType} {l : Literal}

theorem Literal.ofDefault_integral (htype : type.isIntegral = true) :
    Literal.ofDefault column type value = .ok l
      ↔ ∃ i, intOfText? (strip value) = some i ∧ l = .int i := by
  unfold Literal.ofDefault
  generalize intOfText? (strip value) = read
  cases read with
  | none => cases type <;> cases htype <;> simp
  | some i => cases type <;> cases htype <;> simp [eq_comm]

theorem Literal.ofDefault_real : Literal.ofDefault column .real value = .ok l
    ↔ ∃ x, realOfText? (strip value) = some x ∧ l = .real x := by
  unfold Literal.ofDefault
  generalize realOfText? (strip value) = read
  cases read with
  | none => simp
  | some x => simp [eq_comm]

theorem Literal.eq_of_ofDefault_boolean (h : Literal.ofDefault column .boolean value = .ok l) :
    ∃ b : Bool, l = .int (if b then 1 else 0) ∧ (b = true ↔ lower (strip value) ∈ trueWords) := by
  unfold Literal.ofDefault at h
  dsimp only at h
  by_cases htrue : lower (strip value) ∈ trueWords
  · rw [if_pos htrue] at h
    cases h
    exact ⟨true, rfl, by simpa using htrue⟩
  · rw [if_neg htrue] at h
    by_cases hfalse : lower (strip value) ∈ falseWords
    · rw [if_pos hfalse] at h
      cases h
      exact ⟨false, rfl, by simpa using htrue⟩
    · rw [if_neg hfalse] at h
      cases h

theorem literalValue_int (i : Int) : LiteralValue (Literal.int i).sql (.int i) := by
  obtain ⟨n, htext, hvalue⟩ := exists_literal_of_int i
  show LiteralValue (toString i) (.int i)
  rw [← htext, ← hvalue]
  exact .number n

/-- A number that is read is printed as a number with its value, unless it is not finite. -/
theorem exists_literal_or_nonFinite {cs : List Char} {x : Binary64} (hx : readReal cs = some x) :
    (∃ n : NumericLiteral, n.text = x.text ∧ n.value = .real x) ∨ x.text ∈ nonFiniteNames := by
  cases isCanonical_of_readReal hx with
  | nan => exact .inr (by decide)
  | infinite negative =>
    right
    cases negative <;> decide
  | finite negative hm => exact .inl (exists_literal_of_real hm)

/-- The literal of a default stands for what it was made from, or it is the name of a number that
is not finite. -/
theorem Literal.literalValue_or_nonFinite (h : Literal.ofDefault column type value = .ok l) :
    LiteralValue l.sql l.value ∨ type = .real ∧ l.sql ∈ nonFiniteNames := by
  cases htype : type with
  | text =>
    subst htype
    cases h
    exact .inl (.text value)
  | blob =>
    subst htype
    cases h
  | boolean =>
    obtain ⟨b, rfl, -⟩ := Literal.eq_of_ofDefault_boolean (htype ▸ h)
    exact .inl (literalValue_int _)
  | real =>
    obtain ⟨x, hx, rfl⟩ := Literal.ofDefault_real.mp (htype ▸ h)
    rcases exists_literal_or_nonFinite hx with ⟨n, htext, hvalue⟩ | hname
    · left
      show LiteralValue x.text (.real x)
      rw [← htext, ← hvalue]
      exact .number n
    · exact .inr ⟨rfl, hname⟩
  | integer | bigint | timestamp | entity =>
    obtain ⟨i, -, rfl⟩ := (Literal.ofDefault_integral (htype ▸ rfl)).mp h
    exact .inl (literalValue_int i)

/-- No literal of SQL is the name of a number that is not finite. -/
theorem not_literalValue_of_nonFinite {s : String} {v : Value} (hs : s ∈ nonFiniteNames) :
    ¬LiteralValue s v := by
  intro h
  cases h with
  | text t =>
    have hmark : ∀ name ∈ nonFiniteNames, name.toList.head? ≠ some '\'' := by decide
    refine hmark _ hs ?_
    rw [stringLiteral, String.toList_ofList]
    rfl
  | number n => exact n.text_not_special hs

theorem Literal.literalValue_iff (h : Literal.ofDefault column type value = .ok l) {v : Value} :
    LiteralValue l.sql v ↔ v = l.value ∧ ¬(type = .real ∧ l.sql ∈ nonFiniteNames) := by
  constructor
  · intro hv
    have hfinite : ¬(type = .real ∧ l.sql ∈ nonFiniteNames) := fun hname =>
      not_literalValue_of_nonFinite hname.2 hv
    exact ⟨hv.unique ((Literal.literalValue_or_nonFinite h).resolve_right hfinite), hfinite⟩
  · rintro ⟨rfl, hfinite⟩
    exact (Literal.literalValue_or_nonFinite h).resolve_right hfinite

/-- The default of a column of numbers is a numeric literal, unless it is the name of a number
that is not finite. -/
theorem default_isNumber_iff (htype : type.IsNumeric)
    (h : Literal.ofDefault column type value = .ok l) :
    (∃ n : NumericLiteral, l.sql = n.text) ↔ ¬(type = .real ∧ l.sql ∈ nonFiniteNames) := by
  constructor
  · rintro ⟨n, hn⟩ hname
    exact n.text_not_special (hn ▸ hname.2)
  · intro hfinite
    have hvalue := (Literal.literalValue_or_nonFinite h).resolve_right hfinite
    generalize hsql : l.sql = s at hvalue
    generalize hv : l.value = v at hvalue
    cases hvalue with
    | number n => exact ⟨n, rfl⟩
    | text t =>
      rcases htype with htype | rfl
      · obtain ⟨i, -, rfl⟩ := (Literal.ofDefault_integral htype).mp h
        cases hv
      · obtain ⟨x, -, rfl⟩ := Literal.ofDefault_real.mp h
        cases hv

theorem default_isNumber_iff_width :
    ∃ n : NumericLiteral, (Literal.real (.finite false (5 * 2 ^ 50) (-51))).sql = n.text := by
  have h : Literal.ofDefault "width" .real " 2.50 "
      = .ok (.real (.finite false (5 * 2 ^ 50) (-51))) := by decide +kernel
  exact (default_isNumber_iff (.inr rfl) h).mpr (by decide +kernel)

/-- The value that is no number and infinity are accepted, and so is a number that is too large. -/
theorem default_names_nonFinite :
    (Literal.ofDefault "width" .real "nan" = .ok (.real .nan)
      ∧ ¬∃ n : NumericLiteral, (Literal.real .nan).sql = n.text)
    ∧ (Literal.ofDefault "width" .real "-inf" = .ok (.real (.infinite true))
      ∧ ¬∃ n : NumericLiteral, (Literal.real (.infinite true)).sql = n.text)
    ∧ Literal.ofDefault "width" .real "1e400" = .ok (.real (.infinite false))
      ∧ ¬∃ n : NumericLiteral, (Literal.real (.infinite false)).sql = n.text := by
  have hname : ∀ x : Binary64, x.text ∈ nonFiniteNames →
      ¬∃ n : NumericLiteral, (Literal.real x).sql = n.text :=
    fun x hx ⟨n, hn⟩ => n.text_not_special (hn ▸ hx)
  exact ⟨⟨rfl, hname _ (by decide)⟩, ⟨rfl, hname _ (by decide)⟩, rfl, hname _ (by decide)⟩

/-! ## Values -/

theorem parseDefault_integral (htype : type.isIntegral = true) {v : Value} :
    parseDefault column type value = .ok v ↔ ∃ i, intOfText? value = some i ∧ v = .int i := by
  unfold parseDefault
  generalize intOfText? value = read
  cases read with
  | none => cases type <;> cases htype <;> simp
  | some i => cases type <;> cases htype <;> simp [eq_comm]

theorem parseDefault_real {v : Value} :
    parseDefault column .real value = .ok v ↔ ∃ x, realOfText? value = some x ∧ v = .real x := by
  unfold parseDefault
  generalize realOfText? value = read
  cases read with
  | none => simp
  | some x => simp [eq_comm]

variable (entity : Nat → String)

theorem parse_agrees_of_integral (htype : type.isIntegral = true)
    (h : Literal.ofDefault column type value = .ok l) :
    (∃ v, parseDefault column type value = .ok v ∧ Value.ofStored entity type l.value = .ok v)
      ↔ type ≠ .timestamp ∧ NoSeparator value := by
  obtain ⟨i, hi, rfl⟩ := (Literal.ofDefault_integral htype).mp h
  constructor
  · rintro ⟨v, hparse, hstored⟩
    obtain ⟨j, hj, rfl⟩ := (parseDefault_integral htype).mp hparse
    refine ⟨?_, isReader_readInt.noSeparator hj⟩
    -- A moment is read from the number of a timestamp.
    rintro rfl
    obtain ⟨t, -, ht⟩ := Except.map_eq_ok.mp hstored
    cases ht
  · rintro ⟨htimestamp, hseparator⟩
    have hi' : intOfText? value = some i := by
      rw [← hi]
      exact (isReader_readInt.read_strip hseparator).symm
    refine ⟨.int i, (parseDefault_integral htype).mpr ⟨i, hi', rfl⟩, ?_⟩
    cases type <;> cases htype <;> first | rfl | exact absurd rfl htimestamp

theorem parse_agrees_of_real (h : Literal.ofDefault column .real value = .ok l) :
    (∃ v, parseDefault column .real value = .ok v ∧ Value.ofStored entity .real l.value = .ok v)
      ↔ NoSeparator value := by
  obtain ⟨x, hx, rfl⟩ := Literal.ofDefault_real.mp h
  constructor
  · rintro ⟨v, hparse, -⟩
    obtain ⟨y, hy, -⟩ := parseDefault_real.mp hparse
    exact isReader_readReal.noSeparator hy
  · intro hseparator
    have hx' : realOfText? value = some x := by
      rw [← hx]
      exact (isReader_readReal.read_strip hseparator).symm
    exact ⟨.real x, parseDefault_real.mpr ⟨x, hx', rfl⟩, rfl⟩

theorem parse_agrees_of_boolean (h : Literal.ofDefault column .boolean value = .ok l) :
    ∃ v, parseDefault column .boolean value = .ok v
      ∧ Value.ofStored entity .boolean l.value = .ok v := by
  obtain ⟨b, rfl, hb⟩ := Literal.eq_of_ofDefault_boolean h
  refine ⟨.bool b, ?_, ?_⟩
  · show Except.ok (Value.bool (decide (lower (strip value) ∈ trueWords))) = _
    rw [Bool.eq_iff_iff.mpr (decide_eq_true_iff.trans hb.symm)]
  · cases b <;> rfl

/-- A default is parsed as the value that its literal is read back as. The exceptions are
timestamps, whose number is not parsed as a moment, and numbers with a separator at one of their
ends, which is stripped off only for the literal. -/
theorem parse_agrees_iff (h : Literal.ofDefault column type value = .ok l) :
    (∃ v, parseDefault column type value = .ok v ∧ Value.ofStored entity type l.value = .ok v)
      ↔ type ≠ .timestamp ∧ (type.IsNumeric → NoSeparator value) := by
  by_cases hintegral : type.isIntegral = true
  · rw [parse_agrees_of_integral entity hintegral h, forall_prop_of_true (.inl hintegral)]
  cases htype : type with
  | integer | bigint | timestamp | entity => exact absurd (htype ▸ rfl) hintegral
  | real =>
    subst htype
    rw [parse_agrees_of_real entity h, forall_prop_of_true (.inr rfl)]
    exact (and_iff_right nofun).symm
  | boolean =>
    subst htype
    exact iff_of_true (parse_agrees_of_boolean entity h) ⟨nofun, by rintro (⟨⟨⟩⟩ | ⟨⟨⟩⟩)⟩
  | text =>
    subst htype
    cases h
    exact iff_of_true ⟨.text value, rfl, rfl⟩ ⟨nofun, by rintro (⟨⟨⟩⟩ | ⟨⟨⟩⟩)⟩
  | blob =>
    subst htype
    cases h

/-- A default is parsed as the value that its column gives for the value of its literal. The
exceptions are timestamps, numbers with separators among their blanks, and the names of numbers that
are not finite, for which no literal stands. -/
theorem default_agrees_iff (h : Literal.ofDefault column type value = .ok l) :
    (∃ w v, parseDefault column type value = .ok w ∧ LiteralValue l.sql v
        ∧ Value.ofStored entity type v = .ok w)
      ↔ type ≠ .timestamp ∧ (type.IsNumeric → NoSeparator value)
        ∧ ¬(type = .real ∧ l.sql ∈ nonFiniteNames) := by
  rw [← and_assoc, ← parse_agrees_iff entity h]
  constructor
  · rintro ⟨w, v, hparse, hliteral, hstored⟩
    obtain ⟨rfl, hfinite⟩ := (Literal.literalValue_iff h).mp hliteral
    exact ⟨⟨w, hparse, hstored⟩, hfinite⟩
  · rintro ⟨⟨w, hparse, hstored⟩, hfinite⟩
    exact ⟨w, l.value, hparse, (Literal.literalValue_iff h).mpr ⟨rfl, hfinite⟩, hstored⟩

theorem default_agrees_iff_width : ∃ w v, parseDefault "width" .real " 2.50 " = .ok w
    ∧ LiteralValue (Literal.real (.finite false (5 * 2 ^ 50) (-51))).sql v
    ∧ Value.ofStored (fun _ => "") .real v = .ok w := by
  refine (default_agrees_iff (fun _ => "") (by decide +kernel)).mpr ⟨nofun, fun _ => ?_, ?_⟩
  · have hchars : " 2.50 ".toList.all (fun c => !isSeparator c) = true := rfl
    intro c hc
    simpa using List.all_eq_true.mp hchars c hc
  · decide +kernel

/-- One second after the beginning of 1970 is parsed as a number, and a separator before a number
is no blank for the parser. -/
theorem default_disagrees :
    (Literal.ofDefault "day" .timestamp "1000" = .ok (.int 1000)
      ∧ LiteralValue (Literal.int 1000).sql (.int 1000)
      ∧ Value.ofStored (fun _ => "") .timestamp (.int 1000) = .ok (.moment ⟨1000000, none⟩)
      ∧ parseDefault "day" .timestamp "1000" = .ok (.int 1000))
    ∧ Literal.ofDefault "size" .integer "\x1c5" = .ok (.int 5)
      ∧ LiteralValue (Literal.int 5).sql (.int 5)
      ∧ Value.ofStored (fun _ => "") .integer (.int 5) = .ok (.int 5)
      ∧ parseDefault "size" .integer "\x1c5" = .error (.invalidDefault "size" "\x1c5") := by
  have hday : Value.toMoment (.int 1000) = .ok ⟨1000000, none⟩ := by decide +kernel
  exact ⟨⟨rfl, literalValue_int 1000, congrArg (Except.map Value.moment) hday, rfl⟩,
    rfl, literalValue_int 5, rfl, rfl⟩

end EntityMap
