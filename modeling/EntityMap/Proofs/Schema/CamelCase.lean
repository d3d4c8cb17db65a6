import EntityMap.Proofs.Method.SetFields
import EntityMap.Schema.Entity

/-!
# Fields in camel case

A method name has the fields in camel case, and all its letters are ASCII letters. The key of a text
of ASCII characters is what it has besides underscores, in small letters (`fieldKey_of_ascii`). So a
field has the key of its form in camel case (`fieldKey_camelCase`), and it does not matter for the
key that the first letter of a field is made small when a name is read (`fieldKey_name`).
-/

namespace EntityMap

open Method

/-! ## ASCII characters -/

/-- A property of all ASCII characters, by value. -/
theorem ascii_forall {P : Char → Prop} (h : ∀ n < 128, P (Char.ofNat n)) {c : Char}
    (hc : c.toNat < 128) : P c := by
  rw [← Char.ofNat_toNat c]
  exact h c.toNat hc

/-- A large letter is a small one for the key, and no underscore comes of a letter. -/
theorem toLower_toUpper_of_ascii {c : Char} (hc : c.toNat < 128) :
    c.toUpper.toNat < 128 ∧ c.toUpper.toLower = c.toLower ∧ (c.toUpper = '_' ↔ c = '_') :=
  ascii_forall (P := fun c => c.toUpper.toNat < 128 ∧ c.toUpper.toLower = c.toLower
    ∧ (c.toUpper = '_' ↔ c = '_')) (by decide) hc

theorem toLower_of_isUpper {c : Char} (hc : c.toNat < 128) (hupper : c.isUpper = true) :
    c ≠ '_' ∧ c.toLower ≠ '_' ∧ c.toLower.toNat < 128 ∧ c.toLower.toLower = c.toLower :=
  ascii_forall (P := fun c => c.isUpper = true →
    c ≠ '_' ∧ c.toLower ≠ '_' ∧ c.toLower.toNat < 128 ∧ c.toLower.toLower = c.toLower)
    (by decide) hc hupper

theorem toNat_lt_of_isNameChar {c : Char} (h : isNameChar c = true) : c.toNat < 128 := by
  have hlower : c.isLower = (decide ('a'.val ≤ c.val) && decide (c.val ≤ 'z'.val)) := rfl
  have hdigit : c.isDigit = (decide ('0'.val ≤ c.val) && decide (c.val ≤ '9'.val)) := rfl
  have hnat : c.toNat = c.val.toNat := rfl
  by_cases hunderscore : c = '_'
  · subst hunderscore
    decide
  · rw [isNameChar, Bool.or_eq_true, isUpper_iff] at h
    simp [continuesWord, hlower, hdigit, hunderscore, UInt32.le_iff_toNat_le] at h
    omega

/-! ## Keys -/

theorem lowerFrom_of_ascii {before cs : List Char} (h : ∀ c ∈ cs, c.toNat < 128) :
    Text.lowerFrom before cs = cs.map Char.toLower := by
  induction cs generalizing before with
  | nil => rfl
  | cons c cs ih =>
    obtain ⟨hc, hcs⟩ := List.forall_mem_cons.mp h
    have hsigma : c ≠ 'Σ' := by
      rintro rfl
      exact absurd hc (by decide)
    have hlower : Text.lowerChar c = [c.toLower] := if_pos hc
    rw [Text.lowerFrom, ih hcs, hlower]
    simp [hsigma]

theorem fieldKey_of_ascii {cs : List Char} (h : ∀ c ∈ cs, c.toNat < 128) :
    fieldKey (String.ofList cs) = String.ofList ((cs.filter (· ≠ '_')).map Char.toLower) := by
  rw [fieldKey, Text.lower, String.toList_ofList, String.toList_ofList,
    lowerFrom_of_ascii fun c hc => h c (List.mem_of_mem_filter hc)]

/-- The name that is read has the key of the text that is written. -/
theorem fieldKey_name (f : FieldPhrase) : fieldKey f.name = fieldKey f.text := by
  have hname : ∀ c ∈ charsOf f.words, c.toNat < 128 := fun c hc =>
    toNat_lt_of_isNameChar (isNameChar_charsOf hc)
  have hchars : charsOf f.words = f.first.initial :: (f.first.rest ++ charsOf f.more) := rfl
  rw [hchars] at hname
  obtain ⟨hinitial, hrest⟩ := List.forall_mem_cons.mp hname
  obtain ⟨hne, hlowerNe, hlower, htwice⟩ := toLower_of_isUpper hinitial f.first.initial_isUpper
  rw [FieldPhrase.name, FieldPhrase.text, hchars, fieldKey_of_ascii hname,
    fieldKey_of_ascii (List.forall_mem_cons.mpr ⟨hlower, hrest⟩)]
  simp [hne, hlowerNe, htwice]

/-! ## Camel case -/

/-- Characters in camel case : without underscores, and large where a word begins. -/
def camelChars : Bool → List Char → List Char
  | _, [] => []
  | begins, c :: cs =>
    if c = '_' then camelChars true cs
    else (if begins then c.toUpper else c) :: camelChars false cs

/-- The name of a field in camel case. -/
def camelCase (field : String) : String := String.ofList (camelChars true field.toList)

theorem camelChars_of_ascii {cs : List Char} (h : ∀ c ∈ cs, c.toNat < 128) (begins : Bool) :
    (∀ c ∈ camelChars begins cs, c.toNat < 128)
      ∧ ((camelChars begins cs).filter (· ≠ '_')).map Char.toLower
        = (cs.filter (· ≠ '_')).map Char.toLower := by
  induction cs generalizing begins with
  | nil => simp [camelChars]
  | cons c cs ih =>
    obtain ⟨hc, hcs⟩ := List.forall_mem_cons.mp h
    by_cases hunderscore : c = '_'
    · simpa [camelChars, hunderscore] using ih hcs true
    · obtain ⟨hrest, hkey⟩ := ih hcs false
      obtain ⟨hupper, hlower, hne⟩ := toLower_toUpper_of_ascii hc
      simp only [camelChars, if_neg hunderscore]
      cases begins with
      | false =>
        refine ⟨List.forall_mem_cons.mpr ⟨hc, hrest⟩, ?_⟩
        simpa [hunderscore] using hkey
      | true =>
        refine ⟨List.forall_mem_cons.mpr ⟨hupper, hrest⟩, ?_⟩
        simpa [hunderscore, hne, hlower] using hkey

/-- A field has the key of its form in camel case. -/
theorem fieldKey_camelCase {field : String} (h : ∀ c ∈ field.toList, c.toNat < 128) :
    fieldKey (camelCase field) = fieldKey field := by
  obtain ⟨hascii, hkey⟩ := camelChars_of_ascii h true
  rw [camelCase, fieldKey_of_ascii hascii, hkey, ← fieldKey_of_ascii h, String.ofList_toList]

end EntityMap
