import Mathlib.Algebra.Order.Field.Power
import Mathlib.Data.List.DropRight
import Mathlib.Data.Rat.Floor
import Mathlib.Tactic.Ring
import EntityMap.Number.Decimal

/-!
# The value of a decimal

Digits are read with the most significant one first. The zeros that `Decimal.ofNat` leaves off at
the end are made up for by the place of the point, so the decimal of a natural number times a power
of ten has that value.
-/

namespace EntityMap.Number

/-! ## Digits -/

/-- The number that a list of digits writes. -/
def digitsValue (cs : List Char) : Nat := Nat.ofDigitChars 10 cs 0

theorem digitsValue_append (cs ds : List Char) :
    digitsValue (cs ++ ds) = digitsValue cs * 10 ^ ds.length + digitsValue ds := by
  unfold digitsValue
  rw [Nat.ofDigitChars_append, Nat.ofDigitChars_eq_ofDigitChars_zero, mul_comm]

theorem length_zeros (n : Nat) : (zeros n).length = n := List.length_replicate

theorem digitsValue_append_zeros (cs : List Char) (n : Nat) :
    digitsValue (cs ++ zeros n) = digitsValue cs * 10 ^ n := by
  have hzeros : digitsValue (zeros n) = 0 := by simp [digitsValue, zeros]
  rw [digitsValue_append, hzeros, length_zeros, add_zero]

theorem digitsValue_zeros_append (n : Nat) (cs : List Char) :
    digitsValue (zeros n ++ cs) = digitsValue cs := by
  rw [digitsValue_append, ← List.nil_append (zeros n), digitsValue_append_zeros]
  simp [digitsValue]

theorem digitsValue_natDigits (n : Nat) : digitsValue (natDigits n) = n := by
  simp [digitsValue, natDigits]

theorem natDigits_ne_nil (n : Nat) : natDigits n ≠ [] := by
  simp [natDigits]

/-! ## Decimals -/

/-- The value of a decimal. -/
def Decimal.value (d : Decimal) : ℚ := digitsValue d.digits * 10 ^ (d.point - d.digits.length)

/-- The digits of a natural number, as those of its decimal and zeros after them. -/
theorem natDigits_eq_append_zeros (n : Nat) (x : Int) :
    ∃ t, natDigits n = (Decimal.ofNat n x).digits ++ zeros t := by
  have hzeros : (natDigits n).rtakeWhile (· = '0')
      = zeros ((natDigits n).rtakeWhile (· = '0')).length := by
    refine List.eq_replicate_of_mem fun c hc => ?_
    simpa using List.mem_rtakeWhile_imp hc
  refine ⟨((natDigits n).rtakeWhile (· = '0')).length, ?_⟩
  rw [← hzeros]
  exact (List.rdropWhile_append_rtakeWhile ..).symm

theorem Decimal.value_ofNat (n : Nat) (x : Int) : (Decimal.ofNat n x).value = n * 10 ^ x := by
  obtain ⟨t, ht⟩ := natDigits_eq_append_zeros n x
  have hvalue : n = digitsValue (Decimal.ofNat n x).digits * 10 ^ t := by
    rw [← digitsValue_append_zeros, ← ht, digitsValue_natDigits]
  have hpoint : (Decimal.ofNat n x).point - (Decimal.ofNat n x).digits.length = t + x := by
    have h : (Decimal.ofNat n x).point = (natDigits n).length + x := rfl
    rw [h, ht, List.length_append, length_zeros]
    push_cast
    ring
  have hcast : (n : ℚ) = digitsValue (Decimal.ofNat n x).digits * 10 ^ t := by
    exact_mod_cast hvalue
  rw [Decimal.value, hpoint, zpow_add₀ (by norm_num), zpow_natCast, ← mul_assoc, ← hcast]

/-- A positive number has a digit. -/
theorem Decimal.ofNat_ne_nil {n : Nat} (hn : 0 < n) (x : Int) :
    (Decimal.ofNat n x).digits ≠ [] := by
  intro hnil
  have hvalue := value_ofNat n x
  rw [Decimal.value, hnil] at hvalue
  have hzero : (n : ℚ) * 10 ^ x = 0 := by
    rw [← hvalue]
    simp [digitsValue]
  have hpos : (0 : ℚ) < n * 10 ^ x :=
    mul_pos (by exact_mod_cast hn) (zpow_pos (by norm_num) x)
  exact hpos.ne' hzero

end EntityMap.Number
