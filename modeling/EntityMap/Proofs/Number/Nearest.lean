import EntityMap.Proofs.Number.Rounding

/-!
# The distance to the nearest number

Rounding moves a rational by at most half of its grid (`abs_ofRat_sub_le`), and integers of at most
53 bits are not moved at all (`toRat_ofInt`). These two bound the error of a chain of operations.
-/

namespace EntityMap.Number

namespace Binary64

/-- Bringing a mantissa in range does not change the value. -/
theorem exists_ofRounded (negative : Bool) (m : Nat) {e : Int} (he : e + 1 ≤ maxExponent) :
    ∃ m' e', ofRounded negative m e = .finite negative m' e'
      ∧ (m' * 2 ^ e' : ℚ) = m * 2 ^ e := by
  by_cases hcarry : m = 2 ^ 53
  · subst hcarry
    refine ⟨_, _, ofRounded_carry negative he, ?_⟩
    rw [zpow_add_one₀ two_ne_zero]
    push_cast
    ring
  · unfold ofRounded
    rw [if_neg (by simpa [Nat.pow_eq] using hcarry)]
    exact ⟨m, e, if_neg (by omega), rfl⟩

/-- The value of the number nearest to a positive rational, on the grid of its exponent. -/
theorem exists_ofMagnitude (negative : Bool) {q : ℚ} {k : Int} (hq : 0 < q) (hk : q < 2 ^ k)
    (hlow : -1021 ≤ k) (hhigh : k ≤ 1023) :
    ∃ m e g, ofMagnitude negative q = .finite negative m e
      ∧ (m * 2 ^ e : ℚ) = roundEven (q / 2 ^ g) * 2 ^ g
      ∧ g ≤ k - 53 := by
  have hexponent : binaryExponent q < k :=
    (zpow_lt_zpow_iff_right₀ one_lt_two).mp ((binaryExponent_spec hq).1.trans_lt hk)
  obtain ⟨g, hg⟩ : ∃ g, max minExponent (binaryExponent q - 52) = g := ⟨_, rfl⟩
  have hmin : minExponent = -1074 := rfl
  have hgrid : g ≤ k - 53 := by omega
  have hmax : g + 1 ≤ maxExponent := by
    unfold maxExponent
    omega
  have hrounds := rounds_roundEven (q / 2 ^ g)
  have hnonneg : 0 ≤ roundEven (q / 2 ^ g) := by
    have hdiv : 0 < q / 2 ^ g := div_pos hq (zpow_pos two_pos g)
    have hnear := (abs_le.mp hrounds.le).2
    have h : ((-1 : Int) : ℚ) < roundEven (q / 2 ^ g) := by
      push_cast
      linarith
    have h := Int.cast_lt.mp h
    omega
  obtain ⟨m, e, heq, hvalue⟩ := exists_ofRounded negative (roundEven (q / 2 ^ g)).toNat hmax
  refine ⟨m, e, g, (ofMagnitude_eq_ofRounded negative hq hg hrounds).trans heq, ?_, hgrid⟩
  rw [hvalue, ← Int.cast_natCast, Int.toNat_of_nonneg hnonneg]

/-- A nonnegative rational below a power of two is moved by at most half of the grid there. -/
theorem abs_ofMagnitude_sub_le {q : ℚ} {k : Int} (hq : 0 ≤ q) (hk : q < 2 ^ k)
    (hlow : -1021 ≤ k) (hhigh : k ≤ 1023) (negative : Bool) :
    ∃ m e, ofMagnitude negative q = .finite negative m e
      ∧ |(m * 2 ^ e : ℚ) - q| ≤ 2 ^ (k - 54) := by
  rcases hq.eq_or_lt with rfl | hpos
  · refine ⟨0, minExponent, ofMagnitude_zero negative, ?_⟩
    simp [zpow_nonneg]
  obtain ⟨m, e, g, heq, hvalue, hgrid⟩ := exists_ofMagnitude negative hpos hk hlow hhigh
  refine ⟨m, e, heq, ?_⟩
  have hunit : (0 : ℚ) < 2 ^ g := zpow_pos two_pos g
  have hnear := (rounds_roundEven (q / 2 ^ g)).le
  calc |(m * 2 ^ e : ℚ) - q|
      = |q / 2 ^ g - roundEven (q / 2 ^ g)| * 2 ^ g := by
        rw [hvalue, abs_sub_comm, ← abs_of_pos hunit, ← abs_mul, abs_of_pos hunit, sub_mul,
          div_mul_cancel₀ q hunit.ne']
    _ ≤ 1 / 2 * 2 ^ g := by gcongr
    _ = 2 ^ (g - 1) := by rw [zpow_sub_one₀ two_ne_zero]; ring
    _ ≤ 2 ^ (k - 54) := zpow_le_zpow_right₀ one_le_two (by omega)

/-- A rational below a power of two is moved by at most half of the grid there. -/
theorem abs_ofRat_sub_le {q : ℚ} {k : Int} (hq : |q| < 2 ^ k) (hlow : -1021 ≤ k)
    (hhigh : k ≤ 1023) :
    (ofRat q).isFinite = true ∧ |(ofRat q).toRat - q| ≤ 2 ^ (k - 54) := by
  unfold ofRat
  split
  · next hneg =>
    rw [abs_of_neg hneg] at hq
    obtain ⟨m, e, heq, herror⟩ :=
      abs_ofMagnitude_sub_le (neg_pos.mpr hneg).le hq hlow hhigh true
    rw [heq]
    refine ⟨rfl, ?_⟩
    rw [toRat, if_pos rfl, twoPow_eq, ← neg_add', abs_neg]
    rwa [sub_neg_eq_add] at herror
  · next hneg =>
    rw [abs_of_nonneg (not_lt.mp hneg)] at hq
    obtain ⟨m, e, heq, herror⟩ :=
      abs_ofMagnitude_sub_le (not_lt.mp hneg) hq hlow hhigh false
    rw [heq]
    refine ⟨rfl, ?_⟩
    rwa [toRat, if_neg Bool.false_ne_true, twoPow_eq]

/-- The number nearest to a positive integer of at most 53 bits is that integer. -/
theorem exists_ofMagnitude_natCast (negative : Bool) {n : Nat} (hn : n < 2 ^ 53) :
    ∃ m e, ofMagnitude negative n = .finite negative m e ∧ (m * 2 ^ e : ℚ) = n := by
  rcases Nat.eq_zero_or_pos n with rfl | hpos
  · exact ⟨0, minExponent, ofMagnitude_zero negative, by simp⟩
  have hk : (n : ℚ) < 2 ^ (53 : Int) := by exact_mod_cast hn
  obtain ⟨m, e, g, heq, hvalue, hgrid⟩ :=
    exists_ofMagnitude negative (by exact_mod_cast hpos) hk (by norm_num) (by norm_num)
  refine ⟨m, e, heq, hvalue.trans ?_⟩
  -- The grid divides one, so that an integer lies on it.
  obtain ⟨j, rfl⟩ : ∃ j : Nat, g = -j := ⟨(-g).toNat, by omega⟩
  have hon : (n : ℚ) / 2 ^ (-(j : Int)) = ((n * 2 ^ j : Int) : ℚ) := by
    rw [zpow_neg, div_inv_eq_mul, zpow_natCast]
    push_cast
    rfl
  have hround : roundEven ((n : ℚ) / 2 ^ (-(j : Int))) = n * 2 ^ j := by
    rw [roundEven_eq_iff, hon]
    exact .inl (by rw [sub_self, abs_zero]; norm_num)
  rw [hround, ← hon, div_mul_cancel₀ _ (zpow_pos two_pos _).ne']

/-- An integer of at most 53 bits is a number of the format. -/
theorem toRat_ofInt {i : Int} (hi : |i| < 2 ^ 53) : (ofInt i).toRat = i := by
  unfold ofInt ofRat
  split
  · next hneg =>
    obtain ⟨n, rfl⟩ : ∃ n : Nat, i = -n := ⟨i.natAbs, by
      have : i < 0 := by exact_mod_cast hneg
      omega⟩
    obtain ⟨m, e, heq, hvalue⟩ := exists_ofMagnitude_natCast true (n := n) (by
      rw [abs_neg, Nat.abs_cast] at hi
      exact_mod_cast hi)
    push_cast
    rw [neg_neg, heq, toRat, if_pos rfl, twoPow_eq, hvalue]
  · next hneg =>
    obtain ⟨n, rfl⟩ := Int.eq_ofNat_of_zero_le (by exact_mod_cast not_lt.mp hneg : 0 ≤ i)
    obtain ⟨m, e, heq, hvalue⟩ := exists_ofMagnitude_natCast false (n := n) (by
      rw [Nat.abs_cast] at hi
      exact_mod_cast hi)
    push_cast
    rw [heq, toRat, if_neg Bool.false_ne_true, twoPow_eq, hvalue]

end Binary64

/-- What is cut off from a number is less than one. -/
theorem abs_sub_truncate_lt (q : ℚ) : |q - truncate q| < 1 := by
  have cut (x : ℚ) : |x - x.floor| < 1 := by
    have hlow : (x.floor : ℚ) ≤ x := Rat.floor_le x
    have hhigh : x < x.floor + 1 := by exact_mod_cast Rat.lt_floor_add_one x
    rw [abs_lt]
    constructor <;> linarith
  unfold truncate
  split
  · exact cut q
  · push_cast
    rw [sub_neg_eq_add, ← abs_neg, neg_add']
    exact cut (-q)

end EntityMap.Number
