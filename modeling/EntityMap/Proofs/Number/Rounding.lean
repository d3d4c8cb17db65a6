import Mathlib.Algebra.Order.Field.Power
import Mathlib.Algebra.Order.Ring.Abs
import Mathlib.Data.Rat.Floor
import Mathlib.Tactic.Linarith
import Mathlib.Tactic.NormNum
import Mathlib.Tactic.Ring
import Mathlib.Tactic.Positivity
import EntityMap.Number.Shortest

/-!
# Rounding to binary numbers

A rational is rounded on the grid of its binary exponent (`ofMagnitude_eq_ofRounded`), to a number
in the canonical form of the format or to infinity (`ofMagnitude_cases`). `roundingInterval` is what
its name says : whatever lies in the interval of a number is rounded to that number, also where
the grid below the number is finer than the one above it (`ofMagnitude_eq_finite`).
-/

namespace EntityMap.Number

/-! ## Powers -/

theorem twoPow_eq (e : Int) : twoPow e = (2 : ℚ) ^ e := by
  unfold twoPow
  split
  · next h =>
    obtain ⟨n, rfl⟩ := Int.eq_ofNat_of_zero_le h
    simp [Nat.pow_eq]
  · next h =>
    obtain ⟨n, rfl⟩ : ∃ n : Nat, e = -n := ⟨(-e).toNat, by omega⟩
    simp [Rat.mkRat_eq_div, Nat.pow_eq]

theorem tenPow_eq (e : Int) : tenPow e = (10 : ℚ) ^ e := by
  unfold tenPow
  split
  · next h =>
    obtain ⟨n, rfl⟩ := Int.eq_ofNat_of_zero_le h
    simp [Nat.pow_eq]
  · next h =>
    obtain ⟨n, rfl⟩ : ∃ n : Nat, e = -n := ⟨(-e).toNat, by omega⟩
    simp [Rat.mkRat_eq_div, Nat.pow_eq]

theorem div_twoPow_lt {q : ℚ} {e k : Int} (h : q < 2 ^ (e + k)) : q / 2 ^ e < 2 ^ k := by
  rw [div_lt_iff₀ (zpow_pos two_pos e), ← zpow_add₀ two_ne_zero, add_comm]
  exact h

theorem le_div_twoPow {q : ℚ} {e k : Int} (h : 2 ^ (e + k) ≤ q) : 2 ^ k ≤ q / 2 ^ e := by
  rw [le_div_iff₀ (zpow_pos two_pos e), ← zpow_add₀ two_ne_zero, add_comm]
  exact h

/-! ## Binary exponents -/

/-- A positive number lies between two neighbouring powers of two. -/
theorem binaryExponent_spec {q : ℚ} (hq : 0 < q) :
    (2 : ℚ) ^ binaryExponent q ≤ q ∧ q < 2 ^ (binaryExponent q + 1) := by
  have hnum : 0 < q.num := Rat.num_pos.mpr hq
  have hden : 0 < (q.den : ℚ) := by exact_mod_cast q.den_pos
  set a := q.num.natAbs.log2 with ha
  set b := q.den.log2 with hb
  have hqdiv : q = (q.num.natAbs : ℚ) / q.den := by
    have hcast : (q.num.natAbs : ℚ) = q.num := by
      rw [← Int.cast_natCast, Int.natAbs_of_nonneg hnum.le]
    rw [hcast, Rat.num_div_den]
  have hnumLow : (2 : ℚ) ^ a ≤ q.num.natAbs := by
    exact_mod_cast Nat.log2_self_le (by omega : q.num.natAbs ≠ 0)
  have hnumHigh : (q.num.natAbs : ℚ) < 2 ^ (a + 1) := by
    exact_mod_cast Nat.lt_log2_self
  have hdenLow : (2 : ℚ) ^ b ≤ q.den := by
    exact_mod_cast Nat.log2_self_le q.den_nz
  have hdenHigh : (q.den : ℚ) < 2 ^ (b + 1) := by
    exact_mod_cast Nat.lt_log2_self
  have hlow : (2 : ℚ) ^ ((a : Int) - b - 1) ≤ q := by
    rw [hqdiv, le_div_iff₀ hden]
    calc (2 : ℚ) ^ ((a : Int) - b - 1) * q.den
        ≤ 2 ^ ((a : Int) - b - 1) * 2 ^ (b + 1) := by gcongr
      _ = 2 ^ a := by
        rw [← zpow_natCast, ← zpow_natCast, ← zpow_add₀ two_ne_zero]
        congr 1
        push_cast
        ring
      _ ≤ q.num.natAbs := hnumLow
  have hhigh : q < (2 : ℚ) ^ ((a : Int) - b + 1) := by
    rw [hqdiv, div_lt_iff₀ hden]
    calc (q.num.natAbs : ℚ) < 2 ^ (a + 1) := hnumHigh
      _ = 2 ^ ((a : Int) - b + 1) * 2 ^ b := by
        rw [← zpow_natCast, ← zpow_natCast, ← zpow_add₀ two_ne_zero]
        congr 1
        push_cast
        ring
      _ ≤ 2 ^ ((a : Int) - b + 1) * q.den := by gcongr
  unfold binaryExponent
  dsimp only
  rw [← ha, ← hb, twoPow_eq]
  split
  · next h => exact ⟨h, hhigh⟩
  · next h => exact ⟨hlow, by simpa using lt_of_not_ge h⟩

/-- The exponent is the only one of the powers of two between which a number lies. -/
theorem binaryExponent_eq {q : ℚ} {e : Int} (hlow : (2 : ℚ) ^ e ≤ q) (hhigh : q < 2 ^ (e + 1)) :
    binaryExponent q = e := by
  have hq : 0 < q := (zpow_pos two_pos e).trans_le hlow
  obtain ⟨h₁, h₂⟩ := binaryExponent_spec hq
  have h₃ := (zpow_lt_zpow_iff_right₀ one_lt_two).mp (h₁.trans_lt hhigh)
  have h₄ := (zpow_lt_zpow_iff_right₀ one_lt_two).mp (hlow.trans_lt h₂)
  omega

/-! ## Rounding to integers -/

/-- The integer is less than one half away from the number, or one half away and even. -/
def Rounds (q : ℚ) (n : Int) : Prop := |q - n| < 1 / 2 ∨ |q - n| = 1 / 2 ∧ n % 2 = 0

theorem rounds_roundEven (q : ℚ) : Rounds q (roundEven q) := by
  have hlow : (q.floor : ℚ) ≤ q := Rat.floor_le q
  have hhigh : q < q.floor + 1 := by exact_mod_cast Rat.lt_floor_add_one q
  have hhalf : mkRat 1 2 = (1 : ℚ) / 2 := by norm_num [Rat.mkRat_eq_div]
  unfold roundEven Rounds
  dsimp only
  rw [hhalf]
  split
  · next h =>
    left
    rw [abs_of_nonneg (by linarith)]
    exact h
  · next h₁ =>
    split
    · next h₂ =>
      left
      push_cast
      rw [abs_of_nonpos (by linarith)]
      linarith
    · next h₂ =>
      have hpart : q - q.floor = 1 / 2 := le_antisymm (not_lt.mp h₂) (not_lt.mp h₁)
      right
      split
      · next heven =>
        rw [hpart]
        exact ⟨by norm_num, heven⟩
      · next hodd =>
        push_cast
        have hnext : q - (q.floor + 1) = -(1 / 2) := by linarith
        rw [hnext]
        exact ⟨by norm_num, by omega⟩

theorem Rounds.le {q : ℚ} {n : Int} (h : Rounds q n) : |q - n| ≤ 1 / 2 :=
  h.elim le_of_lt fun h => h.1.le

theorem Rounds.unique {q : ℚ} {n m : Int} (hn : Rounds q n) (hm : Rounds q m) : n = m := by
  by_contra hne
  have hfar : (1 : ℚ) ≤ |(n : ℚ) - m| := by
    exact_mod_cast Int.one_le_abs (sub_ne_zero.mpr hne)
  have htriangle : |(n : ℚ) - m| ≤ |q - m| + |q - n| := by
    have h := abs_sub_le (n : ℚ) q m
    rwa [abs_sub_comm (n : ℚ) q, add_comm] at h
  -- Both are one half away, so they are neighbours, and not both of them are even.
  have hnle := hn.le
  have hmle := hm.le
  have hnhalf : |q - n| = 1 / 2 := by linarith
  have hmhalf : |q - m| = 1 / 2 := by linarith
  have hneven : n % 2 = 0 := (hn.resolve_left (by rw [hnhalf]; exact lt_irrefl _)).2
  have hmeven : m % 2 = 0 := (hm.resolve_left (by rw [hmhalf]; exact lt_irrefl _)).2
  have hclose : |(n : ℚ) - m| < 2 := by linarith
  have hclose : |n - m| < 2 := by exact_mod_cast hclose
  rw [abs_lt] at hclose
  omega

theorem roundEven_eq_iff {q : ℚ} {n : Int} : roundEven q = n ↔ Rounds q n :=
  ⟨fun h => h ▸ rounds_roundEven q, fun h => (rounds_roundEven q).unique h⟩

/-! ## Numbers of the format -/

namespace Binary64

/-- The mantissa and the exponent of a number of the format. The mantissa has 53 bits unless the
exponent is the least one. -/
structure Canonical (m : Nat) (e : Int) : Prop where
  mantissa : m < 2 ^ 53
  low : minExponent ≤ e
  high : e ≤ maxExponent
  normal : 2 ^ 52 ≤ m ∨ e = minExponent

theorem canonical_zero : Canonical 0 minExponent :=
  ⟨by decide, le_rfl, by decide, .inr rfl⟩

/-- A positive number is rounded on the grid of its exponent. -/
theorem ofMagnitude_eq_ofRounded {q : ℚ} {e n : Int} (negative : Bool) (hq : 0 < q)
    (he : max minExponent (binaryExponent q - 52) = e) (hn : Rounds (q / 2 ^ e) n) :
    ofMagnitude negative q = ofRounded negative n.toNat e := by
  rw [ofMagnitude, if_neg hq.ne']
  dsimp only
  rw [he, twoPow_eq, roundEven_eq_iff.mpr hn]

theorem ofMagnitude_zero (negative : Bool) : ofMagnitude negative 0 = zero negative := by
  rw [ofMagnitude, if_pos rfl]

/-- A mantissa that is rounded up to the next power of two is brought in range. -/
theorem ofRounded_cases (negative : Bool) {m : Nat} {e : Int} (hm : m ≤ 2 ^ 53)
    (hlow : minExponent ≤ e) (hnormal : 2 ^ 52 ≤ m ∨ e = minExponent) :
    ofRounded negative m e = .infinite negative
      ∨ ∃ m' e', ofRounded negative m e = .finite negative m' e' ∧ Canonical m' e' := by
  unfold ofRounded
  by_cases hcarry : m = Nat.pow 2 53
  · rw [if_pos hcarry]
    dsimp only
    split
    · exact .inl rfl
    · next hhigh =>
      exact .inr ⟨_, _, rfl, by decide, by omega, not_lt.mp hhigh, .inl le_rfl⟩
  · rw [if_neg hcarry]
    dsimp only
    split
    · exact .inl rfl
    · next hhigh =>
      exact .inr ⟨_, _, rfl, lt_of_le_of_ne hm hcarry, hlow, not_lt.mp hhigh, hnormal⟩

/-- The nearest number of the format is one, unless it is too large. -/
theorem ofMagnitude_cases (negative : Bool) {q : ℚ} (hq : 0 ≤ q) :
    ofMagnitude negative q = .infinite negative
      ∨ ∃ m e, ofMagnitude negative q = .finite negative m e ∧ Canonical m e := by
  rcases hq.eq_or_lt with hzero | hpos
  · rw [← hzero, ofMagnitude_zero]
    exact .inr ⟨0, minExponent, rfl, canonical_zero⟩
  obtain ⟨hlow, hhigh⟩ := binaryExponent_spec hpos
  obtain ⟨e, he⟩ : ∃ e, max minExponent (binaryExponent q - 52) = e := ⟨_, rfl⟩
  have hn := rounds_roundEven (q / 2 ^ e)
  rw [ofMagnitude_eq_ofRounded negative hpos he hn]
  generalize roundEven (q / 2 ^ e) = n at hn ⊢
  obtain ⟨hnlow, hnhigh⟩ := abs_le.mp hn.le
  have hbelow : q / 2 ^ e < 2 ^ (53 : Int) := by
    refine div_twoPow_lt (hhigh.trans_le (zpow_le_zpow_right₀ one_le_two ?_))
    omega
  have hle : n ≤ 2 ^ 53 := by
    have h : (n : ℚ) < ((2 ^ 53 + 1 : Int) : ℚ) := by
      push_cast
      norm_num at hbelow ⊢
      linarith
    exact Int.lt_add_one_iff.mp (Int.cast_lt.mp h)
  have hnormal : 2 ^ 52 ≤ n ∨ e = minExponent := by
    by_cases hmin : e = minExponent
    · exact .inr hmin
    have habove : 2 ^ (52 : Int) ≤ q / 2 ^ e := by
      refine le_div_twoPow (le_trans (zpow_le_zpow_right₀ one_le_two ?_) hlow)
      omega
    have h : ((2 ^ 52 - 1 : Int) : ℚ) < n := by
      push_cast
      norm_num at habove ⊢
      linarith
    exact .inl (Int.sub_one_lt_iff.mp (Int.cast_lt.mp h))
  have hnonneg : 0 ≤ n := by
    have hdiv : 0 < q / 2 ^ e := div_pos hpos (zpow_pos two_pos e)
    have h : ((-1 : Int) : ℚ) < n := by
      push_cast
      linarith
    have h := Int.cast_lt.mp h
    omega
  refine ofRounded_cases negative (by omega) (by omega) (hnormal.imp_left ?_)
  omega

theorem ofRounded_eq_finite {m : Nat} {e : Int} (negative : Bool) (h : Canonical m e) :
    ofRounded negative m e = .finite negative m e := by
  have hsmall : m ≠ Nat.pow 2 53 := h.mantissa.ne
  unfold ofRounded
  rw [if_neg hsmall]
  exact if_neg (not_lt.mpr h.high)

theorem ofRounded_carry {e : Int} (negative : Bool) (h : e + 1 ≤ maxExponent) :
    ofRounded negative (2 ^ 53) e = .finite negative (2 ^ 52) (e + 1) := by
  have hcarry : 2 ^ 53 = Nat.pow 2 53 := rfl
  unfold ofRounded
  rw [if_pos hcarry]
  exact if_neg (not_lt.mpr h)

/-! ## Rounding intervals -/

theorem roundingInterval_low (m : Nat) (e : Int) : (roundingInterval m e).low
    = (if m = 2 ^ 52 ∧ minExponent < e then (m - 1 / 4 : ℚ) else m - 1 / 2) * 2 ^ e := by
  have hhalf : (2 : ℚ) ^ (e - 1) = 2 ^ e / 2 := by
    rw [zpow_sub_one₀ two_ne_zero, div_eq_mul_inv]
  have hquarter : (2 : ℚ) ^ (e - 2) = 2 ^ e / 4 := by
    rw [zpow_sub₀ two_ne_zero]
    norm_num
  show (if m = 2 ^ 52 ∧ minExponent < e then ((4 * m - 1 : Int) : ℚ) * twoPow (e - 2)
    else ((2 * m - 1 : Int) : ℚ) * twoPow (e - 1)) = _
  rw [twoPow_eq, twoPow_eq, hhalf, hquarter]
  push_cast
  split <;> ring

theorem roundingInterval_high (m : Nat) (e : Int) :
    (roundingInterval m e).high = (m + 1 / 2 : ℚ) * 2 ^ e := by
  show ((2 * m + 1 : Int) : ℚ) * twoPow (e - 1) = _
  rw [twoPow_eq, zpow_sub_one₀ two_ne_zero]
  push_cast
  ring

/-- The interval of a number reaches one half of its grid up and at most as much down. -/
theorem of_holds {m : Nat} {e : Int} {q : ℚ} (h : (roundingInterval m e).holds q = true) :
    (roundingInterval m e).low ≤ q ∧ |q / 2 ^ e - m| ≤ 1 / 2
      ∧ (m % 2 = 1 → |q / 2 ^ e - m| < 1 / 2) := by
  have hpos : (0 : ℚ) < 2 ^ e := zpow_pos two_pos e
  have hlow : (m - 1 / 2 : ℚ) * 2 ^ e ≤ (roundingInterval m e).low := by
    rw [roundingInterval_low]
    refine mul_le_mul_of_nonneg_right ?_ hpos.le
    split <;> linarith
  have hhigh := roundingInterval_high m e
  obtain ⟨x, rfl⟩ : ∃ x, q = x * 2 ^ e := ⟨q / 2 ^ e, (div_mul_cancel₀ q hpos.ne').symm⟩
  rw [mul_div_cancel_right₀ x hpos.ne', abs_le, abs_lt]
  unfold Interval.holds at h
  split at h
  · next hclosed =>
    have heven : m % 2 = 0 := by simpa [roundingInterval] using hclosed
    simp only [Bool.and_eq_true, decide_eq_true_eq] at h
    have hdown := le_of_mul_le_mul_right (hlow.trans h.1) hpos
    have hup := le_of_mul_le_mul_right (h.2.trans_eq hhigh) hpos
    exact ⟨h.1, ⟨by linarith, by linarith⟩, fun hodd => by omega⟩
  · simp only [Bool.and_eq_true, decide_eq_true_eq] at h
    have hdown := lt_of_mul_lt_mul_right (hlow.trans_lt h.1) hpos.le
    have hup := lt_of_mul_lt_mul_right (h.2.trans_eq hhigh) hpos.le
    exact ⟨h.1.le, ⟨by linarith, by linarith⟩, fun _ => ⟨by linarith, by linarith⟩⟩

/-- What lies in the interval of a number is rounded to its mantissa on the grid of its exponent. -/
theorem rounds_of_holds {m : Nat} {e : Int} {q : ℚ}
    (h : (roundingInterval m e).holds q = true) : Rounds (q / 2 ^ e) m := by
  obtain ⟨-, hle, hodd⟩ := of_holds h
  unfold Rounds
  push_cast
  rcases Nat.mod_two_eq_zero_or_one m with hm | hm
  · exact hle.lt_or_eq.imp_right fun heq => ⟨heq, by omega⟩
  · exact .inl (hodd hm)

/-- Below a number with the least mantissa of its exponent the grid is finer, and what lies in the
interval of the number there is rounded up to it. -/
theorem ofMagnitude_eq_finite_below {e : Int} {q : ℚ} (negative : Bool)
    (hmin : minExponent < e) (hmax : e ≤ maxExponent)
    (h : (roundingInterval (2 ^ 52) e).holds q = true) (hq : q < 2 ^ (e + 52)) :
    ofMagnitude negative q = .finite negative (2 ^ 52) e := by
  have hpos : (0 : ℚ) < 2 ^ (e - 1) := zpow_pos two_pos _
  have hlow : (2 ^ 53 - 1 / 2 : ℚ) * 2 ^ (e - 1) ≤ q := by
    refine le_trans (le_of_eq ?_) (of_holds h).1
    rw [roundingInterval_low, if_pos ⟨rfl, hmin⟩, zpow_sub_one₀ two_ne_zero]
    push_cast
    ring
  have hup : q / 2 ^ (e - 1) < 2 ^ (53 : Int) := by
    refine div_twoPow_lt ?_
    rwa [show e - 1 + 53 = e + 52 by ring]
  have hdown : (2 ^ 53 - 1 / 2 : ℚ) ≤ q / 2 ^ (e - 1) := (le_div_iff₀ hpos).mpr hlow
  have hrounds : Rounds (q / 2 ^ (e - 1)) (2 ^ 53) := by
    have hle : |q / 2 ^ (e - 1) - ((2 ^ 53 : Int) : ℚ)| ≤ 1 / 2 := by
      push_cast
      norm_num at hup hdown ⊢
      rw [abs_le]
      constructor <;> linarith
    exact hle.lt_or_eq.imp_right fun heq => ⟨heq, by decide⟩
  have hpositive : 0 < q := lt_of_lt_of_le (by positivity) hlow
  have hexponent : binaryExponent q = e + 51 := by
    refine binaryExponent_eq ?_ (by rwa [show e + 51 + 1 = e + 52 by ring])
    refine le_trans ?_ hlow
    rw [show e + 51 = 52 + (e - 1) by ring, zpow_add₀ two_ne_zero]
    exact mul_le_mul_of_nonneg_right (by norm_num) hpos.le
  have hgrid : max minExponent (binaryExponent q - 52) = e - 1 := by omega
  rw [ofMagnitude_eq_ofRounded negative hpositive hgrid hrounds]
  have hcarry := ofRounded_carry (e := e - 1) negative (by omega)
  rwa [sub_add_cancel] at hcarry

/-- What lies in the interval of a number is rounded to that number. -/
theorem ofMagnitude_eq_finite {m : Nat} {e : Int} {q : ℚ} (negative : Bool) (hm : Canonical m e)
    (hq : 0 < q) (h : (roundingInterval m e).holds q = true) :
    ofMagnitude negative q = .finite negative m e := by
  have hlowest := hm.low
  obtain ⟨hE, hE'⟩ := binaryExponent_spec hq
  obtain ⟨-, hle, -⟩ := of_holds h
  obtain ⟨hdown, hup⟩ := abs_le.mp hle
  have hpos : (0 : ℚ) < 2 ^ e := zpow_pos two_pos e
  have hbelow : binaryExponent q < e + 53 := by
    have hmantissa : (m : ℚ) ≤ 2 ^ 53 - 1 := by
      rw [le_sub_iff_add_le]
      exact_mod_cast hm.mantissa
    have hq' : q < 2 ^ (e + 53) := by
      rw [zpow_add₀ two_ne_zero, ← div_lt_iff₀' hpos, show (53 : Int) = (53 : Nat) from rfl,
        zpow_natCast]
      linarith
    exact (zpow_lt_zpow_iff_right₀ one_lt_two).mp (hE.trans_lt hq')
  by_cases hsame : max minExponent (binaryExponent q - 52) = e
  · rw [ofMagnitude_eq_ofRounded negative hq hsame (rounds_of_holds h)]
    exact ofRounded_eq_finite negative hm
  -- Otherwise `q` lies on the finer grid below the number, which has the least mantissa.
  have hmin : minExponent < e := by omega
  have hfiner : binaryExponent q + 1 ≤ e + 52 := by omega
  have hq' : q < 2 ^ (e + 52) := hE'.trans_le (zpow_le_zpow_right₀ one_le_two hfiner)
  have hmantissa : m < 2 ^ 52 + 1 := by
    have h : (m : ℚ) < 2 ^ 52 + 1 := by
      rw [zpow_add₀ two_ne_zero, ← div_lt_iff₀' hpos, show (52 : Int) = (52 : Nat) from rfl,
        zpow_natCast] at hq'
      linarith
    exact_mod_cast h
  obtain rfl : m = 2 ^ 52 :=
    le_antisymm (Nat.lt_succ_iff.mp hmantissa) (hm.normal.resolve_right hmin.ne')
  exact ofMagnitude_eq_finite_below negative hmin hm.high h hq'

end Binary64

end EntityMap.Number
