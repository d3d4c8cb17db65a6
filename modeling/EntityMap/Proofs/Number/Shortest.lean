import EntityMap.Proofs.Number.Rounding

/-!
# The shortest decimal reads back

Seventeen digits are enough for a number of the format : on the decimal grid with seventeen digits
two neighbours are closer together than the bounds of the rounding interval (`grid_lt_width`), so
one of them lies in it. `shortest` therefore always finds a decimal, and what it finds lies in the
interval of the number that it was asked for (`shortest_spec`).
-/

namespace EntityMap.Number

open Binary64

/-! ## Decimal exponents -/

/-- Powers of ten and of two are compared by a power of both that has close exponents. -/
theorem tenPow_le_twoPow_of_pow {a b : Int} {n c : Nat} (hn : n ≠ 0) (hc : c * a ≤ b * n)
    (h : ((10 : ℚ) ^ n) ^ a ≤ (2 ^ c) ^ a) : (10 : ℚ) ^ a ≤ 2 ^ b := by
  have hpower : ((10 : ℚ) ^ a) ^ n ≤ (2 ^ b) ^ n := by
    calc ((10 : ℚ) ^ a) ^ n = (10 ^ n) ^ a := by
          rw [← zpow_natCast, ← zpow_natCast, zpow_comm]
      _ ≤ (2 ^ c) ^ a := h
      _ = 2 ^ (c * a) := by rw [zpow_mul, zpow_natCast]
      _ ≤ 2 ^ (b * n) := zpow_le_zpow_right₀ one_le_two hc
      _ = (2 ^ b) ^ n := by rw [zpow_mul, zpow_natCast]
  exact le_of_pow_le_pow_left₀ hn (zpow_nonneg two_pos.le _) hpower

/-- Two decimal places below the guess for a power of two are never too much. The guess takes
`0.30103` for the logarithm of two, which is good enough for the exponents of the format. -/
theorem tenPow_le_twoPow {b g : Int} (hlow : -1500 ≤ b) (hhigh : b ≤ 1500)
    (hg : g * 100000 ≤ b * 30103) : (10 : ℚ) ^ (g - 2) ≤ 2 ^ b := by
  rcases le_or_gt 0 (g - 2) with hpos | hneg
  · refine tenPow_le_twoPow_of_pow (n := 3) (c := 10) three_ne_zero (by omega) ?_
    exact zpow_le_zpow_left₀ hpos (by norm_num) (by norm_num)
  · refine tenPow_le_twoPow_of_pow (n := 13) (c := 43) (by decide) (by omega) ?_
    obtain ⟨k, hk⟩ : ∃ k : Nat, g - 2 = -k := ⟨(2 - g).toNat, by omega⟩
    rw [hk, zpow_neg, zpow_neg, zpow_natCast, zpow_natCast]
    exact inv_anti₀ (by positivity) (pow_le_pow_left₀ (by norm_num) (by norm_num) k)

/-- The decimal exponent does not overshoot a number in the range of the format. -/
theorem tenPow_decimalExponent_le {q : ℚ} (hlow : 2 ^ (-1500 : Int) ≤ q)
    (hhigh : q < 2 ^ (1500 : Int)) : (10 : ℚ) ^ (decimalExponent q - 1) ≤ q := by
  have hq : 0 < q := (zpow_pos two_pos _).trans_le hlow
  obtain ⟨hE, hE'⟩ := binaryExponent_spec hq
  have hElow := (zpow_lt_zpow_iff_right₀ one_lt_two).mp (hlow.trans_lt hE')
  have hEhigh := (zpow_lt_zpow_iff_right₀ one_lt_two).mp (hE.trans_lt hhigh)
  unfold decimalExponent
  dsimp only
  generalize hg : binaryExponent q * 30103 / 100000 = g
  have hguess : (10 : ℚ) ^ (g - 2) ≤ q :=
    (tenPow_le_twoPow (by omega) (by omega) (by omega)).trans hE
  -- Each candidate was taken because the one below it is not above `q`.
  simp only [List.find?_cons, List.find?_nil, tenPow_eq]
  split
  · simpa [sub_sub] using hguess
  next hfirst =>
  split
  · simpa using hfirst
  next hsecond =>
  split
  · simpa using hsecond
  next hthird =>
  simpa [add_sub_assoc] using hthird

/-! ## Neighbours on a grid -/

theorem nearer_cases (q : ℚ) (below : Int) :
    nearer q below = below ∨ nearer q below = below + 1 := by
  unfold nearer
  split <;> [exact .inl rfl; skip]
  split <;> [exact .inr rfl; skip]
  split
  · exact .inl rfl
  · exact .inr rfl

/-- What is selected on a grid is a multiple of it that lies in the interval. -/
theorem holds_of_readsBackWith {q : ℚ} {i : Interval} {k : Int} {n : Nat} {r : Int × Int}
    (h : readsBackWith q i k n = some r) : i.holds (r.1 * 10 ^ r.2) = true := by
  unfold readsBackWith at h
  dsimp only at h
  rw [tenPow_eq] at h
  split at h
  · next hbelow habove =>
    cases h
    rcases nearer_cases (q / 10 ^ (k - n)) (q / 10 ^ (k - n)).floor with hn | hn
    · rw [hn]
      exact hbelow
    · rw [hn]
      exact habove
  · next hbelow _ =>
    cases h
    exact hbelow
  · next _ habove =>
    cases h
    exact habove
  · cases h

/-- Between the bounds of an interval that are farther apart than a grid lies a multiple of it. -/
theorem readsBackWith_isSome {q : ℚ} {i : Interval} {k : Int} {n : Nat} (hlow : i.low < q)
    (hhigh : q < i.high) (hgrid : 10 ^ (k - n) < i.high - i.low) :
    (readsBackWith q i k n).isSome = true := by
  have hpos : (0 : ℚ) < 10 ^ (k - n) := zpow_pos (by norm_num) _
  have hbelow : ((q / 10 ^ (k - n)).floor : ℚ) * 10 ^ (k - n) ≤ q :=
    (le_div_iff₀ hpos).mp (Rat.floor_le _)
  have habove : q < ((q / 10 ^ (k - n)).floor + 1 : Int) * 10 ^ (k - n) :=
    (div_lt_iff₀ hpos).mp (Rat.lt_floor_add_one _)
  unfold readsBackWith
  dsimp only
  rw [tenPow_eq]
  generalize (q / 10 ^ (k - n)).floor = below at hbelow habove ⊢
  split
  · rfl
  · rfl
  · rfl
  next hnot hnot' =>
  -- Neither neighbour lies in the interval, so the bounds lie between them.
  exfalso
  push_cast at habove hnot'
  unfold Interval.holds at hnot hnot'
  split at hnot
  · next hclosed =>
    rw [if_pos hclosed] at hnot'
    simp only [Bool.and_eq_false_iff, decide_eq_false_iff_not, not_le] at hnot hnot'
    have hlow' := hnot.resolve_right (by linarith)
    have hhigh' := hnot'.resolve_left (by linarith)
    linarith
  · next hopen =>
    rw [if_neg hopen] at hnot'
    simp only [Bool.and_eq_false_iff, decide_eq_false_iff_not, not_lt] at hnot hnot'
    have hlow' := hnot.resolve_right (by linarith)
    have hhigh' := hnot'.resolve_left (by linarith)
    linarith

/-! ## Seventeen digits -/

variable {m : Nat} {e : Int}

/-- A positive number lies strictly between the bounds of its interval, which are positive. -/
theorem value_between (hpos : 0 < m) : 0 < (roundingInterval m e).low
    ∧ (roundingInterval m e).low < m * 2 ^ e ∧ m * 2 ^ e < (roundingInterval m e).high := by
  have hgrid : (0 : ℚ) < 2 ^ e := zpow_pos two_pos e
  have hm : (1 : ℚ) ≤ m := by exact_mod_cast hpos
  rw [roundingInterval_low, roundingInterval_high]
  refine ⟨mul_pos ?_ hgrid, mul_lt_mul_of_pos_right ?_ hgrid, mul_lt_mul_of_pos_right ?_ hgrid⟩
  · split <;> linarith
  · split <;> linarith
  · linarith

/-- With seventeen digits the grid is finer than the numbers of the format are apart. -/
theorem grid_lt_width (hm : Canonical m e) {k : Int} (hk : (10 : ℚ) ^ (k - 1) ≤ m * 2 ^ e) :
    10 ^ (k - 17) < (roundingInterval m e).high - (roundingInterval m e).low := by
  have hgrid : (0 : ℚ) < 2 ^ e := zpow_pos two_pos e
  have hfine : (10 : ℚ) ^ (k - 17) * 10 ^ 16 ≤ m * 2 ^ e := by
    rw [← zpow_natCast, ← zpow_add₀ (by norm_num)]
    convert hk using 2
    omega
  rw [roundingInterval_low, roundingInterval_high, ← sub_mul]
  split
  · next hleast =>
    rw [hleast.1] at hfine ⊢
    push_cast at hfine ⊢
    linarith
  · have hmantissa : (m : ℚ) < 2 ^ 53 := by exact_mod_cast hm.mantissa
    have hvalue := mul_lt_mul_of_pos_right hmantissa hgrid
    linarith

theorem tenPow_decimalExponent_value_le (hm : Canonical m e) (hpos : 0 < m) :
    (10 : ℚ) ^ (decimalExponent (m * 2 ^ e) - 1) ≤ m * 2 ^ e := by
  have hgrid : (0 : ℚ) < 2 ^ e := zpow_pos two_pos e
  have hlow : minExponent ≤ e := hm.low
  have hhigh : e ≤ maxExponent := hm.high
  unfold minExponent at hlow
  unfold maxExponent at hhigh
  refine tenPow_decimalExponent_le ?_ ?_
  · calc (2 : ℚ) ^ (-1500 : Int) ≤ 2 ^ e := zpow_le_zpow_right₀ one_le_two (by omega)
      _ ≤ m * 2 ^ e := le_mul_of_one_le_left hgrid.le (by exact_mod_cast hpos)
  · calc (m : ℚ) * 2 ^ e < 2 ^ (53 : Nat) * 2 ^ e :=
          mul_lt_mul_of_pos_right (by exact_mod_cast hm.mantissa) hgrid
      _ = 2 ^ (53 + e) := by rw [← zpow_natCast, ← zpow_add₀ two_ne_zero]; norm_cast
      _ ≤ 2 ^ (1500 : Int) := zpow_le_zpow_right₀ one_le_two (by omega)

/-- The shortest decimal of a number is a positive one in its rounding interval. -/
theorem shortest_spec (hm : Canonical m e) (hpos : 0 < m) : ∃ n x,
    shortest m e = Decimal.ofNat n x ∧ 0 < n
      ∧ (roundingInterval m e).holds (n * 10 ^ x) = true := by
  obtain ⟨hlow, hbelow, habove⟩ := value_between (e := e) hpos
  have hvalue := tenPow_decimalExponent_value_le hm hpos
  obtain ⟨k, hk⟩ : ∃ k, decimalExponent (m * 2 ^ e) = k := ⟨_, rfl⟩
  rw [hk] at hvalue
  have hlast : (readsBackWith (m * 2 ^ e) (roundingInterval m e) k 17).isSome = true :=
    readsBackWith_isSome hbelow habove (grid_lt_width hm hvalue)
  obtain ⟨r, hr⟩ : ∃ r, (List.range' 1 17).findSome?
      (readsBackWith (m * 2 ^ e) (roundingInterval m e) k) = some r := by
    rw [← Option.isSome_iff_exists, List.findSome?_isSome_iff]
    exact ⟨17, by decide, hlast⟩
  obtain ⟨n, -, hn⟩ := List.exists_of_findSome?_eq_some hr
  have hholds := holds_of_readsBackWith hn
  -- The digits are read as a natural number, which the interval bears out.
  have hdigits : 0 < r.1 := by
    have h : (0 : ℚ) < r.1 * 10 ^ r.2 := hlow.trans_le (of_holds hholds).1
    exact_mod_cast pos_of_mul_pos_left h (zpow_pos (by norm_num) r.2).le
  have hcast : ((r.1.toNat : Nat) : ℚ) = r.1 := by
    exact_mod_cast Int.toNat_of_nonneg hdigits.le
  refine ⟨r.1.toNat, r.2, ?_, by omega, by rw [hcast]; exact hholds⟩
  unfold shortest
  rw [if_neg hpos.ne']
  dsimp only
  rw [twoPow_eq, hk, hr]
  rfl

end EntityMap.Number
