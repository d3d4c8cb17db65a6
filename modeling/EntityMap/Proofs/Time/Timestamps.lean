import EntityMap.Proofs.Number.Nearest
import EntityMap.Value.Conversion

/-!
# Timestamps

A timestamp column keeps a moment as milliseconds since 1970, and both ways lead through a binary
number of seconds. Its spacing is finer than a millisecond over the whole calendar, so the
milliseconds are always right (`epochMillis?_of_near`). It is finer than a microsecond only for
`2 ^ 33` seconds around 1970 : beyond them the moment that is read may be some microseconds off
(`ofMillis?_spec`).
-/

namespace EntityMap.Time

open Number

/-! ## The calendar -/

/-- The first second after the calendar. -/
def endSecond : Int := 253402300800

/-- The last year of an era, which begins in March, has its last 366 days. -/
theorem yearOfEra_cases {d y : Nat} (hd : d < 146097)
    (hy : y = (d - d / 1460 + d / 36524 - d / 146096) / 365) :
    d < 145731 ∧ y ≤ 398 ∨ 145731 ≤ d ∧ y = 399 := by
  by_cases h : d < 145731
  · exact .inl ⟨h, by omega⟩
  · exact .inr ⟨by omega, by omega⟩

theorem year_ofDays_le_iff (days : Int) : (Date.ofDays days).year ≤ 9999 ↔ days ≤ 2932896 := by
  unfold Date.ofDays eraDays epochShift
  dsimp only
  rw [Int.fdiv_eq_ediv_of_nonneg _ (by norm_num)]
  obtain ⟨era, hera⟩ : ∃ era, (days + 719468) / 146097 = era := ⟨_, rfl⟩
  obtain ⟨d, hd⟩ : ∃ d, (days + 719468 - era * 146097).toNat = d := ⟨_, rfl⟩
  obtain ⟨y, hy⟩ : ∃ y, (d - d / 1460 + d / 36524 - d / 146096) / 365 = y := ⟨_, rfl⟩
  have hdays : days + 719468 = era * 146097 + d := by omega
  have hlt : d < 146097 := by omega
  have hlast := yearOfEra_cases hlt hy.symm
  rw [hera, hd, hy]
  clear hera hd hy
  -- The year 10000 begins in the last year of the era of the year 9600.
  obtain h | rfl | h : era ≤ 23 ∨ era = 24 ∨ 25 ≤ era := by omega
  all_goals split_ifs <;> omega

theorem year_ofDays_nonneg {days : Int} (h : -719162 ≤ days) : 0 ≤ (Date.ofDays days).year := by
  unfold Date.ofDays eraDays epochShift
  dsimp only
  rw [Int.fdiv_eq_ediv_of_nonneg _ (by norm_num)]
  split_ifs <;> omega

/-- The seconds of the calendar are those from its first to its end. -/
theorem Moment.ofSeconds?_eq_ok {seconds : Int} (hlow : firstSecond ≤ seconds)
    (hhigh : seconds < endSecond) (micros : Int) :
    Moment.ofSeconds? seconds micros = .ok ⟨seconds * microsPerSecond + micros, none⟩ := by
  unfold firstSecond at hlow
  unfold endSecond at hhigh
  have hdays : seconds.fdiv 86400 = seconds / 86400 :=
    Int.fdiv_eq_ediv_of_nonneg _ (by norm_num)
  have hyear : (Date.ofDays (seconds / 86400)).year ≤ 9999 :=
    (year_ofDays_le_iff _).mpr (by omega)
  have hyear' : 0 ≤ (Date.ofDays (seconds / 86400)).year := year_ofDays_nonneg (by omega)
  unfold Moment.ofSeconds? firstSecond
  rw [hdays, if_neg (by norm_num [Int.pow_eq]; omega)]
  dsimp only
  rw [if_neg (by norm_num [Int.pow_eq]; omega), if_neg (by omega)]

/-- A moment is its whole seconds and the microseconds after them. -/
theorem Moment.wall_eq (t : Moment) :
    t.wall = t.seconds * microsPerSecond + t.micros ∧ t.micros < 1000000 := by
  unfold Moment.micros Moment.seconds microsPerSecond
  rw [Int.fdiv_eq_ediv_of_nonneg _ (by norm_num)]
  omega

theorem Moment.seconds_lt_of_year {t : Moment} (h : t.date.year ≤ 9999) :
    t.seconds < endSecond := by
  unfold Moment.date at h
  rw [Int.fdiv_eq_ediv_of_nonneg _ (by norm_num)] at h
  have hdays := (year_ofDays_le_iff _).mp h
  unfold endSecond
  omega

/-! ## Storing -/

/-- The binary number of seconds is off by less than a tenth of a millisecond. -/
theorem Moment.timestamp?_spec {t : Moment} (hnaive : t.offset = none)
    (hlow : firstSecond ≤ t.seconds) (hhigh : t.seconds < endSecond) :
    ∃ s, t.timestamp? = some s ∧ |s.toRat - t.wall / 10 ^ 6| ≤ 1 / 2 ^ 15 := by
  obtain ⟨hwall, hmicros⟩ := t.wall_eq
  unfold firstSecond at hlow
  unfold endSecond at hhigh
  set f : ℚ := mkRat t.micros 1000000 with hf
  have hfrac : f = t.micros / 10 ^ 6 := by
    rw [hf, Rat.mkRat_eq_div]
    norm_num
  have hwall : (t.wall / 10 ^ 6 : ℚ) = t.seconds + f := by
    rw [hfrac, hwall, microsPerSecond]
    push_cast
    ring
  have hlt : |f| < 2 ^ (0 : Int) := by
    have h : (t.micros : ℚ) < 10 ^ 6 := by exact_mod_cast hmicros
    rw [hfrac, abs_of_nonneg (by positivity), zpow_zero, div_lt_one (by positivity)]
    exact h
  obtain ⟨-, herror⟩ := Binary64.abs_ofRat_sub_le hlt (by norm_num) (by norm_num)
  have hseconds : (Binary64.ofInt t.seconds).toRat = t.seconds :=
    Binary64.toRat_ofInt (by rw [abs_lt]; omega)
  have hbound : |(t.seconds : ℚ)| ≤ 2 ^ (38 : Int) - 2 := by
    have h : |t.seconds| ≤ 2 ^ 38 - 2 := by rw [abs_le]; omega
    exact_mod_cast h
  have hsum : |(t.seconds : ℚ) + (Binary64.ofRat f).toRat| < 2 ^ (38 : Int) := by
    norm_num at hlt herror hbound ⊢
    rw [abs_lt] at hlt ⊢
    rw [abs_le] at herror hbound
    constructor <;> linarith
  obtain ⟨-, herror'⟩ := Binary64.abs_ofRat_sub_le hsum (by norm_num) (by norm_num)
  refine ⟨(Binary64.ofInt t.seconds).add (.ofRat f), ?_, ?_⟩
  · unfold Moment.timestamp?
    rw [hnaive]
    exact if_neg (by unfold firstSecond; omega)
  · unfold Binary64.add
    rw [hseconds, hwall]
    norm_num at herror herror' ⊢
    rw [abs_le] at herror herror' ⊢
    constructor <;> linarith

/-- Whatever is less than half a millisecond off a whole number of them is stored as it. -/
theorem Moment.epochMillis?_of_near {t : Moment} {n : Int} (hnaive : t.offset = none)
    (hlow : firstSecond ≤ t.seconds) (hhigh : t.seconds < endSecond)
    (hnear : |t.wall - 1000 * n| ≤ 400) : t.epochMillis? = some n := by
  obtain ⟨s, hs, herror⟩ := Moment.timestamp?_spec hnaive hlow hhigh
  obtain ⟨hwall, hmicros⟩ := t.wall_eq
  unfold firstSecond at hlow
  unfold endSecond at hhigh
  have hbound : |(t.wall : ℚ)| < 10 ^ 6 * (2 ^ 38 - 1) := by
    have h : |t.wall| < 10 ^ 6 * (2 ^ 38 - 1) := by
      rw [hwall, microsPerSecond, abs_lt]
      omega
    exact_mod_cast h
  have hnear : |(t.wall : ℚ) - 1000 * n| ≤ 400 := by exact_mod_cast hnear
  have hthousand : (Binary64.ofInt 1000).toRat = 1000 := by
    rw [Binary64.toRat_ofInt (by norm_num)]
    norm_num
  have hproduct : |s.toRat * 1000| < 2 ^ (48 : Int) := by
    rw [abs_lt] at hbound ⊢
    rw [abs_le] at herror
    norm_num at herror hbound ⊢
    constructor <;> linarith
  obtain ⟨-, herror'⟩ := Binary64.abs_ofRat_sub_le hproduct (by norm_num) (by norm_num)
  unfold Moment.epochMillis?
  rw [hs, Option.map_some, Option.some_inj, roundEven_eq_iff, Binary64.mul, hthousand]
  left
  norm_num at herror herror' ⊢
  rw [abs_le] at herror herror' hnear
  rw [abs_lt]
  constructor <;> linarith

/-! ## Reading -/

/-- The microseconds beyond the whole seconds are at most a million either way, and rounding them
twice costs little more than rounding them once. -/
theorem splitMicros_spec (s : Binary64) {whole micros : Int} (hwhole : truncate s.toRat = whole)
    (hmicros : roundEven
      ((Binary64.ofRat (s.toRat - whole)).mul (.ofInt microsPerSecond)).toRat = micros) :
    -1000000 ≤ micros ∧ micros ≤ 1000000
      ∧ |((whole * microsPerSecond + micros : Int) : ℚ) - s.toRat * 10 ^ 6|
        ≤ 1 / 2 + 1 / 2 ^ 32 := by
  have hpart : |s.toRat - whole| < 2 ^ (0 : Int) := by
    rw [← hwhole, zpow_zero]
    exact abs_sub_truncate_lt _
  obtain ⟨-, herror⟩ := Binary64.abs_ofRat_sub_le hpart (by norm_num) (by norm_num)
  set part := Binary64.ofRat (s.toRat - whole)
  have hmillion : (Binary64.ofInt microsPerSecond).toRat = 10 ^ 6 := by
    rw [Binary64.toRat_ofInt (by norm_num [microsPerSecond])]
    norm_num [microsPerSecond]
  have hproduct : |part.toRat * 10 ^ 6| < 2 ^ (20 : Int) := by
    rw [abs_lt] at hpart ⊢
    rw [abs_le] at herror
    norm_num at hpart herror ⊢
    constructor <;> linarith
  obtain ⟨-, herror'⟩ := Binary64.abs_ofRat_sub_le hproduct (by norm_num) (by norm_num)
  have hnear := (rounds_roundEven (part.mul (.ofInt microsPerSecond)).toRat).le
  rw [hmicros, Binary64.mul, hmillion] at hnear
  rw [abs_lt] at hpart
  rw [abs_le] at herror herror' hnear
  norm_num at hpart herror herror' hnear
  have hlow : ((-1000001 : Int) : ℚ) < micros := by
    push_cast
    linarith
  have hhigh : (micros : ℚ) < ((1000001 : Int) : ℚ) := by
    push_cast
    linarith
  refine ⟨Int.cast_lt.mp hlow, Int.lt_add_one_iff.mp (Int.cast_lt.mp hhigh), ?_⟩
  rw [microsPerSecond, abs_le]
  push_cast
  norm_num
  constructor <;> linarith

/-- Splitting a number of seconds rounds it to microseconds. -/
theorem splitSeconds_spec (s : Binary64) : ∃ seconds micros : Int,
    splitSeconds s = (seconds, micros) ∧ 0 ≤ micros ∧ micros < microsPerSecond
      ∧ |((seconds * microsPerSecond + micros : Int) : ℚ) - s.toRat * 10 ^ 6|
        ≤ 1 / 2 + 1 / 2 ^ 32 := by
  obtain ⟨whole, hwhole⟩ : ∃ whole, truncate s.toRat = whole := ⟨_, rfl⟩
  obtain ⟨micros, hmicros⟩ : ∃ micros, roundEven
      ((Binary64.ofRat (s.toRat - whole)).mul (.ofInt microsPerSecond)).toRat = micros := ⟨_, rfl⟩
  obtain ⟨hlow, hhigh, hclose⟩ := splitMicros_spec s hwhole hmicros
  unfold splitSeconds
  dsimp only
  rw [hwhole, hmicros]
  unfold microsPerSecond at hclose ⊢
  split_ifs
  · refine ⟨_, _, rfl, by omega, by omega, ?_⟩
    rwa [show (whole + 1) * 1000000 + (micros - 1000000) = whole * 1000000 + micros by ring]
  · refine ⟨_, _, rfl, by omega, by omega, ?_⟩
    rwa [show (whole - 1) * 1000000 + (micros + 1000000) = whole * 1000000 + micros by ring]
  · exact ⟨_, _, rfl, by omega, by omega, hclose⟩

/-- The binary number of seconds of some milliseconds is off by less than sixteen microseconds, by
less than half a microsecond for `2 ^ 33` seconds around 1970, and not at all for the first second
of the calendar. -/
theorem exists_ofQuotient? {n : Int} (hlow : 1000 * firstSecond ≤ n)
    (hhigh : n < 1000 * endSecond) : ∃ s, Binary64.ofQuotient? n 1000 = some s
      ∧ |s.toRat - n / 1000| ≤ 1 / 2 ^ 16
      ∧ (|n| < 2 ^ 33 * 1000 → |s.toRat - n / 1000| ≤ 1 / 2 ^ 21)
      ∧ (n = 1000 * firstSecond → s.toRat = n / 1000) := by
  have small {k : ℕ} (h : |n| < 2 ^ k * 1000) : |(n / 1000 : ℚ)| < 2 ^ (k : Int) := by
    rw [abs_div, Nat.abs_ofNat, div_lt_iff₀ (by norm_num), zpow_natCast]
    exact_mod_cast h
  have hbound : |n| < 2 ^ 38 * 1000 := by
    unfold firstSecond at hlow
    unfold endSecond at hhigh
    rw [abs_lt]
    omega
  obtain ⟨hfinite, herror⟩ :=
    Binary64.abs_ofRat_sub_le (small hbound) (by norm_num) (by norm_num)
  refine ⟨.ofRat (n / 1000), ?_, by norm_num at herror ⊢; exact herror, fun h => ?_, fun h => ?_⟩
  · unfold Binary64.ofQuotient?
    rw [Rat.mkRat_eq_div, Nat.cast_ofNat]
    cases hs : Binary64.ofRat (n / 1000) with
    | nan => rfl
    | infinite _ => rw [hs] at hfinite; cases hfinite
    | finite _ _ _ => rfl
  · have herror := (Binary64.abs_ofRat_sub_le (small h) (by norm_num) (by norm_num)).2
    norm_num at herror ⊢
    exact herror
  · have hint : (n / 1000 : ℚ) = (firstSecond : Int) := by
      rw [h]
      push_cast
      ring
    rw [hint]
    exact Binary64.toRat_ofInt (by norm_num [firstSecond])

/-- The error of a number of seconds and that of its split together make a whole number of
microseconds. -/
theorem abs_wall_sub_le {s ε : ℚ} {wall n k : Int}
    (hsplit : |(wall : ℚ) - s * 10 ^ 6| ≤ 1 / 2 + 1 / 2 ^ 32) (hs : |s - n / 1000| ≤ ε)
    (hk : 10 ^ 6 * ε + (1 / 2 + 1 / 2 ^ 32) < (k + 1 : Int)) : |wall - 1000 * n| ≤ k := by
  have h : |((wall - 1000 * n : Int) : ℚ)| < ((k + 1 : Int) : ℚ) := by
    refine lt_of_le_of_lt ?_ hk
    push_cast
    rw [abs_le] at hs hsplit ⊢
    constructor <;> linarith
  exact Int.lt_add_one_iff.mp (by exact_mod_cast h)

/-- The milliseconds of the calendar name a moment of it. It is at most 15 microseconds off, and
not at all for `2 ^ 33` seconds around 1970. -/
theorem Moment.ofMillis?_spec {n : Int} (hlow : 1000 * firstSecond ≤ n)
    (hhigh : n < 1000 * endSecond) : ∃ t, Moment.ofMillis? n = .ok t ∧ t.offset = none
      ∧ firstSecond ≤ t.seconds ∧ t.seconds < endSecond ∧ |t.wall - 1000 * n| ≤ 15
      ∧ (|n| < 2 ^ 33 * 1000 → t.wall = 1000 * n) := by
  obtain ⟨s, hs, herror, hfine, hfirst⟩ := exists_ofQuotient? hlow hhigh
  obtain ⟨seconds, micros, hsplit, hmicros, hmicros', hnear⟩ := splitSeconds_spec s
  obtain ⟨wall, hwall⟩ : ∃ wall, seconds * microsPerSecond + micros = wall := ⟨_, rfl⟩
  rw [hwall] at hnear
  unfold microsPerSecond at hmicros' hwall
  have exact {ε : ℚ} (h : |s.toRat - n / 1000| ≤ ε) (hε : ε ≤ 1 / 2 ^ 21) :
      wall = 1000 * n := by
    have h := abs_wall_sub_le (k := 0) hnear h (by norm_num at hε ⊢; linarith)
    rw [abs_le] at h
    omega
  have hclose : |wall - 1000 * n| ≤ 15 := abs_wall_sub_le hnear herror (by norm_num)
  have hseconds : firstSecond ≤ seconds ∧ seconds < endSecond := by
    rw [abs_le] at hclose
    by_cases h : n = 1000 * firstSecond
    · have := exact (ε := 0) (by rw [hfirst h, sub_self, abs_zero]) (by norm_num)
      unfold firstSecond endSecond at *
      omega
    · unfold firstSecond endSecond at *
      omega
  have hof : Moment.ofMillis? n = .ok ⟨wall, none⟩ := by
    unfold Moment.ofMillis?
    rw [hs]
    dsimp only
    rw [hsplit]
    dsimp only
    rw [Moment.ofSeconds?_eq_ok hseconds.1 hseconds.2, microsPerSecond, hwall]
  have hwhole : (⟨wall, none⟩ : Moment).seconds = seconds := by
    unfold Moment.seconds microsPerSecond
    rw [Int.fdiv_eq_ediv_of_nonneg _ (by norm_num)]
    dsimp only
    omega
  exact ⟨⟨wall, none⟩, hof, rfl, hwhole ▸ hseconds.1, hwhole ▸ hseconds.2, hclose,
    fun h => exact (hfine h) le_rfl⟩

end EntityMap.Time

namespace EntityMap

open Time

/-! ## Both ways -/

/-- A moment without an offset is stored unless it is in the first day of the calendar. -/
theorem Value.toStored_moment_eq_ok {t : Moment} {v : Value} (hnaive : t.offset = none)
    (h : (Value.moment t).toStored = .ok v) : firstSecond ≤ t.seconds := by
  by_contra hlow
  have hnone : t.epochMillis? = none := by
    unfold Moment.epochMillis? Moment.timestamp?
    rw [hnaive]
    dsimp only
    rw [if_pos (not_le.mp hlow), Option.map_none]
  simp only [Value.toStored, hnone] at h
  cases h

theorem Value.toStored_moment {t : Moment} {n : Int} (h : t.epochMillis? = some n) :
    (Value.moment t).toStored = .ok (.int n) := by
  simp only [Value.toStored, h]

theorem Value.ofStored_timestamp {n : Int} {t : Moment} (entity : Nat → String)
    (h : Moment.ofMillis? n = .ok t) :
    Value.ofStored entity .timestamp (.int n) = .ok (.moment t) := by
  have hread : (Value.int n).toMoment = .ok t := by
    have hint : (Value.int n).toInt = .ok n := rfl
    simp [Value.toMoment, hint, bind, Except.bind, h]
  show (Value.int n).toMoment.map Value.moment = .ok (.moment t)
  rw [hread]
  rfl

/-- A moment of whole milliseconds that can be stored is stored as just these milliseconds. They
are always read as a moment, which is at most 15 microseconds off and is stored as the same
milliseconds again. It is the moment itself if this is less than `2 ^ 33` seconds from 1970. -/
theorem timestamp_survives (entity : Nat → String) {t : Moment} {v : Value}
    (hnaive : t.offset = none) (hyear : t.date.year ≤ 9999) (hwhole : 1000 ∣ t.wall)
    (hstored : (Value.moment t).toStored = .ok v) :
    v = .int (t.wall / 1000)
      ∧ ∃ t', Value.ofStored entity .timestamp v = .ok (.moment t')
        ∧ (Value.moment t').toStored = .ok v
        ∧ |t'.wall - t.wall| ≤ 15
        ∧ (|t.wall| < 2 ^ 33 * 10 ^ 6 → t' = t) := by
  obtain ⟨n, hn⟩ := hwhole
  have hlow := Value.toStored_moment_eq_ok hnaive hstored
  have hhigh := Moment.seconds_lt_of_year hyear
  have hmillis : t.epochMillis? = some n :=
    Moment.epochMillis?_of_near hnaive hlow hhigh (by rw [hn, sub_self]; norm_num)
  rw [Value.toStored_moment hmillis] at hstored
  cases hstored
  have hwall := t.wall_eq
  unfold microsPerSecond at hwall
  obtain ⟨t', hread, hnaive', hlow', hhigh', hclose, hexact⟩ :=
    Moment.ofMillis?_spec (n := n) (by unfold firstSecond at *; omega)
      (by unfold endSecond at *; omega)
  have hagain : t'.epochMillis? = some n :=
    Moment.epochMillis?_of_near hnaive' hlow' hhigh' (hclose.trans (by norm_num))
  refine ⟨by rw [hn, Int.mul_ediv_cancel_left _ (by norm_num)], t',
    Value.ofStored_timestamp entity hread, Value.toStored_moment hagain, hn ▸ hclose, fun h => ?_⟩
  have hsmall : |n| < 2 ^ 33 * 1000 := by
    rw [hn, abs_mul] at h
    norm_num at h ⊢
    omega
  obtain ⟨wall, offset⟩ := t
  obtain ⟨wall', offset'⟩ := t'
  obtain rfl : offset = none := hnaive
  obtain rfl : offset' = none := hnaive'
  obtain rfl : wall' = wall := (hexact hsmall).trans hn.symm
  rfl

/-- The moment 2024-05-17 08:30:15.123. -/
theorem timestamp_survives_2024 :
    (⟨1715934615123000, none⟩ : Moment).iso = "2024-05-17T08:30:15.123000"
      ∧ (Value.moment ⟨1715934615123000, none⟩).toStored = .ok (.int 1715934615123)
      ∧ Value.ofStored (fun _ => "") .timestamp (.int 1715934615123)
        = .ok (.moment ⟨1715934615123000, none⟩) := by
  have hstored : (Value.moment ⟨1715934615123000, none⟩).toStored = .ok (.int 1715934615123) :=
    Value.toStored_moment (by decide +kernel)
  obtain ⟨-, t, hread, -, -, hsame⟩ := timestamp_survives (fun _ => "")
    (t := ⟨1715934615123000, none⟩) rfl (by decide +kernel) (by norm_num) hstored
  exact ⟨by decide +kernel, hstored, hsame (by norm_num) ▸ hread⟩

/-- One millisecond beyond `2 ^ 33` seconds the binary number of seconds is nearer to another
microsecond. -/
theorem timestamp_moves :
    (⟨8589934592001000, none⟩ : Moment).iso = "2242-03-16T12:56:32.001000"
      ∧ (Value.moment ⟨8589934592001000, none⟩).toStored = .ok (.int 8589934592001)
      ∧ Value.ofStored (fun _ => "") .timestamp (.int 8589934592001)
        = .ok (.moment ⟨8589934592000999, none⟩) :=
  ⟨by decide +kernel, Value.toStored_moment (by decide +kernel),
    Value.ofStored_timestamp _ (by decide +kernel)⟩

end EntityMap
