import Mathlib.NumberTheory.Padics.PadicVal.Basic
import TradeWorker.ForexSizing
import TradeWorker.Grid

/-!
# Half-even rounding

What `round` and a decimal grid guarantee: a result within half a unit, and a value that has
the digits already comes back as it is.
-/

namespace TradeWorker

/-! ## To an integer -/

/-- `round` is a nearest integer. -/
theorem abs_pyRound_sub_le (x : ℚ) : |(pyRound x : ℚ) - x| ≤ 1 / 2 := by
  have hlow : (⌊x⌋ : ℚ) ≤ x := Int.floor_le x
  have hhigh : x < ⌊x⌋ + 1 := Int.lt_floor_add_one x
  unfold pyRound
  rw [abs_le]
  simp only []
  split_ifs <;> push_cast <;> constructor <;> linarith

@[simp] theorem pyRound_intCast (n : ℤ) : pyRound n = n := by
  simp [pyRound]

theorem floor_le_pyRound (x : ℚ) : ⌊x⌋ ≤ pyRound x := by
  unfold pyRound
  simp only []
  split_ifs <;> omega

theorem pyRound_le_floor_add_one (x : ℚ) : pyRound x ≤ ⌊x⌋ + 1 := by
  unfold pyRound
  simp only []
  split_ifs <;> omega

theorem pyRound_mono {x y : ℚ} (h : x ≤ y) : pyRound x ≤ pyRound y := by
  rcases (Int.floor_mono h).lt_or_eq with hlt | heq
  · have hx := pyRound_le_floor_add_one x
    have hy := floor_le_pyRound y
    omega
  · -- in one unit the fractions compare, and a tie goes the same way for both
    unfold pyRound
    simp only [heq]
    split_ifs <;> first | omega | (exfalso; linarith)

/-! ## What rounding adds -/

/-- The fraction is over a half, or it is a half and the integer below is odd. -/
def RoundsUp (x : ℚ) : Prop := 1 / 2 < Int.fract x ∨ Int.fract x = 1 / 2 ∧ ⌊x⌋ % 2 ≠ 0

instance (x : ℚ) : Decidable (RoundsUp x) := inferInstanceAs (Decidable (_ ∨ _))

theorem pyRound_eq (x : ℚ) : pyRound x = if RoundsUp x then ⌊x⌋ + 1 else ⌊x⌋ := by
  unfold pyRound
  dsimp only
  rw [Int.self_sub_floor]
  rcases lt_trichotomy (Int.fract x) (1 / 2) with hlt | heq | hgt
  · have hup : ¬RoundsUp x := by
      rintro (hgt | ⟨heq, -⟩)
      · exact absurd hlt (not_lt.mpr hgt.le)
      · exact absurd heq hlt.ne
    rw [if_pos hlt, if_neg hup]
  · rw [if_neg heq.not_lt, if_neg heq.not_gt]
    by_cases heven : ⌊x⌋ % 2 = 0
    · have hup : ¬RoundsUp x := by
        rintro (hgt | ⟨-, hodd⟩)
        · exact absurd heq hgt.ne'
        · exact hodd heven
      rw [if_pos heven, if_neg hup]
    · have hup : RoundsUp x := Or.inr ⟨heq, heven⟩
      rw [if_neg heven, if_pos hup]
  · have hup : RoundsUp x := Or.inl hgt
    rw [if_neg (not_lt.mpr hgt.le), if_pos hgt, if_pos hup]

/-- What rounding to a grid adds to a value: what its fraction of a step lacks, or less the
fraction. -/
def roundingGain (step x : ℚ) : ℚ :=
  if RoundsUp (x / step) then (1 - Int.fract (x / step)) * step
  else -(Int.fract (x / step) * step)

theorem pyRound_mul_eq_add {step : ℚ} (hstep : step ≠ 0) (x : ℚ) :
    (pyRound (x / step) : ℚ) * step = x + roundingGain step x := by
  have hfloor : (⌊x / step⌋ : ℚ) = x / step - Int.fract (x / step) :=
    (Int.self_sub_fract _).symm
  have hx : x / step * step = x := div_mul_cancel₀ x hstep
  rw [pyRound_eq, roundingGain]
  split_ifs
  · push_cast
    rw [hfloor, add_mul, sub_mul, hx]
    ring
  · rw [hfloor, sub_mul, hx]
    ring

theorem roundingGain_of_mem {step x : ℚ} (hstep : step ≠ 0) (h : x ∈ Grid.points step) :
    roundingGain step x = 0 := by
  obtain ⟨n, rfl⟩ := h
  have hround := pyRound_mul_eq_add hstep (n * step)
  rw [mul_div_cancel_right₀ _ hstep, pyRound_intCast] at hround
  exact (left_eq_add.mp hround)

/-! ## To decimals -/

theorem pyRoundTo_eq_add (x : ℚ) (digits : ℕ) :
    pyRoundTo x digits = x + roundingGain (1 / 10 ^ digits) x := by
  have hpow : (1 / 10 ^ digits : ℚ) ≠ 0 := by positivity
  rw [← pyRound_mul_eq_add hpow, pyRoundTo, div_div_eq_mul_div, div_one, mul_one_div]

/-- `round(x, digits)` moves a value by half a unit of its last digit at most. -/
theorem abs_pyRoundTo_sub_le (x : ℚ) (digits : ℕ) :
    |pyRoundTo x digits - x| ≤ 1 / 10 ^ digits / 2 := by
  have hpow : (0 : ℚ) < 10 ^ digits := by positivity
  have hround := abs_pyRound_sub_le (x * 10 ^ digits)
  have hdiff : pyRoundTo x digits - x =
      (pyRound (x * 10 ^ digits) - x * 10 ^ digits) / 10 ^ digits := by
    rw [pyRoundTo, sub_div, mul_div_cancel_right₀ _ hpow.ne']
  rw [hdiff, abs_div, abs_of_pos hpow, div_right_comm]
  exact div_le_div_of_nonneg_right hround hpow.le

theorem pyRoundTo_mono (digits : ℕ) : Monotone fun x => pyRoundTo x digits := by
  intro x y h
  have hscaled : x * 10 ^ digits ≤ y * 10 ^ digits :=
    mul_le_mul_of_nonneg_right h (by positivity)
  have hround : (pyRound (x * 10 ^ digits) : ℚ) ≤ pyRound (y * 10 ^ digits) := by
    exact_mod_cast pyRound_mono hscaled
  exact div_le_div_of_nonneg_right hround (by positivity)

/-- A value that has the digits comes back. -/
theorem pyRoundTo_of_mem {x : ℚ} {digits : ℕ} (h : x ∈ Grid.points (1 / 10 ^ digits)) :
    pyRoundTo x digits = x := by
  obtain ⟨n, rfl⟩ := h
  have hpow : (10 : ℚ) ^ digits ≠ 0 := by positivity
  have hscaled : (n : ℚ) * (1 / 10 ^ digits) * 10 ^ digits = n := by field_simp
  rw [pyRoundTo, hscaled, pyRound_intCast, mul_one_div]

/-! ## The decimals of a step -/

/-- A finite decimal, which is what the text of a number writes out. -/
def IsDecimal (x : ℚ) : Prop := ∃ digits : ℕ, x ∈ Grid.points (1 / 10 ^ digits)

/-- A divisor of a power of ten divides the power its own twos and fives ask for. -/
theorem dvd_ten_pow {n digits : ℕ} (h : n ∣ 10 ^ digits) :
    n ∣ 10 ^ max (padicValNat 2 n) (padicValNat 5 n) := by
  have hten : ∀ k, (10 : ℕ) ^ k = 2 ^ k * 5 ^ k := fun k => (mul_pow 2 5 k)
  have : Fact (Nat.Prime 5) := ⟨Nat.prime_five⟩
  rw [hten] at h
  obtain ⟨a, b, ha, hb, rfl⟩ := (Nat.dvd_mul).mp h
  obtain ⟨i, -, rfl⟩ := (Nat.dvd_prime_pow Nat.prime_two).mp ha
  obtain ⟨j, -, rfl⟩ := (Nat.dvd_prime_pow Nat.prime_five).mp hb
  have htwo : padicValNat 2 (2 ^ i * 5 ^ j) = i := by
    rw [padicValNat.mul (by positivity) (by positivity), padicValNat.prime_pow,
      padicValNat_prime_prime_pow j (by norm_num), add_zero]
  have hfive : padicValNat 5 (2 ^ i * 5 ^ j) = j := by
    rw [padicValNat.mul (by positivity) (by positivity), padicValNat.prime_pow,
      padicValNat_prime_prime_pow i (by norm_num), zero_add]
  rw [htwo, hfive, hten]
  exact mul_dvd_mul (pow_dvd_pow 2 (le_max_left i j)) (pow_dvd_pow 5 (le_max_right i j))

/-- `_decimals_for_step` counts enough places for the step. -/
theorem mem_points_decimalsForStep {step : ℚ} (h : IsDecimal step) :
    step ∈ Grid.points (1 / 10 ^ decimalsForStep step) := by
  obtain ⟨digits, n, hn⟩ := h
  have hden : step.den ∣ 10 ^ digits := by
    have hdvd := Rat.den_dvd n (10 ^ digits)
    have hstep : step = Rat.divInt n (10 ^ digits) := by
      rw [hn, Rat.divInt_eq_div]
      push_cast
      ring
    rw [← hstep] at hdvd
    exact_mod_cast hdvd
  obtain ⟨k, hk⟩ := dvd_ten_pow hden
  refine ⟨step.num * k, ?_⟩
  have hdenpos : (step.den : ℚ) ≠ 0 := by exact_mod_cast step.den_ne_zero
  have hk' : (10 : ℚ) ^ decimalsForStep step = step.den * k := by exact_mod_cast hk
  have hkne : (k : ℚ) ≠ 0 := by
    intro h0
    rw [h0, mul_zero] at hk'
    exact absurd hk' (by positivity)
  calc step = step.num / step.den := (Rat.num_div_den step).symm
    _ = ((step.num * k : ℤ) : ℚ) * (1 / 10 ^ decimalsForStep step) := by
        rw [hk']
        push_cast
        field_simp

/-- Rounding to the decimals of a step leaves its multiples alone. -/
theorem pyRoundTo_decimalsForStep {step x : ℚ} (hstep : IsDecimal step)
    (hx : x ∈ Grid.points step) : pyRoundTo x (decimalsForStep step) = x :=
  pyRoundTo_of_mem (Grid.points_subset (mem_points_decimalsForStep hstep) hx)

end TradeWorker
