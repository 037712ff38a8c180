import Mathlib

/-!
# Doubles as rationals

A positive rational is rounded to the nearest one with fifty-three binary
digits, ties to even. The exponent is not bounded: the file is about values
that neither overflow nor underflow. What programs on doubles rest on is that
a whole number between two values stays between their doubles, and that a
value is not rounded up to a whole number that is far enough away.
-/

namespace SuseokTrader

variable (value : ℚ)

def roundHalfEven : ℤ :=
  if value - ⌊value⌋ < 1 / 2 then ⌊value⌋
  else if 1 / 2 < value - ⌊value⌋ then ⌊value⌋ + 1
  else if ⌊value⌋ % 2 = 0 then ⌊value⌋
  else ⌊value⌋ + 1

def unitInLastPlace : ℚ :=
  2 ^ (Int.log 2 value - 52)

def toDouble : ℚ :=
  roundHalfEven (value / unitInLastPlace value) * unitInLastPlace value

theorem roundHalfEven_intCast (value : ℤ) : roundHalfEven value = value := by
  simp [roundHalfEven]

theorem floor_le_roundHalfEven : ⌊value⌋ ≤ roundHalfEven value := by
  rw [roundHalfEven]
  all_goals omega

theorem roundHalfEven_le_floor_succ : roundHalfEven value ≤ ⌊value⌋ + 1 := by
  rw [roundHalfEven]
  all_goals omega

variable {value : ℚ}

theorem le_roundHalfEven {whole : ℤ} (atLeast : (whole : ℚ) ≤ value) :
    whole ≤ roundHalfEven value :=
  (Int.le_floor.mpr atLeast).trans (floor_le_roundHalfEven value)

theorem roundHalfEven_le {whole : ℤ} (atMost : value ≤ whole) :
    roundHalfEven value ≤ whole := by
  rcases lt_or_eq_of_le atMost with below | same
  · have floorBelow : ⌊value⌋ < whole := Int.floor_lt.mpr below
    have next := roundHalfEven_le_floor_succ value
    omega
  · rw [same, roundHalfEven_intCast]

theorem roundHalfEven_lt {whole : ℤ} (below : value < whole - 1 / 2) :
    roundHalfEven value < whole := by
  have floorBelow : ⌊value⌋ < whole := by
    apply Int.floor_lt.mpr
    linarith
  rcases lt_or_eq_of_le (Int.lt_iff_add_one_le.mp floorBelow) with further | next
  · have atMost := roundHalfEven_le_floor_succ value
    omega
  · have isFloor : (⌊value⌋ : ℚ) = whole - 1 := by
      rw [← next]
      push_cast
      ring
    have near : value - ⌊value⌋ < 1 / 2 := by
      linarith
    rw [roundHalfEven, if_pos near]
    exact floorBelow

theorem unitInLastPlace_pos (value : ℚ) : 0 < unitInLastPlace value := by
  rw [unitInLastPlace]
  positivity

/-- Below the first whole number without a double of its own the distance of doubles divides
one. -/
theorem exists_mul_unitInLastPlace (positive : 0 < value) (bound : value < 2 ^ 53) :
    ∃ parts : ℕ, (parts : ℚ) * unitInLastPlace value = 1 := by
  have small : Int.log 2 value < 53 := by
    apply (Int.lt_zpow_iff_log_lt (by norm_num) positive).mp
    exact_mod_cast bound
  refine ⟨2 ^ (52 - Int.log 2 value).toNat, ?_⟩
  have exponent : ((52 - Int.log 2 value).toNat : ℤ) + (Int.log 2 value - 52) = 0 := by omega
  rw [unitInLastPlace, Nat.cast_pow, Nat.cast_ofNat, ← zpow_natCast,
    ← zpow_add₀ (by norm_num), exponent, zpow_zero]

theorem div_unitInLastPlace {parts : ℕ}
    (isUnit : (parts : ℚ) * unitInLastPlace value = 1) (whole : ℤ) :
    (whole : ℚ) / unitInLastPlace value = ((whole * parts : ℤ) : ℚ) := by
  rw [div_eq_iff (unitInLastPlace_pos value).ne']
  push_cast
  rw [mul_assoc, isUnit, mul_one]

theorem le_toDouble (positive : 0 < value) (bound : value < 2 ^ 53) {whole : ℤ}
    (atLeast : (whole : ℚ) ≤ value) : (whole : ℚ) ≤ toDouble value := by
  rcases exists_mul_unitInLastPlace positive bound with ⟨parts, isUnit⟩
  have scaled : ((whole * parts : ℤ) : ℚ) ≤ value / unitInLastPlace value := by
    rw [← div_unitInLastPlace isUnit]
    exact div_le_div_of_nonneg_right atLeast (unitInLastPlace_pos value).le
  have rounded : ((whole * parts : ℤ) : ℚ) ≤ roundHalfEven (value / unitInLastPlace value) := by
    exact_mod_cast le_roundHalfEven scaled
  rw [toDouble, ← div_le_iff₀ (unitInLastPlace_pos value), div_unitInLastPlace isUnit]
  exact rounded

theorem toDouble_le (positive : 0 < value) (bound : value < 2 ^ 53) {whole : ℤ}
    (atMost : value ≤ whole) : toDouble value ≤ whole := by
  rcases exists_mul_unitInLastPlace positive bound with ⟨parts, isUnit⟩
  have scaled : value / unitInLastPlace value ≤ ((whole * parts : ℤ) : ℚ) := by
    rw [← div_unitInLastPlace isUnit]
    exact div_le_div_of_nonneg_right atMost (unitInLastPlace_pos value).le
  have rounded : (roundHalfEven (value / unitInLastPlace value) : ℚ) ≤
      ((whole * parts : ℤ) : ℚ) := by
    exact_mod_cast roundHalfEven_le scaled
  rw [toDouble, ← le_div_iff₀ (unitInLastPlace_pos value), div_unitInLastPlace isUnit]
  exact rounded

theorem toDouble_lt (positive : 0 < value) (bound : value < 2 ^ 53) {whole : ℤ}
    (below : value < whole - unitInLastPlace value / 2) : toDouble value < whole := by
  have unit := unitInLastPlace_pos value
  rcases exists_mul_unitInLastPlace positive bound with ⟨parts, isUnit⟩
  have scaled : value / unitInLastPlace value < ((whole * parts : ℤ) : ℚ) - 1 / 2 := by
    rw [← div_unitInLastPlace isUnit, div_lt_iff₀ unit, sub_mul, div_mul_cancel₀ _ unit.ne']
    linarith
  have rounded : (roundHalfEven (value / unitInLastPlace value) : ℚ) <
      ((whole * parts : ℤ) : ℚ) := by
    exact_mod_cast roundHalfEven_lt scaled
  rw [toDouble, ← lt_div_iff₀ unit, div_unitInLastPlace isUnit]
  exact rounded

theorem unitInLastPlace_le (positive : 0 < value) {exponent : ℤ}
    (bound : value < 2 ^ exponent) : unitInLastPlace value ≤ 2 ^ (exponent - 53) := by
  have small : Int.log 2 value < exponent := by
    apply (Int.lt_zpow_iff_log_lt (by norm_num) positive).mp
    exact_mod_cast bound
  apply zpow_le_zpow_right₀ (by norm_num)
  omega

end SuseokTrader
