import SuseokTrader.EntryTiming.TickSize

/-!
# Counting ticks

Up to seventeen quadrillion won the divisions of doubles round down to the
tick they should, adding and subtracting ticks undo each other, and the
distance of two prices is the difference of their ranks. Above, the price just
below a tick is divided up to that tick again, and the loop down stands still.
-/

namespace SuseokTrader

namespace EntryTiming

/-! ## Divisions -/

variable {value : ℚ}

theorem trueDivide_of_lt {divisor : Int} (positive : 0 < value / divisor)
    (bound : value / divisor < 2 ^ 53) :
    trueDivide value divisor = .ok (toDouble (value / divisor)) := by
  have atMost : toDouble (value / divisor) ≤ ((2 ^ 53 : ℤ) : ℚ) := by
    apply toDouble_le positive bound
    exact_mod_cast bound.le
  have small : ¬ 2 ^ 1024 ≤ toDouble (value / divisor) := by
    apply not_le.mpr
    refine lt_of_le_of_lt atMost ?_
    have larger : (2 : ℚ) ^ 53 < 2 ^ 1024 := pow_lt_pow_right₀ (by norm_num) (by norm_num)
    exact larger
  rw [trueDivide, if_neg small]

theorem floorToTick_eq {tick : Int} (positive : 0 < value / tick)
    (bound : value / tick < 2 ^ 53) :
    floorToTick value tick = .ok (max (⌊toDouble (value / tick)⌋ * tick) tick) := by
  rw [floorToTick, trueDivide_of_lt positive bound]
  rfl

theorem floor_toDouble_cases {tick : Int} (tickPositive : 1 ≤ tick)
    (positive : 0 < value) (bound : value / tick < 2 ^ 53) :
    ⌊toDouble (value / tick)⌋ = ⌊value⌋ / tick ∨
      ⌊toDouble (value / tick)⌋ = ⌊value⌋ / tick + 1 := by
  have tickCast : (0 : ℚ) < tick := by exact_mod_cast tickPositive
  have quotient : 0 < value / tick := div_pos positive tickCast
  have split := Int.mul_ediv_add_emod ⌊value⌋ tick
  have rest := Int.emod_nonneg ⌊value⌋ (by omega : tick ≠ 0)
  have below := Int.emod_lt_of_pos ⌊value⌋ (by omega : 0 < tick)
  have atLeast : ((⌊value⌋ / tick : ℤ) : ℚ) ≤ value / tick := by
    rw [le_div_iff₀ tickCast]
    refine le_trans ?_ (Int.floor_le value)
    have whole : ⌊value⌋ / tick * tick ≤ ⌊value⌋ := by
      rw [mul_comm]
      omega
    exact_mod_cast whole
  have atMost : value / tick ≤ ((⌊value⌋ / tick + 1 : ℤ) : ℚ) := by
    rw [div_le_iff₀ tickCast]
    refine (Int.lt_floor_add_one value).le.trans ?_
    have whole : ⌊value⌋ + 1 ≤ (⌊value⌋ / tick + 1) * tick := by
      rw [add_mul, mul_comm]
      omega
    exact_mod_cast whole
  have low := Int.le_floor.mpr (le_toDouble quotient bound atLeast)
  have high : ⌊toDouble (value / tick)⌋ ≤ ⌊value⌋ / tick + 1 := by
    have rounded := toDouble_le quotient bound atMost
    exact_mod_cast (Int.floor_le _).trans rounded
  omega

theorem tickAt_cast_pos (rank : ℕ) : (0 : ℚ) < tickAt rank := by
  exact_mod_cast (tickAt_bounds rank).1

variable {rank : ℕ} {price : Int}

theorem le_tickAt_mul (below : price < priceAt (rank + 1))
    (bound : price ≤ largestPrice) : price ≤ 2 ^ 44 * tickAt rank := by
  rw [priceAt_succ] at below
  rw [largestPrice] at bound
  rcases rank_cases rank with band | band | band | band | band | band | band
  all_goals omega

theorem toDouble_lt_of_away (positive : 0 < value) (bound : value ≤ 2 ^ 44)
    {whole : ℤ} (away : value ≤ whole - 1 / 1000) : toDouble value < whole := by
  have limit : value < 2 ^ 53 := lt_of_le_of_lt bound (by norm_num)
  rcases lt_or_eq_of_le bound with under | atLimit
  · have exponent : value < 2 ^ (44 : ℤ) := by exact_mod_cast under
    have unit := unitInLastPlace_le positive exponent
    have small : unitInLastPlace value ≤ 1 / 512 := unit.trans (by norm_num)
    apply toDouble_lt positive limit
    linarith
  · have isWhole : value ≤ ((2 ^ 44 : ℤ) : ℚ) := by
      rw [atLimit]
      norm_num
    have larger : ((2 ^ 44 : ℤ) : ℚ) < whole := by
      have same : ((2 ^ 44 : ℤ) : ℚ) = value := by
        rw [atLimit]
        norm_num
      linarith
    exact lt_of_le_of_lt (toDouble_le positive limit isWhole) larger

/-- A whole price is divided down to its tick. -/
theorem floorToTick_of_between (atLeast : priceAt rank ≤ price)
    (below : price < priceAt (rank + 1)) (bound : price ≤ largestPrice) :
    floorToTick (price : ℚ) (tickAt rank) = .ok (priceAt rank) := by
  have tickCast := tickAt_cast_pos rank
  have tick := tickAt_bounds rank
  have first := priceAt_pos rank
  have isTick := ediv_mul_of_between atLeast below
  have limit := le_tickAt_mul below bound
  have pricePositive : 0 < price := by omega
  have positive : (0 : ℚ) < price := by exact_mod_cast pricePositive
  have quotientPositive : 0 < (price : ℚ) / tickAt rank := div_pos positive tickCast
  have quotientLimit : (price : ℚ) / tickAt rank ≤ 2 ^ 44 := by
    rw [div_le_iff₀ tickCast]
    exact_mod_cast limit
  have quotientBound : (price : ℚ) / tickAt rank < 2 ^ 53 :=
    lt_of_le_of_lt quotientLimit (by norm_num)
  have away : (price : ℚ) / tickAt rank ≤ ((price / tickAt rank + 1 : ℤ) : ℚ) - 1 / 1000 := by
    have rest := Int.emod_lt_of_pos price (by omega : 0 < tickAt rank)
    have split := Int.mul_ediv_add_emod price (tickAt rank)
    have inIntegers : price + 1 ≤ (price / tickAt rank + 1) * tickAt rank := by
      rw [add_mul, mul_comm]
      omega
    have whole : (price : ℚ) + 1 ≤ ((price / tickAt rank + 1 : ℤ) : ℚ) * tickAt rank := by
      exact_mod_cast inIntegers
    have tickAtMost : (tickAt rank : ℚ) ≤ 1000 := by exact_mod_cast tick.2
    rw [div_le_iff₀ tickCast]
    linarith
  have isFloor : ⌊toDouble ((price : ℚ) / tickAt rank)⌋ = price / tickAt rank := by
    rcases floor_toDouble_cases tick.1 positive quotientBound with same | next
    · rw [same, Int.floor_intCast]
    · have rounded := toDouble_lt_of_away quotientPositive quotientLimit away
      have atLeastNext := Int.floor_le (toDouble ((price : ℚ) / tickAt rank))
      rw [next] at atLeastNext
      exact absurd atLeastNext (not_le.mpr rounded)
  rw [floorToTick_eq quotientPositive quotientBound, isFloor, isTick]
  have least : tickAt rank ≤ priceAt rank := Int.le_of_dvd (by omega) (tickAt_dvd rank)
  rw [max_eq_left least]

theorem krxTickSize_of_between (atLeast : priceAt rank ≤ price)
    (below : price < priceAt (rank + 1)) : krxTickSize (price : ℚ) = .ok (tickAt rank) := by
  have first := priceAt_pos rank
  have pricePositive : 0 < price := by omega
  have positive : ¬ (price : ℚ) ≤ 0 := by
    apply not_le.mpr
    exact_mod_cast pricePositive
  rw [krxTickSize, if_neg positive, tickBand_of_between atLeast below]

theorem normalizeTickPrice_of_between (atLeast : priceAt rank ≤ price)
    (below : price < priceAt (rank + 1)) (bound : price ≤ largestPrice) :
    normalizeTickPrice (price : ℚ) = .ok (priceAt rank) := by
  have first := priceAt_pos rank
  have pricePositive : 0 < price := by omega
  have positive : ¬ (price : ℚ) ≤ 0 := by
    apply not_le.mpr
    exact_mod_cast pricePositive
  rw [normalizeTickPrice, if_neg positive, krxTickSize_of_between atLeast below]
  exact floorToTick_of_between atLeast below bound

theorem priceAt_lt_succ (rank : ℕ) : priceAt rank < priceAt (rank + 1) :=
  priceAt_strictMono (Nat.lt_succ_self rank)

theorem normalizeTickPrice_priceAt (bound : priceAt rank ≤ largestPrice) :
    normalizeTickPrice (priceAt rank : ℚ) = .ok (priceAt rank) :=
  normalizeTickPrice_of_between (le_refl _) (priceAt_lt_succ rank) bound

theorem tickBand_floor (price : ℚ) : tickBand price = tickBand (⌊price⌋ : ℤ) := by
  have casts : ∀ bound : ℤ, ((⌊price⌋ : ℤ) : ℚ) < bound ↔ price < bound := fun bound => by
    rw [Int.cast_lt, Int.floor_lt]
  have of2000 := casts 2000
  have of5000 := casts 5000
  have of20000 := casts 20000
  have of50000 := casts 50000
  have of200000 := casts 200000
  have of500000 := casts 500000
  push_cast at of2000 of5000 of20000 of50000 of200000 of500000
  simp only [tickBand, SuseokTrader.krxTickSize, of2000, of5000, of20000, of50000, of200000,
    of500000]

theorem priceAt_largestRank : priceAt (6799 + (2 ^ 44 - 500)) = largestPrice := by
  norm_num [priceAt, largestPrice]

theorem priceAt_succ_le_largest (below : priceAt rank < largestPrice) :
    priceAt (rank + 1) ≤ largestPrice := by
  rw [← priceAt_largestRank] at below ⊢
  exact priceAt_strictMono.monotone (priceAt_strictMono.lt_iff_lt.mp below)

/-- Every price in the range is aligned to a price of the grid. -/
theorem normalizeTickPrice_grid {price : ℚ} (positive : 0 < price) (bound : price ≤ largestPrice) :
    ∃ rank, normalizeTickPrice price = .ok (priceAt rank) ∧ priceAt rank ≤ largestPrice := by
  have floorBound : ⌊price⌋ ≤ largestPrice := by
    exact_mod_cast (Int.floor_le price).trans bound
  have floorPositive : 0 ≤ ⌊price⌋ := Int.floor_nonneg.mpr positive.le
  have isNormal : normalizeTickPrice price = floorToTick price (tickBand price) := by
    rw [normalizeTickPrice, if_neg (not_le.mpr positive), krxTickSize,
      if_neg (not_le.mpr positive)]
    rfl
  rw [isNormal, tickBand_floor]
  rcases lt_or_eq_of_le floorBound with under | atLargest
  · rcases Int.lt_or_le ⌊price⌋ 1 with small | large
    · have isZero : ⌊price⌋ = 0 := by omega
      have isOne : tickBand ((0 : ℤ) : ℚ) = 1 := by
        rfl
      have quotientBound : price / ((1 : ℤ) : ℚ) < 2 ^ 53 := by
        have belowOne := Int.lt_floor_add_one price
        rw [isZero] at belowOne
        norm_num at belowOne ⊢
        linarith
      have quotientPositive : 0 < price / ((1 : ℤ) : ℚ) := by
        norm_num
        exact positive
      refine ⟨0, ?_, by decide⟩
      rw [isZero, isOne, floorToTick_eq quotientPositive quotientBound]
      rcases floor_toDouble_cases (le_refl 1) positive quotientBound with same | next
      · rw [same, isZero]
        rfl
      · rw [next, isZero]
        rfl
    · rcases exists_rank_between large with ⟨rank, atLeast, below⟩
      have tickCast := tickAt_cast_pos rank
      have limit := le_tickAt_mul below floorBound
      have quotientPositive : 0 < price / (tickAt rank : ℚ) := div_pos positive tickCast
      have quotientBound : price / (tickAt rank : ℚ) < 2 ^ 53 := by
        rw [div_lt_iff₀ tickCast]
        have whole : (⌊price⌋ : ℚ) ≤ 2 ^ 44 * tickAt rank := by exact_mod_cast limit
        have next := Int.lt_floor_add_one price
        have tickAtLeast : (1 : ℚ) ≤ tickAt rank := by exact_mod_cast (tickAt_bounds rank).1
        linarith
      have isTick := ediv_mul_of_between atLeast below
      have first := priceAt_pos rank
      have least : tickAt rank ≤ priceAt rank := Int.le_of_dvd (by omega) (tickAt_dvd rank)
      rw [tickBand_of_between atLeast below, floorToTick_eq quotientPositive quotientBound]
      rcases floor_toDouble_cases (tickAt_bounds rank).1 positive quotientBound with same | next
      · refine ⟨rank, ?_, atLeast.trans floorBound⟩
        rw [same, isTick, max_eq_left least]
      · refine ⟨rank + 1, ?_, priceAt_succ_le_largest (lt_of_le_of_lt atLeast under)⟩
        rw [next, add_mul, one_mul, isTick, priceAt_succ, max_eq_left (by omega)]
  · have isPrice : price = ((priceAt (6799 + (2 ^ 44 - 500)) : ℤ) : ℚ) := by
      apply le_antisymm
      · exact bound
      · rw [priceAt_largestRank, ← atLargest]
        exact Int.floor_le price
    refine ⟨6799 + (2 ^ 44 - 500), ?_, priceAt_largestRank.le⟩
    rw [← tickBand_floor, ← isNormal]
    have normal := normalizeTickPrice_priceAt priceAt_largestRank.le
    rw [← isPrice] at normal
    exact normal

/-! ## Adding and subtracting -/

theorem addTicksFrom_priceAt (rank ticks : ℕ) :
    addTicksFrom (priceAt rank) ticks = .ok (priceAt (rank + ticks)) := by
  induction ticks generalizing rank with
  | zero => rfl
  | succ ticks ih =>
      rw [addTicksFrom, krxTickSize_of_between (le_refl _) (priceAt_lt_succ rank)]
      have next := ih (rank + 1)
      rw [priceAt_succ, Nat.add_right_comm] at next
      exact next

theorem subtractTicksFrom_priceAt {rank ticks : ℕ}
    (bound : priceAt (rank + ticks) ≤ largestPrice) :
    subtractTicksFrom (priceAt (rank + ticks)) ticks = .ok (priceAt rank) := by
  induction ticks with
  | zero => rfl
  | succ ticks ih =>
      have first := priceAt_pos (rank + ticks)
      have steps := priceAt_lt_succ (rank + ticks)
      have large : ¬ priceAt (rank + (ticks + 1)) ≤ 1 := by
        rw [← Nat.add_assoc]
        omega
      have below : priceAt (rank + ticks + 1) - 1 < priceAt (rank + ticks + 1) := by omega
      have atLeast : priceAt (rank + ticks) ≤ priceAt (rank + ticks + 1) - 1 := by omega
      have inRange : priceAt (rank + ticks + 1) - 1 ≤ largestPrice := by
        rw [← Nat.add_assoc] at bound
        omega
      rw [subtractTicksFrom, if_neg large, ← Nat.add_assoc,
        krxTickSize_of_between atLeast below]
      have floored := floorToTick_of_between atLeast below inRange
      simp only [Bind.bind, Except.bind, floored]
      exact ih (by omega)

theorem priceAt_cast_pos (rank : ℕ) : ¬ (priceAt rank : ℚ) ≤ 0 := by
  have first := priceAt_pos rank
  apply not_le.mpr
  exact_mod_cast (by omega : 0 < priceAt rank)

theorem addTicks_priceAt (bound : priceAt rank ≤ largestPrice) (ticks : ℕ) :
    addTicks (priceAt rank) ticks = .ok (priceAt (rank + ticks)) := by
  rw [addTicks, if_neg (priceAt_cast_pos rank), normalizeTickPrice_priceAt bound]
  exact addTicksFrom_priceAt rank ticks

theorem subtractTicks_priceAt {rank ticks : ℕ} (bound : priceAt (rank + ticks) ≤ largestPrice) :
    subtractTicks (priceAt (rank + ticks)) ticks = .ok (priceAt rank) := by
  rw [subtractTicks, if_neg (priceAt_cast_pos _), normalizeTickPrice_priceAt bound]
  exact subtractTicksFrom_priceAt bound

/-! ## Distances -/

theorem distanceFrom_up {rank steps fuel : ℕ} (bound : priceAt (rank + steps) ≤ largestPrice)
    (enough : steps ≤ fuel) (distance : Int) :
    distanceFrom 1 (priceAt (rank + steps)) fuel (priceAt rank) distance =
      some (.ok (distance + steps)) := by
  induction steps generalizing rank fuel distance with
  | zero =>
      cases fuel with
      | zero => simp [distanceFrom]
      | succ fuel => simp [distanceFrom]
  | succ steps ih =>
      cases fuel with
      | zero => omega
      | succ fuel =>
          have increases : priceAt rank < priceAt (rank + (steps + 1)) :=
            priceAt_strictMono (by omega)
          have between : priceAt (rank + 1) ≤ priceAt (rank + (steps + 1)) :=
            priceAt_strictMono.monotone (by omega)
          have added : addTicks (priceAt rank : ℚ) 1 = .ok (priceAt (rank + 1)) :=
            addTicks_priceAt (increases.le.trans bound) 1
          have isLast : rank + (steps + 1) = rank + 1 + steps := by omega
          rw [distanceFrom, if_neg increases.ne]
          simp only [Int.one_pos, if_true, added]
          rw [if_neg (by omega)]
          rw [isLast] at bound ⊢
          have rest := ih bound (Nat.le_of_succ_le_succ enough) (distance + 1)
          rw [rest]
          push_cast
          ring_nf

theorem distanceFrom_down {rank steps fuel : ℕ} (bound : priceAt (rank + steps) ≤ largestPrice)
    (enough : steps ≤ fuel) (distance : Int) :
    distanceFrom (-1) (priceAt rank) fuel (priceAt (rank + steps)) distance =
      some (.ok (distance - steps)) := by
  induction steps generalizing fuel distance with
  | zero =>
      cases fuel with
      | zero => simp [distanceFrom]
      | succ fuel => simp [distanceFrom]
  | succ steps ih =>
      cases fuel with
      | zero => omega
      | succ fuel =>
          have increases : priceAt rank < priceAt (rank + (steps + 1)) :=
            priceAt_strictMono (by omega)
          have between : priceAt rank ≤ priceAt (rank + steps) :=
            priceAt_strictMono.monotone (by omega)
          have next := priceAt_lt_succ (rank + steps)
          have subtracted : subtractTicks (priceAt (rank + (steps + 1)) : ℚ) 1 =
              .ok (priceAt (rank + steps)) :=
            @subtractTicks_priceAt (rank + steps) 1 bound
          rw [distanceFrom, if_neg increases.ne', if_neg (by omega), subtracted]
          simp only
          rw [if_neg (by omega)]
          have rest := ih (next.le.trans bound) (Nat.le_of_succ_le_succ enough) (distance + -1)
          rw [rest]
          push_cast
          ring_nf

theorem measures_of_ranks {startPrice endPrice : ℚ} {start last : ℕ}
    (isStart : normalizeTickPrice startPrice = .ok (priceAt start))
    (isLast : normalizeTickPrice endPrice = .ok (priceAt last))
    (startBound : priceAt start ≤ largestPrice) (lastBound : priceAt last ≤ largestPrice) :
    Measures startPrice endPrice (last - start) := by
  refine ⟨start + last, ?_⟩
  intro fuel enough
  rw [priceTickDistance, isStart, isLast]
  dsimp only
  rcases lt_trichotomy start last with below | same | above
  · have increases := priceAt_strictMono below
    rcases Nat.exists_eq_add_of_lt below with ⟨steps, isSum⟩
    have isRank : last = start + (steps + 1) := by omega
    rw [if_neg increases.ne, if_pos increases]
    subst isRank
    rw [distanceFrom_up lastBound (by omega) 0]
    push_cast
    ring_nf
  · subst same
    rw [if_pos rfl, sub_self]
  · have increases := priceAt_strictMono above
    rcases Nat.exists_eq_add_of_lt above with ⟨steps, isSum⟩
    have isRank : start = last + (steps + 1) := by omega
    rw [if_neg increases.ne', if_neg increases.not_gt]
    subst isRank
    rw [distanceFrom_down startBound (by omega) 0]
    push_cast
    ring_nf

/-! ## The laws of the ticks -/

/-- Up to the greatest price ticks that are added can be subtracted, distances count them, the
loop comes to its end, and distances are antisymmetric and additive. -/
theorem tick_arithmetic_consistent :
    (∀ (price : Int) (ticks : ℕ), TickAligned price → price ≤ largestPrice →
      ∃ above : Int, addTicks price ticks = .ok above ∧
        (above ≤ largestPrice →
          subtractTicks above ticks = .ok price ∧ Measures price above ticks ∧
            Measures above price (-ticks))) ∧
    ∀ first second third : ℚ, 0 < first → 0 < second → 0 < third →
      first ≤ largestPrice → second ≤ largestPrice → third ≤ largestPrice →
      ∃ distance next : Int, Measures first second distance ∧ Measures second first (-distance) ∧
        Measures second third next ∧ Measures first third (distance + next) := by
  constructor
  · intro price ticks aligned bound
    rcases aligned.exists_rank with ⟨rank, rfl⟩
    refine ⟨priceAt (rank + ticks), addTicks_priceAt bound ticks, ?_⟩
    intro aboveBound
    have isPrice := normalizeTickPrice_priceAt bound
    have isAbove := normalizeTickPrice_priceAt aboveBound
    have up := measures_of_ranks isPrice isAbove bound aboveBound
    have down := measures_of_ranks isAbove isPrice aboveBound bound
    push_cast at up down
    rw [add_sub_cancel_left] at up
    rw [sub_add_cancel_left] at down
    exact ⟨subtractTicks_priceAt aboveBound, up, down⟩
  · intro first second third firstPositive secondPositive thirdPositive firstBound secondBound
      thirdBound
    rcases normalizeTickPrice_grid firstPositive firstBound with ⟨one, isFirst, oneBound⟩
    rcases normalizeTickPrice_grid secondPositive secondBound with ⟨two, isSecond, twoBound⟩
    rcases normalizeTickPrice_grid thirdPositive thirdBound with ⟨three, isThird, threeBound⟩
    refine ⟨two - one, three - two, measures_of_ranks isFirst isSecond oneBound twoBound, ?_,
      measures_of_ranks isSecond isThird twoBound threeBound, ?_⟩
    · rw [neg_sub]
      exact measures_of_ranks isSecond isFirst twoBound oneBound
    · have sum : (two : Int) - one + (three - two) = three - one := by ring
      rw [sum]
      exact measures_of_ranks isFirst isThird oneBound threeBound

def addedAndSubtracted (price : Int) : Option Int × Option Int :=
  match addTicks price 1 with
  | .ok above => (some above, (subtractTicks above 1).toOption)
  | .error _ => (none, none)

theorem addedAndSubtracted_largestPrice :
    addedAndSubtracted 17592186044416000 =
      (some 17592186044417000, some 17592186044417000) := by
  decide +kernel

theorem tickAligned_largestPrice : TickAligned 17592186044416000 where
  positive := by decide
  aligned := by
    rw [tickBand_intCast]
    decide

/-- From the greatest price on a tick that is added is not subtracted: the price just below is
divided up to the tick again. -/
theorem added_tick_is_not_subtracted :
    ¬ ∀ (price : Int) (ticks : ℕ), TickAligned price →
      ∃ above : Int, addTicks price ticks = .ok above ∧ subtractTicks above ticks = .ok price := by
  intro undoes
  rcases undoes 17592186044416000 1 tickAligned_largestPrice with ⟨above, added, subtracted⟩
  have runs := addedAndSubtracted_largestPrice
  have isAdded : addTicks (17592186044416000 : Int) 1 = .ok above := added
  have isSubtracted : subtractTicks (above : Int) 1 = .ok 17592186044416000 := subtracted
  rw [addedAndSubtracted, isAdded] at runs
  dsimp only at runs
  rw [isSubtracted, Prod.mk.injEq] at runs
  cases runs.2

end EntryTiming

end SuseokTrader
