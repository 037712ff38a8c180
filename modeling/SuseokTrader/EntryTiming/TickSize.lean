import SuseokTrader.Lib.Doubles
import SuseokTrader.LiveSim.Orders

/-!
# KRX tick sizes

The price of a share moves in ticks whose size grows with the price. A price
is aligned down to a tick by a division of doubles, and ticks are counted by
going from one price to the other. Up a tick is that of the price, and down it
is that of the price just below.
-/

namespace SuseokTrader

namespace EntryTiming

/-! ## Ticks -/

variable (price : ℚ)

def tickBand : Int :=
  SuseokTrader.krxTickSize price

def krxTickSize : Checked Int :=
  if price ≤ 0 then Checked.invalid "price must be > 0" else .ok (tickBand price)

def trueDivide (value : ℚ) (divisor : Int) : Checked ℚ :=
  if 2 ^ 1024 ≤ toDouble (value / divisor) then
    .error (.crash "integer division result too large for a float")
  else .ok (toDouble (value / divisor))

/-- `max(int(math.floor(value / tick) * tick), tick)` -/
def floorToTick (value : ℚ) (tick : Int) : Checked Int := do
  let quotient ← trueDivide value tick
  return max (⌊quotient⌋ * tick) tick

def normalizeTickPrice : Checked Int :=
  if price ≤ 0 then Checked.invalid "price must be > 0"
  else do
    let tick ← krxTickSize price
    floorToTick price tick

/-! ## Adding and subtracting ticks -/

def addTicksFrom (adjusted : Int) : Nat → Checked Int
  | 0 => .ok adjusted
  | ticks + 1 => do
      let tick ← krxTickSize adjusted
      addTicksFrom (adjusted + tick) ticks

def addTicks (ticks : Int) : Checked Int :=
  if price ≤ 0 then Checked.invalid "price must be > 0"
  else if ticks < 0 then Checked.invalid "ticks must be >= 0"
  else do
    let adjusted ← normalizeTickPrice price
    addTicksFrom adjusted ticks.toNat

def subtractTicksFrom (adjusted : Int) : Nat → Checked Int
  | 0 => .ok adjusted
  | ticks + 1 =>
      if adjusted ≤ 1 then .ok 1
      else do
        let tick ← krxTickSize ((adjusted - 1 : Int) : ℚ)
        let adjusted ← floorToTick ((adjusted - 1 : Int) : ℚ) tick
        subtractTicksFrom adjusted ticks

def subtractTicks (ticks : Int) : Checked Int :=
  if price ≤ 0 then Checked.invalid "price must be > 0"
  else if ticks < 0 then Checked.invalid "ticks must be >= 0"
  else do
    let adjusted ← normalizeTickPrice price
    subtractTicksFrom adjusted ticks.toNat

/-! ## The distance of two prices -/

/-- The loop from one price to the other. Without fuel it has not come to its end. -/
def distanceFrom (direction last : Int) : Nat → Int → Int → Option (Checked Int)
  | 0, current, distance => if current = last then some (.ok distance) else none
  | fuel + 1, current, distance =>
      if current = last then some (.ok distance)
      else
        match if 0 < direction then addTicks current 1 else subtractTicks current 1 with
        | .error failure => some (.error failure)
        | .ok nextPrice =>
            if 0 < direction ∧ last < nextPrice ∨ direction < 0 ∧ nextPrice < last then
              some (Checked.invalid "end_price must align to a KRX tick from start_price")
            else distanceFrom direction last fuel nextPrice (distance + direction)

def priceTickDistance (fuel : Nat) (startPrice endPrice : ℚ) : Option (Checked Int) :=
  match normalizeTickPrice startPrice, normalizeTickPrice endPrice with
  | .error failure, _ => some (.error failure)
  | .ok _, .error failure => some (.error failure)
  | .ok start, .ok last =>
      if start = last then some (.ok 0)
      else distanceFrom (if start < last then 1 else -1) last fuel start 0

/-- The loop comes to its end, with this distance. -/
def Measures (startPrice endPrice : ℚ) (distance : Int) : Prop :=
  ∃ enough, ∀ fuel, enough ≤ fuel →
    priceTickDistance fuel startPrice endPrice = some (.ok distance)

/-! ## The grid of prices -/

/-- A price on a tick. -/
structure TickAligned (price : Int) : Prop where
  positive : 1 ≤ price
  aligned : price % tickBand price = 0

/-- The greatest price below which the quotients of all prices round down as they should. -/
def largestPrice : Int :=
  1000 * 2 ^ 44

/-- The price so many ticks above one won. -/
def priceAt (rank : ℕ) : Int :=
  if rank < 1999 then rank + 1
  else if rank < 2599 then 2000 + 5 * (rank - 1999)
  else if rank < 4099 then 5000 + 10 * (rank - 2599)
  else if rank < 4699 then 20000 + 50 * (rank - 4099)
  else if rank < 6199 then 50000 + 100 * (rank - 4699)
  else if rank < 6799 then 200000 + 500 * (rank - 6199)
  else 500000 + 1000 * (rank - 6799)

/-- The tick size there. -/
def tickAt (rank : ℕ) : Int :=
  if rank < 1999 then 1
  else if rank < 2599 then 5
  else if rank < 4099 then 10
  else if rank < 4699 then 50
  else if rank < 6199 then 100
  else if rank < 6799 then 500
  else 1000

theorem tickBand_intCast (price : Int) :
    tickBand price =
      if price < 2000 then 1
      else if price < 5000 then 5
      else if price < 20000 then 10
      else if price < 50000 then 50
      else if price < 200000 then 100
      else if price < 500000 then 500
      else 1000 := by
  have casts : ∀ bound : Int, (price : ℚ) < bound ↔ price < bound := fun bound => Int.cast_lt
  have of2000 := casts 2000
  have of5000 := casts 5000
  have of20000 := casts 20000
  have of50000 := casts 50000
  have of200000 := casts 200000
  have of500000 := casts 500000
  push_cast at of2000 of5000 of20000 of50000 of200000 of500000
  simp only [tickBand, SuseokTrader.krxTickSize, of2000, of5000, of20000, of50000, of200000,
    of500000]

variable (rank : ℕ)

theorem priceAt_succ : priceAt (rank + 1) = priceAt rank + tickAt rank := by
  rw [priceAt, priceAt, tickAt]
  all_goals omega

theorem tickAt_bounds : 1 ≤ tickAt rank ∧ tickAt rank ≤ 1000 := by
  rw [tickAt]
  all_goals omega

theorem priceAt_strictMono : StrictMono priceAt := by
  apply strictMono_nat_of_lt_succ
  intro rank
  rw [priceAt_succ]
  have tick := (tickAt_bounds rank).1
  omega

theorem priceAt_pos : 1 ≤ priceAt rank :=
  priceAt_strictMono.monotone (Nat.zero_le rank)

theorem rank_cases :
    (rank < 1999 ∧ priceAt rank = rank + 1 ∧ tickAt rank = 1) ∨
    (1999 ≤ rank ∧ rank < 2599 ∧ priceAt rank = 2000 + 5 * (rank - 1999) ∧ tickAt rank = 5) ∨
    (2599 ≤ rank ∧ rank < 4099 ∧ priceAt rank = 5000 + 10 * (rank - 2599) ∧ tickAt rank = 10) ∨
    (4099 ≤ rank ∧ rank < 4699 ∧ priceAt rank = 20000 + 50 * (rank - 4099) ∧
      tickAt rank = 50) ∨
    (4699 ≤ rank ∧ rank < 6199 ∧ priceAt rank = 50000 + 100 * (rank - 4699) ∧
      tickAt rank = 100) ∨
    (6199 ≤ rank ∧ rank < 6799 ∧ priceAt rank = 200000 + 500 * (rank - 6199) ∧
      tickAt rank = 500) ∨
    (6799 ≤ rank ∧ priceAt rank = 500000 + 1000 * (rank - 6799) ∧ tickAt rank = 1000) := by
  rw [priceAt, tickAt]
  split_ifs
  all_goals omega

theorem tickBand_of_between {rank : ℕ} {price : Int} (atLeast : priceAt rank ≤ price)
    (below : price < priceAt (rank + 1)) : tickBand price = tickAt rank := by
  rw [priceAt_succ] at below
  rw [tickBand_intCast]
  rcases rank_cases rank with band | band | band | band | band | band | band
  all_goals
    all_goals omega

theorem tickAt_dvd : tickAt rank ∣ priceAt rank := by
  rw [priceAt, tickAt]
  split_ifs
  all_goals omega

theorem rank_lt_priceAt : (rank : Int) < priceAt rank := by
  have band := rank_cases rank
  omega

theorem exists_rank_between {price : Int} (positive : 1 ≤ price) :
    ∃ rank, priceAt rank ≤ price ∧ price < priceAt (rank + 1) := by
  have exceeds : ∃ rank, price < priceAt rank := by
    refine ⟨price.toNat, ?_⟩
    have above := rank_lt_priceAt price.toNat
    omega
  have least := Nat.find_spec exceeds
  cases isRank : Nat.find exceeds with
  | zero =>
      rw [isRank] at least
      exact absurd least (not_lt.mpr positive)
  | succ rank =>
      rw [isRank] at least
      have earlier : rank < Nat.find exceeds := by omega
      have notYet := Nat.find_min exceeds earlier
      exact ⟨rank, not_lt.mp notYet, least⟩

theorem ediv_mul_of_between {rank : ℕ} {price : Int} (atLeast : priceAt rank ≤ price)
    (below : price < priceAt (rank + 1)) :
    price / tickAt rank * tickAt rank = priceAt rank := by
  rcases tickAt_dvd rank with ⟨count, isPrice⟩
  have quotient : price / tickAt rank = count := by
    rw [priceAt_succ] at below
    apply le_antisymm
    · apply Int.lt_add_one_iff.mp
      apply Int.ediv_lt_of_lt_mul (by omega)
      linarith
    · apply Int.le_ediv_of_mul_le (by omega)
      linarith
  rw [quotient, isPrice, mul_comm]

theorem TickAligned.exists_rank {price : Int} (aligned : TickAligned price) :
    ∃ rank, price = priceAt rank := by
  rcases exists_rank_between aligned.positive with ⟨rank, atLeast, below⟩
  have divides := Int.dvd_of_emod_eq_zero aligned.aligned
  rw [tickBand_of_between atLeast below] at divides
  refine ⟨rank, ?_⟩
  rw [← ediv_mul_of_between atLeast below, Int.ediv_mul_cancel divides]

end EntryTiming

end SuseokTrader
