import SuseokTrader.EntryTiming.TickLaws
import SuseokTrader.LiveSim.ExitEffects
import SuseokTrader.OrderPlan.Eligibility

/-!
# The size of plans and of their intents

A plan takes as many shares as its notional buys, and one at least where one
costs no more than the cap. An intent takes the shares of its plan that the
caps buy at the price of its own time. Neither leaves its caps, and both come
out without a share exactly where one share costs more than the cap.
-/

namespace SuseokTrader

namespace EntryTiming

/-! ## Drafts of plans -/

inductive OrderPlanStatus where
  | planReady
  | waitRetry
  | dataWait
  | blockedChase
  | blockedOverheat
  | blockedStale
  | blockedRisk
  | noPlan
deriving DecidableEq

inductive EntryTimingState where
  | goodPullback
  | pullbackReclaim
  | vwapReclaim
  | momentumContinuation
  | chaseHigh
  | vwapOverextended
  | failedBreakout
  | noSetup
  | dataWait
  | stale
  | blockedContext
deriving DecidableEq

/-- `READY_TIMING_STATES` -/
def EntryTimingState.isReady : EntryTimingState → Bool
  | goodPullback | pullbackReclaim | vwapReclaim | momentumContinuation => true
  | _ => false

structure EntryTimingSettings where
  defaultNotional : ℚ
  maxNotional : ℚ
  priceOffsetTicks : Nat
  maxSpreadTicks : Int
  minTurnoverKrw : ℚ
  minExecutionStrength : ℚ
  requireStrategyMatched : Bool
  requireRiskObservePass : Bool
  allowMarketOrder : Bool
  planTtlSeconds : Nat
  default_pos : 0 < defaultNotional
  default_le : defaultNotional ≤ maxNotional

structure EntryTimingInput where
  pipelineCoherency : Option (String × List String)
  riskObservationStatus : Option String
  strategyObservationStatus : Option String
  spreadTicks : Option Int
  turnoverKrw : Option ℚ
  executionStrength : Option ℚ
  currentPrice : Option ℚ
  bestAsk : Option ℚ
  priorityReasons : List String

structure EntryTimingEvaluation where
  entryTimingState : EntryTimingState
  status : OrderPlanStatus
  reasonCodes : List String

def dedupeReasons (reasons : List String) : List String :=
  ((reasons.map fun reason => Text.upper (Text.strip reason)).filter (· ≠ "")).eraseDups

variable (settings : EntryTimingSettings)

variable (item : EntryTimingInput)

def softReasons : List String :=
  (match item.spreadTicks with
    | none => ["SPREAD_MISSING"]
    | some ticks => if settings.maxSpreadTicks < ticks then ["SPREAD_TOO_WIDE"] else []) ++
  (match item.turnoverKrw with
    | none => ["TURNOVER_WARMUP"]
    | some turnover => if turnover < settings.minTurnoverKrw then ["TURNOVER_BELOW_MIN"] else []) ++
  (match item.executionStrength with
    | none => ["EXECUTION_STRENGTH_WARMUP"]
    | some strength =>
        if strength < settings.minExecutionStrength then ["EXECUTION_STRENGTH_BELOW_MIN"]
        else []) ++
  (match item.strategyObservationStatus with
    | none => ["STRATEGY_OBSERVATION_MISSING"]
    | some status =>
        if settings.requireStrategyMatched ∧ status ≠ "MATCHED_OBSERVATION" then
          ["STRATEGY_NOT_MATCHED"]
        else []) ++
  (match item.riskObservationStatus with
    | none => ["RISK_OBSERVATION_MISSING"]
    | some status =>
        if settings.requireRiskObservePass ∧ status ≠ "OBSERVE_PASS" then ["RISK_NOT_OBSERVE_PASS"]
        else [])

variable (evaluation : EntryTimingEvaluation)

def resolveStatus : OrderPlanStatus × List String :=
  match item.pipelineCoherency.filter fun coherency => Text.upper coherency.1 ≠ "PASS" with
  | some coherency =>
      (.dataWait, dedupeReasons (coherency.2 ++ ["PIPELINE_COHERENCY_GUARD_BLOCKED"]))
  | none =>
      if item.riskObservationStatus = some "OBSERVE_BLOCK" then
        (.blockedRisk, ["RISK_OBSERVE_BLOCK"])
      else if item.riskObservationStatus = some "DATA_WAIT" ∨
          item.riskObservationStatus = some "INVALID_CONTEXT" then
        (.dataWait, ["RISK_DATA_WAIT"])
      else if item.riskObservationStatus = some "STALE_CONTEXT" then
        (.blockedRisk, ["RISK_STALE_CONTEXT"])
      else if !evaluation.entryTimingState.isReady then (evaluation.status, [])
      else if softReasons settings item ≠ [] then (.waitRetry, softReasons settings item)
      else (.planReady, ["PLAN_READY_DRAFT_ONLY"])

structure LimitPriceResult where
  limitPrice : Option Int
  source : String
  reasonCodes : List String

def calculateLimitPrice :
    Checked LimitPriceResult :=
  if settings.allowMarketOrder then .ok ⟨none, "MARKET_DISABLED", ["MARKET_ORDER_DISABLED"]⟩
  else
    match item.currentPrice.filter (0 < ·) with
    | none => .ok ⟨none, "DATA_WAIT", ["PRICE_MISSING"]⟩
    | some currentPrice =>
        let bestAsk := item.bestAsk.filter fun ask =>
          0 < ask ∧ item.spreadTicks.any fun ticks => ticks ≤ settings.maxSpreadTicks
        let (basePrice, source, reason) := match bestAsk with
          | some ask => (ask, "BEST_ASK", "BEST_ASK_REFERENCE")
          | none => (currentPrice, "CURRENT_PRICE", "CURRENT_PRICE_REFERENCE")
        match addTicks basePrice settings.priceOffsetTicks with
        | .error (.invalid _) => .ok ⟨none, "DATA_WAIT", ["PRICE_MISSING"]⟩
        | .error failure => .error failure
        | .ok limitPrice =>
            if limitPrice ≤ 0 then .ok ⟨none, "DATA_WAIT", ["LIMIT_PRICE_INVALID"]⟩
            else .ok ⟨some limitPrice, source, [reason]⟩

structure RouteRiskControls where
  sizeMultiplier : ℚ
  ttlSeconds : Nat
  tightStopRequired : Bool
  minQuantityFloorApplied : Bool
  reasonCodes : List String

def routeRiskControls :
    RouteRiskControls :=
  if evaluation.entryTimingState = .momentumContinuation then
    { sizeMultiplier := 1 / 2
      ttlSeconds := max 1 (settings.planTtlSeconds / 2)
      tightStopRequired := true
      minQuantityFloorApplied := false
      reasonCodes := ["MOMENTUM_CONTINUATION_SIZE_REDUCED", "MOMENTUM_CONTINUATION_SHORT_TTL",
        "MOMENTUM_CONTINUATION_TIGHT_STOP_REQUIRED"] }
  else ⟨1, settings.planTtlSeconds, false, false, []⟩

structure SizedDraft where
  status : OrderPlanStatus
  limitPrice : Int
  limitPriceSource : String
  suggestedQuantity : Int
  suggestedNotional : ℚ
  maxNotional : ℚ
  entryRoute : RouteRiskControls
  reasonCodes : List String

def build : Checked (Option SizedDraft) := do
  let (status, statusReasons) := resolveStatus settings item evaluation
  if status ∉ [.planReady, .waitRetry, .dataWait] then return none
  else
    let result ← calculateLimitPrice settings item
    match result.limitPrice with
    | none => return none
    | some limitPrice =>
        let route := routeRiskControls settings evaluation
        let configured := min (settings.defaultNotional * route.sizeMultiplier) settings.maxNotional
        let bought := ⌊configured / limitPrice⌋
        let floors := status = .planReady ∧ bought < 1 ∧ (limitPrice : ℚ) ≤ settings.maxNotional
        let route := if floors then
            { route with
              minQuantityFloorApplied := true
              reasonCodes := route.reasonCodes ++ ["MOMENTUM_CONTINUATION_MIN_QUANTITY_FLOOR"] }
          else route
        let quantity : Int := if status ≠ .planReady then 0 else if floors then 1 else bought
        return some
          { status := status
            limitPrice := limitPrice
            limitPriceSource := result.source
            suggestedQuantity := quantity
            suggestedNotional := quantity * limitPrice
            maxNotional := settings.maxNotional
            entryRoute := route
            reasonCodes := dedupeReasons (evaluation.reasonCodes ++ statusReasons ++
              result.reasonCodes ++ item.priorityReasons ++ route.reasonCodes ++
              ["BUY_LIMIT_ONLY",
                if status = .planReady then "PLAN_READY_NOT_ORDER_APPROVAL"
                else "NEAR_MISS_RETAINED"]) }

/-! ## Laws -/

theorem aligned_of_thousands {price : Int} (positive : 1 ≤ price) (divides : 1000 ∣ price) :
    TickAligned price := by
  refine ⟨positive, ?_⟩
  rw [tickBand_intCast]
  split_ifs <;> omega

theorem aligned_of_normalizeTickPrice {price : ℚ} {normal : Int}
    (isNormal : normalizeTickPrice price = .ok normal) : ∃ rank, normal = priceAt rank := by
  by_cases positive : price ≤ 0
  · rw [normalizeTickPrice, if_pos positive] at isNormal
    cases isNormal
  · by_cases bound : price ≤ largestPrice
    · rcases normalizeTickPrice_grid (not_le.mp positive) bound with ⟨rank, isRank, -⟩
      rw [isRank, Except.ok.injEq] at isNormal
      exact ⟨rank, isNormal.symm⟩
    · have isThousand : tickBand price = 1000 := by
        have large : (500000 : ℚ) ≤ price := by
          refine le_trans ?_ (not_le.mp bound).le
          norm_num [largestPrice]
        rw [tickBand, SuseokTrader.krxTickSize]
        split_ifs with a b c d e f
        all_goals first | rfl | (exfalso; linarith)
      apply TickAligned.exists_rank
      rw [normalizeTickPrice, if_neg positive, krxTickSize, if_neg positive, isThousand] at isNormal
      rcases Checked.bind_eq_ok.mp isNormal with ⟨tick, isTick, isNormal⟩
      cases isTick
      rcases Checked.bind_eq_ok.mp isNormal with ⟨quotient, _, isNormal⟩
      cases isNormal
      apply aligned_of_thousands
      · omega
      · rcases max_choice (⌊quotient⌋ * 1000) 1000 with same | same
        · exact ⟨⌊quotient⌋, by rw [same, mul_comm]⟩
        · exact ⟨1, by rw [same, mul_one]⟩

theorem aligned_of_addTicks {price : ℚ} {ticks limit : Int}
    (added : addTicks price ticks = .ok limit) : TickAligned limit := by
  unfold addTicks at added
  split_ifs at added
  · cases added
  · cases added
  rcases Checked.bind_eq_ok.mp added with ⟨normal, isNormal, added⟩
  rcases aligned_of_normalizeTickPrice isNormal with ⟨rank, rfl⟩
  rw [addTicksFrom_priceAt, Except.ok.injEq] at added
  subst added
  refine ⟨priceAt_pos _, ?_⟩
  rw [tickBand_of_between (le_refl _) (priceAt_lt_succ _)]
  exact Int.emod_eq_zero_of_dvd (tickAt_dvd _)

theorem aligned_of_calculateLimitPrice {settings : EntryTimingSettings} {item : EntryTimingInput}
    {result : LimitPriceResult} {limit : Int}
    (calculated : calculateLimitPrice settings item = .ok result)
    (isLimit : result.limitPrice = some limit) : TickAligned limit := by
  unfold calculateLimitPrice at calculated
  split_ifs at calculated
  · cases calculated
    cases isLimit
  · split at calculated
    · cases calculated
      cases isLimit
    · dsimp only at calculated
      split at calculated
      · cases calculated
        cases isLimit
      · cases calculated
      · next added =>
          split_ifs at calculated
          · cases calculated
            cases isLimit
          · cases calculated
            cases isLimit
            exact aligned_of_addTicks added

structure SizedDraft.Holds (draft : SizedDraft) : Prop where
  shares : 1 ≤ draft.suggestedQuantity
  aligned : TickAligned draft.limitPrice
  notional : draft.suggestedNotional = draft.suggestedQuantity * draft.limitPrice
  capped : draft.suggestedNotional ≤ draft.maxNotional

section Plans

variable (settings : EntryTimingSettings) (item : EntryTimingInput)
  (evaluation : EntryTimingEvaluation)

def PlanHolds : Prop :=
  ∀ draft, build settings item evaluation = .ok (some draft) → draft.status = .planReady →
    draft.Holds

/-- The limit price of a ready plan is within the cap. -/
def PlanAffordable : Prop :=
  (resolveStatus settings item evaluation).1 = .planReady → ∀ result limit,
    calculateLimitPrice settings item = .ok result → result.limitPrice = some limit →
      (limit : ℚ) ≤ settings.maxNotional

def configuredNotional : ℚ :=
  min (settings.defaultNotional * (routeRiskControls settings evaluation).sizeMultiplier)
    settings.maxNotional

theorem build_ready {result : LimitPriceResult} {limit : Int}
    (ready : (resolveStatus settings item evaluation).1 = .planReady)
    (calculated : calculateLimitPrice settings item = .ok result)
    (isLimit : result.limitPrice = some limit) :
    ∃ draft, build settings item evaluation = .ok (some draft) ∧ draft.status = .planReady ∧
      draft.limitPrice = limit ∧ draft.maxNotional = settings.maxNotional ∧
      draft.suggestedNotional = draft.suggestedQuantity * limit ∧
      draft.suggestedQuantity =
        if ⌊configuredNotional settings evaluation / limit⌋ < 1 ∧
          (limit : ℚ) ≤ settings.maxNotional then 1
        else ⌊configuredNotional settings evaluation / limit⌋ := by
  rcases resolved : resolveStatus settings item evaluation with ⟨status, statusReasons⟩
  rw [resolved] at ready
  cases ready
  simp only [build, resolved, calculated, isLimit, bind, Except.bind]
  refine ⟨_, rfl, rfl, rfl, rfl, rfl, ?_⟩
  dsimp only
  refine Eq.trans (if_neg (not_not_intro rfl)) ?_
  by_cases floors : ⌊configuredNotional settings evaluation / limit⌋ < 1 ∧
      (limit : ℚ) ≤ settings.maxNotional
  · exact (if_pos ⟨trivial, floors⟩).trans (if_pos floors).symm
  · exact (if_neg fun applies => floors applies.2).trans (if_neg floors).symm

theorem planHolds_iff : PlanHolds settings item evaluation ↔
    PlanAffordable settings item evaluation := by
  have capped : configuredNotional settings evaluation ≤ settings.maxNotional := min_le_right _ _
  constructor
  · intro holds ready result limit calculated isLimit
    rcases build_ready settings item evaluation ready calculated isLimit with
      ⟨draft, built, isReady, _, _, _, quantity⟩
    have shares := (holds draft built isReady).shares
    have price : (0 : ℚ) < limit := by
      exact_mod_cast (aligned_of_calculateLimitPrice calculated isLimit).positive
    rw [quantity] at shares
    split_ifs at shares with floors
    · exact floors.2
    · have bought := Int.le_floor.mp shares
      rw [le_div_iff₀ price, Int.cast_one, one_mul] at bought
      exact bought.trans capped
  · intro affordable draft built isReady
    rcases resolved : resolveStatus settings item evaluation with ⟨status, statusReasons⟩
    have draftStatus : status = .planReady ∧ ∃ result limit,
        calculateLimitPrice settings item = .ok result ∧ result.limitPrice = some limit := by
      simp only [build, resolved] at built
      split at built
      · cases built
      · rcases Checked.bind_eq_ok.mp built with ⟨result, calculated, built⟩
        split at built
        · cases built
        · next limit isLimit =>
            cases built
            exact ⟨isReady, result, limit, calculated, isLimit⟩
    rcases draftStatus with ⟨rfl, result, limit, calculated, isLimit⟩
    have aligned := aligned_of_calculateLimitPrice calculated isLimit
    have price : (0 : ℚ) < limit := by exact_mod_cast aligned.positive
    have ready : (resolveStatus settings item evaluation).1 = .planReady := by rw [resolved]
    have within := affordable ready result limit calculated isLimit
    rcases build_ready settings item evaluation ready calculated isLimit with
      ⟨other, otherBuilt, _, isPrice, isMax, notional, quantity⟩
    rw [built, Except.ok.injEq, Option.some.injEq] at otherBuilt
    subst otherBuilt
    have shares : 1 ≤ draft.suggestedQuantity ∧
        (draft.suggestedQuantity : ℚ) * limit ≤ settings.maxNotional := by
      rw [quantity]
      split_ifs with floors
      · rw [Int.cast_one, one_mul]
        exact ⟨le_refl 1, within⟩
      · have bought : 1 ≤ ⌊configuredNotional settings evaluation / limit⌋ := by
          by_contra below
          exact floors ⟨not_le.mp below, within⟩
        have product := (le_div_iff₀ price).mp
          (Int.floor_le (configuredNotional settings evaluation / limit))
        exact ⟨bought, product.trans capped⟩
    refine ⟨shares.1, isPrice ▸ aligned, ?_, ?_⟩
    · rw [isPrice, notional]
    · rw [isMax, notional]
      exact shares.2

end Plans

end EntryTiming

/-! ## Intents -/

section Intents

variable (host : LiveSimHost) (settings : LiveSimPlanSettings) (plan : OrderPlanDraft)
  (binding : OrderPlanBinding) (isDuplicate : Bool) (ignored : Option String)
  (readings : PlanReadings)

/-- An intent that is accepted has shares, no more than its plan, and a notional within the caps. -/
def IntentHolds : Prop :=
  ∀ planned, evaluateLiveSimOrderPlanEligibility host settings plan isDuplicate ignored readings =
      .ok [] →
    buildIntentFromEligibility host settings plan binding readings = .ok planned →
      1 ≤ planned.intent.quantity ∧ planned.intent.quantity ≤ plan.suggestedQuantity ∧
        ∃ limit, planned.intent.limitPrice = some limit ∧
          planned.intent.quantity * limit ≤ min settings.orderPlanMaxNotional settings.maxOrderNotional

/-- The price of an intent that is accepted is within the caps. -/
def IntentAffordable : Prop :=
  ∀ planned, evaluateLiveSimOrderPlanEligibility host settings plan isDuplicate ignored readings =
      .ok [] →
    buildIntentFromEligibility host settings plan binding readings = .ok planned →
      liveSimBuyLimitPriceForPlan settings plan readings.latestPrice ≤
        min settings.orderPlanMaxNotional settings.maxOrderNotional

omit host settings plan binding isDuplicate ignored readings in
theorem one_le_krxTickSize (price : ℚ) : 1 ≤ krxTickSize price := by
  rw [krxTickSize]
  split_ifs <;> decide

theorem one_le_addTicks (price : ℚ) (ticks : ℕ) : 1 ≤ addTicks price ticks := by
  induction ticks with
  | zero => exact (one_le_krxTickSize price).trans (le_max_right _ _)
  | succ ticks ih =>
      rw [addTicks]
      have tick := one_le_krxTickSize (addTicks price ticks)
      omega

variable {host settings plan binding isDuplicate ignored readings}

theorem shares_of_eligible
    (eligible : evaluateLiveSimOrderPlanEligibility host settings plan isDuplicate ignored
      readings = .ok []) : 1 ≤ plan.suggestedQuantity ∧ 0 < plan.limitPrice := by
  rcases Checked.bind_eq_ok.mp eligible with ⟨code, _, merged⟩
  have merged := Except.ok.inj merged
  have blank : ∀ reason ∈ draftReasons host settings plan readings, Text.strip reason = "" := by
    intro reason present
    apply mergeReasons_eq_nil merged
    simp [present]
  constructor
  · by_contra none
    have listed : "ORDER_PLAN_INVALID_QUANTITY" ∈ draftReasons host settings plan readings := by
      simp [draftReasons, reasonsWhere, not_le.mp none]
    exact absurd (blank _ listed) (by decide)
  · by_contra free
    have listed : "ORDER_PLAN_INVALID_PRICE" ∈ draftReasons host settings plan readings := by
      simp [draftReasons, reasonsWhere, not_lt.mp free]
    exact absurd (blank _ listed) (by decide)

theorem liveSimBuyLimitPriceForPlan_pos (price : 0 < plan.limitPrice) :
    0 < liveSimBuyLimitPriceForPlan settings plan readings.latestPrice := by
  have added : ∀ base : ℚ, 0 < base →
      0 < (if base ≤ 0 then 0 else (addTicks base settings.buyPriceOffsetTicks : ℚ)) := by
    intro base positive
    rw [if_neg (not_le.mpr positive)]
    exact_mod_cast one_le_addTicks base settings.buyPriceOffsetTicks
  refine added _ ?_
  cases readings.latestPrice with
  | none => exact price
  | some latest =>
      dsimp only
      split_ifs with latestPositive
      · exact latestPositive
      · exact price

theorem intent_of_build {planned : PlannedIntent}
    (built : buildIntentFromEligibility host settings plan binding readings = .ok planned) :
    planned.intent.quantity = min (planSizing settings plan readings.latestPrice).quantity
        ⌊maxPlanNotional settings / (planSizing settings plan readings.latestPrice).limitPrice⌋ ∧
      planned.intent.limitPrice =
        some (planSizing settings plan readings.latestPrice).limitPrice := by
  iterate 10
    rcases Checked.bind_eq_ok.mp built with ⟨_, _, built⟩
  cases built
  exact ⟨rfl, rfl⟩

theorem intentHolds_iff :
    IntentHolds host settings plan binding isDuplicate ignored readings ↔
      IntentAffordable host settings plan binding isDuplicate ignored readings := by
  refine forall_congr' fun planned => forall_congr' fun eligible => forall_congr' fun built => ?_
  rcases shares_of_eligible eligible with ⟨shares, price⟩
  rcases intent_of_build built with ⟨quantity, isPrice⟩
  have positive := @liveSimBuyLimitPriceForPlan_pos settings plan readings price
  have caps : maxPlanNotional settings = min settings.orderPlanMaxNotional settings.maxOrderNotional :=
    rfl
  simp only [planSizing] at quantity isPrice
  rw [if_pos positive] at quantity
  rw [isPrice, ← caps]
  generalize liveSimBuyLimitPriceForPlan settings plan readings.latestPrice = limit at *
  generalize maxPlanNotional settings = cap at *
  have isFloor : (cap / limit).floor = ⌊cap / limit⌋ := rfl
  constructor
  · rintro ⟨some, -⟩
    have bought : 1 ≤ ⌊cap / limit⌋ := by omega
    have affords := Int.le_floor.mp bought
    rw [le_div_iff₀ positive, Int.cast_one, one_mul] at affords
    exact affords
  · intro affords
    have bought : 1 ≤ ⌊cap / limit⌋ := by
      rw [Int.le_floor, le_div_iff₀ positive, Int.cast_one, one_mul]
      exact affords
    have most : planned.intent.quantity ≤ ⌊cap / limit⌋ := by omega
    refine ⟨by omega, by omega, limit, rfl, ?_⟩
    calc (planned.intent.quantity : ℚ) * limit ≤ ⌊cap / limit⌋ * limit := by
          exact mul_le_mul_of_nonneg_right (by exact_mod_cast most) positive.le
      _ ≤ cap := (le_div_iff₀ positive).mp (Int.floor_le _)

end Intents

/-- Plans and intents have the sizes they should exactly where a share costs no more than the cap. -/
theorem sizes_hold_iff (settings : EntryTiming.EntryTimingSettings)
    (item : EntryTiming.EntryTimingInput) (evaluation : EntryTiming.EntryTimingEvaluation) :
    (EntryTiming.PlanHolds settings item evaluation ↔
      EntryTiming.PlanAffordable settings item evaluation) ∧
    ∀ host settings plan binding isDuplicate ignored readings,
      IntentHolds host settings plan binding isDuplicate ignored readings ↔
        IntentAffordable host settings plan binding isDuplicate ignored readings :=
  ⟨EntryTiming.planHolds_iff settings item evaluation, fun _ _ _ _ _ _ _ => intentHolds_iff⟩

/-! ## A share above the cap -/

namespace EntryTiming

def pilotSettings : EntryTimingSettings where
  defaultNotional := 100000
  maxNotional := 100000
  priceOffsetTicks := 0
  maxSpreadTicks := 3
  minTurnoverKrw := 0
  minExecutionStrength := 0
  requireStrategyMatched := true
  requireRiskObservePass := true
  allowMarketOrder := false
  planTtlSeconds := 60
  default_pos := by norm_num
  default_le := le_refl _

/-- A share of 150000 won, which passes all checks. -/
def dearShare : EntryTimingInput where
  pipelineCoherency := none
  riskObservationStatus := some "OBSERVE_PASS"
  strategyObservationStatus := some "MATCHED_OBSERVATION"
  spreadTicks := some 1
  turnoverKrw := some 1
  executionStrength := some 100
  currentPrice := some 150000
  bestAsk := none
  priorityReasons := []

def pullback : EntryTimingEvaluation :=
  ⟨.goodPullback, .planReady, []⟩

/-- The plan is ready, for no share at all. -/
theorem dear_share_is_planned_without_shares : ¬ PlanHolds pilotSettings dearShare pullback := by
  intro holds
  have affordable := (planHolds_iff _ _ _).mp holds
  have isPrice : priceAt 5699 = 150000 := by decide
  have added := @addTicks_priceAt 5699 (by decide) 0
  rw [isPrice] at added
  have calculated : calculateLimitPrice pilotSettings dearShare =
      .ok ⟨some 150000, "CURRENT_PRICE", ["CURRENT_PRICE_REFERENCE"]⟩ := by
    have isAdded : addTicks 150000 0 = .ok 150000 := added
    simp [calculateLimitPrice, pilotSettings, dearShare, Option.filter_some, isAdded]
  have within := affordable (by decide) _ _ calculated rfl
  norm_num [pilotSettings] at within

end EntryTiming

end SuseokTrader
