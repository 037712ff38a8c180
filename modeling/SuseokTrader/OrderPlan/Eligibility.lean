import SuseokTrader.OrderPlan.Binding

/-!
# What makes an order plan eligible

The checks that stand between a plan and its intent, the size of the order, and
the intent with the columns that tie it to the plan.
-/

namespace SuseokTrader

structure LiveSimPlanSettings extends LiveSimBuySettings where
  orderPlanAllowed : Bool
  orderPlanRoutingEnabled : Bool
  orderPlanAllowMarketOrder : Bool
  orderPlanMinNotional : Rat
  orderPlanMaxNotional : Rat
  orderPlanMaxPriceDriftPct : Rat
  entryTimingMaxSpreadTicks : Int

/-- What the statements of the checks read. Each is a statement of its own, so the tables they
count in need not be those of one moment. -/
structure PlanReadings where
  seen : LiveSimTables
  gateReasons : List String
  isLatest : Bool
  admissionReasons : List String
  latestPrice : Option Rat
  spreadTicks : Int
  lineagePasses : Bool
  reconcileBlocks : Bool
  lifecycleErrors : Bool
  strategyObservationId : String
  riskObservationId : String
  dryRunIntentId : Option String
  dryRunOrderId : Option String
  intentId : String
  now : Instant

/-! ## The plan itself -/

def readyEntryTimingStates : List String :=
  ["GOOD_PULLBACK", "PULLBACK_RECLAIM", "VWAP_RECLAIM", "MOMENTUM_CONTINUATION"]

def blockedOrderPlanReasonTokens : List String :=
  ["BLOCKED", "CHASE", "OVERHEAT", "STALE"]

def OrderPlanDraft.asRead (plan : OrderPlanDraft) : OrderPlanDraft :=
  { plan with
    reasonCodes := (plan.reasonCodes.filter fun reason => Text.strip reason ≠ "").map Text.upper }

def hasBlockedOrderPlanReason (reasons : List String) : Bool :=
  reasons.any fun reason =>
    "RISK_".toList.isPrefixOf (Text.upper reason).toList ||
      blockedOrderPlanReasonTokens.any fun token => Text.contains (Text.upper reason) token

def isExpired (expiresAt : String) (now : Instant) : Bool :=
  match parseTimestamp (.str expiresAt) "expires_at" with
  | .ok expiry => expiry ≤ now
  | .error _ => true

variable (settings : LiveSimPlanSettings)

def maxPlanNotional : Rat :=
  min settings.orderPlanMaxNotional settings.maxOrderNotional

variable (host : LiveSimHost)

def planOrderType (plan : OrderPlanDraft) : String :=
  Text.upper (Json.text host.toHost (plan.evidence.getOr "order_type" (.str "LIMIT")))

variable (settings : LiveSimPlanSettings)

variable (plan : OrderPlanDraft)

variable (readings : PlanReadings)

def draftReasons : List String :=
  let orderType := planOrderType host plan
  reasonsWhere [
    (!readings.isLatest, "ORDER_PLAN_NOT_LATEST"),
    (plan.status ≠ "PLAN_READY", "ORDER_PLAN_NOT_READY"),
    (!plan.observeOnly || !plan.notOrderIntent, "ORDER_PLAN_NOT_READY"),
    (isExpired plan.expiresAt readings.now, "ORDER_PLAN_EXPIRED"),
    (Text.upper plan.side ≠ "BUY", "ORDER_PLAN_NOT_BUY"),
    (orderType = "MARKET" && !settings.orderPlanAllowMarketOrder,
      "ORDER_PLAN_MARKET_ORDER_NOT_ALLOWED"),
    (orderType ≠ "MARKET" && orderType ≠ "LIMIT", "ORDER_PLAN_MARKET_ORDER_NOT_ALLOWED"),
    (plan.currentPrice ≤ 0 || plan.limitPrice ≤ 0, "ORDER_PLAN_INVALID_PRICE"),
    (plan.suggestedQuantity < 1, "ORDER_PLAN_INVALID_QUANTITY"),
    (plan.suggestedNotional ≤ 0, "INVALID_NOTIONAL"),
    (plan.suggestedNotional < settings.orderPlanMinNotional, "INVALID_NOTIONAL"),
    (maxPlanNotional settings < plan.suggestedNotional, "MAX_ORDER_NOTIONAL_EXCEEDED"),
    (Text.upper plan.setupType = "NO_SETUP", "ORDER_PLAN_ENTRY_TIMING_NOT_ALLOWED"),
    (Text.upper plan.entryTimingState ∉ readyEntryTimingStates,
      "ORDER_PLAN_ENTRY_TIMING_NOT_ALLOWED"),
    (hasBlockedOrderPlanReason plan.reasonCodes, "ORDER_PLAN_BLOCKED_REASON")]

/-! ## The size of the order -/

structure PlanSizing where
  quantity : Int
  notional : Rat
  limitPrice : Rat

def liveSimBuyLimitPriceForPlan (latestPrice : Option Rat) : Rat :=
  let basePrice := match latestPrice with
    | some price => if price > 0 then price else plan.limitPrice
    | none => plan.limitPrice
  if basePrice ≤ 0 then 0 else addTicks basePrice settings.buyPriceOffsetTicks

def planSizing (latestPrice : Option Rat) : PlanSizing :=
  let limitPrice := liveSimBuyLimitPriceForPlan settings plan latestPrice
  let maxQuantity : Int :=
    if limitPrice > 0 then (maxPlanNotional settings / limitPrice).floor else 0
  let quantity := max (min plan.suggestedQuantity maxQuantity) 0
  { quantity := quantity
    notional := quantity * limitPrice
    limitPrice := limitPrice }

/-- The checks on the last price of the code, where there is one. -/
def priceReasons : List String :=
  match readings.latestPrice with
  | none => []
  | some price =>
      let limitPrice := liveSimBuyLimitPriceForPlan settings plan (some price)
      reasonsWhere [
        (price ≤ 0, "ORDER_PLAN_INVALID_PRICE"),
        (plan.currentPrice > 0 && settings.orderPlanMaxPriceDriftPct <
            |price - plan.currentPrice| / plan.currentPrice * 100,
          "ORDER_PLAN_PRICE_DRIFT_EXCEEDED"),
        (limitPrice > 0 &&
            limitPrice * (1 + settings.orderPlanMaxPriceDriftPct / 100) < price,
          "ORDER_PLAN_PRICE_DRIFT_EXCEEDED"),
        (settings.entryTimingMaxSpreadTicks < readings.spreadTicks, "ORDER_PLAN_BLOCKED_REASON")]

/-! ## Eligibility -/

def planGateReasons : List String :=
  let gate := readings.gateReasons ++ reasonsWhere [
    (dailyOrderLimitExceeded settings.toLiveSimSettings readings.seen plan.tradeDate,
      "DAILY_ORDER_LIMIT_EXCEEDED")]
  gate ++ reasonsWhere [
    (gate ≠ [], "ORDER_PLAN_SAFETY_GATE_FAILED"),
    (!settings.orderPlanAllowed, "ORDER_PLAN_ROUTING_DISABLED"),
    (!settings.orderPlanRoutingEnabled, "ORDER_PLAN_ROUTING_DISABLED")]

def planCountReasons (code : String)
    (isDuplicate : Bool) (ignored : Option String) (readings : PlanReadings) : List String :=
  reasonsWhere [
    (!readings.lineagePasses, "ORDER_PLAN_LINEAGE_INVALID"),
    (isDuplicate, "ORDER_PLAN_DUPLICATE_INTENT"),
    (readings.seen.recentActiveCountForCode code
        (cooldownCutoff settings.toLiveSimBuySettings readings.now) ignored > 0,
      "DUPLICATE_LIVE_SIM_ORDER"),
    (readings.reconcileBlocks, "LIVE_SIM_RECONCILE_MISMATCH_BLOCK"),
    (!settings.positionAllowScaleIn && readings.seen.hasOpenPositionForCode code,
      "LIVE_SIM_OPEN_POSITION_EXISTS"),
    (readings.seen.hasActiveExitForCode code, "LIVE_SIM_ACTIVE_EXIT_EXISTS"),
    (readings.seen.hasActiveCancelForCode code, "LIVE_SIM_ACTIVE_CANCEL_EXISTS"),
    (readings.lifecycleErrors, "LIVE_SIM_LIFECYCLE_ERROR_BLOCK"),
    (settings.maxDailyOrderCount ≤ readings.seen.dailyOrderCount plan.tradeDate,
      "DAILY_ORDER_LIMIT_EXCEEDED"),
    (settings.maxDailyNotional < readings.seen.dailyOrderNotional plan.tradeDate +
        (planSizing settings plan readings.latestPrice).notional,
      "DAILY_NOTIONAL_LIMIT_EXCEEDED"),
    (settings.maxActiveOrders ≤ readings.seen.activeOrderCount, "ACTIVE_ORDER_LIMIT_EXCEEDED"),
    (settings.maxActivePositions ≤ readings.seen.activePositionCount,
      "ACTIVE_POSITION_LIMIT_EXCEEDED")]

/-- The reasons against an intent for a plan that was found; none makes it eligible. -/
def evaluateLiveSimOrderPlanEligibility (isDuplicate : Bool) (ignored : Option String)
    (readings : PlanReadings) : Checked (List String) := do
  let code ← validateStockCode (.str plan.code)
  return mergeReasons (planGateReasons settings plan readings ++
    draftReasons host settings plan readings ++ readings.admissionReasons ++
    priceReasons settings plan readings ++
    planCountReasons settings plan code isDuplicate ignored readings)

/-! ## Intents of plans -/

structure PlanIntent where
  liveSimIntentId : String
  orderPlanId : String
  orderPlanBinding : Option OrderPlanBinding
  orderPlanDraft : Option OrderPlanDraft

instance : Keyed PlanIntent String := ⟨PlanIntent.liveSimIntentId⟩

/-- A row of `live_sim_intents` for a plan. -/
structure PlannedIntent where
  intent : LiveSimIntent
  columns : PlanIntent

/-- The binding that is frozen in the row, or the one that its frozen plan has. -/
def intentBindingMatches (columns : PlanIntent)
    (expected : OrderPlanBinding) : Bool :=
  match columns.orderPlanBinding with
  | some frozen => bindingsMatch frozen expected
  | none =>
      match columns.orderPlanDraft with
      | some plan =>
          match buildOrderPlanBinding host plan with
          | .ok frozen => bindingsMatch frozen expected
          | .error _ => false
      | none => false

def executionPriceText (price : Rat) : String :=
  if price.den = 1 then String.ofList (Json.renderInt price.num) else host.priceText price

def liveSimOrderPlanIdempotencyKey
    (tradeDate accountId orderPlanId code side : String) (limitPrice : Rat) (quantity : Int) :
    Checked String := do
  let code ← validateStockCode (.str code)
  return String.intercalate ":" ["live_sim", "order_plan", tradeDate, accountId, orderPlanId,
    code, Text.upper side, executionPriceText host limitPrice,
    String.ofList (Json.renderInt quantity)]

def buildIntentFromEligibility (binding : OrderPlanBinding) (readings : PlanReadings) :
    Checked PlannedIntent := do
  let code ← validateStockCode (.str plan.code)
  let sizing := planSizing settings plan readings.latestPrice
  let quantity := min sizing.quantity (maxPlanNotional settings / sizing.limitPrice).floor
  let planExpiry ← parseTimestamp (.str plan.expiresAt) "expires_at"
  let expiresAt := min (readings.now + settings.orderTtlSec * Time.microsPerSecond) planExpiry
  let key ← liveSimOrderPlanIdempotencyKey host plan.tradeDate settings.accountId plan.orderPlanId
    code "BUY" sizing.limitPrice quantity
  let intentId ← requireNonEmptyStr (.str readings.intentId) "live_sim_intent_id"
  let candidateId ← requireNonEmptyStr (.str plan.candidateInstanceId) "candidate_instance_id"
  let tradeDate ← requireNonEmptyStr (.str plan.tradeDate) "trade_date"
  let accountId ← requireNonEmptyStr (.str settings.accountId) "account_id"
  let name ← requireNonEmptyStr (.str plan.name) "name"
  let key ← requireNonEmptyStr (.str key) "idempotency_key"
  let orderPlanId ← requireNonEmptyStr (.str plan.orderPlanId) "order_plan_id"
  return {
    intent := {
      liveSimIntentId := intentId
      candidateInstanceId := candidateId
      strategyObservationId := readings.strategyObservationId
      riskObservationId := readings.riskObservationId
      dryRunIntentId := readings.dryRunIntentId
      dryRunOrderId := readings.dryRunOrderId
      tradeDate := tradeDate
      accountId := accountId
      code := code
      name := name
      side := .buy
      orderType := .limit
      quantity := quantity
      limitPrice := some sizing.limitPrice
      notional := quantity * sizing.limitPrice
      status := .created
      idempotencyKey := key
      gatewayCommandId := none
      brokerOrderSent := false
      createdAt := datetimeToWire readings.now
      expiresAt := some (datetimeToWire expiresAt) }
    columns := {
      liveSimIntentId := intentId
      orderPlanId := orderPlanId
      orderPlanBinding := some binding
      orderPlanDraft := some plan } }

end SuseokTrader
