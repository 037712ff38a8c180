import SuseokTrader.LiveSim.Exits

/-!
# BUY orders

A candidate that passes the checks becomes a BUY intent, and the intent an order
with its gateway command. The limits on the day and on active orders are looked
at twice: when the intent is created, and, apart from the notional of the day,
when it is queued.
-/

namespace SuseokTrader

/-- The settings of BUY orders. -/
structure LiveSimBuySettings extends LiveSimSettings where
  maxOrderNotional : Rat
  buyPriceOffsetTicks : Nat
  defaultOrderType : LiveSimOrderType
  allowBuy : Bool
  allowSell : Bool
  allowMarketOrder : Bool
  allowLimitOrder : Bool
  duplicateCooldownSec : Nat
  positionAllowScaleIn : Bool
  maxActivePositions : Int

/-! ## Counts -/

def isConsuming (tradeDate : String) (order : LiveSimOrder) : Bool :=
  order.tradeDate = tradeDate && !order.status.isNonConsuming

namespace LiveSimTables

variable (tables : LiveSimTables)

def dailyOrderCount (tradeDate : String) : Nat :=
  tables.orders.rows.countP fun order => isConsuming tradeDate order && order.side = .buy

def dailyOrderNotional (tradeDate : String) : Rat :=
  ((tables.orders.rows.filter (isConsuming tradeDate)).map LiveSimOrder.notional).sum

def activeOrderCount : Nat :=
  tables.orders.rows.countP fun order => order.status.isActive

def recentActiveCountForCode (code cutoff : String)
    (excludeIntentId : Option String) : Nat :=
  (tables.intents.rows.countP fun intent =>
      intent.code = code && intent.status.isActive && cutoff ≤ intent.createdAt &&
        some intent.liveSimIntentId ≠ excludeIntentId) +
    tables.orders.rows.countP fun order =>
      order.code = code && order.status.isActive && cutoff ≤ order.createdAt

end LiveSimTables

def isHeld (position : LiveSimPosition) : Bool :=
  position.status ≠ .closed && position.quantity > 0

def hasBought (order : LiveSimOrder) : Bool :=
  order.side = .buy && (order.status = .partiallyFilled || order.status = .filled)

namespace LiveSimTables

variable (tables : LiveSimTables)

def activePositionCount : Nat :=
  ((tables.positions.rows.filter isHeld).map LiveSimPosition.code ++
    (tables.orders.rows.filter hasBought).map LiveSimOrder.code).eraseDups.length

def hasOpenPositionForCode (code : String) : Bool :=
  (tables.positions.rows.any fun position => position.code = code && isHeld position) ||
    tables.orders.rows.any fun order => order.code = code && hasBought order

def hasActiveExitForCode (code : String) : Bool :=
  tables.exitIntents.rows.any fun intent => intent.code = code && intent.status.isActive

def hasActiveCancelForCode (code : String) : Bool :=
  tables.cancelIntents.rows.any fun intent => intent.code = code && intent.status.isActive

end LiveSimTables

def dailyOrderLimitExceeded (settings : LiveSimSettings) (tables : LiveSimTables)
    (tradeDate : String) : Bool :=
  max (settings.maxDailyOrderCount - tables.dailyOrderCount tradeDate) 0 ≤ 0

/-! ## Prices and quantities -/

def krxTickSize (price : Rat) : Int :=
  if price < 2000 then 1
  else if price < 5000 then 5
  else if price < 20000 then 10
  else if price < 50000 then 50
  else if price < 200000 then 100
  else if price < 500000 then 500
  else 1000

def normalizeTickPrice (price : Rat) : Int :=
  max ((price / krxTickSize price).floor * krxTickSize price) (krxTickSize price)

def addTicks (price : Rat) : Nat → Int
  | 0 => normalizeTickPrice price
  | ticks + 1 => addTicks price ticks + krxTickSize (addTicks price ticks)

variable (settings : LiveSimBuySettings)

def liveSimBuyLimitPrice (price : Rat) : Rat :=
  if price > 0 then addTicks price settings.buyPriceOffsetTicks else 0

def liveSimQuantity (limitPrice : Rat)
    (dryRunNotional : Option Rat) : Int :=
  if limitPrice ≤ 0 then 0
  else
    let target := match dryRunNotional with
      | some notional => min settings.maxOrderNotional notional
      | none => settings.maxOrderNotional
    (target / limitPrice).floor

/-! ## Intents -/

/-- What the tables of candidates, observations, ticks and dry runs say about a candidate, with
the reasons of the checks on them. -/
structure AdmissionView where
  candidateInstanceId : String
  candidate : Option (String × String × String)
  strategyObservationId : Option String
  riskObservationId : Option String
  price : Option Rat
  dryRunIntentId : Option String
  dryRunOrderId : Option String
  dryRunNotional : Option Rat
  reasons : List String
  gateReasons : List String
  reconcileBlocks : Bool
  lifecycleErrors : Bool
  marketToday : String

def cooldownCutoff (now : Instant) : String :=
  datetimeToWire (now - settings.duplicateCooldownSec * Time.microsPerSecond)

variable (tables : LiveSimTables)

variable (view : AdmissionView)

/-- The checks that need a code and a trade date. -/
def candidateReasons (tradeDate code : String) (notional : Rat) (now : Instant) :
    List String :=
  reasonsWhere [
    (tables.recentActiveCountForCode code (cooldownCutoff settings now) none > 0,
      "DUPLICATE_LIVE_SIM_ORDER"),
    (view.reconcileBlocks, "LIVE_SIM_RECONCILE_MISMATCH_BLOCK"),
    (!settings.positionAllowScaleIn && tables.hasOpenPositionForCode code,
      "LIVE_SIM_OPEN_POSITION_EXISTS"),
    (tables.hasActiveExitForCode code, "LIVE_SIM_ACTIVE_EXIT_EXISTS"),
    (tables.hasActiveCancelForCode code, "LIVE_SIM_ACTIVE_CANCEL_EXISTS"),
    (view.lifecycleErrors, "LIVE_SIM_LIFECYCLE_ERROR_BLOCK"),
    (settings.maxDailyOrderCount ≤ tables.dailyOrderCount tradeDate,
      "DAILY_ORDER_LIMIT_EXCEEDED"),
    (settings.maxDailyNotional < tables.dailyOrderNotional tradeDate + notional,
      "DAILY_NOTIONAL_LIMIT_EXCEEDED")]

/-- The reasons against an intent for the candidate; none makes it eligible. -/
def evaluateLiveSimEligibility (now : Instant) : List String :=
  let limitPrice := liveSimBuyLimitPrice settings (view.price.getD 0)
  let quantity := liveSimQuantity settings limitPrice view.dryRunNotional
  let notional := limitPrice * quantity
  let gateDate := match view.candidate with
    | some (tradeDate, _, _) => if tradeDate = "" then view.marketToday else tradeDate
    | none => view.marketToday
  mergeReasons (view.reasons ++ view.gateReasons ++
    reasonsWhere [
      (dailyOrderLimitExceeded settings.toLiveSimSettings tables gateDate,
        "DAILY_ORDER_LIMIT_EXCEEDED"),
      (!settings.allowBuy, "SELL_NOT_ALLOWED"),
      (settings.defaultOrderType = .market && !settings.allowMarketOrder,
        "MARKET_ORDER_NOT_ALLOWED"),
      (settings.defaultOrderType = .limit && !settings.allowLimitOrder,
        "MARKET_ORDER_NOT_ALLOWED"),
      (quantity < 1, "INVALID_QUANTITY"),
      (notional ≤ 0 || settings.maxOrderNotional < notional, "MAX_ORDER_NOTIONAL_EXCEEDED")] ++
    (match view.candidate with
      | some (tradeDate, code, _) =>
          candidateReasons settings tables view tradeDate code notional now
      | none => []) ++
    reasonsWhere [
      (settings.maxActiveOrders ≤ tables.activeOrderCount, "ACTIVE_ORDER_LIMIT_EXCEEDED"),
      (settings.maxActivePositions ≤ tables.activePositionCount,
        "ACTIVE_POSITION_LIMIT_EXCEEDED")])

def liveSimIdempotencyKey (tradeDate code candidateInstanceId strategyObservationId
    riskObservationId : String) (suffix : Option String) : Checked String := do
  let tradeDate ← requireNonEmptyStr (.str tradeDate) "trade_date"
  let code ← validateStockCode (.str code)
  let candidate ← requireNonEmptyStr (.str candidateInstanceId) "candidate_instance_id"
  let strategy ← requireNonEmptyStr (.str strategyObservationId) "strategy"
  let risk ← requireNonEmptyStr (.str riskObservationId) "risk"
  let suffix ← match suffix with
    | some suffix => do
        let suffix ← requireNonEmptyStr (.str suffix) "idempotency_suffix"
        pure [suffix]
    | none => pure []
  return String.intercalate ":"
    (["live_sim", tradeDate, code, candidate, strategy, risk] ++ suffix)

/-- A new BUY intent of a candidate. -/
def newLiveSimIntent
    (tradeDate code name strategyObservationId riskObservationId : String) (price : Rat)
    (suffix : Option String) (intentId : String) (now : Instant) : Checked LiveSimIntent := do
  let limitPrice := liveSimBuyLimitPrice settings price
  let quantity := liveSimQuantity settings limitPrice view.dryRunNotional
  let key ← liveSimIdempotencyKey tradeDate code view.candidateInstanceId strategyObservationId
    riskObservationId suffix
  let intentId ← requireNonEmptyStr (.str intentId) "live_sim_intent_id"
  let candidateId ← requireNonEmptyStr (.str view.candidateInstanceId) "candidate_instance_id"
  let tradeDate ← requireNonEmptyStr (.str tradeDate) "trade_date"
  let accountId ← requireNonEmptyStr (.str settings.accountId) "account_id"
  let name ← requireNonEmptyStr (.str name) "name"
  let code ← validateStockCode (.str code)
  return {
    liveSimIntentId := intentId
    candidateInstanceId := candidateId
    strategyObservationId := strategyObservationId
    riskObservationId := riskObservationId
    dryRunIntentId := view.dryRunIntentId
    dryRunOrderId := view.dryRunOrderId
    tradeDate := tradeDate
    accountId := accountId
    code := code
    name := name
    side := .buy
    orderType := settings.defaultOrderType
    quantity := quantity
    limitPrice := some limitPrice
    notional := limitPrice * quantity
    status := .created
    idempotencyKey := key
    gatewayCommandId := none
    brokerOrderSent := false
    createdAt := datetimeToWire now
    expiresAt := some (datetimeToWire (now + settings.orderTtlSec * Time.microsPerSecond)) }

def insertIntent (intents : Table LiveSimIntent) (intent : LiveSimIntent) :
    Option (Table LiveSimIntent) :=
  if intents.rows.any fun other => other.idempotencyKey = intent.idempotencyKey then none
  else intents.insert? intent

def createLiveSimIntent (suffix : Option String) (intentId : String) (now : Instant) :
    Checked LiveSimTables :=
  -- an ineligible candidate leaves a row in the table of rejections only
  if evaluateLiveSimEligibility settings tables view now ≠ [] then .ok tables
  else
    match view.candidate, view.strategyObservationId, view.riskObservationId, view.price with
    | some (tradeDate, code, name), some strategyId, some riskId, some price => do
        let intent ← newLiveSimIntent settings view tradeDate code name strategyId riskId price
          suffix intentId now
        match insertIntent tables.intents intent with
        | some intents => return { tables with intents := intents }
        | none => .error (.crash "UNIQUE constraint failed: live_sim_intents")
    | _, _, _, _ =>
        Checked.invalid "eligible LIVE_SIM intent requires candidate, strategy, and risk rows"

/-! ## Queueing an order -/

structure BuyReadings extends QueueReadings where
  reconcileBlocks : Bool
  /-- The reasons of the lifecycle boundary and of the binding to an order plan. -/
  boundaryReasons : List String

variable (intent : LiveSimIntent)

def orderQueueReasons (readings : BuyReadings) : List String :=
  mergeReasons (readings.gateReasons ++ reasonsWhere [
    (dailyOrderLimitExceeded settings.toLiveSimSettings tables intent.tradeDate,
      "DAILY_ORDER_LIMIT_EXCEEDED"),
    (intent.side = .buy && readings.reconcileBlocks, "LIVE_SIM_RECONCILE_MISMATCH_BLOCK"),
    (intent.side = .sell && !settings.allowSell, "SELL_NOT_ALLOWED"),
    (intent.orderType = .market, "MARKET_ORDER_NOT_ALLOWED"),
    (settings.maxActiveOrders ≤ tables.activeOrderCount, "ACTIVE_ORDER_LIMIT_EXCEEDED"),
    (tables.recentActiveCountForCode intent.code (cooldownCutoff settings readings.enqueuedAt)
        (some intent.liveSimIntentId) > 0, "DUPLICATE_LIVE_SIM_ORDER")])

def textOrNull (value : Option String) : Json :=
  (value.map Json.str).getD .null

variable (host : LiveSimHost) (settings : LiveSimSettings)

def buildGatewaySendOrderPayload (intent : LiveSimIntent) : Payload :=
  let price := (intent.limitPrice.map fun price => Json.float (host.priceText price)).getD .null
  [("account_id", .str intent.accountId), ("account_mode", .str settings.accountMode),
    ("broker_env", .str settings.brokerEnv), ("server_mode", .str settings.serverMode),
    ("code", .str intent.code), ("name", .str intent.name), ("side", .str intent.side.value),
    ("quantity", .int intent.quantity), ("price", price), ("limit_price", price),
    ("order_type", .str intent.orderType.value), ("hoga", .str settings.defaultHoga),
    ("order_exchange", .str settings.orderExchange), ("mode", .str "LIVE_SIM"),
    ("live_mode", .str "LIVE_SIM")] ++ simulationOnly ++
  [("real_order_allowed", .bool false),
    ("live_sim_intent_id", .str intent.liveSimIntentId),
    ("idempotency_key", .str intent.idempotencyKey),
    ("metadata", .obj ([("source", .str "live_sim")] ++ simulationOnly ++
      [("order_exchange", .str settings.orderExchange),
        ("candidate_instance_id", .str intent.candidateInstanceId),
        ("strategy_observation_id", .str intent.strategyObservationId),
        ("risk_observation_id", .str intent.riskObservationId),
        ("dry_run_intent_id", textOrNull intent.dryRunIntentId),
        ("dry_run_order_id", textOrNull intent.dryRunOrderId),
        ("live_sim_intent_id", .str intent.liveSimIntentId),
        ("idempotency_key", .str intent.idempotencyKey)]))]

variable (readings : QueueReadings)

/-- The order of an intent. -/
def queuedOrder : LiveSimOrder where
  liveSimOrderId := readings.orderId
  liveSimIntentId := intent.liveSimIntentId
  gatewayCommandId := some readings.commandId
  tradeDate := intent.tradeDate
  accountId := intent.accountId
  code := intent.code
  name := intent.name
  side := intent.side
  orderType := intent.orderType
  quantity := intent.quantity
  limitPrice := intent.limitPrice
  notional := intent.notional
  status := .commandQueued
  brokerOrderNo := none
  brokerResultCode := none
  brokerMessage := none
  filledQuantity := 0
  remainingQuantity := intent.quantity
  avgFillPrice := none
  idempotencyKey := intent.idempotencyKey
  createdAt := datetimeToWire readings.queuedAt
  commandQueuedAt := some (datetimeToWire readings.queuedAt)
  commandDispatchedAt := none
  brokerAckedAt := none
  lastEventAt := none

def queuedIntent (commandId : String) (intent : LiveSimIntent) : LiveSimIntent :=
  { intent with status := .commandQueued, gatewayCommandId := some commandId }

theorem key_queuedIntent (commandId : String) (intent : LiveSimIntent) :
    Keyed.key (queuedIntent commandId intent) = Keyed.key intent :=
  rfl

theorem key_intent_queued (intent : LiveSimIntent) :
    Keyed.key (queuedIntent readings.commandId intent) = Keyed.key intent :=
  key_queuedIntent _ _

def optionalTimestamp (value : Option String) : Checked (Option Instant) :=
  match value with
  | none => .ok none
  | some value => do
      let instant ← parseTimestamp (.str value) "timestamp"
      return some instant

/-- The command of an order, enqueued in the transaction of the caller. -/
def enqueueOrder (gateway : Database)
    (intent : LiveSimIntent) (readings : QueueReadings) :
    Checked (EnqueueCommandResult × Database) := do
  let command ← liveSimCommand .sendOrder readings.commandId
    (buildGatewaySendOrderPayload host settings intent) intent.idempotencyKey readings.commandTs
  let expiresAt ← optionalTimestamp intent.expiresAt
  enqueueCommand host.toHost gateway command expiresAt readings.enqueuedAt

def writeQueuedOrder : Option LiveSimTables := do
  let orders ← insertOrder tables.orders (queuedOrder intent readings)
  return { tables with
    orders := orders
    intents := tables.intents.update intent.liveSimIntentId (queuedIntent readings.commandId)
      (key_queuedIntent _) }

/-- The steps inside the savepoint: one failure takes all of them back. -/
def submitOrder (store : LiveSimStore)
    (intent : LiveSimIntent) (readings : QueueReadings) : Checked LiveSimStore := do
  let (result, gateway) ← enqueueOrder host settings store.gateway intent readings
  if result.accepted then
    match writeQueuedOrder store.live intent readings with
    | some live => return { gateway := gateway, live := live }
    | none => .error (.crash "UNIQUE constraint failed: live_sim_orders")
  else Checked.invalid (result.errorMessage.getD "COMMAND_QUEUE_REJECTED")

def queueBoundaryReasons (readings : BuyReadings) : List String :=
  if intent.side = .buy then readings.boundaryReasons else []

def queueLiveSimOrderCommand (settings : LiveSimBuySettings)
    (store : LiveSimStore) (liveSimIntentId : String) (readings : BuyReadings) :
    LiveSimStore × Checked Unit :=
  match store.live.intents.find? liveSimIntentId with
  | none => (store, Checked.invalid ("LIVE_SIM intent not found: " ++ liveSimIntentId))
  | some intent =>
      if intent.status ≠ .created then
        (store, Checked.invalid
          ("LIVE_SIM intent cannot be queued from status: " ++ intent.status.value))
      else
        match orderQueueReasons settings store.live intent readings with
        | reason :: reasons =>
            (store, Checked.invalid (String.intercalate "," (reason :: reasons)))
        | [] =>
            match queueBoundaryReasons intent readings with
            | reason :: reasons =>
                (store, Checked.invalid (String.intercalate "," (reason :: reasons)))
            | [] =>
                match submitOrder host settings.toLiveSimSettings store intent
                    readings.toQueueReadings with
                | .ok written => (written, .ok ())
                | .error failure => (store, .error failure)

end SuseokTrader
