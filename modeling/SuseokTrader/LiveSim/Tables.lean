import SuseokTrader.Broker.Envelopes
import SuseokTrader.Lib.Table

/-!
# Tables of the simulated live trading

Buy intents and exit intents become orders when their gateway command is
queued. Executions of an order change the order and a position. Prices and
notionals are exact rational numbers.
-/

namespace SuseokTrader

/-! ## Statuses -/

inductive LiveSimIntentStatus where
  | created
  | rejected
  | commandQueued
  | expired
  | cancelled
deriving DecidableEq

def LiveSimIntentStatus.value : LiveSimIntentStatus → String
  | created => "CREATED"
  | rejected => "REJECTED"
  | commandQueued => "COMMAND_QUEUED"
  | expired => "EXPIRED"
  | cancelled => "CANCELLED"

/-- `ACTIVE_LIVE_SIM_INTENT_STATUSES` -/
def LiveSimIntentStatus.isActive : LiveSimIntentStatus → Bool
  | created | commandQueued => true
  | _ => false

inductive LiveSimOrderStatus where
  | intentCreated
  | commandQueued
  | commandDispatched
  | brokerAcked
  | brokerRejected
  | partiallyFilled
  | filled
  | cancelRequested
  | cancelCommandQueued
  | cancelAcked
  | cancelRejected
  | exitRequested
  | exitCommandQueued
  | exitFilled
  | cancelled
  | failed
  | expired
  | orderExpired
  | reconcileMismatch
deriving DecidableEq

namespace LiveSimOrderStatus

/-- `ACTIVE_LIVE_SIM_ORDER_STATUSES` -/
def isActive : LiveSimOrderStatus → Bool
  | intentCreated | commandQueued | commandDispatched | brokerAcked | partiallyFilled
  | cancelRequested | cancelCommandQueued | exitRequested | exitCommandQueued => true
  | _ => false

/-- `TERMINAL_LIVE_SIM_ORDER_STATUSES` -/
def isTerminal : LiveSimOrderStatus → Bool
  | brokerRejected | filled | cancelled | failed | expired | orderExpired | cancelAcked
  | cancelRejected | exitFilled => true
  | _ => false

/-- `NON_CONSUMING_LIVE_SIM_ORDER_STATUSES` -/
def isNonConsuming : LiveSimOrderStatus → Bool
  | failed | orderExpired => true
  | _ => false

end LiveSimOrderStatus

inductive LiveSimSide where
  | buy
  | sell
deriving DecidableEq

inductive LiveSimOrderType where
  | limit
  | market
deriving DecidableEq

def LiveSimSide.value : LiveSimSide → String
  | buy => "BUY"
  | sell => "SELL"

def LiveSimOrderType.value : LiveSimOrderType → String
  | limit => "LIMIT"
  | market => "MARKET"

inductive PositionStatus where
  | opened
  | closing
  | reconcileMismatch
  | closed
deriving DecidableEq

inductive ExitSignalStatus where
  | signalled
  | exitIntentCreated
  | commandQueued
  | closed
deriving DecidableEq

/-- `ACTIVE_EXIT_SIGNAL_STATUSES` -/
def ExitSignalStatus.isActive : ExitSignalStatus → Bool
  | signalled | exitIntentCreated | commandQueued => true
  | closed => false

inductive ExitIntentStatus where
  | created
  | rejected
  | commandQueued
  | closed
deriving DecidableEq

/-- `ACTIVE_EXIT_INTENT_STATUSES` -/
def ExitIntentStatus.isActive : ExitIntentStatus → Bool
  | created | commandQueued => true
  | rejected | closed => false

inductive CancelIntentStatus where
  | created
  | rejected
  | commandQueued
  | acked
deriving DecidableEq

/-- `ACTIVE_CANCEL_INTENT_STATUSES` -/
def CancelIntentStatus.isActive : CancelIntentStatus → Bool
  | created | commandQueued => true
  | _ => false

/-! ## Rows -/

structure LiveSimIntent where
  liveSimIntentId : String
  candidateInstanceId : String
  strategyObservationId : String
  riskObservationId : String
  dryRunIntentId : Option String
  dryRunOrderId : Option String
  tradeDate : String
  accountId : String
  code : String
  name : String
  side : LiveSimSide
  orderType : LiveSimOrderType
  quantity : Int
  limitPrice : Option Rat
  notional : Rat
  status : LiveSimIntentStatus
  idempotencyKey : String
  gatewayCommandId : Option String
  brokerOrderSent : Bool
  createdAt : String
  expiresAt : Option String

instance : Keyed LiveSimIntent String := ⟨LiveSimIntent.liveSimIntentId⟩

structure LiveSimOrder where
  liveSimOrderId : String
  liveSimIntentId : String
  gatewayCommandId : Option String
  tradeDate : String
  accountId : String
  code : String
  name : String
  side : LiveSimSide
  orderType : LiveSimOrderType
  quantity : Int
  limitPrice : Option Rat
  notional : Rat
  status : LiveSimOrderStatus
  brokerOrderNo : Option String
  brokerResultCode : Option String
  brokerMessage : Option String
  filledQuantity : Int
  remainingQuantity : Int
  avgFillPrice : Option Rat
  idempotencyKey : String
  createdAt : String
  commandQueuedAt : Option String
  commandDispatchedAt : Option String
  brokerAckedAt : Option String
  lastEventAt : Option String

instance : Keyed LiveSimOrder String := ⟨LiveSimOrder.liveSimOrderId⟩

structure LiveSimExecution where
  liveSimExecutionId : String
  brokerExecutionId : String
  executionKey : String
  liveSimOrderId : String
  liveSimIntentId : String
  brokerOrderNo : Option String
  accountId : String
  code : String
  side : LiveSimSide
  quantity : Int
  price : Rat
  notional : Rat
  executedAt : String

instance : Keyed LiveSimExecution String := ⟨LiveSimExecution.liveSimExecutionId⟩

structure LiveSimPosition where
  positionId : String
  accountId : String
  tradeDate : String
  code : String
  name : String
  quantity : Int
  availableQuantity : Int
  avgEntryPrice : Rat
  totalEntryNotional : Rat
  realizedPnl : Rat
  unrealizedPnl : Rat
  highestPrice : Option Rat
  lowestPrice : Option Rat
  openedAt : String
  closedAt : Option String
  lastPrice : Option Rat
  lastPriceAt : Option String
  status : PositionStatus
  sourceLiveSimOrderId : String
  sourceLiveSimIntentId : String
  updatedAt : String

instance : Keyed LiveSimPosition String := ⟨LiveSimPosition.positionId⟩

structure ExitSignal where
  exitSignalId : String
  positionId : String
  code : String
  reason : String
  triggerPrice : Option Rat
  lastPrice : Option Rat
  quantity : Int
  status : ExitSignalStatus
  createdAt : String

instance : Keyed ExitSignal String := ⟨ExitSignal.exitSignalId⟩

structure ExitIntent where
  exitIntentId : String
  positionId : String
  exitSignalId : String
  liveSimOrderId : Option String
  gatewayCommandId : Option String
  code : String
  quantity : Int
  orderType : LiveSimOrderType
  limitPrice : Option Rat
  reason : String
  status : ExitIntentStatus
  idempotencyKey : String

instance : Keyed ExitIntent String := ⟨ExitIntent.exitIntentId⟩

structure CancelIntent where
  cancelIntentId : String
  liveSimOrderId : String
  gatewayCommandId : Option String
  code : String
  originalOrderNo : Option String
  cancelQuantity : Int
  reason : String
  status : CancelIntentStatus
  idempotencyKey : String

instance : Keyed CancelIntent String := ⟨CancelIntent.cancelIntentId⟩

structure LiveSimTables where
  intents : Table LiveSimIntent
  orders : Table LiveSimOrder
  executions : Table LiveSimExecution
  positions : Table LiveSimPosition
  exitSignals : Table ExitSignal
  exitIntents : Table ExitIntent
  cancelIntents : Table CancelIntent

namespace LiveSimTables

def empty : LiveSimTables where
  intents := .empty
  orders := .empty
  executions := .empty
  positions := .empty
  exitSignals := .empty
  exitIntents := .empty
  cancelIntents := .empty

/-! ## Lookups -/

variable (tables : LiveSimTables)

def orderByCommandId (commandId : String) : Option LiveSimOrder :=
  tables.orders.rows.find? fun order => order.gatewayCommandId = some commandId

def orderByBrokerOrderNo (brokerOrderNo : String) :
    Option LiveSimOrder :=
  tables.orders.rows.find? fun order => order.brokerOrderNo = some brokerOrderNo

def cancelIntentByCommandId (commandId : String) :
    Option CancelIntent :=
  tables.cancelIntents.rows.find? fun intent => intent.gatewayCommandId = some commandId

def exitIntentByOrderId (orderId : String) : Option ExitIntent :=
  tables.exitIntents.rows.find? fun intent => intent.liveSimOrderId = some orderId

/-! ## Updates of one row -/

def updateIntent (id : String) (change : LiveSimIntent → LiveSimIntent)
    (keeps : ∀ intent, Keyed.key (change intent) = Keyed.key intent) : LiveSimTables :=
  { tables with intents := tables.intents.update id change keeps }

def updateOrder (id : String) (change : LiveSimOrder → LiveSimOrder)
    (keeps : ∀ order, Keyed.key (change order) = Keyed.key order) : LiveSimTables :=
  { tables with orders := tables.orders.update id change keeps }

def updatePosition (id : String)
    (change : LiveSimPosition → LiveSimPosition)
    (keeps : ∀ position, Keyed.key (change position) = Keyed.key position) : LiveSimTables :=
  { tables with positions := tables.positions.update id change keeps }

end LiveSimTables

/-! ## Settings -/

/-- The settings that the modelled operations read. -/
structure LiveSimSettings where
  accountId : String
  accountMode : String
  brokerEnv : String
  serverMode : String
  orderExchange : String
  defaultHoga : String
  feeRate : Rat
  taxRate : Rat
  maxDailyOrderCount : Int
  maxDailyNotional : Rat
  maxActiveOrders : Int
  orderTtlSec : Nat
  killSwitch : Bool
  exitEngineEnabled : Bool
  exitOrderCreationEnabled : Bool
  exitGatewayCommandEnabled : Bool
  exitAllowSellCloseOnly : Bool
  exitAllowShort : Bool
  exitDefaultOrderType : LiveSimOrderType
  exitMaxCommandsPerRun : Nat
  exitPriceOffsetTicks : Int
  cancelEnabled : Bool
  cancelUnfilledEnabled : Bool
  cancelKillSwitch : Bool
  cancelOrderTtlSec : Nat
  cancelRequireBrokerOrderNo : Bool
  cancelAllowWithoutBrokerOrderNo : Bool

end SuseokTrader
