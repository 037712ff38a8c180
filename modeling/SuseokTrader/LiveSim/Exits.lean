import SuseokTrader.Gateway.CommandStore
import SuseokTrader.LiveSim.Executions

/-!
# Exits

A signal of the exit policy becomes an exit intent, and the intent a SELL order
with its gateway command. The command is enqueued, and committed, before the
rows of the order are written.
-/

namespace SuseokTrader

/-- The gateway tables and the tables of the simulated trading in one database. -/
structure LiveSimStore where
  gateway : Database
  live : LiveSimTables

/-- The host with the text of a price. -/
structure LiveSimHost extends Host where
  priceText : Rat → String

/-- What a call that queues a command draws from outside: new identifiers, the clock, and the
reasons of the safety gate. -/
structure QueueReadings where
  commandId : String
  orderId : String
  gateReasons : List String
  commandTs : Instant
  enqueuedAt : Instant
  queuedAt : Instant

/-! ## Commands -/

def checkedText (value : Json) (fieldName : String) : Checked {text : String // Stripped text} :=
  match accepted : requireNonEmptyStr value fieldName with
  | .ok text => .ok ⟨text, stripped_of_requireNonEmptyStr accepted⟩
  | .error failure => .error failure

inductive LiveSimCommandType where
  | sendOrder
  | cancelOrder
deriving DecidableEq

def LiveSimCommandType.value : LiveSimCommandType → String
  | sendOrder => "send_order"
  | cancelOrder => "cancel_order"

theorem LiveSimCommandType.stripped (commandType : LiveSimCommandType) :
    Stripped commandType.value := by
  cases commandType <;> decide +kernel

def liveSimCommand (commandType : LiveSimCommandType) (commandId : String) (payload : Payload)
    (idempotencyKey : String) (ts : Instant) : Checked GatewayCommand := do
  let commandId ← checkedText (.str commandId) "command_id"
  let idempotencyKey ← checkedText (.str idempotencyKey) "idempotency_key"
  return {
    commandId := commandId.val
    commandType := commandType.value
    source := "live_sim"
    ts := ts
    payload := payload
    idempotencyKey := some idempotencyKey.val
    commandId_stripped := .of_val commandId
    commandType_stripped := commandType.stripped
    source_stripped := stripped_liveSim
    idempotencyKey_stripped := .of_val idempotencyKey }

def mergeReasons (reasons : List String) : List String :=
  ((reasons.filter fun reason => Text.strip reason ≠ "").map Text.upper).eraseDups

def reasonsWhere (checks : List (Bool × String)) : List String :=
  (checks.filter Prod.fst).map Prod.snd

/-! ## Signals -/

namespace LiveSimTables

variable (tables : LiveSimTables)

def activeExitIntentForPosition (positionId : String) : Bool :=
  tables.exitIntents.rows.any fun intent =>
    intent.positionId = positionId && intent.status.isActive

def activeExitForPosition (positionId : String) : Bool :=
  tables.activeExitIntentForPosition positionId ||
    tables.exitSignals.rows.any fun signal =>
      signal.positionId = positionId && signal.status.isActive

def newerSignal (left right : ExitSignal) : Ordering :=
  (compare right.createdAt left.createdAt).then (compare right.exitSignalId left.exitSignalId)

def latestExitSignalForPosition (positionId : String) :
    Option ExitSignal :=
  ((tables.exitSignals.rows.filter fun signal =>
      signal.positionId = positionId && signal.status.isActive).insertionSort
    fun left right => (newerSignal left right).isLE).head?

end LiveSimTables

structure ExitTrigger where
  reason : String
  triggerPrice : Option Rat
  lastPrice : Rat

variable (position : LiveSimPosition)

def isEvaluated : Bool :=
  position.status = .opened && position.quantity > 0 && position.availableQuantity > 0

def exitSignalCandidate (trigger : ExitTrigger)
    (exitSignalId createdAt : String) : ExitSignal where
  exitSignalId := exitSignalId
  positionId := position.positionId
  code := position.code
  reason := trigger.reason
  triggerPrice := trigger.triggerPrice
  lastPrice := some trigger.lastPrice
  quantity := position.availableQuantity
  status := .signalled
  createdAt := createdAt

variable (tables : LiveSimTables)

def insertExitSignalFromCandidate (signal : ExitSignal) :
    Checked LiveSimTables :=
  if tables.activeExitForPosition signal.positionId then
    Checked.invalid "LIVE_SIM_EXIT_DUPLICATE"
  else
    match tables.exitSignals.insert? signal with
    | some exitSignals => .ok { tables with exitSignals := exitSignals }
    | none => .error (.crash "UNIQUE constraint failed: live_sim_exit_signals.exit_signal_id")

/-! ## Exit intents -/

def insertExitIntent (exitIntents : Table ExitIntent) (intent : ExitIntent) :
    Option (Table ExitIntent) :=
  if exitIntents.rows.any fun other => other.idempotencyKey = intent.idempotencyKey then none
  else exitIntents.insert? intent

def exitIdempotencyKey (positionId : String) (signal : ExitSignal) : String :=
  "live_sim_exit:" ++ positionId ++ ":" ++ signal.exitSignalId ++ ":" ++ signal.reason

variable (settings : LiveSimSettings)

/-- The checks before an exit intent is created; the first that fails is raised. -/
def exitIntentRefusal (tables : LiveSimTables)
    (position : LiveSimPosition) : Option String :=
  if !settings.exitEngineEnabled then some "LIVE_SIM_EXIT_DISABLED"
  else if !settings.exitOrderCreationEnabled then some "LIVE_SIM_EXIT_ORDER_CREATION_DISABLED"
  else if tables.activeExitIntentForPosition position.positionId then
    some "LIVE_SIM_EXIT_DUPLICATE"
  else if position.status ≠ .opened ∧ position.status ≠ .reconcileMismatch then
    some "LIVE_SIM_EXIT_POSITION_NOT_OPEN"
  else if position.availableQuantity ≤ 0 ∨ position.quantity < position.availableQuantity then
    some "LIVE_SIM_EXIT_QUANTITY_INVALID"
  else none

def newExitIntent (position : LiveSimPosition) (signal : ExitSignal)
    (exitIntentId : String) : ExitIntent where
  exitIntentId := exitIntentId
  positionId := position.positionId
  exitSignalId := signal.exitSignalId
  liveSimOrderId := none
  gatewayCommandId := none
  code := position.code
  quantity := position.availableQuantity
  orderType := settings.exitDefaultOrderType
  limitPrice := if signal.lastPrice.getD 0 = 0 then position.lastPrice else signal.lastPrice
  reason := signal.reason
  status := .created
  idempotencyKey := exitIdempotencyKey position.positionId signal

def createLiveSimExitIntent (tables : LiveSimTables)
    (positionId : String) (exitSignalId : Option String) (exitIntentId : String) :
    Checked LiveSimTables :=
  match tables.positions.find? positionId with
  | none => Checked.invalid "LIVE_SIM_EXIT_POSITION_NOT_FOUND"
  | some position =>
      match exitIntentRefusal settings tables position with
      | some refusal => Checked.invalid refusal
      | none =>
          -- the signal is taken as it is: whichever position it is for, whatever its status
          match exitSignalId.elim (tables.latestExitSignalForPosition positionId)
              tables.exitSignals.find? with
          | none => Checked.invalid "LIVE_SIM_EXIT_SIGNAL_REQUIRED"
          | some signal =>
              match insertExitIntent tables.exitIntents
                  (newExitIntent settings position signal exitIntentId) with
              | none => .error (.crash "UNIQUE constraint failed: live_sim_exit_intents")
              | some exitIntents =>
                  .ok { tables with
                    exitIntents := exitIntents
                    exitSignals := tables.exitSignals.update signal.exitSignalId
                      (setExitSignalStatus .exitIntentCreated) (key_setExitSignalStatus _) }

/-! ## Queueing an exit -/

def exitSafetyReasons (gateReasons : List String)
    (position : LiveSimPosition) (intent : ExitIntent) : List String :=
  mergeReasons (gateReasons ++ reasonsWhere [
    (!settings.exitEngineEnabled, "LIVE_SIM_EXIT_DISABLED"),
    (!settings.exitOrderCreationEnabled, "LIVE_SIM_EXIT_ORDER_CREATION_DISABLED"),
    (!settings.exitGatewayCommandEnabled, "LIVE_SIM_EXIT_GATEWAY_COMMAND_DISABLED"),
    (settings.killSwitch, "LIVE_SIM_KILL_SWITCH_ACTIVE"),
    (!settings.exitAllowSellCloseOnly, "SELL_NOT_ALLOWED"),
    (settings.exitAllowShort, "LIVE_SIM_EXIT_SHORT_NOT_ALLOWED"),
    (intent.orderType = .market, "LIVE_SIM_EXIT_MARKET_ORDER_NOT_ALLOWED"),
    (position.status = .closed, "LIVE_SIM_EXIT_POSITION_NOT_OPEN"),
    (intent.quantity ≤ 0 || position.availableQuantity < intent.quantity,
      "LIVE_SIM_EXIT_QUANTITY_INVALID"),
    ((intent.gatewayCommandId.getD "") ≠ "", "LIVE_SIM_EXIT_DUPLICATE")])

def exitLimitPrice (position : LiveSimPosition)
    (intent : ExitIntent) : Rat :=
  (if intent.limitPrice.getD 0 = 0 then position.lastPrice.getD 0 else intent.limitPrice.getD 0) +
    settings.exitPriceOffsetTicks

def simulationOnly : Payload :=
  [("live_sim_only", .bool true), ("live_real_allowed", .bool false),
    ("broker_order_path", .str "LIVE_SIM_ONLY")]

variable (host : LiveSimHost)

def buildGatewayExitOrderPayload (settings : LiveSimSettings)
    (position : LiveSimPosition) (intent : ExitIntent) : Payload :=
  let price := Json.float (host.priceText (exitLimitPrice settings position intent))
  let identity : Payload :=
    [("position_id", .str position.positionId), ("exit_signal_id", .str intent.exitSignalId),
      ("exit_intent_id", .str intent.exitIntentId),
      ("live_sim_intent_id", .str intent.exitIntentId),
      ("idempotency_key", .str intent.idempotencyKey)]
  [("account_id", .str position.accountId), ("account_mode", .str settings.accountMode),
    ("broker_env", .str settings.brokerEnv), ("server_mode", .str settings.serverMode),
    ("code", .str position.code), ("name", .str position.name), ("side", .str "SELL"),
    ("quantity", .int intent.quantity), ("price", price), ("limit_price", price),
    ("order_type", .str intent.orderType.value), ("hoga", .str settings.defaultHoga),
    ("order_exchange", .str settings.orderExchange), ("mode", .str "LIVE_SIM"),
    ("live_mode", .str "LIVE_SIM")] ++ simulationOnly ++
  [("real_order_allowed", .bool false), ("close_only", .bool true),
    ("allow_short", .bool false)] ++ identity ++
  [("metadata", .obj ([("source", .str "live_sim")] ++ simulationOnly ++
    [("order_exchange", .str settings.orderExchange), ("close_only", .bool true),
      ("allow_short", .bool false)] ++ identity))]

def insertOrder (orders : Table LiveSimOrder) (order : LiveSimOrder) :
    Option (Table LiveSimOrder) :=
  if orders.rows.any fun other => other.idempotencyKey = order.idempotencyKey then none
  else orders.insert? order

/-- The SELL order of an exit intent. -/
def exitOrder (intent : ExitIntent) (readings : QueueReadings) :
    LiveSimOrder where
  liveSimOrderId := readings.orderId
  liveSimIntentId := intent.exitIntentId
  gatewayCommandId := some readings.commandId
  tradeDate := position.tradeDate
  accountId := position.accountId
  code := position.code
  name := position.name
  side := .sell
  orderType := intent.orderType
  quantity := intent.quantity
  limitPrice := intent.limitPrice
  notional := intent.quantity * intent.limitPrice.getD 0
  status := .exitCommandQueued
  brokerOrderNo := none
  brokerResultCode := none
  brokerMessage := none
  filledQuantity := 0
  remainingQuantity := intent.quantity
  avgFillPrice := none
  idempotencyKey := intent.idempotencyKey
  createdAt := datetimeToWire readings.queuedAt
  commandQueuedAt := some (datetimeToWire readings.queuedAt)
  commandDispatchedAt := none
  brokerAckedAt := none
  lastEventAt := none

def queuedExitIntent (commandId orderId : String) (intent : ExitIntent) : ExitIntent :=
  { intent with
    status := .commandQueued, gatewayCommandId := some commandId, liveSimOrderId := some orderId }

theorem key_queuedExitIntent (commandId orderId : String) (intent : ExitIntent) :
    Keyed.key (queuedExitIntent commandId orderId intent) = Keyed.key intent :=
  rfl

theorem key_exitIntent_queued (readings : QueueReadings) (intent : ExitIntent) :
    Keyed.key (queuedExitIntent readings.commandId readings.orderId intent) = Keyed.key intent :=
  key_queuedExitIntent _ _ _

def closingPosition (now : String) (position : LiveSimPosition) : LiveSimPosition :=
  { position with status := .closing, updatedAt := now }

theorem key_closingPosition (now : String) (position : LiveSimPosition) :
    Keyed.key (closingPosition now position) = Keyed.key position :=
  rfl

theorem key_position_closing (readings : QueueReadings) (position : LiveSimPosition) :
    Keyed.key (closingPosition (datetimeToWire readings.queuedAt) position) =
      Keyed.key position :=
  key_closingPosition _ _

def LiveSimTables.rejectExitIntent (exitIntentId : String) :
    LiveSimTables :=
  { tables with
    exitIntents := tables.exitIntents.update exitIntentId (setExitIntentStatus .rejected)
      (key_setExitIntentStatus _) }

/-- The rows of a queued exit: the order, the intent, the signal and the position. -/
def writeQueuedExit (position : LiveSimPosition) (intent : ExitIntent)
    (readings : QueueReadings) : Option LiveSimTables := do
  let orders ← insertOrder tables.orders (exitOrder position intent readings)
  return { tables with
    orders := orders
    exitIntents := tables.exitIntents.update intent.exitIntentId
      (queuedExitIntent readings.commandId readings.orderId) (key_queuedExitIntent _ _)
    exitSignals := tables.exitSignals.update intent.exitSignalId
      (setExitSignalStatus .commandQueued) (key_setExitSignalStatus _)
    positions := tables.positions.update position.positionId
      (closingPosition (datetimeToWire readings.queuedAt)) (key_closingPosition _) }

/-- The call with the enqueued command: the answer of the gateway store decides. -/
def queueExitCommand (store : LiveSimStore) (position : LiveSimPosition)
    (intent : ExitIntent) (command : GatewayCommand) (readings : QueueReadings) :
    LiveSimStore × Checked Unit :=
  match enqueueCommand host.toHost store.gateway command none readings.enqueuedAt with
  | .error failure => (store, .error failure)
  | .ok (result, gateway) =>
      if result.accepted then
        match writeQueuedExit store.live position intent readings with
        | some live => ({ gateway := gateway, live := live }, .ok ())
        | none => ({ store with gateway := gateway },
            .error (.crash "UNIQUE constraint failed: live_sim_orders"))
      else
        ({ gateway := gateway, live := store.live.rejectExitIntent intent.exitIntentId },
          Checked.invalid (result.errorMessage.getD "COMMAND_QUEUE_REJECTED"))

def queueLiveSimExitOrderCommand (settings : LiveSimSettings)
    (store : LiveSimStore) (exitIntentId : String) (readings : QueueReadings) :
    LiveSimStore × Checked Unit :=
  match store.live.exitIntents.find? exitIntentId with
  | none => (store, Checked.invalid ("LIVE_SIM exit intent not found: " ++ exitIntentId))
  | some intent =>
      match store.live.positions.find? intent.positionId with
      | none => (store, Checked.invalid "LIVE_SIM_EXIT_POSITION_NOT_FOUND")
      | some position =>
          match exitSafetyReasons settings readings.gateReasons position intent with
          | reason :: reasons =>
              ({ store with live := store.live.rejectExitIntent intent.exitIntentId },
                Checked.invalid (String.intercalate "," (reason :: reasons)))
          | [] =>
              match liveSimCommand .sendOrder readings.commandId
                  (buildGatewayExitOrderPayload host settings position intent)
                  intent.idempotencyKey readings.commandTs with
              | .error failure => (store, .error failure)
              | .ok command => queueExitCommand host store position intent command readings

end SuseokTrader
