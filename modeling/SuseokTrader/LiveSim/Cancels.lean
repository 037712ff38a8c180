import SuseokTrader.LiveSim.Events
import SuseokTrader.LiveSim.Orders

/-!
# Cancelling a purchase

What is left of a BUY order can be cancelled by a command of its own. As for an
exit, the command is enqueued, and committed, before the rows are written.
-/

namespace SuseokTrader

/-! ## Cancel intents -/

namespace LiveSimTables

def activeCancelForOrder (tables : LiveSimTables) (orderId : String) : Bool :=
  tables.cancelIntents.rows.any fun intent =>
    intent.liveSimOrderId = orderId && intent.status.isActive

end LiveSimTables

def insertCancelIntent (cancelIntents : Table CancelIntent) (intent : CancelIntent) :
    Option (Table CancelIntent) :=
  if cancelIntents.rows.any fun other => other.idempotencyKey = intent.idempotencyKey then none
  else cancelIntents.insert? intent

def newCancelIntent (order : LiveSimOrder) (reason cancelIntentId : String) : CancelIntent where
  cancelIntentId := cancelIntentId
  liveSimOrderId := order.liveSimOrderId
  gatewayCommandId := none
  code := order.code
  originalOrderNo := order.brokerOrderNo
  cancelQuantity := order.remainingQuantity
  reason := Text.upper reason
  status := .created
  idempotencyKey := "live_sim_cancel:" ++ order.liveSimOrderId ++ ":" ++ Text.upper reason

def cancellingOrder (status : LiveSimOrderStatus) (now : String) (order : LiveSimOrder) :
    LiveSimOrder :=
  { order with status := status, lastEventAt := some now }

theorem key_cancellingOrder (status : LiveSimOrderStatus) (now : String) (order : LiveSimOrder) :
    Keyed.key (cancellingOrder status now order) = Keyed.key order :=
  rfl

def createLiveSimCancelIntent (tables : LiveSimTables) (orderId reason cancelIntentId : String)
    (now : Instant) : Checked LiveSimTables :=
  match tables.orders.find? orderId with
  | none => Checked.invalid ("LIVE_SIM order not found: " ++ orderId)
  | some order =>
      if tables.activeCancelForOrder orderId then Checked.invalid "LIVE_SIM_CANCEL_DUPLICATE"
      else if order.remainingQuantity ≤ 0 then
        Checked.invalid "LIVE_SIM_CANCEL_NO_REMAINING_QUANTITY"
      else
        match insertCancelIntent tables.cancelIntents
            (newCancelIntent order reason cancelIntentId) with
        | none => .error (.crash "UNIQUE constraint failed: live_sim_cancel_intents")
        | some cancelIntents => .ok { tables with
            cancelIntents := cancelIntents
            orders := tables.orders.update orderId
              (cancellingOrder .cancelRequested (datetimeToWire now))
              (key_cancellingOrder _ _) }

/-! ## Queueing a cancellation -/

variable (settings : LiveSimSettings)

def isWithinTtl (createdAt : String) (now : Instant) : Bool :=
  match parseTimestamp (.str createdAt) "timestamp" with
  | .ok created => (now : Int) - created < settings.cancelOrderTtlSec * Time.microsPerSecond ∧
      0 < settings.cancelOrderTtlSec
  | .error _ => false

def cancelSafetyReasons (order : LiveSimOrder)
    (intent : CancelIntent) (readings : QueueReadings) : List String :=
  mergeReasons (readings.gateReasons ++ reasonsWhere [
    (!settings.cancelEnabled, "LIVE_SIM_CANCEL_DISABLED"),
    (!settings.cancelUnfilledEnabled, "LIVE_SIM_CANCEL_UNFILLED_DISABLED"),
    (settings.cancelKillSwitch || settings.killSwitch, "LIVE_SIM_KILL_SWITCH_ACTIVE"),
    (order.side ≠ .buy, "LIVE_SIM_CANCEL_NOT_BUY"),
    (order.remainingQuantity ≤ 0, "LIVE_SIM_CANCEL_NO_REMAINING_QUANTITY"),
    (isWithinTtl settings order.createdAt readings.enqueuedAt, "LIVE_SIM_CANCEL_TTL_NOT_EXPIRED"),
    (settings.cancelRequireBrokerOrderNo && !settings.cancelAllowWithoutBrokerOrderNo &&
      order.brokerOrderNo.getD "" = "", "LIVE_SIM_CANCEL_BROKER_ORDER_NO_REQUIRED"),
    (intent.gatewayCommandId.getD "" ≠ "", "LIVE_SIM_CANCEL_DUPLICATE")])

def textOr (first second : Option String) : Json :=
  if first.getD "" = "" then textOrNull second else textOrNull first

def buildGatewayCancelOrderPayload (order : LiveSimOrder)
    (intent : CancelIntent) : Payload :=
  [("account_id", .str order.accountId), ("account_mode", .str settings.accountMode),
    ("broker_env", .str settings.brokerEnv), ("server_mode", .str settings.serverMode),
    ("code", .str order.code), ("name", .str order.name), ("side", .str "BUY_CANCEL"),
    ("quantity", .int intent.cancelQuantity), ("cancel_quantity", .int intent.cancelQuantity),
    ("original_order_no", textOr intent.originalOrderNo order.brokerOrderNo),
    ("original_order_id", .str order.liveSimOrderId),
    ("live_sim_order_id", .str order.liveSimOrderId), ("reason", .str intent.reason),
    ("mode", .str "LIVE_SIM"), ("live_mode", .str "LIVE_SIM")] ++ simulationOnly ++
  [("real_order_allowed", .bool false), ("order_exchange", .str settings.orderExchange),
    ("idempotency_key", .str intent.idempotencyKey),
    ("metadata", .obj ([("source", .str "live_sim")] ++ simulationOnly ++
      [("order_exchange", .str settings.orderExchange),
        ("cancel_intent_id", .str intent.cancelIntentId),
        ("original_live_sim_order_id", .str order.liveSimOrderId),
        ("live_sim_intent_id", .str order.liveSimIntentId),
        ("idempotency_key", .str intent.idempotencyKey)]))]

def queuedCancelIntent (commandId : String) (intent : CancelIntent) : CancelIntent :=
  { intent with status := .commandQueued, gatewayCommandId := some commandId }

theorem key_queuedCancelIntent (commandId : String) (intent : CancelIntent) :
    Keyed.key (queuedCancelIntent commandId intent) = Keyed.key intent :=
  rfl

theorem key_cancelIntent_queued (readings : QueueReadings) (intent : CancelIntent) :
    Keyed.key (queuedCancelIntent readings.commandId intent) = Keyed.key intent :=
  key_queuedCancelIntent _ _

theorem key_order_cancelling (readings : QueueReadings) (order : LiveSimOrder) :
    Keyed.key (cancellingOrder .cancelCommandQueued (datetimeToWire readings.queuedAt) order) =
      Keyed.key order :=
  key_cancellingOrder _ _ _

/-- The rows of a queued cancellation: the intent and the order. -/
def writeQueuedCancel (tables : LiveSimTables) (order : LiveSimOrder) (intent : CancelIntent)
    (readings : QueueReadings) : LiveSimTables :=
  { tables with
    cancelIntents := tables.cancelIntents.update intent.cancelIntentId
      (queuedCancelIntent readings.commandId) (key_queuedCancelIntent _)
    orders := tables.orders.update order.liveSimOrderId
      (cancellingOrder .cancelCommandQueued (datetimeToWire readings.queuedAt))
      (key_cancellingOrder _ _) }

/-- The call with the enqueued command: the answer of the gateway store decides. -/
def queueCancelCommand (host : LiveSimHost) (store : LiveSimStore) (order : LiveSimOrder)
    (intent : CancelIntent) (command : GatewayCommand) (readings : QueueReadings) :
    LiveSimStore × Checked Unit :=
  match enqueueCommand host.toHost store.gateway command none readings.enqueuedAt with
  | .error failure => (store, .error failure)
  | .ok (result, gateway) =>
      if result.accepted then
        ({ gateway := gateway, live := writeQueuedCancel store.live order intent readings }, .ok ())
      else
        ({ gateway := gateway,
           live := store.live.updateCancelIntent intent.cancelIntentId .rejected },
          Checked.invalid (result.errorMessage.getD "COMMAND_QUEUE_REJECTED"))

def queueLiveSimCancelCommand (host : LiveSimHost) (settings : LiveSimSettings)
    (store : LiveSimStore) (cancelIntentId : String) (readings : QueueReadings) :
    LiveSimStore × Checked Unit :=
  match store.live.cancelIntents.find? cancelIntentId with
  | none => (store, Checked.invalid ("LIVE_SIM cancel intent not found: " ++ cancelIntentId))
  | some intent =>
      match store.live.orders.find? intent.liveSimOrderId with
      | none => (store, Checked.invalid ("LIVE_SIM order not found: " ++ intent.liveSimOrderId))
      | some order =>
          match cancelSafetyReasons settings order intent readings with
          | reason :: reasons =>
              ({ store with
                 live := store.live.updateCancelIntent intent.cancelIntentId .rejected },
                Checked.invalid (String.intercalate "," (reason :: reasons)))
          | [] =>
              match liveSimCommand .cancelOrder readings.commandId
                  (buildGatewayCancelOrderPayload settings order intent)
                  intent.idempotencyKey readings.commandTs with
              | .error failure => (store, .error failure)
              | .ok command => queueCancelCommand host store order intent command readings

end SuseokTrader
