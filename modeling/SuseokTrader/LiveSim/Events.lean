import SuseokTrader.LiveSim.Executions

/-!
# Gateway events

Besides executions, the events of a command, of its cancellation and of its
rejection write the status of an order. The handler takes the status from the
type of the event; it does not look at the status the order has.
-/

namespace SuseokTrader

def stampOnce (stamp : Option String) (now : String) : Option String :=
  some (stamp.getD now)

/-! ## Command events of an order -/

def startedOrder (now : String) (order : LiveSimOrder) : LiveSimOrder :=
  { order with
    status := if order.side = .sell then .exitCommandQueued else .commandDispatched
    commandDispatchedAt := stampOnce order.commandDispatchedAt now
    lastEventAt := some now }

theorem key_startedOrder (now : String) (order : LiveSimOrder) :
    Keyed.key (startedOrder now order) = Keyed.key order :=
  rfl

structure AckDetails where
  accepted : Bool
  brokerOrderNo : Option String
  brokerResultCode : Option String
  message : Option String

/-- `bool(details.get("accepted", True))` -/
def acceptedOf (details : Payload) : Bool :=
  (details.getOr "accepted" (.bool true)).truthy

variable (host : Host)

def readAck (payload : Payload) : Checked AckDetails := do
  let details ← (payload.get "details").toObject host
  let brokerOrderNo ← Json.columnText
    ((Json.get details "broker_order_no").orElse (Json.get details "broker_order_id"))
  let brokerResultCode ← Json.columnText (Json.get details "broker_result_code")
  let message ← Json.columnText (payload.get "message")
  return { accepted := acceptedOf details, brokerOrderNo := brokerOrderNo
           brokerResultCode := brokerResultCode, message := message }

/-- An order whose command was acknowledged. -/
def ackedOrder (ack : AckDetails) (now : String) (order : LiveSimOrder) : LiveSimOrder :=
  { order with
    status := if ack.accepted then .brokerAcked else .brokerRejected
    brokerOrderNo := ack.brokerOrderNo.or order.brokerOrderNo
    brokerResultCode := ack.brokerResultCode.or order.brokerResultCode
    brokerMessage := ack.message.or order.brokerMessage
    brokerAckedAt := some now
    lastEventAt := some now }

theorem key_ackedOrder (ack : AckDetails) (now : String) (order : LiveSimOrder) :
    Keyed.key (ackedOrder ack now order) = Keyed.key order :=
  rfl

def endedOrder (status : LiveSimOrderStatus) (resultCode message : Option String) (now : String)
    (order : LiveSimOrder) : LiveSimOrder :=
  { order with
    status := status
    brokerResultCode := resultCode.or order.brokerResultCode
    brokerMessage := message.or order.brokerMessage
    lastEventAt := some now }

theorem key_endedOrder (status : LiveSimOrderStatus) (resultCode message : Option String)
    (now : String) (order : LiveSimOrder) :
    Keyed.key (endedOrder status resultCode message now order) = Keyed.key order :=
  rfl

def sentIntent (intent : LiveSimIntent) : LiveSimIntent :=
  { intent with brokerOrderSent := true }

variable (intent : LiveSimIntent)

theorem key_sentIntent :
    Keyed.key (sentIntent intent) = Keyed.key intent :=
  rfl

def setIntentStatus (status : LiveSimIntentStatus) (intent : LiveSimIntent) : LiveSimIntent :=
  { intent with status := status }

theorem key_setIntentStatus (status : LiveSimIntentStatus) (intent : LiveSimIntent) :
    Keyed.key (setIntentStatus status intent) = Keyed.key intent :=
  rfl

def failedIntent : LiveSimIntent :=
  if intent.status = .created ∨ intent.status = .commandQueued then
    { intent with status := .rejected, brokerOrderSent := false }
  else intent

theorem key_failedIntent :
    Keyed.key (failedIntent intent) = Keyed.key intent := by
  rw [failedIntent]
  split <;> rfl

def rejectionReason (value : Json) : Checked Unit :=
  if value.truthy then
    match value with
    | .str _ => .ok ()
    | _ => .error (.crash "sequence item 0: expected str instance")
  else .ok ()

variable (tables : LiveSimTables)

def markExitIntentByOrderRejected (orderId : String) (reason : Json) :
    Checked LiveSimTables :=
  match tables.exitIntentByOrderId orderId with
  | none => .ok tables
  | some intent => do
      rejectionReason reason
      return { tables with
        exitIntents := tables.exitIntents.update intent.exitIntentId
          (setExitIntentStatus .rejected) (key_setExitIntentStatus _) }

inductive CommandEvent where
  | started
  | acked
  | failed
deriving DecidableEq

/-- A command event of an order that was queued with the command. -/
def handleOrderCommandEvent (order : LiveSimOrder)
    (kind : CommandEvent) (payload : Payload) (now : String) : Checked LiveSimTables :=
  match kind with
  | .started => .ok (tables.updateOrder order.liveSimOrderId (startedOrder now)
      (key_startedOrder now))
  | .acked => do
      let ack ← readAck host payload
      let acked := tables.updateOrder order.liveSimOrderId (ackedOrder ack now)
        (key_ackedOrder ack now)
      return if ack.accepted then
        acked.updateIntent order.liveSimIntentId sentIntent key_sentIntent
      else acked
  | .failed => do
      let message ← Json.columnText (payload.get "error_message")
      let failed := tables.updateOrder order.liveSimOrderId
        (endedOrder .failed none message now) (key_endedOrder _ _ _ _)
      match order.side with
      | .buy => return failed.updateIntent order.liveSimIntentId failedIntent key_failedIntent
      | .sell =>
          markExitIntentByOrderRejected failed order.liveSimOrderId (payload.get "error_message")

/-! ## Command events of a cancellation -/

def setCancelIntentStatus (status : CancelIntentStatus) (intent : CancelIntent) : CancelIntent :=
  { intent with status := status }

theorem key_setCancelIntentStatus (status : CancelIntentStatus) (intent : CancelIntent) :
    Keyed.key (setCancelIntentStatus status intent) = Keyed.key intent :=
  rfl

def LiveSimTables.updateCancelIntent (id : String)
    (status : CancelIntentStatus) : LiveSimTables :=
  { tables with
    cancelIntents := tables.cancelIntents.update id (setCancelIntentStatus status)
      (key_setCancelIntentStatus status) }

def handleCancelCommandEvent (intent : CancelIntent)
    (kind : CommandEvent) (payload : Payload) (now : String) :
    Checked (LiveSimTables × LifecycleReply) :=
  match tables.orders.find? intent.liveSimOrderId with
  | none => .ok (tables, .ignored "cancel_original_order_missing")
  | some order => do
      let reply := LifecycleReply.cancel intent.cancelIntentId order.liveSimOrderId
      match kind with
      | .started => return (tables, reply)
      | .acked => do
          let ack ← readAck host payload
          let marked := tables.updateCancelIntent intent.cancelIntentId
            (if ack.accepted then .acked else .rejected)
          let ended := marked.updateOrder order.liveSimOrderId
            (endedOrder (if ack.accepted then .cancelled else .cancelRejected)
              ack.brokerResultCode ack.message now) (key_endedOrder _ _ _ _)
          return (if ack.accepted ∧ order.filledQuantity = 0 then
              ended.updateIntent order.liveSimIntentId (setIntentStatus .cancelled)
                (key_setIntentStatus _)
            else ended, reply)
      | .failed => do
          let message ← Json.columnText (payload.get "error_message")
          let marked := tables.updateCancelIntent intent.cancelIntentId .rejected
          return (marked.updateOrder order.liveSimOrderId
            (endedOrder .cancelRejected none message now) (key_endedOrder _ _ _ _), reply)

def handleCommandEvent (host : Host) (tables : LiveSimTables) (kind : CommandEvent)
    (event : GatewayEvent) (now : String) : Checked (LiveSimTables × LifecycleReply) :=
  match event.commandId with
  | none => .ok (tables, .ignored "missing_command_id")
  | some commandId =>
      match tables.orderByCommandId commandId with
      | some order => do
          let handled ← handleOrderCommandEvent host tables order kind event.payload now
          return (handled, .order order.liveSimOrderId)
      | none =>
          match tables.cancelIntentByCommandId commandId with
          | some intent => handleCancelCommandEvent host tables intent kind event.payload now
          | none => .ok (tables, .ignored "command_not_live_sim")

/-! ## Rejections and cancellations from the broker -/

inductive LifecycleEvent where
  | orderRejected
  | cancelAck
  | cancelRejected
deriving DecidableEq

/-- The order of a lifecycle event, by its command or by its order number. -/
def orderOfLifecycleEvent (event : GatewayEvent) :
    Checked (Option LiveSimOrder) :=
  match event.commandId.bind tables.orderByCommandId with
  | some order => .ok (some order)
  | none => do
      let number := (event.payload.get "broker_order_no").orElse
        (event.payload.get "broker_order_id")
      if number.truthy then do
        let number ← requireNonEmptyStr (.str (Json.text host number)) "broker_order_no"
        return tables.orderByBrokerOrderNo number
      else return none

def LifecycleEvent.asCommandEvent : LifecycleEvent → Option CommandEvent
  | .orderRejected => none
  | .cancelAck => some .acked
  | .cancelRejected => some .failed

def LifecycleEvent.orderStatus : LifecycleEvent → LiveSimOrderStatus
  | .orderRejected | .cancelRejected => .brokerRejected
  | .cancelAck => .cancelled

def handleOrderLifecycleEvent (host : Host) (tables : LiveSimTables) (kind : LifecycleEvent)
    (event : GatewayEvent) (now : String) : Checked (LiveSimTables × LifecycleReply) := do
  let payload := event.payload
  let _ ← (payload.get "metadata").toObject host
  let order ← orderOfLifecycleEvent host tables event
  match kind.asCommandEvent, event.commandId.bind tables.cancelIntentByCommandId with
  | some commandEvent, some intent =>
      handleCancelCommandEvent host tables intent commandEvent payload now
  | _, _ =>
      match order with
      | none => do
          recordError payload
          return (tables, .ignored "RECONCILE_REQUIRED")
      | some order => do
          let resultCode ← Json.columnText (payload.get "broker_result_code")
          let message ← Json.columnText
            ((payload.get "broker_message").orElse (payload.get "message"))
          return (tables.updateOrder order.liveSimOrderId
            (endedOrder kind.orderStatus resultCode message now) (key_endedOrder _ _ _ _),
            .order order.liveSimOrderId)

/-! ## The dispatcher -/

inductive LiveSimEvent where
  | command (kind : CommandEvent)
  | execution
  | lifecycle (kind : LifecycleEvent)
  | chejan
  | other
deriving DecidableEq

def liveSimEventOf (eventType : String) : LiveSimEvent :=
  let eventType := Text.lower (Text.strip eventType)
  if eventType = "command_started" then .command .started
  else if eventType = "command_ack" then .command .acked
  else if eventType = "command_failed" then .command .failed
  else if eventType = "execution_event" then .execution
  else if eventType = "order_rejected" then .lifecycle .orderRejected
  else if eventType = "cancel_ack" then .lifecycle .cancelAck
  else if eventType = "cancel_rejected" then .lifecycle .cancelRejected
  else if eventType = "kiwoom_order_chejan" then .chejan
  else .other

/-- The handler of a gateway event. The events it does not tell apart here (status notices, broker
snapshots, unknown ones) write no order, intent or position. -/
def handleLiveSimGatewayEvent (settings : LiveSimSettings) (tables : LiveSimTables)
    (event : GatewayEvent) (ids : FreshIds) (now : Instant) :
    Checked (LiveSimTables × LifecycleReply) :=
  match liveSimEventOf event.eventType with
  | .command kind => handleCommandEvent host tables kind event (datetimeToWire now)
  | .execution => do
      let reading ←
        readExecutionEvent host settings tables event.payload event.commandId event.ts
      applyReading settings tables ids (datetimeToWire now) reading
  | .lifecycle kind => handleOrderLifecycleEvent host tables kind event (datetimeToWire now)
  | .chejan => do
      let reading ← readChejanEvent host settings tables event
      applyReading settings tables ids (datetimeToWire now) reading
  | .other => .ok (tables, .ignored "event_type_not_live_sim")

def tablesAfterEvent (settings : LiveSimSettings) (tables : LiveSimTables)
    (event : GatewayEvent) (ids : FreshIds) (now : Instant) : LiveSimTables :=
  match handleLiveSimGatewayEvent host settings tables event ids now with
  | .ok (handled, _) => handled
  | .error _ => tables

end SuseokTrader
