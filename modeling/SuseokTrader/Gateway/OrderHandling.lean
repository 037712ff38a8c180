import SuseokTrader.Gateway.CommandPolicy
import SuseokTrader.Gateway.PendingOrders
import SuseokTrader.Lib.Run
import SuseokTrader.Lib.Traced

/-!
# Orders at the broker

The gateway sends an order or a cancellation once Core has it on record, and
reports what became of it. The journal, the callbacks and the broker can each
fail; whatever escapes the handler is reported as a failed command.
-/

namespace SuseokTrader

/-! ## Requests -/

variable (host : Host)

variable (payload : Payload)

/-- `payload.get(key, default)` as a text, where nothing there means the default -/
def Payload.stringValue (key default : String) : String :=
  if (payload.get key).isNull then default else (payload.get key).text host

def orderPrice : Checked Int :=
  if Text.upper (Text.strip ((payload.get "order_type").textOrEmpty host)) = "MARKET" then .ok 0
  else (((payload.get "price").orElse (payload.get "limit_price")).orElse (.int 0)).toInt host

def kiwoomHoga : String :=
  let explicit := Text.strip ((payload.get "hoga").textOrEmpty host)
  if explicit ≠ "" then explicit
  else if Text.upper (Text.strip ((payload.get "order_type").textOrEmpty host)) = "MARKET" then
    "03"
  else "00"

def kiwoomOrderType : Checked Int :=
  let side := Text.upper (Text.strip ((payload.get "side").textOrEmpty host))
  if side = "BUY" then .ok 1
  else if side = "SELL" then .ok 2
  else if side = "BUY_CANCEL" ∨ side = "CANCEL_BUY" then .ok 3
  else Checked.invalid "Kiwoom LIVE_SIM adapter allows BUY, close-only SELL, or BUY_CANCEL"

def orderExchangeAliases : List (String × String) :=
  [("", "KRX"), ("K", "KRX"), ("KRX", "KRX"), ("N", "NXT"), ("NX", "NXT"), ("NXT", "NXT"),
    ("S", "SOR"), ("SO", "SOR"), ("SOR", "SOR"), ("A", "SOR"), ("AL", "SOR"), ("ALL", "SOR"),
    ("INTEGRATED", "SOR")]

def normalizeOrderExchange (value : Json) : Checked String :=
  let text := Text.upper (Text.strip ((value.orElse (.str "KRX")).text host))
  match orderExchangeAliases.lookup text with
  | some exchange => .ok exchange
  | none => Checked.invalid ("unsupported order exchange: " ++ value.text host)

variable (command : GatewayCommand)

/-- What a request takes from its command besides its quantity, its price and its side. -/
def orderRequest (quantity price : Checked Int)
    (side originalOrderNo : String) : Checked KiwoomOrderRequest := do
  let payload := command.payload
  let code ← normalizeCode ((payload.get "code").textOrEmpty host)
  let quantity ← quantity
  let price ← price
  let orderType ← kiwoomOrderType host payload
  let exchange ← normalizeOrderExchange host (payload.getOr "order_exchange" (.str "KRX"))
  return {
    account := payload.stringValue host "account_id" (payload.stringValue host "account" "")
    code := code
    quantity := quantity
    price := price
    side := side
    tag := payload.stringValue host "tag" command.commandId
    orderType := orderType
    hoga := kiwoomHoga host payload
    originalOrderNo := originalOrderNo
    commandId := command.commandId
    idempotencyKey := command.idempotencyKey.getD ""
    orderExchange := exchange
    metadata := payload.mapping "metadata" }

def sendOrderRequest : Checked KiwoomOrderRequest :=
  orderRequest host command
    (((command.payload.get "quantity").orElse (.int 0)).toInt host)
    (orderPrice host command.payload)
    (Text.upper (command.payload.stringValue host "side" "BUY")) ""

def cancelOrderRequest : Checked KiwoomOrderRequest :=
  orderRequest host command
    ((((command.payload.get "cancel_quantity").orElse (command.payload.get "quantity")).orElse
      (.int 0)).toInt host)
    (.ok 0) "BUY_CANCEL" (command.payload.stringValue host "original_order_no" "")

structure KiwoomOrderResult where
  ok : Bool
  code : Int
  message : String
  orderNo : String

/-! ## Events -/

def optionalJsonText : Option String → Json
  | some text => .str text
  | none => .null

def commandPayload (status : String) : Payload :=
  [("command_id", .str command.commandId), ("command_type", .str command.commandType),
    ("status", .str status)]

def commandEvent (eventType : String) (payload : Payload) :
    EmittedEvent where
  eventType := eventType
  payload := payload
  commandId := some command.commandId
  idempotencyKey := command.idempotencyKey

def commandStartedEvent : EmittedEvent :=
  commandEvent command "command_started" (commandPayload command "started")

variable (message : String)

def commandFailedEvent : EmittedEvent :=
  commandEvent command "command_failed"
    (commandPayload command "failed" ++ [("error_message", .str message)])

def commandAckEvent (details : Payload) :
    EmittedEvent :=
  commandEvent command "command_ack"
    (commandPayload command "acked" ++ [("message", .str message), ("details", .obj details)])

structure RateLimitDecision where
  allowed : Bool
  waitTime : Json
  reason : String

def rateLimitedEvent (decision : RateLimitDecision) : EmittedEvent :=
  commandEvent command "rate_limited"
    [("command_id", .str command.commandId), ("command_type", .str command.commandType),
      ("wait_time_sec", decision.waitTime), ("next_available_in_sec", decision.waitTime),
      ("reason", .str decision.reason), ("status", .str "rate_limited")]

def orderBrokerUnconfirmedEvent : EmittedEvent :=
  commandEvent command "order_broker_unconfirmed"
    [("command_id", .str command.commandId), ("command_type", .str command.commandType),
      ("idempotency_key", optionalJsonText command.idempotencyKey),
      ("status", .str "UNCONFIRMED"), ("broker_call_attempted", .bool true),
      ("broker_acceptance_unknown", .bool true), ("error_message", .str message),
      ("live_sim_only", .bool true), ("live_real_allowed", .bool false)]

def orderPreAckEvent (request : KiwoomOrderRequest)
    (brokerEnv : String) : EmittedEvent :=
  commandEvent command "order_pre_ack"
    [("command_id", .str command.commandId), ("command_type", .str command.commandType),
      ("idempotency_key", optionalJsonText command.idempotencyKey), ("status", .str "PRE_ACK"),
      ("broker_env", .str brokerEnv), ("account_id", .str request.account),
      ("code", .str request.code), ("side", .str request.side),
      ("quantity", .int request.quantity), ("price", .int request.price),
      ("order_type", .int request.orderType), ("hoga", .str request.hoga),
      ("original_order_no", .str request.originalOrderNo), ("metadata", .obj request.metadata)]

def gatewayErrorEvent : EmittedEvent where
  eventType := "gateway_error"
  payload := [("message", .str "COMMAND_HANDLE_FAILED"), ("command_id", .str command.commandId),
    ("command_type", .str command.commandType), ("error", .str message)]
  commandId := none
  idempotencyKey := none

/-! ## Surroundings -/

structure OrderJournal where
  preAck : Checked Unit
  failed : Checked Unit
  brokerResult : Checked Unit
  unconfirmed : Checked Unit

/-- What the handler of one command meets: the clock, the server, the rate limit, the callbacks,
the journal and the broker. What is not configured is absent. -/
structure OrderSurroundings where
  now : Instant
  serverGubun : Option (Checked Json)
  rateLimit : RateLimitDecision
  asyncEvents : Option (Checked Unit)
  journal : Option OrderJournal
  durablePreAck : Option (Checked Json)
  broker : Checked KiwoomOrderResult
  orderAck : Option (Checked Unit)

inductive OrderAction where
  | emits (event : EmittedEvent)
  | posts (event : EmittedEvent)
  | calls (request : KiwoomOrderRequest)

abbrev OrderProgram (Value : Type) :=
  Traced OrderAction Failure Value

def GatewayCommand.commandExpired (now : Instant) : Bool :=
  let value := ((command.payload.get "_gateway_command_expires_at").orElse
    (command.payload.get "gateway_command_expires_at")).orElse (command.payload.get "expires_at")
  if value.truthy then
    match parseTimestamp value "expires_at" with
    | .ok expiresAt => expiresAt ≤ now
    | .error _ => false
  else false

def brokerEnvFromServerGubun (value : Json) : String :=
  let text := Text.upper (Text.strip (value.textOrEmpty host))
  if text ∈ ["1", "SIM", "SIMULATION", "MOCK", "PAPER", "PAPER_TRADING", "LIVE_SIM", "TEST"] then
    "SIMULATION"
  else if text ∈ ["0", "REAL", "LIVE", "PROD", "PRODUCTION", "LIVE_REAL"] then "REAL"
  else "UNKNOWN"

namespace OrderSurroundings

variable (surroundings : OrderSurroundings)

def actualBrokerEnv : String :=
  match surroundings.serverGubun with
  | some (.ok value) => brokerEnvFromServerGubun host value
  | some (.error _) | none => "UNKNOWN"

def journals (entry : OrderJournal → Checked Unit) :
    Checked Unit :=
  match surroundings.journal with
  | some journal => entry journal
  | none => .ok ()

/-- An event that has to go out before a call that blocks: it is emitted at once, or returned with
the others. -/
def emitBeforeBlockingCall (event : EmittedEvent) :
    OrderProgram (List EmittedEvent) :=
  match surroundings.asyncEvents with
  | none => return [event]
  | some outcome => do
      Traced.act (.emits event)
      Traced.lift outcome
      return []

/-- Why Core's answer to a pre-acknowledgement does not let the order through. -/
def preAckRefusal (response : Json) : Option String :=
  match response.asObject with
  | none => some "DURABLE_DB_PRE_ACK_FAILED: Core returned an invalid response"
  | some fields =>
      if (Json.get fields "accepted").isTrue then
        if (Json.get fields "durable_pre_ack_recorded").isTrue then none
        else some "DURABLE_DB_PRE_ACK_FAILED: Core did not confirm durable pre-ack"
      else some "DURABLE_DB_PRE_ACK_FAILED: Core did not accept pre-ack event"

def recordDurablePreAck
    (command : GatewayCommand) (request : KiwoomOrderRequest) : OrderProgram (Option String) := do
  Traced.lift (surroundings.journals OrderJournal.preAck)
  match surroundings.durablePreAck with
  | none => return some "DURABLE_DB_PRE_ACK_FAILED: callback is not configured"
  | some answer => do
      Traced.act (.posts (orderPreAckEvent command request (surroundings.actualBrokerEnv host)))
      match answer with
      | .error failure => return some ("DURABLE_DB_PRE_ACK_FAILED: " ++ failure.text)
      | .ok response => return preAckRefusal response

end OrderSurroundings

/-! ## The handlers -/

structure OrderHandling where
  commandType : String
  request : Host → GatewayCommand → Checked KiwoomOrderRequest
  acknowledged : OrderSurroundings → Checked Unit
  details : KiwoomOrderRequest → KiwoomOrderResult → Payload
  acceptedMessage : String
  rejectedMessage : String

def resultDetails (brokerEnv : String) (request : KiwoomOrderRequest)
    (result : KiwoomOrderResult) (own more : Payload) : Payload :=
  [("accepted", .bool result.ok), ("broker_result_code", .str (toString result.code)),
    ("broker_message", .str result.message)] ++ own ++
  [("live_sim_only", .bool true), ("live_real_allowed", .bool false),
    ("broker_env", .str brokerEnv), ("account_mode", .str brokerEnv),
    ("server_mode", .str brokerEnv), ("order_exchange", .str request.orderExchange)] ++ more

/-- The handler of `send_order`. -/
def sendOrderHandling : OrderHandling where
  commandType := "send_order"
  request := sendOrderRequest
  acknowledged surroundings := surroundings.orderAck.getD (.ok ())
  details request result := resultDetails "SIMULATION" request result []
    (if result.orderNo = "" then []
      else [("broker_order_no", .str result.orderNo), ("broker_order_id", .str result.orderNo)])
  acceptedMessage := "Kiwoom LIVE_SIM order accepted"
  rejectedMessage := "Kiwoom SendOrder rejected: "

/-- The handler of `cancel_order`: no acknowledgement is called back. -/
def cancelOrderHandling : OrderHandling where
  commandType := "cancel_order"
  request := cancelOrderRequest
  acknowledged _ := .ok ()
  details request result := resultDetails "SIMULATION" request result
    [("original_order_no", .str request.originalOrderNo)] []
  acceptedMessage := "Kiwoom LIVE_SIM cancel accepted"
  rejectedMessage := "Kiwoom cancel_order rejected: "

inductive OrderKind where
  | sendOrder
  | cancelOrder
deriving DecidableEq

def OrderKind.handling : OrderKind → OrderHandling
  | sendOrder => sendOrderHandling
  | cancelOrder => cancelOrderHandling

variable (surroundings : OrderSurroundings)

variable (handling : OrderHandling) (command : GatewayCommand)

/-- The call and what is made of its result. -/
def callBroker (request : KiwoomOrderRequest) (started : List EmittedEvent) :
    OrderProgram (List EmittedEvent) := do
  let attempt ← Traced.attempt (do
    Traced.act (.calls request)
    let result ← Traced.lift surroundings.broker
    Traced.lift (surroundings.journals OrderJournal.brokerResult)
    return result)
  match attempt with
  | .error failure => do
      Traced.lift (surroundings.journals OrderJournal.unconfirmed)
      return started ++ [orderBrokerUnconfirmedEvent command failure.text]
  | .ok result =>
      if result.ok then do
        Traced.lift (handling.acknowledged surroundings)
        return started ++
          [commandAckEvent command handling.acceptedMessage (handling.details request result)]
      else return started ++
        [commandFailedEvent command (handling.rejectedMessage ++ result.message)]

/-- An order that has passed the checks: it is announced, put on record and sent. -/
def sendToBroker : OrderProgram (List EmittedEvent) := do
  let request ← Traced.lift (handling.request host command)
  let started ← surroundings.emitBeforeBlockingCall (commandStartedEvent command)
  match ← surroundings.recordDurablePreAck host command request with
  | some refusal => do
      Traced.lift (surroundings.journals OrderJournal.failed)
      return started ++ [commandFailedEvent command refusal]
  | none => callBroker surroundings handling command request started

def handleOrder : OrderProgram (List EmittedEvent) :=
  match validateCommandTypeAllowed host handling.commandType (some command) with
  | some refusal => return [commandFailedEvent command refusal]
  | none =>
      if surroundings.actualBrokerEnv host ≠ "SIMULATION" then
        return [commandFailedEvent command ("Kiwoom " ++ handling.commandType ++
          " requires simulation server, got " ++ surroundings.actualBrokerEnv host)]
      else if surroundings.rateLimit.allowed then
        sendToBroker host surroundings handling command
      else do
        let started ← surroundings.emitBeforeBlockingCall (commandStartedEvent command)
        return started ++ [rateLimitedEvent command surroundings.rateLimit]

/-- `handle` on the two commands that reach the broker -/
def handleOrderCommand (kind : OrderKind)
    (command : GatewayCommand) : OrderProgram (List EmittedEvent) :=
  if command.commandExpired surroundings.now then
    return [commandFailedEvent command "EXPIRED_BEFORE_EXECUTION"]
  else handleOrder host surroundings kind.handling command

end SuseokTrader
