import SuseokTrader.Gateway.KiwoomChejan
import SuseokTrader.LiveSim.Executions

/-!
# Orders that wait for the broker

The gateway keeps a record of every order it has sent, under its command, under
its account, code and side, and under the broker's number once that is known.
It looks a callback up by its number, or by its account, code and side where
one record stands for them, and puts the command of the record into the events.
-/

namespace SuseokTrader

/-! ## Records -/

structure PendingOrderRecord where
  commandId : String
  idempotencyKey : String
  accountId : String
  code : String
  side : String
  quantity : Int
  liveSimIntentId : String
  accountMode : String
  brokerEnv : String
  serverMode : String
  orderExchange : String
  commandId_stripped : Stripped commandId
  code_normal : normalizeCode code = .ok code

abbrev OrderSignature := String × String × String

def orderSignature (account code side : String) : Checked OrderSignature := do
  let code ← normalizeCode code
  return (account, code, Text.upper side)

def PendingOrderRecord.signature (record : PendingOrderRecord) : OrderSignature :=
  (record.accountId, record.code, Text.upper record.side)

/-- The three indexes of the records. -/
structure PendingOrderRegistry where
  byCommandId : String → Option PendingOrderRecord
  bySignature : OrderSignature → List PendingOrderRecord
  byBrokerOrderNo : String → Option PendingOrderRecord
  keyed : ∀ commandId record, byCommandId commandId = some record → record.commandId = commandId
  grouped : ∀ signature, ∀ record ∈ bySignature signature, record.signature = signature

namespace PendingOrderRegistry

def empty : PendingOrderRegistry where
  byCommandId _ := none
  bySignature _ := []
  byBrokerOrderNo _ := none
  keyed _ _ absent := nomatch absent
  grouped _ _ absent := nomatch absent

end PendingOrderRegistry

/-! ## Acknowledgements -/

structure KiwoomOrderRequest where
  account : String
  code : String
  quantity : Int
  price : Int
  side : String
  tag : String
  orderType : Int
  hoga : String
  originalOrderNo : String
  commandId : String
  idempotencyKey : String
  orderExchange : String
  metadata : Payload

variable (host : Host)

def modeOf (command : GatewayCommand) (field : String) : String :=
  Text.upper (((command.payload.get field).orElse (.str "SIMULATION")).text host)

def pendingOrderRecord (command : GatewayCommand) (request : KiwoomOrderRequest) :
    Checked PendingOrderRecord := do
  let code ← stockCode request.code
  return {
    commandId := command.commandId
    idempotencyKey := command.idempotencyKey.getD request.idempotencyKey
    accountId := request.account
    code := code.val
    side := Text.upper request.side
    quantity := request.quantity
    liveSimIntentId :=
      ((request.metadata.get "live_sim_intent_id").orElse
        (command.payload.get "live_sim_intent_id")).textOrEmpty host
    accountMode := modeOf host command "account_mode"
    brokerEnv := modeOf host command "broker_env"
    serverMode := modeOf host command "server_mode"
    orderExchange := request.orderExchange
    commandId_stripped := command.commandId_stripped
    code_normal := code.property }

namespace PendingOrderRegistry

/-- The registry with the record of an acknowledged order, whose number the broker may have
given. -/
def record (registry : PendingOrderRegistry) (record : PendingOrderRecord) (orderNo : String) :
    PendingOrderRegistry where
  byCommandId := Function.update registry.byCommandId record.commandId (some record)
  bySignature :=
    let records := registry.bySignature record.signature
    if records.any fun existing => existing.commandId = record.commandId then registry.bySignature
    else Function.update registry.bySignature record.signature (records ++ [record])
  byBrokerOrderNo :=
    if orderNo = "" then registry.byBrokerOrderNo
    else Function.update registry.byBrokerOrderNo orderNo (some record)
  keyed := by
    intro commandId other found
    by_cases same : commandId = record.commandId
    · subst same
      rw [Function.update_self] at found
      cases found
      rfl
    · rw [Function.update_of_ne same] at found
      exact registry.keyed commandId other found
  grouped := by
    intro signature other present
    dsimp only at present
    split at present
    · exact registry.grouped signature other present
    · by_cases same : signature = record.signature
      · subst same
        rw [Function.update_self] at present
        rcases List.mem_append.mp present with old | new
        · exact registry.grouped _ other old
        · rw [List.mem_singleton.mp new]
      · rw [Function.update_of_ne same] at present
        exact registry.grouped signature other present

def recordAck (registry : PendingOrderRegistry) (command : GatewayCommand)
    (request : KiwoomOrderRequest) (orderNo : String) : Checked PendingOrderRegistry := do
  let record ← pendingOrderRecord host command request
  return registry.record record orderNo

end PendingOrderRegistry

/-! ## Looking payloads up -/

def firstField (host : Host) (payload : Payload) : List String → String
  | [] => ""
  | key :: keys =>
      if (payload.get key).truthy then (payload.get key).text host
      else firstField host payload keys

def payloadCommandId (payload : Payload) : String :=
  match firstField host payload ["command_id", "gateway_command_id", "client_order_id"] with
  | "" => firstField host (payload.mapping "metadata")
      ["gateway_command_id", "command_id", "client_order_id"]
  | commandId => commandId

def payloadOrderNo (payload : Payload) : String :=
  firstField host payload ["broker_order_no", "broker_order_id"]

namespace PendingOrderRegistry

variable (registry : PendingOrderRegistry)

def onlyRecord (signature : OrderSignature) :
    Option PendingOrderRecord :=
  match registry.bySignature signature with
  | [record] => some record
  | _ => none

def matchSignature (account code side : String) :
    Checked (Option PendingOrderRecord) :=
  if account = "" ∨ code = "" ∨ side = "" then .ok none
  else do
    let code ← normalizeCode code
    let signature ← orderSignature account code side
    return registry.onlyRecord signature

def matchOrderNo (orderNo : String) :
    Option PendingOrderRecord :=
  if orderNo = "" then none else registry.byBrokerOrderNo orderNo

def matchCommandId (commandId : String) :
    Option PendingOrderRecord :=
  if commandId = "" then none else registry.byCommandId commandId

/-- The record of a payload: by its command, its number, or its account, code and side. -/
def matchPayload (payload : Payload) :
    Checked (Option PendingOrderRecord) :=
  match (registry.matchCommandId (payloadCommandId host payload)).or
      (registry.matchOrderNo (payloadOrderNo host payload)) with
  | some record => .ok (some record)
  | none =>
      registry.matchSignature (firstField host payload ["account_id", "account"])
        ((payload.get "code").textOrEmpty host)
        (Text.upper ((payload.get "side").textOrEmpty host))

/-! ## Callbacks -/

def bind (orderNo : String) (record : PendingOrderRecord) :
    PendingOrderRegistry :=
  if orderNo = "" then registry
  else { registry with
    byBrokerOrderNo := Function.update registry.byBrokerOrderNo orderNo (some record) }

def enrichChejanPayload (payload : Payload) :
    Checked (PendingOrderRegistry × Payload) := do
  match ← registry.matchPayload host payload with
  | none => return (registry, payload)
  | some record =>
      return (registry.bind (payloadOrderNo host payload) record, withFields payload
        [("command_id", .str record.commandId), ("idempotency_key", .str record.idempotencyKey),
          ("live_sim_intent_id", .str record.liveSimIntentId)])

/-- The registry without a number and, where it stood for a record, without what that record is
found by. -/
def finish (orderNo : String) : PendingOrderRegistry :=
  match registry.byBrokerOrderNo orderNo with
  | none => registry
  | some record =>
      { byBrokerOrderNo := Function.update registry.byBrokerOrderNo orderNo none
        byCommandId := Function.update registry.byCommandId record.commandId none
        bySignature := Function.update registry.bySignature record.signature []
        keyed := by
          intro commandId other found
          by_cases same : commandId = record.commandId
          · subst same
            rw [Function.update_self] at found
            cases found
          · rw [Function.update_of_ne same] at found
            exact registry.keyed commandId other found
        grouped := by
          intro signature other present
          by_cases same : signature = record.signature
          · subst same
            rw [Function.update_self] at present
            exact absurd present List.not_mem_nil
          · rw [Function.update_of_ne same] at present
            exact registry.grouped signature other present }

end PendingOrderRegistry

/-- The whole number that a value shows, if it shows one. -/
def shownInt (value : Json) : Checked (Option Int) :=
  if value.isNull ∨ Text.strip (value.text host) = "" then .ok none
  else match host.float (removeCommas (value.text host)) with
    | some (.finite value) => .ok (some (Json.truncate value))
    | some .posInf | some .negInf =>
        .error (.crash "cannot convert float infinity to integer")
    | some .nan | none => .ok none

def finishesOrder (payload : Payload) : Checked Bool := do
  let eventKind := Text.lower (Text.strip ((payload.get "event_kind").textOrEmpty host))
  let remaining ← shownInt host (payload.get "remaining_quantity")
  return eventKind = "order_cancelled" ∨ eventKind = "order_rejected" ∨
    (eventKind = "order_fill" ∧ remaining = some 0)

namespace PendingOrderRegistry

def applyChejanPayload (registry : PendingOrderRegistry) (payload : Payload) :
    Checked PendingOrderRegistry :=
  let orderNo := Text.strip (payloadOrderNo host payload)
  if orderNo = "" then .ok registry
  else do
    if ← finishesOrder host payload then return registry.finish orderNo
    else return registry

def enrichExecutionPayload (registry : PendingOrderRegistry) (payload : Payload) :
    Checked (Payload × String × String) := do
  match ← registry.matchPayload host payload with
  | none => return (payload, "", "")
  | some record =>
      let metadata := withFields (payload.mapping "metadata")
        [("gateway_command_id", .str record.commandId),
          ("live_sim_intent_id", .str record.liveSimIntentId),
          ("idempotency_key", .str record.idempotencyKey),
          ("account_mode", .str record.accountMode), ("broker_env", .str record.brokerEnv),
          ("server_mode", .str record.serverMode), ("live_sim_only", .bool true),
          ("live_real_allowed", .bool false)]
      return (Json.setField "metadata" (.obj metadata) payload, record.commandId,
        record.idempotencyKey)

end PendingOrderRegistry

structure EmittedEvent where
  eventType : String
  payload : Payload
  commandId : Option String
  idempotencyKey : Option String

/-- `text or None` -/
def textOrNone (text : String) : Option String :=
  if text = "" then none else some text

variable (registry : PendingOrderRegistry)

/-- The execution event of a fill, with what its notice was found to belong to. -/
def executionEvent (execution : Payload)
    (commandId idempotencyKey : Option String) : Checked EmittedEvent := do
  let (payload, executionCommandId, executionKey) ←
    registry.enrichExecutionPayload host execution
  return {
    eventType := "execution_event"
    payload := payload
    commandId := (textOrNone executionCommandId).or commandId
    idempotencyKey := (textOrNone executionKey).or idempotencyKey }

/-- The events of a notice that has been looked up and applied. -/
def chejanEvents (chejan : OrderChejan)
    (payload : Payload) : Checked (List EmittedEvent) := do
  let commandId := textOrNone ((payload.get "command_id").textOrEmpty host)
  let idempotencyKey := textOrNone ((payload.get "idempotency_key").textOrEmpty host)
  let notice : EmittedEvent := {
    eventType := "kiwoom_order_chejan"
    payload := payload
    commandId := commandId
    idempotencyKey := idempotencyKey }
  match chejan.executionPayload with
  | none => return [notice]
  | some execution =>
      let fill ← executionEvent host registry execution commandId idempotencyKey
      return [notice, fill]

/-- One callback: the registry after it, and the events unless one of the steps fails. -/
def onChejanResult (chejan : OrderChejan) :
    PendingOrderRegistry × Checked (List EmittedEvent) :=
  match registry.enrichChejanPayload host chejan.payload with
  | .error failure => (registry, .error failure)
  | .ok (enriched, payload) =>
      match enriched.applyChejanPayload host payload with
      | .error failure => (enriched, .error failure)
      | .ok applied => (applied, chejanEvents host applied chejan payload)

end SuseokTrader
