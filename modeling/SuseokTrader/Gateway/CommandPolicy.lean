import SuseokTrader.Broker.Envelopes
import SuseokTrader.Gateway.Tables

/-!
# Which commands may be enqueued

The checks `enqueue_command` makes on the type of a command and, for the three
types that can reach an order, on its envelope. Each check has its own refusal
text; the first that fails is the answer.
-/

namespace SuseokTrader

def allowedCommandTypes : List String :=
  ["heartbeat_request", "broker_snapshot_request", "request_tr", "register_realtime",
    "remove_realtime", "load_conditions", "send_condition", "stop_condition"]

def forbiddenOrderCommandTypes : List String :=
  ["send_order", "submit_order", "cancel_order", "modify_order", "enqueue_order",
    "order_intent", "gateway_order", "live_order"]

def normalizeCommandType (commandType : String) : String :=
  Text.lower (Text.strip commandType)

def firstRefusal : List (Bool × String) → Option String
  | [] => none
  | (passed, refusal) :: checks => if passed then firstRefusal checks else some refusal

variable (host : Host)

def isSimulationLike (value : Json) : Bool :=
  Text.upper (Text.strip (Json.textOrEmpty host value)) ∈
    ["SIMULATION", "MOCK", "PAPER", "MOCK_TRADING", "LIVE_SIM"]

def sameText (value : Json) (text : Option String) : Bool :=
  match value, text with
  | .str value, some text => value = text
  | .null, none => true
  | _, _ => false

variable (command : GatewayCommand)

def hasIdempotencyKey : Bool :=
  command.idempotencyKey.isSome && command.idempotencyKey ≠ some ""

def fromLiveSim : Bool :=
  Text.lower (Text.strip command.source) = "live_sim"

def upperText (value : Json) : String :=
  Text.upper (Json.text host value)

def validateLiveSimBrokerSnapshotAllowed :
    Option String :=
  let payload := command.payload
  firstRefusal [
    (fromLiveSim command, "broker_snapshot_request disabled except live_sim source"),
    (hasIdempotencyKey command, "broker_snapshot_request requires idempotency_key"),
    (Text.strip (Json.textOrEmpty host (payload.get "account_id")) ≠ "",
      "broker_snapshot_request requires account_id"),
    (sameText (payload.get "idempotency_key") command.idempotencyKey,
      "broker_snapshot_request payload idempotency_key mismatch"),
    ((payload.get "live_sim_only").isTrue,
      "broker_snapshot_request requires live_sim_only=true"),
    ((payload.get "live_real_allowed").isFalse,
      "broker_snapshot_request requires live_real_allowed=false"),
    ((payload.get "read_only").isTrue, "broker_snapshot_request requires read_only=true"),
    ((payload.get "automatic_local_repair").isFalse,
      "broker_snapshot_request requires automatic_local_repair=false"),
    (Text.upper (Json.textOrEmpty host (payload.get "broker_order_path")) = "LIVE_SIM_ONLY",
      "broker_snapshot_request requires broker_order_path=LIVE_SIM_ONLY"),
    (isSimulationLike host (payload.get "account_mode"),
      "broker_snapshot_request account_mode must be simulation-like"),
    (isSimulationLike host (payload.get "broker_env"),
      "broker_snapshot_request broker_env must be simulation-like"),
    (isSimulationLike host (payload.get "server_mode"),
      "broker_snapshot_request server_mode must be simulation-like")]

/-- The checks both order types begin with. -/
def liveSimEnvelopeChecks (commandType : String) (command : GatewayCommand) :
    List (Bool × String) :=
  let payload := command.payload
  [(fromLiveSim command, commandType ++ " disabled except live_sim source"),
    (hasIdempotencyKey command, commandType ++ " LIVE_SIM requires idempotency_key"),
    (upperText host (payload.getOr "mode" (payload.getOr "live_mode" (.str ""))) = "LIVE_SIM",
      commandType ++ " payload mode must be LIVE_SIM"),
    (upperText host (payload.getOr "live_mode" (payload.getOr "mode" (.str ""))) = "LIVE_SIM",
      commandType ++ " payload live_mode must be LIVE_SIM"),
    (sameText (payload.get "idempotency_key") command.idempotencyKey,
      commandType ++ " payload idempotency_key must match command idempotency_key")]

def closeOnlySellChecks : List (Bool × String) :=
  let payload := command.payload
  let metadata := payload.mapping "metadata"
  [((payload.get "close_only").isTrue || (metadata.get "close_only").isTrue,
      "send_order LIVE_SIM SELL requires close_only=true"),
    ((payload.get "live_real_allowed").isFalse,
      "send_order SELL requires live_real_allowed=false"),
    ((payload.get "live_sim_only").isTrue, "send_order SELL requires live_sim_only=true"),
    (upperText host (payload.getOr "broker_order_path" (.str "")) = "LIVE_SIM_ONLY",
      "send_order SELL requires broker_order_path=LIVE_SIM_ONLY"),
    ((metadata.get "position_id").truthy,
      "send_order SELL close-only requires metadata.position_id"),
    ((metadata.get "exit_intent_id").truthy || (payload.get "exit_intent_id").truthy,
      "send_order SELL close-only requires exit_intent_id"),
    (upperText host (payload.getOr "order_type" (.str "")) ≠ "MARKET",
      "send_order SELL market order disabled by default"),
    (Text.lower (Json.text host (payload.getOr "allow_short" (.str "false"))) ∉
        ["1", "true", "yes", "y"],
      "send_order SELL allow_short must be false")]

def sendOrderChecks : List (Bool × String) :=
  let payload := command.payload
  let metadata := payload.mapping "metadata"
  [(Text.lower (Json.text host (metadata.getOr "source" (.str "live_sim"))) = "live_sim",
      "send_order metadata source must be live_sim"),
    ((metadata.get "live_sim_only").isTrue, "send_order metadata.live_sim_only must be true"),
    ((metadata.get "live_real_allowed").isFalse,
      "send_order metadata.live_real_allowed must be false"),
    ((metadata.get "live_sim_intent_id").truthy || (payload.get "live_sim_intent_id").truthy,
      "send_order requires live_sim_intent_id"),
    (sameText (metadata.get "idempotency_key") command.idempotencyKey,
      "send_order metadata idempotency_key must match command idempotency_key"),
    (isSimulationLike host (payload.get "account_mode"),
      "send_order account_mode must be simulation-like"),
    (isSimulationLike host (payload.get "broker_env"),
      "send_order broker_env must be simulation-like"),
    (isSimulationLike host (payload.get "server_mode"),
      "send_order server_mode must be simulation-like")]

def cancelOrderChecks : List (Bool × String) :=
  let payload := command.payload
  let metadata := payload.mapping "metadata"
  [(sameText (metadata.get "idempotency_key") command.idempotencyKey,
      "cancel_order metadata idempotency_key must match command idempotency_key"),
    ((payload.get "live_sim_only").isTrue && (metadata.get "live_sim_only").isTrue,
      "cancel_order requires live_sim_only=true"),
    ((payload.get "live_real_allowed").isFalse,
      "cancel_order requires live_real_allowed=false"),
    ((metadata.get "live_real_allowed").isFalse,
      "cancel_order metadata.live_real_allowed must be false"),
    (upperText host (payload.getOr "broker_order_path" (.str "")) = "LIVE_SIM_ONLY",
      "cancel_order requires broker_order_path=LIVE_SIM_ONLY"),
    (isSimulationLike host (payload.get "account_mode"),
      "cancel_order account_mode must be simulation-like"),
    (isSimulationLike host (payload.get "broker_env"),
      "cancel_order broker_env must be simulation-like"),
    (isSimulationLike host (payload.get "server_mode"),
      "cancel_order server_mode must be simulation-like"),
    (upperText host (payload.getOr "side" (.str "")) ∈ ["BUY_CANCEL", "CANCEL_BUY"],
      "cancel_order requires side=BUY_CANCEL"),
    ((payload.get "original_order_no").truthy, "cancel_order requires original_order_no"),
    ((metadata.get "cancel_intent_id").truthy,
      "cancel_order requires metadata.cancel_intent_id"),
    ((metadata.get "original_live_sim_order_id").truthy,
      "cancel_order requires metadata.original_live_sim_order_id")]

def validateLiveSimSendOrderAllowed : Option String :=
  let side := upperText host (command.payload.getOr "side" (.str ""))
  (firstRefusal
    (liveSimEnvelopeChecks host "send_order" command ++ sendOrderChecks host command)).or
  (if side = "BUY" then none
  else if side = "SELL" then firstRefusal (closeOnlySellChecks host command)
  else some "send_order LIVE_SIM allows BUY or close-only SELL only")

def validateLiveSimCancelOrderAllowed :
    Option String :=
  firstRefusal
    (liveSimEnvelopeChecks host "cancel_order" command ++ cancelOrderChecks host command)

/-- The refusal of a command's type or envelope, if there is one. -/
def validateCommandTypeAllowed (commandType : String)
    (command : Option GatewayCommand) : Option String :=
  let normalized := normalizeCommandType commandType
  if normalized = "send_order" then
    match command with
    | none => some "send_order requires LIVE_SIM command envelope validation"
    | some command => validateLiveSimSendOrderAllowed host command
  else if normalized = "cancel_order" then
    match command with
    | none => some "cancel_order requires LIVE_SIM command envelope validation"
    | some command => validateLiveSimCancelOrderAllowed host command
  else if normalized = "broker_snapshot_request" then
    match command with
    | none => some "broker_snapshot_request requires LIVE_SIM command envelope validation"
    | some command => validateLiveSimBrokerSnapshotAllowed host command
  else if normalized = "modify_order" then some "modify_order is disabled for LIVE_SIM"
  else if normalized ∈ forbiddenOrderCommandTypes ∨ Text.contains normalized "order" then
    some ("Order command_type is disabled for PR 2B: " ++ commandType)
  else if normalized ∉ allowedCommandTypes then
    some ("Unsupported gateway command_type for PR 2B: " ++ commandType)
  else none

-- The policy compares long texts: it is unfolded by name, never to match a goal.
attribute [irreducible] validateCommandTypeAllowed

end SuseokTrader
