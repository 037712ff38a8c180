import SuseokTrader.Gateway.OrderRuns
import SuseokTrader.Market.Ticks

/-!
# The event store

An event of the gateway is stored once, raw and normalized, under its event id.
Its type and payload decide between acceptance and rejection, and in the same
transaction the event of a command is recorded with the command.
-/

namespace SuseokTrader

/-! ## Validation -/

structure BrokerExecutionEvent where
  executionId : String
  brokerOrderId : String
  code : String
  side : LiveSimSide
  quantity : Int
  price : Int
  executedAt : Instant
  clientOrderId : Option String
  accountId : Option String
  remainingQuantity : Option Int
  commission : Option Rat
  tax : Option Rat

def unlessNull {Value : Type} (value : Json) (parse : Json → Checked Value) :
    Checked (Option Value) :=
  if value.isNull then .ok none else (parse value).map some

namespace BrokerExecutionEvent

def requiredFields : List String :=
  ["execution_id", "broker_order_id", "code", "side", "quantity", "price", "executed_at"]

def fromDict (host : Host) (payload : Payload) : Checked BrokerExecutionEvent := do
  requireFields payload requiredFields "BrokerExecutionEvent"
  let side ← parseStrEnum (payload.get "side") ["BUY", "SELL"] "side"
  let executedAt ← parseTimestamp (payload.get "executed_at") "executed_at"
  checkTs payload
  let executionId ← requireNonEmptyStr (payload.get "execution_id") "execution_id"
  let brokerOrderId ← requireNonEmptyStr (payload.get "broker_order_id") "broker_order_id"
  let code ← validateStockCode (payload.get "code")
  let quantity ← parseInt host (payload.get "quantity") "quantity" (some 1)
  let price ← parseInt host (payload.get "price") "price" (some 1)
  let clientOrderId ← optionalNonEmptyStr (payload.get "client_order_id") "client_order_id"
  let accountId ← optionalNonEmptyStr (payload.get "account_id") "account_id"
  let remainingQuantity ← unlessNull (payload.get "remaining_quantity") fun value =>
    parseInt host value "remaining_quantity" (some 0)
  let commission ← unlessNull (payload.get "commission") fun value =>
    parseFloat host value "commission" true
  let tax ← unlessNull (payload.get "tax") fun value => parseFloat host value "tax" true
  return {
    executionId := executionId
    brokerOrderId := brokerOrderId
    code := code
    side := if side = "BUY" then .buy else .sell
    quantity := quantity
    price := price
    executedAt := executedAt
    clientOrderId := clientOrderId
    accountId := accountId
    remainingQuantity := remainingQuantity
    commission := commission
    tax := tax }

end BrokerExecutionEvent

def supportedGatewayEventTypes : List String :=
  ["heartbeat", "login_status", "orderability", "price_tick", "quote_tick", "condition_event",
    "condition_load_result", "condition_loaded", "tr_response", "execution_event",
    "order_rejected", "cancel_ack", "cancel_rejected", "balance_snapshot", "account_snapshot",
    "order_pre_ack", "order_broker_unconfirmed", "command_started", "command_ack",
    "command_failed", "rate_limited", "gateway_error", "gateway_log", "market_symbols",
    "market_index_tick", "kiwoom_order_chejan", "kiwoom_balance_chejan",
    "kiwoom_special_chejan"]

variable (host : Host)

/-- The validator of a payload; most types have none. -/
def validatePayload (eventType : String) (payload : Payload) : Checked Unit :=
  if eventType = "price_tick" then (BrokerPriceTick.fromDict host payload).map fun _ => ()
  else if eventType = "condition_event" then
    (BrokerConditionEvent.fromDict host payload).map fun _ => ()
  else if eventType = "tr_response" then (BrokerTrResponse.fromDict payload).map fun _ => ()
  else if eventType = "execution_event" then
    (BrokerExecutionEvent.fromDict host payload).map fun _ => ()
  else .ok ()

/-- The status an event is stored with and the error message; only an error that is no
validation error escapes. -/
def classifyEvent (eventType : String) (payload : Payload) :
    Checked (String × Option String) :=
  if eventType ∈ supportedGatewayEventTypes then
    match validatePayload host eventType payload with
    | .ok () => .ok ("ACCEPTED", none)
    | .error (.invalid message) => .ok ("REJECTED", some message)
    | .error (.crash message) => .error (.crash message)
  else .ok ("UNKNOWN_EVENT_TYPE", some ("Unknown gateway event_type: " ++ eventType))

/-! ## Heartbeats -/

def statusValue : Json → String
  | .str value => value
  | value => Json.dumps value

/-- The status keys that a heartbeat may write, each with its field of the payload. -/
def heartbeatStatusKeys : List (String × String) :=
  [("kiwoom_logged_in", "kiwoom_logged_in"), ("gateway_logged_in", "kiwoom_logged_in"),
    ("gateway_orderable", "orderable")] ++
  (["orderable", "broker_name", "broker_env", "server_mode", "account_mode", "server_gubun",
    "account", "login_threaded", "comm_connect_state", "latest_comm_connect_call_at",
    "latest_comm_connect_result_at", "latest_comm_connect_result_code",
    "latest_on_event_connect_timeout_at", "login_block_reason_codes", "core_io_enabled",
    "command_polling_enabled", "event_posting_enabled", "core_io_worker_enabled",
    "core_io_worker_running", "core_io_worker_thread_id", "core_io_worker_event_queue_size",
    "core_io_worker_command_queue_size", "core_io_worker_last_error",
    "core_io_worker_coalesced_event_count", "core_io_worker_coalesce_after_size",
    "core_io_worker_dropped_event_count", "core_io_worker_max_buffer_size",
    "core_io_worker_batch_size", "core_io_worker_batch_post_count",
    "core_io_worker_latest_batch_size", "core_io_worker_rejected_event_count",
    "core_io_worker_consecutive_post_error_count", "core_io_worker_market_event_queue_size",
    "core_io_worker_durable_event_queue_size", "core_io_worker_oldest_event_age_sec",
    "core_io_worker_oldest_market_event_age_sec", "core_io_data_plane_health",
    "durable_pre_ack_posted_count", "last_durable_pre_ack_at", "last_durable_pre_ack_error",
    "local_event_count", "condition_load_state", "condition_load_requested_at",
    "condition_load_retry_count", "condition_load_timeout_count", "condition_callback_health",
    "latest_condition_ver_callback_at", "latest_condition_ver_result",
    "registered_realtime_code_count", "realtime_max_total", "realtime_registered_codes",
    "realtime_exchange", "realtime_registered_kiwoom_codes", "latest_price_tick_at",
    "latest_quote_at", "latest_realtime_callback_at", "raw_realtime_callback_count",
    "realtime_callback_count", "unregistered_realtime_callback_count",
    "latest_unregistered_realtime_callback", "parsed_price_tick_count",
    "realtime_parse_error_count", "latest_realtime_parse_error",
    "latest_realtime_registration_at", "latest_realtime_registration_result",
    "realtime_registration_requested_count", "realtime_registration_success_count",
    "realtime_registration_budget_skip_count", "market_index_enabled",
    "market_index_realtime_enabled", "market_index_tr_bootstrap_enabled", "market_index_codes",
    "market_index_screen_no", "market_index_poll_sec", "market_index_registered_codes",
    "market_index_callback_count", "parsed_market_index_tick_count",
    "market_index_parse_error_count", "latest_market_index_callback_at",
    "latest_market_index_tick_at", "latest_market_index_parse_error",
    "latest_market_index_registration_result", "latest_market_index_registration_at",
    "market_index_adapter_health", "market_index_recover_count",
    "latest_market_index_recover_at", "market_index_recover_error",
    "realtime_subscription_health", "realtime_recover_count", "realtime_recover_error",
    "raw_callback_counts", "latest_callback_at_by_method", "latest_active_x_thread_audit",
    "command_queue_healthy"]).map fun key => (key, key)

variable (db : Database)

def upsertHeartbeatStatus (payload : Payload) (now : Instant) : Database :=
  heartbeatStatusKeys.foldl
    (fun db (key, field) =>
      if payload.has field then upsertGatewayStatus db key (statusValue (payload.get field)) now
      else db)
    db

/-- A heartbeat that is older than the last one writes no status. -/
def heartbeatIsFresh (eventTs : String) : Bool :=
  match db.gatewayStatus.find? "last_heartbeat_at" with
  | none => true
  | some row =>
      if row.value = "" then true
      else
        match parseTimestamp (.str eventTs) "heartbeat_event_ts",
            parseTimestamp (.str row.value) "last_heartbeat_at" with
        | .ok incoming, .ok current => current ≤ incoming
        | _, _ => row.value ≤ eventTs

def upsertEventStatus (eventType eventTs receivedAt : String) (payload : Payload)
    (now : Instant) : Database :=
  let received := upsertGatewayStatus db "last_event_received_at" receivedAt now
  if eventType = "heartbeat" ∧ heartbeatIsFresh received eventTs then
    upsertHeartbeatStatus (upsertGatewayStatus received "last_heartbeat_at" eventTs now) payload
      now
  else received

/-! ## Appending -/

structure AppendGatewayEventResult where
  accepted : Bool
  eventId : String
  duplicate : Bool
  status : String
  payloadHash : String
  errorMessage : Option String

def commandTrackedEventTypes : List String :=
  ["command_started", "command_ack", "command_failed", "rate_limited", "execution_event",
    "order_pre_ack", "order_broker_unconfirmed", "kiwoom_order_chejan"]

def countDuplicate (row : RawEventRow) : RawEventRow :=
  { row with duplicateCount := row.duplicateCount + 1 }

theorem key_countDuplicate (row : RawEventRow) :
    Keyed.key (countDuplicate row) = Keyed.key row :=
  rfl

variable (event : GatewayEvent)

/-- An event whose id is taken: a duplicate of the stored one, or a conflict with it. -/
def appendAgain (existing : RawEventRow)
    (payloadHash : String) : AppendGatewayEventResult × Database :=
  if existing.payloadHash = payloadHash then
    let row := db.gatewayEvents.find? event.eventId
    ({ accepted := true
       eventId := event.eventId
       duplicate := true
       status := (row.map GatewayEventRow.status).getD "ACCEPTED"
       payloadHash := payloadHash
       errorMessage := row.bind GatewayEventRow.errorMessage },
      { db with
        rawEvents := db.rawEvents.update event.eventId countDuplicate key_countDuplicate })
  else
    ({ accepted := false
       eventId := event.eventId
       duplicate := false
       status := "CONFLICT"
       payloadHash := payloadHash
       errorMessage := some "event_id already exists with a different payload_hash" }, db)

/-- The clock readings of one append. -/
structure AppendReadings where
  received : Instant
  written : Instant

def rawEventRow (receivedAt : String) : RawEventRow where
  eventId := event.eventId
  eventType := normalizeEventType event.eventType
  source := event.source
  commandId := event.commandId
  idempotencyKey := event.idempotencyKey
  eventTs := datetimeToWire event.ts
  receivedAt := receivedAt
  payloadJson := canonicalJson event.payload
  payloadHash := hashPayloadJson (canonicalJson event.payload)
  duplicateCount := 0

def gatewayEventRow (receivedAt status : String)
    (errorMessage : Option String) : GatewayEventRow where
  eventId := event.eventId
  eventType := normalizeEventType event.eventType
  source := event.source
  commandId := event.commandId
  idempotencyKey := event.idempotencyKey
  eventTs := datetimeToWire event.ts
  receivedAt := receivedAt
  payloadJson := canonicalJson event.payload
  status := status
  errorMessage := errorMessage

/-- The two rows of an event that is new. -/
def insertEventRows (receivedAt status : String)
    (errorMessage : Option String) : Checked Database :=
  match db.rawEvents.insert? (rawEventRow event receivedAt),
      db.gatewayEvents.insert? (gatewayEventRow event receivedAt status errorMessage) with
  | some rawEvents, some gatewayEvents =>
      .ok { db with rawEvents := rawEvents, gatewayEvents := gatewayEvents }
  | none, _ => .error (.crash "UNIQUE constraint failed: raw_events.event_id")
  | _, none => .error (.crash "UNIQUE constraint failed: gateway_events.event_id")

/-- The event of a command is recorded with it, whatever the status the event was given. -/
def recordTrackedEvent (receivedAt : String)
    (now : Instant) : Checked Database :=
  let eventType := normalizeEventType event.eventType
  match event.commandId with
  | some commandId =>
      if eventType ∈ commandTrackedEventTypes then do
        let (_, recorded) ← recordCommandEvent host db commandId eventType event.payload
          (some event.eventId) (some receivedAt) now
        return recorded
      else .ok db
  | none => .ok db

def appendNew (readings : AppendReadings) :
    Checked (AppendGatewayEventResult × Database) := do
  let eventType := normalizeEventType event.eventType
  let receivedAt := datetimeToWire readings.received
  let (status, errorMessage) ← classifyEvent host eventType event.payload
  let inserted ← insertEventRows db event receivedAt status errorMessage
  let noted := upsertEventStatus inserted eventType (datetimeToWire event.ts) receivedAt
    event.payload readings.written
  let recorded ← recordTrackedEvent host noted event receivedAt readings.written
  return ({
    accepted := status ≠ "REJECTED"
    eventId := event.eventId
    duplicate := false
    status := status
    payloadHash := hashPayloadJson (canonicalJson event.payload)
    errorMessage := errorMessage }, recorded)

/-- One attempt; the transaction of an attempt that raises is rolled back. -/
def appendGatewayEvent
    (readings : AppendReadings) : Checked (AppendGatewayEventResult × Database) :=
  match db.rawEvents.find? event.eventId with
  | some existing =>
      .ok (appendAgain db event existing (hashPayloadJson (canonicalJson event.payload)))
  | none => appendNew host db event readings

/-! ## What an append does to the statuses -/

/-- Every command and every boundary row has the status it had. -/
structure StatusesKept (before after : Database) : Prop where
  commands : ∀ commandId, (after.commands.find? commandId).map CommandRow.status =
    (before.commands.find? commandId).map CommandRow.status
  boundaries : ∀ commandId, (after.boundaries.find? commandId).map BoundaryRow.state =
    (before.boundaries.find? commandId).map BoundaryRow.state

structure SameCommands (before after : Database) : Prop where
  commands : after.commands = before.commands
  boundaries : after.boundaries = before.boundaries

theorem SameCommands.refl : SameCommands db db :=
  ⟨rfl, rfl⟩

theorem SameCommands.trans {first second third : Database} (here : SameCommands first second)
    (later : SameCommands second third) : SameCommands first third :=
  ⟨later.commands.trans here.commands, later.boundaries.trans here.boundaries⟩

variable {before after db written : Database} {event : GatewayEvent} {host : Host} {now : Instant}
  {payload : Payload}

theorem SameCommands.statusesKept (same : SameCommands before after) :
    StatusesKept before after := by
  refine ⟨?_, ?_⟩
  · intro commandId
    simp only [same.commands]
  · intro commandId
    simp only [same.boundaries]

theorem SameCommands.statusesKept_iff {between : Database} (same : SameCommands before between) :
    StatusesKept before after ↔ StatusesKept between after := by
  constructor
  · intro kept
    refine ⟨?_, ?_⟩
    · intro commandId
      simpa only [same.commands] using kept.commands commandId
    · intro commandId
      simpa only [same.boundaries] using kept.boundaries commandId
  · intro kept
    refine ⟨?_, ?_⟩
    · intro commandId
      simpa only [same.commands] using kept.commands commandId
    · intro commandId
      simpa only [same.boundaries] using kept.boundaries commandId

theorem upsertGatewayStatus_eq (db : Database) (key value : String) (now : Instant) :
    ∃ gatewayStatus,
      upsertGatewayStatus db key value now = { db with gatewayStatus := gatewayStatus } := by
  simp only [upsertGatewayStatus]
  split
  · exact ⟨_, rfl⟩
  · exact ⟨_, rfl⟩

theorem upsertHeartbeatStatus_eq (db : Database) (payload : Payload) (now : Instant) :
    ∃ gatewayStatus,
      upsertHeartbeatStatus db payload now = { db with gatewayStatus := gatewayStatus } := by
  rw [upsertHeartbeatStatus]
  generalize heartbeatStatusKeys = keys
  induction keys generalizing db with
  | nil => exact ⟨db.gatewayStatus, rfl⟩
  | cons pair keys ih =>
      rcases pair with ⟨key, field⟩
      rw [List.foldl_cons]
      dsimp only
      split
      · rcases upsertGatewayStatus_eq db key (statusValue (payload.get field)) now with
          ⟨here, same⟩
        rw [same]
        exact ih _
      · exact ih db

theorem upsertEventStatus_eq (db : Database) (eventType eventTs receivedAt : String)
    (payload : Payload) (now : Instant) :
    ∃ gatewayStatus, upsertEventStatus db eventType eventTs receivedAt payload now =
      { db with gatewayStatus := gatewayStatus } := by
  rcases upsertGatewayStatus_eq db "last_event_received_at" receivedAt now with ⟨received, same⟩
  simp only [upsertEventStatus, same]
  split
  · rcases upsertGatewayStatus_eq { db with gatewayStatus := received } "last_heartbeat_at" eventTs
      now with ⟨beaten, same⟩
    rw [same]
    exact upsertHeartbeatStatus_eq _ _ _
  · exact ⟨received, rfl⟩

theorem sameCommands_insertEventRows {inserted : Database} {receivedAt status : String}
    {errorMessage : Option String}
    (success : insertEventRows db event receivedAt status errorMessage = .ok inserted) :
    SameCommands db inserted := by
  rw [insertEventRows] at success
  split at success
  · cases success
    exact ⟨rfl, rfl⟩
  · cases success
  · cases success

theorem sameCommands_appendAgain (db : Database) (event : GatewayEvent) (existing : RawEventRow)
    (payloadHash : String) : SameCommands db (appendAgain db event existing payloadHash).2 := by
  rw [appendAgain]
  split
  · exact ⟨rfl, rfl⟩
  · exact ⟨rfl, rfl⟩

theorem appendNew_cases {readings : AppendReadings} {result : AppendGatewayEventResult}
    (success : appendNew host db event readings = .ok (result, written)) :
    ∃ inserted gatewayStatus,
      insertEventRows db event (datetimeToWire readings.received) result.status
        result.errorMessage = .ok inserted ∧
      classifyEvent host (normalizeEventType event.eventType) event.payload =
        .ok (result.status, result.errorMessage) ∧
      result.duplicate = false ∧
      recordTrackedEvent host { inserted with gatewayStatus := gatewayStatus } event
        (datetimeToWire readings.received) readings.written = .ok written := by
  rcases Checked.bind_eq_ok.mp success with ⟨⟨status, message⟩, classified, success⟩
  rcases Checked.bind_eq_ok.mp success with ⟨inserted, inserts, success⟩
  rcases Checked.bind_eq_ok.mp success with ⟨recorded, records, success⟩
  rcases upsertEventStatus_eq inserted (normalizeEventType event.eventType)
    (datetimeToWire event.ts) (datetimeToWire readings.received) event.payload readings.written with
    ⟨gatewayStatus, same⟩
  rw [same] at records
  cases success
  exact ⟨inserted, gatewayStatus, inserts, classified, rfl, records⟩

theorem recordTrackedEvent_events {receivedAt : String}
    (success : recordTrackedEvent host db event receivedAt now = .ok written) :
    written.rawEvents = db.rawEvents ∧ written.gatewayEvents = db.gatewayEvents := by
  rw [recordTrackedEvent] at success
  split at success
  · split at success
    · rcases Checked.bind_eq_ok.mp success with ⟨⟨status, recorded⟩, records, success⟩
      cases success
      rcases recordCommandEvent_database records with ⟨row, _, _, same⟩
      rw [same]
      exact ⟨rfl, rfl⟩
    · cases success
      exact ⟨rfl, rfl⟩
  · cases success
    exact ⟨rfl, rfl⟩

theorem validated_of_rejected {eventType : String} {message : Option String}
    (rejected : classifyEvent host eventType payload = .ok ("REJECTED", message)) :
    eventType = "price_tick" ∨ eventType = "condition_event" ∨ eventType = "tr_response" ∨
      eventType = "execution_event" := by
  by_contra other
  simp only [not_or] at other
  rcases other with ⟨price, condition, response, execution⟩
  simp only [classifyEvent, validatePayload] at rejected
  split at rejected
  · simp at rejected
  · simp at rejected

/-! ## Rejected executions -/

/-- The command is none that an execution would take to another status. -/
def executionSettled (db : Database) (commandId : String) : Bool :=
  match db.commands.find? commandId with
  | none => true
  | some row =>
      if isOrderCommandType row.commandType then
        row.status = GatewayCommandStatus.chejanConfirmed.value &&
          (db.boundaries.find? commandId).any fun boundary =>
            boundary.state = OrderBrokerBoundaryState.chejanConfirmed.value
      else row.status = GatewayCommandStatus.acked.value

theorem executionSettled_of_sameCommands (same : SameCommands before after) (commandId : String) :
    executionSettled after commandId = executionSettled before commandId := by
  simp only [executionSettled, same.commands, same.boundaries]

theorem resolveState_chejanConfirmed (current : Option String) :
    resolveState current .chejanConfirmed = OrderBrokerBoundaryState.chejanConfirmed.value := by
  rcases le_resolveState current .chejanConfirmed with ⟨state, same, above⟩
  rw [same]
  cases state with
  | chejanConfirmed => rfl
  | claimed | gatewayStarted | preAckRecorded | unconfirmed | brokerAccepted =>
      exact absurd above (by decide)

theorem eventBoundary_execution {bounded : Database} {row : CommandRow}
    {eventId occurredAt : Option String} {nextStatus : Option GatewayCommandStatus}
    (order : isOrderCommandType row.commandType = true)
    (success : eventBoundary host db (some row) "execution_event" payload eventId occurredAt now =
      .ok (nextStatus, bounded)) :
    nextStatus = some .chejanConfirmed ∧
      (bounded.boundaries.find? row.commandId).map BoundaryRow.state =
        some OrderBrokerBoundaryState.chejanConfirmed.value := by
  have proposes : stateForEvent host "execution_event" payload = some .chejanConfirmed := by
    simp [stateForEvent, show Text.lower (Text.strip "execution_event") = "execution_event" by
      decide]
  have status : statusForCommandEvent "execution_event" true = some .chejanConfirmed := by decide
  rcases eventBoundary_order order success with ⟨state, recorded, decided⟩
  simp only [recordOrderBrokerEvent, order, if_true, proposes, Option.bind_eq_bind,
    Option.bind_eq_some_iff] at recorded
  rcases recorded with ⟨⟨effective, written⟩, wrote, rfl, rfl⟩
  rcases upsertBoundary_cases wrote with ⟨reported, _, found, _⟩
  rw [resolveState_chejanConfirmed] at reported
  subst reported
  refine ⟨?_, ?_⟩
  · rw [status] at decided
    cases decided
    rfl
  · rw [found, Option.map_some, state_proposedBoundary, resolveState_chejanConfirmed]

/-- An execution leaves the statuses as they are only where its command has nothing to learn. -/
theorem recordCommandEvent_execution {commandId : String} {eventId occurredAt : Option String}
    {status : Option GatewayCommandStatus}
    (success : recordCommandEvent host db commandId "execution_event" payload eventId occurredAt
      now = .ok (status, written)) :
    StatusesKept db written ↔ executionSettled db commandId = true := by
  have unlimited : isRateLimited "execution_event" = false := by decide
  have others : ∀ other, other ≠ commandId → SameSlot other db written :=
    fun other different => recordCommandEvent_frame success different
  have keptIff : StatusesKept db written ↔
      (written.commands.find? commandId).map CommandRow.status =
          (db.commands.find? commandId).map CommandRow.status ∧
        (written.boundaries.find? commandId).map BoundaryRow.state =
          (db.boundaries.find? commandId).map BoundaryRow.state := by
    constructor
    · intro kept
      exact ⟨kept.commands commandId, kept.boundaries commandId⟩
    · rintro ⟨command, boundary⟩
      refine ⟨?_, ?_⟩
      · intro other
        by_cases same : other = commandId
        · rw [same]
          exact command
        · rw [(others other same).command]
      · intro other
        by_cases same : other = commandId
        · rw [same]
          exact boundary
        · rw [(others other same).boundary]
  rw [keptIff, executionSettled]
  cases found : db.commands.find? commandId with
  | none =>
      rcases recordCommandEvent_cases success with
        ⟨nextStatus, bounded, logged, bounds, rfl, effect⟩
      rw [found, eventBoundary_none, Except.ok.injEq, Prod.mk.injEq] at bounds
      rcases bounds with ⟨rfl, rfl⟩
      refine iff_of_true ⟨?_, ?_⟩ rfl
      · rcases effect with ⟨limited, _⟩ | ⟨limited, _⟩ | ⟨_, _, rfl⟩ | ⟨_, next, _, _, _, rfl⟩
        · simp [unlimited] at limited
        · simp [unlimited] at limited
        · simp [appendCommandEvent, found]
        · simp [setCommandStatus, updateCommand, appendCommandEvent,
            Table.find?_update_of_none found, found]
      · rcases effect with ⟨limited, _⟩ | ⟨limited, _⟩ | ⟨_, _, rfl⟩ | ⟨_, next, _, _, _, rfl⟩
        · simp [unlimited] at limited
        · simp [unlimited] at limited
        · rfl
        · rfl
  | some row =>
      have sameId : row.commandId = commandId := Table.key_of_find? found
      rcases recordCommandEvent_row found success with
        ⟨after, nextStatus, bounded, afterFound, _, bounds, boundaries, afterStatus⟩
      rw [afterFound, boundaries, Option.map_some, Option.map_some, Option.some.injEq,
        afterStatus, unlimited]
      simp only
      by_cases order : isOrderCommandType row.commandType = true
      · rcases eventBoundary_execution order bounds with ⟨rfl, state⟩
        rw [sameId] at state
        rw [state, if_pos order]
        simp only [Bool.and_eq_true, decide_eq_true_eq]
        apply and_congr
        · exact eq_comm
        · cases boundary : db.boundaries.find? commandId with
          | none => simp
          | some stored => simp [eq_comm]
      · rw [eventBoundary_other (Bool.not_eq_true _ ▸ order)]
          at bounds
        rcases bounds with ⟨rfl, rfl⟩
        have status : statusForCommandEvent "execution_event" false = some .acked := by decide
        simp [order, status, eq_comm]

/-- A rejected event leaves every status as it was, if and only if it was stored before, or is no
execution, or names no command that an execution would take to another status. -/
theorem rejected_keeps_statuses_iff {host : Host} {db written : Database} {event : GatewayEvent}
    {readings : AppendReadings} {result : AppendGatewayEventResult}
    (appended : appendGatewayEvent host db event readings = .ok (result, written))
    (rejected : result.status = "REJECTED") :
    StatusesKept db written ↔
      (db.rawEvents.find? event.eventId).isSome = true ∨
        normalizeEventType event.eventType ≠ "execution_event" ∨
        ∀ commandId, event.commandId = some commandId → executionSettled db commandId = true := by
  rw [appendGatewayEvent] at appended
  cases stored : db.rawEvents.find? event.eventId with
  | some existing =>
      rw [stored, Except.ok.injEq] at appended
      have same := sameCommands_appendAgain db event existing
        (hashPayloadJson (canonicalJson event.payload))
      rw [appended] at same
      exact iff_of_true same.statusesKept (Or.inl rfl)
  | none =>
      rw [stored] at appended
      rcases appendNew_cases appended with
        ⟨inserted, gatewayStatus, inserts, classified, _, records⟩
      have same : SameCommands db { inserted with gatewayStatus := gatewayStatus } :=
        (sameCommands_insertEventRows inserts).trans ⟨rfl, rfl⟩
      rw [rejected] at classified
      rw [same.statusesKept_iff]
      simp only [Option.isSome_none, Bool.false_eq_true, false_or]
      rw [recordTrackedEvent] at records
      cases named : event.commandId with
      | none =>
          rw [named, Except.ok.injEq] at records
          subst records
          exact iff_of_true (SameCommands.refl _).statusesKept (Or.inr nofun)
      | some commandId =>
          rw [named] at records
          dsimp only at records
          by_cases execution : normalizeEventType event.eventType = "execution_event"
          · rw [execution] at records
            rcases Checked.bind_eq_ok.mp records with ⟨⟨status, recorded⟩, success, records⟩
            cases records
            rw [recordCommandEvent_execution success, executionSettled_of_sameCommands same]
            simp [execution]
          · have untracked : normalizeEventType event.eventType ∉ commandTrackedEventTypes := by
              rcases validated_of_rejected classified with type | type | type | type
              · rw [type]
                decide
              · rw [type]
                decide
              · rw [type]
                decide
              · exact absurd type execution
            rw [if_neg untracked, Except.ok.injEq] at records
            subst records
            exact iff_of_true (SameCommands.refl _).statusesKept (Or.inl execution)

/-! ### A rejected execution that confirms an order -/

/-- A cancel order that the gateway is about to send. -/
def aboutToSend : Database :=
  (store sampleHost).run freshStore
    [.enqueue sampleCancel none 63900000000000000,
      dispatchAt 63900000000000000,
      eventAt "cancel-1" "command_started" 63900000001000000]

/-- An execution of that order that says nothing. -/
def emptyExecution : GatewayEvent where
  eventId := "event-1"
  eventType := "execution_event"
  source := "kiwoom_gateway"
  ts := 63900000002000000
  payload := []
  commandId := some "cancel-1"
  idempotencyKey := none
  eventId_stripped := stripped_firstEvent
  eventType_stripped := by decide +kernel
  source_stripped := stripped_kiwoomGateway
  commandId_stripped := by decide +kernel
  idempotencyKey_stripped := strippedOption_none

def emptyExecutionReadings : AppendReadings where
  received := 63900000002000000
  written := 63900000002000000

theorem appended_emptyExecution :
    ∃ result written,
      appendGatewayEvent sampleHost aboutToSend emptyExecution emptyExecutionReadings =
        .ok (result, written) ∧ result.status = "REJECTED" ∧
      (aboutToSend.commands.find? "cancel-1").map CommandRow.status = some "GATEWAY_STARTED" ∧
      (written.commands.find? "cancel-1").map CommandRow.status = some "CHEJAN_CONFIRMED" := by
  have confirms : (appendGatewayEvent sampleHost aboutToSend emptyExecution
      emptyExecutionReadings).toOption.any (fun outcome =>
        outcome.1.status = "REJECTED" &&
          ((aboutToSend.commands.find? "cancel-1").map CommandRow.status = some "GATEWAY_STARTED" &&
          (outcome.2.commands.find? "cancel-1").map CommandRow.status =
            some "CHEJAN_CONFIRMED")) = true := by decide +kernel
  cases appended : appendGatewayEvent sampleHost aboutToSend emptyExecution
      emptyExecutionReadings with
  | error failure => simp [appended, Except.toOption] at confirms
  | ok outcome =>
      simp only [appended, Except.toOption, Option.any_some, Bool.and_eq_true, decide_eq_true_eq]
        at confirms
      exact ⟨outcome.1, outcome.2, rfl, confirms⟩

theorem rejected_keeps_statuses_of_cancel :
    ∃ result written,
      appendGatewayEvent sampleHost aboutToSend emptyExecution emptyExecutionReadings =
        .ok (result, written) ∧ result.status = "REJECTED" ∧
      (StatusesKept aboutToSend written ↔
        (aboutToSend.rawEvents.find? emptyExecution.eventId).isSome = true ∨
          normalizeEventType emptyExecution.eventType ≠ "execution_event" ∨
          ∀ commandId, emptyExecution.commandId = some commandId →
            executionSettled aboutToSend commandId = true) := by
  rcases appended_emptyExecution with ⟨result, written, appended, rejected, _, _⟩
  exact ⟨result, written, appended, rejected, rejected_keeps_statuses_iff appended rejected⟩

theorem rejected_execution_confirms :
    ¬ ∀ (host : Host) (db written : Database) (event : GatewayEvent) (readings : AppendReadings)
      (result : AppendGatewayEventResult),
      appendGatewayEvent host db event readings = .ok (result, written) →
      result.status = "REJECTED" → StatusesKept db written := by
  intro always
  rcases appended_emptyExecution with ⟨result, written, appended, rejected, before, after⟩
  have kept := (always _ _ _ _ _ _ appended rejected).commands "cancel-1"
  rw [before, after] at kept
  simp at kept

end SuseokTrader
