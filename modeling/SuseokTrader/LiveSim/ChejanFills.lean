import SuseokTrader.Gateway.OrderAttribution
import SuseokTrader.LiveSim.FillAccounting

/-!
# Fills through two events

A callback of an order becomes a notice event and, for a fill, an execution
event. Core records a row for each of them that states a quantity and a price
under a new key. The rows are the fills exactly while every fill writes one row
with its own quantity, and no other callback writes one.
-/

namespace SuseokTrader

/-! ## Keys -/

def executionKeyOf (orderId id : String) : String :=
  "broker-exec:" ++ orderId ++ ":" ++ id

variable (orderId : String)

theorem strip_executionKeyOf {id : String} (stripped : Stripped id) :
    Text.strip (executionKeyOf orderId id) = executionKeyOf orderId id := by
  have noSpace : Text.isSpace 'b' = false := by decide
  refine Text.strip_append ?_ noSpace stripped.strip_eq stripped.ne_empty
  rw [String.toList_append, String.toList_append]
  rfl

variable {host : Host} {chejan : OrderChejan}

theorem executionKey_of_id {order : LiveSimOrder} {payload : Payload} {ts : Instant} {id : String}
    (isId : explicitExecutionId payload = .str id) (nonempty : id ≠ "") :
    executionKey host order payload ts = executionKeyOf order.liveSimOrderId id := by
  rw [executionKey, isId, if_pos (by simpa using nonempty)]
  rfl

def recordsKey (tables : LiveSimTables) (key : String) : Bool :=
  tables.executions.rows.any fun execution => execution.executionKey = key

/-! ## One event -/

def LifecycleReply.Concerns : LifecycleReply → Prop
  | .observed _ => True
  | .duplicate id => id = orderId
  | .execution id _ _ => id = orderId
  | .ignored _ | .order _ | .cancel _ _ => False

def HandledFor (host : Host) (settings : LiveSimSettings) (tables : LiveSimTables)
    (event : GatewayEvent) (ids : FreshIds) (now : Instant) (orderId : String) : Prop :=
  ∃ handled reply, handleLiveSimGatewayEvent host settings tables event ids now =
    .ok (handled, reply) ∧ reply.Concerns orderId

structure RowOf (host : Host) (payload : Payload) (orderId key : String)
    (row : LiveSimExecution) : Prop where
  order : row.liveSimOrderId = orderId
  key : row.executionKey = key
  quantity : (payload.get "quantity").toInt host = .ok row.quantity
  price : (payload.get "price").toFloat host = .ok (.finite row.price)

section Events

variable {host : Host} {settings : LiveSimSettings} {tables : LiveSimTables}

theorem value_of_requirePositive {quantity : Int} {required : {quantity : Int // 1 ≤ quantity}}
    (accepted : requirePositive quantity = .ok required) : quantity = required.val := by
  rw [requirePositive] at accepted
  split at accepted
  · cases accepted
    rfl
  · cases accepted

theorem value_of_requirePrice {price : Float64} {required : {price : Rat // 0 ≤ price}}
    (accepted : requirePrice price = .ok required) : price = .finite required.val := by
  cases price with
  | nan => cases accepted
  | negInf => cases accepted
  | posInf => cases accepted
  | finite value =>
      rw [requirePrice] at accepted
      split at accepted
      · cases accepted
        rfl
      · cases accepted

theorem values_of_read {order : LiveSimOrder} {payload metadata : Payload} {brokerOrderNo : Json}
    {key : String} {report : ExecutionReport}
    (read : readExecution host order payload metadata brokerOrderNo key = .ok report) :
    (payload.get "quantity").toInt host = .ok report.quantity ∧
      (payload.get "price").toFloat host = .ok (.finite report.price) := by
  simp only [readExecution, Checked.bind_eq_ok, pure, Except.pure, Except.ok.injEq] at read
  rcases read with ⟨quantity, isQuantity, price, isPrice, _, _, _, _, _, _, _, _, _, _, required,
    isRequired, finite, isFinite, _, _, rfl⟩
  rw [isQuantity, isPrice, value_of_requirePositive isRequired, value_of_requirePrice isFinite]
  exact ⟨rfl, rfl⟩

theorem concerns_of_apply {order : LiveSimOrder} {report : ExecutionReport} {ids : FreshIds}
    {now orderId : String} {handled : LiveSimTables} {reply : LifecycleReply}
    (applies : applyExecution settings tables order report ids now = .ok (handled, reply))
    (concerns : reply.Concerns orderId) : order.liveSimOrderId = orderId := by
  rw [applyExecution] at applies
  split at applies
  · cases applies
  · rw [Checked.bind_eq_ok] at applies
    rcases applies with ⟨⟨after, result⟩, _, same⟩
    cases same
    exact concerns

/-- An event with the payload of an execution writes its row, unless the key is on record. -/
theorem handled_execution {event : GatewayEvent} {payload : Payload} {ids : FreshIds}
    {now : Instant} {orderId id : String}
    (isPayload : executionPayload host event = .ok (some payload))
    (isId : explicitExecutionId payload = .str id) (stripped : Stripped id)
    (handles : HandledFor host settings tables event ids now orderId) :
    (recordsKey tables (executionKeyOf orderId id) = true ∧
      tablesAfterEvent host settings tables event ids now = tables) ∨
    (recordsKey tables (executionKeyOf orderId id) = false ∧
      ∃ row, RowOf host payload orderId (executionKeyOf orderId id) row ∧
        (tablesAfterEvent host settings tables event ids now).executions.rows =
          tables.executions.rows ++ [row]) := by
  rcases handles with ⟨handled, reply, success, concerns⟩
  rw [tablesAfterEvent, success]
  dsimp only
  rw [(handle_of_payload isPayload).1, Checked.bind_eq_ok] at success
  rcases success with ⟨reading, reads, applies⟩
  rw [readExecutionEvent, Checked.bind_eq_ok] at reads
  rcases reads with ⟨name, names, reads⟩
  cases name with
  | error reason =>
      cases reads
      cases applies
      exact concerns.elim
  | ok named =>
      have isKey : named.key = executionKeyOf named.order.liveSimOrderId id := by
        rw [executionKey_of_named names, executionKey_of_id isId stripped.ne_empty]
      have applied : executionAlreadyApplied tables.executions named.key =
          .ok (recordsKey tables named.key) := by
        rw [executionAlreadyApplied, requireNonEmptyStr, isKey,
          strip_executionKeyOf _ stripped, if_neg]
        · rfl
        · rw [← strip_executionKeyOf _ stripped, ← executionKey_of_id isId stripped.ne_empty]
          exact strip_executionKey host named.order payload event.ts
      dsimp only at reads
      rw [applied] at reads
      have decided : (if recordsKey tables named.key = true
          then (pure (.duplicate named.order) : Checked ExecutionReading)
          else readExecution host named.order payload named.metadata named.brokerOrderNo
            named.key >>= fun report => pure (.fresh named.order report)) = .ok reading := reads
      cases known : recordsKey tables named.key with
      | true =>
          left
          rw [known] at decided
          cases decided
          cases applies
          have isOrder : named.order.liveSimOrderId = orderId := concerns
          rw [← isOrder, ← isKey]
          exact ⟨known, rfl⟩
      | false =>
          right
          rw [known, if_neg Bool.false_ne_true, Checked.bind_eq_ok] at decided
          rcases decided with ⟨report, read, decided⟩
          cases decided
          have fills := appliesFill (present_of_named names) applies
          have isOrder : named.order.liveSimOrderId = orderId := concerns_of_apply applies concerns
          rcases values_of_read read with ⟨quantity, price⟩
          rw [← isOrder, ← isKey]
          exact ⟨known, _, ⟨rfl, executionKey_of_read read, quantity, price⟩,
            rows_of_insertExecution fills.recorded⟩

end Events

/-! ## The events of a callback -/

structure GatewayEvent.Carries (event : GatewayEvent) (emitted : EmittedEvent) : Prop where
  eventType : event.eventType = emitted.eventType
  payload : event.payload = emitted.payload
  commandId : event.commandId = emitted.commandId
  idempotencyKey : event.idempotencyKey = emitted.idempotencyKey

/-- The execution event of a fill says what the fill says, up to its metadata. -/
structure IsExecutionOf (chejan : OrderChejan) (emitted : EmittedEvent) : Prop where
  eventType : emitted.eventType = "execution_event"
  executionId : explicitExecutionId emitted.payload = .str chejan.fillId
  quantity : emitted.payload.get "quantity" = .int chejan.executionQuantity
  price : emitted.payload.get "price" = .int chejan.executionPrice

theorem orElse_str {text : String} (nonempty : text ≠ "") (other : Json) :
    (Json.str text).orElse other = .str text := by
  rw [Json.orElse, if_pos (by simpa using nonempty)]

theorem stripped_text {callback : OrderCallback} {fid : Nat}
    (nonempty : callback.text fid ≠ "") : Stripped (callback.text fid) :=
  ⟨Text.strip_strip _, nonempty⟩

theorem stripped_dash_append (callback : OrderCallback) (fid : Nat) :
    Stripped ("-" ++ callback.text fid) := by
  by_cases blank : callback.text fid = ""
  · rw [blank]
    decide
  · have begins : "-".toList.head? = some '-' := rfl
    refine ⟨Text.strip_append begins (by decide) (Text.strip_strip _) blank, ?_⟩
    intro empty
    rw [String.append_eq_empty_iff] at empty
    exact blank empty.2

theorem stripped_fillId (chejan : OrderChejan) : Stripped chejan.fillId := by
  rw [OrderChejan.fillId]
  split
  · have begins : ("kiwoom-" ++ chejan.orderNo).toList.head? = some 'k' := by
      rw [String.toList_append]
      rfl
    have dashed : Stripped ("-" ++ chejan.eventTime) := stripped_dash_append chejan.callback 908
    rw [String.append_assoc]
    refine ⟨Text.strip_append begins (by decide) dashed.strip_eq dashed.ne_empty, ?_⟩
    intro empty
    rw [String.append_eq_empty_iff] at empty
    exact dashed.ne_empty empty.2
  · next given => exact stripped_text given

theorem isExecutionOf_executionEvent {registry : PendingOrderRegistry} {execution : Payload}
    {commandId idempotencyKey : Option String} {emitted : EmittedEvent}
    (fill : chejan.executionPayload = some execution)
    (emits : executionEvent host registry execution commandId idempotencyKey = .ok emitted) :
    IsExecutionOf chejan emitted := by
  rw [executionEvent, Checked.bind_eq_ok] at emits
  rcases emits with ⟨⟨payload, executionCommandId, executionKey⟩, enriches, made⟩
  cases made
  have sameFields : ∀ key, key ≠ "metadata" → payload.get key = execution.get key := by
    intro key other
    rw [PendingOrderRegistry.enrichExecutionPayload, Checked.bind_eq_ok] at enriches
    rcases enriches with ⟨found, _, enriches⟩
    cases found with
    | none =>
        cases enriches
        rfl
    | some record =>
        cases enriches
        rw [Payload.get, Json.get_setField, if_neg other, Payload.get]
  rw [OrderChejan.executionPayload] at fill
  split at fill
  · cases fill
    refine ⟨rfl, ?_, ?_, ?_⟩
    · rw [explicitExecutionId, sameFields _ (by decide), sameFields _ (by decide),
        sameFields _ (by decide)]
      have nonempty := (stripped_fillId chejan).ne_empty
      change ((Json.str chejan.fillId).orElse .null).orElse .null = _
      rw [orElse_str nonempty, orElse_str nonempty]
    · exact sameFields "quantity" (by decide)
    · exact sameFields "price" (by decide)
  · cases fill

theorem notFill_of_payload (none : chejan.executionPayload = none) : chejan.isFill = false := by
  rw [OrderChejan.executionPayload] at none
  split at none
  · cases none
  · next notFill => simpa using notFill

theorem events_of_payload {after : PendingOrderRegistry} {payload : Payload}
    {events : List EmittedEvent} (emits : chejanEvents host after chejan payload = .ok events) :
    ∃ notice, notice.eventType = "kiwoom_order_chejan" ∧ notice.payload = payload ∧
      ((chejan.isFill = false ∧ events = [notice]) ∨
        (chejan.isFill = true ∧ ∃ fill, IsExecutionOf chejan fill ∧ events = [notice, fill])) := by
  rw [chejanEvents] at emits
  cases fill : chejan.executionPayload with
  | none =>
      rw [fill] at emits
      cases emits
      exact ⟨_, rfl, rfl, Or.inl ⟨notFill_of_payload fill, rfl⟩⟩
  | some execution =>
      rw [fill, Checked.bind_eq_ok] at emits
      rcases emits with ⟨event, executes, emits⟩
      cases emits
      exact ⟨_, rfl, rfl, Or.inr ⟨OrderChejan.isFill_of_payload fill, event,
        isExecutionOf_executionEvent fill executes, rfl⟩⟩

theorem events_of_callback {registry : PendingOrderRegistry} {events : List EmittedEvent}
    (emits : (onChejanResult host registry chejan).2 = .ok events) :
    ∃ notice, notice.eventType = "kiwoom_order_chejan" ∧
      notice.payload = chejan.noticed registry ∧
      ((chejan.isFill = false ∧ events = [notice]) ∨
        (chejan.isFill = true ∧ ∃ fill, IsExecutionOf chejan fill ∧ events = [notice, fill])) := by
  rcases chejan.onChejanResult_cases host registry with
    ⟨_, failure, effect⟩ | ⟨_, effect⟩ | ⟨_, effect⟩
  · rw [effect] at emits
    cases emits
  · rw [effect] at emits
    exact events_of_payload emits
  · rw [effect] at emits
    exact events_of_payload emits

def OrderChejan.noticeQuantity (chejan : OrderChejan) : Nat :=
  natOr chejan.orderQuantity chejan.executionQuantity

def OrderChejan.noticePrice (chejan : OrderChejan) : Nat :=
  natOr chejan.executionPrice chejan.orderPrice

def OrderChejan.noticeFills (chejan : OrderChejan) : Bool :=
  0 < chejan.noticeQuantity && 0 < chejan.noticePrice

def OrderChejan.noticeId (chejan : OrderChejan) (eventId : String) : String :=
  if chejan.executionId = "" then eventId else chejan.executionId

theorem stripped_noticeId (chejan : OrderChejan) {eventId : String} (stripped : Stripped eventId) :
    Stripped (chejan.noticeId eventId) := by
  rw [OrderChejan.noticeId]
  split
  · exact stripped
  · next given => exact stripped_text given

theorem eq_zero_of_natOr {first second : Nat} (zero : natOr first second = 0) : second = 0 := by
  rw [natOr] at zero
  split at zero
  · exact zero
  · next nonzero => exact absurd zero nonzero

theorem orElse_int {first second : Nat} (zero : first = 0 → second = 0) :
    (Json.int first).orElse (.int second) = .int first := by
  rw [Json.orElse]
  split
  · rfl
  · next falsy =>
      have first_eq : first = 0 := by simpa [Json.truthy] using falsy
      rw [first_eq, zero first_eq]

section Notices

variable {host : Host} {registry : PendingOrderRegistry} {chejan : OrderChejan}
  {event : GatewayEvent}

theorem quantity_of_notice (isNotice : event.payload = chejan.noticed registry) :
    (event.payload.get "quantity").orElse (event.payload.get "execution_quantity") =
      .int chejan.noticeQuantity := by
  rw [isNotice, OrderChejan.get_noticed (by decide), OrderChejan.get_noticed (by decide)]
  exact orElse_int eq_zero_of_natOr

theorem price_of_notice (isNotice : event.payload = chejan.noticed registry) :
    (event.payload.get "price").orElse (event.payload.get "execution_price") =
      .int chejan.noticePrice := by
  rw [isNotice, OrderChejan.get_noticed (by decide), OrderChejan.get_noticed (by decide)]
  refine orElse_int ?_
  intro zero
  by_contra executed
  rw [natOr, if_neg executed] at zero
  exact executed zero

theorem id_of_notice (isNotice : event.payload = chejan.noticed registry) :
    (explicitExecutionId event.payload).orElse (.str event.eventId) =
      .str (chejan.noticeId event.eventId) := by
  rw [explicitExecutionId, isNotice, OrderChejan.get_noticed (by decide),
    OrderChejan.get_noticed (by decide), OrderChejan.get_noticed (by decide)]
  change ((((Json.str chejan.executionId).orElse .null).orElse .null).orElse _) = _
  rw [OrderChejan.noticeId]
  by_cases blank : chejan.executionId = ""
  · rw [blank]
    rfl
  · rw [if_neg blank]
    rw [orElse_str blank, orElse_str blank, orElse_str blank]

theorem reportsFill_notice (isNotice : event.payload = chejan.noticed registry) :
    reportsFill host event.payload = .ok chejan.noticeFills := by
  have quantity : (Json.int chejan.noticeQuantity).orElse (.int 0) =
      .int chejan.noticeQuantity := orElse_int fun _ => rfl
  rw [reportsFill, quantity_of_notice isNotice, price_of_notice isNotice, quantity]
  change (.ok (decide ((chejan.noticeQuantity : Int) > 0) &&
    (Json.int chejan.noticePrice).truthy) : Checked Bool) = _
  rw [Json.truthy]
  congr 2
  · simp
  · simp [Nat.pos_iff_ne_zero]

theorem translateChejan_observed (isNotice : event.payload = chejan.noticed registry)
    (observed : chejan.noticeFills = false) : translateChejan host event = .ok none := by
  rw [translateChejan, reportsFill_notice isNotice, observed]
  rfl

theorem translateChejan_fills (isNotice : event.payload = chejan.noticed registry)
    (fills : chejan.noticeFills = true) {translated : Option Payload}
    (translates : translateChejan host event = .ok translated) :
    ∃ payload, translated = some payload ∧
      explicitExecutionId payload = .str (chejan.noticeId event.eventId) ∧
      payload.get "quantity" = .int chejan.noticeQuantity ∧
      payload.get "price" = .int chejan.noticePrice := by
  rw [translateChejan, reportsFill_notice isNotice, fills, quantity_of_notice isNotice,
    price_of_notice isNotice, id_of_notice isNotice] at translates
  have read : ∃ executedAt, translated = some (withFields event.payload
      [("execution_id", .str (chejan.noticeId event.eventId)),
        ("quantity", .int chejan.noticeQuantity), ("price", .int chejan.noticePrice),
        ("executed_at", executedAt)]) := by
    rw [Checked.bind_eq_ok] at translates
    rcases translates with ⟨_, isTrue, translates⟩
    cases isTrue
    rw [if_pos rfl, Checked.bind_eq_ok] at translates
    rcases translates with ⟨quantity, isQuantity, translates⟩
    cases isQuantity
    rw [Checked.bind_eq_ok] at translates
    rcases translates with ⟨price, _, translates⟩
    cases translates
    exact ⟨_, rfl⟩
  rcases read with ⟨executedAt, rfl⟩
  refine ⟨_, rfl, ?_, ?_, ?_⟩
  · have id : Payload.get (withFields event.payload
        [("execution_id", .str (chejan.noticeId event.eventId)),
          ("quantity", .int chejan.noticeQuantity), ("price", .int chejan.noticePrice),
          ("executed_at", executedAt)]) "execution_id" =
        .str (chejan.noticeId event.eventId) := by
      simp [Payload.get, withFields, Json.get_setField]
    have nonempty := (stripped_noticeId chejan event.eventId_stripped).ne_empty
    rw [explicitExecutionId, id, orElse_str nonempty, orElse_str nonempty]
  · simp [Payload.get, withFields, Json.get_setField]
  · simp [Payload.get, withFields, Json.get_setField]

end Notices

/-! ## Callbacks of an order -/

/-- A callback with the events that the gateway made of it, in any state of its records, and what
Core draws when it handles them. -/
structure DeliveredCallback (host : Host) where
  registry : PendingOrderRegistry
  callback : OrderCallback
  chejan : OrderChejan
  notice : GatewayEvent
  fill : Option GatewayEvent
  noticeIds : FreshIds
  fillIds : FreshIds
  noticeNow : Instant
  fillNow : Instant
  parsed : parseOrderChejan host callback = .ok chejan
  emitted : ∃ events, (onChejanResult host registry chejan).2 = .ok events ∧
    List.Forall₂ GatewayEvent.Carries (notice :: fill.toList) events

def afterNotice (host : Host) (settings : LiveSimSettings) (tables : LiveSimTables)
    (delivered : DeliveredCallback host) : LiveSimTables :=
  tablesAfterEvent host settings tables delivered.notice delivered.noticeIds delivered.noticeNow

/-- Core handles the notice and then the execution. -/
def callbackSystem (host : Host) (settings : LiveSimSettings) :
    System LiveSimTables (DeliveredCallback host) Unit where
  step tables delivered :=
    (match delivered.fill with
      | none => afterNotice host settings tables delivered
      | some fill => tablesAfterEvent host settings (afterNotice host settings tables delivered)
          fill delivered.fillIds delivered.fillNow, ())

/-- Both events are handled for the order. -/
def HandlesCallback (host : Host) (settings : LiveSimSettings) (orderId : String)
    (tables : LiveSimTables) (delivered : DeliveredCallback host) : Prop :=
  HandledFor host settings tables delivered.notice delivered.noticeIds delivered.noticeNow
      orderId ∧
    ∀ fill ∈ delivered.fill, HandledFor host settings
      (afterNotice host settings tables delivered) fill delivered.fillIds delivered.fillNow orderId

def IsRowOf (host : Host) (row : LiveSimExecution) (chejan : OrderChejan) : Prop :=
  row.quantity = chejan.executionQuantity ∧
    host.floatOfInt chejan.executionPrice = some (.finite row.price)

def executionsOf (tables : LiveSimTables) : List LiveSimExecution :=
  tables.executions.rows.filter fun row => row.liveSimOrderId = orderId

def RowsAreFills (host : Host) (orderId : String) (tables : LiveSimTables)
    (callbacks : List OrderChejan) : Prop :=
  List.Forall₂ (IsRowOf host) (executionsOf orderId tables)
    (callbacks.filter OrderChejan.isFill)

/-- After every callback the rows of the order are the fills so far. -/
def CountsEveryFill (host : Host) (settings : LiveSimSettings) (orderId : String)
    (tables : LiveSimTables) (seen : List OrderChejan)
    (callbacks : List (DeliveredCallback host)) : Prop :=
  ∀ before after, callbacks = before ++ after →
    RowsAreFills host orderId ((callbackSystem host settings).run tables before)
      (seen ++ before.map DeliveredCallback.chejan)

/-- One of the two events of a fill writes its row, and no event of another callback writes one. -/
def WritesOwnRow (host : Host) (orderId : String) (tables : LiveSimTables)
    (delivered : DeliveredCallback host) : Prop :=
  let chejan := delivered.chejan
  let noticeId := chejan.noticeId delivered.notice.eventId
  let noticeKnown := recordsKey tables (executionKeyOf orderId noticeId) = true
  let fillKnown := recordsKey tables (executionKeyOf orderId chejan.fillId) = true
  if chejan.isFill then
    (noticeKnown ∧ ¬ fillKnown) ∨
      (¬ noticeKnown ∧ (noticeId = chejan.fillId ∨ fillKnown) ∧
        chejan.noticeQuantity = chejan.executionQuantity)
  else noticeKnown ∨ chejan.noticeFills = false

section Callbacks

variable {host : Host} {settings : LiveSimSettings} {tables : LiveSimTables} {orderId : String}

theorem events_of_delivered (delivered : DeliveredCallback host) :
    delivered.notice.eventType = "kiwoom_order_chejan" ∧
      delivered.notice.payload = delivered.chejan.noticed delivered.registry ∧
      ((delivered.chejan.isFill = false ∧ delivered.fill = none) ∨
        (delivered.chejan.isFill = true ∧ ∃ fill emitted, delivered.fill = some fill ∧
          IsExecutionOf delivered.chejan emitted ∧ fill.Carries emitted)) := by
  rcases delivered.emitted with ⟨events, emits, carries⟩
  rcases events_of_callback emits with ⟨notice, isType, isPayload, rest⟩
  rcases rest with ⟨isFill, rfl⟩ | ⟨isFill, emitted, executes, rfl⟩
  · rw [List.forall₂_cons] at carries
    rcases carries with ⟨carriesNotice, none⟩
    refine ⟨carriesNotice.eventType.trans isType, carriesNotice.payload.trans isPayload,
      Or.inl ⟨isFill, ?_⟩⟩
    rw [List.forall₂_nil_right_iff, Option.toList_eq_nil_iff] at none
    exact none
  · rw [List.forall₂_cons] at carries
    rcases carries with ⟨carriesNotice, carriesFill⟩
    refine ⟨carriesNotice.eventType.trans isType, carriesNotice.payload.trans isPayload,
      Or.inr ⟨isFill, ?_⟩⟩
    cases fill : delivered.fill with
    | none =>
        rw [fill] at carriesFill
        cases carriesFill
    | some event =>
        rw [fill, Option.toList_some, List.forall₂_cons] at carriesFill
        exact ⟨event, emitted, rfl, executes, carriesFill.1⟩

theorem executionKeyOf_inj {first second : String} :
    executionKeyOf orderId first = executionKeyOf orderId second ↔ first = second :=
  String.append_right_inj _

structure IsNewRow (host : Host) (orderId key : String) (quantity price : Nat)
    (row : LiveSimExecution) : Prop where
  order : row.liveSimOrderId = orderId
  key : row.executionKey = key
  quantity : row.quantity = (quantity : Int)
  price : host.floatOfInt price = some (.finite row.price)

theorem isNewRow_of_rowOf {payload : Payload} {key : String} {quantity price : Nat}
    {row : LiveSimExecution} (states : payload.get "quantity" = .int quantity)
    (costs : payload.get "price" = .int price) (rowOf : RowOf host payload orderId key row) :
    IsNewRow host orderId key quantity price row := by
  refine ⟨rowOf.order, rowOf.key, ?_, ?_⟩
  · have read := rowOf.quantity
    rw [states] at read
    exact (Except.ok.inj read).symm
  · have read := rowOf.price
    rw [costs, Json.toFloat] at read
    split at read
    · next parsed isParsed =>
        rw [isParsed, Except.ok.inj read]
    · cases read

/-- A notice writes a row with its own quantity where it states one under a new key. -/
theorem rows_after_notice (delivered : DeliveredCallback host)
    (handled : HandlesCallback host settings orderId tables delivered) {key : String}
    (isKey : key = executionKeyOf orderId
      (delivered.chejan.noticeId delivered.notice.eventId)) :
    ((recordsKey tables key = true ∨ delivered.chejan.noticeFills = false) ∧
      afterNotice host settings tables delivered = tables) ∨
    (recordsKey tables key = false ∧ delivered.chejan.noticeFills = true ∧ ∃ row,
      IsNewRow host orderId key delivered.chejan.noticeQuantity delivered.chejan.noticePrice row ∧
      (afterNotice host settings tables delivered).executions.rows =
        tables.executions.rows ++ [row]) := by
  rcases events_of_delivered delivered with ⟨isType, isNotice, _⟩
  rw [afterNotice]
  have isChejan : liveSimEventOf delivered.notice.eventType = .chejan := by
    rw [isType]
    decide
  cases fills : delivered.chejan.noticeFills with
  | false =>
      left
      refine ⟨Or.inr rfl, ?_⟩
      have observed : translateChejan host delivered.notice = .ok none :=
        translateChejan_observed isNotice fills
      rw [tablesAfterEvent, handleLiveSimGatewayEvent, isChejan]
      dsimp only
      rw [readChejanEvent, observed]
      rfl
  | true =>
      rcases handled.1 with ⟨after, reply, success, concerns⟩
      have translates : ∃ translated, translateChejan host delivered.notice = .ok translated := by
        rw [handleLiveSimGatewayEvent, isChejan] at success
        rw [readChejanEvent, Checked.bind_eq_ok] at success
        rcases success with ⟨reading, reads, _⟩
        rw [Checked.bind_eq_ok] at reads
        rcases reads with ⟨translated, translates, _⟩
        exact ⟨translated, translates⟩
      rcases translates with ⟨translated, translates⟩
      rcases translateChejan_fills isNotice fills translates with
        ⟨payload, rfl, isId, states, costs⟩
      have isPayload : executionPayload host delivered.notice = .ok (some payload) := by
        rw [executionPayload, isChejan]
        exact translates
      have stripped := stripped_noticeId delivered.chejan delivered.notice.eventId_stripped
      rcases handled_execution isPayload isId stripped handled.1 with
        ⟨known, same⟩ | ⟨unknown, row, rowOf, rows⟩
      · exact Or.inl ⟨Or.inl (isKey ▸ known), same⟩
      · right
        have isRow := isNewRow_of_rowOf states costs rowOf
        rw [← isKey] at isRow unknown
        exact ⟨unknown, rfl, row, isRow, rows⟩

end Callbacks

section Callbacks

variable {host : Host} {settings : LiveSimSettings} {tables : LiveSimTables} {orderId : String}

theorem next_of_notFill (delivered : DeliveredCallback host)
    (notFill : delivered.chejan.isFill = false) :
    (callbackSystem host settings).next tables delivered =
      afterNotice host settings tables delivered := by
  rcases events_of_delivered delivered with ⟨_, _, ⟨_, none⟩ | ⟨isFill, _⟩⟩
  · simp only [System.next, callbackSystem, none]
  · rw [notFill] at isFill
    cases isFill

theorem rows_after_fill (delivered : DeliveredCallback host)
    (handled : HandlesCallback host settings orderId tables delivered)
    (isFill : delivered.chejan.isFill = true) {key : String}
    (isKey : key = executionKeyOf orderId delivered.chejan.fillId) :
    (recordsKey (afterNotice host settings tables delivered) key = true ∧
      (callbackSystem host settings).next tables delivered =
        afterNotice host settings tables delivered) ∨
    (recordsKey (afterNotice host settings tables delivered) key = false ∧ ∃ row,
      IsNewRow host orderId key delivered.chejan.executionQuantity
        delivered.chejan.executionPrice row ∧
      ((callbackSystem host settings).next tables delivered).executions.rows =
        (afterNotice host settings tables delivered).executions.rows ++ [row]) := by
  rcases events_of_delivered delivered with ⟨_, _, ⟨notFill, _⟩ | ⟨_, fill, emitted, isEvent,
    executes, carries⟩⟩
  · rw [isFill] at notFill
    cases notFill
  · have handledFill := handled.2 fill isEvent
    have nextIs : (callbackSystem host settings).next tables delivered =
        tablesAfterEvent host settings (afterNotice host settings tables delivered) fill
          delivered.fillIds delivered.fillNow := by
      simp only [System.next, callbackSystem, isEvent]
    have isExecution : liveSimEventOf fill.eventType = .execution := by
      rw [carries.eventType, executes.eventType]
      decide
    have isPayload : executionPayload host fill = .ok (some emitted.payload) := by
      rw [executionPayload, isExecution, carries.payload]
    rw [nextIs]
    rcases handled_execution isPayload executes.executionId (stripped_fillId delivered.chejan)
      handledFill with ⟨known, same⟩ | ⟨unknown, row, rowOf, rows⟩
    · rw [← isKey] at known
      exact Or.inl ⟨known, same⟩
    · have isRow := isNewRow_of_rowOf executes.quantity executes.price rowOf
      rw [← isKey] at isRow unknown
      exact Or.inr ⟨unknown, row, isRow, rows⟩

/-! ## Counting -/

variable {before after : LiveSimTables} {row : LiveSimExecution}

theorem recordsKey_append (rows : after.executions.rows = before.executions.rows ++ [row])
    (key : String) :
    recordsKey after key = (recordsKey before key || decide (row.executionKey = key)) := by
  rw [recordsKey, recordsKey, rows, List.any_append, List.any_cons, List.any_nil, Bool.or_false]

theorem executionsOf_append (rows : after.executions.rows = before.executions.rows ++ [row])
    (isOrder : row.liveSimOrderId = orderId) :
    executionsOf orderId after = executionsOf orderId before ++ [row] := by
  rw [executionsOf, executionsOf, rows, List.filter_append, List.filter_cons_of_pos (by simpa),
    List.filter_nil]

theorem executionsOf_congr (same : after = before) :
    executionsOf orderId after = executionsOf orderId before ++ [] := by
  rw [same, List.append_nil]

theorem forall₂_append_iff {Left Right : Type} {relation : Left → Right → Prop}
    {left : List Left} {right : List Right} (related : List.Forall₂ relation left right)
    (leftMore : List Left) (rightMore : List Right) :
    List.Forall₂ relation (left ++ leftMore) (right ++ rightMore) ↔
      List.Forall₂ relation leftMore rightMore := by
  induction related with
  | nil => exact Iff.rfl
  | cons here _ ih => rw [List.cons_append, List.cons_append, List.forall₂_cons, ih,
      and_iff_right here]

theorem isRowOf_notice {chejan : OrderChejan} {key : String} (isFill : chejan.isFill = true)
    (isRow : IsNewRow host orderId key chejan.noticeQuantity chejan.noticePrice row) :
    IsRowOf host row chejan ↔ chejan.noticeQuantity = chejan.executionQuantity := by
  have price : chejan.noticePrice = chejan.executionPrice := by
    rw [OrderChejan.isFill, Bool.and_eq_true, decide_eq_true_eq] at isFill
    rw [OrderChejan.noticePrice, natOr, if_neg (by omega)]
  rw [IsRowOf, isRow.quantity, ← price, and_iff_left isRow.price, Int.natCast_inj]

theorem noticeFills_of_isFill (isFill : chejan.isFill = true) :
    chejan.noticeFills = true := by
  rw [OrderChejan.isFill, Bool.and_eq_true, Bool.and_eq_true, decide_eq_true_eq,
    decide_eq_true_eq] at isFill
  rw [OrderChejan.noticeFills, Bool.and_eq_true, decide_eq_true_eq, decide_eq_true_eq,
    OrderChejan.noticeQuantity, OrderChejan.noticePrice, natOr, natOr]
  constructor
  · split
    · omega
    · omega
  · split
    · omega
    · omega

/-- The rows stay the fills through a callback exactly if it writes its own row. -/
theorem rowsAreFills_next (delivered : DeliveredCallback host)
    (handled : HandlesCallback host settings orderId tables delivered)
    {seen : List OrderChejan} (rows : RowsAreFills host orderId tables seen) :
    RowsAreFills host orderId ((callbackSystem host settings).next tables delivered)
        (seen ++ [delivered.chejan]) ↔
      WritesOwnRow host orderId tables delivered := by
  have notice := rows_after_notice delivered handled rfl
  rw [RowsAreFills] at rows ⊢
  rw [List.filter_append, WritesOwnRow]
  cases isFill : delivered.chejan.isFill with
  | false =>
      rw [List.filter_cons_of_neg (by simp [isFill]), next_of_notFill delivered isFill]
      rcases notice with ⟨quiet, same⟩ | ⟨unknown, fills, row, isRow, appended⟩
      · rw [executionsOf_congr same, forall₂_append_iff rows]
        exact iff_of_true List.Forall₂.nil quiet
      · rw [executionsOf_append appended isRow.order, forall₂_append_iff rows, unknown, fills]
        simp
  | true =>
      have fills := noticeFills_of_isFill isFill
      have fill := rows_after_fill delivered handled isFill rfl
      rw [List.filter_cons_of_pos (by simp [isFill]), List.filter_nil]
      rcases notice with ⟨quiet, same⟩ | ⟨unknown, _, row, isRow, appended⟩
      · have known := quiet.resolve_right (by rw [fills]; exact Bool.noConfusion)
        rw [same] at fill
        rcases fill with ⟨fillKnown, stays⟩ | ⟨fillUnknown, row, isRow, appended⟩
        · rw [executionsOf_congr stays, forall₂_append_iff rows, known, fillKnown]
          simp
        · rw [executionsOf_append appended isRow.order, forall₂_append_iff rows, known,
            fillUnknown]
          refine iff_of_true (List.Forall₂.cons ⟨isRow.quantity, isRow.price⟩ .nil) ?_
          simp
      · rw [recordsKey_append appended, isRow.key] at fill
        rw [unknown]
        rcases fill with ⟨fillKnown, stays⟩ | ⟨fillUnknown, second, isSecond, appendedSecond⟩
        · rw [executionsOf_congr stays, executionsOf_append appended isRow.order, List.append_nil,
            forall₂_append_iff rows, List.forall₂_cons, and_iff_left List.Forall₂.nil,
            isRowOf_notice isFill isRow]
          rw [Bool.or_eq_true, decide_eq_true_eq, executionKeyOf_inj, or_comm] at fillKnown
          simp [fillKnown]
        · rw [executionsOf_append appendedSecond isSecond.order,
            executionsOf_append appended isRow.order, List.append_assoc, forall₂_append_iff rows]
          rw [Bool.or_eq_false_iff, decide_eq_false_iff_not, executionKeyOf_inj] at fillUnknown
          refine iff_of_false ?_ ?_
          · intro absent
            have lengths := absent.length_eq
            simp at lengths
          · simp [fillUnknown.1, fillUnknown.2]

theorem countsEveryFill_iff {callbacks : List (DeliveredCallback host)}
    (handled : (callbackSystem host settings).Along (HandlesCallback host settings orderId) tables
      callbacks)
    {seen : List OrderChejan} (rows : RowsAreFills host orderId tables seen) :
    CountsEveryFill host settings orderId tables seen callbacks ↔
      (callbackSystem host settings).Along (WritesOwnRow host orderId) tables callbacks := by
  induction callbacks generalizing tables seen with
  | nil =>
      constructor
      · intro _
        trivial
      · intro _ before after split
        rcases List.append_eq_nil_iff.mp split.symm with ⟨rfl, _⟩
        rw [List.map_nil, List.append_nil]
        exact rows
  | cons delivered callbacks ih =>
      rcases handled with ⟨here, later⟩
      have step := rowsAreFills_next delivered here rows
      constructor
      · intro counts
        have after : RowsAreFills host orderId
            ((callbackSystem host settings).next tables delivered) (seen ++ [delivered.chejan]) :=
          counts [delivered] callbacks rfl
        refine ⟨step.mp after, (ih later after).mp ?_⟩
        intro before rest split
        have counted := counts (delivered :: before) rest (by rw [split, List.cons_append])
        rwa [List.map_cons, List.append_cons] at counted
      · rintro ⟨writes, rest⟩ before after split
        have now := step.mpr writes
        cases before with
        | nil =>
            rw [List.map_nil, List.append_nil]
            exact rows
        | cons first before =>
            rw [List.cons_append, List.cons.injEq] at split
            rcases split with ⟨rfl, split⟩
            rw [List.map_cons, List.append_cons]
            exact (ih later now).mpr rest before after split

end Callbacks

/-! ## The acceptance of a purchase -/

instance (orderId : String) (reply : LifecycleReply) : Decidable (reply.Concerns orderId) :=
  match reply with
  | .observed _ => .isTrue trivial
  | .duplicate id => inferInstanceAs (Decidable (id = orderId))
  | .execution id _ _ => inferInstanceAs (Decidable (id = orderId))
  | .ignored _ => .isFalse id
  | .order _ => .isFalse id
  | .cancel _ _ => .isFalse id

def checksHandled (host : Host) (settings : LiveSimSettings) (tables : LiveSimTables)
    (event : GatewayEvent) (ids : FreshIds) (now : Instant) (orderId : String) : Bool :=
  match handleLiveSimGatewayEvent host settings tables event ids now with
  | .ok (_, reply) => reply.Concerns orderId
  | .error _ => false

theorem handledFor_of_checks {settings : LiveSimSettings} {tables : LiveSimTables}
    {event : GatewayEvent} {ids : FreshIds} {now : Instant} {orderId : String}
    (checks : checksHandled host settings tables event ids now orderId = true) :
    HandledFor host settings tables event ids now orderId := by
  rw [checksHandled] at checks
  split at checks
  · next handled reply success => exact ⟨handled, reply, success, of_decide_eq_true checks⟩
  · cases checks

theorem ok_of_isSome {α : Type} {checked : Checked α} (isOk : checked.toOption.isSome = true) :
    checked = .ok (checked.toOption.get isOk) := by
  cases checked with
  | ok value => rfl
  | error failure => cases isOk

def acceptance : OrderCallback :=
  buyCallback "1001" "접수" "" "" "10"

theorem acceptance_parsed : (parseOrderChejan digitHost acceptance).toOption.isSome = true := by
  decide +kernel

def acceptedChejan : OrderChejan :=
  (parseOrderChejan digitHost acceptance).toOption.get acceptance_parsed

def acceptanceNotice : GatewayEvent where
  eventId := "event-1"
  eventType := "kiwoom_order_chejan"
  source := "kiwoom"
  ts := 63900000001000000
  payload := acceptedChejan.noticed .empty
  commandId := none
  idempotencyKey := none
  eventId_stripped := stripped_firstEvent
  eventType_stripped := by decide
  source_stripped := stripped_kiwoom
  commandId_stripped := strippedOption_none
  idempotencyKey_stripped := strippedOption_none

theorem acceptance_emitted :
    ((onChejanResult digitHost .empty acceptedChejan).2.toOption.map fun events =>
      events.map fun emitted => (emitted.commandId, emitted.idempotencyKey)) =
        some [(none, none)] ∧ acceptedChejan.isFill = false := by
  decide +kernel

theorem acceptance_carried :
    ∃ events, (onChejanResult digitHost .empty acceptedChejan).2 = .ok events ∧
      List.Forall₂ GatewayEvent.Carries [acceptanceNotice] events := by
  rcases acceptance_emitted with ⟨keys, notFill⟩
  cases emits : (onChejanResult digitHost .empty acceptedChejan).2 with
  | error failure =>
      rw [emits] at keys
      cases keys
  | ok events =>
      rw [emits] at keys
      refine ⟨events, rfl, ?_⟩
      rcases events_of_callback emits with
        ⟨notice, isType, isPayload, ⟨_, rfl⟩ | ⟨isFill, _⟩⟩
      · have keys : [(notice.commandId, notice.idempotencyKey)] = [(none, none)] :=
          Option.some.inj keys
        rw [List.cons.injEq, Prod.mk.injEq] at keys
        rw [List.forall₂_cons, and_iff_left List.Forall₂.nil]
        exact ⟨isType.symm, isPayload.symm, keys.1.1.symm, keys.1.2.symm⟩
      · rw [notFill] at isFill
        cases isFill

def deliveredAcceptance : DeliveredCallback digitHost where
  registry := .empty
  callback := acceptance
  chejan := acceptedChejan
  notice := acceptanceNotice
  fill := none
  noticeIds := ⟨"execution-1", "position-1"⟩
  fillIds := ⟨"execution-2", "position-2"⟩
  noticeNow := 63900000002000000
  fillNow := 63900000002000000
  parsed := ok_of_isSome acceptance_parsed
  emitted := acceptance_carried

theorem acceptance_handled :
    (callbackSystem digitHost sampleLiveSimSettings).Along
      (HandlesCallback digitHost sampleLiveSimSettings "order-1") dispatchedTables
      [deliveredAcceptance] := by
  refine ⟨⟨handledFor_of_checks ?_, fun _ absent => nomatch absent⟩, trivial⟩
  decide +kernel

theorem acceptance_rows :
    (executionsOf "order-1" ((callbackSystem digitHost sampleLiveSimSettings).run
      dispatchedTables [deliveredAcceptance])).map (fun row => (row.quantity, row.price)) =
        [(10, 70000)] := by
  decide +kernel

end SuseokTrader
