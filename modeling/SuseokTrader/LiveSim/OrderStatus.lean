import SuseokTrader.Gateway.OrderRuns
import SuseokTrader.LiveSim.EventEffects

/-!
# The status of an order over its events

Notices write their status whatever the order has. A run in which no notice
meets an order with a fill or with an end behind it keeps the order of
statuses: fills stay, ends stay, and only a fill moves a cancelled order.
-/

namespace SuseokTrader

/-- An event as the handler gets it, with the identifiers it draws and the time. -/
structure Delivery where
  event : GatewayEvent
  ids : FreshIds
  now : Instant

variable (host : Host) (settings : LiveSimSettings)

/-- The tables under the events delivered to the handler. -/
def eventSystem :
    System LiveSimTables Delivery Unit where
  step tables delivery :=
    (tablesAfterEvent host settings tables delivery.event delivery.ids delivery.now, ())

variable (tables : LiveSimTables) (delivery : Delivery)

theorem next_eventSystem :
    (eventSystem host settings).next tables delivery =
      tablesAfterEvent host settings tables delivery.event delivery.ids delivery.now := by
  rw [System.next, eventSystem]

theorem delivery_effect :
    EventEffect host settings tables delivery.event delivery.ids (datetimeToWire delivery.now)
      ((eventSystem host settings).next tables delivery) := by
  rw [next_eventSystem]
  exact effect_of_event host settings tables delivery.event delivery.ids delivery.now

/-! ## The law -/

def LiveSimOrderStatus.precedesFill : LiveSimOrderStatus → Bool
  | commandDispatched | exitCommandQueued | brokerAcked | brokerRejected | failed => true
  | _ => false

def LiveSimOrderStatus.isFilled : LiveSimOrderStatus → Bool
  | filled | exitFilled => true
  | _ => false

def OrderHas (id : String) (property : LiveSimOrder → Prop) (tables : LiveSimTables) : Prop :=
  ∃ order, tables.orders.find? id = some order ∧ property order

/-- The status of one order along a run. -/
structure NeverRegresses (host : Host) (settings : LiveSimSettings) (id : String)
    (tables : LiveSimTables) (deliveries : List Delivery) : Prop where
  filled : (eventSystem host settings).Once (OrderHas id fun order => 0 < order.filledQuantity)
    (fun tables delivery =>
      OrderHas id (fun after => after.status.precedesFill → tables.orders.find? id = some after)
        ((eventSystem host settings).next tables delivery)) tables deliveries
  complete : ∀ status, status.isFilled →
    (eventSystem host settings).Once (OrderHas id fun order => order.status = status)
      (fun tables delivery => OrderHas id (fun after => after.status = status)
        ((eventSystem host settings).next tables delivery)) tables deliveries
  cancelled : (eventSystem host settings).Along
    (fun tables delivery => ∀ order, tables.orders.find? id = some order →
      order.status = .cancelled →
      OrderHas id (fun after => after.status = .cancelled ∨
          order.filledQuantity < after.filledQuantity)
        ((eventSystem host settings).next tables delivery)) tables deliveries

/-! ## The events that keep it -/

variable (order : LiveSimOrder)

def AdmitsNotice (status : LiveSimOrderStatus) : Prop :=
  (0 < order.filledQuantity → status.precedesFill = false) ∧ order.status.isFilled = false ∧
    (order.status = .cancelled → status = .cancelled)

def AdmitsFill (report : ExecutionReport) : Prop :=
  (order.status = .filled → report.remaining order = 0 ∧ endsExit tables order report = false) ∧
    (order.status = .exitFilled → endsExit tables order report = true)

instance (order : LiveSimOrder) (status : LiveSimOrderStatus) :
    Decidable (AdmitsNotice order status) :=
  inferInstanceAs (Decidable (_ ∧ _ ∧ _))

instance (tables : LiveSimTables) (order : LiveSimOrder) (report : ExecutionReport) :
    Decidable (AdmitsFill tables order report) :=
  inferInstanceAs (Decidable (_ ∧ _))

/-- The event comes in time for the order it names. -/
def ComesInTime : Prop :=
  (∀ notice ∈ noticeOf host tables delivery.event, AdmitsNotice notice.1 notice.2) ∧
    ∀ fill ∈ fillOf host settings tables delivery.event, AdmitsFill tables fill.1 fill.2

instance (host : Host) (settings : LiveSimSettings) (tables : LiveSimTables)
    (delivery : Delivery) : Decidable (ComesInTime host settings tables delivery) :=
  inferInstanceAs (Decidable (_ ∧ _))

/-- What one event does to the status of an order it meets. -/
structure KeepsStatus (before after : LiveSimOrder) : Prop where
  filled : 0 < before.filledQuantity → after.status.precedesFill → after = before
  complete : before.status.isFilled → after.status = before.status
  cancelled : before.status = .cancelled →
    after.status = .cancelled ∨ before.filledQuantity < after.filledQuantity
  grows : before.filledQuantity ≤ after.filledQuantity

theorem keepsStatus_self : KeepsStatus order order :=
  ⟨fun _ _ => rfl, fun _ => rfl, fun cancelled => Or.inl cancelled, le_refl _⟩

theorem keepsStatus_of_notice {before after : LiveSimOrder} {status : LiveSimOrderStatus}
    (admits : AdmitsNotice before status) (written : after.status = status)
    (quantity : after.filledQuantity = before.filledQuantity) : KeepsStatus before after := by
  rcases admits with ⟨unfilled, incomplete, notCancelled⟩
  refine ⟨?_, ?_, ?_, by omega⟩
  · intro hasFill precedes
    rw [written, unfilled hasFill] at precedes
    cases precedes
  · intro complete
    rw [incomplete] at complete
    cases complete
  · intro cancelled
    exact Or.inl (written.trans (notCancelled cancelled))

theorem statusAfterFill_ne (report : ExecutionReport) :
    (statusAfterFill tables order report).precedesFill = false := by
  rw [statusAfterFill, statusOfRemaining]
  split
  · rfl
  · split <;> rfl

theorem keepsStatus_of_fill {tables : LiveSimTables} {order : LiveSimOrder}
    {report : ExecutionReport} {executions : Table LiveSimExecution} {now : String}
    (admits : AdmitsFill tables order report) :
    KeepsStatus order (orderAfterFill tables order report executions now) := by
  have written : (orderAfterFill tables order report executions now).status =
      statusAfterFill tables order report := rfl
  have more : (orderAfterFill tables order report executions now).filledQuantity =
      order.filledQuantity + report.quantity := rfl
  have positive := report.positive
  refine ⟨?_, ?_, fun _ => Or.inr (by omega), by omega⟩
  · intro _ precedes
    rw [written, statusAfterFill_ne] at precedes
    cases precedes
  · intro complete
    rw [written, statusAfterFill]
    cases status : order.status with
    | filled =>
        rcases admits.1 status with ⟨nothingLeft, notEnd⟩
        simp [notEnd, statusOfRemaining, nothingLeft]
    | exitFilled => simp [admits.2 status]
    | _ => simp [status, LiveSimOrderStatus.isFilled] at complete

theorem keepsStatus_of_event {host : Host} {settings : LiveSimSettings} {tables : LiveSimTables}
    {delivery : Delivery} {id : String} {before : LiveSimOrder}
    (inTime : ComesInTime host settings tables delivery)
    (found : tables.orders.find? id = some before) :
    OrderHas id (KeepsStatus before) ((eventSystem host settings).next tables delivery) := by
  have effect := delivery_effect host settings tables delivery
  generalize (eventSystem host settings).next tables delivery = handled at effect ⊢
  cases effect with
  | nothing => exact ⟨before, found, keepsStatus_self before⟩
  | notice order status noticed writes =>
      by_cases isOrder : id = order.liveSimOrderId
      · subst isOrder
        obtain rfl : before = order := Option.some.inj (found.symm.trans writes.present)
        rcases writes.written with ⟨after, here, written, quantity, _⟩
        exact ⟨after, here,
          keepsStatus_of_notice (inTime.1 (before, status) noticed) written quantity⟩
      · exact ⟨before, (writes.others id isOrder).trans found, keepsStatus_self before⟩
  | fill order report reported applies =>
      by_cases isOrder : id = order.liveSimOrderId
      · subst isOrder
        obtain rfl : before = order := Option.some.inj (found.symm.trans applies.present)
        exact ⟨_, applies.written, keepsStatus_of_fill (inTime.2 (before, report) reported)⟩
      · exact ⟨before, (applies.others id isOrder).trans found, keepsStatus_self before⟩

/-! ## Whole runs -/

/-- In a run whose events all come in time no order status regresses. -/
theorem order_status_never_regresses (host : Host) (settings : LiveSimSettings) (id : String)
    (tables : LiveSimTables) (deliveries : List Delivery)
    (inTime : (eventSystem host settings).Along (ComesInTime host settings) tables deliveries) :
    NeverRegresses host settings id tables deliveries where
  filled := by
    apply System.Once.of_along (fun _ => True)
      (OrderHas id fun order => 0 < order.filledQuantity) (fun _ _ _ _ => trivial)
      (fun _ _ hasFill => hasFill) ?_ ?_ trivial inTime
    · rintro state delivery _ comes ⟨order, found, hasFill⟩
      rcases keepsStatus_of_event comes found with ⟨after, here, keeps⟩
      have grows := keeps.grows
      exact ⟨after, here, by omega⟩
    · rintro state delivery _ comes ⟨order, found, hasFill⟩
      rcases keepsStatus_of_event comes found with ⟨after, here, keeps⟩
      refine ⟨after, here, ?_⟩
      intro precedes
      rw [found, keeps.filled hasFill precedes]
  complete := by
    intro status isFilled
    have keeps : ∀ state delivery, True → ComesInTime host settings state delivery →
        OrderHas id (fun order => order.status = status) state →
        OrderHas id (fun order => order.status = status)
          ((eventSystem host settings).next state delivery) := by
      rintro state delivery _ comes ⟨order, found, rfl⟩
      rcases keepsStatus_of_event comes found with ⟨after, here, keeps⟩
      exact ⟨after, here, keeps.complete isFilled⟩
    exact System.Once.of_along (fun _ => True) (OrderHas id fun order => order.status = status)
      (fun _ _ _ _ => trivial) (fun _ _ has => has) keeps keeps trivial inTime
  cancelled := by
    refine System.Along.mono ?_ inTime
    intro state delivery comes order found cancelled
    rcases keepsStatus_of_event comes found with ⟨after, here, keeps⟩
    exact ⟨after, here, keeps.cancelled cancelled⟩

/-! ## An acknowledgement after the fill -/

def sampleLiveSimSettings : LiveSimSettings where
  accountId := "SIM-1"
  accountMode := "SIMULATION"
  brokerEnv := "SIMULATION"
  serverMode := "SIMULATION"
  orderExchange := "KRX"
  defaultHoga := "LIMIT"
  feeRate := 0
  taxRate := 0
  maxDailyOrderCount := 5
  maxDailyNotional := 1000000
  maxActiveOrders := 2
  orderTtlSec := 60
  killSwitch := false
  exitEngineEnabled := true
  exitOrderCreationEnabled := true
  exitGatewayCommandEnabled := true
  exitAllowSellCloseOnly := true
  exitAllowShort := false
  exitDefaultOrderType := .limit
  exitMaxCommandsPerRun := 1
  exitPriceOffsetTicks := 0
  cancelEnabled := true
  cancelUnfilledEnabled := true
  cancelKillSwitch := false
  cancelOrderTtlSec := 60
  cancelRequireBrokerOrderNo := true
  cancelAllowWithoutBrokerOrderNo := false

/-- A BUY order of ten shares whose command was dispatched. -/
def dispatchedBuy : LiveSimOrder where
  liveSimOrderId := "order-1"
  liveSimIntentId := "intent-1"
  gatewayCommandId := some "command-1"
  tradeDate := "2026-07-17"
  accountId := "SIM-1"
  code := "005930"
  name := "sample"
  side := .buy
  orderType := .limit
  quantity := 10
  limitPrice := some 100
  notional := 1000
  status := .commandDispatched
  brokerOrderNo := some "1001"
  brokerResultCode := none
  brokerMessage := none
  filledQuantity := 0
  remainingQuantity := 10
  avgFillPrice := none
  idempotencyKey := "buy-1"
  createdAt := "2026-07-17T00:00:00Z"
  commandQueuedAt := some "2026-07-17T00:00:00Z"
  commandDispatchedAt := some "2026-07-17T00:00:01Z"
  brokerAckedAt := none
  lastEventAt := some "2026-07-17T00:00:01Z"

/-- The tables with the orders only. -/
def tablesOfOrders (orders : List LiveSimOrder) (nodup : (orders.map Keyed.key).Nodup) :
    LiveSimTables :=
  { LiveSimTables.empty with orders := ⟨orders, nodup⟩ }

/-- An event of the first command. -/
def commandEventOf (eventId eventType : String) (payload : Payload)
    (stripped : Stripped eventId ∧ Stripped eventType) : GatewayEvent where
  eventId := eventId
  eventType := eventType
  source := "kiwoom"
  ts := 63900000000000000
  payload := payload
  commandId := some "command-1"
  idempotencyKey := none
  eventId_stripped := stripped.1
  eventType_stripped := stripped.2
  source_stripped := stripped_kiwoom
  commandId_stripped := by decide +kernel
  idempotencyKey_stripped := strippedOption_none

/-- The payload of a fill of the order with the number. -/
def fillPayload (brokerOrderNo executionId side : String) (quantity : Int) (remaining : Json) :
    Payload :=
  [("execution_id", .str executionId), ("broker_order_no", .str brokerOrderNo),
    ("account_id", .str "SIM-1"), ("code", .str "005930"), ("side", .str side),
    ("quantity", .int quantity), ("price", .int 100), ("remaining_quantity", remaining),
    ("executed_at", .str "2026-07-17T00:00:02+00:00")]

def deliveredAt (event : GatewayEvent) (fresh : String) : Delivery where
  event := event
  ids := ⟨"execution-" ++ fresh, "position-" ++ fresh⟩
  now := 63900000002000000

/-- The order fills, and then the acknowledgement of its command arrives. -/
def overtakenAck : List Delivery :=
  [deliveredAt (commandEventOf "event-1" "execution_event"
      (fillPayload "1001" "e1" "BUY" 10 (.int 0)) stripped_firstExecution) "1",
    deliveredAt (commandEventOf "event-2" "command_ack" [] (by decide +kernel)) "2"]

theorem overtakenAck_acked :
    (((eventSystem sampleHost sampleLiveSimSettings).run
        (tablesOfOrders [dispatchedBuy] (by decide)) (overtakenAck.take 1)).orders.find?
      "order-1").map LiveSimOrder.status = some .filled ∧
    (((eventSystem sampleHost sampleLiveSimSettings).run
        (tablesOfOrders [dispatchedBuy] (by decide)) overtakenAck).orders.find?
      "order-1").map LiveSimOrder.status = some .brokerAcked := by
  decide +kernel

theorem acknowledgement_regresses :
    ¬ NeverRegresses sampleHost sampleLiveSimSettings "order-1"
      (tablesOfOrders [dispatchedBuy] (by decide)) overtakenAck := by
  intro holds
  rcases overtakenAck_acked with ⟨isFilled, isAcked⟩
  have split : overtakenAck = overtakenAck.take 1 ++ overtakenAck.drop 1 := rfl
  have once := holds.complete .filled rfl (overtakenAck.take 1) (overtakenAck.drop 1) split
  rw [Option.map_eq_some_iff] at isFilled isAcked
  rcases once isFilled with ⟨⟨after, found, stays⟩, _⟩
  rcases isAcked with ⟨acked, present, status⟩
  have same : some after = some acked := found.symm.trans present
  rw [Option.some.injEq] at same
  rw [same, status] at stays
  cases stays

/-- The acknowledgement arrives before the order fills, and its status goes forward. -/
theorem timely_acknowledgement :
    (eventSystem sampleHost sampleLiveSimSettings).Along
        (ComesInTime sampleHost sampleLiveSimSettings)
        (tablesOfOrders [dispatchedBuy] (by decide)) overtakenAck.reverse ∧
      NeverRegresses sampleHost sampleLiveSimSettings "order-1"
        (tablesOfOrders [dispatchedBuy] (by decide)) overtakenAck.reverse := by
  have inTime : (eventSystem sampleHost sampleLiveSimSettings).Along
      (ComesInTime sampleHost sampleLiveSimSettings)
      (tablesOfOrders [dispatchedBuy] (by decide)) overtakenAck.reverse := by
    refine ⟨?_, ?_, trivial⟩
    · decide +kernel
    · decide +kernel
  exact ⟨inTime, order_status_never_regresses sampleHost sampleLiveSimSettings "order-1" _ _ inTime⟩

end SuseokTrader
