import SuseokTrader.Gateway.OrderAttribution

/-!
# Cancels without the core

While the core is out of reach, the gateway cancels the open purchases that it
knows by the broker's number. A round sends no more cancels than it may, and
goes on after one that raises. An order that was sent a cancel is left alone
from then on, whatever the broker answered.
-/

namespace SuseokTrader

/-! ## Rounds -/

structure DeadManSettings where
  deadManCancelEnabled : Bool
  coreIoEnabled : Bool
  commandPollingEnabled : Bool
  deadManCancelCoreStaleSec : Rat
  deadManCancelMaxOrders : Int

structure DeadManReadings where
  corePollErrorCount : Int
  latestCorePollSuccess : Option Rat
  latestCorePollError : Option Rat
  now : Rat
  brokerEnv : String

def DeadManReadings.isStale (readings : DeadManReadings) (coreStaleSec : Rat) : Bool :=
  match readings.latestCorePollSuccess.or readings.latestCorePollError with
  | none => false
  | some baseline => max coreStaleSec 0 ≤ readings.now - baseline

/-- The round comes to the orders: nothing that is checked before stops it. -/
def DeadManSettings.acts (settings : DeadManSettings) (readings : DeadManReadings) : Bool :=
  settings.deadManCancelEnabled && settings.coreIoEnabled && settings.commandPollingEnabled &&
    0 < readings.corePollErrorCount && readings.isStale settings.deadManCancelCoreStaleSec &&
    readings.brokerEnv = "SIMULATION" && 0 < settings.deadManCancelMaxOrders

inductive CancelAnswer where
  | result (ok : Bool)
  | raised
deriving DecidableEq

structure CancelAttempt where
  request : KiwoomOrderRequest
  answer : CancelAnswer

variable (attempt : CancelAttempt)

def CancelAttempt.orderNo : String :=
  attempt.request.originalOrderNo

def CancelAttempt.isAnswered : Bool :=
  attempt.answer ≠ .raised

def CancelAttempt.isAccepted : Bool :=
  attempt.answer = .result true

def deadManCancelRequest (tag orderNo : String) (record : PendingOrderRecord) :
    KiwoomOrderRequest where
  account := record.accountId
  code := record.code
  quantity := max record.quantity 1
  price := 0
  side := "BUY_CANCEL"
  tag := tag
  orderType := 3
  hoga := "00"
  originalOrderNo := orderNo
  commandId := ""
  idempotencyKey := "dead-man-cancel:" ++ record.commandId ++ ":" ++ orderNo
  orderExchange := record.orderExchange
  metadata := [("source", .str "kiwoom_gateway_dead_man_cancel"),
    ("original_gateway_command_id", .str record.commandId),
    ("original_idempotency_key", .str record.idempotencyKey), ("live_sim_only", .bool true),
    ("live_real_allowed", .bool false), ("cancel_only", .bool true),
    ("reason", .str "CORE_COMMAND_POLL_STALE")]

/-- The cancels of a round that may still send some of them. -/
def cancelRound (tag : String → String) (answers : String → CancelAnswer) :
    Nat → List (String × PendingOrderRecord) → List String → List CancelAttempt
  | 0, _, _ => []
  | _ + 1, [], _ => []
  | allowed + 1, (orderNo, record) :: orders, cancelled =>
      if orderNo ∈ cancelled then cancelRound tag answers (allowed + 1) orders cancelled
      else
        let attempt := ⟨deadManCancelRequest (tag orderNo) orderNo record, answers orderNo⟩
        if attempt.isAnswered then
          attempt :: cancelRound tag answers allowed orders (orderNo :: cancelled)
        else attempt :: cancelRound tag answers (allowed + 1) orders cancelled

/-! ## The gateway -/

def isBuyOrder (record : PendingOrderRecord) : Bool :=
  Text.upper record.side = "BUY"

def PendingOrderRecord.isSimulated (record : PendingOrderRecord) : Bool :=
  Text.upper record.accountMode = "SIMULATION" && Text.upper record.brokerEnv = "SIMULATION" &&
    record.liveSimIntentId ≠ ""

/-- The orders of the gateway, and the numbers that were sent a cancel. The last two fields are
what the broker said: whose cancels it accepted, and how much of an order is not filled. -/
structure DeadManState where
  pendingOrders : PendingOrderRegistry
  heard : List String
  listed : ∀ orderNo record, pendingOrders.byBrokerOrderNo orderNo = some record →
    orderNo ≠ "" ∧ orderNo ∈ heard
  cancelledOrderNos : List String
  accepted : List String
  remaining : String → Option Int

namespace DeadManState

def empty : DeadManState where
  pendingOrders := .empty
  heard := []
  listed _ _ absent := nomatch absent
  cancelledOrderNos := []
  accepted := []
  remaining _ := none

variable (state : DeadManState)

def numberedOrders : List (String × PendingOrderRecord) :=
  (state.heard.dedup.insertionSort (· ≤ ·)).filterMap fun orderNo =>
    (state.pendingOrders.byBrokerOrderNo orderNo).map (orderNo, ·)

def cancelableBuyOrders : List (String × PendingOrderRecord) :=
  state.numberedOrders.filter fun (orderNo, record) =>
    orderNo ≠ "" && isBuyOrder record && record.isSimulated

/-- The shares of an order that are not filled, as far as the broker has told. -/
def unfilled (orderNo : String) (record : PendingOrderRecord) : Int :=
  (state.remaining orderNo).getD record.quantity

/-- The state with the records that a call leaves, which may have one more number. -/
def withOrders (after : PendingOrderRegistry) (orderNo : String)
    (adds : ∀ number record, after.byBrokerOrderNo number = some record →
      (number ≠ "" ∧ number = orderNo) ∨ state.pendingOrders.byBrokerOrderNo number ≠ none) :
    DeadManState :=
  { state with
    pendingOrders := after
    heard := orderNo :: state.heard
    listed := by
      intro number record known
      rcases adds number record known with ⟨named, rfl⟩ | before
      · exact ⟨named, List.mem_cons_self⟩
      · rcases Option.ne_none_iff_exists'.mp before with ⟨earlier, before⟩
        have listed := state.listed number earlier before
        exact ⟨listed.1, List.mem_cons_of_mem _ listed.2⟩ }

theorem adds_recordAck {host : Host} {registry after : PendingOrderRegistry}
    {command : GatewayCommand} {request : KiwoomOrderRequest} {orderNo : String}
    (recorded : registry.recordAck host command request orderNo = .ok after) :
    ∀ number record, after.byBrokerOrderNo number = some record →
      (number ≠ "" ∧ number = orderNo) ∨ registry.byBrokerOrderNo number ≠ none := by
  rcases byBrokerOrderNo_recordAck recorded with ⟨_, _, numbered⟩
  intro number record known
  rw [numbered] at known
  split_ifs at known with blank
  · simp [known]
  · by_cases same : number = orderNo
    · exact Or.inl ⟨same ▸ blank, same⟩
    · rw [Function.update_of_ne same] at known
      simp [known]

theorem adds_bound (registry : PendingOrderRegistry) (chejan : OrderChejan) :
    ∀ number record, (chejan.bound registry).byBrokerOrderNo number = some record →
      (number ≠ "" ∧ number = chejan.orderNo) ∨ registry.byBrokerOrderNo number ≠ none := by
  intro number record known
  cases found : chejan.found registry with
  | none =>
      rw [bound_of_none found] at known
      simp [known]
  | some other =>
      rw [bound_of_found found] at known
      by_cases blank : chejan.orderNo = ""
      · rw [PendingOrderRegistry.bind, if_pos blank] at known
        simp [known]
      · rw [byBrokerOrderNo_bind blank] at known
        by_cases same : number = chejan.orderNo
        · exact Or.inl ⟨same ▸ blank, same⟩
        · rw [Function.update_of_ne same] at known
          simp [known]

theorem adds_finish {registry : PendingOrderRegistry} {orderNo number : String}
    {record : PendingOrderRecord}
    (known : (registry.finish orderNo).byBrokerOrderNo number = some record) :
    registry.byBrokerOrderNo number = some record := by
  cases there : registry.byBrokerOrderNo orderNo with
  | none =>
      rwa [finish_of_unknown there] at known
  | some other =>
      rw [(finish_of_known there).1] at known
      by_cases same : number = orderNo
      · rw [same, Function.update_self] at known
        cases known
      · rwa [Function.update_of_ne same] at known

theorem adds_onChejanResult (host : Host) (registry : PendingOrderRegistry)
    (chejan : OrderChejan) :
    ∀ number record, (onChejanResult host registry chejan).1.byBrokerOrderNo number = some record →
      (number ≠ "" ∧ number = chejan.orderNo) ∨ registry.byBrokerOrderNo number ≠ none := by
  intro number record known
  rcases OrderChejan.onChejanResult_cases host registry chejan with
    ⟨_, _, result⟩ | ⟨_, result⟩ | ⟨_, result⟩
  · rw [result] at known
    exact adds_bound registry chejan number record known
  · rw [result] at known
    exact adds_bound registry chejan number record known
  · rw [result] at known
    dsimp only at known
    have before : (chejan.bound registry).byBrokerOrderNo number = some record :=
      adds_finish known
    exact adds_bound registry chejan number record before

/-- The state after a call that may have failed before it changed the records. -/
def withRecorded (orderNo : String) :
    (recorded : Checked PendingOrderRegistry) →
    (adds : ∀ after, recorded = .ok after → ∀ number record,
      after.byBrokerOrderNo number = some record →
        (number ≠ "" ∧ number = orderNo) ∨ state.pendingOrders.byBrokerOrderNo number ≠ none) →
    DeadManState
  | .ok after, adds => state.withOrders after orderNo (adds after rfl)
  | .error _, _ => state

def ack (host : Host) (state : DeadManState) (command : GatewayCommand)
    (request : KiwoomOrderRequest) (orderNo : String) : DeadManState :=
  state.withRecorded orderNo (state.pendingOrders.recordAck host command request orderNo)
    fun _ => adds_recordAck

def told (orderNo : String) (remaining : Int) : DeadManState :=
  { state with
    remaining := Function.update state.remaining orderNo
      ((state.pendingOrders.byBrokerOrderNo orderNo).map fun _ => remaining) }

def chejan (host : Host) (state : DeadManState) (chejan : OrderChejan) : DeadManState :=
  (state.withOrders (onChejanResult host state.pendingOrders chejan).1 chejan.orderNo
    (adds_onChejanResult host state.pendingOrders chejan)).told chejan.orderNo
      chejan.remainingQuantity

def callback (host : Host) (state : DeadManState) (callback : OrderCallback) : DeadManState :=
  match parseOrderChejan host callback with
  | .ok chejan => state.chejan host chejan
  | .error _ => state

def attempts (settings : DeadManSettings) (state : DeadManState) (readings : DeadManReadings)
    (tag : String → String) (answers : String → CancelAnswer) : List CancelAttempt :=
  if settings.acts readings then
    cancelRound tag answers settings.deadManCancelMaxOrders.toNat state.cancelableBuyOrders
      state.cancelledOrderNos
  else []

def afterRound (attempts : List CancelAttempt) : DeadManState :=
  { state with
    cancelledOrderNos := state.cancelledOrderNos ++
      (attempts.filter CancelAttempt.isAnswered).map CancelAttempt.orderNo
    accepted := state.accepted ++
      (attempts.filter CancelAttempt.isAccepted).map CancelAttempt.orderNo }

end DeadManState

inductive DeadManOp where
  | ack (command : GatewayCommand) (request : KiwoomOrderRequest) (orderNo : String)
  | callback (callback : OrderCallback)
  | round (readings : DeadManReadings) (tag : String → String) (answers : String → CancelAnswer)

def DeadManOp.attempts (settings : DeadManSettings) (state : DeadManState) :
    DeadManOp → List CancelAttempt
  | .round readings tag answers => state.attempts settings readings tag answers
  | _ => []

def deadManGateway (host : Host) (settings : DeadManSettings) :
    System DeadManState DeadManOp (List CancelAttempt) where
  step state op :=
    match op with
    | .ack command request orderNo => (state.ack host command request orderNo, [])
    | .callback callback => (state.callback host callback, [])
    | .round _ _ _ =>
        (state.afterRound (op.attempts settings state), op.attempts settings state)

end SuseokTrader
