import SuseokTrader.LiveSim.ExitEvaluation
import SuseokTrader.LiveSim.Reconcile

/-!
# An operator ends an order

An order whose command is unconfirmed or expired may be ended by hand. The order
and its BUY intent are written in one transaction, and a reconcile follows once
it has committed. What the boundary row of the command says is not asked, and
the exit behind a SELL order stays as it is.
-/

namespace SuseokTrader

/-! ## The tool -/

inductive ResolveMode where
  | brokerAbsent
  | brokerCancelled
deriving DecidableEq

namespace ResolveMode

def reason : ResolveMode → String
  | brokerAbsent => "OPERATOR_CONFIRMED_BROKER_ABSENT"
  | brokerCancelled => "OPERATOR_CONFIRMED_BROKER_CANCELLED"

def nextIntentStatus : ResolveMode → LiveSimIntentStatus
  | brokerAbsent => .rejected
  | brokerCancelled => .cancelled

def read (mode : String) : Checked ResolveMode := do
  let normalized ← requireNonEmptyStr (.str mode) "mode"
  if Text.lower normalized = "broker-absent" then return brokerAbsent
  else if Text.lower normalized = "broker-cancelled" then return brokerCancelled
  else Checked.invalid ("지원하지 않는 resolve 모드입니다: " ++ mode)

end ResolveMode

variable (gateway : Database)

def eventExistsCount (commandId eventType : String) : Nat :=
  max
    (gateway.commandEvents.countP fun event =>
      event.commandId = commandId && event.eventType = eventType)
    (gateway.gatewayEvents.rows.countP fun event =>
      event.commandId = some commandId && event.eventType = eventType)

def chejanEventTypes : List String :=
  ["kiwoom_order_chejan", "kiwoom_balance_chejan", "kiwoom_special_chejan"]

def chejanEventCount (commandId : String) : Nat :=
  gateway.gatewayEvents.rows.countP fun event =>
    event.commandId = some commandId && chejanEventTypes.contains event.eventType

variable (tables : LiveSimTables)

def liveSimExecutionCount (liveSimOrderId : String) : Nat :=
  tables.executions.rows.countP fun execution => execution.liveSimOrderId = liveSimOrderId

variable (store : LiveSimStore)

def blockingEventCounts (commandId : String) (order : LiveSimOrder) :
    List (String × Nat) :=
  [("command_started", eventExistsCount store.gateway commandId "command_started"),
    ("command_ack", eventExistsCount store.gateway commandId "command_ack"),
    ("execution_event", eventExistsCount store.gateway commandId "execution_event"),
    ("chejan_event", chejanEventCount store.gateway commandId),
    ("live_sim_execution", liveSimExecutionCount store.live order.liveSimOrderId)]

/-- `_validate_resolution`: the first refusal, with the command of the order as it is stored. -/
def resolutionRefusal (mode : ResolveMode) (order : LiveSimOrder) :
    Option String :=
  match (Text.optionalText order.gatewayCommandId).bind store.gateway.commands.find? with
  | none => some "연결된 gateway command가 없습니다."
  | some command =>
      let status := Text.upper command.status
      let commandType := Text.lower (Text.strip command.commandType)
      if status ∉ ["UNCONFIRMED", "EXPIRED"] then
        some ("gateway command 상태가 UNCONFIRMED/EXPIRED가 아닙니다: " ++
          if status = "" then "UNKNOWN" else status)
      else if commandType ≠ "send_order" then
        some ("send_order command만 운영자 종결할 수 있습니다: " ++ commandType)
      else if order.status.isTerminal then
        some ("이미 종결된 주문입니다: " ++ order.status.value)
      else if mode = .brokerAbsent ∧ (Text.optionalText order.brokerOrderNo).isSome then
        some "broker-absent 모드는 broker_order_no가 없어야 합니다."
      else
        ((blockingEventCounts store command.commandId order).find? fun count =>
          0 < count.2).map fun count =>
            "브로커 도달 가능성이 있는 이벤트가 있어 종결을 거부합니다: " ++ count.1

variable (liveRealAllowed : Bool)

/-- The order that the tool is asked to end, once every check has passed. -/
def resolvedOrder (store : LiveSimStore) (orderId mode note : String) :
    Checked (ResolveMode × LiveSimOrder) :=
  if liveRealAllowed then
    Checked.invalid "LIVE_REAL 설정에서는 이 운영자 도구를 실행할 수 없습니다."
  else do
    let mode ← ResolveMode.read mode
    let _ ← requireNonEmptyStr (.str note) "note"
    let id ← requireNonEmptyStr (.str orderId) "order_id"
    match store.live.orders.find? id with
    | none => Checked.invalid ("LIVE_SIM 주문을 찾을 수 없습니다: " ++ orderId)
    | some order =>
        match resolutionRefusal store mode order with
        | some refusal => Checked.invalid refusal
        | none => return (mode, order)

def failedOrder (mode : ResolveMode) (now : String) (order : LiveSimOrder) : LiveSimOrder :=
  { order with
    status := .failed
    remainingQuantity := 0
    brokerMessage := some mode.reason
    lastEventAt := some now }

variable (mode : ResolveMode)

theorem key_failedOrder (now : String) (order : LiveSimOrder) :
    Keyed.key (failedOrder mode now order) = Keyed.key order :=
  rfl

def endedIntent (intent : LiveSimIntent) : LiveSimIntent :=
  if intent.status.isActive then
    { intent with status := mode.nextIntentStatus, brokerOrderSent := false }
  else intent

theorem key_endedIntent (intent : LiveSimIntent) :
    Keyed.key (endedIntent mode intent) = Keyed.key intent := by
  rw [endedIntent]
  split <;> rfl

variable (order : LiveSimOrder)

def resolvedTables (now : String) : LiveSimTables :=
  { tables with
    orders := tables.orders.update order.liveSimOrderId (failedOrder mode now)
      (key_failedOrder mode now)
    intents := tables.intents.update order.liveSimIntentId (endedIntent mode)
      (key_endedIntent mode) }

/-- The clock, and what fails: the transaction, rolled back then, or the reconcile behind it. -/
structure ResolveReadings where
  now : String
  transactionFailure : Option Failure
  reconcileFailure : Option Failure

def resolveLiveSimOrder (liveRealAllowed : Bool) (store : LiveSimStore)
    (orderId mode note : String) (readings : ResolveReadings) : LiveSimStore × Checked Unit :=
  match resolvedOrder liveRealAllowed store orderId mode note with
  | .error failure => (store, .error failure)
  | .ok (mode, order) =>
      match readings.transactionFailure with
      | some failure => (store, .error failure)
      | none =>
          ({ store with live := resolvedTables store.live mode order readings.now },
            match readings.reconcileFailure with
            | some failure => .error failure
            | none => .ok ())

/-! ## What a resolution promises -/

/-- The events of the command say that the order may have reached the broker. -/
def reachedInEvents (commandId : String) : Prop :=
  (∃ event ∈ gateway.commandEvents, event.commandId = commandId ∧
    event.eventType ∈ ["command_started", "command_ack", "execution_event"]) ∨
  ∃ event ∈ gateway.gatewayEvents.rows, event.commandId = some commandId ∧
    event.eventType ∈ ["command_started", "command_ack", "execution_event"] ++ chejanEventTypes

def reachedAtBoundary (commandId : String) : Bool :=
  (gateway.boundaries.find? commandId).any fun boundary =>
    boundary.gatewayStartedAt.isSome || boundary.preAckRecordedAt.isSome ||
      boundary.brokerAcceptedAt.isSome || boundary.chejanConfirmedAt.isSome

def ReachedBroker : Prop :=
  (∃ commandId, Text.optionalText order.gatewayCommandId = some commandId ∧
    (reachedInEvents store.gateway commandId ∨
      reachedAtBoundary store.gateway commandId = true)) ∨
  ∃ execution ∈ store.live.executions.rows, execution.liveSimOrderId = order.liveSimOrderId

def ExitSettled : Prop :=
  ∀ intent, tables.exitIntents.find? order.liveSimIntentId = some intent →
    intent.status.isActive = false ∧
    ∀ position, tables.positions.find? intent.positionId = some position →
      isEvaluated position = true ∧
      tables.activeExitForPosition position.positionId = false

def QueuedForSettled : Prop :=
  match order.side with
  | .buy => ∀ intent, tables.intents.find? order.liveSimIntentId = some intent →
      intent.status.isActive = false
  | .sell => ExitSettled tables order

/-- A call that succeeds ends an order that is not at the broker, and what it was queued for; a
call that does not succeed leaves the tables alone. -/
structure ResolvesSafely (store : LiveSimStore) (orderId mode : String)
    (result : LiveSimStore × Checked Unit) : Prop where
  unreached : result.2 = .ok () → ResolveMode.read mode = .ok .brokerAbsent →
    ∀ order, store.live.orders.find? (Text.strip orderId) = some order →
      ¬ ReachedBroker store order
  notOpen : result.2 = .ok () →
    ∀ order, result.1.live.orders.find? (Text.strip orderId) = some order →
      order.status.isActive = false
  settled : result.2 = .ok () →
    ∀ order, result.1.live.orders.find? (Text.strip orderId) = some order →
      QueuedForSettled result.1.live order
  unchanged : result.2 ≠ .ok () → result.1 = store

/-- Where the checks pass and the transaction commits, the boundary row knows nothing of the
broker, the exit behind a SELL order is over before the call, and the reconcile does not fail. -/
def ResolvesCleanly (liveRealAllowed : Bool) (store : LiveSimStore)
    (orderId mode note : String) (readings : ResolveReadings) : Prop :=
  ∀ read order, resolvedOrder liveRealAllowed store orderId mode note = .ok (read, order) →
    readings.transactionFailure = none →
    readings.reconcileFailure = none ∧
    (read = .brokerAbsent → ∀ commandId, Text.optionalText order.gatewayCommandId =
      some commandId → reachedAtBoundary store.gateway commandId = false) ∧
    (order.side = .sell → ExitSettled store.live order)

/-! ## The law -/

theorem not_reachedInEvents {gateway : Database} {commandId : String}
    (counts : ∀ eventType ∈ ["command_started", "command_ack", "execution_event"],
      eventExistsCount gateway commandId eventType = 0)
    (chejan : chejanEventCount gateway commandId = 0) : ¬ reachedInEvents gateway commandId := by
  have count : ∀ eventType ∈ ["command_started", "command_ack", "execution_event"],
      (∀ event ∈ gateway.commandEvents, event.commandId = commandId →
        event.eventType ≠ eventType) ∧
      ∀ event ∈ gateway.gatewayEvents.rows, event.commandId = some commandId →
        event.eventType ≠ eventType := by
    intro eventType listed
    have zero := counts eventType listed
    rw [eventExistsCount, Nat.max_eq_zero_iff] at zero
    simpa using zero
  rintro (⟨event, stored, same, isReach⟩ | ⟨event, stored, same, isReach⟩)
  · exact (count _ isReach).1 event stored same rfl
  · rcases List.mem_append.mp isReach with isReach | isChejan
    · exact (count _ isReach).2 event stored same rfl
    · rw [chejanEventCount, List.countP_eq_zero] at chejan
      apply chejan event stored
      simpa [same] using isChejan

variable {liveRealAllowed : Bool} {store : LiveSimStore} {mode : ResolveMode}
  {order : LiveSimOrder} {orderId text note : String} {readings : ResolveReadings}

theorem reachedBroker_iff (accepted : resolutionRefusal store mode order = none) :
    ReachedBroker store order ↔ ∃ commandId,
      Text.optionalText order.gatewayCommandId = some commandId ∧
        reachedAtBoundary store.gateway commandId = true := by
  rw [resolutionRefusal] at accepted
  split at accepted
  · cases accepted
  · next command stored =>
      rcases Option.bind_eq_some_iff.mp stored with ⟨commandId, isCommand, found⟩
      have sameId : command.commandId = commandId := Table.key_of_find? found
      dsimp only at accepted
      split_ifs at accepted
      rw [Option.map_eq_none_iff, List.find?_eq_none, sameId] at accepted
      simp only [blockingEventCounts, List.mem_cons, List.not_mem_nil, or_false, forall_eq_or_imp,
        forall_eq, decide_eq_true_eq, Nat.not_lt, Nat.le_zero_eq] at accepted
      rcases accepted with ⟨started, acked, executed, chejan, executions⟩
      have unseen : ¬ reachedInEvents store.gateway commandId :=
        not_reachedInEvents (by simp [started, acked, executed]) chejan
      rw [liveSimExecutionCount, List.countP_eq_zero] at executions
      constructor
      · rintro (⟨other, isOther, seen | atBoundary⟩ | ⟨execution, present, same⟩)
        · rw [Option.some.inj (isOther.symm.trans isCommand)] at seen
          exact absurd seen unseen
        · exact ⟨other, isOther, atBoundary⟩
        · exact absurd (decide_eq_true same) (executions execution present)
      · rintro ⟨other, isOther, atBoundary⟩
        exact Or.inl ⟨other, isOther, Or.inr atBoundary⟩

theorem not_isTerminal (accepted : resolutionRefusal store mode order = none) :
    order.status.isTerminal = false := by
  rw [resolutionRefusal] at accepted
  split at accepted
  · cases accepted
  · dsimp only at accepted
    split_ifs at accepted with _ _ isTerminal
    exact eq_false_of_ne_true isTerminal

theorem resolvedOrder_accepted
    (accepted : resolvedOrder liveRealAllowed store orderId text note = .ok (mode, order)) :
    ResolveMode.read text = .ok mode ∧
      store.live.orders.find? (Text.strip orderId) = some order ∧
      resolutionRefusal store mode order = none := by
  rw [resolvedOrder] at accepted
  split at accepted
  · cases accepted
  · rcases Checked.bind_eq_ok.mp accepted with ⟨read, isRead, accepted⟩
    rcases Checked.bind_eq_ok.mp accepted with ⟨_, _, accepted⟩
    rcases Checked.bind_eq_ok.mp accepted with ⟨id, isId, accepted⟩
    have sameId : id = Text.strip orderId := by
      rw [requireNonEmptyStr] at isId
      split at isId
      · cases isId
      · exact (Except.ok.inj isId).symm
    rw [sameId] at accepted
    split at accepted
    · cases accepted
    · next found =>
        split at accepted
        · cases accepted
        · next unrefused =>
            cases accepted
            exact ⟨isRead, found, unrefused⟩

theorem queuedForSettled_resolvedTables (now : String)
    (present : store.live.orders.find? (Text.strip orderId) = some order) :
    (resolvedTables store.live mode order now).orders.find? (Text.strip orderId) =
        some (failedOrder mode now order) ∧
      (QueuedForSettled (resolvedTables store.live mode order now) (failedOrder mode now order) ↔
        (order.side = .sell → ExitSettled store.live order)) := by
  have sameId : order.liveSimOrderId = Text.strip orderId := Table.key_of_find? present
  constructor
  · rw [← sameId] at present ⊢
    rw [resolvedTables, Table.find?_update_self present]
  · rw [QueuedForSettled]
    cases isSide : order.side with
    | sell => simp [failedOrder, isSide, ExitSettled, resolvedTables,
        LiveSimTables.activeExitForPosition, LiveSimTables.activeExitIntentForPosition]
    | buy =>
        simp only [failedOrder, isSide, reduceCtorEq, false_implies, iff_true]
        intro intent isIntent
        rw [resolvedTables] at isIntent
        cases before : store.live.intents.find? order.liveSimIntentId with
        | none =>
            rw [Table.find?_update_of_none before, before] at isIntent
            cases isIntent
        | some queued =>
            rw [Table.find?_update_self before] at isIntent
            cases isIntent
            rw [endedIntent]
            split
            · cases mode <;> rfl
            · next inactive => simpa using inactive

def expiredCommand : CommandRow where
  commandId := "command"
  commandType := "send_order"
  source := "live_sim"
  status := "EXPIRED"
  idempotencyKey := some "key"
  payloadJson := "{}"
  payloadHash := ""
  createdAt := "2026-07-17T01:00:00Z"
  availableAt := none
  dispatchedAt := none
  completedAt := none
  expiresAt := some "2026-07-17T01:01:00Z"
  attempts := 0
  lastError := none

/-- The tables once an exit has been queued and its command has expired, not dispatched. -/
def expiredExit : LiveSimStore :=
  let position := heldSince "p1" "000001" "2026-07-17T00:59:00Z"
  let signal := exitSignalCandidate position ⟨"STOP_LOSS", none, 900⟩ "signal"
    "2026-07-17T01:00:00Z"
  let intent := newExitIntent sampleLiveSimSettings position signal "exit"
  let tables : LiveSimTables :=
    { LiveSimTables.empty with
      positions := ⟨[position], List.nodup_singleton _⟩
      exitSignals := ⟨[signal], List.nodup_singleton _⟩
      exitIntents := ⟨[intent], List.nodup_singleton _⟩ }
  { gateway :=
      { Database.empty ⟨[], [], ⟨true, true, true, true, true⟩,
          ⟨true, true, true, true, true⟩⟩ [] with
        commands := ⟨[expiredCommand], List.nodup_singleton _⟩ }
    live := (writeQueuedExit tables position intent
      ⟨"command", "order", [], 63919846800000000, 63919846800000000, 63919846800000000⟩).getD
        tables }

def absentOrder : LiveSimStore × Checked Unit :=
  resolveLiveSimOrder false expiredExit "order" "broker-absent" "checked"
    ⟨"2026-07-17T01:02:00Z", none, none⟩

end SuseokTrader
