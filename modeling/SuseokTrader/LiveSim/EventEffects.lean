import SuseokTrader.LiveSim.Events

/-!
# What an event does to the tables

One lemma for each handler. A notice that is no fill writes a status into one
order and leaves the executions and positions alone. A new execution adds its
row, changes its order and at most one position.
-/

namespace SuseokTrader

/-! ## Notices -/

/-- One order gets a new status and keeps its quantities; no execution or position changes. -/
structure WritesStatus (tables handled : LiveSimTables) (order : LiveSimOrder)
    (status : LiveSimOrderStatus) : Prop where
  present : tables.orders.find? order.liveSimOrderId = some order
  written : ∃ after, handled.orders.find? order.liveSimOrderId = some after ∧
    after.status = status ∧ after.filledQuantity = order.filledQuantity ∧
    after.remainingQuantity = order.remainingQuantity ∧ after.side = order.side ∧
    after.liveSimIntentId = order.liveSimIntentId
  others : ∀ id, id ≠ order.liveSimOrderId → handled.orders.find? id = tables.orders.find? id
  keys : handled.orders.rows.map Keyed.key = tables.orders.rows.map Keyed.key
  executions : handled.executions = tables.executions
  positions : handled.positions = tables.positions
  exitSignals : handled.exitSignals = tables.exitSignals
  exitIntents : handled.exitIntents = tables.exitIntents ∨ ∃ id, handled.exitIntents =
    tables.exitIntents.update id (setExitIntentStatus .rejected) (key_setExitIntentStatus _)

namespace LiveSimTables

variable {order : LiveSimOrder}

theorem find?_of_orderByCommandId {tables : LiveSimTables} {commandId : String}
    (found : tables.orderByCommandId commandId = some order) :
    tables.orders.find? order.liveSimOrderId = some order :=
  Table.find?_of_mem (List.mem_of_find?_eq_some found)

theorem find?_of_orderByBrokerOrderNo {tables : LiveSimTables} {number : String}
    (found : tables.orderByBrokerOrderNo number = some order) :
    tables.orders.find? order.liveSimOrderId = some order :=
  Table.find?_of_mem (List.mem_of_find?_eq_some found)

theorem writesStatus_updateOrder {tables handled : LiveSimTables} {status : LiveSimOrderStatus}
    (change : LiveSimOrder → LiveSimOrder)
    (keeps : ∀ order, Keyed.key (change order) = Keyed.key order)
    (present : tables.orders.find? order.liveSimOrderId = some order)
    (orders : handled.orders = tables.orders.update order.liveSimOrderId change keeps)
    (executions : handled.executions = tables.executions)
    (positions : handled.positions = tables.positions)
    (exitSignals : handled.exitSignals = tables.exitSignals)
    (exitIntents : handled.exitIntents = tables.exitIntents ∨ ∃ id, handled.exitIntents =
      tables.exitIntents.update id (setExitIntentStatus .rejected) (key_setExitIntentStatus _))
    (sameStatus : (change order).status = status)
    (quantities : (change order).filledQuantity = order.filledQuantity ∧
      (change order).remainingQuantity = order.remainingQuantity ∧
      (change order).side = order.side ∧
      (change order).liveSimIntentId = order.liveSimIntentId) :
    WritesStatus tables handled order status where
  present := present
  written := by
    refine ⟨change order, ?_, sameStatus, quantities⟩
    rw [orders, Table.find?_update_self present]
  others := by
    intro id different
    rw [orders, Table.find?_update_of_ne different]
  keys := by rw [orders, Table.keys_update]
  executions := executions
  positions := positions
  exitSignals := exitSignals
  exitIntents := exitIntents

end LiveSimTables

variable {host : Host} {settings : LiveSimSettings} {tables handled : LiveSimTables}

/-- The status a command event gives its order, if its payload can be read. -/
def commandStatus (host : Host) (tables : LiveSimTables) (order : LiveSimOrder)
    (payload : Payload) : CommandEvent → Checked LiveSimOrderStatus
  | .started => .ok (if order.side = .sell then .exitCommandQueued else .commandDispatched)
  | .acked => do
      let ack ← readAck host payload
      return if ack.accepted then .brokerAcked else .brokerRejected
  | .failed => do
      let _ ← Json.columnText (payload.get "error_message")
      if order.side = .sell ∧ (tables.exitIntentByOrderId order.liveSimOrderId).isSome then
        rejectionReason (payload.get "error_message")
      return .failed

variable {order : LiveSimOrder} {kind : CommandEvent} {payload : Payload} {now : String}
  {reply : LifecycleReply} {executions : Table LiveSimExecution} {report : ExecutionReport}
  {result : PositionResult} {status : LiveSimOrderStatus} {ids : FreshIds} {event : GatewayEvent}

theorem writesStatus_command (present : tables.orders.find? order.liveSimOrderId = some order)
    (success : handleOrderCommandEvent host tables order kind payload now = .ok handled) :
    ∃ status, commandStatus host tables order payload kind = .ok status ∧
      WritesStatus tables handled order status := by
  cases kind with
  | started =>
      rw [handleOrderCommandEvent, Except.ok.injEq] at success
      subst success
      exact ⟨_, rfl, LiveSimTables.writesStatus_updateOrder (startedOrder now)
        (key_startedOrder now) present rfl rfl rfl rfl (Or.inl rfl) rfl ⟨rfl, rfl, rfl, rfl⟩⟩
  | acked =>
      simp only [handleOrderCommandEvent, Checked.bind_eq_ok, pure, Except.pure,
        Except.ok.injEq] at success
      rcases success with ⟨ack, isAck, success⟩
      refine ⟨if ack.accepted then .brokerAcked else .brokerRejected, ?_, ?_⟩
      · simp only [commandStatus, isAck]
        rfl
      · split at success
        all_goals
          subst success
          exact LiveSimTables.writesStatus_updateOrder (ackedOrder ack now)
            (key_ackedOrder ack now) present rfl rfl rfl rfl (Or.inl rfl) rfl
            ⟨rfl, rfl, rfl, rfl⟩
  | failed =>
      simp only [handleOrderCommandEvent, Checked.bind_eq_ok] at success
      rcases success with ⟨message, isMessage, success⟩
      have writes : ∀ final : LiveSimTables,
          final.orders = (tables.updateOrder order.liveSimOrderId
            (endedOrder .failed none message now) (key_endedOrder _ _ _ _)).orders →
          final.executions = tables.executions → final.positions = tables.positions →
          final.exitSignals = tables.exitSignals →
          (final.exitIntents = tables.exitIntents ∨ ∃ id, final.exitIntents =
            tables.exitIntents.update id (setExitIntentStatus .rejected)
              (key_setExitIntentStatus _)) → WritesStatus tables final order .failed :=
        fun final orders executions positions exitSignals exitIntents =>
          LiveSimTables.writesStatus_updateOrder (endedOrder .failed none message now)
            (key_endedOrder _ _ _ _) present orders executions positions exitSignals exitIntents
            rfl ⟨rfl, rfl, rfl, rfl⟩
      simp only [commandStatus, isMessage]
      cases side : order.side with
      | buy =>
          simp only [side, pure, Except.pure, Except.ok.injEq] at success
          subst success
          exact ⟨.failed, rfl, writes _ rfl rfl rfl rfl (Or.inl rfl)⟩
      | sell =>
          simp only [side, markExitIntentByOrderRejected] at success
          split at success
          · next missing =>
              rw [Except.ok.injEq] at success
              subst success
              have noIntent : tables.exitIntentByOrderId order.liveSimOrderId = none := missing
              refine ⟨.failed, ?_, writes _ rfl rfl rfl rfl (Or.inl rfl)⟩
              simp only [noIntent]
              rfl
          · next intent found =>
              simp only [Checked.bind_eq_ok, pure, Except.pure, Except.ok.injEq] at success
              rcases success with ⟨_, isReason, rfl⟩
              have isIntent : tables.exitIntentByOrderId order.liveSimOrderId = some intent :=
                found
              refine ⟨.failed, ?_, writes _ rfl rfl rfl rfl (Or.inr ⟨intent.exitIntentId, rfl⟩)⟩
              simp only [isIntent, isReason]
              rfl

/-- The status a command event of a cancellation gives the order, if it gives one. -/
def cancelStatus (host : Host) (payload : Payload) : CommandEvent → Option LiveSimOrderStatus
  | .started => none
  | .acked =>
      match readAck host payload with
      | .ok ack => some (if ack.accepted then .cancelled else .cancelRejected)
      | .error _ => none
  | .failed =>
      match Json.columnText (payload.get "error_message") with
      | .ok _ => some .cancelRejected
      | .error _ => none

/-- A command event of a cancellation whose order is missing, or that only starts it, changes
nothing; any other writes a status. -/
theorem cancelCommand_cases {intent : CancelIntent}
    (success : handleCancelCommandEvent host tables intent kind payload now =
      .ok (handled, reply)) :
    (handled = tables ∧ (tables.orders.find? intent.liveSimOrderId = none ∨
      cancelStatus host payload kind = none)) ∨
    ∃ order status, tables.orders.find? intent.liveSimOrderId = some order ∧
      cancelStatus host payload kind = some status ∧ WritesStatus tables handled order status := by
  rw [handleCancelCommandEvent] at success
  split at success
  · next missing =>
      rw [Except.ok.injEq, Prod.mk.injEq] at success
      exact Or.inl ⟨success.1.symm, Or.inl missing⟩
  · next order found =>
      have present : tables.orders.find? order.liveSimOrderId = some order :=
        Table.find?_of_mem (Table.mem_of_find? found)
      cases kind with
      | started =>
          simp only [pure, Except.pure, Except.ok.injEq, Prod.mk.injEq] at success
          exact Or.inl ⟨success.1.symm, Or.inr rfl⟩
      | acked =>
          simp only [Checked.bind_eq_ok, pure, Except.pure, Except.ok.injEq,
            Prod.mk.injEq] at success
          rcases success with ⟨ack, isAck, success, _⟩
          right
          refine ⟨order, if ack.accepted then .cancelled else .cancelRejected, found, ?_, ?_⟩
          · simp only [cancelStatus, isAck]
          · split at success
            all_goals
              subst success
              exact LiveSimTables.writesStatus_updateOrder
                (endedOrder (if ack.accepted then .cancelled else .cancelRejected)
                  ack.brokerResultCode ack.message now) (key_endedOrder _ _ _ _) present
                rfl rfl rfl rfl (Or.inl rfl) rfl ⟨rfl, rfl, rfl, rfl⟩
      | failed =>
          simp only [Checked.bind_eq_ok] at success
          rcases success with ⟨message, isMessage, rfl, _⟩
          right
          refine ⟨order, .cancelRejected, found, by simp only [cancelStatus, isMessage], ?_⟩
          exact LiveSimTables.writesStatus_updateOrder
            (endedOrder .cancelRejected none message now) (key_endedOrder _ _ _ _) present
            rfl rfl rfl rfl (Or.inl rfl) rfl ⟨rfl, rfl, rfl, rfl⟩

/-! ## Fills -/

def closesPosition (positions : Table LiveSimPosition) (order : LiveSimOrder)
    (report : ExecutionReport) : Bool :=
  match positionOfSell positions order report.positionId with
  | none => true
  | some position =>
      position.availableQuantity < report.quantity || position.quantity = report.quantity

def endsExit (tables : LiveSimTables) (order : LiveSimOrder) (report : ExecutionReport) : Bool :=
  order.side = .sell && (tables.exitIntentByOrderId order.liveSimOrderId).isSome &&
    closesPosition tables.positions order report

def exitMark (tables : LiveSimTables) (order : LiveSimOrder) (report : ExecutionReport) :
    Option (ExitIntent × Bool) :=
  if order.side = .sell then
    (tables.exitIntentByOrderId order.liveSimOrderId).map fun intent =>
      (intent, closesPosition tables.positions order report)
  else none

def markedIntents (exitIntents : Table ExitIntent) :
    Option (ExitIntent × Bool) → Table ExitIntent
  | none => exitIntents
  | some (intent, closes) => exitIntents.update intent.exitIntentId
      (setExitIntentStatus (if closes then .closed else .commandQueued))
      (key_setExitIntentStatus _)

def markedSignals (exitSignals : Table ExitSignal) :
    Option (ExitIntent × Bool) → Table ExitSignal
  | none => exitSignals
  | some (intent, closes) => exitSignals.update intent.exitSignalId
      (setExitSignalStatus (if closes then .closed else .commandQueued))
      (key_setExitSignalStatus _)

def statusAfterFill (tables : LiveSimTables) (order : LiveSimOrder) (report : ExecutionReport) :
    LiveSimOrderStatus :=
  if endsExit tables order report then .exitFilled else statusOfRemaining (report.remaining order)

/-- An order after a fill that left the executions of the table. -/
def orderAfterFill (tables : LiveSimTables) (order : LiveSimOrder) (report : ExecutionReport)
    (executions : Table LiveSimExecution) (now : String) : LiveSimOrder :=
  filledOrder (statusAfterFill tables order report) (order.filledQuantity + report.quantity)
    (report.remaining order) (averageFillPrice executions order.liveSimOrderId) now order

/-- What a fill does to the positions. -/
inductive FillsPosition (settings : LiveSimSettings) (positions : Table LiveSimPosition)
    (order : LiveSimOrder) (report : ExecutionReport) (positionId : String) :
    Table LiveSimPosition → Prop
  | opens {opened} (buys : order.side = .buy)
      (missing : positionByAccountCode positions order.accountId order.code false = none)
      (inserted : positions.insert? (openedPosition settings order positionId
        report.quantity report.price report.executedAtText) = some opened) :
      FillsPosition settings positions order report positionId opened
  | increases (position : LiveSimPosition) (buys : order.side = .buy)
      (found : positionByAccountCode positions order.accountId order.code false =
        some position) :
      FillsPosition settings positions order report positionId
        (positions.update position.positionId
          (increasedPosition settings report.quantity report.price report.executedAtText)
          (key_increasedPosition _ _ _ _))
  | misses (sells : order.side = .sell)
      (missing : positionOfSell positions order report.positionId = none) :
      FillsPosition settings positions order report positionId positions
  | mismatches (position : LiveSimPosition) (sells : order.side = .sell)
      (found : positionOfSell positions order report.positionId = some position)
      (exceeds : position.availableQuantity < report.quantity) :
      FillsPosition settings positions order report positionId
        (positions.update position.positionId (mismatchedPosition report.executedAtText)
          (key_mismatchedPosition _))
  | reduces (position : LiveSimPosition) (sells : order.side = .sell)
      (found : positionOfSell positions order report.positionId = some position)
      (fits : report.quantity ≤ position.availableQuantity) :
      FillsPosition settings positions order report positionId
        (positions.update position.positionId
          (reducedPosition settings report.quantity report.price report.executedAtText)
          (key_reducedPosition _ _ _ _))

theorem rows_of_insertExecution {inserted : Table LiveSimExecution} {execution : LiveSimExecution}
    (success : insertExecution executions execution = some inserted) :
    inserted.rows = executions.rows ++ [execution] := by
  rw [insertExecution] at success
  split at success
  · cases success
  · exact Table.rows_of_insert? success

def SameOrder (before after : LiveSimOrder) : Prop :=
  after = { before with
    status := after.status
    filledQuantity := after.filledQuantity
    remainingQuantity := after.remainingQuantity
    avgFillPrice := after.avgFillPrice
    lastEventAt := after.lastEventAt }

theorem SameOrder.trans {first second third : LiveSimOrder} (left : SameOrder first second)
    (right : SameOrder second third) : SameOrder first third := by
  rw [left] at right
  exact right

def SameOrders (before after : Table LiveSimOrder) : Prop :=
  ∃ change : LiveSimOrder → LiveSimOrder, after.rows = before.rows.map change ∧
    ∀ order, SameOrder order (change order)

theorem sameOrders_update (orders : Table LiveSimOrder) (id : String)
    (change : LiveSimOrder → LiveSimOrder)
    (keeps : ∀ order, Keyed.key (change order) = Keyed.key order)
    (same : ∀ order, SameOrder order (change order)) :
    SameOrders orders (orders.update id change keeps) := by
  refine ⟨fun order => if Keyed.key order = id then change order else order, ?_, ?_⟩
  · simp [Table.update]
  · intro order
    dsimp only
    split
    · exact same order
    · rfl

theorem SameOrders.trans {first second third : Table LiveSimOrder}
    (left : SameOrders first second) (right : SameOrders second third) :
    SameOrders first third := by
  rcases left with ⟨change, rows, same⟩
  rcases right with ⟨again, rowsAgain, sameAgain⟩
  refine ⟨again ∘ change, ?_, fun order => (same order).trans (sameAgain _)⟩
  rw [rowsAgain, rows, List.map_map]

theorem SameOrders.keys_eq {before after : Table LiveSimOrder} (same : SameOrders before after) :
    after.rows.map Keyed.key = before.rows.map Keyed.key := by
  rcases same with ⟨change, rows, sameOrder⟩
  rw [rows, List.map_map]
  apply List.map_congr_left
  intro order _
  have same := sameOrder order
  rw [Function.comp_apply, same]
  rfl

/-- A new execution: its row, its order and its position. -/
structure AppliesFill (settings : LiveSimSettings) (tables handled : LiveSimTables)
    (order : LiveSimOrder) (report : ExecutionReport) (ids : FreshIds) (now : String) : Prop where
  present : tables.orders.find? order.liveSimOrderId = some order
  recorded : insertExecution tables.executions (report.row order ids.executionId) =
    some handled.executions
  written : handled.orders.find? order.liveSimOrderId =
    some (orderAfterFill tables order report handled.executions now)
  others : ∀ id, id ≠ order.liveSimOrderId → handled.orders.find? id = tables.orders.find? id
  sameOrders : SameOrders tables.orders handled.orders
  exitIntents : handled.exitIntents = markedIntents tables.exitIntents
    (exitMark tables order report)
  exitSignals : handled.exitSignals = markedSignals tables.exitSignals
    (exitMark tables order report)
  position : FillsPosition settings tables.positions order report ids.positionId handled.positions

theorem applySellFill_cases (settings : LiveSimSettings) (tables : LiveSimTables)
    (order : LiveSimOrder) (report : ExecutionReport) (positionId : String)
    (sells : order.side = .sell) :
    let (applied, result) := applySellFill settings tables order report.positionId
      report.quantity report.price report.executedAtText
    applied.orders = tables.orders ∧ applied.executions = tables.executions ∧
      applied.exitIntents = tables.exitIntents ∧ applied.exitSignals = tables.exitSignals ∧
      result.closes = closesPosition tables.positions order report ∧
      FillsPosition settings tables.positions order report positionId applied.positions := by
  simp only [applySellFill, closesPosition]
  split
  · next missing =>
      exact ⟨rfl, rfl, rfl, rfl, by simp [PositionResult.closes, missing],
        .misses sells missing⟩
  · next position found =>
      by_cases exceeds : position.availableQuantity < report.quantity
      · simp only [exceeds, found]
        exact ⟨rfl, rfl, rfl, rfl, rfl, .mismatches position sells found exceeds⟩
      · simp only [exceeds, if_false, decide_false, Bool.false_or, found]
        refine ⟨rfl, rfl, rfl, rfl, ?_, .reduces position sells found (by omega)⟩
        simp only [PositionResult.closes, Option.getD_some, Int.sub_eq_zero]

theorem find?_recordFill_self (present : tables.orders.find? order.liveSimOrderId = some order) :
    (recordFill tables order report executions now).orders.find? order.liveSimOrderId =
      some (filledOrder (statusOfRemaining (report.remaining order))
        (order.filledQuantity + report.quantity) (report.remaining order)
        (averageFillPrice executions order.liveSimOrderId) now order) := by
  dsimp only [recordFill]
  rw [Table.find?_update_self present]

theorem find?_recordFill_of_ne {id : String} (different : id ≠ order.liveSimOrderId) :
    (recordFill tables order report executions now).orders.find? id = tables.orders.find? id := by
  dsimp only [recordFill]
  rw [Table.find?_update_of_ne different]

theorem executions_markExit :
    (markExitAfterSellFill tables order result status).executions = tables.executions := by
  rw [markExitAfterSellFill]
  split <;> rfl

theorem positions_markExit :
    (markExitAfterSellFill tables order result status).positions = tables.positions := by
  rw [markExitAfterSellFill]
  split <;> rfl

theorem exitIntents_markExit :
    (markExitAfterSellFill tables order result status).exitIntents =
      markedIntents tables.exitIntents
        ((tables.exitIntentByOrderId order.liveSimOrderId).map (·, result.closes)) := by
  rw [markExitAfterSellFill]
  split
  · next missing =>
      rw [missing]
      rfl
  · next intent found =>
      rw [found]
      rfl

theorem exitSignals_markExit :
    (markExitAfterSellFill tables order result status).exitSignals =
      markedSignals tables.exitSignals
        ((tables.exitIntentByOrderId order.liveSimOrderId).map (·, result.closes)) := by
  rw [markExitAfterSellFill]
  split
  · next missing =>
      rw [missing]
      rfl
  · next intent found =>
      rw [found]
      rfl

theorem find?_markExit_of_ne {id : String} (different : id ≠ order.liveSimOrderId) :
    (markExitAfterSellFill tables order result status).orders.find? id =
      tables.orders.find? id := by
  rw [markExitAfterSellFill]
  split
  · rfl
  · rw [Table.find?_update_of_ne different]

theorem find?_markExit_self {found : LiveSimOrder}
    (present : tables.orders.find? order.liveSimOrderId = some found) :
    (markExitAfterSellFill tables order result status).orders.find? order.liveSimOrderId =
      some (if (tables.exitIntentByOrderId order.liveSimOrderId).isSome then
        setOrderStatus (if result.closes then .exitFilled else status) found else found) := by
  rw [markExitAfterSellFill]
  split
  · next missing => simp [missing, present]
  · next intent isIntent =>
      rw [Table.find?_update_self present, isIntent]
      rfl

theorem sameOrders_recordFill :
    SameOrders tables.orders (recordFill tables order report executions now).orders :=
  sameOrders_update tables.orders order.liveSimOrderId _ (key_filledOrder _ _ _ _ _)
    fun _ => rfl

theorem sameOrders_markExit :
    SameOrders tables.orders (markExitAfterSellFill tables order result status).orders := by
  rw [markExitAfterSellFill]
  split
  · exact ⟨id, by simp, fun _ => rfl⟩
  · exact sameOrders_update tables.orders order.liveSimOrderId _ (key_setOrderStatus _)
      fun _ => rfl

theorem appliesFill {settings : LiveSimSettings}
    (present : tables.orders.find? order.liveSimOrderId = some order)
    (success : applyExecution settings tables order report ids now = .ok (handled, reply)) :
    AppliesFill settings tables handled order report ids now := by
  rw [applyExecution] at success
  split at success
  · cases success
  · next executions recorded =>
      simp only [Checked.bind_eq_ok, Prod.exists] at success
      rcases success with ⟨applied, result, fills, rfl, _⟩
      have here : (recordFill tables order report executions now).orders.find?
          order.liveSimOrderId = some _ := find?_recordFill_self present
      have elsewhere : ∀ id, id ≠ order.liveSimOrderId →
          (recordFill tables order report executions now).orders.find? id =
            tables.orders.find? id := fun id different => find?_recordFill_of_ne different
      cases side : order.side with
      | buy =>
          have never : endsExit tables order report = false := by simp [endsExit, side]
          have unmarked : exitMark tables order report = none := by simp [exitMark, side]
          simp only [applyFill, side, applyBuyFill] at fills
          split at fills
          · next missing =>
              split at fills
              · next positions inserted =>
                  rcases fills with ⟨rfl, _⟩
                  refine ⟨present, recorded, ?_, elsewhere, sameOrders_recordFill, ?_, ?_,
                    .opens side missing inserted⟩
                  · rw [orderAfterFill, statusAfterFill, never]
                    exact here
                  · rw [unmarked]
                    rfl
                  · rw [unmarked]
                    rfl
              · cases fills
          · next position found =>
              rcases fills with ⟨rfl, _⟩
              refine ⟨present, recorded, ?_, elsewhere, sameOrders_recordFill, ?_, ?_,
                .increases position side found⟩
              · rw [orderAfterFill, statusAfterFill, never]
                exact here
              · rw [unmarked]
                rfl
              · rw [unmarked]
                rfl
      | sell =>
          simp only [applyFill, side] at fills
          rcases fills with ⟨rfl, _⟩
          have cases := applySellFill_cases settings
            (recordFill tables order report executions now) order report ids.positionId side
          generalize applySellFill settings (recordFill tables order report executions now) order
            report.positionId report.quantity report.price report.executedAtText = pair at cases
          rcases pair with ⟨sold, result⟩
          rcases cases with ⟨sameOrders, sameExecutions, sameIntents, sameSignals, closes, moves⟩
          have sold_order := here
          rw [← sameOrders] at sold_order
          have intents : sold.exitIntentByOrderId order.liveSimOrderId =
              tables.exitIntentByOrderId order.liveSimOrderId := by
            rw [LiveSimTables.exitIntentByOrderId, sameIntents]
            rfl
          have ends : endsExit tables order report =
              ((tables.exitIntentByOrderId order.liveSimOrderId).isSome && result.closes) := by
            rw [closes, endsExit]
            simp only [side]
            rfl
          have mark : exitMark tables order report =
              (tables.exitIntentByOrderId order.liveSimOrderId).map (·, result.closes) := by
            rw [exitMark, if_pos side, closes]
            rfl
          refine ⟨present, ?_, ?_, ?_, ?_, ?_, ?_, ?_⟩
          · rw [executions_markExit, sameExecutions]
            exact recorded
          · rw [find?_markExit_self sold_order, executions_markExit, sameExecutions, intents,
              orderAfterFill, statusAfterFill, ends]
            cases (tables.exitIntentByOrderId order.liveSimOrderId).isSome <;>
              cases result.closes <;> rfl
          · intro id different
            rw [find?_markExit_of_ne different, sameOrders]
            exact elsewhere id different
          · have recorded_same : SameOrders tables.orders sold.orders :=
              sameOrders ▸ sameOrders_recordFill
            exact recorded_same.trans sameOrders_markExit
          · rw [exitIntents_markExit, intents, sameIntents, mark]
            rfl
          · rw [exitSignals_markExit, intents, sameSignals, mark]
            rfl
          · rw [positions_markExit]
            exact moves

/-! ## Events -/

/-- The order whose status a command event writes, and the status. -/
def commandNotice (host : Host) (tables : LiveSimTables) (kind : CommandEvent)
    (event : GatewayEvent) : Option (LiveSimOrder × LiveSimOrderStatus) := do
  let commandId ← event.commandId
  match tables.orderByCommandId commandId with
  | some order => do
      let status ← (commandStatus host tables order event.payload kind).toOption
      return (order, status)
  | none => do
      let intent ← tables.cancelIntentByCommandId commandId
      let order ← tables.orders.find? intent.liveSimOrderId
      let status ← cancelStatus host event.payload kind
      return (order, status)

/-- The order of a lifecycle event, if its payload can be read. -/
def lifecycleReading (host : Host) (tables : LiveSimTables) (event : GatewayEvent) :
    Checked (Option LiveSimOrder) := do
  let payload := event.payload
  let _ ← (payload.get "metadata").toObject host
  let order ← orderOfLifecycleEvent host tables event
  let _ ← Json.columnText (payload.get "broker_result_code")
  let _ ← Json.columnText ((payload.get "broker_message").orElse (payload.get "message"))
  return order

/-- The order whose status a lifecycle event writes, and the status. -/
def lifecycleNotice (host : Host) (tables : LiveSimTables) (kind : LifecycleEvent)
    (event : GatewayEvent) : Option (LiveSimOrder × LiveSimOrderStatus) :=
  match kind.asCommandEvent, event.commandId.bind tables.cancelIntentByCommandId with
  | some commandEvent, some intent => do
      let order ← tables.orders.find? intent.liveSimOrderId
      let status ← cancelStatus host event.payload commandEvent
      return (order, status)
  | _, _ =>
      match lifecycleReading host tables event with
      | .ok (some order) => some (order, kind.orderStatus)
      | _ => none

def noticeOf (host : Host) (tables : LiveSimTables) (event : GatewayEvent) :
    Option (LiveSimOrder × LiveSimOrderStatus) :=
  match liveSimEventOf event.eventType with
  | .command kind => commandNotice host tables kind event
  | .lifecycle kind => lifecycleNotice host tables kind event
  | .execution | .chejan | .other => none

/-- A new execution that a reading found. -/
def ExecutionReading.fill : Checked ExecutionReading → Option (LiveSimOrder × ExecutionReport)
  | .ok (.fresh order report) => some (order, report)
  | _ => none

theorem fresh_of_fill {reading : Checked ExecutionReading}
    (fill : ExecutionReading.fill reading = some (order, report)) :
    reading = .ok (.fresh order report) := by
  rw [ExecutionReading.fill.eq_def] at fill
  split at fill
  · cases fill
    rfl
  · cases fill

/-- The new execution that an event reports, with its order. -/
def fillOf (host : Host) (settings : LiveSimSettings) (tables : LiveSimTables)
    (event : GatewayEvent) : Option (LiveSimOrder × ExecutionReport) :=
  match liveSimEventOf event.eventType with
  | .execution => ExecutionReading.fill
      (readExecutionEvent host settings tables event.payload event.commandId event.ts)
  | .chejan => ExecutionReading.fill (readChejanEvent host settings tables event)
  | .command _ | .lifecycle _ | .other => none

/-- What one event does: nothing, a new status for one order, or one fill. -/
inductive EventEffect (host : Host) (settings : LiveSimSettings) (tables : LiveSimTables)
    (event : GatewayEvent) (ids : FreshIds) (now : String) : LiveSimTables → Prop
  | nothing : EventEffect host settings tables event ids now tables
  | notice {after : LiveSimTables} (order : LiveSimOrder) (status : LiveSimOrderStatus)
      (noticed : noticeOf host tables event = some (order, status))
      (writes : WritesStatus tables after order status) :
      EventEffect host settings tables event ids now after
  | fill {after : LiveSimTables} (order : LiveSimOrder) (report : ExecutionReport)
      (reported : fillOf host settings tables event = some (order, report))
      (applies : AppliesFill settings tables after order report ids now) :
      EventEffect host settings tables event ids now after

theorem present_of_orderOfExecution {brokerOrderNo commandId : Json}
    (found : orderOfExecution host tables brokerOrderNo commandId = .ok (some order)) :
    tables.orders.find? order.liveSimOrderId = some order := by
  have byCommand : (if commandId.truthy then (do
        let commandId ← requireNonEmptyStr (.str (Json.text host commandId)) "command_id"
        return tables.orderByCommandId commandId)
      else return none) = Except.ok (some order) →
      tables.orders.find? order.liveSimOrderId = some order := by
    intro success
    split at success
    · simp only [Checked.bind_eq_ok, pure, Except.pure, Except.ok.injEq] at success
      rcases success with ⟨command, _, named⟩
      exact LiveSimTables.find?_of_orderByCommandId named
    · cases success
  rw [orderOfExecution] at found
  split at found
  · simp only [Checked.bind_eq_ok, pure, Except.pure, Except.ok.injEq] at found
    rcases found with ⟨number, _, byNumber, rfl, found⟩
    split at found
    · next named =>
        rw [Except.ok.injEq, Option.some.injEq] at found
        subst found
        exact LiveSimTables.find?_of_orderByBrokerOrderNo named
    · exact byCommand found
  · simp only [Checked.bind_eq_ok, pure, Except.pure, Except.ok.injEq] at found
    rcases found with ⟨_, rfl, found⟩
    exact byCommand found

theorem present_of_named {commandId : Option String} {ts : Instant} {named : NamedExecution}
    (name : nameExecution host settings tables payload commandId ts = .ok (.ok named)) :
    tables.orders.find? named.order.liveSimOrderId = some named.order := by
  simp only [nameExecution, Checked.bind_eq_ok] at name
  rcases name with ⟨metadata, _, name⟩
  split at name
  · simp [Checked.bind_eq_ok, pure, Except.pure] at name
  · simp only [Checked.bind_eq_ok] at name
    rcases name with ⟨found, isFound, name⟩
    split at name
    · simp [Checked.bind_eq_ok, pure, Except.pure] at name
    · simp only [pure, Except.pure, Except.ok.injEq] at name
      subst name
      exact present_of_orderOfExecution isFound

theorem present_of_fresh {commandId : Option String} {ts : Instant}
    (read : readExecutionEvent host settings tables payload commandId ts =
      .ok (.fresh order report)) :
    tables.orders.find? order.liveSimOrderId = some order := by
  simp only [readExecutionEvent, Checked.bind_eq_ok] at read
  rcases read with ⟨name, isName, read⟩
  split at read
  · simp [pure, Except.pure] at read
  · simp only [Checked.bind_eq_ok] at read
    rcases read with ⟨applied, _, read⟩
    split at read
    · simp [pure, Except.pure] at read
    · simp only [Checked.bind_eq_ok, pure, Except.pure, Except.ok.injEq,
        ExecutionReading.fresh.injEq] at read
      rcases read with ⟨_, _, rfl, _⟩
      exact present_of_named isName

theorem present_of_fresh_chejan
    (read : readChejanEvent host settings tables event = .ok (.fresh order report)) :
    tables.orders.find? order.liveSimOrderId = some order := by
  rw [readChejanEvent, Checked.bind_eq_ok] at read
  rcases read with ⟨translated, _, read⟩
  cases translated with
  | none => simp [pure, Except.pure] at read
  | some payload => exact present_of_fresh read

theorem effect_of_reading {reading : ExecutionReading}
    (reported : ∀ order report, reading = .fresh order report →
      fillOf host settings tables event = some (order, report) ∧
        tables.orders.find? order.liveSimOrderId = some order)
    (success : applyReading settings tables ids now reading = .ok (handled, reply)) :
    EventEffect host settings tables event ids now handled := by
  cases reading with
  | fresh order report =>
      rcases reported order report rfl with ⟨fills, present⟩
      exact .fill order report fills (appliesFill present success)
  | ignored | observed | duplicate =>
      rcases success with ⟨rfl, _⟩
      exact .nothing

theorem effect_of_command (kindOf : liveSimEventOf event.eventType = .command kind)
    (success : handleCommandEvent host tables kind event now = .ok (handled, reply)) :
    EventEffect host settings tables event ids now handled := by
  have noticed : noticeOf host tables event = commandNotice host tables kind event := by
    rw [noticeOf, kindOf]
  rw [handleCommandEvent] at success
  split at success
  · rcases success with ⟨rfl, _⟩
    exact .nothing
  · next commandId isCommand =>
      split at success
      · next order found =>
          simp only [Checked.bind_eq_ok] at success
          rcases success with ⟨after, success, rfl, _⟩
          rcases writesStatus_command (LiveSimTables.find?_of_orderByCommandId found) success
            with ⟨status, names, writes⟩
          refine .notice order status ?_ writes
          rw [noticed]
          simp [commandNotice, isCommand, found, names, Except.toOption]
      · next missing =>
          split at success
          · next intent found =>
              rcases cancelCommand_cases success with ⟨rfl, _⟩ | ⟨order, status, here, names, writes⟩
              · exact .nothing
              · refine .notice order status ?_ writes
                rw [noticed]
                simp [commandNotice, isCommand, missing, found, here, names]
          · rcases success with ⟨rfl, _⟩
            exact .nothing

theorem present_of_lifecycle (found : orderOfLifecycleEvent host tables event = .ok (some order)) :
    tables.orders.find? order.liveSimOrderId = some order := by
  rw [orderOfLifecycleEvent] at found
  split at found
  · next other named =>
      rw [Except.ok.injEq, Option.some.injEq] at found
      subst found
      rcases Option.bind_eq_some_iff.mp named with ⟨commandId, _, named⟩
      exact LiveSimTables.find?_of_orderByCommandId named
  · dsimp only at found
    split at found
    · simp only [Checked.bind_eq_ok, pure, Except.pure, Except.ok.injEq] at found
      rcases found with ⟨number, _, named⟩
      exact LiveSimTables.find?_of_orderByBrokerOrderNo named
    · cases found

theorem effect_of_lifecycle {kind : LifecycleEvent}
    (kindOf : liveSimEventOf event.eventType = .lifecycle kind)
    (success : handleOrderLifecycleEvent host tables kind event now = .ok (handled, reply)) :
    EventEffect host settings tables event ids now handled := by
  have noticed : noticeOf host tables event = lifecycleNotice host tables kind event := by
    rw [noticeOf, kindOf]
  simp only [handleOrderLifecycleEvent, Checked.bind_eq_ok] at success
  rcases success with ⟨_, isObject, named, isNamed, success⟩
  split at success
  · next commandEvent intent asCommand found =>
      rcases cancelCommand_cases success with ⟨rfl, _⟩ | ⟨order, status, here, names, writes⟩
      · exact .nothing
      · refine .notice order status ?_ writes
        rw [noticed]
        simp [lifecycleNotice, asCommand, found, here, names]
  · next unmatched =>
      cases named with
      | none =>
          simp only [Checked.bind_eq_ok] at success
          rcases success with ⟨_, _, rfl, _⟩
          exact .nothing
      | some order =>
          simp only [Checked.bind_eq_ok] at success
          rcases success with ⟨resultCode, isCode, message, isMessage, rfl, _⟩
          have read : lifecycleReading host tables event = .ok (some order) := by
            simp only [lifecycleReading, isObject, isNamed, isCode, isMessage]
            rfl
          refine .notice order kind.orderStatus ?_
            (LiveSimTables.writesStatus_updateOrder
              (endedOrder kind.orderStatus resultCode message now) (key_endedOrder _ _ _ _)
              (present_of_lifecycle isNamed) rfl rfl rfl rfl (Or.inl rfl) rfl
              ⟨rfl, rfl, rfl, rfl⟩)
          rw [noticed, lifecycleNotice]
          split
          · next commandEvent intent asCommand found =>
              exact (unmatched commandEvent intent asCommand found).elim
          · rw [read]

theorem eventEffect {now : Instant}
    (success : handleLiveSimGatewayEvent host settings tables event ids now =
      .ok (handled, reply)) :
    EventEffect host settings tables event ids (datetimeToWire now) handled := by
  rw [handleLiveSimGatewayEvent] at success
  split at success
  · next kind kindOf => exact effect_of_command kindOf success
  · next kindOf =>
      simp only [Checked.bind_eq_ok] at success
      rcases success with ⟨reading, read, success⟩
      refine effect_of_reading ?_ success
      rintro order report rfl
      refine ⟨?_, present_of_fresh read⟩
      rw [fillOf, kindOf]
      simp only [read, ExecutionReading.fill]
  · next kind kindOf => exact effect_of_lifecycle kindOf success
  · next kindOf =>
      simp only [Checked.bind_eq_ok] at success
      rcases success with ⟨reading, read, success⟩
      refine effect_of_reading ?_ success
      rintro order report rfl
      refine ⟨?_, present_of_fresh_chejan read⟩
      rw [fillOf, kindOf]
      simp only [read, ExecutionReading.fill]
  · rcases success with ⟨rfl, _⟩
    exact .nothing

theorem effect_of_event (host : Host) (settings : LiveSimSettings) (tables : LiveSimTables)
    (event : GatewayEvent) (ids : FreshIds) (now : Instant) :
    EventEffect host settings tables event ids (datetimeToWire now)
      (tablesAfterEvent host settings tables event ids now) := by
  rw [tablesAfterEvent]
  split
  · next success => exact eventEffect success
  · exact .nothing

end SuseokTrader
