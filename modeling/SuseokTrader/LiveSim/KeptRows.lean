import SuseokTrader.LiveSim.AccountLimits

/-!
# What the calls keep of the rows

Purchases keep their side and notional whatever becomes of them. An order gets
the number of the broker from the acknowledgement of its command and from
nowhere else, and a call changes at most one cancel intent.
-/

namespace SuseokTrader

/-! ## Purchases -/

def LaterOrder (old new : LiveSimOrder) : Prop :=
  new.side = old.side ∧ new.notional = old.notional

def LaterIntent (old new : LiveSimIntent) : Prop :=
  new.side = old.side ∧ new.notional = old.notional

theorem laterOrder_trans (first second third : LiveSimOrder) (left : LaterOrder first second)
    (right : LaterOrder second third) : LaterOrder first third :=
  ⟨right.1.trans left.1, right.2.trans left.2⟩

theorem laterIntent_trans (first second third : LiveSimIntent) (left : LaterIntent first second)
    (right : LaterIntent second third) : LaterIntent first third :=
  ⟨right.1.trans left.1, right.2.trans left.2⟩

structure KeepsTerms (before after : LiveSimTables) : Prop where
  orders : Table.Derives LaterOrder before.orders after.orders
  intents : Table.Derives LaterIntent before.intents after.intents

theorem keepsTerms_refl (tables : LiveSimTables) : KeepsTerms tables tables where
  orders := Table.derives_refl (fun _ => ⟨rfl, rfl⟩) _
  intents := Table.derives_refl (fun _ => ⟨rfl, rfl⟩) _

theorem KeepsTerms.trans {first second third : LiveSimTables} (left : KeepsTerms first second)
    (right : KeepsTerms second third) : KeepsTerms first third where
  orders := left.orders.trans laterOrder_trans right.orders
  intents := left.intents.trans laterIntent_trans right.intents

variable {before after tables : LiveSimTables}

theorem KeepsTerms.of_same {middle : LiveSimTables} (keeps : KeepsTerms before middle)
    (orders : after.orders = middle.orders) (intents : after.intents = middle.intents) :
    KeepsTerms before after where
  orders := by
    rw [orders]
    exact keeps.orders
  intents := by
    rw [intents]
    exact keeps.intents

theorem KeepsTerms.updateOrder (keeps : KeepsTerms before tables)
    {change : LiveSimOrder → LiveSimOrder}
    (key : ∀ order, Keyed.key (change order) = Keyed.key order) (id : String)
    (changes : ∀ order, LaterOrder order (change order)) :
    KeepsTerms before (tables.updateOrder id change key) :=
  keeps.trans
    { orders := Table.derives_update (fun _ => ⟨rfl, rfl⟩) changes _ _ key
      intents := Table.derives_refl (fun _ => ⟨rfl, rfl⟩) _ }

theorem KeepsTerms.updateIntent (keeps : KeepsTerms before tables)
    {change : LiveSimIntent → LiveSimIntent}
    (key : ∀ intent, Keyed.key (change intent) = Keyed.key intent) (id : String)
    (changes : ∀ intent, LaterIntent intent (change intent)) :
    KeepsTerms before (tables.updateIntent id change key) :=
  keeps.trans
    { orders := Table.derives_refl (fun _ => ⟨rfl, rfl⟩) _
      intents := Table.derives_update (fun _ => ⟨rfl, rfl⟩) changes _ _ key }

/-! ## Numbers -/

def numberFace (order : LiveSimOrder) : String × Option String :=
  (order.liveSimOrderId, order.brokerOrderNo)

def KeepsNumbers (before after : Table LiveSimOrder) : Prop :=
  ∃ added : List LiveSimOrder, (∀ row ∈ added, row.brokerOrderNo = none) ∧
    after.rows.map numberFace = before.rows.map numberFace ++ added.map numberFace

theorem keepsNumbers_refl (orders : Table LiveSimOrder) : KeepsNumbers orders orders :=
  ⟨[], by simp⟩

theorem KeepsNumbers.trans {first second third : Table LiveSimOrder}
    (left : KeepsNumbers first second) (right : KeepsNumbers second third) :
    KeepsNumbers first third := by
  rcases left with ⟨added, unnumbered, rows⟩
  rcases right with ⟨addedLater, unnumberedLater, rowsLater⟩
  refine ⟨added ++ addedLater, ?_, ?_⟩
  · intro row present
    rcases List.mem_append.mp present with early | late
    · exact unnumbered row early
    · exact unnumberedLater row late
  · rw [rowsLater, rows, List.map_append, List.append_assoc]

theorem keepsNumbers_of_rows {before after : Table LiveSimOrder}
    (change : LiveSimOrder → LiveSimOrder) (rows : after.rows = before.rows.map change)
    (same : ∀ order, numberFace (change order) = numberFace order) :
    KeepsNumbers before after := by
  refine ⟨[], by simp, ?_⟩
  rw [rows, List.map_map, List.map_nil, List.append_nil]
  apply List.map_congr_left
  intro order _
  exact same order

theorem keepsNumbers_update (orders : Table LiveSimOrder) (id : String)
    {change : LiveSimOrder → LiveSimOrder}
    (keeps : ∀ order, Keyed.key (change order) = Keyed.key order)
    (same : ∀ order, (change order).brokerOrderNo = order.brokerOrderNo) :
    KeepsNumbers orders (orders.update id change keeps) := by
  apply keepsNumbers_of_rows (fun order => if Keyed.key order = id then change order else order)
  · simp [Table.update]
  · intro order
    split
    · exact Prod.ext (keeps order) (same order)
    · rfl

theorem keepsNumbers_insert {orders inserted : Table LiveSimOrder} {order : LiveSimOrder}
    (success : insertOrder orders order = some inserted) (unnumbered : order.brokerOrderNo = none) :
    KeepsNumbers orders inserted := by
  refine ⟨[order], by simpa using unnumbered, ?_⟩
  rw [rows_of_insertOrder success, List.map_append]

/-! ## Cancel intents -/

/-- What a call does to the cancel intents. -/
inductive CancelsEffect (before : Table CancelIntent) : Table CancelIntent → Prop
  | same : CancelsEffect before before
  | marks (id : String) (status : CancelIntentStatus) :
      CancelsEffect before (before.update id (setCancelIntentStatus status)
        (key_setCancelIntentStatus status))
  | queues (id commandId : String) :
      CancelsEffect before (before.update id (queuedCancelIntent commandId)
        (key_queuedCancelIntent commandId))
  | creates {after : Table CancelIntent} (order : LiveSimOrder) (reason cancelIntentId : String)
      (inserted : insertCancelIntent before (newCancelIntent order reason cancelIntentId) =
        some after) : CancelsEffect before after

/-! ## The rows together -/

structure KeepsRecords (numbered : Prop) (before after : LiveSimTables) : Prop where
  numbers : numbered → KeepsNumbers before.orders after.orders
  cancels : CancelsEffect before.cancelIntents after.cancelIntents

structure KeepsRows (numbered : Prop) (before after : LiveSimTables) : Prop
    extends KeepsTerms before after, KeepsRecords numbered before after

variable {numbered : Prop}

theorem KeepsRecords.mono {other : Prop} (keeps : KeepsRecords numbered before after)
    (entails : other → numbered) : KeepsRecords other before after where
  numbers := fun holds => keeps.numbers (entails holds)
  cancels := keeps.cancels

theorem KeepsRows.mono {other : Prop} (keeps : KeepsRows numbered before after)
    (entails : other → numbered) : KeepsRows other before after where
  toKeepsTerms := keeps.toKeepsTerms
  toKeepsRecords := keeps.toKeepsRecords.mono entails

theorem keepsRows_refl (tables : LiveSimTables) : KeepsRows numbered tables tables where
  toKeepsTerms := keepsTerms_refl tables
  numbers := fun _ => keepsNumbers_refl _
  cancels := .same

theorem KeepsRows.of_same {middle : LiveSimTables} (keeps : KeepsRows numbered before middle)
    (orders : after.orders = middle.orders) (intents : after.intents = middle.intents)
    (cancels : CancelsEffect before.cancelIntents after.cancelIntents) :
    KeepsRows numbered before after where
  toKeepsTerms := keeps.toKeepsTerms.of_same orders intents
  numbers := by
    rw [orders]
    exact keeps.numbers
  cancels := cancels

theorem KeepsRows.updateOrder (keeps : KeepsRows numbered before tables)
    {change : LiveSimOrder → LiveSimOrder}
    (key : ∀ order, Keyed.key (change order) = Keyed.key order) (id : String)
    (changes : ∀ order, LaterOrder order (change order))
    (same : numbered → ∀ order, (change order).brokerOrderNo = order.brokerOrderNo) :
    KeepsRows numbered before (tables.updateOrder id change key) where
  toKeepsTerms := keeps.toKeepsTerms.updateOrder key id changes
  numbers := fun holds => (keeps.numbers holds).trans (keepsNumbers_update _ id key (same holds))
  cancels := keeps.cancels

theorem KeepsRows.updateIntent (keeps : KeepsRows numbered before tables)
    {change : LiveSimIntent → LiveSimIntent}
    (key : ∀ intent, Keyed.key (change intent) = Keyed.key intent) (id : String)
    (changes : ∀ intent, LaterIntent intent (change intent)) :
    KeepsRows numbered before (tables.updateIntent id change key) where
  toKeepsTerms := keeps.toKeepsTerms.updateIntent key id changes
  numbers := keeps.numbers
  cancels := keeps.cancels

/-! ## Events -/

section Events

variable {host : Host} {settings : LiveSimSettings} {tables handled : LiveSimTables}

def ackOf (host : Host) (tables : LiveSimTables) (event : GatewayEvent) :
    Option (LiveSimOrder × AckDetails) :=
  if liveSimEventOf event.eventType = .command .acked then
    (event.commandId.bind tables.orderByCommandId).bind fun order =>
      (readAck host event.payload).toOption.map fun ack => (order, ack)
  else none

theorem laterIntent_failed (intent : LiveSimIntent) : LaterIntent intent (failedIntent intent) := by
  rw [failedIntent]
  split <;> exact ⟨rfl, rfl⟩

variable {kind : CommandEvent} {now : String} {reply : LifecycleReply} {order : LiveSimOrder}
  {payload : Payload} {event : GatewayEvent}

theorem keepsRows_orderCommand
    (success : handleOrderCommandEvent host tables order kind payload now = .ok handled) :
    KeepsRows (kind ≠ .acked) tables handled := by
  have start : KeepsRows (kind ≠ .acked) tables tables := keepsRows_refl tables
  cases kind with
  | started =>
      cases success
      exact start.updateOrder (key_startedOrder now) _ (fun _ => ⟨rfl, rfl⟩) fun _ _ => rfl
  | acked =>
      simp only [handleOrderCommandEvent, Checked.bind_eq_ok, pure, Except.pure,
        Except.ok.injEq] at success
      rcases success with ⟨ack, _, success⟩
      have acked := start.updateOrder (key_ackedOrder ack now) order.liveSimOrderId
        (fun _ => ⟨rfl, rfl⟩) fun other => absurd rfl other
      split at success
      · subst success
        exact acked.updateIntent key_sentIntent _ fun _ => ⟨rfl, rfl⟩
      · subst success
        exact acked
  | failed =>
      simp only [handleOrderCommandEvent, Checked.bind_eq_ok] at success
      rcases success with ⟨message, _, success⟩
      have ended := start.updateOrder (key_endedOrder .failed none message now)
        order.liveSimOrderId (fun _ => ⟨rfl, rfl⟩) fun _ _ => rfl
      split at success
      · cases success
        exact ended.updateIntent key_failedIntent _ laterIntent_failed
      · rw [markExitIntentByOrderRejected] at success
        split at success
        · cases success
          exact ended
        · simp only [Checked.bind_eq_ok, pure, Except.pure, Except.ok.injEq] at success
          rcases success with ⟨_, _, rfl⟩
          exact ended.of_same rfl rfl .same

theorem keepsRows_cancelCommand {intent : CancelIntent}
    (success : handleCancelCommandEvent host tables intent kind payload now =
      .ok (handled, reply)) : KeepsRows numbered tables handled := by
  have start : KeepsRows numbered tables tables := keepsRows_refl tables
  have marked : ∀ status, KeepsRows numbered tables
      (tables.updateCancelIntent intent.cancelIntentId status) :=
    fun status => start.of_same rfl rfl (.marks _ _)
  rw [handleCancelCommandEvent] at success
  split at success
  · cases success
    exact start
  · cases kind with
    | started =>
        cases success
        exact start
    | acked =>
        simp only [Checked.bind_eq_ok, pure, Except.pure, Except.ok.injEq,
          Prod.mk.injEq] at success
        rcases success with ⟨ack, _, success, _⟩
        split at success
        · subst success
          exact ((marked _).updateOrder (key_endedOrder _ _ _ _) _ (fun _ => ⟨rfl, rfl⟩)
            fun _ _ => rfl).updateIntent (key_setIntentStatus _) _ fun _ => ⟨rfl, rfl⟩
        · subst success
          exact (marked _).updateOrder (key_endedOrder _ _ _ _) _ (fun _ => ⟨rfl, rfl⟩)
            fun _ _ => rfl
    | failed =>
        simp only [Checked.bind_eq_ok] at success
        rcases success with ⟨message, _, rfl, _⟩
        exact (marked _).updateOrder (key_endedOrder _ _ _ _) _ (fun _ => ⟨rfl, rfl⟩)
          fun _ _ => rfl

theorem readAck_of_acked
    (success : handleOrderCommandEvent host tables order .acked payload now = .ok handled) :
    ∃ ack, readAck host payload = .ok ack := by
  simp only [handleOrderCommandEvent, Checked.bind_eq_ok] at success
  rcases success with ⟨ack, read, _⟩
  exact ⟨ack, read⟩

theorem keepsRows_command (kindOf : liveSimEventOf event.eventType = .command kind)
    (success : handleCommandEvent host tables kind event now = .ok (handled, reply)) :
    KeepsRows (ackOf host tables event = none) tables handled := by
  rw [handleCommandEvent] at success
  split at success
  · cases success
    exact keepsRows_refl tables
  · next commandId isCommand =>
      split at success
      · next order named =>
          simp only [Checked.bind_eq_ok] at success
          rcases success with ⟨after, success, rfl, _⟩
          refine (keepsRows_orderCommand success).mono ?_
          rintro unacked rfl
          rcases readAck_of_acked success with ⟨ack, read⟩
          rw [ackOf, if_pos kindOf, isCommand, Option.bind_some, named, read] at unacked
          cases unacked
      · split at success
        · exact keepsRows_cancelCommand success
        · cases success
          exact keepsRows_refl tables

theorem keepsRows_lifecycle {kind : LifecycleEvent}
    (success : handleOrderLifecycleEvent host tables kind event now = .ok (handled, reply)) :
    KeepsRows numbered tables handled := by
  simp only [handleOrderLifecycleEvent, Checked.bind_eq_ok] at success
  rcases success with ⟨_, _, named, _, success⟩
  split at success
  · exact keepsRows_cancelCommand success
  · cases named with
    | none =>
        simp only [Checked.bind_eq_ok] at success
        rcases success with ⟨_, _, rfl, _⟩
        exact keepsRows_refl tables
    | some order =>
        simp only [Checked.bind_eq_ok] at success
        rcases success with ⟨resultCode, _, message, _, rfl, _⟩
        exact (keepsRows_refl tables).updateOrder (key_endedOrder _ _ _ _) _
          (fun _ => ⟨rfl, rfl⟩) fun _ _ => rfl

theorem intents_applyFill {report : ExecutionReport} {ids : FreshIds} {result : PositionResult}
    (success : applyFill settings tables order report ids = .ok (handled, result)) :
    handled.intents = tables.intents ∧ handled.cancelIntents = tables.cancelIntents := by
  rw [applyFill] at success
  split at success
  · rw [applyBuyFill] at success
    split at success
    · split at success
      · cases success
        exact ⟨rfl, rfl⟩
      · cases success
    · cases success
      exact ⟨rfl, rfl⟩
  · simp only [Except.ok.injEq, Prod.mk.injEq] at success
    rw [← success.1, markExitAfterSellFill]
    have sold : (applySellFill settings tables order report.positionId report.quantity
        report.price report.executedAtText).1.intents = tables.intents ∧
        (applySellFill settings tables order report.positionId report.quantity
          report.price report.executedAtText).1.cancelIntents = tables.cancelIntents := by
      rw [applySellFill]
      split
      · exact ⟨rfl, rfl⟩
      · split <;> exact ⟨rfl, rfl⟩
    split <;> exact sold

theorem keepsRows_reading {ids : FreshIds} {reading : ExecutionReading}
    (reported : ∀ order report, reading = .fresh order report →
      tables.orders.find? order.liveSimOrderId = some order)
    (success : applyReading settings tables ids now reading = .ok (handled, reply)) :
    KeepsRows numbered tables handled := by
  cases reading with
  | fresh order report =>
      have applies := appliesFill (reported order report rfl) success
      rcases applies.sameOrders with ⟨change, rows, same⟩
      rw [applyReading, applyExecution] at success
      split at success
      · cases success
      · simp only [Checked.bind_eq_ok, Prod.exists, pure, Except.pure, Except.ok.injEq,
          Prod.mk.injEq] at success
        rcases success with ⟨applied, result, fills, rfl, _⟩
        rcases intents_applyFill fills with ⟨intents, cancelIntents⟩
        refine ⟨⟨?_, ?_⟩, fun _ => ?_, ?_⟩
        · intro row present
          rw [rows] at present
          rcases List.mem_map.mp present with ⟨old, isOld, rfl⟩
          have sameRow := same old
          rw [sameRow]
          exact ⟨old, isOld, rfl, rfl⟩
        · rw [intents]
          exact Table.derives_refl (fun _ => ⟨rfl, rfl⟩) _
        · apply keepsNumbers_of_rows change rows
          intro row
          have sameRow := same row
          rw [sameRow]
          rfl
        · rw [cancelIntents]
          exact .same
  | ignored | observed | duplicate =>
      cases success
      exact keepsRows_refl tables

/-- Whatever an event does, it leaves side and notional alone, and the numbers unless it is an
acknowledgement that can be read. -/
theorem keepsRows_event (host : Host) (settings : LiveSimSettings) (tables : LiveSimTables)
    (event : GatewayEvent) (ids : FreshIds) (now : Instant) :
    KeepsRows (ackOf host tables event = none) tables
      (tablesAfterEvent host settings tables event ids now) := by
  rw [tablesAfterEvent]
  split
  · next handled reply success =>
      rw [handleLiveSimGatewayEvent] at success
      split at success
      · next kindOf => exact keepsRows_command kindOf success
      · simp only [Checked.bind_eq_ok] at success
        rcases success with ⟨reading, read, success⟩
        refine keepsRows_reading ?_ success
        rintro order report rfl
        exact present_of_fresh read
      · exact keepsRows_lifecycle success
      · simp only [Checked.bind_eq_ok] at success
        rcases success with ⟨reading, read, success⟩
        refine keepsRows_reading ?_ success
        rintro order report rfl
        exact present_of_fresh_chejan read
      · cases success
        exact keepsRows_refl tables
  · exact keepsRows_refl tables

end Events

end SuseokTrader
