import SuseokTrader.LiveSim.AccountRuns

/-!
# Cancelling again

The key of a cancel intent is made of its order and its reason. The row of a
refused cancellation keeps the key, and the order that the broker still holds
gets a status that no longer counts as active.
-/

namespace SuseokTrader

/-! ## The law -/

def cancelKey (orderId reason : String) : String :=
  "live_sim_cancel:" ++ orderId ++ ":" ++ reason

def IsIntegrityError (failure : Failure) : Prop :=
  ∃ text, failure = .crash ("UNIQUE constraint failed: " ++ text)

/-- The order counts as active, and a new cancel intent can be created for it and queued without
an integrity error. -/
def CanCancelAgain (host : LiveSimHost) (settings : LiveSimSettings) (store : LiveSimStore)
    (order : LiveSimOrder) (reason : String) : Prop :=
  order.status.isActive = true ∧
    ∃ cancelIntentId now after,
      createLiveSimCancelIntent store.live order.liveSimOrderId reason cancelIntentId now =
        .ok after ∧
      ∀ readings failure, (queueLiveSimCancelCommand host settings { store with live := after }
        cancelIntentId readings).2 = .error failure → ¬ IsIntegrityError failure

/-- A cancellation of the order was asked for with the reason and was refused, and none is on its
way. -/
def CancelRefused (tables : LiveSimTables) (order : LiveSimOrder) (reason : String) : Prop :=
  (∃ intent ∈ tables.cancelIntents.rows, intent.liveSimOrderId = order.liveSimOrderId ∧
    intent.reason = Text.upper reason ∧ intent.status = .rejected) ∧
    tables.activeCancelForOrder order.liveSimOrderId = false

/-! ## The keys of the rows -/

def KeyedCancels (cancelIntents : Table CancelIntent) : Prop :=
  ∀ intent ∈ cancelIntents.rows,
    intent.idempotencyKey = cancelKey intent.liveSimOrderId intent.reason

variable {cancelIntents : Table CancelIntent}

theorem keyedCancels_update (keyed : KeyedCancels cancelIntents) (id : String)
    {change : CancelIntent → CancelIntent}
    (keeps : ∀ intent, Keyed.key (change intent) = Keyed.key intent)
    (same : ∀ intent, (change intent).idempotencyKey = intent.idempotencyKey ∧
      (change intent).liveSimOrderId = intent.liveSimOrderId ∧
      (change intent).reason = intent.reason) :
    KeyedCancels (cancelIntents.update id change keeps) := by
  intro row isRow
  rcases List.mem_map.mp isRow with ⟨before, isBefore, rfl⟩
  have isKeyed := keyed before isBefore
  split
  · rcases same before with ⟨key, order, reason⟩
    rw [key, order, reason, isKeyed]
  · exact isKeyed

theorem rows_of_insertCancelIntent {inserted : Table CancelIntent} {intent : CancelIntent}
    (success : insertCancelIntent cancelIntents intent = some inserted) :
    inserted.rows = cancelIntents.rows ++ [intent] := by
  rw [insertCancelIntent] at success
  split at success
  · cases success
  · exact Table.rows_of_insert? success

theorem KeyedCancels.of_effect {before after : Table CancelIntent} (keyed : KeyedCancels before)
    (effect : CancelsEffect before after) : KeyedCancels after := by
  cases effect with
  | same => exact keyed
  | marks id status => exact keyedCancels_update keyed id _ fun _ => ⟨rfl, rfl, rfl⟩
  | queues id commandId => exact keyedCancels_update keyed id _ fun _ => ⟨rfl, rfl, rfl⟩
  | creates order reason cancelIntentId inserted =>
      intro row isRow
      rw [rows_of_insertCancelIntent inserted, List.mem_append, List.mem_singleton] at isRow
      rcases isRow with before | rfl
      · exact keyed row before
      · rfl

theorem keyedCancels_step (host : LiveSimHost) (settings : LiveSimBuySettings)
    (store : LiveSimStore) (op : AccountOp) (keyed : KeyedCancels store.live.cancelIntents) :
    KeyedCancels ((accountSystem host settings).next store op).live.cancelIntents :=
  keyed.of_effect (accountEffect_records host settings store op).2.cancels

/-! ## A second cancellation -/

theorem insertCancelIntent_eq_none (keyed : KeyedCancels cancelIntents) {order : LiveSimOrder}
    {reason : String}
    (refused : ∃ intent ∈ cancelIntents.rows, intent.liveSimOrderId = order.liveSimOrderId ∧
      intent.reason = Text.upper reason) (cancelIntentId : String) :
    insertCancelIntent cancelIntents (newCancelIntent order reason cancelIntentId) = none := by
  rcases refused with ⟨intent, held, sameOrder, sameReason⟩
  have sameKey : intent.idempotencyKey =
      (newCancelIntent order reason cancelIntentId).idempotencyKey := by
    rw [keyed intent held, sameOrder, sameReason]
    rfl
  rw [insertCancelIntent, if_pos]
  apply List.any_eq_true.mpr
  exact ⟨intent, held, decide_eq_true sameKey⟩

/-- In every run the second cancellation of an order for the same reason ends in an integrity
error, whatever became of the first. -/
theorem refused_cancel_never_retried (host : LiveSimHost) (settings : LiveSimBuySettings)
    (store : LiveSimStore) (start : store.live.cancelIntents = .empty) (ops : List AccountOp)
    (order : LiveSimOrder) (reason : String) :
    let reached := (accountSystem host settings).run store ops
    order ∈ reached.live.orders.rows → 0 < order.remainingQuantity →
      CancelRefused reached.live order reason →
      ¬ CanCancelAgain host settings.toLiveSimSettings reached order reason ∧
        ∀ cancelIntentId now,
          createLiveSimCancelIntent reached.live order.liveSimOrderId reason cancelIntentId now =
            .error (.crash "UNIQUE constraint failed: live_sim_cancel_intents") := by
  intro reached held remaining refused
  have keyed : KeyedCancels reached.live.cancelIntents := by
    refine System.run_invariant
      (fun store : LiveSimStore => KeyedCancels store.live.cancelIntents) ?_ ?_ ops
    · intro store op keyed
      exact keyedCancels_step host settings store op keyed
    · rw [start]
      rintro intent ⟨⟩
  have crashes : ∀ cancelIntentId now,
      createLiveSimCancelIntent reached.live order.liveSimOrderId reason cancelIntentId now =
        .error (.crash "UNIQUE constraint failed: live_sim_cancel_intents") := by
    intro cancelIntentId now
    have found : reached.live.orders.find? order.liveSimOrderId = some order :=
      Table.find?_of_mem held
    rcases refused with ⟨⟨intent, isIntent, sameOrder, sameReason, _⟩, inactive⟩
    rw [createLiveSimCancelIntent, found]
    dsimp only
    rw [if_neg (Bool.not_eq_true _ ▸ inactive), if_neg (not_le.mpr remaining),
      insertCancelIntent_eq_none keyed ⟨intent, isIntent, sameOrder, sameReason⟩]
  refine ⟨?_, crashes⟩
  rintro ⟨_, cancelIntentId, now, after, created, _⟩
  rw [crashes cancelIntentId now] at created
  cases created

/-! ## A refusal of the broker -/

def ackedBuy : LiveSimOrder :=
  { dispatchedBuy with status := .brokerAcked }

def oneAcked : LiveSimStore where
  gateway := freshStore
  live := tablesOfOrders [ackedBuy] (by decide)

def cancelReadings : QueueReadings :=
  { (buyReadings "cancel-command-1").toQueueReadings with
    commandTs := 63919846800000000
    enqueuedAt := 63919846800000000
    queuedAt := 63919846800000000 }

def refusedAck : Delivery :=
  deliveredAt
    { commandEventOf "event-1" "command_ack" [("details", .obj [("accepted", .bool false)])]
        (by decide +kernel) with
      commandId := some "cancel-command-1", commandId_stripped := by decide +kernel } "1"

/-- The cancellation is queued and the broker refuses it. -/
def refusedByBroker : List AccountOp :=
  [.createCancel "order-1" "TTL_EXPIRED" "cancel-1" 63919846800000000,
    .queueCancel "cancel-1" cancelReadings, .live (.trade (.deliver refusedAck))]

theorem refusedByBroker_rows :
    let reached := (accountSystem sampleLiveSimHost sampleBuySettings).run oneAcked refusedByBroker
    ∃ order ∈ reached.live.orders.rows, 0 < order.remainingQuantity ∧
      ((∃ intent ∈ reached.live.cancelIntents.rows,
        intent.liveSimOrderId = order.liveSimOrderId ∧
        intent.reason = Text.upper "TTL_EXPIRED" ∧ intent.status = .rejected) ∧
        reached.live.activeCancelForOrder order.liveSimOrderId = false) ∧
      order.status = .cancelRejected := by
  decide +kernel

/-- The broker refuses to cancel what is left of the order, which then cannot be cancelled. -/
theorem cancel_of_refused_order :
    ¬ ∀ order reason,
      let reached := (accountSystem sampleLiveSimHost sampleBuySettings).run oneAcked
        refusedByBroker
      order ∈ reached.live.orders.rows → 0 < order.remainingQuantity →
        CancelRefused reached.live order reason →
        CanCancelAgain sampleLiveSimHost sampleLiveSimSettings reached order reason := by
  intro law
  rcases refusedByBroker_rows with ⟨order, held, remaining, refused, rejected⟩
  rcases law order "TTL_EXPIRED" held remaining refused with ⟨active, _⟩
  rw [rejected] at active
  cases active

/-- The same run has no second cancellation. -/
theorem refused_cancel_crashes :
    let reached := (accountSystem sampleLiveSimHost sampleBuySettings).run oneAcked refusedByBroker
    ∃ order ∈ reached.live.orders.rows, ∀ cancelIntentId now,
      createLiveSimCancelIntent reached.live order.liveSimOrderId "TTL_EXPIRED" cancelIntentId
        now = .error (.crash "UNIQUE constraint failed: live_sim_cancel_intents") := by
  rcases refusedByBroker_rows with ⟨order, held, remaining, refused, _⟩
  exact ⟨order, held, (refused_cancel_never_retried sampleLiveSimHost sampleBuySettings oneAcked rfl
    refusedByBroker order "TTL_EXPIRED" held remaining refused).2⟩

end SuseokTrader
