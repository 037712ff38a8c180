import SuseokTrader.Gateway.Dispatch
import SuseokTrader.LiveSim.Orders
import SuseokTrader.LiveSim.Positions

/-!
# Runs of the simulated trading

All calls on one database: purchases, trades, the sweep of expired commands, and
the gateway store underneath. An order comes from one of two calls only.
-/

namespace SuseokTrader

/-! ## The sweep -/

def commandExpired (gateway : Database) (order : LiveSimOrder) : Bool :=
  order.status = .commandQueued &&
    (order.gatewayCommandId.bind gateway.commands.find?).any fun command =>
      command.commandType = "send_order" && command.status = GatewayCommandStatus.expired.value &&
        command.dispatchedAt.isNone

def expiredOrder (now : String) (order : LiveSimOrder) : LiveSimOrder :=
  { order with
    status := .orderExpired
    remainingQuantity := 0
    brokerMessage := order.brokerMessage.or (some "Gateway command expired before dispatch.")
    lastEventAt := some now }

variable (now : String)

theorem key_expiredOrder (order : LiveSimOrder) :
    Keyed.key (expiredOrder now order) = Keyed.key order :=
  rfl

def expiredIntent (intent : LiveSimIntent) : LiveSimIntent :=
  if intent.status = .commandQueued then
    { intent with status := .expired, brokerOrderSent := false }
  else intent

theorem key_expiredIntent (intent : LiveSimIntent) :
    Keyed.key (expiredIntent intent) = Keyed.key intent := by
  rw [expiredIntent]
  split <;> rfl

def olderOrder (left right : LiveSimOrder) : Ordering :=
  (compare left.createdAt right.createdAt).then
    (compare left.liveSimOrderId right.liveSimOrderId)

def expireOrder (tables : LiveSimTables) (order : LiveSimOrder) : LiveSimTables :=
  (tables.updateOrder order.liveSimOrderId (expiredOrder now) (key_expiredOrder now)).updateIntent
    order.liveSimIntentId expiredIntent key_expiredIntent

def expiredOrders (store : LiveSimStore) (limit : Int) : List LiveSimOrder :=
  ((store.live.orders.rows.filter (commandExpired store.gateway)).insertionSort
    fun left right => (olderOrder left right).isLE).take (min (max limit 1) 500).toNat

def sweepExpiredLiveSimOrderCommands (store : LiveSimStore) (limit : Int) (now : Instant) :
    LiveSimTables :=
  (expiredOrders store limit).foldl (expireOrder (datetimeToWire now)) store.live

/-! ## The system -/

/-- The calls on the database. -/
inductive LiveSimOp where
  | trade (op : TradingOp)
  | createIntent (view : AdmissionView) (suffix : Option String) (intentId : String)
      (now : Instant)
  | queueOrder (liveSimIntentId : String) (readings : BuyReadings)
  | sweep (limit : Int) (now : Instant)
  | gateway (op : StoreOp)

def tablesAfterCreateIntent (settings : LiveSimBuySettings) (tables : LiveSimTables)
    (view : AdmissionView) (suffix : Option String) (intentId : String) (now : Instant) :
    LiveSimTables :=
  match createLiveSimIntent settings tables view suffix intentId now with
  | .ok after => after
  | .error _ => tables

variable (host : LiveSimHost) (settings : LiveSimBuySettings) (store : LiveSimStore)

def liveSimStep :
    LiveSimOp → LiveSimStore
  | .trade op => tradingStep host settings.toLiveSimSettings store op
  | .createIntent view suffix intentId now =>
      { store with
        live := tablesAfterCreateIntent settings store.live view suffix intentId now }
  | .queueOrder liveSimIntentId readings =>
      (queueLiveSimOrderCommand host settings store liveSimIntentId readings).1
  | .sweep limit now => { store with live := sweepExpiredLiveSimOrderCommands store limit now }
  | .gateway op => { store with gateway := (storeStep host.toHost store.gateway op).1 }

def liveSimSystem (host : LiveSimHost) (settings : LiveSimBuySettings) :
    System LiveSimStore LiveSimOp Unit where
  step store op := (liveSimStep host settings store op, ())

theorem next_liveSimSystem (op : LiveSimOp) :
    (liveSimSystem host settings).next store op = liveSimStep host settings store op := by
  rw [System.next, liveSimSystem]

/-! ## Queueing an order -/

/-- What lets an order be queued: the checks pass, the gateway store takes the command, and the
order has a row of its own. -/
structure QueuesOrder (host : LiveSimHost) (settings : LiveSimBuySettings) (store : LiveSimStore)
    (intent : LiveSimIntent) (readings : BuyReadings) : Prop where
  created : intent.status = .created
  unrefused : orderQueueReasons settings store.live intent readings = []
  unblocked : queueBoundaryReasons intent readings = []
  accepted : ∃ result gateway, enqueueOrder host settings.toLiveSimSettings store.gateway intent
    readings.toQueueReadings = .ok (result, gateway) ∧ result.accepted = true
  inserted : (insertOrder store.live.orders (queuedOrder intent readings.toQueueReadings)).isSome

/-- The rows of a queued order. -/
structure WritesOrder (tables after : LiveSimTables) (intent : LiveSimIntent)
    (readings : QueueReadings) : Prop where
  orders : insertOrder tables.orders (queuedOrder intent readings) = some after.orders
  intents : after.intents = tables.intents.update intent.liveSimIntentId
    (queuedIntent readings.commandId) (key_queuedIntent _)
  frame : after = { tables with orders := after.orders, intents := after.intents }

theorem writesOrder {tables after : LiveSimTables} {intent : LiveSimIntent}
    {readings : QueueReadings} (written : writeQueuedOrder tables intent readings = some after) :
    WritesOrder tables after intent readings := by
  rcases Option.bind_eq_some_iff.mp written with ⟨orders, inserted, rows⟩
  rw [Option.pure_def, Option.some.injEq] at rows
  subst rows
  exact ⟨inserted, rfl, rfl⟩

/-- What queueing an order does. -/
inductive OrderQueueEffect (host : LiveSimHost) (settings : LiveSimBuySettings)
    (store : LiveSimStore) (liveSimIntentId : String) (readings : BuyReadings) :
    LiveSimStore → Prop
  | nothing : OrderQueueEffect host settings store liveSimIntentId readings store
  | queues {after : LiveSimStore} (intent : LiveSimIntent)
      (found : store.live.intents.find? liveSimIntentId = some intent)
      (queues : QueuesOrder host settings store intent readings)
      (enqueued : ∃ result, enqueueOrder host settings.toLiveSimSettings store.gateway intent
        readings.toQueueReadings = .ok (result, after.gateway) ∧ result.accepted = true)
      (written : WritesOrder store.live after.live intent readings.toQueueReadings) :
      OrderQueueEffect host settings store liveSimIntentId readings after

theorem submitOrder_cases {host : LiveSimHost} {settings : LiveSimSettings}
    {store after : LiveSimStore} {intent : LiveSimIntent} {readings : QueueReadings}
    (success : submitOrder host settings store intent readings = .ok after) :
    (∃ result, enqueueOrder host settings store.gateway intent readings =
      .ok (result, after.gateway) ∧ result.accepted = true) ∧
    WritesOrder store.live after.live intent readings := by
  rcases Checked.bind_eq_ok.mp success with ⟨⟨result, gateway⟩, enqueued, success⟩
  dsimp only at success
  split at success
  · next accepted =>
      split at success
      · next live written =>
          simp only [pure, Except.pure, Except.ok.injEq] at success
          subst success
          exact ⟨⟨result, enqueued, accepted⟩, writesOrder written⟩
      · cases success
  · cases success

theorem orderQueueEffect (liveSimIntentId : String) (readings : BuyReadings) :
    OrderQueueEffect host settings store liveSimIntentId readings
      (queueLiveSimOrderCommand host settings store liveSimIntentId readings).1 := by
  rw [queueLiveSimOrderCommand]
  split
  · exact .nothing
  · next intent found =>
      split
      · exact .nothing
      · next created =>
          split
          · exact .nothing
          · next unrefused =>
              split
              · exact .nothing
              · next unblocked =>
                  split
                  · next written success =>
                      rcases submitOrder_cases success with
                        ⟨⟨result, enqueued, accepted⟩, writes⟩
                      refine .queues intent found ?_ ⟨result, enqueued, accepted⟩ writes
                      exact ⟨by simpa using created, unrefused, unblocked,
                        ⟨result, written.gateway, enqueued, accepted⟩,
                        Option.isSome_of_eq_some writes.orders⟩
                  · exact .nothing

/-! ## Where orders come from -/

def KeepsOrderIds (before after : Table LiveSimOrder) : Prop :=
  after.rows.map Keyed.key = before.rows.map Keyed.key

theorem KeepsOrderIds.found {before after : Table LiveSimOrder}
    (keeps : KeepsOrderIds before after) {order : LiveSimOrder} (present : order ∈ after.rows) :
    ∃ old, before.find? order.liveSimOrderId = some old := by
  have isKey : order.liveSimOrderId ∈ before.rows.map Keyed.key := by
    rw [← keeps]
    exact List.mem_map_of_mem present
  rcases List.mem_map.mp isKey with ⟨old, isRow, sameId⟩
  exact ⟨old, by rw [← sameId]; exact Table.find?_of_mem isRow⟩

theorem keepsOrderIds_expire (orders : List LiveSimOrder)
    (tables : LiveSimTables) :
    KeepsOrderIds tables.orders (orders.foldl (expireOrder now) tables).orders := by
  induction orders generalizing tables with
  | nil => rfl
  | cons order orders ih =>
      have later := ih (expireOrder now tables order)
      have here : KeepsOrderIds tables.orders (expireOrder now tables order).orders := by
        simp only [KeepsOrderIds, expireOrder, LiveSimTables.updateIntent,
          LiveSimTables.updateOrder, Table.keys_update]
      rw [List.foldl_cons, KeepsOrderIds, later, here]

theorem orders_of_createIntent {settings : LiveSimBuySettings} {tables after : LiveSimTables}
    {view : AdmissionView} {suffix : Option String} {intentId : String} {now : Instant}
    (success : createLiveSimIntent settings tables view suffix intentId now = .ok after) :
    ∃ intents, after = { tables with intents := intents } := by
  rw [createLiveSimIntent] at success
  split at success
  · rw [Except.ok.injEq] at success
    exact ⟨tables.intents, success.symm⟩
  · split at success
    · rcases Checked.bind_eq_ok.mp success with ⟨intent, _, success⟩
      split at success
      · next intents _ =>
          simp only [pure, Except.pure, Except.ok.injEq] at success
          exact ⟨intents, success.symm⟩
      · cases success
    · cases success

/-- The order that a step queues. -/
inductive OrderOrigin (host : LiveSimHost) (settings : LiveSimBuySettings) (store : LiveSimStore) :
    LiveSimOp → Table LiveSimOrder → Prop
  | keeps {op : LiveSimOp} {orders : Table LiveSimOrder}
      (keeps : KeepsOrderIds store.live.orders orders) : OrderOrigin host settings store op orders
  | exits {exitIntentId : String} {readings : QueueReadings} {orders : Table LiveSimOrder}
      (position : LiveSimPosition) (intent : ExitIntent)
      (inserted : insertOrder store.live.orders (exitOrder position intent readings) =
        some orders) :
      OrderOrigin host settings store (.trade (.queueExit exitIntentId readings)) orders
  | buys {liveSimIntentId : String} {readings : BuyReadings} {orders : Table LiveSimOrder}
      (intent : LiveSimIntent) (found : store.live.intents.find? liveSimIntentId = some intent)
      (queues : QueuesOrder host settings store intent readings)
      (inserted : insertOrder store.live.orders (queuedOrder intent readings.toQueueReadings) =
        some orders) :
      OrderOrigin host settings store (.queueOrder liveSimIntentId readings) orders

/-- Orders come from queueing an intent; every other step keeps the orders there are. -/
theorem orderOrigin (op : LiveSimOp) :
    OrderOrigin host settings store op
      ((liveSimSystem host settings).next store op).live.orders := by
  rw [next_liveSimSystem]
  cases op with
  | trade op =>
      cases op with
      | deliver delivery =>
          have effect := effect_of_event host.toHost settings.toLiveSimSettings store.live
            delivery.event delivery.ids delivery.now
          dsimp only [liveSimStep, tradingStep]
          generalize tablesAfterEvent host.toHost settings.toLiveSimSettings store.live
            delivery.event delivery.ids delivery.now = after at effect ⊢
          cases effect with
          | nothing => exact .keeps rfl
          | notice order status noticed writes => exact .keeps writes.keys
          | fill order report reported applies => exact .keeps applies.sameOrders.keys_eq
      | signal positionId trigger exitSignalId createdAt =>
          rcases signalled_frame store.live positionId trigger exitSignalId createdAt
            with ⟨exitSignals, same⟩
          dsimp only [liveSimStep, tradingStep]
          rw [same]
          exact .keeps rfl
      | createExit positionId exitSignalId exitIntentId =>
          dsimp only [liveSimStep, tradingStep, tablesAfterCreateExit]
          split
          · next after success =>
              rcases createsExit success with ⟨position, signal, _, creates⟩
              rw [creates.orders]
              exact .keeps rfl
          · exact .keeps rfl
      | queueExit exitIntentId readings =>
          have effect := exitQueueEffect host settings.toLiveSimSettings store exitIntentId readings
          dsimp only [liveSimStep, tradingStep]
          generalize (queueLiveSimExitOrderCommand host settings.toLiveSimSettings store
            exitIntentId readings).1.live = after at effect ⊢
          cases effect with
          | nothing => exact .keeps rfl
          | rejects intent found => exact .keeps rfl
          | queues intent position found held allowed written =>
              exact .exits position intent (writesExit written).orders
  | createIntent view suffix intentId now =>
      dsimp only [liveSimStep, tablesAfterCreateIntent]
      split
      · next after success =>
          rcases orders_of_createIntent success with ⟨intents, rfl⟩
          exact .keeps rfl
      · exact .keeps rfl
  | queueOrder liveSimIntentId readings =>
      have effect := orderQueueEffect host settings store liveSimIntentId readings
      dsimp only [liveSimStep]
      generalize (queueLiveSimOrderCommand host settings store liveSimIntentId readings).1 = after
        at effect ⊢
      cases effect with
      | nothing => exact .keeps rfl
      | queues intent found queues enqueued written =>
          exact .buys intent found queues written.orders
  | sweep limit now => exact .keeps (keepsOrderIds_expire _ _ _)
  | gateway op => exact .keeps rfl

end SuseokTrader
