import SuseokTrader.LiveSim.Runs

/-!
# The limits of a day

When an order is queued, the checks count the orders of its day and the active
ones, so both stay within their limits. The notional of the day is compared
with its limit when the intent is created, and not again.
-/

namespace SuseokTrader

/-! ## The law -/

def isPurchaseOf (tradeDate : String) (order : LiveSimOrder) : Bool :=
  isConsuming tradeDate order && order.side = .buy

def dailyBuyNotional (tables : LiveSimTables) (tradeDate : String) : Rat :=
  ((tables.orders.rows.filter (isPurchaseOf tradeDate)).map LiveSimOrder.notional).sum

structure WithinLimits (settings : LiveSimSettings) (tables : LiveSimTables) (tradeDate : String) :
    Prop where
  count : (tables.dailyOrderCount tradeDate : Int) ≤ settings.maxDailyOrderCount
  notional : dailyBuyNotional tables tradeDate ≤ settings.maxDailyNotional
  active : (tables.activeOrderCount : Int) ≤ settings.maxActiveOrders

variable (host : LiveSimHost) (settings : LiveSimBuySettings) (store : LiveSimStore)

/-- A BUY order that the step queues is within the limits of its day. -/
def QueuesWithinLimits (op : LiveSimOp) : Prop :=
  ∀ order ∈ ((liveSimSystem host settings).next store op).live.orders.rows,
    order.side = .buy → store.live.orders.find? order.liveSimOrderId = none →
    WithinLimits settings.toLiveSimSettings ((liveSimSystem host settings).next store op).live
      order.tradeDate

/-- The purchases of the day leave room for the notional of an order that is queued. -/
def NotionalFits :
    LiveSimOp → Prop
  | .queueOrder liveSimIntentId readings =>
      ∀ intent ∈ store.live.intents.find? liveSimIntentId, intent.side = .buy →
        QueuesOrder host settings store intent readings →
        dailyBuyNotional store.live intent.tradeDate + intent.notional ≤ settings.maxDailyNotional
  | .trade _ | .createIntent .. | .sweep .. | .gateway _ => True

/-! ## An order that is queued -/

variable {intent : LiveSimIntent} {tables after : LiveSimTables} {readings : QueueReadings}

theorem orders_of_queuesOrder {host : LiveSimHost} {settings : LiveSimBuySettings}
    {store : LiveSimStore} {liveSimIntentId : String} {readings : BuyReadings}
    (found : store.live.intents.find? liveSimIntentId = some intent)
    (queues : QueuesOrder host settings store intent readings) :
    insertOrder store.live.orders (queuedOrder intent readings.toQueueReadings) = some
      (queueLiveSimOrderCommand host settings store liveSimIntentId readings).1.live.orders := by
  rcases queues.accepted with ⟨result, gateway, enqueued, accepted⟩
  rcases Option.isSome_iff_exists.mp queues.inserted with ⟨orders, inserted⟩
  have submitted : submitOrder host settings.toLiveSimSettings store intent
      readings.toQueueReadings = .ok { gateway := gateway, live := { store.live with
        orders := orders
        intents := store.live.intents.update intent.liveSimIntentId
          (queuedIntent readings.commandId) (key_queuedIntent _) } } := by
    rw [submitOrder, enqueued]
    simp only [bind, Except.bind, accepted, writeQueuedOrder, inserted]
    rfl
  rw [inserted, queueLiveSimOrderCommand, found]
  simp only [queues.created, ne_eq, not_true_eq_false, if_false, queues.unrefused,
    queues.unblocked, submitted]

theorem isPurchaseOf_queuedOrder (buys : intent.side = .buy) (readings : QueueReadings) :
    isPurchaseOf intent.tradeDate (queuedOrder intent readings) = true := by
  simp [isPurchaseOf, isConsuming, queuedOrder, buys, LiveSimOrderStatus.isNonConsuming]

theorem dailyBuyNotional_of_insert (buys : intent.side = .buy)
    (inserted : insertOrder tables.orders (queuedOrder intent readings) = some after.orders) :
    dailyBuyNotional after intent.tradeDate =
      dailyBuyNotional tables intent.tradeDate + intent.notional := by
  have isPurchase := isPurchaseOf_queuedOrder buys readings
  have rows := rows_of_insertOrder inserted
  rw [dailyBuyNotional, dailyBuyNotional, rows, List.filter_append, List.filter_cons_of_pos
    isPurchase]
  simp [queuedOrder]

theorem dailyOrderCount_of_insert (buys : intent.side = .buy)
    (inserted : insertOrder tables.orders (queuedOrder intent readings) = some after.orders) :
    after.dailyOrderCount intent.tradeDate = tables.dailyOrderCount intent.tradeDate + 1 := by
  have counts : ∀ tables : LiveSimTables, tables.dailyOrderCount intent.tradeDate =
      tables.orders.rows.countP (isPurchaseOf intent.tradeDate) := fun _ => rfl
  rw [counts, counts, rows_of_insertOrder inserted, List.countP_append,
    List.countP_cons_of_pos (isPurchaseOf_queuedOrder buys readings), List.countP_nil]

theorem activeOrderCount_of_insert
    (inserted : insertOrder tables.orders (queuedOrder intent readings) = some after.orders) :
    after.activeOrderCount = tables.activeOrderCount + 1 := by
  rw [LiveSimTables.activeOrderCount, rows_of_insertOrder inserted, List.countP_append]
  rfl

theorem room_of_orderQueueReasons {settings : LiveSimBuySettings} {readings : BuyReadings}
    (unrefused : orderQueueReasons settings tables intent readings = []) :
    (tables.dailyOrderCount intent.tradeDate : Int) < settings.maxDailyOrderCount ∧
      (tables.activeOrderCount : Int) < settings.maxActiveOrders := by
  have daily := check_of_mergeReasons_eq_nil unrefused
    (dailyOrderLimitExceeded settings.toLiveSimSettings tables intent.tradeDate)
    "DAILY_ORDER_LIMIT_EXCEEDED" (by simp) (by decide +kernel)
  have active := check_of_mergeReasons_eq_nil unrefused
    (decide (settings.maxActiveOrders ≤ tables.activeOrderCount))
    "ACTIVE_ORDER_LIMIT_EXCEEDED" (by simp) (by decide +kernel)
  rw [dailyOrderLimitExceeded, decide_eq_false_iff_not] at daily
  rw [decide_eq_false_iff_not] at active
  exact ⟨by omega, by omega⟩

/-! ## The law along runs -/

/-- The step lemma: the law asks of a step what its condition says, and no more. -/
theorem queuesWithinLimits_iff (host : LiveSimHost) (settings : LiveSimBuySettings)
    (store : LiveSimStore) (op : LiveSimOp) :
    QueuesWithinLimits host settings store op ↔ NotionalFits host settings store op := by
  constructor
  · intro within
    cases op with
    | queueOrder liveSimIntentId readings =>
        intro intent found buys queues
        have inserted := orders_of_queuesOrder found queues
        have rows := rows_of_insertOrder inserted
        rw [QueuesWithinLimits, next_liveSimSystem] at within
        dsimp only [liveSimStep] at within
        have isFresh : store.live.orders.find? readings.orderId = none := by
          rw [insertOrder] at inserted
          split at inserted
          · cases inserted
          · exact Table.insert?_isSome_iff.mp (Option.isSome_of_eq_some inserted)
        have limits := within (queuedOrder intent readings.toQueueReadings) (by simp [rows]) buys
          isFresh
        have notional := limits.notional
        rw [← dailyBuyNotional_of_insert buys inserted]
        exact notional
    | trade op => trivial
    | createIntent view suffix intentId now => trivial
    | sweep limit now => trivial
    | gateway op => trivial
  · intro fits order present buys isNew
    have origin := orderOrigin host settings store op
    generalize isNext : (liveSimSystem host settings).next store op = next at present origin ⊢
    generalize isOrders : next.live.orders = orders at present origin
    cases origin with
    | keeps keeps =>
        rcases keeps.found present with ⟨old, found⟩
        rw [isNew] at found
        cases found
    | exits position intent inserted =>
        rw [rows_of_insertOrder inserted, List.mem_append, List.mem_singleton] at present
        rcases present with before | rfl
        · have found : store.live.orders.find? order.liveSimOrderId = some order :=
            Table.find?_of_mem before
          rw [isNew] at found
          cases found
        · cases buys
    | buys intent found queues inserted =>
        rw [rows_of_insertOrder inserted, List.mem_append, List.mem_singleton] at present
        rcases present with before | rfl
        · have found : store.live.orders.find? order.liveSimOrderId = some order :=
            Table.find?_of_mem before
          rw [isNew] at found
          cases found
        · rw [← isOrders] at inserted
          have room := room_of_orderQueueReasons queues.unrefused
          have count := dailyOrderCount_of_insert buys inserted
          have active := activeOrderCount_of_insert inserted
          have notional := dailyBuyNotional_of_insert buys inserted
          have enough := fits intent found buys queues
          have limits : WithinLimits settings.toLiveSimSettings next.live intent.tradeDate := by
            refine ⟨?_, ?_, ?_⟩
            · omega
            · rw [notional]
              exact enough
            · omega
          exact limits

/-- Every purchase of a run is queued within the limits exactly when each one's notional fits. -/
theorem purchases_within_limits (ops : List LiveSimOp) :
    (liveSimSystem host settings).Along (QueuesWithinLimits host settings) store ops ↔
      (liveSimSystem host settings).Along (NotionalFits host settings) store ops := by
  constructor
  · exact System.Along.mono fun store op => (queuesWithinLimits_iff host settings store op).mp
  · exact System.Along.mono fun store op => (queuesWithinLimits_iff host settings store op).mpr

/-! ## Two intents before the first is queued -/

def sampleBuySettings : LiveSimBuySettings :=
  { sampleLiveSimSettings with
    maxOrderNotional := 600000
    buyPriceOffsetTicks := 0
    defaultOrderType := .limit
    allowBuy := true
    allowSell := false
    allowMarketOrder := false
    allowLimitOrder := true
    duplicateCooldownSec := 60
    positionAllowScaleIn := false
    maxActivePositions := 5 }

/-- A candidate at a price of a thousand. -/
def admittedCandidate (candidateId code : String) : AdmissionView where
  candidateInstanceId := candidateId
  candidate := some ("2026-07-17", code, "sample")
  strategyObservationId := some "strategy-1"
  riskObservationId := some "risk-1"
  price := some 1000
  dryRunIntentId := none
  dryRunOrderId := none
  dryRunNotional := none
  reasons := []
  gateReasons := []
  reconcileBlocks := false
  lifecycleErrors := false
  marketToday := "2026-07-17"

def buyReadings (command : String) : BuyReadings where
  commandId := command
  orderId := "order-" ++ command
  gateReasons := []
  commandTs := 63900000003000000
  enqueuedAt := 63900000003000000
  queuedAt := 63900000003000000
  reconcileBlocks := false
  boundaryReasons := []

def createsIntent (candidateId code intentId : String) : LiveSimOp :=
  .createIntent (admittedCandidate candidateId code) none intentId 63900000002000000

def emptyStore : LiveSimStore where
  gateway := freshStore
  live := .empty

/-- Each intent passes the check on the notional of a day that has no order yet. -/
def intentsBeforeOrders : List LiveSimOp :=
  [createsIntent "candidate-1" "005930" "intent-1",
    createsIntent "candidate-2" "000660" "intent-2",
    .queueOrder "intent-1" (buyReadings "command-1"),
    .queueOrder "intent-2" (buyReadings "command-2")]

def firstOrderQueued : LiveSimStore :=
  (liveSimSystem sampleLiveSimHost sampleBuySettings).run emptyStore (intentsBeforeOrders.take 3)

def bothOrdersQueued : LiveSimStore :=
  (liveSimSystem sampleLiveSimHost sampleBuySettings).next firstOrderQueued
    (.queueOrder "intent-2" (buyReadings "command-2"))

theorem bothOrdersQueued_orders :
    bothOrdersQueued.live.orders.rows.map
        (fun order => (order.liveSimOrderId, order.side, order.tradeDate)) =
      [("order-command-1", .buy, "2026-07-17"), ("order-command-2", .buy, "2026-07-17")] := by
  decide +kernel

theorem bothOrdersQueued_notional :
    (firstOrderQueued.live.orders.find? "order-command-2").isNone ∧
      dailyBuyNotional bothOrdersQueued.live "2026-07-17" = 1200000 := by
  decide +kernel

/-- Two intents of 600000 each are queued on a day with a limit of a million. -/
theorem notional_exceeds_limit :
    ¬ (liveSimSystem sampleLiveSimHost sampleBuySettings).Along
      (QueuesWithinLimits sampleLiveSimHost sampleBuySettings) emptyStore intentsBeforeOrders := by
  intro along
  have split : intentsBeforeOrders = intentsBeforeOrders.take 3 ++
      [.queueOrder "intent-2" (buyReadings "command-2")] := rfl
  rw [split, System.along_append, System.along_cons] at along
  have within := along.2.1
  have orders := bothOrdersQueued_orders
  rcases bothOrdersQueued_notional with ⟨isNew, notional⟩
  rw [QueuesWithinLimits, ← firstOrderQueued, ← bothOrdersQueued] at within
  generalize bothOrdersQueued = queued at within orders notional
  rcases List.map_eq_cons_iff.mp orders with ⟨first, rest, isRows, _, orders⟩
  rcases List.map_eq_cons_iff.mp orders with ⟨second, rest, rfl, isSecond, _⟩
  simp only [Prod.mk.injEq] at isSecond
  rcases isSecond with ⟨isId, buys, isDate⟩
  have limits := within second (by simp [isRows]) buys (by
    rw [isId]
    exact Option.isNone_iff_eq_none.mp isNew)
  have bounded := limits.notional
  rw [isDate, notional] at bounded
  exact absurd bounded (by decide +kernel)

end SuseokTrader
