import SuseokTrader.Lib.Counting
import SuseokTrader.LiveSim.Cancels
import SuseokTrader.LiveSim.OrderLimits

/-!
# What the account limits count

The eligibility of a purchase, the risk gate and the safety gate each ask the
tables how many positions are active, what the total exposure is and what was
ordered on a day. Every one of them has its queries, over the positions, the
orders and their statuses.
-/

namespace SuseokTrader

/-! ## The queries -/

namespace LiveSimTables

variable (tables : LiveSimTables)

/-- `_open_position_count_for_code`: the rows that speak for the code, by their identifiers. -/
def openPositionCountForCode (code : String) : Nat :=
  ((tables.positions.rows.filter fun position => position.code = code && isHeld position).map
      LiveSimPosition.positionId ++
    (tables.orders.rows.filter fun order => order.code = code && hasBought order).map
      LiveSimOrder.liveSimOrderId).eraseDups.length

/-- `_daily_live_sim_order_count` of the safety gate. -/
def dailyLiveSimOrderCount (tradeDate : String) (side : LiveSimSide) :
    Nat :=
  tables.orders.rows.countP fun order => isConsuming tradeDate order && order.side = side

/-- `_live_sim_active_position_count` of the risk gate is the same query again. -/
def liveSimActivePositionCount : Nat :=
  tables.activePositionCount

/-- `_live_sim_open_position_count_for_code` of the risk gate, too. -/
def liveSimOpenPositionCountForCode (code : String) : Nat :=
  tables.openPositionCountForCode code

def positionTotal : Rat :=
  ((tables.positions.rows.filter isHeld).map LiveSimPosition.totalEntryNotional).sum

def filledOrderTotal : Rat :=
  ((tables.orders.rows.filter hasBought).map LiveSimOrder.notional).sum

def liveSimTotalExposure : Rat :=
  tables.positionTotal + tables.filledOrderTotal

end LiveSimTables

structure AccountLimitEvidence where
  dailyOrderCount : Nat
  dailyNotional : Rat
  activeOrderCount : Nat
  activePositionCount : Nat
  codeOpenPositionCount : Nat
  currentTotalExposure : Rat

variable (tables : LiveSimTables)

/-- The daily queries of the risk gate do not look at the side of an order. -/
def liveSimAccountLimitEvidence (tradeDate code : String) :
    AccountLimitEvidence where
  dailyOrderCount := tables.orders.rows.countP (isConsuming tradeDate)
  dailyNotional :=
    ((tables.orders.rows.filter (isConsuming tradeDate)).map LiveSimOrder.notional).sum
  activeOrderCount := tables.activeOrderCount
  activePositionCount := tables.liveSimActivePositionCount
  codeOpenPositionCount := tables.liveSimOpenPositionCountForCode code
  currentTotalExposure := tables.liveSimTotalExposure

/-! ## The system -/

/-- The calls on the database, cancellations among them. -/
inductive AccountOp where
  | live (op : LiveSimOp)
  | createCancel (orderId reason cancelIntentId : String) (now : Instant)
  | queueCancel (cancelIntentId : String) (readings : QueueReadings)

def tablesAfterCreateCancel (orderId reason cancelIntentId : String)
    (now : Instant) : LiveSimTables :=
  match createLiveSimCancelIntent tables orderId reason cancelIntentId now with
  | .ok after => after
  | .error _ => tables

variable (host : LiveSimHost) (settings : LiveSimBuySettings) (store : LiveSimStore)

def accountStep :
    AccountOp → LiveSimStore
  | .live op => liveSimStep host settings store op
  | .createCancel orderId reason cancelIntentId now =>
      { store with live := tablesAfterCreateCancel store.live orderId reason cancelIntentId now }
  | .queueCancel cancelIntentId readings =>
      (queueLiveSimCancelCommand host settings.toLiveSimSettings store cancelIntentId readings).1

def accountSystem :
    System LiveSimStore AccountOp Unit :=
  .ofStep (accountStep host settings)

/-! ## The law -/

def netShares (code : String) (execution : LiveSimExecution) : Int :=
  if execution.code = code then
    match execution.side with
    | .buy => execution.quantity
    | .sell => -execution.quantity
  else 0

def netHolding (code : String) : Int :=
  tables.executions.total (netShares code)

def heldCodes : List String :=
  ((tables.executions.rows.map LiveSimExecution.code).filter
    fun code => 0 < netHolding tables code).eraseDups

def purchasesOf (tradeDate : String) : List LiveSimOrder :=
  tables.orders.rows.filter (isPurchaseOf tradeDate)

/-- The active positions are the codes held. -/
def CountsHeldCodes : Prop :=
  tables.activePositionCount = (heldCodes tables).length ∧
    tables.liveSimActivePositionCount = (heldCodes tables).length

/-- A code has an open position if and only if it is held. -/
def OpensHeldCodes : Prop :=
  ∀ code, (0 < tables.openPositionCountForCode code ↔ 0 < netHolding tables code) ∧
    (0 < tables.liveSimOpenPositionCountForCode code ↔ 0 < netHolding tables code)

/-- The cost of the shares held: a fill adds its cost to one position (`heldNotional_of_buy`). -/
def heldNotional : Rat :=
  ((tables.positions.rows.filter isHeld).map LiveSimPosition.totalEntryNotional).sum

/-- Every filled amount enters the total exposure once. -/
def CountsFillsOnce : Prop :=
  tables.liveSimTotalExposure = heldNotional tables

/-- The three gates look at the purchases of the day. -/
def CountsPurchases : Prop :=
  ∀ tradeDate code,
    let evidence := liveSimAccountLimitEvidence tables tradeDate code
    let purchases := purchasesOf tables tradeDate
    evidence.dailyOrderCount = purchases.length ∧
      tables.dailyOrderCount tradeDate = purchases.length ∧
      tables.dailyLiveSimOrderCount tradeDate .buy = purchases.length ∧
      evidence.dailyNotional = (purchases.map LiveSimOrder.notional).sum ∧
      tables.dailyOrderNotional tradeDate = (purchases.map LiveSimOrder.notional).sum

/-- The bookkeeping of the account limits follows the holdings. -/
structure LimitsFollowHoldings (tables : LiveSimTables) : Prop where
  activePositions : CountsHeldCodes tables
  openPositions : OpensHeldCodes tables
  exposure : CountsFillsOnce tables
  daily : CountsPurchases tables

/-! ## The conditions -/

def isSaleOf (tradeDate : String) (order : LiveSimOrder) : Bool :=
  isConsuming tradeDate order && order.side = .sell

/-- When each part of the law holds. -/
structure HoldsWhen (tables : LiveSimTables) : Prop where
  activePositions : CountsHeldCodes tables ↔
    ∀ order ∈ tables.orders.rows, hasBought order → 0 < netHolding tables order.code
  openPositions : OpensHeldCodes tables ↔
    ∀ order ∈ tables.orders.rows, hasBought order → 0 < netHolding tables order.code
  exposure : CountsFillsOnce tables ↔ ∀ order ∈ tables.orders.rows, hasBought order = false
  daily : CountsPurchases tables ↔
    ∀ order ∈ tables.orders.rows, ∀ tradeDate, isSaleOf tradeDate order = false

def takesFill (order : LiveSimOrder) (report : ExecutionReport)
    (ids : FreshIds) : Bool :=
  (insertExecution tables.executions (report.row order ids.executionId)).isSome &&
    ((positionByAccountCode tables.positions order.accountId order.code false).isSome ||
      (tables.positions.find? ids.positionId).isNone)

/-- The step applies no new execution of a BUY order. -/
def BuysNoShares :
    AccountOp → Prop
  | .live (.trade (.deliver delivery)) =>
      ∀ fill ∈ fillOf host.toHost settings.toLiveSimSettings store.live delivery.event,
        takesFill store.live fill.1 fill.2 delivery.ids → fill.1.side = .sell
  | _ => True

/-- The step moves a position by what it adds to the executions. -/
def AccountBalances :
    AccountOp → Prop
  | .live (.trade op) => Balances host settings.toLiveSimSettings store op
  | _ => True

/-! ## When the parts hold -/

variable {tables : LiveSimTables}

theorem mem_heldCodes {code : String} : code ∈ heldCodes tables ↔ 0 < netHolding tables code := by
  simp only [heldCodes, List.mem_eraseDups, List.mem_filter, decide_eq_true_eq, List.mem_map]
  constructor
  · exact And.right
  · intro held
    refine ⟨?_, held⟩
    by_contra absent
    push Not at absent
    have none : tables.executions.total (netShares code) = tables.executions.total fun _ => 0 := by
      apply Table.total_congr
      intro execution present
      rw [netShares, if_neg (absent execution present)]
    rw [netHolding, none] at held
    simp [Table.total] at held

def sharesOf (code : String) (position : LiveSimPosition) : Int :=
  if position.code = code then position.quantity else 0

theorem netHolding_eq_positions (law : NetOfFills tables) (code : String) :
    netHolding tables code = tables.positions.total (sharesOf code) := by
  let accounts : Finset String :=
    (tables.positions.rows.map LiveSimPosition.accountId ++
      tables.executions.rows.map LiveSimExecution.accountId).toFinset
  have executed := Table.total_eq_sum_groups (netShares code) LiveSimExecution.accountId
    accounts tables.executions (by
      intro execution present
      simp only [accounts, List.toFinset_append, Finset.mem_union, List.mem_toFinset]
      exact Or.inr (List.mem_map_of_mem present))
  have positioned := Table.total_eq_sum_groups (sharesOf code) LiveSimPosition.accountId
    accounts tables.positions (by
      intro position present
      simp only [accounts, List.toFinset_append, Finset.mem_union, List.mem_toFinset]
      exact Or.inl (List.mem_map_of_mem present))
  rw [netHolding, executed, positioned]
  apply Finset.sum_congr rfl
  intro account _
  have balanced := law.balanced account code
  rw [netPositionQuantityFromFills] at balanced
  have left : (fun execution : LiveSimExecution =>
      if execution.accountId = account then netShares code execution else 0) =
      filledShares account code := by
    funext execution
    simp only [netShares, filledShares]
    by_cases sameAccount : execution.accountId = account
    · by_cases sameCode : execution.code = code
      · simp only [sameAccount, sameCode]
        rfl
      · simp [sameCode]
    · simp [sameAccount]
  have right : (fun position : LiveSimPosition =>
      if position.accountId = account then sharesOf code position else 0) =
      heldQuantity account code := by
    funext position
    simp only [sharesOf, heldQuantity]
    split <;> split <;> simp_all
  rw [left, right, balanced]

theorem held_iff (law : NetOfFills tables) (code : String) :
    0 < netHolding tables code ↔
      ∃ position ∈ tables.positions.rows, position.code = code ∧ isHeld position := by
  rw [netHolding_eq_positions law, Table.total_pos_iff]
  · constructor
    · rintro ⟨position, present, positive⟩
      simp only [sharesOf] at positive
      split at positive
      · next sameCode =>
          have isOpen : position.status ≠ .closed := fun isClosed => by
            have none := (law.closed position present).mp isClosed
            omega
          exact ⟨position, present, sameCode, by simp [isHeld, isOpen, positive]⟩
      · omega
    · rintro ⟨position, present, sameCode, held⟩
      simp only [isHeld, Bool.and_eq_true, decide_eq_true_eq] at held
      refine ⟨position, present, ?_⟩
      rw [sharesOf, if_pos sameCode]
      exact held.2
  · intro position present
    have bounds := law.bounded position present
    simp only [sharesOf]
    split <;> omega

theorem countsHeldCodes_iff (law : NetOfFills tables) :
    CountsHeldCodes tables ↔
      ∀ order ∈ tables.orders.rows, hasBought order → 0 < netHolding tables order.code := by
  have same : ∀ code, code ∈ (tables.positions.rows.filter isHeld).map LiveSimPosition.code ↔
      code ∈ heldCodes tables := by
    intro code
    rw [mem_heldCodes, held_iff law]
    simp only [List.mem_map, List.mem_filter]
    constructor
    · rintro ⟨position, ⟨present, held⟩, sameCode⟩
      exact ⟨position, present, sameCode, held⟩
    · rintro ⟨position, present, sameCode, held⟩
      exact ⟨position, ⟨present, held⟩, sameCode⟩
  have isNodup : (heldCodes tables).Nodup := nodup_eraseDups _
  have sizes : (heldCodes tables).length =
      ((tables.positions.rows.filter isHeld).map LiveSimPosition.code).eraseDups.length := by
    rw [length_eraseDups_congr same, eraseDups_of_nodup isNodup]
  rw [CountsHeldCodes, LiveSimTables.liveSimActivePositionCount, and_self,
    LiveSimTables.activePositionCount, sizes, length_eraseDups_append_iff]
  constructor
  · intro known order present bought
    apply mem_heldCodes.mp
    apply (same order.code).mp
    exact known order.code (List.mem_map_of_mem (List.mem_filter.mpr ⟨present, bought⟩))
  · intro held code isBought
    rcases List.mem_map.mp isBought with ⟨order, bought, rfl⟩
    rw [List.mem_filter] at bought
    exact (same order.code).mpr (mem_heldCodes.mpr (held order bought.1 bought.2))

theorem openPositionCount_pos {code : String} :
    0 < tables.openPositionCountForCode code ↔
      (∃ position ∈ tables.positions.rows, position.code = code ∧ isHeld position) ∨
        ∃ order ∈ tables.orders.rows, order.code = code ∧ hasBought order := by
  rw [LiveSimTables.openPositionCountForCode, length_eraseDups_pos]
  simp only [List.mem_append, List.mem_map, List.mem_filter, Bool.and_eq_true, decide_eq_true_eq]
  constructor
  · rintro ⟨id, ⟨position, ⟨present, speaks⟩, _⟩ | ⟨order, ⟨present, speaks⟩, _⟩⟩
    · exact Or.inl ⟨position, present, speaks⟩
    · exact Or.inr ⟨order, present, speaks⟩
  · rintro (⟨position, present, speaks⟩ | ⟨order, present, speaks⟩)
    · exact ⟨_, Or.inl ⟨position, ⟨present, speaks⟩, rfl⟩⟩
    · exact ⟨_, Or.inr ⟨order, ⟨present, speaks⟩, rfl⟩⟩

theorem opensHeldCodes_iff (law : NetOfFills tables) :
    OpensHeldCodes tables ↔
      ∀ order ∈ tables.orders.rows, hasBought order → 0 < netHolding tables order.code := by
  simp only [OpensHeldCodes, LiveSimTables.liveSimOpenPositionCountForCode, and_self,
    openPositionCount_pos, ← held_iff law]
  constructor
  · intro opens order present bought
    exact (opens order.code).mp (Or.inr ⟨order, present, rfl, bought⟩)
  · intro held code
    constructor
    · rintro (isHeld | ⟨order, present, rfl, bought⟩)
      · exact isHeld
      · exact held order present bought
    · exact Or.inl

theorem countsFillsOnce_iff
    (priced : ∀ order ∈ tables.orders.rows, order.side = .buy → 0 < order.notional) :
    CountsFillsOnce tables ↔ ∀ order ∈ tables.orders.rows, hasBought order = false := by
  have counts : CountsFillsOnce tables ↔ tables.filledOrderTotal = 0 := by
    exact add_eq_left
  have positive : ∀ amount ∈ (tables.orders.rows.filter hasBought).map LiveSimOrder.notional,
      0 < amount := by
    intro amount isAmount
    rcases List.mem_map.mp isAmount with ⟨order, bought, rfl⟩
    rw [List.mem_filter, hasBought] at bought
    simp only [Bool.and_eq_true, decide_eq_true_eq] at bought
    exact priced order bought.1 bought.2.1
  rw [counts, LiveSimTables.filledOrderTotal]
  constructor
  · intro zero order present
    by_contra bought
    rw [Bool.not_eq_false] at bought
    have isAmount : order.notional ∈
        (tables.orders.rows.filter hasBought).map LiveSimOrder.notional :=
      List.mem_map_of_mem (List.mem_filter.mpr ⟨present, bought⟩)
    have bound := List.single_le_sum (fun amount isAmount => (positive amount isAmount).le) _
      isAmount
    have here := positive _ isAmount
    linarith
  · intro unbought
    rw [List.filter_eq_nil_iff.mpr fun order present => by simp [unbought order present]]
    rfl

theorem countP_consuming (tradeDate : String) (orders : List LiveSimOrder) :
    orders.countP (isConsuming tradeDate) =
      orders.countP (isPurchaseOf tradeDate) + orders.countP (isSaleOf tradeDate) := by
  induction orders with
  | nil => rfl
  | cons order orders ih =>
      simp only [List.countP_cons, ih, isPurchaseOf, isSaleOf]
      by_cases consuming : isConsuming tradeDate order
      · have sides : order.side = .buy ∨ order.side = .sell := by cases order.side <;> simp
        rcases sides with buys | sells
        · simp [buys]
          omega
        · simp [sells]
          omega
      · simp [consuming]

theorem countsPurchases_iff :
    CountsPurchases tables ↔
      ∀ order ∈ tables.orders.rows, ∀ tradeDate, isSaleOf tradeDate order = false := by
  constructor
  · intro counts order present tradeDate
    have same := (counts tradeDate "").1
    simp only [liveSimAccountLimitEvidence, purchasesOf, ← List.countP_eq_length_filter,
      countP_consuming] at same
    have none : tables.orders.rows.countP (isSaleOf tradeDate) = 0 := by omega
    simpa using List.countP_eq_zero.mp none order present
  · intro unsold tradeDate code
    have purchases : ∀ order ∈ tables.orders.rows,
        isConsuming tradeDate order = isPurchaseOf tradeDate order := by
      intro order present
      have sale := unsold order present tradeDate
      rw [isSaleOf] at sale
      rw [isPurchaseOf]
      cases side : order.side <;> simp_all
    have rows : tables.orders.rows.filter (isConsuming tradeDate) =
        tables.orders.rows.filter (isPurchaseOf tradeDate) :=
      List.filter_congr purchases
    have count : tables.dailyOrderCount tradeDate =
        (tables.orders.rows.filter (isPurchaseOf tradeDate)).length :=
      List.countP_eq_length_filter
    simp only [liveSimAccountLimitEvidence, purchasesOf, List.countP_eq_length_filter, rows,
      LiveSimTables.dailyOrderNotional, and_true, true_and]
    exact ⟨count, count⟩

end SuseokTrader
