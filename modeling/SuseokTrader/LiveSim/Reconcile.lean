import SuseokTrader.LiveSim.BrokerSnapshot

/-!
# Reconciliation

The open orders and positions are compared with their commands, with the
executions on record and with a snapshot of the broker. What differs is listed,
and most of it is counted: the count decides over the status, the list is what
the stored snapshot and the lifecycle event show.
-/

namespace SuseokTrader

/-! ## Arithmetic of the machine -/

namespace ReconcileHost

variable (host : ReconcileHost)

def add : Float64 → Float64 → Float64
  | .finite left, .finite right => host.round (left + right)
  | .nan, _ | _, .nan | .posInf, .negInf | .negInf, .posInf => .nan
  | .posInf, _ | _, .posInf => .posInf
  | .negInf, _ | _, .negInf => .negInf

def negate : Float64 → Float64
  | .finite value => .finite (-value)
  | .nan => .nan
  | .posInf => .negInf
  | .negInf => .posInf

def magnitude : Float64 → Float64
  | .finite value => .finite |value|
  | .nan => .nan
  | .posInf | .negInf => .posInf

def times (value : Float64) (factor : Int) : Float64 :=
  match value with
  | .finite value => host.round (value * factor)
  | .nan => .nan
  | infinite =>
      if factor = 0 then .nan else if 0 < factor then infinite else negate infinite

def dividedBy (value : Float64) (divisor : Int) : Float64 :=
  match value with
  | .finite value => host.round (value / divisor)
  | other => other

def exceeds : Float64 → Rat → Bool
  | .finite value, bound => bound < value
  | .posInf, _ => true
  | .nan, _ | .negInf, _ => false

end ReconcileHost

/-! ## Rows of the tables -/

def LiveSimOrderStatus.value : LiveSimOrderStatus → String
  | intentCreated => "INTENT_CREATED"
  | commandQueued => "COMMAND_QUEUED"
  | commandDispatched => "COMMAND_DISPATCHED"
  | brokerAcked => "BROKER_ACKED"
  | brokerRejected => "BROKER_REJECTED"
  | partiallyFilled => "PARTIALLY_FILLED"
  | filled => "FILLED"
  | cancelRequested => "CANCEL_REQUESTED"
  | cancelCommandQueued => "CANCEL_COMMAND_QUEUED"
  | cancelAcked => "CANCEL_ACKED"
  | cancelRejected => "CANCEL_REJECTED"
  | exitRequested => "EXIT_REQUESTED"
  | exitCommandQueued => "EXIT_COMMAND_QUEUED"
  | exitFilled => "EXIT_FILLED"
  | cancelled => "CANCELLED"
  | failed => "FAILED"
  | expired => "EXPIRED"
  | orderExpired => "ORDER_EXPIRED"
  | reconcileMismatch => "RECONCILE_MISMATCH"

def PositionStatus.value : PositionStatus → String
  | opened => "OPEN"
  | closing => "CLOSING"
  | reconcileMismatch => "RECONCILE_MISMATCH"
  | closed => "CLOSED"

/-- `ACTIVE_LIVE_SIM_POSITION_STATUSES` -/
def PositionStatus.isActive : PositionStatus → Bool
  | opened | closing | reconcileMismatch => true
  | closed => false

namespace ReconcileHost

variable (host : ReconcileHost)

def price (value : Rat) : Json :=
  host.number (.finite value)

def optionalPrice : Option Rat → Json
  | none => .null
  | some value => host.price value

/-- An order as the listing returns it. -/
def orderRow (order : LiveSimOrder) : Payload :=
  [("live_sim_order_id", .str order.liveSimOrderId),
    ("live_sim_intent_id", .str order.liveSimIntentId),
    ("gateway_command_id", .ofOptionalText order.gatewayCommandId),
    ("trade_date", .str order.tradeDate),
    ("account_id", .str order.accountId),
    ("code", .str order.code),
    ("name", .str order.name),
    ("side", .str order.side.value),
    ("order_type", .str order.orderType.value),
    ("quantity", .int order.quantity),
    ("limit_price", host.optionalPrice order.limitPrice),
    ("notional", host.price order.notional),
    ("status", .str order.status.value),
    ("broker_order_no", .ofOptionalText order.brokerOrderNo),
    ("broker_result_code", .ofOptionalText order.brokerResultCode),
    ("broker_message", .ofOptionalText order.brokerMessage),
    ("filled_quantity", .int order.filledQuantity),
    ("remaining_quantity", .int order.remainingQuantity),
    ("avg_fill_price", host.optionalPrice order.avgFillPrice),
    ("idempotency_key", .str order.idempotencyKey),
    ("live_sim_only", .bool true),
    ("live_real_allowed", .bool false),
    ("created_at", .str order.createdAt),
    ("command_queued_at", .ofOptionalText order.commandQueuedAt),
    ("command_dispatched_at", .ofOptionalText order.commandDispatchedAt),
    ("broker_acked_at", .ofOptionalText order.brokerAckedAt),
    ("last_event_at", .ofOptionalText order.lastEventAt),
    ("broker_order_path", .str "LIVE_SIM_ONLY"),
    ("real_order_allowed", .bool false)]

/-- A position as the listing returns it. -/
def positionRow (position : LiveSimPosition) : Payload :=
  [("position_id", .str position.positionId),
    ("account_id", .str position.accountId),
    ("trade_date", .str position.tradeDate),
    ("code", .str position.code),
    ("name", .str position.name),
    ("quantity", .int position.quantity),
    ("available_quantity", .int position.availableQuantity),
    ("avg_entry_price", host.price position.avgEntryPrice),
    ("total_entry_notional", host.price position.totalEntryNotional),
    ("realized_pnl", host.price position.realizedPnl),
    ("unrealized_pnl", host.price position.unrealizedPnl),
    ("highest_price", host.optionalPrice position.highestPrice),
    ("lowest_price", host.optionalPrice position.lowestPrice),
    ("opened_at", .str position.openedAt),
    ("closed_at", .ofOptionalText position.closedAt),
    ("last_price", host.optionalPrice position.lastPrice),
    ("last_price_at", .ofOptionalText position.lastPriceAt),
    ("status", .str position.status.value),
    ("source_live_sim_order_id", .str position.sourceLiveSimOrderId),
    ("source_live_sim_intent_id", .str position.sourceLiveSimIntentId),
    ("live_sim_only", .bool true),
    ("live_real_allowed", .bool false),
    ("updated_at", .str position.updatedAt),
    ("broker_order_path", .str "LIVE_SIM_ONLY"),
    ("real_order_allowed", .bool false)]

/-- `_mask_account_fields` -/
def maskAccountFields (row : Payload) : Payload :=
  row.map fun (key, value) =>
    if key ∈ accountKeys then (key, .str (maskAccountId host value)) else (key, value)

end ReconcileHost

/-- The tables a reconciliation reads: those of the trading, and the statuses of the commands. -/
structure LocalState where
  tables : LiveSimTables
  commandStatus : String → Option String

namespace LocalState

def newerOrder (left right : LiveSimOrder) : Ordering :=
  (compare right.createdAt left.createdAt).then (compare right.liveSimOrderId left.liveSimOrderId)

variable (state : LocalState)

def openOrders (tradeDate : String) : List LiveSimOrder :=
  ((state.tables.orders.rows.filter fun order =>
    order.tradeDate = tradeDate && order.status.isActive).insertionSort
      fun left right => (newerOrder left right).isLE).take 500

def newerPosition (left right : LiveSimPosition) : Ordering :=
  (compare right.updatedAt left.updatedAt).then (compare right.positionId left.positionId)

def positions (state : LocalState) : List LiveSimPosition :=
  ((state.tables.positions.rows.filter fun position => position.status.isActive).insertionSort
    fun left right => (newerPosition left right).isLE).take 500

def executionQuantitySum (orderId : String) : Int :=
  ((state.tables.executions.rows.filter fun execution =>
    execution.liveSimOrderId = orderId).map LiveSimExecution.quantity).sum

def netPositionQuantity (accountId code : String) : Int :=
  ((state.tables.executions.rows.filter fun execution =>
    execution.accountId = accountId && execution.code = code).map fun execution =>
      if execution.side = .buy then execution.quantity else -execution.quantity).sum

def activeExitCountForCode (code : String) : Nat :=
  state.tables.exitIntents.rows.countP fun intent =>
    intent.code = code && intent.status.isActive

def staleOpenOrderCount (settings : ReconcileSettings) (now : Instant) : Nat :=
  state.tables.orders.rows.countP fun order => order.status.isActive &&
    order.createdAt ≤ datetimeToWire (now - settings.staleOrderSec * Time.microsPerSecond)

end LocalState

structure ExecutionSummary where
  brokerOrderNo : String
  code : String
  quantity : Int
  notional : Rat

variable (host : ReconcileHost)

def ExecutionSummary.toDict (summary : ExecutionSummary) : Payload :=
  [("broker_order_no", .str summary.brokerOrderNo),
    ("code", .str summary.code),
    ("quantity", .int summary.quantity),
    ("notional", host.number (host.round summary.notional))]

def distinctTexts (texts : List String) : List String :=
  texts.dedup.insertionSort (· ≤ ·)

namespace LocalState

/-- The orders of the day with a broker number, each with its executions. -/
def numberedExecutions (state : LocalState) (tradeDate : String) :
    List ((String × String) × LiveSimExecution) :=
  state.tables.orders.rows.flatMap fun order =>
    match order.brokerOrderNo with
    | none => []
    | some number =>
        if order.tradeDate = tradeDate ∧ Text.trimBlanks number ≠ "" then
          (state.tables.executions.rows.filter fun execution =>
            execution.liveSimOrderId = order.liveSimOrderId).map fun execution =>
              ((number, order.code), execution)
        else []

def executionSummaries (state : LocalState) (tradeDate : String) : List ExecutionSummary :=
  let joined := state.numberedExecutions tradeDate
  let groups := (joined.map Prod.fst).dedup.insertionSort fun left right =>
    ((compare left.1 right.1).then (compare left.2 right.2)).isLE
  groups.map fun (number, code) =>
    let members := (joined.filter fun row => row.1 = (number, code)).map Prod.snd
    { brokerOrderNo := number
      code
      quantity := (members.map LiveSimExecution.quantity).sum
      notional := (members.map LiveSimExecution.notional).sum }

end LocalState

/-! ## Findings -/

structure Finding where
  count : Nat
  entry : Payload

def counted (entry : Payload) : Finding :=
  ⟨1, entry⟩

def uncounted (entry : Payload) : Finding :=
  ⟨0, entry⟩

def findingIf (found : Bool) (finding : Finding) : List Finding :=
  if found then [finding] else []

def mismatchCount (findings : List Finding) : Nat :=
  (findings.map Finding.count).sum

def mismatches (findings : List Finding) : List Json :=
  findings.map fun finding => .obj finding.entry

/-! ### The tables against themselves -/

def aboutOrder (order : LiveSimOrder) (reason : String) (details : Payload) : Finding :=
  counted ([("order", .str order.liveSimOrderId), ("reason", .str reason)] ++ details)

def commandFindings (state : LocalState) (order : LiveSimOrder) : List Finding :=
  match order.gatewayCommandId.bind state.commandStatus with
  | none => [aboutOrder order "command_missing" []]
  | some status =>
      findingIf (status ∈ ["FAILED", "REJECTED", "EXPIRED"] &&
          order.status ∉ [.failed, .expired, .brokerRejected])
        (aboutOrder order "command_terminal_mismatch" [("command_status", .str status)])

def orderFindings (state : LocalState) (order : LiveSimOrder) : List Finding :=
  let executionSum := state.executionQuantitySum order.liveSimOrderId
  findingIf order.gatewayCommandId.isNone (aboutOrder order "missing_command" []) ++
    commandFindings state order ++
    findingIf (executionSum ≠ order.filledQuantity)
      (aboutOrder order "filled_quantity_execution_sum_mismatch"
        [("filled_quantity", .int order.filledQuantity), ("execution_sum", .int executionSum)]) ++
    findingIf (order.remainingQuantity < 0)
      (aboutOrder order "negative_remaining_quantity"
        [("remaining_quantity", .int order.remainingQuantity)]) ++
    findingIf (order.quantity < order.filledQuantity + order.remainingQuantity)
      (aboutOrder order "order_quantity_inconsistent"
        [("quantity", .int order.quantity), ("filled_quantity", .int order.filledQuantity),
          ("remaining_quantity", .int order.remainingQuantity)])

def aboutPosition (position : LiveSimPosition) (reason : String) (details : Payload) : Payload :=
  [("position", .str position.positionId), ("reason", .str reason)] ++ details

variable (settings : ReconcileSettings)

def positionFindings (state : LocalState)
    (position : LiveSimPosition) : Checked (List Finding) := do
  let code ← validateStockCode (.str position.code)
  let fillQuantity := state.netPositionQuantity position.accountId code
  let expected := host.times (.finite position.avgEntryPrice) position.quantity
  let delta := ReconcileHost.magnitude
    (host.add (.finite position.totalEntryNotional) (ReconcileHost.negate expected))
  return findingIf (fillQuantity ≠ position.quantity)
      (counted (aboutPosition position "position_quantity_fill_sum_mismatch"
        [("position_quantity", .int position.quantity), ("fill_quantity", .int fillQuantity)])) ++
    findingIf (position.quantity < 0 || position.availableQuantity < 0)
      (counted (aboutPosition position "negative_position_quantity" [])) ++
    findingIf (ReconcileHost.exceeds delta settings.notionalTolerance)
      (counted (aboutPosition position "position_entry_notional_mismatch"
        [("total_entry_notional", host.price position.totalEntryNotional),
          ("expected_entry_notional", host.number expected),
          ("delta", host.number delta),
          ("tolerance", host.price settings.notionalTolerance)])) ++
    -- the only mismatch that the source appends without counting it
    findingIf (0 < state.activeExitCountForCode code && position.status = .opened)
      (uncounted (aboutPosition position "active_exit_exists_for_open_position" []))

/-- `stale_orders` are added to the count as many as they are, in one entry. -/
def staleFindings (stale : Nat) : List Finding :=
  findingIf (0 < stale) ⟨stale, [("reason", .str "stale_open_orders"), ("count", .int stale)]⟩

/-! ### The broker's snapshot -/

def qualityReasons (snapshot : BrokerSnapshot) (expectedAccount expectedDate : String) :
    List String :=
  ((if snapshot.snapshotStatus ≠ .complete ∨ snapshot.complete = false then
      ["broker_snapshot_" ++ Text.lower snapshot.snapshotStatus.value] else []) ++
    (if snapshot.snapshotStatus = .stale ∨
        (snapshot.snapshotStatus = .complete ∧ snapshot.fresh = false) then
      ["broker_snapshot_stale"] else []) ++
    (if snapshot.requestedSections ≠ [] ∧
        snapshot.completedSections.toFinset ≠ snapshot.requestedSections.toFinset then
      ["broker_snapshot_section_incomplete"] else []) ++
    (if snapshot.accountIdMasked ≠ expectedAccount then
      ["broker_snapshot_account_mismatch"] else []) ++
    (if snapshot.tradeDate ≠ expectedDate then
      ["broker_snapshot_trade_date_mismatch"] else [])).dedup

def qualityFindings (snapshot : BrokerSnapshot)
    (expectedAccount expectedDate : String) : List Finding :=
  (qualityReasons snapshot expectedAccount expectedDate).map fun reason =>
    counted [("snapshot_id",
        if snapshot.snapshotId = "" then .null else .str snapshot.snapshotId),
      ("snapshot_status", .str snapshot.snapshotStatus.value),
      ("reason", .str reason),
      ("snapshot_age_sec", host.optionalNumber snapshot.snapshotAge),
      ("stale_after_sec", .int snapshot.staleAfterSec),
      ("requested_sections", .arr ((distinctTexts snapshot.requestedSections).map .str)),
      ("completed_sections", .arr ((distinctTexts snapshot.completedSections).map .str)),
      ("account_id_masked", .str snapshot.accountIdMasked),
      ("expected_account_id_masked", .str expectedAccount),
      ("trade_date", .str snapshot.tradeDate),
      ("expected_trade_date", .str expectedDate)]

def canonicalLocalStatus (order : LiveSimOrder) : String :=
  match order.status with
  | .partiallyFilled => "PARTIALLY_FILLED"
  | .cancelRequested | .cancelCommandQueued => "CANCEL_PENDING"
  | _ => "OPEN"

def canonicalBrokerStatus (order : BrokerOpenOrder) : String :=
  let status := Text.upper (Text.strip order.orderStatus)
  if Text.contains status "취소" || Text.contains status "CANCEL" then "CANCEL_PENDING"
  else if 0 < order.filledQuantity ∧ 0 < order.remainingQuantity then "PARTIALLY_FILLED"
  else if status ≠ "" ∨ 0 < order.remainingQuantity then "OPEN"
  else ""

def strippedNumber (number : Option String) : String :=
  Text.strip (number.getD "")

def aboutNumber (order : LiveSimOrder) (number reason : String) (details : Payload) : Finding :=
  counted ([("order", .str order.liveSimOrderId), ("broker_order_no", .str number),
    ("reason", .str reason)] ++ details)

def differ (left right : Option Int) : Bool :=
  match left, right with
  | some left, some right => left ≠ right
  | _, _ => false

/-- An open order against the broker's order of its number, the last one of the snapshot. -/
def localOrderFindings (brokerOrders : List BrokerOpenOrder)
    (order : LiveSimOrder) : Checked (List Finding) := do
  let number := strippedNumber order.brokerOrderNo
  if number = "" then
    return [counted [("order", .str order.liveSimOrderId),
      ("reason", .str "local_open_order_missing_broker_order_no")]]
  else
    match brokerOrders.reverse.find? fun row => row.brokerOrderNo = some number with
    | none => return [aboutNumber order number "broker_open_order_missing_for_local_order" []]
    | some row =>
        let localRemaining ← (Json.int order.remainingQuantity).optionalIntValue host.toHost
        let brokerRemaining ← (Json.int row.remainingQuantity).optionalIntValue host.toHost
        let localQuantity ← (Json.int order.quantity).optionalIntValue host.toHost
        let brokerQuantity ← (Json.int row.quantity).optionalIntValue host.toHost
        let localStatus := canonicalLocalStatus order
        let brokerStatus := canonicalBrokerStatus row
        return findingIf (row.code ≠ some order.code)
            (aboutNumber order number "broker_open_order_code_mismatch"
              [("local_code", .str order.code), ("broker_code", .ofOptionalText row.code)]) ++
          findingIf (differ localRemaining brokerRemaining)
            (aboutNumber order number "broker_open_order_remaining_quantity_mismatch"
              [("local_remaining_quantity", .ofOptionalInt localRemaining),
                ("broker_remaining_quantity", .ofOptionalInt brokerRemaining)]) ++
          findingIf (differ localQuantity brokerQuantity)
            (aboutNumber order number "broker_open_order_quantity_mismatch"
              [("local_quantity", .ofOptionalInt localQuantity),
                ("broker_quantity", .ofOptionalInt brokerQuantity)]) ++
          findingIf (brokerStatus ≠ "" && localStatus ≠ brokerStatus)
            (aboutNumber order number "broker_open_order_status_mismatch"
              [("local_status", .str localStatus), ("broker_status", .str brokerStatus)])

variable (orders : List LiveSimOrder)

def brokerOrderFindings (row : BrokerOpenOrder) : List Finding :=
  let number := strippedNumber row.brokerOrderNo
  findingIf (number = "" || !(orders.any fun order =>
      strippedNumber order.brokerOrderNo ≠ "" && order.brokerOrderNo = some number))
    (counted [("broker_order_no", if number = "" then .null else .str number),
      ("code", .ofOptionalText row.code),
      ("reason", .str "local_order_missing_for_broker_open_order"),
      ("broker_order", .obj (row.toDict host))])

structure Holding where
  code : String
  quantity : Int
  available : Option Int
  average : Option Float64

def localHolding (position : LiveSimPosition) : Option Holding :=
  ((Json.str position.code).optionalStockCode host.toHost).map fun code =>
    { code
      quantity := position.quantity
      available := some position.availableQuantity
      average := (host.price position.avgEntryPrice).optionalFloatValue host.toHost }

def brokerHolding (row : BrokerHolding) : Option Holding :=
  ((Json.str row.code).optionalStockCode host.toHost).map fun code =>
    { code
      quantity := row.quantity
      available := row.availableQuantity
      average := (host.optionalNumber row.avgEntryPrice).optionalFloatValue host.toHost }

namespace Holding

variable (holdings : List Holding)

def quantityOf (code : String) : Int :=
  ((holdings.filter fun holding => holding.code = code).map Holding.quantity).sum

def availableOf (code : String) : Option Int :=
  let stated := (holdings.filter fun holding => holding.code = code).filterMap Holding.available
  if stated = [] then none else some stated.sum

/-- The average price over the rows of a code that state one. -/
def averageOf (code : String) :
    Option Float64 :=
  let priced := (holdings.filter fun holding => holding.code = code).filterMap fun holding =>
    holding.average.map fun average => (average, holding.quantity)
  let quantity := (priced.map Prod.snd).sum
  if 0 < quantity then
    some (host.dividedBy (priced.foldl (fun sum row => host.add sum (host.times row.1 row.2))
      (.finite 0)) quantity)
  else none

end Holding

def priceFindings (tolerance : Rat) (code : String)
    (localAverage brokerAverage : Option Float64) : List Finding :=
  match localAverage, brokerAverage with
  | some left, some right =>
      let delta := ReconcileHost.magnitude (host.add left (ReconcileHost.negate right))
      findingIf (ReconcileHost.exceeds delta tolerance)
        (counted [("code", .str code),
          ("reason", .str "broker_position_average_price_mismatch"),
          ("local_avg_entry_price", host.number left),
          ("broker_avg_entry_price", host.number right),
          ("delta", host.number delta),
          ("tolerance", host.price tolerance)])
  | _, _ => []

/-- The positions of a code on both sides. -/
def holdingFindings (tolerance : Rat) (ours theirs : List Holding)
    (code : String) : List Finding :=
  let localQuantity := Holding.quantityOf ours code
  let brokerQuantity := Holding.quantityOf theirs code
  if localQuantity ≠ brokerQuantity then
    [counted [("code", .str code), ("reason", .str "broker_position_quantity_mismatch"),
      ("local_quantity", .int localQuantity), ("broker_quantity", .int brokerQuantity)]]
  else
    let localAvailable := Holding.availableOf ours code
    let brokerAvailable := Holding.availableOf theirs code
    findingIf (differ localAvailable brokerAvailable)
      (counted [("code", .str code),
        ("reason", .str "broker_position_available_quantity_mismatch"),
        ("local_available_quantity", .ofOptionalInt localAvailable),
        ("broker_available_quantity", .ofOptionalInt brokerAvailable)]) ++
      priceFindings host tolerance code (Holding.averageOf host ours code)
        (Holding.averageOf host theirs code)

def localExecutionOf (summaries : List ExecutionSummary) (number : String) : Int :=
  ((summaries.reverse.find? fun summary => summary.brokerOrderNo = number).map
    ExecutionSummary.quantity).getD 0

def brokerExecutionOf (trades : List BrokerTrade) (number : String) : Int :=
  ((trades.filter fun trade => strippedNumber trade.brokerOrderNo = number).map
    BrokerTrade.quantity).sum

def namelessFindings (trade : BrokerTrade) : List Finding :=
  findingIf (strippedNumber trade.brokerOrderNo = "")
    (counted [("reason", .str "broker_execution_missing_order_no"),
      ("broker_execution", .obj (trade.toDict host))])

def executionFindings (summaries : List ExecutionSummary)
    (trades : List BrokerTrade) : List Finding :=
  let named := summaries.filter fun summary => Text.strip summary.brokerOrderNo ≠ ""
  let numbers := distinctTexts (named.map ExecutionSummary.brokerOrderNo ++
    (trades.map fun trade => strippedNumber trade.brokerOrderNo).filter (· ≠ ""))
  trades.flatMap (namelessFindings host) ++
    numbers.flatMap fun number =>
      findingIf (localExecutionOf named number ≠ brokerExecutionOf trades number)
        (counted [("broker_order_no", .str number),
          ("reason", .str "broker_execution_sum_mismatch"),
          ("local_execution_quantity", .int (localExecutionOf named number)),
          ("broker_execution_quantity", .int (brokerExecutionOf trades number))])

/-- `_append_broker_snapshot_mismatches` -/
def brokerFindings (positions : List LiveSimPosition)
    (summaries : List ExecutionSummary) (snapshot : BrokerSnapshot) :
    Checked (List Finding) := do
  let ours := positions.filterMap (localHolding host)
  let theirs := snapshot.positions.filterMap (brokerHolding host)
  let localOrders ← orders.mapM (localOrderFindings host snapshot.openOrders)
  return localOrders.flatten ++
    snapshot.openOrders.flatMap (brokerOrderFindings host orders) ++
    (distinctTexts ((ours ++ theirs).map Holding.code)).flatMap
      (holdingFindings host settings.notionalTolerance ours theirs) ++
    executionFindings host summaries snapshot.executions

/-! ## The reconciliation -/

structure Reconciliation where
  findings : List Finding
  brokerSnapshot : Option BrokerSnapshot
  blockingNewBuy : Bool
  allowExit : Bool
  snapshotJson : Payload

def Reconciliation.status (result : Reconciliation) : String :=
  if mismatchCount result.findings ≠ 0 then "RECONCILE_MISMATCH"
  else if result.brokerSnapshot.isNone then "LOCAL_ONLY_WITHOUT_BROKER_SNAPSHOT"
  else "OK"

/-- The findings on a broker snapshot, none without one. -/
def snapshotFindings (tradeDate : String)
    (orders : List LiveSimOrder) (positions : List LiveSimPosition)
    (summaries : List ExecutionSummary) :
    Option BrokerSnapshot → Checked (List Finding)
  | none => .ok []
  | some snapshot => do
      let found ← brokerFindings host settings orders positions summaries snapshot
      return qualityFindings host snapshot (maskAccountId host settings.accountId) tradeDate ++
        found

def reconciliationJson (positions : List LiveSimPosition)
    (summaries : List ExecutionSummary) (snapshot : Option BrokerSnapshot)
    (findings : List Finding) (blockingNewBuy allowExit : Bool) : Payload :=
  [("broker_snapshot_available", .bool snapshot.isSome),
    ("broker_snapshot_status", .str (if snapshot.isSome then "BROKER_SNAPSHOT_APPLIED"
      else "BROKER_SNAPSHOT_UNAVAILABLE")),
    ("broker_snapshot", .obj ((snapshot.map (BrokerSnapshot.toDict host)).getD [])),
    ("open_orders", .arr (orders.map fun order =>
      .obj (host.maskAccountFields (host.orderRow order)))),
    ("positions", .arr (positions.map fun position =>
      .obj (host.maskAccountFields (host.positionRow position)))),
    ("local_execution_summaries", .arr (summaries.map fun summary => .obj (summary.toDict host))),
    ("broker_execution_count",
      .int ((snapshot.map BrokerSnapshot.executions).getD []).length),
    ("mismatches", .arr (mismatches findings)),
    ("notional_tolerance", host.price settings.notionalTolerance),
    ("blocking_new_buy", .bool blockingNewBuy),
    ("allow_exit", .bool allowExit),
    ("live_sim_only", .bool true),
    ("live_real_allowed", .bool false),
    ("broker_order_path", .str "LIVE_SIM_ONLY")]

/-- `reconcile_live_sim_orders_and_positions` up to its writes; a failure writes nothing. -/
def reconcile (state : LocalState)
    (brokerSnapshot : Option Payload) (clocks : ReconcileClocks) : Checked Reconciliation := do
  let tradeDate := marketToday clocks.today
  let orders := state.openOrders tradeDate
  let positions := state.positions
  let summaries := state.executionSummaries tradeDate
  let aboutPositions ← positions.mapM (positionFindings host settings state)
  let snapshot ← normalizeBrokerSnapshot host settings brokerSnapshot clocks
  let aboutSnapshot ←
    snapshotFindings host settings tradeDate orders positions summaries snapshot
  let findings := orders.flatMap (orderFindings state) ++ aboutPositions.flatten ++
    staleFindings (state.staleOpenOrderCount settings clocks.staleCutoff) ++ aboutSnapshot
  let blockingNewBuy := mismatchCount findings ≠ 0 && settings.blockNewBuyOnMismatch
  return {
    findings
    brokerSnapshot := snapshot
    blockingNewBuy
    allowExit := settings.allowExitOnMismatch
    snapshotJson := reconciliationJson host settings orders positions summaries snapshot
      findings blockingNewBuy settings.allowExitOnMismatch }

end SuseokTrader
