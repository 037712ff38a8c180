import SuseokTrader.Lib.Arrivals
import SuseokTrader.LiveSim.BrokerFills
import SuseokTrader.LiveSim.OrderStatus

/-!
# The fills of one order

An order counts the quantity of its executions up, but takes over the remaining
quantity that the last of them states. The counters meet only if the last
execution that states a rest arrives when as much has arrived as it counts.
-/

namespace SuseokTrader

/-! ## The events that report them -/

def executionPayload (host : Host) (event : GatewayEvent) : Checked (Option Payload) :=
  match liveSimEventOf event.eventType with
  | .execution => .ok (some event.payload)
  | .chejan => translateChejan host event
  | .command _ | .lifecycle _ | .other => .ok none

/-- The event of the fill names the order and is read as the fill. -/
structure Reports (host : Host) (settings : LiveSimSettings) (tables : LiveSimTables)
    (id : String) (fill : BrokerFill) (payload : Payload) (named : NamedExecution)
    (report : ExecutionReport) : Prop where
  payloadOf : executionPayload host fill.event = .ok (some payload)
  namedBy : nameExecution host settings tables payload fill.event.commandId fill.event.ts =
    .ok (.ok named)
  isOrder : named.order.liveSimOrderId = id
  key : named.key = fill.key
  read : readExecution host named.order payload named.metadata named.brokerOrderNo named.key =
    .ok report
  quantity : report.quantity = fill.quantity
  price : report.price = fill.price
  remaining : report.remainingQuantity = fill.remaining

/-- The event of the fill reports it for the order. -/
def ReportsFill (host : Host) (settings : LiveSimSettings) (tables : LiveSimTables)
    (id : String) (fill : BrokerFill) : Prop :=
  ∃ payload named report, Reports host settings tables id fill payload named report

def isRecorded (executions : Table LiveSimExecution) (fill : BrokerFill) : Bool :=
  executions.rows.any fun execution =>
    execution.executionKey = fill.key || execution.executionKey = Text.strip fill.key

variable {host : Host} {settings : LiveSimSettings} {tables : LiveSimTables} {id : String}

variable {payload : Payload} {ids : FreshIds} {now : Instant} {fill : BrokerFill}
  {report : ExecutionReport} {order : LiveSimOrder} {start : LiveSimTables}
  {fills seen : List BrokerFill} {ended : Bool}

theorem handle_of_payload {event : GatewayEvent}
    (isPayload : executionPayload host event = .ok (some payload)) :
    handleLiveSimGatewayEvent host settings tables event ids now =
        (readExecutionEvent host settings tables payload event.commandId event.ts >>= fun reading =>
          applyReading settings tables ids (datetimeToWire now) reading) ∧
      fillOf host settings tables event = ExecutionReading.fill
        (readExecutionEvent host settings tables payload event.commandId event.ts) := by
  rw [executionPayload] at isPayload
  rw [handleLiveSimGatewayEvent, fillOf]
  split at isPayload
  · next kind =>
      rw [Except.ok.injEq, Option.some.injEq] at isPayload
      subst isPayload
      simp only [kind, and_self]
  · next kind =>
      have reads : readChejanEvent host settings tables event =
          readExecutionEvent host settings tables payload event.commandId event.ts := by
        rw [readChejanEvent, isPayload]
        rfl
      simp only [kind, reads, and_self]
  · cases isPayload
  · cases isPayload
  · cases isPayload

theorem strip_executionKey (host : Host) (order : LiveSimOrder) (payload : Payload)
    (ts : Instant) : Text.strip (executionKey host order payload ts) ≠ "" := by
  have begins : 'b' ∈ (executionKey host order payload ts).toList := by
    rw [executionKey]
    split
    · simp
    · simp
  exact Text.strip_ne_empty begins rfl

theorem executionKey_of_named {commandId : Option String} {ts : Instant} {named : NamedExecution}
    (name : nameExecution host settings tables payload commandId ts = .ok (.ok named)) :
    named.key = executionKey host named.order payload ts := by
  simp only [nameExecution, Checked.bind_eq_ok] at name
  rcases name with ⟨metadata, _, name⟩
  split at name
  · simp [Checked.bind_eq_ok, pure, Except.pure] at name
  · simp only [Checked.bind_eq_ok] at name
    rcases name with ⟨found, _, name⟩
    split at name
    · simp [Checked.bind_eq_ok, pure, Except.pure] at name
    · simp only [pure, Except.pure, Except.ok.injEq] at name
      subst name
      rfl

theorem readExecutionEvent_of_reports {named : NamedExecution}
    (reports : Reports host settings tables id fill payload named report) :
    readExecutionEvent host settings tables payload fill.event.commandId fill.event.ts =
      .ok (if tables.executions.rows.any
          (fun execution => execution.executionKey = Text.strip fill.key) then
        .duplicate named.order else .fresh named.order report) := by
  have notBlank := strip_executionKey host named.order payload fill.event.ts
  rw [← executionKey_of_named reports.namedBy, reports.key] at notBlank
  have applied : executionAlreadyApplied tables.executions named.key =
      .ok (tables.executions.rows.any
        fun execution => execution.executionKey = Text.strip fill.key) := by
    rw [executionAlreadyApplied, requireNonEmptyStr, reports.key, if_neg notBlank]
    rfl
  simp only [readExecutionEvent, reports.namedBy, applied, reports.read, bind, Except.bind]
  split <;> rfl

/-! ## One arrival -/

def DrawsNewIds (tables : LiveSimTables) (ids : FreshIds) : Prop :=
  tables.executions.find? ids.executionId = none ∧ tables.positions.find? ids.positionId = none

theorem applyExecution_isOk {now : String} (fresh : DrawsNewIds tables ids)
    (unrecorded : tables.executions.rows.any
      (fun execution => execution.executionKey = report.executionKey) = false) :
    ∃ handled reply, applyExecution settings tables order report ids now = .ok (handled, reply) := by
  rcases fresh with ⟨newExecution, newPosition⟩
  have recorded : ∃ executions,
      insertExecution tables.executions (report.row order ids.executionId) = some executions := by
    have inserts : (tables.executions.insert? (report.row order ids.executionId)).isSome :=
      Table.insert?_isSome_iff.mpr newExecution
    rcases Option.isSome_iff_exists.mp inserts with ⟨executions, inserted⟩
    refine ⟨executions, ?_⟩
    rw [insertExecution, if_neg ?_, inserted]
    rw [ExecutionReport.row, unrecorded]
    decide
  rcases recorded with ⟨executions, recorded⟩
  have fills : ∃ applied, applyFill settings (recordFill tables order report executions now) order
      report ids = .ok applied := by
    rw [applyFill]
    cases order.side with
    | sell => exact ⟨_, rfl⟩
    | buy =>
        simp only [applyBuyFill]
        split
        · have inserts : (tables.positions.insert? (openedPosition settings order ids.positionId
              report.quantity report.price report.executedAtText)).isSome :=
            Table.insert?_isSome_iff.mpr newPosition
          rcases Option.isSome_iff_exists.mp inserts with ⟨positions, inserted⟩
          have here : (recordFill tables order report executions now).positions.insert?
              (openedPosition settings order ids.positionId report.quantity report.price
                report.executedAtText) = some positions := inserted
          rw [here]
          exact ⟨_, rfl⟩
        · exact ⟨_, rfl⟩
  rcases fills with ⟨⟨applied, result⟩, fills⟩
  refine ⟨applied, .execution order.liveSimOrderId ids.executionId result, ?_⟩
  rw [applyExecution, recorded]
  dsimp only
  rw [fills]
  rfl

theorem executionKey_of_read {metadata : Payload} {brokerOrderNo : Json} {key : String}
    (read : readExecution host order payload metadata brokerOrderNo key = .ok report) :
    report.executionKey = key := by
  simp only [readExecution, Checked.bind_eq_ok, pure, Except.pure, Except.ok.injEq] at read
  rcases read with ⟨_, _, _, _, _, _, _, _, _, _, _, _, _, _, _, _, _, _, _, _, rfl⟩
  rfl

theorem tablesAfterEvent_of_recorded (reports : ReportsFill host settings tables id fill)
    (recorded : isRecorded tables.executions fill = true) :
    tablesAfterEvent host settings tables fill.event ids now = tables := by
  rcases reports with ⟨payload, named, report, reports⟩
  rw [tablesAfterEvent, (handle_of_payload reports.payloadOf).1,
    readExecutionEvent_of_reports reports]
  by_cases underStripped : tables.executions.rows.any
      (fun execution => execution.executionKey = Text.strip fill.key) = true
  · rw [if_pos underStripped]
    rfl
  · rw [if_neg underStripped]
    have underKey : tables.executions.rows.any
        (fun execution => execution.executionKey = report.executionKey) = true := by
      rw [executionKey_of_read reports.read, reports.key]
      simp only [isRecorded, List.any_eq_true, Bool.or_eq_true] at recorded underStripped ⊢
      rcases recorded with ⟨execution, present, same | stripped⟩
      · exact ⟨execution, present, same⟩
      · exact absurd ⟨execution, present, stripped⟩ underStripped
    have refused : insertExecution tables.executions
        (report.row named.order ids.executionId) = none := by
      exact if_pos underKey
    simp only [bind, Except.bind, applyReading, applyExecution, refused]

/-- A fill that is not on record is applied to its order. -/
theorem appliesFill_of_unrecorded (reports : ReportsFill host settings tables id fill)
    (fresh : DrawsNewIds tables ids) (unrecorded : isRecorded tables.executions fill = false) :
    ∃ order report, fillOf host settings tables fill.event = some (order, report) ∧
      order.liveSimOrderId = id ∧ report.executionKey = fill.key ∧
      report.quantity = fill.quantity ∧ report.price = fill.price ∧
      report.remainingQuantity = fill.remaining ∧
      AppliesFill settings tables (tablesAfterEvent host settings tables fill.event ids now) order
        report ids (datetimeToWire now) := by
  rcases reports with ⟨payload, named, report, reports⟩
  have isKey : report.executionKey = fill.key :=
    (executionKey_of_read reports.read).trans reports.key
  have notStripped : tables.executions.rows.any
      (fun execution => execution.executionKey = Text.strip fill.key) = false := by
    rw [Bool.eq_false_iff]
    intro recorded
    rw [isRecorded, Bool.eq_false_iff] at unrecorded
    apply unrecorded
    simp only [List.any_eq_true, Bool.or_eq_true] at recorded ⊢
    rcases recorded with ⟨execution, present, same⟩
    exact ⟨execution, present, Or.inr same⟩
  have notKey : tables.executions.rows.any
      (fun execution => execution.executionKey = report.executionKey) = false := by
    rw [Bool.eq_false_iff]
    intro recorded
    rw [isRecorded, Bool.eq_false_iff] at unrecorded
    apply unrecorded
    simp only [List.any_eq_true, Bool.or_eq_true] at recorded ⊢
    rcases recorded with ⟨execution, present, same⟩
    exact ⟨execution, present, Or.inl (isKey ▸ same)⟩
  have read := readExecutionEvent_of_reports reports
  rw [notStripped] at read
  have handled := @handle_of_payload host settings tables payload ids now fill.event
    reports.payloadOf
  rw [read] at handled
  have isOk : ∃ after reply, applyExecution settings tables named.order report ids
      (datetimeToWire now) = .ok (after, reply) := applyExecution_isOk fresh notKey
  rcases isOk with ⟨after, reply, applied⟩
  refine ⟨named.order, report, ?_, reports.isOrder, isKey, reports.quantity, reports.price,
    reports.remaining, ?_⟩
  · rw [handled.2]
    rfl
  · have success : handleLiveSimGatewayEvent host settings tables fill.event ids now =
        .ok (after, reply) := by
      rw [handled.1]
      exact applied
    rw [tablesAfterEvent, success]
    exact appliesFill (present_of_named reports.namedBy) applied

/-! ## Fills keep the reports of other fills -/

theorem find?_map_of_same {change : LiveSimOrder → LiveSimOrder} {orders : List LiveSimOrder}
    (property : LiveSimOrder → Bool) (keeps : ∀ order, property (change order) = property order) :
    (orders.map change).find? property = (orders.find? property).map change := by
  rw [List.find?_map]
  congr 2
  funext order
  exact keeps order

theorem orderOfExecution_of_sameOrders {before after : LiveSimTables}
    {change : LiveSimOrder → LiveSimOrder} {brokerOrderNo commandId : Json}
    (rows : after.orders.rows = before.orders.rows.map change)
    (same : ∀ order, SameOrder order (change order)) :
    orderOfExecution host after brokerOrderNo commandId =
      (orderOfExecution host before brokerOrderNo commandId).map (Option.map change) := by
  have byCommand : ∀ commandId, after.orderByCommandId commandId =
      (before.orderByCommandId commandId).map change := by
    intro commandId
    rw [LiveSimTables.orderByCommandId, rows]
    apply find?_map_of_same
    intro order
    rw [same order]
  have byNumber : ∀ number, after.orderByBrokerOrderNo number =
      (before.orderByBrokerOrderNo number).map change := by
    intro number
    rw [LiveSimTables.orderByBrokerOrderNo, rows]
    apply find?_map_of_same
    intro order
    rw [same order]
  have fromCommand : (if commandId.truthy then (do
        let commandId ← requireNonEmptyStr (.str (Json.text host commandId)) "command_id"
        return after.orderByCommandId commandId)
      else return none) = (if commandId.truthy then (do
        let commandId ← requireNonEmptyStr (.str (Json.text host commandId)) "command_id"
        return before.orderByCommandId commandId)
      else return none : Checked (Option LiveSimOrder)).map (Option.map change) := by
    split
    · cases requireNonEmptyStr (.str (Json.text host commandId)) "command_id" with
      | error failure => rfl
      | ok commandId =>
          simp only [bind, Except.bind, pure, Except.pure, Except.map, byCommand]
    · rfl
  rw [orderOfExecution, orderOfExecution]
  split
  · cases requireNonEmptyStr (.str (Json.text host brokerOrderNo)) "broker_order_no" with
    | error failure => rfl
    | ok number =>
        simp only [bind, Except.bind, byNumber]
        cases before.orderByBrokerOrderNo number with
        | some order => rfl
        | none => exact fromCommand
  · exact fromCommand

/-- A fill leaves the reports of the fills of the same order as they are. -/
theorem reportsFill_of_sameOrders {before after : LiveSimTables}
    (same : SameOrders before.orders after.orders)
    (reports : ReportsFill host settings before id fill) :
    ReportsFill host settings after id fill := by
  rcases same with ⟨change, rows, same⟩
  rcases reports with ⟨payload, named, report, reports⟩
  have sameKey : executionKey host (change named.order) payload fill.event.ts =
      executionKey host named.order payload fill.event.ts := by
    rw [same named.order]
    rfl
  have sameRead : ∀ metadata brokerOrderNo key,
      readExecution host (change named.order) payload metadata brokerOrderNo key =
        readExecution host named.order payload metadata brokerOrderNo key := by
    intro metadata brokerOrderNo key
    rw [same named.order]
    rfl
  have renamed : nameExecution host settings after payload fill.event.commandId fill.event.ts =
      .ok (.ok { named with order := change named.order }) := by
    have name := reports.namedBy
    simp only [nameExecution, Checked.bind_eq_ok] at name ⊢
    rcases name with ⟨metadata, isMetadata, name⟩
    refine ⟨metadata, isMetadata, ?_⟩
    split at name
    · simp [Checked.bind_eq_ok, pure, Except.pure] at name
    · next simulated =>
        rw [if_neg simulated]
        simp only [Checked.bind_eq_ok] at name ⊢
        rcases name with ⟨found, isFound, name⟩
        refine ⟨found.map change, ?_, ?_⟩
        · rw [orderOfExecution_of_sameOrders rows same, isFound]
          rfl
        · split at name
          · simp [Checked.bind_eq_ok, pure, Except.pure] at name
          · simp only [pure, Except.pure, Except.ok.injEq] at name
            subst name
            simp only [Option.map_some, sameKey, pure, Except.pure]
  refine ⟨payload, { named with order := change named.order }, report, ?_⟩
  refine ⟨reports.payloadOf, renamed, ?_, reports.key, ?_, reports.quantity, reports.price,
    reports.remaining⟩
  · have sameId : (change named.order).liveSimOrderId = named.order.liveSimOrderId := by
      rw [same named.order]
    exact sameId.trans reports.isOrder
  · rw [sameRead]
    exact reports.read

/-! ## Runs of arrivals -/

/-- A fill that arrives, with the identifiers the handler draws and the time. -/
structure Arrival where
  fill : BrokerFill
  ids : FreshIds
  now : Instant

def Arrival.delivery (arrival : Arrival) : Delivery :=
  ⟨arrival.fill.event, arrival.ids, arrival.now⟩

def arrivedFills (seen : List BrokerFill) (arrivals : List Arrival) : List BrokerFill :=
  keepAll sharesKey seen (arrivals.map Arrival.fill)

def fillEndsExit (host : Host) (settings : LiveSimSettings) (tables : LiveSimTables)
    (event : GatewayEvent) : Bool :=
  (fillOf host settings tables event).any fun fill => endsExit tables fill.1 fill.2

/-- The last new fill, if there is one, ends the exit of its order. -/
def lastFillEndsExit (host : Host) (settings : LiveSimSettings) (tables : LiveSimTables)
    (seen : List BrokerFill) (ended : Bool) : List Arrival → Bool
  | [] => ended
  | arrival :: arrivals =>
      lastFillEndsExit host settings
        ((eventSystem host settings).next tables arrival.delivery)
        (keep sharesKey seen arrival.fill)
        (if isBlocked sharesKey seen arrival.fill then ended
          else fillEndsExit host settings tables arrival.fill.event) arrivals

/-- The order after the fills seen so far. -/
structure CountsFills (order : LiveSimOrder) (seen : List BrokerFill) (ended : Bool)
    (after : LiveSimOrder) : Prop where
  same : SameOrder order after
  filled : after.filledQuantity = totalQuantity seen
  remaining : after.remainingQuantity = leftAfter order.quantity seen
  mean : after.avgFillPrice = if seen = [] then order.avgFillPrice
    else some (totalCost seen / totalQuantity seen)
  status : after.status = if seen = [] then order.status
    else if ended then .exitFilled else statusOfRemaining after.remainingQuantity

def executionSummary (execution : LiveSimExecution) : String × String × Int × Rat :=
  (execution.executionKey, execution.liveSimOrderId, execution.quantity, execution.price)

def BrokerFill.summary (orderId : String) (fill : BrokerFill) : String × String × Int × Rat :=
  (fill.key, orderId, fill.quantity, fill.price)

/-- The tables after the fills seen so far. -/
structure Filling (host : Host) (settings : LiveSimSettings) (start : LiveSimTables)
    (order : LiveSimOrder) (fills seen : List BrokerFill) (ended : Bool)
    (tables : LiveSimTables) : Prop where
  counts : OrderHas order.liveSimOrderId (CountsFills order seen ended) tables
  reported : ∀ fill ∈ fills, ReportsFill host settings tables order.liveSimOrderId fill
  recorded : tables.executions.rows.map executionSummary =
    start.executions.rows.map executionSummary ++
      seen.map (BrokerFill.summary order.liveSimOrderId)

/-- An order without a fill: no execution of it, and none under the key of a fill of it. -/
structure Unfilled (tables : LiveSimTables) (order : LiveSimOrder) (fills : List BrokerFill) :
    Prop where
  present : tables.orders.find? order.liveSimOrderId = some order
  positive : 1 ≤ order.quantity
  filled : order.filledQuantity = 0
  remaining : order.remainingQuantity = order.quantity
  status : order.status.isFilled = false
  executions : ∀ execution ∈ tables.executions.rows,
    execution.liveSimOrderId ≠ order.liveSimOrderId
  unrecorded : ∀ fill ∈ fills, isRecorded tables.executions fill = false

theorem filling_start (unfilled : Unfilled start order fills)
    (reported : ∀ fill ∈ fills, ReportsFill host settings start order.liveSimOrderId fill) :
    Filling host settings start order fills [] false start where
  counts := by
    refine ⟨order, unfilled.present, rfl, unfilled.filled, unfilled.remaining, rfl, rfl⟩
  reported := reported
  recorded := by simp

theorem isRecorded_iff_isBlocked (unfilled : Unfilled start order fills)
    (filling : Filling host settings start order fills seen ended tables) (present : fill ∈ fills) :
    isRecorded tables.executions fill = isBlocked sharesKey seen fill := by
  have summaries : isRecorded tables.executions fill =
      (tables.executions.rows.map executionSummary).any fun summary =>
        summary.1 = fill.key || summary.1 = Text.strip fill.key := by
    rw [List.any_map]
    rfl
  have atStart : (start.executions.rows.map executionSummary).any (fun summary =>
      summary.1 = fill.key || summary.1 = Text.strip fill.key) = false := by
    have notThere := unfilled.unrecorded fill present
    rw [List.any_map]
    exact notThere
  rw [summaries, filling.recorded, List.any_append, atStart, List.any_map]
  rfl

theorem averageFillPrice_of_summaries {executions : Table LiveSimExecution}
    {old : List (String × String × Int × Rat)}
    (rows : executions.rows.map executionSummary = old ++ seen.map (BrokerFill.summary id))
    (others : ∀ summary ∈ old, summary.2.1 ≠ id) :
    averageFillPrice executions id =
      if totalQuantity seen = 0 then 0 else totalCost seen / totalQuantity seen := by
  have selected : (executions.rows.filter fun execution => execution.liveSimOrderId = id).map
      executionSummary = seen.map (BrokerFill.summary id) := by
    have filtered : (executions.rows.filter fun execution => execution.liveSimOrderId = id).map
        executionSummary =
        (executions.rows.map executionSummary).filter fun summary => summary.2.1 = id := by
      rw [List.filter_map]
      rfl
    have noOld : old.filter (fun summary => summary.2.1 = id) = [] := by
      rw [List.filter_eq_nil_iff]
      intro summary present
      simpa using others summary present
    rw [filtered, rows, List.filter_append, noOld, List.nil_append, List.filter_eq_self]
    intro summary present
    rcases List.mem_map.mp present with ⟨fill, _, rfl⟩
    simp [BrokerFill.summary]
  have quantities := congrArg (List.map fun summary => summary.2.2.1) selected
  have costs := congrArg (List.map fun summary => summary.2.2.2 * (summary.2.2.1 : Rat)) selected
  rw [List.map_map, List.map_map] at quantities costs
  have sameQuantity : ((executions.rows.filter
      fun execution => execution.liveSimOrderId = id).map LiveSimExecution.quantity).sum =
      totalQuantity seen := congrArg List.sum quantities
  have sameCost : ((executions.rows.filter fun execution => execution.liveSimOrderId = id).map
      fun execution => execution.price * (execution.quantity : Rat)).sum = totalCost seen :=
    congrArg List.sum costs
  simp only [averageFillPrice, sameQuantity, sameCost]

/-- A new fill is counted. -/
theorem filling_fresh {handled : LiveSimTables} {now : String}
    (unfilled : Unfilled start order fills) (positive : ∀ fill ∈ fills, 1 ≤ fill.quantity)
    (within : ∀ fill ∈ seen, fill ∈ fills)
    (filling : Filling host settings start order fills seen ended tables) (present : fill ∈ fills)
    (applied : ∃ row report, fillOf host settings tables fill.event = some (row, report) ∧
      row.liveSimOrderId = order.liveSimOrderId ∧ report.executionKey = fill.key ∧
      report.quantity = fill.quantity ∧ report.price = fill.price ∧
      report.remainingQuantity = fill.remaining ∧
      AppliesFill settings tables handled row report ids now) :
    Filling host settings start order fills (seen ++ [fill])
      (fillEndsExit host settings tables fill.event) handled := by
  rcases applied with ⟨row, report, reads, isOrder, key, quantity, price, states, applies⟩
  rcases filling.counts with ⟨found, here, counts⟩
  obtain rfl : found = row := by
    have there := applies.present
    rw [isOrder, here] at there
    exact Option.some.inj there
  have recorded : handled.executions.rows.map executionSummary =
      start.executions.rows.map executionSummary ++
        (seen ++ [fill]).map (BrokerFill.summary order.liveSimOrderId) := by
    have summary : executionSummary (report.row found ids.executionId) =
        fill.summary order.liveSimOrderId := by
      simp only [executionSummary, ExecutionReport.row, BrokerFill.summary, key, isOrder,
        quantity, price]
    rw [rows_of_insertExecution applies.recorded, List.map_append, filling.recorded,
      List.map_append, List.map_cons, List.map_nil, summary, List.map_cons, List.map_nil,
      List.append_assoc]
  have seenPositive : ∀ other ∈ seen ++ [fill], 1 ≤ other.quantity := by
    intro other isSeen
    rcases List.mem_append.mp isSeen with before | isFill
    · exact positive other (within other before)
    · rw [List.mem_singleton.mp isFill]
      exact positive fill present
  have total : totalQuantity (seen ++ [fill]) ≠ 0 := by
    have before := totalQuantity_nonneg fun other isSeen =>
      seenPositive other (List.mem_append_left _ isSeen)
    have one := positive fill present
    simp only [totalQuantity_append, totalQuantity_cons, totalQuantity_nil]
    omega
  have nonempty : seen ++ [fill] ≠ [] := by simp
  have left : report.remaining found = leftAfter order.quantity (seen ++ [fill]) := by
    rw [leftAfter, List.foldl_append, List.foldl_cons, List.foldl_nil, ← leftAfter,
      ← counts.remaining, leaves, ExecutionReport.remaining, states, quantity]
  refine ⟨?_, ?_, recorded⟩
  · rw [← isOrder]
    refine ⟨_, applies.written, counts.same.trans rfl, ?_, left, ?_, ?_⟩
    · have added : (orderAfterFill tables found report handled.executions now).filledQuantity =
          found.filledQuantity + report.quantity := rfl
      rw [added, counts.filled, quantity, totalQuantity_append, totalQuantity_cons,
        totalQuantity_nil, Int.add_zero]
    · have mean : (orderAfterFill tables found report handled.executions now).avgFillPrice =
          some (averageFillPrice handled.executions found.liveSimOrderId) := rfl
      have old : ∀ summary ∈ start.executions.rows.map executionSummary,
          summary.2.1 ≠ order.liveSimOrderId := by
        intro summary isOld
        rcases List.mem_map.mp isOld with ⟨execution, isRow, rfl⟩
        exact unfilled.executions execution isRow
      rw [mean, isOrder, averageFillPrice_of_summaries recorded old, if_neg total,
        if_neg nonempty]
    · have status : (orderAfterFill tables found report handled.executions now).status =
          statusAfterFill tables found report := rfl
      rw [if_neg nonempty, fillEndsExit, reads]
      rfl
  · intro other isFill
    exact reportsFill_of_sameOrders applies.sameOrders (filling.reported other isFill)

theorem filling_arrival {arrival : Arrival} (unfilled : Unfilled start order fills)
    (positive : ∀ fill ∈ fills, 1 ≤ fill.quantity) (within : ∀ fill ∈ seen, fill ∈ fills)
    (filling : Filling host settings start order fills seen ended tables)
    (present : arrival.fill ∈ fills) (fresh : DrawsNewIds tables arrival.ids) :
    Filling host settings start order fills (keep sharesKey seen arrival.fill)
      (if isBlocked sharesKey seen arrival.fill then ended
        else fillEndsExit host settings tables arrival.fill.event)
      ((eventSystem host settings).next tables arrival.delivery) := by
  have reports := filling.reported arrival.fill present
  have onRecord := isRecorded_iff_isBlocked unfilled filling present
  rw [next_eventSystem]
  cases blocked : isBlocked sharesKey seen arrival.fill with
  | true =>
      rw [blocked] at onRecord
      rw [keep_of_blocked blocked, Arrival.delivery,
        tablesAfterEvent_of_recorded reports onRecord]
      exact filling
  | false =>
      rw [blocked] at onRecord
      rw [keep_of_free blocked]
      exact filling_fresh unfilled positive within filling present
        (appliesFill_of_unrecorded reports fresh onRecord)

variable {arrivals : List Arrival}

theorem filling_run (unfilled : Unfilled start order fills)
    (positive : ∀ fill ∈ fills, 1 ≤ fill.quantity) (within : ∀ fill ∈ seen, fill ∈ fills)
    (filling : Filling host settings start order fills seen ended tables)
    (present : ∀ arrival ∈ arrivals, arrival.fill ∈ fills)
    (fresh : (eventSystem host settings).Along
      (fun tables delivery => DrawsNewIds tables delivery.ids) tables
      (arrivals.map Arrival.delivery)) :
    Filling host settings start order fills (arrivedFills seen arrivals)
      (lastFillEndsExit host settings tables seen ended arrivals)
      ((eventSystem host settings).run tables (arrivals.map Arrival.delivery)) := by
  induction arrivals generalizing tables seen ended with
  | nil => exact filling
  | cons arrival arrivals ih =>
      rcases fresh with ⟨here, later⟩
      have isFill := present arrival List.mem_cons_self
      have step := filling_arrival unfilled positive within filling isFill here
      have kept : ∀ fill ∈ keep sharesKey seen arrival.fill, fill ∈ fills := by
        intro fill isKept
        rcases mem_keep isKept with before | rfl
        · exact within fill before
        · exact isFill
      rw [List.map_cons, System.run_cons, lastFillEndsExit]
      exact ih kept step
        (fun other isLater => present other (List.mem_cons_of_mem arrival isLater)) later

/-! ## The law -/

/-- The order row accounts for all the executions at the broker. -/
structure AccountsFor (order : LiveSimOrder) (fills : List BrokerFill) (final : LiveSimOrder) :
    Prop where
  filled : final.filledQuantity = totalQuantity fills
  meets : final.filledQuantity + final.remainingQuantity = order.quantity
  mean : fills ≠ [] → final.avgFillPrice = some (totalCost fills / totalQuantity fills)
  complete : final.status.isFilled ↔ final.filledQuantity = order.quantity

def SameRow (first second : LiveSimOrder) : Prop :=
  { first with lastEventAt := none } = { second with lastEventAt := none }

def OrderAfter (host : Host) (settings : LiveSimSettings) (start : LiveSimTables) (id : String)
    (arrivals : List Arrival) (final : LiveSimOrder) : Prop :=
  ((eventSystem host settings).run start (arrivals.map Arrival.delivery)).orders.find? id =
    some final

/-- Two arrival orders of the executions both account for them, and end in the same row. -/
def SettleAlike (host : Host) (settings : LiveSimSettings) (start : LiveSimTables)
    (order : LiveSimOrder) (fills : List BrokerFill) (first second : List Arrival) : Prop :=
  ∃ final final', OrderAfter host settings start order.liveSimOrderId first final ∧
    OrderAfter host settings start order.liveSimOrderId second final' ∧
    AccountsFor order fills final ∧ AccountsFor order fills final' ∧ SameRow final final'

/-- Arrivals of the executions, and of nothing else, for which the handler draws new identifiers. -/
structure ArrivalsOf (host : Host) (settings : LiveSimSettings) (start : LiveSimTables)
    (fills : List BrokerFill) (arrivals : List Arrival) : Prop where
  only : ∀ arrival ∈ arrivals, arrival.fill ∈ fills
  fresh : (eventSystem host settings).Along
    (fun tables delivery => DrawsNewIds tables delivery.ids) start
    (arrivals.map Arrival.delivery)

/-- The executions arrive so that the counters meet. -/
structure ArrivesInStep (host : Host) (settings : LiveSimSettings) (start : LiveSimTables)
    (order : LiveSimOrder) (fills : List BrokerFill) (arrivals : List Arrival) : Prop where
  allNew : ∀ fill ∈ fills, fill ∈ arrivedFills [] arrivals
  states : StatesRest order.quantity (arrivedFills [] arrivals)
  exits : lastFillEndsExit host settings start [] false arrivals →
    totalQuantity fills = order.quantity

theorem rest_nonneg {quantity : Int} (history : FillHistory quantity) :
    ∀ fill ∈ history.fills, ∀ rest ∈ fill.remaining, 0 ≤ rest := by
  intro fill present rest states
  rcases List.append_of_mem present with ⟨before, after, split⟩
  have isRest := history.truthful before fill after split rest states
  have within := history.within
  have later : 0 ≤ totalQuantity after := totalQuantity_nonneg fun other isLater =>
    history.positive other (by simp [split, isLater])
  rw [split, totalQuantity_append, totalQuantity_cons] at within
  rw [totalQuantity_append, totalQuantity_cons, totalQuantity_nil] at isRest
  omega

/-- Where the arrivals lead: the counted fills, each at most once, and all of them fills of the
history. -/
theorem counts_of_arrivals {history : FillHistory order.quantity}
    (unfilled : Unfilled start order history.fills)
    (reported : ∀ fill ∈ history.fills, ReportsFill host settings start order.liveSimOrderId fill)
    (arrive : ArrivalsOf host settings start history.fills arrivals) :
    ∃ final, OrderAfter host settings start order.liveSimOrderId arrivals final ∧
      CountsFills order (arrivedFills [] arrivals)
        (lastFillEndsExit host settings start [] false arrivals) final := by
  have filling := filling_run unfilled history.positive (by simp)
    (filling_start unfilled reported) arrive.only arrive.fresh
  rcases filling.counts with ⟨final, here, counts⟩
  exact ⟨final, here, counts⟩

theorem mem_of_arrived (only : ∀ arrival ∈ arrivals, arrival.fill ∈ fills) :
    ∀ fill ∈ arrivedFills [] arrivals, fill ∈ fills := by
  intro fill arrived
  rcases mem_keepAll arrived with here | isArrival
  · cases here
  · rcases List.mem_map.mp isArrival with ⟨arrival, present, rfl⟩
    exact only arrival present

theorem nodup_arrivedFills (arrivals : List Arrival) : (arrivedFills [] arrivals).Nodup :=
  nodup_keepAll sharesKey_self List.nodup_nil _

theorem eq_nil_of_totalQuantity (positive : ∀ fill ∈ fills, 1 ≤ fill.quantity)
    (zero : totalQuantity fills = 0) :
    fills = [] := by
  cases fills with
  | nil => rfl
  | cons fill fills =>
      have one := positive fill List.mem_cons_self
      have rest := totalQuantity_nonneg fun other later =>
        positive other (List.mem_cons_of_mem fill later)
      rw [totalQuantity_cons] at zero
      omega

theorem arrivals_of_arrivedFills (none : arrivedFills [] arrivals = []) : arrivals = [] := by
  cases arrivals with
  | nil => rfl
  | cons arrival arrivals =>
      have first : arrival.fill ∈ arrivedFills [] (arrival :: arrivals) :=
        mem_keepAll_of_mem
          (show arrival.fill ∈ keep sharesKey [] arrival.fill by simp [keep, isBlocked])
          (arrivals.map Arrival.fill)
      rw [none] at first
      cases first

theorem isFilled_statusOfRemaining (remaining : Int) :
    (statusOfRemaining remaining).isFilled = true ↔ remaining = 0 := by
  rw [statusOfRemaining]
  split
  · next zero => simp [zero, LiveSimOrderStatus.isFilled]
  · next left => simp [left, LiveSimOrderStatus.isFilled]

/-- One arrival order accounts for the executions exactly if they arrive in step. -/
theorem accountsFor_iff {final : LiveSimOrder} {history : FillHistory order.quantity}
    (unfilled : Unfilled start order history.fills)
    (only : ∀ arrival ∈ arrivals, arrival.fill ∈ history.fills)
    (counts : CountsFills order (arrivedFills [] arrivals)
      (lastFillEndsExit host settings start [] false arrivals) final) :
    AccountsFor order history.fills final ↔
      ArrivesInStep host settings start order history.fills arrivals := by
  have within := mem_of_arrived only
  have positive : ∀ fill ∈ arrivedFills [] arrivals, 1 ≤ fill.quantity :=
    fun fill arrived => history.positive fill (within fill arrived)
  have nonneg : ∀ fill ∈ arrivedFills [] arrivals, ∀ rest ∈ fill.remaining, 0 ≤ rest :=
    fun fill arrived => rest_nonneg history fill (within fill arrived)
  have filled := counts.filled
  have remaining := counts.remaining
  have status := counts.status
  have bound := history.within
  have atLeastOne := unfilled.positive
  constructor
  · rintro ⟨allFilled, meets, mean, complete⟩
    have allNew : ∀ fill ∈ history.fills, fill ∈ arrivedFills [] arrivals :=
      mem_of_totalQuantity_eq history.distinct (nodup_arrivedFills arrivals) within
        history.positive (filled.symm.trans allFilled)
    have left : leftAfter order.quantity (arrivedFills [] arrivals) =
        order.quantity - totalQuantity (arrivedFills [] arrivals) := by omega
    refine ⟨allNew, (leftAfter_eq_iff positive (by omega) nonneg).mp left, ?_⟩
    intro ended
    have nonempty : arrivedFills [] arrivals ≠ [] := by
      intro none
      rw [arrivals_of_arrivedFills none] at ended
      cases ended
    rw [if_neg nonempty, ended] at status
    have isComplete := complete.mp (by rw [status]; rfl)
    omega
  · rintro ⟨allNew, states, exits⟩
    have permuted := keepAll_perm sharesKey_self history.distinct
      (by simpa using only) allNew
    have total : totalQuantity (arrivedFills [] arrivals) = totalQuantity history.fills :=
      totalQuantity_perm permuted
    have cost : totalCost (arrivedFills [] arrivals) = totalCost history.fills :=
      totalCost_perm permuted
    have left := (leftAfter_eq_iff positive (by omega) nonneg).mpr states
    refine ⟨by omega, by omega, ?_, ?_⟩
    · intro nonempty
      have arrived : arrivedFills [] arrivals ≠ [] := by
        intro none
        exact nonempty (List.nil_perm.mp (none ▸ permuted))
      rw [counts.mean, if_neg arrived, total, cost]
    · by_cases none : arrivedFills [] arrivals = []
      · rw [if_pos none] at status
        rw [status, unfilled.status]
        rw [none, totalQuantity_nil] at filled
        simp only [Bool.false_eq_true, false_iff]
        omega
      · rw [if_neg none] at status
        cases ended : lastFillEndsExit host settings start [] false arrivals with
        | true =>
            rw [ended, if_pos rfl] at status
            have isComplete := exits ended
            rw [status]
            simp only [LiveSimOrderStatus.isFilled, true_iff]
            omega
        | false =>
            rw [ended, if_neg (by decide)] at status
            rw [status, isFilled_statusOfRemaining]
            omega

theorem sameRow_of_sameOrder {first second : LiveSimOrder} (same : SameOrder order first)
    (same' : SameOrder order second) :
    SameRow first second ↔ first.status = second.status ∧
      first.filledQuantity = second.filledQuantity ∧
      first.remainingQuantity = second.remainingQuantity ∧
      first.avgFillPrice = second.avgFillPrice := by
  constructor
  · intro rows
    have status := congrArg LiveSimOrder.status rows
    have filled := congrArg LiveSimOrder.filledQuantity rows
    have remaining := congrArg LiveSimOrder.remainingQuantity rows
    have mean := congrArg LiveSimOrder.avgFillPrice rows
    exact ⟨status, filled, remaining, mean⟩
  · rintro ⟨status, filled, remaining, mean⟩
    rw [SameRow, same, same', status, filled, remaining, mean]

theorem statusOfRemaining_ne (remaining : Int) : statusOfRemaining remaining ≠ .exitFilled := by
  rw [statusOfRemaining]
  split <;> decide

/-- Two rows that account for the executions differ at most in how the order ended. -/
theorem sameRow_iff {final final' : LiveSimOrder} {first second : List Arrival}
    (positive : ∀ fill ∈ fills, 1 ≤ fill.quantity)
    (only : ∀ arrival ∈ first, arrival.fill ∈ fills)
    (only' : ∀ arrival ∈ second, arrival.fill ∈ fills)
    (counts : CountsFills order (arrivedFills [] first)
      (lastFillEndsExit host settings start [] false first) final)
    (counts' : CountsFills order (arrivedFills [] second)
      (lastFillEndsExit host settings start [] false second) final')
    (accounts : AccountsFor order fills final) (accounts' : AccountsFor order fills final') :
    SameRow final final' ↔ lastFillEndsExit host settings start [] false first =
      lastFillEndsExit host settings start [] false second := by
  have filled : final.filledQuantity = final'.filledQuantity :=
    accounts.filled.trans accounts'.filled.symm
  have remaining : final.remainingQuantity = final'.remainingQuantity := by
    have meets := accounts.meets
    have meets' := accounts'.meets
    omega
  have status := counts.status
  have status' := counts'.status
  rw [sameRow_of_sameOrder counts.same counts'.same]
  by_cases none : fills = []
  · have noArrival : ∀ arrivals : List Arrival, (∀ arrival ∈ arrivals, arrival.fill ∈ fills) →
        arrivals = [] := by
      intro arrivals only
      apply List.eq_nil_iff_forall_not_mem.mpr
      intro arrival present
      have isFill := only arrival present
      rw [none] at isFill
      cases isFill
    obtain rfl := noArrival first only
    obtain rfl := noArrival second only'
    exact ⟨fun _ => rfl, fun _ => ⟨status.trans status'.symm, filled, remaining,
      counts.mean.trans counts'.mean.symm⟩⟩
  · have nonempty : ∀ {row ended} {arrivals : List Arrival},
        CountsFills order (arrivedFills [] arrivals) ended row → AccountsFor order fills row →
        arrivedFills [] arrivals ≠ [] := by
      intro row ended arrivals counts accounts isEmpty
      have zero := counts.filled
      rw [isEmpty, accounts.filled] at zero
      exact none (eq_nil_of_totalQuantity positive zero)
    rw [if_neg (nonempty counts accounts)] at status
    rw [if_neg (nonempty counts' accounts')] at status'
    have mean := (accounts.mean none).trans (accounts'.mean none).symm
    rw [status, status', ← remaining]
    have differs := statusOfRemaining_ne final.remainingQuantity
    cases lastFillEndsExit host settings start [] false first <;>
      cases lastFillEndsExit host settings start [] false second <;>
      simp [filled, mean, differs, differs.symm]

/-- The two arrival orders account for the executions and agree exactly if the executions arrive
in step in both, and the last new one ends the exit of the order in both or in neither. -/
theorem fills_settle_iff (host : Host) (settings : LiveSimSettings) (start : LiveSimTables)
    (order : LiveSimOrder) (history : FillHistory order.quantity) (first second : List Arrival)
    (unfilled : Unfilled start order history.fills)
    (reported : ∀ fill ∈ history.fills,
      ReportsFill host settings start order.liveSimOrderId fill)
    (firstArrive : ArrivalsOf host settings start history.fills first)
    (secondArrive : ArrivalsOf host settings start history.fills second) :
    SettleAlike host settings start order history.fills first second ↔
      ArrivesInStep host settings start order history.fills first ∧
        ArrivesInStep host settings start order history.fills second ∧
        lastFillEndsExit host settings start [] false first =
          lastFillEndsExit host settings start [] false second := by
  rcases counts_of_arrivals unfilled reported firstArrive with ⟨final, isFinal, counts⟩
  rcases counts_of_arrivals unfilled reported secondArrive with ⟨final', isFinal', counts'⟩
  have firstIff := accountsFor_iff unfilled firstArrive.only counts
  have secondIff := accountsFor_iff unfilled secondArrive.only counts'
  have settle : SettleAlike host settings start order history.fills first second ↔
      AccountsFor order history.fills final ∧ AccountsFor order history.fills final' ∧
        SameRow final final' := by
    constructor
    · rintro ⟨row, row', isRow, isRow', accounts, accounts', same⟩
      obtain rfl : final = row := Option.some.inj (isFinal.symm.trans isRow)
      obtain rfl : final' = row' := Option.some.inj (isFinal'.symm.trans isRow')
      exact ⟨accounts, accounts', same⟩
    · rintro ⟨accounts, accounts', same⟩
      exact ⟨final, final', isFinal, isFinal', accounts, accounts', same⟩
  rw [settle]
  constructor
  · rintro ⟨accounts, accounts', same⟩
    exact ⟨firstIff.mp accounts, secondIff.mp accounts',
      (sameRow_iff history.positive firstArrive.only secondArrive.only counts counts' accounts accounts').mp same⟩
  · rintro ⟨inStep, inStep', sameEnd⟩
    have accounts := firstIff.mpr inStep
    have accounts' := secondIff.mpr inStep'
    exact ⟨accounts, accounts',
      (sameRow_iff history.positive firstArrive.only secondArrive.only counts counts' accounts accounts').mpr
        sameEnd⟩

/-! ## Two executions in either order -/

/-- The event of the fill is read as the fill of the order. -/
def checksFill (host : Host) (settings : LiveSimSettings) (tables : LiveSimTables) (id : String)
    (fill : BrokerFill) : Bool :=
  match executionPayload host fill.event with
  | .ok (some payload) =>
      match nameExecution host settings tables payload fill.event.commandId fill.event.ts with
      | .ok (.ok named) =>
          match readExecution host named.order payload named.metadata named.brokerOrderNo
              named.key with
          | .ok report =>
              named.order.liveSimOrderId = id && named.key = fill.key &&
                report.quantity = fill.quantity && report.price = fill.price &&
                report.remainingQuantity = fill.remaining
          | .error _ => false
      | _ => false
  | _ => false

theorem reportsFill_of_checks (checks : checksFill host settings tables id fill = true) :
    ReportsFill host settings tables id fill := by
  rw [checksFill] at checks
  split at checks
  · next payload isPayload =>
      split at checks
      · next named isNamed =>
          split at checks
          · next report isReport =>
              simp only [Bool.and_eq_true, decide_eq_true_eq] at checks
              rcases checks with ⟨⟨⟨⟨isOrder, key⟩, quantity⟩, price⟩, remaining⟩
              exact ⟨payload, named, report, isPayload, isNamed, isOrder, key, isReport, quantity,
                price, remaining⟩
          · cases checks
      · cases checks
  · cases checks

instance (tables : LiveSimTables) (ids : FreshIds) : Decidable (DrawsNewIds tables ids) :=
  inferInstanceAs (Decidable (_ ∧ _))

def fourShares : BrokerFill where
  event := commandEventOf "event-1" "execution_event"
    (fillPayload "1001" "e1" "BUY" 4 (.int 6)) stripped_firstExecution
  key := "broker-exec:order-1:e1"
  quantity := 4
  price := 100
  remaining := some 6

def sixShares : BrokerFill where
  event := commandEventOf "event-2" "execution_event"
    (fillPayload "1001" "e2" "BUY" 6 (.int 0)) stripped_secondExecution
  key := "broker-exec:order-1:e2"
  quantity := 6
  price := 100
  remaining := some 0

def tenShares : FillHistory dispatchedBuy.quantity where
  fills := [fourShares, sixShares]
  distinct := by
    have differ : fourShares ≠ sixShares := by
      intro same
      have quantities := congrArg BrokerFill.quantity same
      cases quantities
    simpa using differ
  positive := by simp [fourShares, sixShares]
  within := by decide
  truthful := by
    intro before fill after split rest states
    rcases before with _ | ⟨first, _ | ⟨second, before⟩⟩
    · rw [List.nil_append, List.cons.injEq] at split
      rcases split with ⟨rfl, _⟩
      obtain rfl : 6 = rest := Option.some.inj states
      decide
    · simp only [List.cons_append, List.nil_append, List.cons.injEq] at split
      rcases split with ⟨rfl, rfl, _⟩
      obtain rfl : 0 = rest := Option.some.inj states
      decide
    · simp at split

def arrivalOf (fill : BrokerFill) (fresh : String) : Arrival :=
  ⟨fill, ⟨"execution-" ++ fresh, "position-" ++ fresh⟩, 63900000002000000⟩

def dispatchedTables : LiveSimTables :=
  tablesOfOrders [dispatchedBuy] (by decide)

theorem unfilled_dispatchedBuy : Unfilled dispatchedTables dispatchedBuy tenShares.fills where
  present := rfl
  positive := by decide
  filled := rfl
  remaining := rfl
  status := rfl
  executions := by simp [dispatchedTables, tablesOfOrders, LiveSimTables.empty]
  unrecorded := by simp [isRecorded, dispatchedTables, tablesOfOrders, LiveSimTables.empty]

theorem reportsFill_tenShares : ∀ fill ∈ tenShares.fills,
    ReportsFill sampleHost sampleLiveSimSettings dispatchedTables dispatchedBuy.liveSimOrderId
      fill := by
  have four : checksFill sampleHost sampleLiveSimSettings dispatchedTables "order-1" fourShares =
      true := by decide +kernel
  have six : checksFill sampleHost sampleLiveSimSettings dispatchedTables "order-1" sixShares =
      true := by decide +kernel
  intro fill present
  simp only [tenShares, List.mem_cons, List.not_mem_nil, or_false] at present
  rcases present with rfl | rfl
  · exact reportsFill_of_checks four
  · exact reportsFill_of_checks six

/-- The arrivals in the broker's order. -/
def inOrder : List Arrival :=
  [arrivalOf fourShares "1", arrivalOf sixShares "2"]

/-- The last execution arrives first, and the first one after it. -/
def outOfOrder : List Arrival :=
  [arrivalOf sixShares "1", arrivalOf fourShares "2"]

theorem arrivalsOf_inOrder :
    ArrivalsOf sampleHost sampleLiveSimSettings dispatchedTables tenShares.fills inOrder where
  only := by simp [inOrder, arrivalOf, tenShares]
  fresh := by
    refine ⟨?_, ?_, trivial⟩
    · decide +kernel
    · decide +kernel

theorem arrivalsOf_outOfOrder :
    ArrivalsOf sampleHost sampleLiveSimSettings dispatchedTables tenShares.fills outOfOrder where
  only := by simp [outOfOrder, arrivalOf, tenShares]
  fresh := by
    refine ⟨?_, ?_, trivial⟩
    · decide +kernel
    · decide +kernel

theorem outOfOrder_counters :
    (((eventSystem sampleHost sampleLiveSimSettings).run dispatchedTables
      (outOfOrder.map Arrival.delivery)).orders.find? "order-1").map
        (fun order => (order.filledQuantity, order.remainingQuantity, order.status)) =
      some (10, 6, .partiallyFilled) := by
  decide +kernel

/-- The ten shares are all there, and the order counts sixteen. -/
theorem late_execution_counts_again :
    Unfilled dispatchedTables dispatchedBuy tenShares.fills ∧
      (∀ fill ∈ tenShares.fills, ReportsFill sampleHost sampleLiveSimSettings dispatchedTables
        dispatchedBuy.liveSimOrderId fill) ∧
      ArrivalsOf sampleHost sampleLiveSimSettings dispatchedTables tenShares.fills inOrder ∧
      ArrivalsOf sampleHost sampleLiveSimSettings dispatchedTables tenShares.fills outOfOrder ∧
      ¬ SettleAlike sampleHost sampleLiveSimSettings dispatchedTables dispatchedBuy
        tenShares.fills inOrder outOfOrder := by
  refine ⟨unfilled_dispatchedBuy, reportsFill_tenShares, arrivalsOf_inOrder,
    arrivalsOf_outOfOrder, ?_⟩
  rintro ⟨_, final, _, isFinal, _, accounts, _⟩
  have counters := outOfOrder_counters
  rw [Option.map_eq_some_iff] at counters
  rcases counters with ⟨row, found, values⟩
  obtain rfl : final = row := Option.some.inj (isFinal.symm.trans found)
  have meets := accounts.meets
  have quantity : dispatchedBuy.quantity = 10 := rfl
  simp only [Prod.mk.injEq] at values
  omega

theorem fills_settle_tenShares :
    SettleAlike sampleHost sampleLiveSimSettings dispatchedTables dispatchedBuy tenShares.fills
        inOrder outOfOrder ↔
      ArrivesInStep sampleHost sampleLiveSimSettings dispatchedTables dispatchedBuy
          tenShares.fills inOrder ∧
        ArrivesInStep sampleHost sampleLiveSimSettings dispatchedTables dispatchedBuy
          tenShares.fills outOfOrder ∧
        lastFillEndsExit sampleHost sampleLiveSimSettings dispatchedTables [] false inOrder =
          lastFillEndsExit sampleHost sampleLiveSimSettings dispatchedTables [] false
            outOfOrder :=
  fills_settle_iff sampleHost sampleLiveSimSettings dispatchedTables dispatchedBuy tenShares
    inOrder outOfOrder unfilled_dispatchedBuy reportsFill_tenShares arrivalsOf_inOrder
    arrivalsOf_outOfOrder

end SuseokTrader
