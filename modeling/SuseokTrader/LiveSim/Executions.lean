import SuseokTrader.LiveSim.Tables

/-!
# Executions

An execution event is read from its payload, looked up by its execution key,
and applied to its order and to a position. The handler runs inside one
transaction: a failure leaves every table as it was.
-/

namespace SuseokTrader

/-! ## Readings of a payload -/

def withFields (fields updates : Payload) : Payload :=
  updates.foldl (fun fields (key, value) => Json.setField key value fields) fields

namespace Json

def digitGroups (afterDigit : Bool) : List Char → Option (List Char)
  | [] => some []
  | ['_'] => none
  | '_' :: digit :: rest =>
      if afterDigit && (decimalValue digit).isSome then
        (digitGroups true rest).map (digit :: ·)
      else none
  | c :: rest => (digitGroups (decimalValue c).isSome rest).map (c :: ·)

def truncate (value : Rat) : Int :=
  if value < 0 then value.ceil else value.floor

/-- `int(value)` -/
def toInt (host : Host) : Json → Checked Int
  | .bool value => .ok value.toNat
  | .int value => .ok value
  | .float repr =>
      match host.float repr with
      | some (.finite value) => .ok (truncate value)
      | _ => .error (.crash "cannot convert float to integer")
  | .str value =>
      match (digitGroups false (Text.strip value).toList).bind
          fun digits => integerText (String.ofList digits) with
      | some parsed => .ok parsed
      | none => .error (.crash "invalid literal for int()")
  | _ => .error (.crash "int() argument must be a string or a number")

/-- `float(value)` -/
def toFloat (host : Host) : Json → Checked Float64
  | .bool value => .ok (.finite value.toNat)
  | .int value =>
      match host.floatOfInt value with
      | some parsed => .ok parsed
      | none => .error (.crash "int too large to convert to float")
  | .float text | .str text =>
      match host.float text with
      | some parsed => .ok parsed
      | none => .error (.crash "could not convert string to float")
  | _ => .error (.crash "float() argument must be a string or a number")

def toObject (host : Host) (value : Json) : Checked Payload :=
  if value.truthy then
    match value.asObject with
    | some fields => .ok fields
    | none =>
        match loads host.floatRepr (text host value) with
        | some loaded => .ok (loaded.asObject.getD [])
        | none => .error (.crash "value is not JSON")
  else .ok []

def columnText : Json → Checked (Option String)
  | .null => .ok none
  | .bool value => .ok (some (if value then "1" else "0"))
  | .int value => .ok (some (String.ofList (renderInt value)))
  | .float repr => .ok (some repr)
  | .str value => .ok (some value)
  | .arr _ | .obj _ => .error (.crash "type is not supported")

end Json

def requirePrice (price : Float64) : Checked {price : Rat // 0 ≤ price} :=
  match price with
  | .finite value =>
      if nonNegative : 0 ≤ value then .ok ⟨value, nonNegative⟩
      else Checked.invalid "price must be >= 0.0"
  | _ => Checked.invalid "price must be finite"

def isSimulationLikeMode (value : String) : Bool :=
  Text.upper (Text.strip value) ∈ ["SIMULATION", "MOCK", "PAPER", "MOCK_TRADING", "LIVE_SIM"]

def sideOfText (side : String) : Checked LiveSimSide := do
  let value ← parseStrEnum (.str side) ["BUY", "SELL"] "side"
  return if value = "BUY" then .buy else .sell

/-! ## Positions -/

structure PositionResult where
  eventType : String
  positionId : Option String
  quantityDelta : Int
  realizedPnl : Rat
  remainingQuantity : Option Int

def openedOrder (left right : LiveSimPosition) : Ordering :=
  (compare left.openedAt right.openedAt).then (compare left.positionId right.positionId)

def takesFills (accountId code : String) (includeClosing : Bool) (position : LiveSimPosition) :
    Bool :=
  position.accountId = accountId && position.code = code &&
    (match position.status with
      | .opened | .reconcileMismatch => true
      | .closing => includeClosing
      | .closed => false)

def positionByAccountCode (positions : Table LiveSimPosition) (accountId code : String)
    (includeClosing : Bool) : Option LiveSimPosition :=
  ((positions.rows.filter (takesFills accountId code includeClosing)).insertionSort
    fun left right => (openedOrder left right).isLE).head?

def priceOr (other : Option Rat) (price : Rat) : Rat :=
  match other with
  | some other => if other = 0 then price else other
  | none => price

variable (settings : LiveSimSettings)

/-- The position that the first fill of a BUY order opens. -/
def openedPosition (order : LiveSimOrder) (positionId : String)
    (quantity : Int) (price : Rat) (executedAt : String) : LiveSimPosition :=
  let fillNotional := quantity * price
  let entryCost := fillNotional + fillNotional * settings.feeRate
  { positionId := positionId
    accountId := order.accountId
    tradeDate := order.tradeDate
    code := order.code
    name := order.name
    quantity := quantity
    availableQuantity := quantity
    avgEntryPrice := entryCost / quantity
    totalEntryNotional := entryCost
    realizedPnl := 0
    unrealizedPnl := 0
    highestPrice := some price
    lowestPrice := some price
    openedAt := executedAt
    closedAt := none
    lastPrice := some price
    lastPriceAt := some executedAt
    status := .opened
    sourceLiveSimOrderId := order.liveSimOrderId
    sourceLiveSimIntentId := order.liveSimIntentId
    updatedAt := executedAt }

/-- A position that a BUY fill adds to. -/
def increasedPosition (quantity : Int) (price : Rat)
    (executedAt : String) (position : LiveSimPosition) : LiveSimPosition :=
  let newQuantity := position.quantity + quantity
  let fillNotional := quantity * price
  let newNotional := position.totalEntryNotional + (fillNotional + fillNotional * settings.feeRate)
  { position with
    quantity := newQuantity
    availableQuantity := position.availableQuantity + quantity
    avgEntryPrice := if newQuantity > 0 then newNotional / newQuantity else 0
    totalEntryNotional := newNotional
    highestPrice := some (max (priceOr position.highestPrice price) price)
    lowestPrice := some (min (priceOr position.lowestPrice price) price)
    lastPrice := some price
    lastPriceAt := some executedAt
    status := .opened
    updatedAt := executedAt }

variable (quantity : Int)

theorem key_increasedPosition (price : Rat)
    (executedAt : String) (position : LiveSimPosition) :
    Keyed.key (increasedPosition settings quantity price executedAt position) =
      Keyed.key position :=
  rfl

variable (tables : LiveSimTables)

def applyBuyFill (order : LiveSimOrder)
    (positionId : String) (quantity : Int) (price : Rat) (executedAt : String) :
    Checked (LiveSimTables × PositionResult) :=
  match positionByAccountCode tables.positions order.accountId order.code false with
  | none =>
      match tables.positions.insert?
          (openedPosition settings order positionId quantity price executedAt) with
      | some positions =>
          .ok ({ tables with positions := positions },
            { eventType := "POSITION_OPENED", positionId := some positionId
              quantityDelta := quantity, realizedPnl := 0, remainingQuantity := none })
      | none => .error (.crash "UNIQUE constraint failed: live_sim_positions.position_id")
  | some position =>
      .ok (tables.updatePosition position.positionId
          (increasedPosition settings quantity price executedAt)
          (key_increasedPosition settings quantity price executedAt),
        { eventType := "POSITION_INCREASED", positionId := some position.positionId
          quantityDelta := quantity, realizedPnl := 0, remainingQuantity := none })

def netUnrealizedPnl (avgEntryPrice lastPrice : Rat) :
    Rat :=
  if quantity ≤ 0 then 0
  else
    let exitNotional := lastPrice * quantity
    (lastPrice - avgEntryPrice) * quantity - exitNotional * settings.feeRate -
      exitNotional * settings.taxRate

def realizedPnl (position : LiveSimPosition) (quantity : Int)
    (price : Rat) : Rat :=
  (price - position.avgEntryPrice) * quantity - price * quantity * settings.feeRate -
    price * quantity * settings.taxRate

/-- A position that a SELL fill takes from. -/
def reducedPosition (price : Rat)
    (executedAt : String) (position : LiveSimPosition) : LiveSimPosition :=
  let newQuantity := position.quantity - quantity
  { position with
    quantity := newQuantity
    availableQuantity := position.availableQuantity - quantity
    totalEntryNotional := position.avgEntryPrice * newQuantity
    realizedPnl := position.realizedPnl + realizedPnl settings position quantity price
    unrealizedPnl := netUnrealizedPnl settings newQuantity position.avgEntryPrice price
    highestPrice := some (max (priceOr position.highestPrice price) price)
    lowestPrice := some (min (priceOr position.lowestPrice price) price)
    lastPrice := some price
    lastPriceAt := some executedAt
    status := if newQuantity = 0 then .closed else .closing
    closedAt := if newQuantity = 0 then some executedAt else position.closedAt
    updatedAt := executedAt }

theorem key_reducedPosition (price : Rat)
    (executedAt : String) (position : LiveSimPosition) :
    Keyed.key (reducedPosition settings quantity price executedAt position) =
      Keyed.key position :=
  rfl

def mismatchedPosition (executedAt : String) (position : LiveSimPosition) : LiveSimPosition :=
  { position with status := .reconcileMismatch, updatedAt := executedAt }

theorem key_mismatchedPosition (executedAt : String) (position : LiveSimPosition) :
    Keyed.key (mismatchedPosition executedAt position) = Keyed.key position :=
  rfl

def positionOfSell (positions : Table LiveSimPosition) (order : LiveSimOrder)
    (named : Option String) : Option LiveSimPosition :=
  (named.bind positions.find?).or
    (positionByAccountCode positions order.accountId order.code true)

def applySellFill (order : LiveSimOrder)
    (named : Option String) (quantity : Int) (price : Rat) (executedAt : String) :
    LiveSimTables × PositionResult :=
  match positionOfSell tables.positions order named with
  | none =>
      (tables,
        { eventType := "RECONCILE_MISMATCH", positionId := none, quantityDelta := 0
          realizedPnl := 0, remainingQuantity := none })
  | some position =>
      if quantity > position.availableQuantity then
        (tables.updatePosition position.positionId (mismatchedPosition executedAt)
            (key_mismatchedPosition executedAt),
          { eventType := "RECONCILE_MISMATCH", positionId := some position.positionId
            quantityDelta := 0, realizedPnl := 0, remainingQuantity := none })
      else
        (tables.updatePosition position.positionId
            (reducedPosition settings quantity price executedAt)
            (key_reducedPosition settings quantity price executedAt),
          { eventType :=
              if position.quantity - quantity = 0 then "POSITION_CLOSED" else "POSITION_REDUCED"
            positionId := some position.positionId
            quantityDelta := -quantity
            realizedPnl := realizedPnl settings position quantity price
            remainingQuantity := some (position.quantity - quantity) })

/-! ## Orders -/

def setOrderStatus (status : LiveSimOrderStatus) (order : LiveSimOrder) : LiveSimOrder :=
  { order with status := status }

variable (status : LiveSimOrderStatus) (order : LiveSimOrder)

theorem key_setOrderStatus :
    Keyed.key (setOrderStatus status order) = Keyed.key order :=
  rfl

def setExitIntentStatus (status : ExitIntentStatus) (intent : ExitIntent) : ExitIntent :=
  { intent with status := status }

theorem key_setExitIntentStatus (status : ExitIntentStatus) (intent : ExitIntent) :
    Keyed.key (setExitIntentStatus status intent) = Keyed.key intent :=
  rfl

def setExitSignalStatus (status : ExitSignalStatus) (signal : ExitSignal) : ExitSignal :=
  { signal with status := status }

theorem key_setExitSignalStatus (status : ExitSignalStatus) (signal : ExitSignal) :
    Keyed.key (setExitSignalStatus status signal) = Keyed.key signal :=
  rfl

def PositionResult.closes (result : PositionResult) : Bool :=
  result.remainingQuantity.getD 0 = 0

def markExitAfterSellFill
    (result : PositionResult) (orderStatus : LiveSimOrderStatus) : LiveSimTables :=
  match tables.exitIntentByOrderId order.liveSimOrderId with
  | none => tables
  | some intent =>
      { tables with
        exitIntents := tables.exitIntents.update intent.exitIntentId
          (setExitIntentStatus (if result.closes then .closed else .commandQueued))
          (key_setExitIntentStatus _)
        exitSignals := tables.exitSignals.update intent.exitSignalId
          (setExitSignalStatus (if result.closes then .closed else .commandQueued))
          (key_setExitSignalStatus _)
        orders := tables.orders.update order.liveSimOrderId
          (setOrderStatus (if result.closes then .exitFilled else orderStatus))
          (key_setOrderStatus _) }

variable (executions : Table LiveSimExecution)

/-- The mean price of the executions of an order, weighted by quantity. -/
def averageFillPrice (orderId : String) : Rat :=
  let fills := executions.rows.filter fun execution => execution.liveSimOrderId = orderId
  let quantity : Int := (fills.map LiveSimExecution.quantity).sum
  if quantity = 0 then 0
  else (fills.map fun execution => execution.price * (execution.quantity : Rat)).sum / quantity

def filledOrder (filledQuantity remainingQuantity : Int)
    (avgFillPrice : Rat) (now : String) (order : LiveSimOrder) : LiveSimOrder :=
  { order with
    status := status
    filledQuantity := filledQuantity
    remainingQuantity := remainingQuantity
    avgFillPrice := some avgFillPrice
    lastEventAt := some now }

theorem key_filledOrder (filledQuantity remainingQuantity : Int)
    (avgFillPrice : Rat) (now : String) (order : LiveSimOrder) :
    Keyed.key (filledOrder status filledQuantity remainingQuantity avgFillPrice now order) =
      Keyed.key order :=
  rfl

/-! ## Execution events -/

/-- The new identifiers a call draws. -/
structure FreshIds where
  executionId : String
  positionId : String

/-- What the handler reports back. -/
inductive LifecycleReply where
  | ignored (reason : String)
  | order (liveSimOrderId : String)
  | duplicate (liveSimOrderId : String)
  | execution (liveSimOrderId liveSimExecutionId : String) (position : PositionResult)
  | cancel (cancelIntentId liveSimOrderId : String)
  | observed (eventId : String)

/-- An execution as its event reports it. -/
structure ExecutionReport where
  brokerExecutionId : String
  executionKey : String
  quantity : Int
  price : Rat
  remainingQuantity : Option Int
  brokerOrderNo : Option String
  accountId : String
  code : String
  side : LiveSimSide
  executedAt : String
  executedAtText : String
  positionId : Option String
  positive : 1 ≤ quantity
  nonNegative : 0 ≤ price

def explicitExecutionId (payload : Payload) : Json :=
  ((payload.get "execution_id").orElse (payload.get "broker_execution_id")).orElse
    (payload.get "chejan_execution_id")

variable (host : Host)

def executionKey (order : LiveSimOrder) (payload : Payload) (ts : Instant) :
    String :=
  if (explicitExecutionId payload).truthy then
    "broker-exec:" ++ order.liveSimOrderId ++ ":" ++ Json.text host (explicitExecutionId payload)
  else
    let executedAt := payload.get "executed_at"
    String.intercalate ":"
      ["broker-exec", order.liveSimOrderId,
        Json.textOrEmpty host
          ((payload.get "broker_order_no").orElse (payload.get "broker_order_id")),
        Json.textOrEmpty host (payload.get "side"),
        Json.textOrEmpty host (payload.get "quantity"),
        Json.textOrEmpty host (payload.get "price"),
        if executedAt.truthy then Json.text host executedAt else datetimeToWire ts]

def executionAlreadyApplied (key : String) : Checked Bool := do
  let key ← requireNonEmptyStr (.str key) "execution_key"
  return executions.rows.any fun execution => execution.executionKey = key

theorem one_le_val (quantity : {quantity : Int // 1 ≤ quantity}) : 1 ≤ quantity.val :=
  quantity.property

def requirePositive : Checked {quantity : Int // 1 ≤ quantity} :=
  if positive : 1 ≤ quantity then .ok ⟨quantity, positive⟩
  else Checked.invalid "quantity must be >= 1"

def optionalInt (value : Json) : Checked (Option Int) :=
  if value.isNull then .ok none
  else do
    let value ← value.toInt host
    return some value

/-- The fields of an execution event, as the execution record accepts them. -/
def readExecution (order : LiveSimOrder) (payload metadata : Payload)
    (brokerOrderNo : Json) (key : String) : Checked ExecutionReport := do
  let quantity ← (payload.get "quantity").toInt host
  let price ← (payload.get "price").toFloat host
  let remaining ← optionalInt host (payload.get "remaining_quantity")
  let recordedOrderNo ← optionalNonEmptyStr
    (if brokerOrderNo.truthy then .str (Json.text host brokerOrderNo)
      else match order.brokerOrderNo with
        | some brokerOrderNo => .str brokerOrderNo
        | none => .null) "broker_order_no"
  let accountId ← requireNonEmptyStr
    (.str (if (payload.get "account_id").truthy then Json.text host (payload.get "account_id")
      else order.accountId)) "account_id"
  let code ← validateStockCode (.str (Json.text host (payload.get "code")))
  let side ← sideOfText (Json.text host (payload.get "side"))
  let quantity ← requirePositive quantity
  let price ← requirePrice price
  let executedAt ← parseTimestamp (payload.get "executed_at") "executed_at"
  return {
    brokerExecutionId := Json.textOrEmpty host
      ((payload.get "execution_id").orElse (payload.get "broker_execution_id"))
    executionKey := key
    quantity := quantity.val
    price := price.val
    remainingQuantity := remaining
    brokerOrderNo := recordedOrderNo
    accountId := accountId
    code := code
    side := side
    executedAt := datetimeToWire executedAt
    executedAtText := Json.text host (payload.get "executed_at")
    positionId :=
      if (Json.get metadata "position_id").truthy then
        some (Json.text host (Json.get metadata "position_id"))
      else none
    positive := one_le_val quantity
    nonNegative := price.property }

def ExecutionReport.row (report : ExecutionReport) (order : LiveSimOrder) (executionId : String) :
    LiveSimExecution where
  liveSimExecutionId := executionId
  brokerExecutionId := report.brokerExecutionId
  executionKey := report.executionKey
  liveSimOrderId := order.liveSimOrderId
  liveSimIntentId := order.liveSimIntentId
  brokerOrderNo := report.brokerOrderNo
  accountId := report.accountId
  code := report.code
  side := report.side
  quantity := report.quantity
  price := report.price
  notional := report.price * report.quantity
  executedAt := report.executedAt

def insertExecution (execution : LiveSimExecution) :
    Option (Table LiveSimExecution) :=
  if executions.rows.any fun other => other.executionKey = execution.executionKey then none
  else executions.insert? execution

def ExecutionReport.remaining (report : ExecutionReport) (order : LiveSimOrder) : Int :=
  report.remainingQuantity.getD (max (order.remainingQuantity - report.quantity) 0)

def statusOfRemaining (remaining : Int) : LiveSimOrderStatus :=
  if remaining = 0 then .filled else .partiallyFilled

variable (settings : LiveSimSettings) (tables : LiveSimTables)

/-- The position change of a fill, by the side of the order. -/
def applyFill (order : LiveSimOrder)
    (report : ExecutionReport) (ids : FreshIds) : Checked (LiveSimTables × PositionResult) :=
  match order.side with
  | .buy =>
      applyBuyFill settings tables order ids.positionId report.quantity report.price
        report.executedAtText
  | .sell =>
      let (applied, result) := applySellFill settings tables order report.positionId
        report.quantity report.price report.executedAtText
      .ok (markExitAfterSellFill applied order result
        (statusOfRemaining (report.remaining order)), result)

/-- The tables with the new execution and its order, before a position changes. -/
def recordFill (order : LiveSimOrder) (report : ExecutionReport)
    (executions : Table LiveSimExecution) (now : String) : LiveSimTables :=
  { tables with
    executions := executions
    orders := tables.orders.update order.liveSimOrderId
      (filledOrder (statusOfRemaining (report.remaining order))
        (order.filledQuantity + report.quantity) (report.remaining order)
        (averageFillPrice executions order.liveSimOrderId) now) (key_filledOrder _ _ _ _ _) }

/-- A new execution applied to its order and a position. -/
def applyExecution (order : LiveSimOrder)
    (report : ExecutionReport) (ids : FreshIds) (now : String) :
    Checked (LiveSimTables × LifecycleReply) :=
  match insertExecution tables.executions (report.row order ids.executionId) with
  | none => .error (.crash "UNIQUE constraint failed: live_sim_executions")
  | some executions => do
      let (applied, result) ←
        applyFill settings (recordFill tables order report executions now) order report ids
      return (applied, .execution order.liveSimOrderId ids.executionId result)

/-- An order number or a command names the order of an execution. -/
def orderOfExecution (brokerOrderNo commandId : Json) :
    Checked (Option LiveSimOrder) := do
  let byNumber ←
    if brokerOrderNo.truthy then do
      let number ← requireNonEmptyStr (.str (Json.text host brokerOrderNo)) "broker_order_no"
      pure (tables.orderByBrokerOrderNo number)
    else pure none
  match byNumber with
  | some order => return some order
  | none =>
      if commandId.truthy then do
        let commandId ← requireNonEmptyStr (.str (Json.text host commandId)) "command_id"
        return tables.orderByCommandId commandId
      else return none

variable (payload : Payload)

def recordError : Checked Unit :=
  if (payload.get "code").isNull then .ok ()
  else do
    let _ ← validateStockCode (payload.get "code")
    return ()

def modeText (payload metadata : Payload) (field setting : String) : String :=
  Json.text host
    (((Json.get metadata field).orElse (payload.get field)).orElse (.str setting))

inductive ExecutionReading where
  | ignored (reason : String)
  | observed (eventId : String)
  | duplicate (order : LiveSimOrder)
  | fresh (order : LiveSimOrder) (report : ExecutionReport)

def isSimulated (payload metadata : Payload) : Bool :=
  isSimulationLikeMode (modeText host payload metadata "broker_env" settings.brokerEnv) &&
    isSimulationLikeMode (modeText host payload metadata "account_mode" settings.accountMode) &&
    isSimulationLikeMode (modeText host payload metadata "server_mode" settings.serverMode)

structure NamedExecution where
  order : LiveSimOrder
  metadata : Payload
  brokerOrderNo : Json
  key : String

/-- The execution that a payload names, or the reason why the event is ignored. -/
def nameExecution (commandId : Option String) (ts : Instant) :
    Checked (Except String NamedExecution) := do
  let metadata ← (payload.get "metadata").toObject host
  if !isSimulated host settings payload metadata then do
    recordError payload
    return .error "ACCOUNT_NOT_SIMULATION"
  else do
    let brokerOrderNo := (payload.get "broker_order_id").orElse (payload.get "broker_order_no")
    let commandId := match commandId with
      | some commandId => .str commandId
      | none => Json.get metadata "gateway_command_id"
    let order ← orderOfExecution host tables brokerOrderNo commandId
    match order with
    | none => do
        recordError payload
        return .error "RECONCILE_REQUIRED"
    | some order =>
        return .ok { order := order, metadata := metadata, brokerOrderNo := brokerOrderNo
                     key := executionKey host order payload ts }

/-- An execution event up to its first write. -/
def readExecutionEvent (commandId : Option String) (ts : Instant) :
    Checked ExecutionReading := do
  let name ← nameExecution host settings tables payload commandId ts
  match name with
  | .error reason => return .ignored reason
  | .ok named => do
      let applied ← executionAlreadyApplied tables.executions named.key
      if applied then return .duplicate named.order
      else do
        let report ← readExecution host named.order payload named.metadata named.brokerOrderNo
          named.key
        return .fresh named.order report

/-- The writes of an execution event. -/
def applyReading (ids : FreshIds)
    (now : String) : ExecutionReading → Checked (LiveSimTables × LifecycleReply)
  | .ignored reason => .ok (tables, .ignored reason)
  | .observed eventId => .ok (tables, .observed eventId)
  | .duplicate order => .ok (tables, .duplicate order.liveSimOrderId)
  | .fresh order report => applyExecution settings tables order report ids now

/-! ## Conclusion notices -/

/-- `int(first or second or 0)` is positive, and there is a price. -/
def reportsFill : Checked Bool := do
  let quantity ← (((payload.get "quantity").orElse (payload.get "execution_quantity")).orElse
    (.int 0)).toInt host
  return quantity > 0 &&
    ((payload.get "price").orElse (payload.get "execution_price")).truthy

/-- The execution event that a conclusion notice stands for, if it reports a fill. -/
def translateChejan (event : GatewayEvent) : Checked (Option Payload) := do
  let payload := event.payload
  let fills ← reportsFill host payload
  if fills then do
    let quantity ←
      ((payload.get "quantity").orElse (payload.get "execution_quantity")).toInt host
    -- the price stays as it is: the execution reads the same number from it
    let price := (payload.get "price").orElse (payload.get "execution_price")
    let _ ← price.toFloat host
    let executedAt := ((payload.get "executed_at").orElse (payload.get "event_ts")).orElse
      (.str (datetimeToWire event.ts))
    return some (withFields payload
      [("execution_id", (explicitExecutionId payload).orElse (.str event.eventId)),
        ("quantity", .int quantity), ("price", price), ("executed_at", executedAt)])
  else return none

def readChejanEvent (event : GatewayEvent) : Checked ExecutionReading := do
  let translated ← translateChejan host event
  match translated with
  | some payload =>
      readExecutionEvent host settings tables payload event.commandId event.ts
  | none => return .observed event.eventId

end SuseokTrader
