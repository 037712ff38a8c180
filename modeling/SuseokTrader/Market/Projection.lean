import SuseokTrader.Market.Ticks

/-!
# The market data projection

An event is projected inside one transaction, and its result recorded with it.
A failure takes the transaction back and leaves an error row and an error
result. An event that has been projected before is a duplicate; for a price
tick an error row counts as well.
-/

namespace SuseokTrader

/-! ## Tables -/

structure TickSample where
  eventId : String
  code : String
  exchange : String
  session : String
  price : Int
  cumulativeVolume : Int
  cumulativeTradeValue : Rat
  volumeDelta : Int
  tradeValueDelta : Rat
  executionStrength : Rat
  eventTs : String
  receivedAt : String
  source : String
  metadataJson : String

instance : Keyed TickSample String := ⟨TickSample.eventId⟩

structure LatestTick where
  code : String
  exchange : String
  cumulativeVolume : Int
  cumulativeTradeValue : Rat
  eventTs : String
  eventId : String

instance : Keyed LatestTick (String × String) := ⟨fun row => (row.code, row.exchange)⟩

structure ConditionSignal where
  eventId : String
  conditionId : String
  conditionName : String
  code : String
  name : String
  action : ConditionEventAction
  price : Option Int
  eventTs : String
  receivedAt : String
  source : String
  metadataJson : String

instance : Keyed ConditionSignal String := ⟨ConditionSignal.eventId⟩

structure TrSnapshot where
  eventId : String
  requestId : String
  trCode : String
  requestName : String
  code : Option String
  rowJson : String
  eventTs : String
  receivedAt : String
  source : String

structure ProjectionError where
  eventId : String
  eventType : String
  code : Option String
  errorMessage : String
  payloadJson : String

structure StoredEvent where
  event : GatewayEvent
  accepted : Bool

instance : Keyed StoredEvent String := ⟨fun row => row.event.eventId⟩

/-- The tables the projection reads back, with the stored events and the event results. -/
structure MarketTables where
  samples : Table TickSample
  latest : Table LatestTick
  signals : Table ConditionSignal
  snapshots : List TrSnapshot
  errors : List ProjectionError
  gatewayEvents : Table StoredEvent
  ledger : ResultLedger

structure ProjectedEvent where
  eventId : String
  eventType : String
  source : String
  ts : Instant
  payload : Payload

def GatewayEvent.projected (event : GatewayEvent) : ProjectedEvent where
  eventId := event.eventId
  eventType := event.eventType
  source := event.source
  ts := event.ts
  payload := event.payload

/-- What a call takes from outside: the clock, and for an event identifier the number of bars,
premarket snapshots and cross-exchange observations its tick writes, or the failure to. -/
structure ProjectionReadings where
  now : Instant
  derivedRows : String → Checked Nat

/-! ## Errors -/

variable (host : Host)

def payloadCode (payload : Payload) : Option String :=
  match payload.get "code" with
  | .null => none
  | value =>
      match validateStockCode value with
      | .ok code => some code
      | .error _ => some (value.text host)

variable (tables : MarketTables)

variable (event : ProjectedEvent)

def recordProjectionError (errorMessage : String) : MarketTables :=
  { tables with
    errors := tables.errors ++ [
      { eventId := event.eventId
        eventType := normalizeEventType event.eventType
        code := payloadCode host event.payload
        errorMessage := errorMessage
        payloadJson := canonicalJson event.payload }] }

variable (eventId : String)

def projectionErrorMessage : Option String :=
  ((tables.errors.filter fun row => row.eventId = eventId).getLast?).map
    ProjectionError.errorMessage

def hasProjectionError : Bool :=
  tables.errors.any fun row => row.eventId = eventId

def projectionExists (eventType eventId : String) : Bool :=
  if eventType = "price_tick" then
    (tables.samples.find? eventId).isSome || hasProjectionError tables eventId
  else if eventType = "condition_event" then (tables.signals.find? eventId).isSome
  else if eventType = "tr_response" then tables.snapshots.any fun row => row.eventId = eventId
  else false

/-! ## Times -/

def storedTimes : Option (String × String) := do
  let position ← tables.ledger.events.find? eventId
  let stored ← tables.gatewayEvents.find? eventId
  return (datetimeToWire stored.event.ts, position.receivedAt)

/-- The stored times of an event, of the event it was made from, or its own. -/
def eventStoreTimes (now : Instant) : String × String :=
  let parent := (event.payload.mapping "metadata").get "parent_event_id"
  match storedTimes tables event.eventId with
  | some times => times
  | none =>
      match if parent.truthy then storedTimes tables (parent.text host) else none with
      | some times => times
      | none => (datetimeToWire event.ts, datetimeToWire now)

def timestampIsBefore (incoming current : String) : Bool :=
  match parseTimestamp (.str incoming) "incoming_event_ts",
      parseTimestamp (.str current) "current_event_ts" with
  | .ok incoming, .ok current => incoming < current
  | _, _ => incoming < current

/-! ## Projecting a price tick -/

def upsertLatest (latest : Table LatestTick) (row : LatestTick) : Table LatestTick :=
  match latest.insert? row with
  | some inserted => inserted
  | none =>
      latest.update (Keyed.key row)
        (fun old =>
          { old with
            cumulativeVolume := row.cumulativeVolume
            cumulativeTradeValue := row.cumulativeTradeValue
            eventTs := row.eventTs
            eventId := row.eventId })
        (fun _ => rfl)

variable (tick : BrokerPriceTick)

def tickSample (event : ProjectedEvent) (exchange : String)
    (previous : Option LatestTick) (times : String × String) : TickSample where
  eventId := event.eventId
  code := tick.code
  exchange := exchange
  session := marketSessionForTick tick.tradeTime exchange
  price := tick.price
  cumulativeVolume := tick.volume
  cumulativeTradeValue := tick.tradeValue
  volumeDelta := previous.elim tick.volume fun row => max (tick.volume - row.cumulativeVolume) 0
  tradeValueDelta := previous.elim (tick.tradeValue : Rat)
    fun row => max (tick.tradeValue - row.cumulativeTradeValue) 0
  executionStrength := tick.executionStrength
  eventTs := times.1
  receivedAt := times.2
  source := event.source
  metadataJson := canonicalJson (event.payload.mapping "metadata")

def latestTick (event : ProjectedEvent) (exchange eventTs : String) :
    LatestTick where
  code := tick.code
  exchange := exchange
  cumulativeVolume := tick.volume
  cumulativeTradeValue := tick.tradeValue
  eventTs := eventTs
  eventId := event.eventId

def invalidReasons (payload : Payload) : List String :=
  if "PRICE_MISSING" ∈ priceTickPayloadReasonCodes host payload then ["PRICE_MISSING"] else []

def invalidTickMessage (reasons : List String) : String :=
  "INVALID_PRICE_TICK:" ++
    if reasons = [] then MarketDataQualityStatus.invalid.value else String.intercalate "," reasons

/-- The rows of a tick that is valid: its sample, and what follows from the newest one. -/
def writePriceTick (exchange : String) (readings : ProjectionReadings) :
    Checked (MarketTables × Nat) :=
  let times := eventStoreTimes host tables event readings.now
  let previous := tables.latest.find? (tick.code, exchange)
  match tables.samples.insert? (tickSample tick event exchange previous times) with
  | none => .error (.crash "UNIQUE constraint failed: market_tick_samples.event_id")
  | some samples =>
      let tables := { tables with samples := samples }
      if previous.any fun row => timestampIsBefore times.1 row.eventTs then .ok (tables, 1)
      else do
        let derived ← readings.derivedRows event.eventId
        return ({ tables with
          latest := upsertLatest tables.latest (latestTick tick event exchange times.1) },
          1 + derived)

def processPriceTick (readings : ProjectionReadings) : Checked (MarketTables × Nat) :=
  if isQuoteOnly host event.payload then .ok (tables, 0)
  else do
    let tick ← BrokerPriceTick.fromDict host event.payload
    let exchange ← priceTickPayloadExchange host event.payload
    let reasons := invalidReasons host event.payload
    if reasons ≠ [] ∨ assessPriceTickQuality tick = .invalid then
      return (recordProjectionError host tables event (invalidTickMessage reasons), 0)
    else writePriceTick host tables event tick exchange readings

/-! ## Projecting the other events -/

def processConditionEvent (readings : ProjectionReadings) : Checked (MarketTables × Nat) := do
  let condition ← BrokerConditionEvent.fromDict host event.payload
  let times := eventStoreTimes host tables event readings.now
  match tables.signals.insert? {
      eventId := event.eventId
      conditionId := condition.conditionId
      conditionName := condition.conditionName
      code := condition.code
      name := condition.name
      action := condition.action
      price := condition.price
      eventTs := times.1
      receivedAt := times.2
      source := event.source
      metadataJson := canonicalJson condition.metadata } with
  | some signals => return ({ tables with signals := signals }, 2)
  | none => .error (.crash "UNIQUE constraint failed: market_condition_signals.event_id")

def trSnapshot (response : BrokerTrResponse) (times : String × String)
    (row : Payload) : TrSnapshot where
  eventId := event.eventId
  requestId := response.requestId
  trCode := response.trCode
  requestName := response.requestName
  code := extractRowCode row
  rowJson := canonicalJson row
  eventTs := times.1
  receivedAt := times.2
  source := event.source

def syntheticPriceTickEventId (parentEventId : String) (rowIndex : Nat) (code exchange : String) :
    String :=
  parentEventId ++ ":synthetic_price_tick:" ++ toString rowIndex ++ ":" ++ code ++ ":" ++ exchange

def withSyntheticPriceTickMetadata (payload : Payload) (parent : GatewayEvent)
    (response : BrokerTrResponse) (rowIndex : Nat) : Payload :=
  Json.setField "metadata" (.obj (withFields (payload.mapping "metadata") [
    ("parent_event_id", .str parent.eventId),
    ("parent_command_id", optionalJson parent.commandId),
    ("parent_tr_code", .str response.trCode),
    ("parent_request_name", .str response.requestName),
    ("synthetic_event", .bool true),
    ("row_index", .int rowIndex)])) payload

/-- A row of a TR answer as a price tick, unless it was one before. -/
def processSyntheticTick (host : Host) (parent : GatewayEvent) (response : BrokerTrResponse)
    (eventTs : String) (readings : ProjectionReadings) (projected : MarketTables × Nat)
    (row : Nat × Payload) : Checked (MarketTables × Nat) := do
  let tick ← BrokerPriceTick.fromDict host row.2
  let exchange ← priceTickPayloadExchange host row.2
  let childId := syntheticPriceTickEventId parent.eventId row.1 tick.code exchange
  if projectionExists projected.1 "price_tick" childId then return projected
  else do
    let ts ← parseTimestamp (.str eventTs) "event_ts"
    let (tables, count) ← processPriceTick host projected.1
      { eventId := childId
        eventType := "price_tick"
        source := parent.source
        ts := ts
        payload := withSyntheticPriceTickMetadata row.2 parent response row.1 } readings
    return (tables, projected.2 + count)

def processTrResponse (event : GatewayEvent)
    (readings : ProjectionReadings) : Checked (MarketTables × Nat) := do
  let response ← BrokerTrResponse.fromDict event.payload
  let times := eventStoreTimes host tables event.projected readings.now
  let tables := { tables with
    snapshots := tables.snapshots ++ response.rows.map (trSnapshot event.projected response times) }
  let ticks ← candidateQuoteRefreshTickPayloadsWithRowIndex host event.payload times.1
  ticks.foldlM (processSyntheticTick host event response times.1 readings)
    (tables, response.rows.length)

/-! ## Projecting an event -/

inductive MarketDataStatus where
  | disabled
  | ignored
  | duplicate
  | applied
  | error
deriving DecidableEq

structure MarketDataProcessResult where
  status : MarketDataStatus
  appliedCount : Nat
  ignoredCount : Nat
  errorCount : Nat
  errorMessage : Option String

def passedOver (status : MarketDataStatus) : MarketDataProcessResult where
  status := status
  appliedCount := 0
  ignoredCount := 1
  errorCount := 0
  errorMessage := none

def marketDataEventTypes : List String :=
  ["price_tick", "condition_event", "tr_response"]

def marketDataReport (status : ProjectionResultStatus) (outcome : String)
    (errorMessage : Option String) : ResultReport where
  projectionName := "market_data"
  eventId := eventId
  status := status
  outcome := outcome
  eventRowid := none
  eventType := none
  eventReceivedAt := none
  errorMessage := errorMessage

def recordMarketDataResult (report : ResultReport) (now : Instant) :
    Checked MarketTables := do
  let ledger ← recordProjectionEventResult tables.ledger report now
  return { tables with ledger := ledger }

/-- The watermark moves forward with a stored event. -/
def advanceMarketDataWatermarkForEvent (now : Instant) :
    MarketTables :=
  match tables.ledger.events.find? eventId with
  | none => tables
  | some row =>
      { tables with
        ledger := { tables.ledger with
          watermarks := advanceProjectionWatermark tables.ledger.watermarks "market_data"
            row.eventRowid (some eventId) (some row.receivedAt) now } }

def withMarketDataWatermark (eventId outcome : String) (now : Instant) :
    Checked MarketTables := do
  let tables ← recordMarketDataResult tables (marketDataReport eventId .success outcome none) now
  return advanceMarketDataWatermarkForEvent tables eventId now

variable (event : GatewayEvent)

/-- The projection of an event by its type, with the number of rows. -/
def applyEvent (readings : ProjectionReadings) : Checked (MarketTables × Nat) :=
  if normalizeEventType event.eventType = "price_tick" then
    processPriceTick host tables event.projected readings
  else if normalizeEventType event.eventType = "condition_event" then
    processConditionEvent host tables event.projected readings
  else processTrResponse host tables event readings

/-- The transaction of a call: the rows and the result of an event. -/
def projectEvent (readings : ProjectionReadings) : Checked (MarketTables × Nat) := do
  let (tables, count) ← applyEvent host tables event readings
  match projectionErrorMessage tables event.eventId with
  | none => do
      let tables ← withMarketDataWatermark tables event.eventId
        (if count = 0 then "IGNORED" else "APPLIED") readings.now
      return (tables, count)
  | some message => do
      let tables ← recordMarketDataResult tables
        (marketDataReport event.eventId .error "INLINE_PROJECTION_ERROR" (some message))
        readings.now
      return (tables, count)

inductive DatabaseFault where
  | locked
  | failed (message : String)

def Failure.message : Failure → String
  | invalid message | crash message => message

def recordProjectionFailure (message : String) (now : Instant) : Checked MarketTables :=
  recordMarketDataResult (recordProjectionError host tables event.projected message)
    (marketDataReport event.eventId .error "INLINE_PROJECTION_EXCEPTION" (some message)) now

def erroneous (message : String) : MarketDataProcessResult where
  status := .error
  appliedCount := 0
  ignoredCount := 0
  errorCount := 1
  errorMessage := some message

def appliedRows (count : Nat) : MarketDataProcessResult where
  status := .applied
  appliedCount := count
  ignoredCount := 0
  errorCount := 0
  errorMessage := none

/-- A call whose transaction failed. In a transaction of its caller it raises what it met. -/
def failedCall (commit : Bool)
    (readings : ProjectionReadings) (failure : Failure) :
    MarketTables × Checked MarketDataProcessResult :=
  if commit then
    match recordProjectionFailure host tables event failure.message readings.now with
    | .ok written => (written, .ok (erroneous failure.message))
    | .error other => (tables, .error other)
  else (tables, .error failure)

/-- A call for an event that was not projected before. -/
def projectInTransaction
    (commit : Bool) (readings : ProjectionReadings) (fault : Option DatabaseFault) :
    MarketTables × Checked MarketDataProcessResult :=
  match fault with
  | some .locked => (tables, .error (.crash "database is locked"))
  | some (.failed message) => failedCall host tables event commit readings (.crash message)
  | none =>
      match projectEvent host tables event readings with
      | .error failure => failedCall host tables event commit readings failure
      | .ok (written, count) =>
          if normalizeEventType event.eventType = "price_tick" ∧ count = 0 then
            (written, .ok (passedOver .ignored))
          else (written, .ok (appliedRows count))

/-- A call of the projection. A call that raises changes nothing. -/
def processGatewayEvent (enabled : Bool) (tables : MarketTables)
    (event : GatewayEvent) (commit : Bool) (readings : ProjectionReadings)
    (fault : Option DatabaseFault) : MarketTables × Checked MarketDataProcessResult :=
  let eventType := normalizeEventType event.eventType
  if !enabled then (tables, .ok (passedOver .disabled))
  else if eventType ∉ marketDataEventTypes then (tables, .ok (passedOver .ignored))
  else if projectionExists tables eventType event.eventId then
    match fault with
    | some _ => (tables, .error (.crash "database is locked"))
    | none =>
        match withMarketDataWatermark tables event.eventId "DUPLICATE" readings.now with
        | .ok written => (written, .ok (passedOver .duplicate))
        | .error failure => (tables, .error failure)
  else projectInTransaction host tables event commit readings fault

end SuseokTrader
