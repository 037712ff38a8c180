import SuseokTrader.Lib.Run
import SuseokTrader.Market.Projection

/-!
# Inline calls and retries

An accepted event is projected inline, alone or in a batch with others, and the
outbox worker tries again for every job that is left. The worker first looks
whether the event has been projected, projects it where it has not, looks once
more, and records the mark of the job.
-/

namespace SuseokTrader

/-! ## Verifying a job -/

inductive Verification where
  | applied
  | skipped (reason : String)
  | failed (reason message : String)

def olderThanLatest : String :=
  "MARKET_DATA_PRICE_TICK_OLDER_THAN_LATEST"

variable (host : Host) (tables : MarketTables)

/-- Why a price tick has no sample, where there is a reason. -/
def classifyMissingPriceTickSample (event : GatewayEvent) :
    Option Verification :=
  if isQuoteOnly host event.payload then some (.skipped "MARKET_DATA_PRICE_TICK_QUOTE_ONLY")
  else
    match validateStockCode (event.payload.get "code"),
        priceTickPayloadExchange host event.payload with
    | .ok code, .ok exchange =>
        match tables.latest.find? (code, exchange) with
        | some row =>
            if timestampIsBefore (datetimeToWire event.ts) row.eventTs then
              some (.skipped olderThanLatest)
            else none
        | none => none
    | _, _ => none

def verifyEventIdTable (observed : Bool) (reason tableName eventId : String) : Verification :=
  if observed then .applied
  else .failed reason (tableName ++ " missing for event_id=" ++ eventId)

def verifyMarketData (eventType : String)
    (event : GatewayEvent) : Verification :=
  if hasProjectionError tables event.eventId then .applied
  else if eventType = "price_tick" then
    if (tables.samples.find? event.eventId).isSome then .applied
    else
      match classifyMissingPriceTickSample host tables event with
      | some skipped => skipped
      | none => .failed "MARKET_DATA_PRICE_TICK_SAMPLE_MISSING"
          ("market_tick_samples missing for event_id=" ++ event.eventId)
  else if eventType = "condition_event" then
    verifyEventIdTable (tables.signals.find? event.eventId).isSome
      "MARKET_DATA_CONDITION_SIGNAL_MISSING" "market_condition_signals" event.eventId
  else if eventType = "tr_response" then
    match event.payload.get "rows" with
    | .arr (_ :: _) =>
        verifyEventIdTable (tables.snapshots.any fun row => row.eventId = event.eventId)
          "MARKET_DATA_TR_SNAPSHOT_MISSING" "market_tr_snapshots" event.eventId
    | _ => .skipped "MARKET_DATA_TR_RESPONSE_NO_ROWS"
  else .skipped "MARKET_DATA_SHADOW_VERIFY_NOT_SUPPORTED"

variable (job : ProjectionJob)

/-- The verification of a job, from the stored event that it is about. -/
def verifyProjectionOutboxJob :
    Verification :=
  match tables.gatewayEvents.find? (Text.strip job.eventId) with
  | none => .failed "SOURCE_GATEWAY_EVENT_MISSING"
      ("gateway_event not found: " ++ Text.strip job.eventId)
  | some stored =>
      if stored.accepted then
        verifyMarketData host tables (normalizeEventType job.eventType) stored.event
      else .skipped "SKIPPED_SOURCE_NOT_ACCEPTED"

/-! ## Working on a job -/

structure Attempt where
  applies : Bool
  enabled : Bool
  readings : ProjectionReadings
  fault : Option DatabaseFault
  skippedInline : Bool
  sideEffectFailure : Option String
  retryable : Bool
  retryLimit : Int

/-- The projection of a job that was not found projected. -/
def projectJob (event : GatewayEvent)
    (attempt : Attempt) : MarketTables × Verification :=
  match processGatewayEvent host attempt.enabled tables event true attempt.readings
      attempt.fault with
  | (written, .error failure) => (written, .failed "MARKET_DATA_APPLY_EXCEPTION" failure.message)
  | (written, .ok result) =>
      if result.status = .error then
        (written, .failed "MARKET_DATA_APPLY_FAILED" (result.errorMessage.getD "ERROR"))
      else
        match attempt.sideEffectFailure with
        | some message => (written, .failed "DEFERRED_SIDE_EFFECT_ERROR" message)
        | none => (written, verifyProjectionOutboxJob host written job)

def applyMarketDataProjection
    (event : GatewayEvent) (attempt : Attempt) : MarketTables × Verification :=
  match verifyProjectionOutboxJob host tables job with
  | .applied => (tables, .applied)
  | .skipped reason =>
      if reason = olderThanLatest ∧ normalizeEventType job.eventType = "price_tick" ∧
          attempt.skippedInline then
        projectJob host tables job event attempt
      else (tables, .skipped reason)
  | .failed _ _ => projectJob host tables job event attempt

variable (attempt : Attempt)

def applyProjectionOutboxJob : MarketTables × Verification :=
  match tables.gatewayEvents.find? (Text.strip job.eventId) with
  | none => (tables, .failed "SOURCE_GATEWAY_EVENT_MISSING"
      ("gateway_event not found: " ++ Text.strip job.eventId))
  | some stored =>
      if !stored.accepted then (tables, .skipped "SKIPPED_SOURCE_NOT_ACCEPTED")
      else if normalizeEventType job.eventType ∉ marketDataEventTypes then
        (tables, .skipped "MARKET_DATA_APPLY_EVENT_TYPE_UNSUPPORTED")
      else applyMarketDataProjection host tables job stored.event attempt

def Verification.mark : Verification → Mark
  | .applied => .applied []
  | .skipped reason => .skipped reason []
  | .failed reason message =>
      let text := if message = "" then reason else message
      if attempt.retryable then .retryableError text attempt.retryLimit []
      else .error text attempt.retryLimit []

def verifyOrApply : MarketTables × Verification :=
  if attempt.applies then applyProjectionOutboxJob host tables job attempt
  else (tables, verifyProjectionOutboxJob host tables job)

def markJob (mark : Mark) (now : Instant) :
    MarketTables :=
  match recordMark tables.ledger (mark.report job) now with
  | .ok ledger => { tables with ledger := ledger }
  | .error _ => tables

def workOnJob :
    MarketTables :=
  if Text.strip job.projectionName = "market_data" then
    let (written, verification) := verifyOrApply host tables job attempt
    markJob written job (verification.mark attempt) attempt.readings.now
  else tables

/-! ## Runs -/

inductive MarketWrite where
  | store (stored : StoredEvent) (position : EventPosition)
  | project (enabled : Bool) (event : GatewayEvent) (readings : ProjectionReadings)
      (fault : Option DatabaseFault)

/-- An event is stored once, under its own identifier. -/
def storeEvent (stored : StoredEvent) (position : EventPosition) :
    MarketTables :=
  match tables.gatewayEvents.insert? stored,
      tables.ledger.events.insert? { position with eventId := stored.event.eventId } with
  | some gatewayEvents, some events =>
      { tables with gatewayEvents := gatewayEvents, ledger := { tables.ledger with events := events } }
  | _, _ => tables

def isPassedOver (event : GatewayEvent) : Bool :=
  if normalizeEventType event.eventType = "price_tick" then isQuoteOnly host event.payload
  else if normalizeEventType event.eventType = "tr_response" then
    match BrokerTrResponse.fromDict event.payload with
    | .ok response => response.rows.isEmpty
    | .error _ => false
  else false

structure MarketHistory where
  tables : MarketTables
  passedOver : List String

def MarketHistory.passOver (history : MarketHistory) (tables : MarketTables) (eventId : String)
    (passes : Bool) : MarketHistory where
  tables := tables
  passedOver :=
    if passes && !hasProjectionError history.tables eventId then eventId :: history.passedOver
    else history.passedOver

def completes : Checked MarketDataProcessResult → Bool
  | .ok result => result.status = .ignored || result.status = .applied
  | .error _ => false

def MarketWrite.next (host : Host) (commit : Bool) (history : MarketHistory) :
    MarketWrite → MarketHistory
  | .store stored position =>
      { history with tables := storeEvent history.tables stored position }
  | .project enabled event readings fault =>
      let (tables, outcome) :=
        processGatewayEvent host enabled history.tables event commit readings fault
      history.passOver tables event.eventId (isPassedOver host event && completes outcome)

def MarketWrite.raises (host : Host) (history : MarketHistory) : MarketWrite → Bool
  | .store _ _ => false
  | .project enabled event readings fault =>
      match (processGatewayEvent host enabled history.tables event false readings fault).2 with
      | .ok _ => false
      | .error _ => true

def marketWrites (commit : Bool) : System MarketHistory MarketWrite Bool where
  step history write := (write.next host commit history, write.raises host history)

def anyRaises (host : Host) (history : MarketHistory) : List MarketWrite → Bool
  | [] => false
  | write :: writes =>
      write.raises host history || anyRaises host (write.next host false history) writes

inductive MarketOp where
  | write (write : MarketWrite)
  | batch (writes : List MarketWrite) (commits : Bool)
  | work (job : ProjectionJob) (attempt : Attempt)

def marketNext (host : Host) (history : MarketHistory) : MarketOp → MarketHistory
  | .write write => write.next host true history
  | .batch writes commits =>
      if commits && !anyRaises host history writes then
        (marketWrites host false).run history writes
      else history
  | .work job attempt =>
      history.passOver (workOnJob host history.tables job attempt) (Text.strip job.eventId)
        ((history.tables.gatewayEvents.find? (Text.strip job.eventId)).any fun stored =>
          stored.accepted && isPassedOver host stored.event)

def marketSystem : System MarketHistory MarketOp Unit where
  step history op := (marketNext host history op, ())

end SuseokTrader
