import SuseokTrader.Market.Results

/-!
# Rebuilding the market data projection

A rebuild sends the accepted market events to the projection again, in the
order of their rowids. A clearing rebuild empties the tables first, and an
incremental one starts above the watermark.
-/

namespace SuseokTrader

/-! ## Reading the store -/

def lastEventRowid (tables : MarketTables) : Int :=
  (tables.ledger.watermarks.find? "market_data").elim 0 ProjectionWatermark.lastEventRowid

variable (tables : MarketTables)

def replayableEvent (eventId : String) : Option GatewayEvent :=
  match tables.gatewayEvents.find? eventId with
  | some stored =>
      if stored.accepted ∧ stored.event.eventType ∈ marketDataEventTypes then some stored.event
      else none
  | none => none

def replayableRows : List (Int × GatewayEvent) :=
  tables.ledger.events.rows.filterMap fun position =>
    (replayableEvent tables position.eventId).map fun event => (position.eventRowid, event)

def listReplayableGatewayEvents (limit : Option Int)
    (afterEventRowid : Int) : List (Int × GatewayEvent) :=
  let rows := ((replayableRows tables).filter fun row =>
    max afterEventRowid 0 < row.1).insertionSort fun left right => left.1 ≤ right.1
  match limit with
  | none => rows
  | some limit => rows.take (max limit 1).toNat

/-! ## Clearing -/

/-- The tables of the projection are emptied, and its results and its watermark go with them. -/
def clearMarketDataProjection : MarketTables where
  samples := .empty
  latest := .empty
  signals := .empty
  snapshots := []
  errors := []
  gatewayEvents := tables.gatewayEvents
  ledger :=
    { events := tables.ledger.events
      results := tables.ledger.results.deleteWhere fun row => row.projectionName = "market_data"
      watermarks :=
        tables.ledger.watermarks.deleteWhere fun row => row.projectionName = "market_data" }

/-! ## Rebuilding -/

structure MarketCall where
  readings : ProjectionReadings
  fault : Option DatabaseFault

structure MarketRebuildCounts where
  processedCount : Nat
  appliedCount : Nat
  ignoredCount : Nat
  errorCount : Nat

def MarketRebuildCounts.add (counts : MarketRebuildCounts) (result : MarketDataProcessResult) :
    MarketRebuildCounts where
  processedCount := counts.processedCount + 1
  appliedCount := counts.appliedCount + result.appliedCount
  ignoredCount := counts.ignoredCount + result.ignoredCount
  errorCount := counts.errorCount + result.errorCount

structure MarketDataRebuildResult where
  counts : MarketRebuildCounts
  mode : String
  fromEventRowid : Int
  lastEventRowid : Int

/-- The events one after the other, each in a transaction of its own. A call that raises ends
the rebuild. -/
def replayEvents (host : Host) (enabled : Bool) (calls : String → MarketCall)
    (tables : MarketTables) (counts : MarketRebuildCounts) :
    List (Int × GatewayEvent) → MarketTables × Checked MarketRebuildCounts
  | [] => (tables, .ok counts)
  | row :: rows =>
      let call := calls row.2.eventId
      match processGatewayEvent host enabled tables row.2 true call.readings call.fault with
      | (after, .ok result) => replayEvents host enabled calls after (counts.add result) rows
      | (after, .error failure) => (after, .error failure)

structure MarketRebuildRequest where
  clearProjection : Bool
  requireClear : Bool
  incremental : Bool
  limit : Option Int

structure MarketRebuildReadings where
  clearFault : Option DatabaseFault
  calls : String → MarketCall

def replayFrom (host : Host) (enabled : Bool) (tables : MarketTables)
    (request : MarketRebuildRequest) (calls : String → MarketCall) :
    MarketTables × Checked MarketDataRebuildResult :=
  let fromEventRowid := if request.incremental then lastEventRowid tables else 0
  let rows := listReplayableGatewayEvents tables request.limit fromEventRowid
  match replayEvents host enabled calls tables ⟨0, 0, 0, 0⟩ rows with
  | (after, .error failure) => (after, .error failure)
  | (after, .ok counts) =>
      (after, .ok {
        counts := counts
        mode := if request.incremental then "incremental" else "full"
        fromEventRowid := fromEventRowid
        lastEventRowid := lastEventRowid after })

def rebuildMarketDataProjection (host : Host) (enabled : Bool) (tables : MarketTables)
    (request : MarketRebuildRequest) (readings : MarketRebuildReadings) :
    MarketTables × Checked MarketDataRebuildResult :=
  if request.clearProjection ∧ !request.requireClear then
    (tables, Checked.invalid "clear_projection requires require_clear=True")
  else if request.clearProjection ∧ request.incremental then
    (tables, Checked.invalid "incremental rebuild cannot clear projection")
  else if request.clearProjection then
    match readings.clearFault with
    | some _ => (tables, .error (.crash "database is locked"))
    | none =>
        replayFrom host enabled (clearMarketDataProjection tables) request readings.calls
  else replayFrom host enabled tables request readings.calls

def clearingRebuild : MarketRebuildRequest where
  clearProjection := true
  requireClear := true
  incremental := false
  limit := none

def incrementalRebuild : MarketRebuildRequest where
  clearProjection := false
  requireClear := false
  incremental := true
  limit := none

/-! ## The projection beside its ledger -/

def MarketTables.withLedger (ledger : ResultLedger) : MarketTables :=
  { tables with ledger := ledger }

section Ledger

variable {host : Host} {tables : MarketTables} {ledger : ResultLedger}

theorem storedTimes_withLedger (sameEvents : ledger.events = tables.ledger.events)
    (eventId : String) :
    storedTimes (tables.withLedger ledger) eventId = storedTimes tables eventId := by
  simp only [storedTimes, MarketTables.withLedger, sameEvents]

def HasTimes (host : Host) (tables : MarketTables) (event : ProjectedEvent) : Prop :=
  (storedTimes tables event.eventId).isSome ∨
    ((event.payload.mapping "metadata").get "parent_event_id").truthy = true ∧
      (storedTimes tables
        (((event.payload.mapping "metadata").get "parent_event_id").text host)).isSome

variable {event : ProjectedEvent} {readings other : ProjectionReadings} {parent : GatewayEvent}

theorem eventStoreTimes_withLedger (sameEvents : ledger.events = tables.ledger.events)
    (hasTimes : HasTimes host tables event) (now other : Instant) :
    eventStoreTimes host (tables.withLedger ledger) event now =
      eventStoreTimes host tables event other := by
  simp only [eventStoreTimes, storedTimes_withLedger sameEvents]
  rcases hasTimes with own | ⟨isParent, ofParent⟩
  · rcases Option.isSome_iff_exists.mp own with ⟨times, found⟩
    simp only [found]
  · rcases Option.isSome_iff_exists.mp ofParent with ⟨times, found⟩
    simp only [isParent, if_true, found]

def besides (ledger : ResultLedger) (projected : MarketTables × Nat) : MarketTables × Nat :=
  (projected.1.withLedger ledger, projected.2)

theorem writePriceTick_withLedger (sameEvents : ledger.events = tables.ledger.events)
    (hasTimes : HasTimes host tables event) (tick : BrokerPriceTick) (exchange : String)
    (sameRows : other.derivedRows = readings.derivedRows) :
    writePriceTick host (tables.withLedger ledger) event tick exchange other =
      (writePriceTick host tables event tick exchange readings).map (besides ledger) := by
  have sameTimes := eventStoreTimes_withLedger sameEvents hasTimes other.now readings.now
  simp only [writePriceTick, sameTimes, sameRows]
  have sameLatest : (tables.withLedger ledger).latest = tables.latest := rfl
  have sameSamples : (tables.withLedger ledger).samples = tables.samples := rfl
  rw [sameLatest, sameSamples]
  split
  · rfl
  · split
    · rfl
    · cases readings.derivedRows event.eventId with
      | error failure => rfl
      | ok derived => rfl

theorem processPriceTick_withLedger (sameEvents : ledger.events = tables.ledger.events)
    (hasTimes : HasTimes host tables event) (sameRows : other.derivedRows = readings.derivedRows) :
    processPriceTick host (tables.withLedger ledger) event other =
      (processPriceTick host tables event readings).map (besides ledger) := by
  rw [processPriceTick, processPriceTick]
  split
  · rfl
  · cases BrokerPriceTick.fromDict host event.payload with
    | error failure => rfl
    | ok tick =>
        cases priceTickPayloadExchange host event.payload with
        | error failure => simp [Bind.bind, Except.bind, Except.map]
        | ok exchange =>
            simp only [Bind.bind, Except.bind]
            split
            · rfl
            · exact writePriceTick_withLedger sameEvents hasTimes tick exchange sameRows

theorem processConditionEvent_withLedger (sameEvents : ledger.events = tables.ledger.events)
    (hasTimes : HasTimes host tables event) (readings other : ProjectionReadings) :
    processConditionEvent host (tables.withLedger ledger) event other =
      (processConditionEvent host tables event readings).map (besides ledger) := by
  have sameTimes := eventStoreTimes_withLedger sameEvents hasTimes other.now readings.now
  have sameSignals : (tables.withLedger ledger).signals = tables.signals := rfl
  rw [processConditionEvent, processConditionEvent]
  cases BrokerConditionEvent.fromDict host event.payload with
  | error failure => rfl
  | ok condition =>
      simp only [Bind.bind, Except.bind, sameTimes, sameSignals]
      split
      · rfl
      · rfl

theorem hasTimes_syntheticTick (stored : (storedTimes tables parent.eventId).isSome)
    (response : BrokerTrResponse) (rowIndex : Nat) (payload : Payload)
    (eventId eventType source : String) (ts : Instant) :
    HasTimes host tables
      { eventId := eventId
        eventType := eventType
        source := source
        ts := ts
        payload := withSyntheticPriceTickMetadata payload parent response rowIndex } := by
  have isParent : ((withSyntheticPriceTickMetadata payload parent response rowIndex).mapping
      "metadata").get "parent_event_id" = .str parent.eventId := by
    simp [withSyntheticPriceTickMetadata, Payload.mapping, Payload.get, Json.get_setField,
      withFields, Json.asObject]
  refine Or.inr ?_
  rw [isParent]
  refine ⟨?_, stored⟩
  simpa [Json.truthy] using parent.eventId_stripped.ne_empty

theorem processSyntheticTick_withLedger {projected : MarketTables × Nat}
    (sameEvents : ledger.events = projected.1.ledger.events)
    (stored : (storedTimes projected.1 parent.eventId).isSome) (response : BrokerTrResponse)
    (eventTs : String) (sameRows : other.derivedRows = readings.derivedRows) (row : Nat × Payload) :
    processSyntheticTick host parent response eventTs other (besides ledger projected) row =
      (processSyntheticTick host parent response eventTs readings projected row).map
        (besides ledger) := by
  rw [processSyntheticTick, processSyntheticTick]
  cases BrokerPriceTick.fromDict host row.2 with
  | error failure => rfl
  | ok tick =>
      cases priceTickPayloadExchange host row.2 with
      | error failure => rfl
      | ok exchange =>
          simp only [Bind.bind, Except.bind]
          have same : projectionExists (besides ledger projected).1 "price_tick"
              (syntheticPriceTickEventId parent.eventId row.1 tick.code exchange) =
                projectionExists projected.1 "price_tick"
                  (syntheticPriceTickEventId parent.eventId row.1 tick.code exchange) := rfl
          by_cases known : projectionExists projected.1 "price_tick"
              (syntheticPriceTickEventId parent.eventId row.1 tick.code exchange) = true
          · rw [if_pos (same.trans known), if_pos known]
            rfl
          · rw [if_neg (same ▸ known), if_neg known]
            cases parseTimestamp (.str eventTs) "event_ts" with
            | error failure => rfl
            | ok ts =>
                dsimp only [besides]
                rw [processPriceTick_withLedger sameEvents
                  (hasTimes_syntheticTick stored response row.1 row.2 _ _ _ ts) sameRows]
                cases processPriceTick host projected.1 _ readings with
                | error failure => rfl
                | ok processed => rfl

theorem Projects.storedTimes_eq {before after : MarketTables} (projects : Projects before after)
    (eventId : String) : storedTimes after eventId = storedTimes before eventId := by
  rw [storedTimes, projects.ledger, projects.gatewayEvents, storedTimes]

theorem foldlM_syntheticTicks_withLedger (response : BrokerTrResponse) (eventTs : String)
    (sameRows : other.derivedRows = readings.derivedRows) (ticks : List (Nat × Payload))
    {projected : MarketTables × Nat} (sameEvents : ledger.events = projected.1.ledger.events)
    (stored : (storedTimes projected.1 parent.eventId).isSome) :
    ticks.foldlM (processSyntheticTick host parent response eventTs other)
        (besides ledger projected) =
      (ticks.foldlM (processSyntheticTick host parent response eventTs readings) projected).map
        (besides ledger) := by
  induction ticks generalizing projected with
  | nil => rfl
  | cons tick ticks ih =>
      rw [List.foldlM_cons, List.foldlM_cons,
        processSyntheticTick_withLedger sameEvents stored response eventTs sameRows]
      cases processed : processSyntheticTick host parent response eventTs readings projected
        tick with
      | error failure => rfl
      | ok after =>
          have projects := (processSyntheticTick_spec processed).1
          apply ih
          · rw [projects.ledger, sameEvents]
          · rw [projects.storedTimes_eq]
            exact stored

theorem processTrResponse_withLedger (sameEvents : ledger.events = tables.ledger.events)
    {event : GatewayEvent} (stored : (storedTimes tables event.eventId).isSome)
    (sameRows : other.derivedRows = readings.derivedRows) :
    processTrResponse host (tables.withLedger ledger) event other =
      (processTrResponse host tables event readings).map (besides ledger) := by
  have hasTimes : HasTimes host tables event.projected := Or.inl stored
  have sameTimes := eventStoreTimes_withLedger sameEvents hasTimes other.now readings.now
  rw [processTrResponse, processTrResponse]
  cases BrokerTrResponse.fromDict event.payload with
  | error failure => rfl
  | ok response =>
      simp only [sameTimes]
      cases candidateQuoteRefreshTickPayloadsWithRowIndex host event.payload
        (eventStoreTimes host tables event.projected readings.now).1 with
      | error failure => rfl
      | ok ticks =>
          exact @foldlM_syntheticTicks_withLedger host ledger readings other event response _
            sameRows ticks ({ tables with snapshots := _ }, response.rows.length) sameEvents stored

theorem applyEvent_withLedger (host : Host) (sameEvents : ledger.events = tables.ledger.events)
    {event : GatewayEvent} (stored : (storedTimes tables event.eventId).isSome)
    (sameRows : other.derivedRows = readings.derivedRows) :
    applyEvent host (tables.withLedger ledger) event other =
      (applyEvent host tables event readings).map (besides ledger) := by
  rw [applyEvent, applyEvent]
  split
  · exact processPriceTick_withLedger sameEvents (Or.inl stored) sameRows
  · split
    · exact processConditionEvent_withLedger sameEvents (Or.inl stored) readings other
    · exact processTrResponse_withLedger sameEvents stored sameRows

end Ledger

end SuseokTrader
