import SuseokTrader.Market.Rebuild

/-!
# What the calls of a rebuild do

A call for a stored event counts one more attempt on its result, and moves the
watermark exactly when its event is projected or has been. On tables that
differ in the times of processing alone, calls that read different clocks
leave such tables again.
-/

namespace SuseokTrader

/-! ## The watermark of the projection -/

def watermarkRowid (watermarks : Table ProjectionWatermark) (projectionName : String) : Int :=
  (watermarks.find? projectionName).elim 0 ProjectionWatermark.lastEventRowid

theorem lastEventRowid_ensured (watermarks : Table ProjectionWatermark)
    (projectionName now : String) :
    ((watermarks.find? projectionName).getD
      (freshWatermark projectionName now)).lastEventRowid =
        watermarkRowid watermarks projectionName := by
  rw [watermarkRowid]
  cases watermarks.find? projectionName with
  | none => rfl
  | some row => rfl

theorem watermarkRowid_advance (watermarks : Table ProjectionWatermark) (projectionName : String)
    {rowid : Int} (positive : 0 < rowid) (eventId receivedAt : Option String) (now : Instant) :
    watermarkRowid (advanceProjectionWatermark watermarks projectionName rowid eventId receivedAt
      now) projectionName = max (watermarkRowid watermarks projectionName) rowid := by
  have found := find?_ensureWatermarkRow watermarks projectionName (datetimeToWire now)
  rw [watermarkRowid, advanceProjectionWatermark]
  rw [Table.find?_update_self found, Option.elim_some,
    ← lastEventRowid_ensured watermarks projectionName (datetimeToWire now)]
  dsimp only
  rw [max_eq_left positive.le]
  split
  · next moves => exact (max_eq_right moves.le).symm
  · next stays => exact (max_eq_left (not_lt.mp stays)).symm

theorem watermarkRowid_advanceError (watermarks : Table ProjectionWatermark)
    (projectionName : String) (rowid : Int) (eventId receivedAt : Option String)
    (errorMessage : String) (now : Instant) :
    watermarkRowid (advanceProjectionErrorWatermark watermarks projectionName rowid eventId
      receivedAt errorMessage now) projectionName = watermarkRowid watermarks projectionName := by
  have found := find?_ensureWatermarkRow watermarks projectionName (datetimeToWire now)
  rw [watermarkRowid, advanceProjectionErrorWatermark]
  rw [Table.find?_update_self found]
  exact lastEventRowid_ensured watermarks projectionName (datetimeToWire now)

/-! ## Up to the times of processing -/

def ProjectionEventResult.unclocked (row : ProjectionEventResult) : ProjectionEventResult :=
  { row with firstProcessedAt := "", processedAt := "" }

def ProjectionWatermark.unclocked (row : ProjectionWatermark) : ProjectionWatermark :=
  { row with
    lastProcessedAt := ""
    updatedAt := ""
    lastSuccessProcessedAt := none
    lastErrorProcessedAt := none }

def SameWatermark (left right : Table ProjectionWatermark) (projectionName : String) : Prop :=
  (right.find? projectionName).map ProjectionWatermark.unclocked =
    (left.find? projectionName).map ProjectionWatermark.unclocked

/-- The same events, and market data results and a watermark that differ in the times of
processing alone. -/
structure SameLedger (left right : ResultLedger) : Prop where
  events : right.events = left.events
  results : ∀ eventId,
    (right.results.find? ("market_data", eventId)).map ProjectionEventResult.unclocked =
      (left.results.find? ("market_data", eventId)).map ProjectionEventResult.unclocked
  watermark : SameWatermark left.watermarks right.watermarks "market_data"

theorem SameWatermark.ensured {left right : Table ProjectionWatermark} {projectionName : String}
    (same : SameWatermark left right projectionName) (now other : String) :
    ((right.find? projectionName).getD (freshWatermark projectionName other)).unclocked =
      ((left.find? projectionName).getD (freshWatermark projectionName now)).unclocked := by
  rw [SameWatermark] at same
  cases isLeft : left.find? projectionName with
  | none =>
      rw [isLeft, Option.map_none, Option.map_eq_none_iff] at same
      rw [same]
      rfl
  | some row =>
      rw [isLeft, Option.map_some, Option.map_eq_some_iff] at same
      rcases same with ⟨found, isRight, sameRow⟩
      rw [isRight]
      exact sameRow

theorem SameWatermark.advance {left right : Table ProjectionWatermark} {projectionName : String}
    (same : SameWatermark left right projectionName) (rowid : Int)
    (eventId receivedAt : Option String) (now other : Instant) :
    SameWatermark (advanceProjectionWatermark left projectionName rowid eventId receivedAt now)
      (advanceProjectionWatermark right projectionName rowid eventId receivedAt other)
      projectionName := by
  have rows := same.ensured (datetimeToWire now) (datetimeToWire other)
  have ofLeft := find?_ensureWatermarkRow left projectionName (datetimeToWire now)
  have ofRight := find?_ensureWatermarkRow right projectionName (datetimeToWire other)
  generalize (left.find? projectionName).getD _ = first at rows ofLeft
  generalize (right.find? projectionName).getD _ = second at rows ofRight
  rw [SameWatermark, advanceProjectionWatermark, advanceProjectionWatermark]
  rw [Table.find?_update_self ofLeft, Table.find?_update_self ofRight]
  cases first
  cases second
  simp only [ProjectionWatermark.unclocked, ProjectionWatermark.mk.injEq] at rows
  simp [ProjectionWatermark.unclocked, rows]

theorem SameWatermark.advanceError {left right : Table ProjectionWatermark}
    {projectionName : String} (same : SameWatermark left right projectionName) (rowid : Int)
    (eventId receivedAt : Option String) (errorMessage : String) (now other : Instant) :
    SameWatermark
      (advanceProjectionErrorWatermark left projectionName rowid eventId receivedAt errorMessage
        now)
      (advanceProjectionErrorWatermark right projectionName rowid eventId receivedAt errorMessage
        other) projectionName := by
  have rows := same.ensured (datetimeToWire now) (datetimeToWire other)
  have ofLeft := find?_ensureWatermarkRow left projectionName (datetimeToWire now)
  have ofRight := find?_ensureWatermarkRow right projectionName (datetimeToWire other)
  generalize (left.find? projectionName).getD _ = first at rows ofLeft
  generalize (right.find? projectionName).getD _ = second at rows ofRight
  rw [SameWatermark, advanceProjectionErrorWatermark, advanceProjectionErrorWatermark]
  rw [Table.find?_update_self ofLeft, Table.find?_update_self ofRight]
  cases first
  cases second
  simp only [ProjectionWatermark.unclocked, ProjectionWatermark.mk.injEq] at rows
  simp [ProjectionWatermark.unclocked, rows]

/-! ## Recording a market data result -/

/-- The result that a report leaves for a stored event. -/
def marketRecord (position : EventPosition) (status : ProjectionResultStatus) (outcome : String)
    (errorMessage : Option String) (now : Instant) : ProjectionEventResult where
  projectionName := "market_data"
  eventId := position.eventId
  eventRowid := position.eventRowid
  eventType := Text.lower (Text.strip position.eventType)
  status := status
  outcome := Text.upper outcome
  errorMessage := errorMessage
  firstProcessedAt := datetimeToWire now
  processedAt := datetimeToWire now
  attemptCount := 1

/-- The ledger with a result of the projection for a stored event. -/
def ResultLedger.withRecord (ledger : ResultLedger) (position : EventPosition)
    (status : ProjectionResultStatus) (outcome : String) (errorMessage : Option String)
    (now : Instant) : ResultLedger where
  events := ledger.events
  results :=
    upsertEventResult ledger.results (marketRecord position status outcome errorMessage now)
  watermarks :=
    match status with
    | .success =>
        advanceProjectionWatermark ledger.watermarks "market_data" position.eventRowid
          (some position.eventId) (some position.receivedAt) now
    | .error =>
        advanceProjectionErrorWatermark ledger.watermarks "market_data" position.eventRowid
          (some position.eventId) (some position.receivedAt) (errorMessage.getD "") now

def IsReportable (status : ProjectionResultStatus) (errorMessage : Option String) : Prop :=
  status = .error → Text.strip (errorMessage.getD "") ≠ ""

theorem normalizeProjectionName_marketData :
    normalizeProjectionName "market_data" = .ok "market_data" := by
  have lowered : Text.lower (Text.strip "market_data") = "market_data" := by decide +kernel
  simp [normalizeProjectionName, lowered]

theorem recordMarketDataResult_of_stored {tables : MarketTables} {eventId outcome : String}
    {position : EventPosition} (stripped : Stripped eventId) (isOutcome : Stripped outcome)
    (found : tables.ledger.events.find? eventId = some position)
    {status : ProjectionResultStatus} {errorMessage : Option String}
    (reportable : IsReportable status errorMessage) (now : Instant) :
    recordMarketDataResult tables (marketDataReport eventId status outcome errorMessage) now =
      .ok (tables.withLedger
        (tables.ledger.withRecord position status outcome errorMessage now)) := by
  have isId : position.eventId = eventId := Table.key_of_find? found
  subst isId
  have resolved : resolveEventPosition tables.ledger.events position.eventId none none none =
      some { position with eventType := Text.lower (Text.strip position.eventType) } := by
    simp [resolveEventPosition, storedPosition, found]
  have valid : ¬ (status = .error ∧ Text.strip (errorMessage.getD "") = "") :=
    fun both => reportable both.1 both.2
  simp only [recordMarketDataResult, recordProjectionEventResult, marketDataReport,
    normalizeProjectionName_marketData, Bind.bind, Except.bind, requireNonEmpty_of_strip
    stripped.strip_eq stripped.ne_empty, requireNonEmpty_of_strip isOutcome.strip_eq
    isOutcome.ne_empty, resolved, valid, pure, Except.pure]
  cases status with
  | success => simp [MarketTables.withLedger, ResultLedger.withRecord, marketRecord]
  | error => simp [MarketTables.withLedger, ResultLedger.withRecord, marketRecord]

theorem recordMarketDataResult_unreportable {tables : MarketTables} {eventId outcome : String}
    {position : EventPosition} (stripped : Stripped eventId) (isOutcome : Stripped outcome)
    (found : tables.ledger.events.find? eventId = some position)
    {status : ProjectionResultStatus} {errorMessage : Option String}
    (unreportable : ¬ IsReportable status errorMessage) (now : Instant) :
    recordMarketDataResult tables (marketDataReport eventId status outcome errorMessage) now =
      Checked.invalid "error_message is required for ERROR projection result" := by
  have resolved : (resolveEventPosition tables.ledger.events eventId none none none).isSome := by
    simp [resolveEventPosition, storedPosition, found]
  rcases Option.isSome_iff_exists.mp resolved with ⟨stored, resolved⟩
  have invalid : status = .error ∧ Text.strip (errorMessage.getD "") = "" := by
    simpa [IsReportable] using unreportable
  simp only [recordMarketDataResult, recordProjectionEventResult, marketDataReport,
    normalizeProjectionName_marketData, Bind.bind, Except.bind,
    requireNonEmpty_of_strip stripped.strip_eq stripped.ne_empty,
    requireNonEmpty_of_strip isOutcome.strip_eq isOutcome.ne_empty, resolved, invalid, and_self,
    if_true, Checked.invalid]

/-- A success moves the watermark twice, the second time to where it is. -/
def ResultLedger.withSuccess (ledger : ResultLedger) (position : EventPosition)
    (outcome : String) (now : Instant) : ResultLedger :=
  let recorded := ledger.withRecord position .success outcome none now
  { recorded with
    watermarks := advanceProjectionWatermark recorded.watermarks "market_data"
      position.eventRowid (some position.eventId) (some position.receivedAt) now }

theorem withMarketDataWatermark_of_stored {tables : MarketTables} {eventId outcome : String}
    {position : EventPosition} (stripped : Stripped eventId) (isOutcome : Stripped outcome)
    (found : tables.ledger.events.find? eventId = some position) (now : Instant) :
    withMarketDataWatermark tables eventId outcome now =
      .ok (tables.withLedger (tables.ledger.withSuccess position outcome now)) := by
  have isId : position.eventId = eventId := Table.key_of_find? found
  have reportable : IsReportable .success none := nofun
  have recorded := recordMarketDataResult_of_stored stripped isOutcome found reportable now
  simp only [withMarketDataWatermark, recorded, Bind.bind, Except.bind, pure, Except.pure,
    advanceMarketDataWatermarkForEvent]
  have stays : (tables.withLedger (tables.ledger.withRecord position .success outcome none
      now)).ledger.events.find? eventId = some position := found
  rw [stays]
  simp [MarketTables.withLedger, ResultLedger.withSuccess, isId]

/-! ## Calls for a stored event -/

structure IsStored (tables : MarketTables) (event : GatewayEvent) (position : EventPosition) :
    Prop where
  isPosition : tables.ledger.events.find? event.eventId = some position
  isEvent : (tables.gatewayEvents.find? event.eventId).isSome
  isType : normalizeEventType event.eventType ∈ marketDataEventTypes

theorem IsStored.hasTimes {tables : MarketTables} {event : GatewayEvent}
    {position : EventPosition} (stored : IsStored tables event position) :
    (storedTimes tables event.eventId).isSome := by
  rcases Option.isSome_iff_exists.mp stored.isEvent with ⟨row, found⟩
  simp [storedTimes, stored.isPosition, found]

theorem IsStored.of_same {before after : MarketTables} {event : GatewayEvent}
    {position : EventPosition} (stored : IsStored before event position)
    (sameGateway : after.gatewayEvents = before.gatewayEvents)
    (sameEvents : after.ledger.events = before.ledger.events) :
    IsStored after event position where
  isPosition := sameEvents ▸ stored.isPosition
  isEvent := sameGateway ▸ stored.isEvent
  isType := stored.isType

/-- The event goes through: it is projected and leaves no error row, or has been projected. -/
def ProjectsThrough (host : Host) (enabled : Bool) (tables : MarketTables) (event : GatewayEvent)
    (call : MarketCall) : Prop :=
  enabled = true ∧ call.fault = none ∧
    (projectionExists tables (normalizeEventType event.eventType) event.eventId = true ∨
      ∃ rows count, applyEvent host tables event call.readings = .ok (rows, count) ∧
        projectionErrorMessage rows event.eventId = none)

def appliedOutcome (count : Nat) : String :=
  if count = 0 then "IGNORED" else "APPLIED"

theorem stripped_appliedOutcome (count : Nat) : Stripped (appliedOutcome count) := by
  rw [appliedOutcome]
  split
  · decide
  · decide

theorem stripped_duplicate : Stripped "DUPLICATE" := by decide

theorem stripped_projectionError : Stripped "INLINE_PROJECTION_ERROR" := by decide

theorem stripped_projectionException : Stripped "INLINE_PROJECTION_EXCEPTION" := by decide

section Calls

variable {host : Host} {enabled commit : Bool} {tables : MarketTables} {event : GatewayEvent}
  {position : EventPosition} {call : MarketCall}

theorem projectEvent_through (stored : IsStored tables event position) {rows : MarketTables}
    {count : Nat} (applied : applyEvent host tables event call.readings = .ok (rows, count))
    (noError : projectionErrorMessage rows event.eventId = none) :
    projectEvent host tables event call.readings =
      .ok (rows.withLedger (tables.ledger.withSuccess position (appliedOutcome count)
        call.readings.now), count) := by
  have projects := (applyEvent_spec applied stored.isType).1
  have found : rows.ledger.events.find? event.eventId = some position := by
    rw [projects.ledger]
    exact stored.isPosition
  have recorded := withMarketDataWatermark_of_stored event.eventId_stripped
    (stripped_appliedOutcome count) found call.readings.now
  rw [appliedOutcome] at recorded
  simp only [projectEvent, applied, Bind.bind, Except.bind, noError, recorded, pure, Except.pure,
    projects.ledger, appliedOutcome]

theorem projectEvent_erroneous (stored : IsStored tables event position) {rows : MarketTables}
    {count : Nat} (applied : applyEvent host tables event call.readings = .ok (rows, count))
    {message : String} (hasError : projectionErrorMessage rows event.eventId = some message) :
    projectEvent host tables event call.readings =
      if Text.strip message = "" then
        Checked.invalid "error_message is required for ERROR projection result"
      else .ok (rows.withLedger (tables.ledger.withRecord position .error
        "INLINE_PROJECTION_ERROR" (some message) call.readings.now), count) := by
  have projects := (applyEvent_spec applied stored.isType).1
  have found : rows.ledger.events.find? event.eventId = some position := by
    rw [projects.ledger]
    exact stored.isPosition
  simp only [projectEvent, applied, Bind.bind, Except.bind, hasError]
  by_cases blank : Text.strip message = ""
  · have unreportable : ¬ IsReportable .error (some message) := fun reportable =>
      reportable rfl blank
    rw [recordMarketDataResult_unreportable event.eventId_stripped stripped_projectionError found
      unreportable, if_pos blank]
    rfl
  · have reportable : IsReportable .error (some message) := fun _ => blank
    rw [recordMarketDataResult_of_stored event.eventId_stripped stripped_projectionError found
      reportable, if_neg blank, projects.ledger]
    rfl

theorem recordProjectionFailure_of_stored (stored : IsStored tables event position)
    (message : String) (now : Instant) :
    recordProjectionFailure host tables event message now =
      if Text.strip message = "" then
        Checked.invalid "error_message is required for ERROR projection result"
      else .ok ((recordProjectionError host tables event.projected message).withLedger
        (tables.ledger.withRecord position .error "INLINE_PROJECTION_EXCEPTION" (some message)
          now)) := by
  have found : (recordProjectionError host tables event.projected message).ledger.events.find?
      event.eventId = some position := stored.isPosition
  rw [recordProjectionFailure]
  by_cases blank : Text.strip message = ""
  · have unreportable : ¬ IsReportable .error (some message) := fun reportable =>
      reportable rfl blank
    rw [recordMarketDataResult_unreportable event.eventId_stripped stripped_projectionException
      found unreportable, if_pos blank]
  · have reportable : IsReportable .error (some message) := fun _ => blank
    rw [recordMarketDataResult_of_stored event.eventId_stripped stripped_projectionException
      found reportable, if_neg blank]
    rfl

/-- What is left of a call for a stored event: nothing where it raised or is disabled, a success
exactly where the event went through, and otherwise an error. -/
inductive CallEnd (host : Host) (enabled : Bool) (tables : MarketTables) (event : GatewayEvent)
    (position : EventPosition) (call : MarketCall) :
    MarketTables × Checked MarketDataProcessResult → Prop
  | raised (failure : Failure) (fails : ¬ ProjectsThrough host enabled tables event call) :
      CallEnd host enabled tables event position call (tables, .error failure)
  | disabled (result : MarketDataProcessResult) (off : enabled = false) :
      CallEnd host enabled tables event position call (tables, .ok result)
  | through (rows : MarketTables) (outcome : String) (result : MarketDataProcessResult)
      (passes : ProjectsThrough host enabled tables event call)
      (sameGateway : rows.gatewayEvents = tables.gatewayEvents) :
      CallEnd host enabled tables event position call
        (rows.withLedger (tables.ledger.withSuccess position outcome call.readings.now),
          .ok result)
  | failed (rows : MarketTables) (outcome message : String) (result : MarketDataProcessResult)
      (on : enabled = true) (fails : ¬ ProjectsThrough host enabled tables event call)
      (sameGateway : rows.gatewayEvents = tables.gatewayEvents) :
      CallEnd host enabled tables event position call
        (rows.withLedger (tables.ledger.withRecord position .error outcome (some message)
          call.readings.now), .ok result)

theorem failedCall_end (stored : IsStored tables event position) (on : enabled = true)
    (fails : ¬ ProjectsThrough host enabled tables event call) (failure : Failure) :
    CallEnd host enabled tables event position call
      (failedCall host tables event commit call.readings failure) := by
  rw [failedCall]
  split
  · rw [recordProjectionFailure_of_stored stored]
    by_cases blank : Text.strip failure.message = ""
    · rw [if_pos blank]
      exact .raised _ fails
    · rw [if_neg blank]
      exact .failed _ _ _ _ on fails rfl
  · exact .raised _ fails

theorem not_projectsThrough_of_fault {fault : DatabaseFault} (isFault : call.fault = some fault) :
    ¬ ProjectsThrough host enabled tables event call := by
  rintro ⟨-, noFault, -⟩
  rw [isFault] at noFault
  cases noFault

theorem projectInTransaction_end (commit : Bool) (stored : IsStored tables event position)
    (on : enabled = true)
    (unknown : ¬ projectionExists tables (normalizeEventType event.eventType)
      event.eventId = true) :
    CallEnd host enabled tables event position call
      (projectInTransaction host tables event commit call.readings call.fault) := by
  rw [projectInTransaction.eq_def]
  cases isFault : call.fault with
  | some fault =>
      have fails : ¬ ProjectsThrough host enabled tables event call :=
        not_projectsThrough_of_fault isFault
      cases fault with
      | locked => exact .raised _ fails
      | failed message => exact failedCall_end stored on fails _
  | none =>
      dsimp only
      cases applied : applyEvent host tables event call.readings with
      | error failure =>
          have fails : ¬ ProjectsThrough host enabled tables event call := by
            rintro ⟨-, -, known | ⟨rows, count, isApplied, -⟩⟩
            · exact unknown known
            · rw [applied] at isApplied
              cases isApplied
          have isError : projectEvent host tables event call.readings = .error failure := by
            rw [projectEvent, applied]
            rfl
          rw [isError]
          exact failedCall_end stored on fails failure
      | ok projected =>
          rcases projected with ⟨rows, count⟩
          have projects := (applyEvent_spec applied stored.isType).1
          cases hasError : projectionErrorMessage rows event.eventId with
          | none =>
              have passes : ProjectsThrough host enabled tables event call :=
                ⟨on, isFault, Or.inr ⟨rows, count, applied, hasError⟩⟩
              rw [projectEvent_through stored applied hasError]
              dsimp only
              split
              · exact .through rows _ _ passes projects.gatewayEvents
              · exact .through rows _ _ passes projects.gatewayEvents
          | some message =>
              have fails : ¬ ProjectsThrough host enabled tables event call := by
                rintro ⟨-, -, known | ⟨others, other, isApplied, noError⟩⟩
                · exact unknown known
                · rw [applied] at isApplied
                  rcases isApplied with ⟨rfl, rfl⟩
                  rw [hasError] at noError
                  cases noError
              rw [projectEvent_erroneous stored applied hasError]
              by_cases blank : Text.strip message = ""
              · rw [if_pos blank]
                exact failedCall_end stored on fails _
              · rw [if_neg blank]
                dsimp only
                split
                · exact .failed rows _ _ _ on fails projects.gatewayEvents
                · exact .failed rows _ _ _ on fails projects.gatewayEvents

theorem processGatewayEvent_end (host : Host) (enabled commit : Bool)
    (stored : IsStored tables event position) (call : MarketCall) :
    CallEnd host enabled tables event position call
      (processGatewayEvent host enabled tables event commit call.readings call.fault) := by
  rw [processGatewayEvent.eq_def]
  dsimp only
  split
  · next off => exact .disabled _ (by simpa using off)
  · next isOn =>
      have on : enabled = true := by simpa using isOn
      rw [if_neg (not_not.mpr stored.isType)]
      split
      · next known =>
          cases isFault : call.fault with
          | some fault => exact .raised _ (not_projectsThrough_of_fault isFault)
          | none =>
              rw [withMarketDataWatermark_of_stored event.eventId_stripped stripped_duplicate
                stored.isPosition]
              exact .through tables _ _ ⟨on, isFault, Or.inl known⟩ rfl
      · next unknown => exact projectInTransaction_end commit stored on unknown

end Calls

/-! ## The marks of a call -/

def marketAttempts (tables : MarketTables) (eventId : String) : Nat :=
  (marketResult tables eventId).elim 0 ProjectionEventResult.attemptCount

/-- The ledger after a call records a result of the event and no other. -/
structure RecordsOnce (before after : ResultLedger) (eventId : String) : Prop where
  events : after.events = before.events
  own : ∃ row, after.results.find? ("market_data", eventId) = some row ∧
    row.attemptCount = (before.results.find? ("market_data", eventId)).elim 0
      ProjectionEventResult.attemptCount + 1
  others : ∀ id, id ≠ eventId →
    after.results.find? ("market_data", id) = before.results.find? ("market_data", id)

theorem recordsOnce_withRecord (ledger : ResultLedger) (position : EventPosition)
    (status : ProjectionResultStatus) (outcome : String) (errorMessage : Option String)
    (now : Instant) :
    RecordsOnce ledger (ledger.withRecord position status outcome errorMessage now)
      position.eventId where
  events := rfl
  own := by
    have found := find?_upsertEventResult ledger.results
      (marketRecord position status outcome errorMessage now)
    refine ⟨_, found, ?_⟩
    have isKey : Keyed.key (marketRecord position status outcome errorMessage now) =
      ("market_data", position.eventId) := rfl
    rw [isKey]
    cases ledger.results.find? ("market_data", position.eventId) with
    | none => rfl
    | some old => rfl
  others id other := by
    apply find?_upsertEventResult_of_ne
    intro same
    exact other (Prod.mk.inj same).2

theorem recordsOnce_withSuccess (ledger : ResultLedger) (position : EventPosition)
    (outcome : String) (now : Instant) :
    RecordsOnce ledger (ledger.withSuccess position outcome now) position.eventId where
  events := rfl
  own := (recordsOnce_withRecord ledger position .success outcome none now).own
  others := (recordsOnce_withRecord ledger position .success outcome none now).others

theorem watermarkRowid_withSuccess (ledger : ResultLedger) {position : EventPosition}
    (positive : 0 < position.eventRowid) (outcome : String) (now : Instant) :
    watermarkRowid (ledger.withSuccess position outcome now).watermarks "market_data" =
      max (watermarkRowid ledger.watermarks "market_data") position.eventRowid := by
  rw [ResultLedger.withSuccess]
  rw [watermarkRowid_advance _ _ positive, ResultLedger.withRecord]
  rw [watermarkRowid_advance _ _ positive, max_assoc, max_self]

theorem watermarkRowid_withRecord_error (ledger : ResultLedger) (position : EventPosition)
    (outcome : String) (errorMessage : Option String) (now : Instant) :
    watermarkRowid (ledger.withRecord position .error outcome errorMessage now).watermarks
      "market_data" = watermarkRowid ledger.watermarks "market_data" := by
  rw [ResultLedger.withRecord]
  rw [watermarkRowid_advanceError]

namespace CallEnd

variable {host : Host} {enabled : Bool} {tables : MarketTables} {event : GatewayEvent}
  {position : EventPosition} {call : MarketCall}
  {called : MarketTables × Checked MarketDataProcessResult}

theorem gatewayEvents (ending : CallEnd host enabled tables event position call called) :
    called.1.gatewayEvents = tables.gatewayEvents := by
  cases ending with
  | raised failure fails => rfl
  | disabled result off => rfl
  | through rows outcome result passes sameGateway => exact sameGateway
  | failed rows outcome message result on fails sameGateway => exact sameGateway

theorem events (ending : CallEnd host enabled tables event position call called) :
    called.1.ledger.events = tables.ledger.events := by
  cases ending with
  | raised failure fails => rfl
  | disabled result off => rfl
  | through rows outcome result passes sameGateway => rfl
  | failed rows outcome message result on fails sameGateway => rfl

theorem marks (ending : CallEnd host enabled tables event position call called)
    (stored : IsStored tables event position) :
    (called.1 = tables ∧ (enabled = true → ∃ failure, called.2 = .error failure)) ∨
      enabled = true ∧ (∃ result, called.2 = .ok result) ∧
        RecordsOnce tables.ledger called.1.ledger event.eventId := by
  have isId : position.eventId = event.eventId := Table.key_of_find? stored.isPosition
  rw [← isId]
  cases ending with
  | raised failure fails => exact Or.inl ⟨rfl, fun _ => ⟨failure, rfl⟩⟩
  | disabled result off =>
      refine Or.inl ⟨rfl, ?_⟩
      intro on
      rw [off] at on
      cases on
  | through rows outcome result passes sameGateway =>
      exact Or.inr ⟨passes.1, ⟨result, rfl⟩, recordsOnce_withSuccess _ _ _ _⟩
  | failed rows outcome message result on fails sameGateway =>
      exact Or.inr ⟨on, ⟨result, rfl⟩, recordsOnce_withRecord _ _ _ _ _ _⟩

theorem others (ending : CallEnd host enabled tables event position call called)
    (stored : IsStored tables event position) {eventId : String}
    (other : eventId ≠ event.eventId) :
    marketResult called.1 eventId = marketResult tables eventId := by
  rcases ending.marks stored with ⟨same, _⟩ | ⟨_, _, records⟩
  · rw [same]
  · exact records.others eventId other

theorem lastEventRowid_of_through (ending : CallEnd host enabled tables event position call called)
    (positive : 0 < position.eventRowid) (passes : ProjectsThrough host enabled tables event call) :
    lastEventRowid called.1 = max (lastEventRowid tables) position.eventRowid := by
  cases ending with
  | raised failure fails => exact absurd passes fails
  | disabled result off =>
      rw [off] at passes
      cases passes.1
  | through rows outcome result _ sameGateway =>
      exact watermarkRowid_withSuccess tables.ledger positive outcome call.readings.now
  | failed rows outcome message result on fails sameGateway => exact absurd passes fails

theorem lastEventRowid_of_not_through
    (ending : CallEnd host enabled tables event position call called)
    (fails : ¬ ProjectsThrough host enabled tables event call) :
    lastEventRowid called.1 = lastEventRowid tables := by
  cases ending with
  | raised failure _ => rfl
  | disabled result off => rfl
  | through rows outcome result passes sameGateway => exact absurd passes fails
  | failed rows outcome message result on _ sameGateway =>
      exact watermarkRowid_withRecord_error tables.ledger position outcome _ call.readings.now

theorem recorded_of_through (ending : CallEnd host enabled tables event position call called)
    (stored : IsStored tables event position)
    (passes : ProjectsThrough host enabled tables event call) :
    (marketResult called.1 event.eventId).isSome := by
  have isId : position.eventId = event.eventId := Table.key_of_find? stored.isPosition
  cases ending with
  | raised failure fails => exact absurd passes fails
  | disabled result off =>
      rw [off] at passes
      cases passes.1
  | through rows outcome result _ sameGateway =>
      rcases (recordsOnce_withSuccess tables.ledger position outcome call.readings.now).own with
        ⟨row, found, _⟩
      rw [isId] at found
      exact Option.isSome_of_eq_some found
  | failed rows outcome message result on fails sameGateway => exact absurd passes fails

theorem keeps (ending : CallEnd host enabled tables event position call called)
    (stored : IsStored tables event position) {eventId : String}
    (has : (marketResult tables eventId).isSome) : (marketResult called.1 eventId).isSome := by
  rcases ending.marks stored with ⟨same, _⟩ | ⟨_, _, records⟩
  · rw [same]
    exact has
  · by_cases own : eventId = event.eventId
    · subst own
      rcases records.own with ⟨row, found, _⟩
      exact Option.isSome_of_eq_some found
    · rw [marketResult, records.others eventId own]
      exact has

theorem attempts_le (ending : CallEnd host enabled tables event position call called)
    (stored : IsStored tables event position) (eventId : String) :
    marketAttempts tables eventId ≤ marketAttempts called.1 eventId := by
  rcases ending.marks stored with ⟨same, _⟩ | ⟨_, _, records⟩
  · rw [same]
  · by_cases own : eventId = event.eventId
    · subst own
      rcases records.own with ⟨row, found, attempts⟩
      rw [marketAttempts, marketAttempts, marketResult, marketResult, found, Option.elim_some,
        attempts]
      exact Nat.le_succ _
    · have same : marketResult called.1 eventId = marketResult tables eventId :=
        records.others eventId own
      rw [marketAttempts, marketAttempts, same]

theorem attempts_lt (ending : CallEnd host enabled tables event position call called)
    (stored : IsStored tables event position) (on : enabled = true)
    {result : MarketDataProcessResult} (returns : called.2 = .ok result) :
    marketAttempts tables event.eventId < marketAttempts called.1 event.eventId := by
  rcases ending.marks stored with ⟨_, raises⟩ | ⟨_, _, records⟩
  · rcases raises on with ⟨failure, raised⟩
    rw [returns] at raised
    cases raised
  · rcases records.own with ⟨row, found, attempts⟩
    rw [marketAttempts, marketAttempts, marketResult, marketResult, found, Option.elim_some,
      attempts]
    exact Nat.lt_succ_self _

end CallEnd

/-! ## Calls on tables that differ in the times of processing -/

/-- The same rows, beside ledgers that differ in the times of processing alone. -/
structure SameTables (left right : MarketTables) : Prop where
  rows : right = left.withLedger right.ledger
  ledger : SameLedger left.ledger right.ledger

theorem SameLedger.withRecord {left right : ResultLedger} (same : SameLedger left right)
    (position : EventPosition) (status : ProjectionResultStatus) (outcome : String)
    (errorMessage : Option String) (now other : Instant) :
    SameLedger (left.withRecord position status outcome errorMessage now)
      (right.withRecord position status outcome errorMessage other) where
  events := same.events
  results eventId := by
    have ofLeft := find?_upsertEventResult left.results
      (marketRecord position status outcome errorMessage now)
    have ofRight := find?_upsertEventResult right.results
      (marketRecord position status outcome errorMessage other)
    have leftKey : Keyed.key (marketRecord position status outcome errorMessage now) =
      ("market_data", position.eventId) := rfl
    have rightKey : Keyed.key (marketRecord position status outcome errorMessage other) =
      ("market_data", position.eventId) := rfl
    by_cases own : eventId = position.eventId
    · subst own
      have before := same.results position.eventId
      rw [leftKey] at ofLeft
      rw [rightKey] at ofRight
      dsimp only [ResultLedger.withRecord]
      rw [ofLeft, ofRight]
      cases isLeft : left.results.find? ("market_data", position.eventId) with
      | none =>
          rw [isLeft, Option.map_none, Option.map_eq_none_iff] at before
          rw [before]
          rfl
      | some row =>
          rw [isLeft, Option.map_some, Option.map_eq_some_iff] at before
          rcases before with ⟨found, isRight, sameRow⟩
          rw [isRight]
          cases row
          cases found
          simp only [ProjectionEventResult.unclocked, ProjectionEventResult.mk.injEq] at sameRow
          simp [ProjectionEventResult.unclocked, marketRecord, sameRow]
    · have different : ("market_data", eventId) ≠ ("market_data", position.eventId) :=
        fun same => own (Prod.mk.inj same).2
      dsimp only [ResultLedger.withRecord]
      rw [find?_upsertEventResult_of_ne _ (leftKey ▸ different),
        find?_upsertEventResult_of_ne _ (rightKey ▸ different)]
      exact same.results eventId
  watermark := by
    cases status with
    | success => exact same.watermark.advance _ _ _ now other
    | error => exact same.watermark.advanceError _ _ _ _ now other

theorem SameLedger.withSuccess {left right : ResultLedger} (same : SameLedger left right)
    (position : EventPosition) (outcome : String) (now other : Instant) :
    SameLedger (left.withSuccess position outcome now) (right.withSuccess position outcome other)
    where
  events := same.events
  results := (same.withRecord position .success outcome none now other).results
  watermark :=
    (same.withRecord position .success outcome none now other).watermark.advance _ _ _ now other

theorem SameLedger.tables {ledger other : ResultLedger} (same : SameLedger ledger other)
    (rows : MarketTables) (between : ResultLedger) :
    SameTables (rows.withLedger ledger) ((rows.withLedger between).withLedger other) where
  rows := rfl
  ledger := same

structure SameCall (left right : MarketTables × Checked MarketDataProcessResult) : Prop where
  tables : SameTables left.1 right.1
  outcome : right.2 = left.2

section SameCalls

variable {host : Host} {enabled commit : Bool} {left right : MarketTables} {event : GatewayEvent}
  {position : EventPosition} {call other : MarketCall}

theorem IsStored.same (stored : IsStored left event position) (same : SameTables left right) :
    IsStored right event position := by
  apply stored.of_same
  · rw [same.rows]
    rfl
  · exact same.ledger.events

theorem failedCall_same (stored : IsStored left event position) (same : SameTables left right)
    (failure : Failure) :
    SameCall (failedCall host left event commit call.readings failure)
      (failedCall host right event commit other.readings failure) := by
  rw [failedCall, failedCall]
  split
  · rw [recordProjectionFailure_of_stored stored,
      recordProjectionFailure_of_stored (stored.same same)]
    by_cases blank : Text.strip failure.message = ""
    · rw [if_pos blank, if_pos blank]
      exact ⟨same, rfl⟩
    · rw [if_neg blank, if_neg blank]
      refine ⟨⟨?_, same.ledger.withRecord _ _ _ _ _ _⟩, rfl⟩
      rw [same.rows]
      rfl
  · exact ⟨same, rfl⟩

theorem projectInTransaction_same (stored : IsStored left event position)
    (same : SameTables left right)
    (sameRows : other.readings.derivedRows = call.readings.derivedRows)
    (fault : Option DatabaseFault) :
    SameCall (projectInTransaction host left event commit call.readings fault)
      (projectInTransaction host right event commit other.readings fault) := by
  have applies : applyEvent host right event other.readings =
      (applyEvent host left event call.readings).map (besides right.ledger) := by
    have beside := applyEvent_withLedger host same.ledger.events stored.hasTimes sameRows
    rw [← same.rows] at beside
    exact beside
  rw [projectInTransaction.eq_def, projectInTransaction.eq_def]
  cases fault with
  | some fault =>
      cases fault with
      | locked => exact ⟨same, rfl⟩
      | failed message => exact failedCall_same stored same _
  | none =>
      dsimp only
      cases applied : applyEvent host left event call.readings with
      | error failure =>
          have ofLeft : projectEvent host left event call.readings = .error failure := by
            rw [projectEvent, applied]
            rfl
          have ofRight : projectEvent host right event other.readings = .error failure := by
            rw [projectEvent, applies, applied]
            rfl
          rw [ofLeft, ofRight]
          exact failedCall_same stored same failure
      | ok projected =>
          rcases projected with ⟨rows, count⟩
          have beside : applyEvent host right event other.readings =
              .ok (rows.withLedger right.ledger, count) := by
            rw [applies, applied]
            rfl
          cases hasError : projectionErrorMessage rows event.eventId with
          | none =>
              rw [projectEvent_through stored applied hasError,
                projectEvent_through (stored.same same) beside hasError]
              have sameAfter := (same.ledger.withSuccess position (appliedOutcome count)
                call.readings.now other.readings.now).tables rows right.ledger
              dsimp only
              split
              · exact ⟨sameAfter, rfl⟩
              · exact ⟨sameAfter, rfl⟩
          | some message =>
              rw [projectEvent_erroneous stored applied hasError,
                projectEvent_erroneous (stored.same same) beside hasError]
              by_cases blank : Text.strip message = ""
              · rw [if_pos blank, if_pos blank]
                exact failedCall_same stored same _
              · rw [if_neg blank, if_neg blank]
                have sameAfter := (same.ledger.withRecord position .error
                  "INLINE_PROJECTION_ERROR" (some message) call.readings.now
                  other.readings.now).tables rows right.ledger
                dsimp only
                split
                · exact ⟨sameAfter, rfl⟩
                · exact ⟨sameAfter, rfl⟩

theorem processGatewayEvent_same (host : Host) (enabled commit : Bool)
    (stored : IsStored left event position) (same : SameTables left right)
    (sameRows : other.readings.derivedRows = call.readings.derivedRows)
    (fault : Option DatabaseFault) :
    SameCall (processGatewayEvent host enabled left event commit call.readings fault)
      (processGatewayEvent host enabled right event commit other.readings fault) := by
  have known : projectionExists right (normalizeEventType event.eventType) event.eventId =
      projectionExists left (normalizeEventType event.eventType) event.eventId := by
    rw [same.rows]
    rfl
  rw [processGatewayEvent.eq_def, processGatewayEvent.eq_def]
  dsimp only
  rw [known]
  split
  · exact ⟨same, rfl⟩
  · split
    · exact ⟨same, rfl⟩
    · split
      · cases fault with
        | some fault => exact ⟨same, rfl⟩
        | none =>
            rw [withMarketDataWatermark_of_stored event.eventId_stripped stripped_duplicate
              stored.isPosition, withMarketDataWatermark_of_stored event.eventId_stripped
              stripped_duplicate (stored.same same).isPosition]
            refine ⟨⟨?_, same.ledger.withSuccess _ _ _ _⟩, rfl⟩
            rw [same.rows]
            rfl
      · exact projectInTransaction_same stored same sameRows fault

end SameCalls

end SuseokTrader
