import SuseokTrader.Market.Retries

/-!
# Successful results

An event whose result is a success has rows of its projection, or was passed
over because there was nothing to write. This holds in every run in which no
event comes back that left an error row and nothing else.
-/

namespace SuseokTrader

/-! ## The law -/

variable (tables : MarketTables)

variable (eventId : String)

def HasRows : Prop :=
  (tables.samples.find? eventId).isSome ∨ (tables.signals.find? eventId).isSome ∨
    tables.snapshots.any (fun row => row.eventId = eventId)

def marketResult : Option ProjectionEventResult :=
  tables.ledger.results.find? ("market_data", eventId)

def IsSuccess : Prop :=
  ∃ row, marketResult tables eventId = some row ∧ row.status = .success

def ErrorAlone : Prop :=
  hasProjectionError tables eventId = true ∧ ¬ HasRows tables eventId

def SuccessIsBacked (history : MarketHistory) : Prop :=
  ∀ eventId, IsSuccess history.tables eventId →
    HasRows history.tables eventId ∨ eventId ∈ history.passedOver

def NotFromErrorAlone (before after : MarketTables) : Prop :=
  ∀ eventId, marketResult after eventId ≠ marketResult before eventId →
    IsSuccess after eventId → ¬ ErrorAlone after eventId

/-! ## The condition -/

def LeavesErrors : MarketWrite → Prop
  | .store _ _ => True
  | .project enabled event _ _ =>
      enabled = true → normalizeEventType event.eventType = "price_tick" →
        ¬ ErrorAlone tables event.eventId

variable (host : Host)

def IsInvalidTick (event : GatewayEvent) : Prop :=
  normalizeEventType event.eventType = "price_tick" ∧ isQuoteOnly host event.payload = false ∧
    ∃ tick, BrokerPriceTick.fromDict host event.payload = .ok tick ∧
      ("PRICE_MISSING" ∈ priceTickPayloadReasonCodes host event.payload ∨ tick.price = 1)

variable (tables : MarketTables)

/-- A worker's job of this projection is not for an accepted event that left an error row and
nothing else, or that leaves one as it is projected. -/
def JobLeavesErrors (job : ProjectionJob)
    (attempt : Attempt) : Prop :=
  Text.strip job.projectionName = "market_data" →
    ∀ stored, tables.gatewayEvents.find? (Text.strip job.eventId) = some stored →
      stored.accepted = true →
        ¬ ErrorAlone tables stored.event.eventId ∧
          (attempt.applies = true → ¬ IsInvalidTick host stored.event)

/-! ## What projecting an event does -/

structure Projects (before after : MarketTables) : Prop where
  ledger : after.ledger = before.ledger
  gatewayEvents : after.gatewayEvents = before.gatewayEvents
  rows : ∀ eventId, HasRows before eventId → HasRows after eventId
  errorRows : ∀ eventId, hasProjectionError before eventId = true →
    hasProjectionError after eventId = true

theorem Projects.refl : Projects tables tables where
  ledger := rfl
  gatewayEvents := rfl
  rows _ has := has
  errorRows _ has := has

theorem Projects.trans {first second third : MarketTables} (left : Projects first second)
    (right : Projects second third) : Projects first third where
  ledger := right.ledger.trans left.ledger
  gatewayEvents := right.gatewayEvents.trans left.gatewayEvents
  rows eventId has := right.rows eventId (left.rows eventId has)
  errorRows eventId has := right.errorRows eventId (left.errorRows eventId has)

theorem hasProjectionError_record (event : ProjectedEvent)
    (message eventId : String) :
    hasProjectionError (recordProjectionError host tables event message) eventId = true ↔
      hasProjectionError tables eventId = true ∨ event.eventId = eventId := by
  simp [hasProjectionError, recordProjectionError]

theorem projects_recordProjectionError (event : ProjectedEvent) (message : String) :
    Projects tables (recordProjectionError host tables event message) where
  ledger := rfl
  gatewayEvents := rfl
  rows _ has := has
  errorRows eventId has := (hasProjectionError_record host tables event message eventId).mpr
    (Or.inl has)

/-- What is left of a price tick: its sample, an error row, or nothing where it has no trade. -/
inductive TickEffect (host : Host) (before : MarketTables) (event : ProjectedEvent) :
    MarketTables → Nat → Prop
  | quoteOnly (quote : isQuoteOnly host event.payload = true) :
      TickEffect host before event before 0
  | refused (tick : BrokerPriceTick) (message : String)
      (trade : isQuoteOnly host event.payload = false)
      (read : BrokerPriceTick.fromDict host event.payload = .ok tick)
      (invalid : "PRICE_MISSING" ∈ priceTickPayloadReasonCodes host event.payload ∨
        tick.price = 1) :
      TickEffect host before event (recordProjectionError host before event message) 0
  | sampled {after : MarketTables} {count : Nat} (projects : Projects before after)
      (errors : after.errors = before.errors) (sample : HasRows after event.eventId) :
      TickEffect host before event after count

variable {host : Host} {tables before after : MarketTables} {event : ProjectedEvent}
  {readings : ProjectionReadings} {count : Nat} {eventId : String} {now : Instant}
  {status : ProjectionResultStatus} {passes : Bool} {history : MarketHistory}
  {job : ProjectionJob} {attempt : Attempt}

theorem writePriceTick_spec {tick : BrokerPriceTick} {exchange : String}
    (success : writePriceTick host tables event tick exchange readings = .ok (after, count)) :
    Projects tables after ∧ after.errors = tables.errors ∧ HasRows after event.eventId := by
  simp only [writePriceTick] at success
  split at success
  · cases success
  · next samples inserted =>
      have grows : ∀ eventId, (tables.samples.find? eventId).isSome →
          (samples.find? eventId).isSome := by
        intro eventId present
        rcases Option.isSome_iff_exists.mp present with ⟨row, found⟩
        rw [Table.find?_of_insert?_of_some inserted found]
        rfl
      have own : (samples.find? event.eventId).isSome := by
        have found := Table.find?_of_insert?_self inserted
        exact Option.isSome_of_eq_some found
      have projects : ∀ latest,
          Projects tables { tables with samples := samples, latest := latest } :=
        fun latest => ⟨rfl, rfl, fun eventId has => has.imp_left (grows eventId), fun _ has => has⟩
      split at success
      · rcases success with ⟨rfl, _⟩
        exact ⟨projects tables.latest, rfl, Or.inl own⟩
      · rcases Checked.bind_eq_ok.mp success with ⟨derived, _, success⟩
        rcases success with ⟨rfl, _⟩
        exact ⟨projects _, rfl, Or.inl own⟩

theorem processPriceTick_effect
    (success : processPriceTick host tables event readings = .ok (after, count)) :
    TickEffect host tables event after count := by
  rw [processPriceTick] at success
  split at success
  · next quote =>
      rcases success with ⟨rfl, rfl⟩
      exact .quoteOnly quote
  · next trade =>
      rcases Checked.bind_eq_ok.mp success with ⟨tick, read, success⟩
      rcases Checked.bind_eq_ok.mp success with ⟨exchange, _, success⟩
      dsimp only at success
      split at success
      · next invalid =>
          rcases success with ⟨rfl, rfl⟩
          refine .refused tick _ (by simpa using trade) read ?_
          rw [assessPriceTickQuality_eq_invalid] at invalid
          refine invalid.imp_left ?_
          intro reasons
          rw [invalidReasons] at reasons
          split at reasons
          · next missing => exact missing
          · exact absurd rfl reasons
      · rcases writePriceTick_spec success with ⟨projects, errors, sample⟩
        exact .sampled projects errors sample

theorem TickEffect.projects (effect : TickEffect host before event after count) :
    Projects before after := by
  cases effect with
  | quoteOnly quote => exact .refl before
  | refused tick message trade read invalid =>
      exact projects_recordProjectionError host before event message
  | sampled projects errors sample => exact projects

theorem TickEffect.errors_of_ne (effect : TickEffect host before event after count)
    (other : event.eventId ≠ eventId) :
    hasProjectionError after eventId = hasProjectionError before eventId := by
  cases effect with
  | quoteOnly quote => rfl
  | refused tick message trade read invalid =>
      rw [Bool.eq_iff_iff, hasProjectionError_record]
      exact or_iff_left other
  | sampled projects errors sample => rw [hasProjectionError, errors, hasProjectionError]

theorem processConditionEvent_spec
    (success : processConditionEvent host tables event readings = .ok (after, count)) :
    Projects tables after ∧ after.errors = tables.errors ∧ HasRows after event.eventId := by
  rcases Checked.bind_eq_ok.mp success with ⟨condition, _, success⟩
  dsimp only at success
  split at success
  · next signals inserted =>
      rcases success with ⟨rfl, _⟩
      refine ⟨⟨rfl, rfl, ?_, fun _ has => has⟩, rfl, Or.inr (Or.inl ?_)⟩
      · intro eventId has
        refine has.imp_right (Or.imp_left ?_)
        intro present
        rcases Option.isSome_iff_exists.mp present with ⟨row, found⟩
        rw [Table.find?_of_insert?_of_some inserted found]
        rfl
      · have found := Table.find?_of_insert?_self inserted
        exact Option.isSome_of_eq_some found
  · cases success

theorem syntheticPriceTickEventId_ne (parentEventId : String) (rowIndex : Nat)
    (code exchange : String) :
    syntheticPriceTickEventId parentEventId rowIndex code exchange ≠ parentEventId := by
  intro same
  have length := congrArg String.length same
  simp only [syntheticPriceTickEventId, String.length_append] at length
  have long : 0 < ":synthetic_price_tick:".length := by decide +kernel
  omega

theorem processSyntheticTick_spec {parent : GatewayEvent} {response : BrokerTrResponse}
    {eventTs : String} {projected after : MarketTables × Nat} {row : Nat × Payload}
    (success : processSyntheticTick host parent response eventTs readings projected row =
      .ok after) :
    Projects projected.1 after.1 ∧ hasProjectionError after.1 parent.eventId =
      hasProjectionError projected.1 parent.eventId := by
  rcases Checked.bind_eq_ok.mp success with ⟨tick, _, success⟩
  rcases Checked.bind_eq_ok.mp success with ⟨exchange, _, success⟩
  dsimp only at success
  split at success
  · simp only [pure, Except.pure, Except.ok.injEq] at success
    subst success
    exact ⟨.refl _, rfl⟩
  · rcases Checked.bind_eq_ok.mp success with ⟨ts, _, success⟩
    rcases Checked.bind_eq_ok.mp success with ⟨⟨tables, count⟩, processed, success⟩
    simp only [pure, Except.pure, Except.ok.injEq] at success
    subst success
    have effect := processPriceTick_effect processed
    exact ⟨effect.projects, effect.errors_of_ne (syntheticPriceTickEventId_ne _ _ _ _)⟩

theorem foldlM_syntheticTicks {parent : GatewayEvent} {response : BrokerTrResponse}
    {eventTs : String} (ticks : List (Nat × Payload)) {projected after : MarketTables × Nat}
    (success : ticks.foldlM (processSyntheticTick host parent response eventTs readings) projected =
      .ok after) :
    Projects projected.1 after.1 ∧ hasProjectionError after.1 parent.eventId =
      hasProjectionError projected.1 parent.eventId := by
  induction ticks generalizing projected with
  | nil =>
      simp only [List.foldlM_nil, pure, Except.pure, Except.ok.injEq] at success
      subst success
      exact ⟨.refl _, rfl⟩
  | cons tick ticks ih =>
      rcases Checked.bind_eq_ok.mp success with ⟨middle, first, rest⟩
      have here := processSyntheticTick_spec first
      have later := ih rest
      exact ⟨here.1.trans later.1, later.2.trans here.2⟩

theorem processTrResponse_spec {event : GatewayEvent}
    (success : processTrResponse host tables event readings = .ok (after, count)) :
    Projects tables after ∧
      hasProjectionError after event.eventId = hasProjectionError tables event.eventId ∧
      ∃ response, BrokerTrResponse.fromDict event.payload = .ok response ∧
        (response.rows.isEmpty = true ∨ HasRows after event.eventId) := by
  rcases Checked.bind_eq_ok.mp success with ⟨response, read, success⟩
  rcases Checked.bind_eq_ok.mp success with ⟨ticks, _, folded⟩
  have ofTicks := foldlM_syntheticTicks ticks folded
  have ofRows : Projects tables { tables with
      snapshots := tables.snapshots ++ response.rows.map (trSnapshot event.projected response
        (eventStoreTimes host tables event.projected readings.now)) } := by
    refine ⟨rfl, rfl, ?_, fun _ has => has⟩
    intro eventId has
    refine has.imp_right (Or.imp_right ?_)
    intro present
    rw [List.any_append, present, Bool.true_or]
  refine ⟨ofRows.trans ofTicks.1, ofTicks.2, response, read, ?_⟩
  cases isRows : response.rows with
  | nil => exact Or.inl rfl
  | cons row rows =>
      right
      apply ofTicks.1.rows
      right
      rw [isRows]
      simp [trSnapshot, GatewayEvent.projected]

/-- What the projection of an event leaves of it: its rows, an error row, or nothing where it was
passed over. -/
theorem applyEvent_spec {event : GatewayEvent}
    (success : applyEvent host tables event readings = .ok (after, count))
    (isType : normalizeEventType event.eventType ∈ marketDataEventTypes) :
    Projects tables after ∧
      (hasProjectionError after event.eventId = true →
        hasProjectionError tables event.eventId = true ∨ IsInvalidTick host event) ∧
      (HasRows after event.eventId ∨ isPassedOver host event = true ∨
        hasProjectionError after event.eventId = true) := by
  rw [applyEvent] at success
  split at success
  · next ofTick =>
      have effect := processPriceTick_effect success
      refine ⟨effect.projects, ?_⟩
      cases effect with
      | quoteOnly quote =>
          refine ⟨Or.inl, Or.inr (Or.inl ?_)⟩
          rw [isPassedOver, if_pos ofTick]
          exact quote
      | refused tick message trade read invalid =>
          have own := (hasProjectionError_record host tables event.projected message
            event.eventId).mpr (Or.inr rfl)
          exact ⟨fun _ => Or.inr ⟨ofTick, trade, tick, read, invalid⟩, Or.inr (Or.inr own)⟩
      | sampled projects errors sample =>
          refine ⟨?_, Or.inl sample⟩
          intro error
          rw [hasProjectionError, errors] at error
          exact Or.inl error
  · next notTick =>
      split at success
      · rcases processConditionEvent_spec success with ⟨projects, errors, signal⟩
        refine ⟨projects, ?_, Or.inl signal⟩
        intro error
        rw [hasProjectionError, errors] at error
        exact Or.inl error
      · next notCondition =>
          rcases processTrResponse_spec success with ⟨projects, errors, response, read, rows⟩
          refine ⟨projects, ?_, ?_⟩
          · intro error
            exact Or.inl (errors ▸ error)
          · refine rows.elim ?_ Or.inl
            intro noRows
            have ofTr : normalizeEventType event.eventType = "tr_response" := by
              simp only [marketDataEventTypes, List.mem_cons, List.not_mem_nil, or_false] at isType
              exact (isType.resolve_left notTick).resolve_left notCondition
            right
            left
            rw [isPassedOver, if_neg notTick, if_pos ofTr, read]
            exact noRows

/-! ## What recording a result does -/

/-- A result of the status is recorded for the event, or none where the event is not stored. -/
structure Records (before after : MarketTables) (eventId : String)
    (status : ProjectionResultStatus) : Prop where
  same : after = { before with ledger := after.ledger }
  results : after.ledger.results = before.ledger.results ∨
    ∃ row, Keyed.key row = ("market_data", eventId) ∧ row.status = status ∧
      after.ledger.results = upsertEventResult before.ledger.results row

namespace Records

variable {before after : MarketTables} {eventId : String} {status : ProjectionResultStatus}

theorem hasRows (records : Records before after eventId status) (id : String) :
    HasRows after id ↔ HasRows before id := by
  rw [records.same]
  exact Iff.rfl

theorem errors (records : Records before after eventId status) (id : String) :
    hasProjectionError after id = hasProjectionError before id := by
  rw [records.same]
  rfl

theorem others (records : Records before after eventId status) (id : String)
    (other : id ≠ eventId) : marketResult after id = marketResult before id := by
  rw [marketResult, marketResult]
  rcases records.results with same | ⟨row, isKey, _, upserts⟩
  · rw [same]
  · rw [upserts]
    apply find?_upsertEventResult_of_ne
    rw [isKey]
    exact fun same => other (Prod.mk.inj same).2

theorem own (records : Records before after eventId status) :
    marketResult after eventId = marketResult before eventId ∨
      ∃ row, marketResult after eventId = some row ∧ row.status = status := by
  rw [marketResult, marketResult]
  rcases records.results with same | ⟨row, isKey, hasStatus, upserts⟩
  · exact Or.inl (by rw [same])
  · right
    rcases find?_upsertEventResult_self before.ledger.results row with ⟨written, found, isStatus, _⟩
    rw [isKey] at found
    exact ⟨written, by rw [upserts, found], isStatus.trans hasStatus⟩

theorem not_success (records : Records before after eventId .error) :
    marketResult after eventId = marketResult before eventId ∨ ¬ IsSuccess after eventId := by
  refine records.own.imp_right ?_
  rintro ⟨row, found, isError⟩ ⟨other, isOther, isSuccess⟩
  rw [found, Option.some.injEq] at isOther
  subst isOther
  rw [isError] at isSuccess
  cases isSuccess

end Records

theorem records_of_report {ledger : ResultLedger} {report : ResultReport}
    (success : recordProjectionEventResult tables.ledger report now = .ok ledger)
    (name : Text.lower (Text.strip report.projectionName) = "market_data") :
    Records tables { tables with ledger := ledger } (Text.strip report.eventId) report.status := by
  refine ⟨rfl, ?_⟩
  rcases recordProjectionEventResult_cases success with ⟨_, same⟩ |
    ⟨_, row, sameName, sameEvent, sameStatus, _, upserts⟩
  · exact Or.inl (by rw [same])
  · refine Or.inr ⟨row, ?_, sameStatus, upserts⟩
    rw [← name, ← sameName, ← sameEvent]
    rfl

theorem recordMarketDataResult_spec {outcome : String} {message : Option String}
    (stripped : Stripped eventId)
    (success : recordMarketDataResult tables (marketDataReport eventId status outcome message) now =
      .ok after) : Records tables after eventId status := by
  rcases Checked.bind_eq_ok.mp success with ⟨ledger, recorded, success⟩
  simp only [pure, Except.pure, Except.ok.injEq] at success
  subst success
  have name : Text.lower (Text.strip "market_data") = "market_data" := by decide +kernel
  have records := records_of_report recorded name
  rw [marketDataReport, stripped.strip_eq] at records
  exact records

theorem withMarketDataWatermark_spec {outcome : String} (stripped : Stripped eventId)
    (success : withMarketDataWatermark tables eventId outcome now = .ok after) :
    Records tables after eventId .success := by
  rcases Checked.bind_eq_ok.mp success with ⟨recorded, isRecorded, success⟩
  simp only [pure, Except.pure, Except.ok.injEq] at success
  subst success
  have records := recordMarketDataResult_spec stripped isRecorded
  rw [advanceMarketDataWatermarkForEvent]
  split
  · exact records
  · refine ⟨?_, records.results⟩
    rw [records.same]

/-! ## What a call does -/

/-- The frame of a call for an event, and what is behind a success that it records. -/
structure CallEffect (before after : MarketTables) (eventId : String) (passes : Bool) : Prop where
  gatewayEvents : after.gatewayEvents = before.gatewayEvents
  rows : ∀ id, HasRows before id → HasRows after id
  others : ∀ id, id ≠ eventId → marketResult after id = marketResult before id
  own : marketResult after eventId = marketResult before eventId ∨
    (IsSuccess after eventId → HasRows after eventId ∨
      passes = true ∧ hasProjectionError before eventId = false ∧
        hasProjectionError after eventId = false)

theorem CallEffect.refl (tables : MarketTables) (eventId : String) (passes : Bool) :
    CallEffect tables tables eventId passes where
  gatewayEvents := rfl
  rows _ has := has
  others _ _ := rfl
  own := Or.inl rfl

theorem Projects.callEffect {projected : MarketTables} (projects : Projects before projected)
    (records : Records projected after eventId status)
    (backed : status = .success → HasRows after eventId ∨
      passes = true ∧ hasProjectionError before eventId = false ∧
        hasProjectionError after eventId = false) :
    CallEffect before after eventId passes where
  gatewayEvents := by
    rw [records.same]
    exact projects.gatewayEvents
  rows id has := (records.hasRows id).mpr (projects.rows id has)
  others id other := by
    rw [records.others id other, marketResult, projects.ledger, marketResult]
  own := by
    have sameResult : marketResult projected eventId = marketResult before eventId := by
      rw [marketResult, projects.ledger, marketResult]
    cases status with
    | success => exact Or.inr fun _ => backed rfl
    | error =>
        rw [← sameResult]
        exact records.not_success.imp_right fun failed success => absurd success failed

theorem projectionErrorMessage_eq_none (none : projectionErrorMessage tables eventId = none) :
    hasProjectionError tables eventId = false := by
  rw [projectionErrorMessage, Option.map_eq_none_iff, List.getLast?_eq_none_iff,
    List.filter_eq_nil_iff] at none
  rw [hasProjectionError, List.any_eq_false]
  exact none

theorem projectEvent_effect {event : GatewayEvent}
    (isType : normalizeEventType event.eventType ∈ marketDataEventTypes)
    (success : projectEvent host tables event readings = .ok (after, count)) :
    CallEffect tables after event.eventId (isPassedOver host event) ∧
      (hasProjectionError after event.eventId = true →
        hasProjectionError tables event.eventId = true ∨ IsInvalidTick host event) := by
  rcases Checked.bind_eq_ok.mp success with ⟨⟨projected, applied⟩, isApplied, success⟩
  rcases applyEvent_spec isApplied isType with ⟨projects, errors, left⟩
  dsimp only at success
  split at success
  · next noMessage =>
      rcases Checked.bind_eq_ok.mp success with ⟨recorded, isRecorded, success⟩
      rcases success with ⟨rfl, _⟩
      have records := withMarketDataWatermark_spec event.eventId_stripped isRecorded
      have noError := projectionErrorMessage_eq_none noMessage
      have wasNone : hasProjectionError tables event.eventId = false := by
        rw [← Bool.not_eq_true]
        intro had
        rw [projects.errorRows event.eventId had] at noError
        cases noError
      refine ⟨projects.callEffect records fun _ => ?_, ?_⟩
      · rw [records.hasRows, records.errors]
        rcases left with rows | passed | error
        · exact Or.inl rows
        · exact Or.inr ⟨passed, wasNone, noError⟩
        · rw [noError] at error
          cases error
      · rw [records.errors]
        exact errors
  · rcases Checked.bind_eq_ok.mp success with ⟨recorded, isRecorded, success⟩
    rcases success with ⟨rfl, _⟩
    have records := recordMarketDataResult_spec event.eventId_stripped isRecorded
    refine ⟨projects.callEffect records nofun, ?_⟩
    rw [records.errors]
    exact errors

theorem recordProjectionFailure_effect {event : GatewayEvent} {message : String}
    (success : recordProjectionFailure host tables event message now = .ok after) :
    CallEffect tables after event.eventId passes := by
  have records := recordMarketDataResult_spec event.eventId_stripped success
  exact (projects_recordProjectionError host tables event.projected message).callEffect records
    nofun

theorem rows_of_projectionExists {eventType : String}
    (found : projectionExists tables eventType eventId = true) :
    HasRows tables eventId ∨
      eventType = "price_tick" ∧ hasProjectionError tables eventId = true := by
  rw [projectionExists] at found
  split at found
  · next ofTick =>
      rw [Bool.or_eq_true] at found
      exact found.imp Or.inl fun error => ⟨ofTick, error⟩
  · split at found
    · exact Or.inl (Or.inr (Or.inl found))
    · split at found
      · exact Or.inl (Or.inr (Or.inr found))
      · cases found

/-- What a call does, with the error rows that it leaves for its event where it does not fail. -/
structure CallSpec (host : Host) (before : MarketTables) (event : GatewayEvent)
    (after : MarketTables) (outcome : Checked MarketDataProcessResult) : Prop where
  effect : CallEffect before after event.eventId (isPassedOver host event && completes outcome)
  errors : ∀ result, outcome = .ok result → result.status ≠ .error →
    hasProjectionError after event.eventId = true →
      hasProjectionError before event.eventId = true ∨ IsInvalidTick host event

theorem callSpec_of_unchanged (host : Host) (tables : MarketTables) (event : GatewayEvent)
    (outcome : Checked MarketDataProcessResult) : CallSpec host tables event tables outcome where
  effect := .refl _ _ _
  errors _ _ _ := Or.inl

theorem projectInTransaction_spec (host : Host) (tables : MarketTables) (event : GatewayEvent)
    (commit : Bool) (readings : ProjectionReadings) (fault : Option DatabaseFault)
    (isType : normalizeEventType event.eventType ∈ marketDataEventTypes) :
    CallSpec host tables event
      (projectInTransaction host tables event commit readings fault).1
      (projectInTransaction host tables event commit readings fault).2 := by
  have fails : ∀ failure : Failure, CallSpec host tables event
      (failedCall host tables event commit readings failure).1
      (failedCall host tables event commit readings failure).2 := by
    intro failure
    rw [failedCall]
    split
    · split
      · next written recorded =>
          refine ⟨recordProjectionFailure_effect recorded, ?_⟩
          intro result isResult notError
          rw [Except.ok.injEq] at isResult
          subst isResult
          exact absurd rfl notError
      · exact callSpec_of_unchanged host tables event _
    · exact callSpec_of_unchanged host tables event _
  rw [projectInTransaction.eq_def]
  split
  · exact callSpec_of_unchanged host tables event _
  · exact fails _
  · split
    · exact fails _
    · next written count projected =>
        rcases projectEvent_effect isType projected with ⟨effect, errors⟩
        split
        · refine ⟨?_, fun _ _ _ => errors⟩
          have completed : completes (.ok (passedOver .ignored)) = true := rfl
          rw [completed, Bool.and_true]
          exact effect
        · refine ⟨?_, fun _ _ _ => errors⟩
          have completed : completes (.ok (appliedRows count)) = true := rfl
          rw [completed, Bool.and_true]
          exact effect

theorem processGatewayEvent_spec (host : Host) (enabled : Bool) (tables : MarketTables)
    (event : GatewayEvent) (commit : Bool) (readings : ProjectionReadings)
    (fault : Option DatabaseFault)
    (leaves : enabled = true → normalizeEventType event.eventType = "price_tick" →
      ¬ ErrorAlone tables event.eventId) :
    CallSpec host tables event
      (processGatewayEvent host enabled tables event commit readings fault).1
      (processGatewayEvent host enabled tables event commit readings fault).2 := by
  rw [processGatewayEvent.eq_def]
  dsimp only
  split
  · exact callSpec_of_unchanged host tables event _
  · next isEnabled =>
      split
      · exact callSpec_of_unchanged host tables event _
      · next isType =>
          rw [not_not] at isType
          split
          · next found =>
              split
              · exact callSpec_of_unchanged host tables event _
              · split
                · next written recorded =>
                    have records := withMarketDataWatermark_spec event.eventId_stripped recorded
                    have rows : HasRows tables event.eventId := by
                      rcases rows_of_projectionExists found with rows | ⟨ofTick, error⟩
                      · exact rows
                      · by_contra noRows
                        exact leaves (by simpa using isEnabled) ofTick ⟨error, noRows⟩
                    refine ⟨(Projects.refl tables).callEffect records
                      fun _ => Or.inl ((records.hasRows _).mpr rows), ?_⟩
                    intro _ _ _
                    rw [records.errors]
                    exact Or.inl
                · exact callSpec_of_unchanged host tables event _
          · exact projectInTransaction_spec host tables event commit readings fault isType

/-! ## Keeping the law -/

theorem CallEffect.notFromErrorAlone (effect : CallEffect before after eventId passes) :
    NotFromErrorAlone before after := by
  intro id changed success alone
  by_cases same : id = eventId
  · subst same
    rcases effect.own.resolve_left changed success with rows | ⟨_, _, noError⟩
    · exact alone.2 rows
    · have error := alone.1
      rw [noError] at error
      cases error
  · exact changed (effect.others id same)

theorem SuccessIsBacked.passOver (law : SuccessIsBacked history)
    (effect : CallEffect history.tables after eventId passes) :
    SuccessIsBacked (history.passOver after eventId passes) := by
  have keeps : ∀ id, id ∈ history.passedOver →
      id ∈ (history.passOver after eventId passes).passedOver := by
    intro id listed
    rw [MarketHistory.passOver]
    split
    · exact List.mem_cons_of_mem _ listed
    · exact listed
  have old : ∀ id, marketResult after id = marketResult history.tables id → IsSuccess after id →
      HasRows after id ∨ id ∈ (history.passOver after eventId passes).passedOver := by
    intro id same success
    rw [IsSuccess, same] at success
    exact (law id success).imp (effect.rows id) (keeps id)
  intro id success
  by_cases same : id = eventId
  · subst same
    rcases effect.own with unchanged | backed
    · exact old id unchanged success
    · refine (backed success).imp_right ?_
      rintro ⟨isPassed, noError, _⟩
      rw [MarketHistory.passOver, isPassed, noError]
      exact List.mem_cons_self
  · exact old id (effect.others id same) success

theorem storeEvent_callEffect (tables : MarketTables) (stored : StoredEvent)
    (position : EventPosition) (eventId : String) :
    (∀ id, HasRows tables id → HasRows (storeEvent tables stored position) id) ∧
      marketResult (storeEvent tables stored position) eventId = marketResult tables eventId := by
  rw [storeEvent]
  split <;> exact ⟨fun _ has => has, rfl⟩

theorem write_keeps {commit : Bool} {write : MarketWrite} (law : SuccessIsBacked history)
    (leaves : LeavesErrors history.tables write) :
    SuccessIsBacked (write.next host commit history) ∧
      NotFromErrorAlone history.tables (write.next host commit history).tables := by
  cases write with
  | store stored position =>
      rw [MarketWrite.next]
      constructor
      · intro id success
        rcases storeEvent_callEffect history.tables stored position id with ⟨rows, same⟩
        rw [IsSuccess, same] at success
        exact (law id success).imp_left (rows id)
      · intro id changed
        exact absurd (storeEvent_callEffect history.tables stored position id).2 changed
  | project enabled event readings fault =>
      have spec := processGatewayEvent_spec host enabled history.tables event commit readings fault
        leaves
      exact ⟨law.passOver spec.effect, spec.effect.notFromErrorAlone⟩

/-! ## Workers -/

theorem CallEffect.mono {weaker : Bool} (effect : CallEffect before after eventId passes)
    (weakens : passes = true → weaker = true) :
    CallEffect before after eventId weaker where
  gatewayEvents := effect.gatewayEvents
  rows := effect.rows
  others := effect.others
  own := effect.own.imp_right fun backed success =>
    (backed success).imp_right (And.imp_left weakens)

theorem CallEffect.records {written : MarketTables}
    (effect : CallEffect before written eventId passes)
    (records : Records written after eventId status)
    (backed : status = .success → HasRows written eventId) :
    CallEffect before after eventId passes where
  gatewayEvents := by
    rw [records.same]
    exact effect.gatewayEvents
  rows id has := (records.hasRows id).mpr (effect.rows id has)
  others id other := (records.others id other).trans (effect.others id other)
  own := by
    cases status with
    | success => exact Or.inr fun _ => Or.inl ((records.hasRows eventId).mpr (backed rfl))
    | error =>
        rcases records.not_success with same | failed
        · rw [IsSuccess, same, records.hasRows, records.errors]
          exact effect.own
        · exact Or.inr fun success => absurd success failed

theorem verifyMarketData_applied {eventType : String} {event : GatewayEvent}
    (applied : verifyMarketData host tables eventType event = .applied) :
    hasProjectionError tables event.eventId = true ∨ HasRows tables event.eventId := by
  rw [verifyMarketData] at applied
  split at applied
  · next error => exact Or.inl error
  · right
    split at applied
    · split at applied
      · next sample => exact Or.inl sample
      · split at applied
        · next skipped classified =>
            rw [classifyMissingPriceTickSample] at classified
            subst applied
            split at classified
            · cases classified
            · split at classified
              · split at classified
                · split at classified <;> cases classified
                · cases classified
              · cases classified
        · cases applied
    · split at applied
      · rw [verifyEventIdTable] at applied
        split at applied
        · next signal => exact Or.inr (Or.inl signal)
        · cases applied
      · split at applied
        · split at applied
          · rw [verifyEventIdTable] at applied
            split at applied
            · next snapshot => exact Or.inr (Or.inr snapshot)
            · cases applied
          · cases applied
        · cases applied

theorem verifyProjectionOutboxJob_applied
    (applied : verifyProjectionOutboxJob host tables job = .applied) :
    hasProjectionError tables (Text.strip job.eventId) = true ∨
      HasRows tables (Text.strip job.eventId) := by
  rw [verifyProjectionOutboxJob] at applied
  split at applied
  · cases applied
  · next stored found =>
      have isId : stored.event.eventId = Text.strip job.eventId := Table.key_of_find? found
      split at applied
      · rw [← isId]
        exact verifyMarketData_applied applied
      · cases applied

structure AttemptSpec (before : MarketTables) (job : ProjectionJob) (passes : Bool)
    (after : MarketTables) (verification : Verification) : Prop where
  effect : CallEffect before after (Text.strip job.eventId) passes
  backed : verification = .applied → HasRows after (Text.strip job.eventId)

theorem attemptSpec_of_unchanged (leaves : verifyProjectionOutboxJob host tables job = .applied →
      ¬ ErrorAlone tables (Text.strip job.eventId)) :
    AttemptSpec tables job passes tables (verifyProjectionOutboxJob host tables job) where
  effect := .refl _ _ _
  backed applied := by
    rcases verifyProjectionOutboxJob_applied applied with error | rows
    · by_contra noRows
      exact leaves applied ⟨error, noRows⟩
    · exact rows

theorem projectJob_spec {stored : StoredEvent} (attempt : Attempt)
    (found : tables.gatewayEvents.find? (Text.strip job.eventId) = some stored)
    (leaves : ¬ ErrorAlone tables (Text.strip job.eventId))
    (valid : ¬ IsInvalidTick host stored.event) :
    AttemptSpec tables job (isPassedOver host stored.event)
      (projectJob host tables job stored.event attempt).1
      (projectJob host tables job stored.event attempt).2 := by
  have isId : stored.event.eventId = Text.strip job.eventId := Table.key_of_find? found
  have spec := processGatewayEvent_spec host attempt.enabled tables stored.event true
    attempt.readings attempt.fault (fun _ _ => by rw [isId]; exact leaves)
  have effect := spec.effect.mono fun both => (Bool.and_eq_true_iff.mp both).1
  have errors := spec.errors
  rw [isId] at effect errors
  rw [projectJob.eq_def]
  generalize processGatewayEvent host attempt.enabled tables stored.event true attempt.readings
    attempt.fault = called at effect errors
  rcases called with ⟨written, outcome⟩
  cases outcome with
  | error failure => exact ⟨effect, nofun⟩
  | ok result =>
      dsimp only at effect errors ⊢
      split
      · exact ⟨effect, nofun⟩
      · next notError =>
          split
          · exact ⟨effect, nofun⟩
          · refine ⟨effect, ?_⟩
            intro applied
            rcases verifyProjectionOutboxJob_applied applied with error | rows
            · have before := (errors result rfl notError error).resolve_right valid
              apply effect.rows
              by_contra noRows
              exact leaves ⟨before, noRows⟩
            · exact rows

def jobPasses (host : Host) (tables : MarketTables) (job : ProjectionJob) : Bool :=
  (tables.gatewayEvents.find? (Text.strip job.eventId)).any fun stored =>
    stored.accepted && isPassedOver host stored.event

theorem applyProjectionOutboxJob_spec (isMarket : Text.strip job.projectionName = "market_data")
    (leaves : JobLeavesErrors host tables job attempt) (applies : attempt.applies = true) :
    AttemptSpec tables job (jobPasses host tables job)
      (applyProjectionOutboxJob host tables job attempt).1
      (applyProjectionOutboxJob host tables job attempt).2 := by
  rw [applyProjectionOutboxJob.eq_def]
  split
  · exact ⟨.refl _ _ _, nofun⟩
  · next stored found =>
      split
      · exact ⟨.refl _ _ _, nofun⟩
      · next accepted =>
          have isAccepted : stored.accepted = true := by simpa using accepted
          have isId : stored.event.eventId = Text.strip job.eventId := Table.key_of_find? found
          rcases leaves isMarket stored found isAccepted with ⟨apart, valid⟩
          rw [isId] at apart
          have passes : jobPasses host tables job = isPassedOver host stored.event := by
            rw [jobPasses, found, Option.any_some, isAccepted, Bool.true_and]
          have projected := projectJob_spec attempt found apart (valid applies)
          rw [← passes] at projected
          split
          · exact ⟨.refl _ _ _, nofun⟩
          · rw [applyMarketDataProjection.eq_def]
            split
            · next applied =>
                rw [← applied]
                exact attemptSpec_of_unchanged fun _ => apart
            · split
              · exact projected
              · exact ⟨.refl _ _ _, nofun⟩
            · exact projected

theorem accepted_of_applied (applied : verifyProjectionOutboxJob host tables job = .applied) :
    ∃ stored, tables.gatewayEvents.find? (Text.strip job.eventId) = some stored ∧
      stored.accepted = true := by
  rw [verifyProjectionOutboxJob] at applied
  split at applied
  · cases applied
  · next stored found =>
      split at applied
      · next accepted => exact ⟨stored, found, accepted⟩
      · cases applied

theorem verifyOrApply_spec (isMarket : Text.strip job.projectionName = "market_data")
    (leaves : JobLeavesErrors host tables job attempt) :
    AttemptSpec tables job (jobPasses host tables job)
      (verifyOrApply host tables job attempt).1 (verifyOrApply host tables job attempt).2 := by
  rw [verifyOrApply]
  split
  · next applies => exact applyProjectionOutboxJob_spec isMarket leaves applies
  · apply attemptSpec_of_unchanged
    intro applied
    rcases accepted_of_applied applied with ⟨stored, found, accepted⟩
    have isId : stored.event.eventId = Text.strip job.eventId := Table.key_of_find? found
    rw [← isId]
    exact (leaves isMarket stored found accepted).1

theorem report_of_mark {verification : Verification} {report : ResultReport}
    (reports : (verification.mark attempt).report job = some report) :
    report.projectionName = job.projectionName ∧ report.eventId = job.eventId ∧
      (report.status = .success → verification = .applied) := by
  cases verification with
  | applied =>
      rw [Verification.mark, Mark.report, Option.some.injEq] at reports
      subst reports
      exact ⟨rfl, rfl, fun _ => rfl⟩
  | skipped reason => cases reports
  | failed reason message =>
      rw [Verification.mark] at reports
      split at reports
      all_goals
        rw [Mark.report, Option.some.injEq] at reports
        subst reports
        exact ⟨rfl, rfl, nofun⟩

theorem markJob_effect {written : MarketTables} {verification : Verification}
    (isMarket : Text.strip job.projectionName = "market_data")
    (spec : AttemptSpec tables job passes written verification) :
    CallEffect tables (markJob written job (verification.mark attempt) now)
      (Text.strip job.eventId) passes := by
  rw [markJob]
  split
  · next ledger recorded =>
      rw [recordMark.eq_def] at recorded
      split at recorded
      · next report reports =>
          rcases report_of_mark reports with ⟨sameName, sameEvent, onlyApplied⟩
          have name : Text.lower (Text.strip report.projectionName) = "market_data" := by
            rw [sameName, isMarket]
            decide +kernel
          have records := records_of_report recorded name
          rw [sameEvent] at records
          exact spec.effect.records records fun success => spec.backed (onlyApplied success)
      · rw [Except.ok.injEq] at recorded
        subst recorded
        exact spec.effect
  · exact spec.effect

theorem workOnJob_effect (leaves : JobLeavesErrors host tables job attempt) :
    CallEffect tables (workOnJob host tables job attempt) (Text.strip job.eventId)
      (jobPasses host tables job) := by
  rw [workOnJob]
  split
  · next isMarket => exact markJob_effect isMarket (verifyOrApply_spec isMarket leaves)
  · exact .refl _ _ _

/-! ## Every run -/

/-- No step comes back to an event that left an error row and nothing else. -/
def KeepsErrorsApart (host : Host) (history : MarketHistory) : MarketOp → Prop
  | .write write => LeavesErrors history.tables write
  | .batch writes _ =>
      (marketWrites host false).Along (fun history write => LeavesErrors history.tables write)
        history writes
  | .work job attempt => JobLeavesErrors host history.tables job attempt

/-- No event gets a success from its error row alone, in a step or on the way through a batch. -/
def NoSuccessFromError (host : Host) (history : MarketHistory) : MarketOp → Prop
  | .write write => NotFromErrorAlone history.tables (write.next host true history).tables
  | .batch writes _ =>
      (marketWrites host false).Along
        (fun history write =>
          NotFromErrorAlone history.tables (write.next host false history).tables) history writes
  | .work job attempt =>
      NotFromErrorAlone history.tables (workOnJob host history.tables job attempt)

theorem marketNext_keeps {op : MarketOp} (law : SuccessIsBacked history)
    (apart : KeepsErrorsApart host history op) :
    SuccessIsBacked (marketNext host history op) ∧ NoSuccessFromError host history op := by
  cases op with
  | write write => exact write_keeps law apart
  | batch writes commits =>
      have keeps : ∀ history write, SuccessIsBacked history → LeavesErrors history.tables write →
          SuccessIsBacked ((marketWrites host false).next history write) :=
        fun history write law leaves => (write_keeps law leaves).1
      constructor
      · rw [marketNext]
        split
        · exact System.Along.invariant SuccessIsBacked keeps law apart
        · exact law
      · exact System.Along.imp SuccessIsBacked keeps
          (fun history write law leaves => (write_keeps law leaves).2) law apart
  | work job attempt =>
      have effect := workOnJob_effect apart
      exact ⟨law.passOver effect, effect.notFromErrorAlone⟩

/-- In a run whose steps do not come back to an event that left an error row and nothing else,
every success has rows behind it, or was passed over; and none comes from an error row alone. -/
theorem success_backed_throughout {ops : List MarketOp}
    (law : SuccessIsBacked history)
    (apart : (marketSystem host).Along (KeepsErrorsApart host) history ops) :
    (marketSystem host).Throughout SuccessIsBacked history ops ∧
      (marketSystem host).Along (NoSuccessFromError host) history ops := by
  constructor
  · rw [System.throughout_iff]
    refine ⟨law, System.Along.imp SuccessIsBacked ?_ ?_ law apart⟩
    · exact fun history op law apart => (marketNext_keeps law apart).1
    · exact fun history op law apart => (marketNext_keeps law apart).1
  · refine System.Along.imp SuccessIsBacked ?_ ?_ law apart
    · exact fun history op law apart => (marketNext_keeps law apart).1
    · exact fun history op law apart => (marketNext_keeps law apart).2

/-! ## A tick that is refused twice -/

/-- A host for runs whose numbers are all whole. -/
def wholeNumberHost : Host where
  floatRepr := id
  float := fun _ => none
  floatOfInt := fun value => some (.finite value)
  reprText := id
  database := none

/-- A price tick at the price of one won. -/
def oneWonTick : GatewayEvent where
  eventId := "tick-1"
  eventType := "price_tick"
  source := "kiwoom"
  ts := 0
  payload := [("code", .str "005930"), ("name", .str "Samsung"), ("price", .int 1),
    ("change_rate", .int 0), ("volume", .int 10), ("trade_value", .int 10),
    ("execution_strength", .int 100), ("best_bid", .int 1), ("best_ask", .int 1),
    ("spread_ticks", .int 0), ("day_high", .int 1), ("day_low", .int 1),
    ("trade_time", .str "2026-01-05T01:00:00Z")]
  commandId := none
  idempotencyKey := none
  eventId_stripped := stripped_firstTick
  eventType_stripped := stripped_priceTick
  source_stripped := stripped_kiwoom
  commandId_stripped := strippedOption_none
  idempotencyKey_stripped := strippedOption_none

def emptyHistory : MarketHistory where
  tables :=
    { samples := .empty
      latest := .empty
      signals := .empty
      snapshots := []
      errors := []
      gatewayEvents := .empty
      ledger := { events := .empty, results := .empty, watermarks := .empty } }
  passedOver := []

def noReadings : ProjectionReadings where
  now := 0
  derivedRows _ := .ok 0

/-- The tick is stored and projected, and projected again. -/
def projectedTwice : List MarketOp :=
  [.write (.store { event := oneWonTick, accepted := true }
    { eventId := "tick-1", eventRowid := 1, eventType := "price_tick",
      receivedAt := "2026-01-05T01:00:00Z" }),
    .write (.project true oneWonTick noReadings none),
    .write (.project true oneWonTick noReadings none)]

/-- What a history has of the tick: its result, its error row, its rows, and whether it was
passed over. -/
def tickRecord (history : MarketHistory) :
    Option (ProjectionResultStatus × String) × Bool × Bool × Bool :=
  ((marketResult history.tables "tick-1").map fun row => (row.status, row.outcome),
    hasProjectionError history.tables "tick-1",
    (history.tables.samples.find? "tick-1").isSome ||
      (history.tables.signals.find? "tick-1").isSome ||
      history.tables.snapshots.any (fun row => row.eventId = "tick-1"),
    history.passedOver.contains "tick-1")

theorem tickRecord_projectedTwice :
    tickRecord ((marketSystem wholeNumberHost).run emptyHistory projectedTwice) =
      (some (.success, "DUPLICATE"), true, false, false) := by
  decide +kernel

theorem successIsBacked_emptyHistory : SuccessIsBacked emptyHistory := by
  rintro eventId ⟨row, found, _⟩
  cases found

/-- The second call finds the error row of the first, and records a success for it. -/
theorem duplicate_of_error_is_success :
    SuccessIsBacked emptyHistory ∧
      ¬ SuccessIsBacked ((marketSystem wholeNumberHost).run emptyHistory projectedTwice) := by
  refine ⟨successIsBacked_emptyHistory, ?_⟩
  have record := tickRecord_projectedTwice
  generalize (marketSystem wholeNumberHost).run emptyHistory projectedTwice = history at record
  rw [tickRecord, Prod.mk.injEq, Prod.mk.injEq, Prod.mk.injEq, Option.map_eq_some_iff] at record
  rcases record with ⟨⟨row, found, same⟩, _, noRows, notPassed⟩
  intro law
  rcases law "tick-1" ⟨row, found, (Prod.mk.inj same).1⟩ with rows | passed
  · rw [Bool.or_eq_false_iff, Bool.or_eq_false_iff] at noRows
    rcases rows with sample | signal | snapshot
    · rw [noRows.1.1] at sample
      cases sample
    · rw [noRows.1.2] at signal
      cases signal
    · rw [noRows.2] at snapshot
      cases snapshot
  · have listed := List.contains_iff_mem.mpr passed
    rw [notPassed] at listed
    cases listed

theorem success_backed_in_first_call :
    (marketSystem wholeNumberHost).Throughout SuccessIsBacked emptyHistory
        (projectedTwice.take 2) ∧
      (marketSystem wholeNumberHost).Along (NoSuccessFromError wholeNumberHost) emptyHistory
        (projectedTwice.take 2) := by
  apply success_backed_throughout successIsBacked_emptyHistory
  refine ⟨trivial, ?_, trivial⟩
  intro _ _ alone
  have noError : hasProjectionError ((marketSystem wholeNumberHost).next emptyHistory
      (.write (.store { event := oneWonTick, accepted := true }
        { eventId := "tick-1", eventRowid := 1, eventType := "price_tick",
          receivedAt := "2026-01-05T01:00:00Z" }))).tables "tick-1" = false := by
    decide +kernel
  exact absurd alone.1 (Bool.eq_false_iff.mp noError)

end SuseokTrader
