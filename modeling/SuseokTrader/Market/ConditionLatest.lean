import SuseokTrader.Market.RebuildRuns

/-!
# The latest condition signals

A condition event writes its signal and replaces the latest row of its
condition and stock, whatever that row holds. A late signal so takes the place
of a newer one. The latest rows are the newest exactly along the runs in which
no signal is older than one that was processed before it.
-/

namespace SuseokTrader

/-! ## The latest row -/

structure ConditionLatest where
  conditionId : String
  code : String
  conditionName : String
  name : String
  action : ConditionEventAction
  price : Option Int
  eventTs : String
  receivedAt : String
  source : String
  eventId : String
  metadataJson : String

instance : Keyed ConditionLatest (String × String) := ⟨fun row => (row.conditionId, row.code)⟩

structure ConditionTables where
  market : MarketTables
  latest : Table ConditionLatest

/-- The signal of a condition event. -/
def conditionSignal (condition : BrokerConditionEvent) (event : ProjectedEvent)
    (times : String × String) : ConditionSignal where
  eventId := event.eventId
  conditionId := condition.conditionId
  conditionName := condition.conditionName
  code := condition.code
  name := condition.name
  action := condition.action
  price := condition.price
  eventTs := times.1
  receivedAt := times.2
  source := event.source
  metadataJson := canonicalJson condition.metadata

def ConditionSignal.latestRow (signal : ConditionSignal) : ConditionLatest where
  conditionId := signal.conditionId
  code := signal.code
  conditionName := signal.conditionName
  name := signal.name
  action := signal.action
  price := signal.price
  eventTs := signal.eventTs
  receivedAt := signal.receivedAt
  source := signal.source
  eventId := signal.eventId
  metadataJson := signal.metadataJson

variable (host : Host)

variable (state : ConditionTables)

/-- Both inserts of a condition event. -/
def processConditionEventRows (event : ProjectedEvent)
    (readings : ProjectionReadings) : Checked (ConditionTables × Nat) := do
  let condition ← BrokerConditionEvent.fromDict host event.payload
  let signal := conditionSignal condition event
    (eventStoreTimes host state.market event readings.now)
  match state.market.signals.insert? signal with
  | some signals =>
      return ({ market := { state.market with signals := signals }
                latest := state.latest.upsert signal.latestRow }, 2)
  | none => .error (.crash "UNIQUE constraint failed: market_condition_signals.event_id")

def applyEventRows (event : GatewayEvent)
    (readings : ProjectionReadings) : Checked (ConditionTables × Nat) :=
  if normalizeEventType event.eventType = "condition_event" then
    processConditionEventRows host state event.projected readings
  else do
    let (market, count) ← applyEvent host state.market event readings
    return ({ state with market := market }, count)

/-- The transaction of a call. -/
def projectEventRows (event : GatewayEvent)
    (readings : ProjectionReadings) : Checked (ConditionTables × Nat) := do
  let (written, count) ← applyEventRows host state event readings
  match projectionErrorMessage written.market event.eventId with
  | none => do
      let market ← withMarketDataWatermark written.market event.eventId
        (if count = 0 then "IGNORED" else "APPLIED") readings.now
      return ({ written with market := market }, count)
  | some message => do
      let market ← recordMarketDataResult written.market
        (marketDataReport event.eventId .error "INLINE_PROJECTION_ERROR" (some message))
        readings.now
      return ({ written with market := market }, count)

def isPassedBy (enabled : Bool) (market : MarketTables) (event : GatewayEvent)
    (fault : Option DatabaseFault) : Bool :=
  let eventType := normalizeEventType event.eventType
  !enabled || eventType ∉ marketDataEventTypes ||
    projectionExists market eventType event.eventId || fault.isSome

/-- The latest rows after a call: those of its transaction, unless it was taken back. -/
def latestAfterCall (enabled : Bool) (state : ConditionTables) (event : GatewayEvent)
    (readings : ProjectionReadings) (fault : Option DatabaseFault) : Table ConditionLatest :=
  if isPassedBy enabled state.market event fault then state.latest
  else
    match projectEventRows host state event readings with
    | .ok (written, _) => written.latest
    | .error _ => state.latest

def processGatewayEventRows (enabled : Bool) (state : ConditionTables)
    (event : GatewayEvent) (commit : Bool) (call : MarketCall) :
    ConditionTables × Checked MarketDataProcessResult :=
  let (market, result) :=
    processGatewayEvent host enabled state.market event commit call.readings call.fault
  ({ market := market
     latest := latestAfterCall host enabled state event call.readings call.fault }, result)

/-! ## Signals are written by condition events alone -/

section Signals

variable {host : Host} {tables after : MarketTables} {readings : ProjectionReadings} {count : Nat}

theorem processPriceTick_signals {event : ProjectedEvent}
    (success : processPriceTick host tables event readings = .ok (after, count)) :
    after.signals = tables.signals := by
  rw [processPriceTick] at success
  split at success
  · rw [Except.ok.injEq, Prod.mk.injEq] at success
    rw [← success.1]
  · rcases Checked.bind_eq_ok.mp success with ⟨tick, _, success⟩
    rcases Checked.bind_eq_ok.mp success with ⟨exchange, _, success⟩
    dsimp only at success
    split at success
    · simp only [pure, Except.pure, Except.ok.injEq, Prod.mk.injEq] at success
      rw [← success.1]
      rfl
    · simp only [writePriceTick] at success
      split at success
      · cases success
      · split at success
        · rw [Except.ok.injEq, Prod.mk.injEq] at success
          rw [← success.1]
        · rcases Checked.bind_eq_ok.mp success with ⟨derived, _, success⟩
          simp only [pure, Except.pure, Except.ok.injEq, Prod.mk.injEq] at success
          rw [← success.1]

theorem foldlM_syntheticTicks_signals {parent : GatewayEvent} {response : BrokerTrResponse}
    {eventTs : String} (ticks : List (Nat × Payload)) {projected ended : MarketTables × Nat}
    (success : ticks.foldlM (processSyntheticTick host parent response eventTs readings) projected =
      .ok ended) : ended.1.signals = projected.1.signals := by
  induction ticks generalizing projected with
  | nil =>
      simp only [List.foldlM_nil, pure, Except.pure, Except.ok.injEq] at success
      rw [success]
  | cons tick ticks ih =>
      rcases Checked.bind_eq_ok.mp success with ⟨middle, first, rest⟩
      rw [ih rest]
      rcases Checked.bind_eq_ok.mp first with ⟨brokerTick, _, first⟩
      rcases Checked.bind_eq_ok.mp first with ⟨exchange, _, first⟩
      dsimp only at first
      split at first
      · simp only [pure, Except.pure, Except.ok.injEq] at first
        rw [first]
      · rcases Checked.bind_eq_ok.mp first with ⟨ts, _, first⟩
        rcases Checked.bind_eq_ok.mp first with ⟨⟨written, number⟩, processed, first⟩
        simp only [pure, Except.pure, Except.ok.injEq] at first
        rw [← first]
        exact processPriceTick_signals processed

theorem applyEvent_signals {event : GatewayEvent}
    (other : normalizeEventType event.eventType ≠ "condition_event")
    (success : applyEvent host tables event readings = .ok (after, count)) :
    after.signals = tables.signals := by
  rw [applyEvent] at success
  split at success
  · exact processPriceTick_signals success
  · rcases Checked.bind_eq_ok.mp success with ⟨response, _, success⟩
    rcases Checked.bind_eq_ok.mp success with ⟨ticks, _, folded⟩
    exact foldlM_syntheticTicks_signals ticks folded

end Signals

/-! ## What a call does to the signals and the latest rows -/

section Calls

variable {host : Host} {state : ConditionTables} {event : GatewayEvent}
  {readings : ProjectionReadings}

theorem processConditionEventRows_market (event : ProjectedEvent) :
    (processConditionEventRows host state event readings).map
        (fun written => (written.1.market, written.2)) =
      processConditionEvent host state.market event readings := by
  rw [processConditionEventRows, processConditionEvent]
  cases BrokerConditionEvent.fromDict host event.payload with
  | error failure => rfl
  | ok condition =>
      simp only [bind, Except.bind, conditionSignal]
      split
      · next signals inserted => simp [inserted, Except.map, pure, Except.pure]
      · next taken => simp [taken, Except.map]

theorem applyEventRows_market :
    (applyEventRows host state event readings).map
        (fun written => (written.1.market, written.2)) =
      applyEvent host state.market event readings := by
  rw [applyEventRows]
  by_cases isCondition : normalizeEventType event.eventType = "condition_event"
  · rw [if_pos isCondition, processConditionEventRows_market, applyEvent, if_pos isCondition,
      if_neg]
    rw [isCondition]
    decide
  · rw [if_neg isCondition]
    cases applyEvent host state.market event readings with
    | error failure => rfl
    | ok written => rfl

theorem projectEventRows_market :
    (projectEventRows host state event readings).map
        (fun written => (written.1.market, written.2)) =
      projectEvent host state.market event readings := by
  rw [projectEventRows, projectEvent, ← applyEventRows_market]
  cases applyEventRows host state event readings with
  | error failure => rfl
  | ok written =>
      simp only [bind, Except.bind, Except.map]
      cases projectionErrorMessage written.1.market event.eventId with
      | none =>
          cases withMarketDataWatermark written.1.market event.eventId
            (if written.2 = 0 then "IGNORED" else "APPLIED") readings.now with
          | error failure => rfl
          | ok market => rfl
      | some message =>
          dsimp only
          cases recordMarketDataResult written.1.market
            (marketDataReport event.eventId .error "INLINE_PROJECTION_ERROR" (some message))
            readings.now with
          | error failure => rfl
          | ok market => rfl

theorem projectEventRows_eq_ok {written : ConditionTables} {count : Nat}
    (success : projectEventRows host state event readings = .ok (written, count)) :
    ∃ applied, applyEventRows host state event readings = .ok (applied, count) ∧
      written.market.signals = applied.market.signals ∧ written.latest = applied.latest := by
  rcases Checked.bind_eq_ok.mp success with ⟨⟨applied, number⟩, isApplied, success⟩
  dsimp only at success
  split at success
  · rcases Checked.bind_eq_ok.mp success with ⟨market, recorded, success⟩
    rcases success with ⟨rfl, rfl⟩
    have records := withMarketDataWatermark_spec event.eventId_stripped recorded
    refine ⟨applied, isApplied, ?_, rfl⟩
    rw [records.same]
  · rcases Checked.bind_eq_ok.mp success with ⟨market, recorded, success⟩
    rcases success with ⟨rfl, rfl⟩
    have records := recordMarketDataResult_spec event.eventId_stripped recorded
    refine ⟨applied, isApplied, ?_, rfl⟩
    rw [records.same]

/-- The signal that a call writes: that of a condition event, in a transaction that goes through. -/
def writtenSignal (host : Host) (enabled : Bool) (market : MarketTables) (event : GatewayEvent)
    (call : MarketCall) : Option ConditionSignal :=
  if isPassedBy enabled market event call.fault ||
      normalizeEventType event.eventType ≠ "condition_event" then none
  else
    match projectEvent host market event call.readings,
        BrokerConditionEvent.fromDict host event.payload with
    | .ok _, .ok condition => some (conditionSignal condition event.projected
        (eventStoreTimes host market event.projected call.readings.now))
    | _, _ => none

/-- What a call does to the signals and the latest rows. -/
inductive SignalEffect (before after : ConditionTables) : Option ConditionSignal → Prop where
  | kept (signals : after.market.signals = before.market.signals)
      (latest : after.latest = before.latest) : SignalEffect before after none
  | written (signal : ConditionSignal)
      (inserted : before.market.signals.insert? signal = some after.market.signals)
      (latest : after.latest = before.latest.upsert signal.latestRow) :
      SignalEffect before after (some signal)

/-- A transaction that goes through writes the signal of a condition event and nothing of the kind
for another. -/
theorem projectEventRows_effect {written : ConditionTables} {count : Nat}
    (success : projectEventRows host state event readings = .ok (written, count)) :
    (normalizeEventType event.eventType ≠ "condition_event" ∧
      written.market.signals = state.market.signals ∧ written.latest = state.latest) ∨
    (normalizeEventType event.eventType = "condition_event" ∧
      ∃ condition, BrokerConditionEvent.fromDict host event.payload = .ok condition ∧
        let signal := conditionSignal condition event.projected
          (eventStoreTimes host state.market event.projected readings.now)
        state.market.signals.insert? signal = some written.market.signals ∧
          written.latest = state.latest.upsert signal.latestRow) := by
  rcases projectEventRows_eq_ok success with ⟨applied, isApplied, sameSignals, sameLatest⟩
  rw [sameSignals, sameLatest]
  rw [applyEventRows] at isApplied
  split at isApplied
  · next isCondition =>
      right
      refine ⟨isCondition, ?_⟩
      rcases Checked.bind_eq_ok.mp isApplied with ⟨condition, read, isApplied⟩
      refine ⟨condition, read, ?_⟩
      dsimp only at isApplied ⊢
      split at isApplied
      · next signals inserted =>
          rcases isApplied with ⟨rfl, _⟩
          exact ⟨inserted, rfl⟩
      · cases isApplied
  · next notCondition =>
      left
      rcases Checked.bind_eq_ok.mp isApplied with ⟨⟨market, number⟩, applies, isApplied⟩
      rcases isApplied with ⟨rfl, _⟩
      exact ⟨notCondition, applyEvent_signals notCondition applies, rfl⟩

theorem recordProjectionFailure_signals {market after : MarketTables} {message : String}
    {now : Instant} (recorded : recordProjectionFailure host market event message now = .ok after) :
    after.signals = market.signals := by
  have records := recordMarketDataResult_spec event.eventId_stripped recorded
  rw [records.same]
  rfl

theorem failedCall_signals (market : MarketTables) (commit : Bool) (failure : Failure) :
    (failedCall host market event commit readings failure).1.signals = market.signals := by
  rw [failedCall]
  split
  · split
    · next recorded => exact recordProjectionFailure_signals recorded
    · rfl
  · rfl

theorem processGatewayEvent_signals {enabled : Bool} {market : MarketTables} {call : MarketCall}
    (passed : isPassedBy enabled market event call.fault = true) (commit : Bool) :
    (processGatewayEvent host enabled market event commit call.readings call.fault).1.signals =
      market.signals := by
  rw [processGatewayEvent.eq_def]
  dsimp only
  split
  · rfl
  · next isEnabled =>
      split
      · rfl
      · next isType =>
          split
          · split
            · rfl
            · split
              · next written recorded =>
                  have records := withMarketDataWatermark_spec event.eventId_stripped recorded
                  rw [records.same]
              · rfl
          · next isNew =>
              have faulty : call.fault.isSome = true := by
                simpa [isPassedBy, isEnabled, isType, isNew] using passed
              rw [projectInTransaction.eq_def]
              cases isFault : call.fault with
              | none => simp [isFault] at faulty
              | some databaseFault =>
                  cases databaseFault with
                  | locked => rfl
                  | failed message => exact failedCall_signals market commit (.crash message)

theorem processGatewayEvent_inTransaction {enabled : Bool} {market : MarketTables}
    {call : MarketCall} (comes : isPassedBy enabled market event call.fault = false)
    (commit : Bool) :
    processGatewayEvent host enabled market event commit call.readings call.fault =
      projectInTransaction host market event commit call.readings none := by
  simp only [isPassedBy, Bool.or_eq_false_iff, decide_eq_false_iff_not, Option.isSome_eq_false_iff,
    Option.isNone_iff_eq_none] at comes
  rcases comes with ⟨⟨⟨isEnabled, isType⟩, isNew⟩, noFault⟩
  rw [processGatewayEvent.eq_def]
  simp [isEnabled, isType, isNew, noFault]

theorem processGatewayEventRows_effect (enabled commit : Bool) (call : MarketCall) :
    SignalEffect state (processGatewayEventRows host enabled state event commit call).1
      (writtenSignal host enabled state.market event call) := by
  rw [processGatewayEventRows]
  dsimp only
  rw [latestAfterCall, writtenSignal]
  cases passed : isPassedBy enabled state.market event call.fault with
  | true => exact .kept (processGatewayEvent_signals passed commit) rfl
  | false =>
      rw [processGatewayEvent_inTransaction passed commit, projectInTransaction,
        ← projectEventRows_market]
      simp only [Bool.false_or, Bool.false_eq_true, if_false]
      cases success : projectEventRows host state event call.readings with
      | error failure =>
          simp only [Except.map, ite_self]
          exact .kept (failedCall_signals state.market commit failure) rfl
      | ok result =>
          rcases result with ⟨written, count⟩
          simp only [Except.map, apply_ite Prod.fst, ite_self]
          rcases projectEventRows_effect success with ⟨other, signals, latest⟩ |
            ⟨isCondition, condition, read, inserted, latest⟩
          · simp only [other, ne_eq]
            exact .kept signals latest
          · simp only [isCondition, ne_eq, read]
            exact .written _ inserted latest

end Calls

/-! ## Runs -/

/-- A call of the projection for any event, or what others do to the event store and the event
results in between. -/
inductive ConditionOp where
  | call (event : GatewayEvent) (enabled commit : Bool) (call : MarketCall)
  | others (gatewayEvents : Table StoredEvent) (ledger : ResultLedger)

def conditionNext : ConditionOp → ConditionTables
  | .call event enabled commit call =>
      (processGatewayEventRows host enabled state event commit call).1
  | .others gatewayEvents ledger =>
      { state with
        market := { state.market with gatewayEvents := gatewayEvents, ledger := ledger } }

def conditionSystem : System ConditionTables ConditionOp Unit :=
  .ofStep (conditionNext host)

def emptyConditionTables : ConditionTables where
  market := emptyMarketTables
  latest := .empty

def signalsOf (market : MarketTables) (key : String × String) : List ConditionSignal :=
  market.signals.rows.filter fun signal => (signal.conditionId, signal.code) = key

/-- No other processed signal of the same condition and stock is newer. The times are compared as
those of two ticks are. -/
def IsNewest (market : MarketTables) (signal : ConditionSignal) : Prop :=
  ∀ other ∈ signalsOf market (signal.conditionId, signal.code),
    timestampIsBefore signal.eventTs other.eventTs = false

instance (market : MarketTables) (signal : ConditionSignal) : Decidable (IsNewest market signal) :=
  inferInstanceAs (Decidable (∀ other ∈ _, _))

def TellsNewest (market : MarketTables) (row : ConditionLatest) : Prop :=
  ∃ signal ∈ signalsOf market (row.conditionId, row.code), row.action = signal.action ∧
    row.price = signal.price ∧ row.eventId = signal.eventId ∧ IsNewest market signal

/-- Each condition and stock with a processed signal has a latest row, and each latest row tells of
the newest signal. -/
structure LatestIsNewest (state : ConditionTables) : Prop where
  present : ∀ signal ∈ state.market.signals.rows,
    (state.latest.find? (signal.conditionId, signal.code)).isSome
  newest : ∀ key row, state.latest.find? key = some row → TellsNewest state.market row

/-- The signal of a call is not older than one of its condition and stock that was processed. -/
def SignalInOrder : ConditionOp → Prop
  | .call event enabled _ call =>
      ∀ signal ∈ writtenSignal host enabled state.market event call,
        IsNewest state.market signal
  | .others _ _ => True

theorem parseTimestamp_eq_ok {text fieldName : String} {instant : Instant} :
    parseTimestamp (.str text) fieldName = .ok instant ↔
      Text.strip text ≠ "" ∧ Time.fromIsoformat (Text.strip text) = some instant := by
  simp only [parseTimestamp]
  by_cases blank : Text.strip text = ""
  · simp [blank, Checked.invalid]
  · cases Time.fromIsoformat (Text.strip text) with
    | none => simp [blank, Checked.invalid]
    | some found => simp [blank]

theorem timestampIsBefore_self (timestamp : String) :
    timestampIsBefore timestamp timestamp = false := by
  rw [timestampIsBefore]
  split
  · next left right isLeft isRight =>
      rw [parseTimestamp_eq_ok] at isLeft isRight
      have same : left = right := Option.some.inj (isLeft.2.symm.trans isRight.2)
      simp [same]
  · simp

theorem mem_signalsOf {market : MarketTables} {key : String × String} {signal : ConditionSignal} :
    signal ∈ signalsOf market key ↔
      signal ∈ market.signals.rows ∧ (signal.conditionId, signal.code) = key := by
  simp [signalsOf]

section Steps

variable {before after : ConditionTables}

theorem TellsNewest.congr {market other : MarketTables} (same : other.signals = market.signals)
    {row : ConditionLatest} (tells : TellsNewest market row) : TellsNewest other row := by
  rw [TellsNewest, signalsOf, same]
  rcases tells with ⟨signal, isSignal, action, price, eventId, newest⟩
  refine ⟨signal, isSignal, action, price, eventId, ?_⟩
  rw [IsNewest, signalsOf, same]
  exact newest

theorem LatestIsNewest.congr (holds : LatestIsNewest before)
    (signals : after.market.signals = before.market.signals)
    (latest : after.latest = before.latest) : LatestIsNewest after where
  present := by
    rw [signals, latest]
    exact holds.present
  newest key row found := by
    rw [latest] at found
    exact (holds.newest key row found).congr signals

/-- A signal in order takes the place of an older one. -/
theorem LatestIsNewest.written (holds : LatestIsNewest before) {signal : ConditionSignal}
    (inserted : before.market.signals.insert? signal = some after.market.signals)
    (latest : after.latest = before.latest.upsert signal.latestRow)
    (inOrder : IsNewest before.market signal) : LatestIsNewest after := by
  have rows := Table.rows_of_insert? inserted
  have own : after.latest.find? (signal.conditionId, signal.code) = some signal.latestRow := by
    rw [latest]
    exact Table.find?_upsert_self before.latest signal.latestRow
  have others : ∀ key, key ≠ (signal.conditionId, signal.code) →
      after.latest.find? key = before.latest.find? key := by
    intro key different
    rw [latest]
    exact Table.find?_upsert_of_ne before.latest different.symm
  refine ⟨?_, ?_⟩
  · intro other isOther
    by_cases sameKey : (other.conditionId, other.code) = (signal.conditionId, signal.code)
    · rw [sameKey, own]
      rfl
    · rw [others _ sameKey]
      rw [rows, List.mem_append, List.mem_singleton] at isOther
      rcases isOther with isOther | rfl
      · exact holds.present other isOther
      · exact absurd rfl sameKey
  · intro key row found
    by_cases sameKey : key = (signal.conditionId, signal.code)
    · rw [sameKey, own, Option.some.injEq] at found
      subst found
      refine ⟨signal, ?_, rfl, rfl, rfl, ?_⟩
      · rw [mem_signalsOf, rows]
        exact ⟨by simp, rfl⟩
      · intro other isOther
        rw [mem_signalsOf, rows, List.mem_append, List.mem_singleton] at isOther
        rcases isOther with ⟨isOther | rfl, isKey⟩
        · exact inOrder other (mem_signalsOf.mpr ⟨isOther, isKey⟩)
        · exact timestampIsBefore_self _
    · rw [others key sameKey] at found
      have isKey : (row.conditionId, row.code) = key := Table.key_of_find? found
      rcases holds.newest key row found with ⟨told, isTold, action, price, eventId, newest⟩
      rw [mem_signalsOf] at isTold
      refine ⟨told, ?_, action, price, eventId, ?_⟩
      · rw [mem_signalsOf, rows]
        exact ⟨List.mem_append_left _ isTold.1, isTold.2⟩
      · intro other isOther
        rw [mem_signalsOf, rows, List.mem_append, List.mem_singleton] at isOther
        rcases isOther with ⟨isOther | rfl, otherKey⟩
        · exact newest other (mem_signalsOf.mpr ⟨isOther, otherKey⟩)
        · exact absurd (isKey.symm.trans (isTold.2.symm.trans otherKey.symm)) sameKey

theorem LatestIsNewest.inOrder (holds : LatestIsNewest after) {signal : ConditionSignal}
    (inserted : before.market.signals.insert? signal = some after.market.signals)
    (latest : after.latest = before.latest.upsert signal.latestRow) :
    IsNewest before.market signal := by
  have rows := Table.rows_of_insert? inserted
  have own : after.latest.find? (signal.conditionId, signal.code) = some signal.latestRow := by
    rw [latest]
    exact Table.find?_upsert_self before.latest signal.latestRow
  rcases holds.newest _ _ own with ⟨told, isTold, _, _, eventId, newest⟩
  rw [mem_signalsOf] at isTold
  have isSignal : signal ∈ after.market.signals.rows := by simp [rows]
  have same : told = signal :=
    List.inj_on_of_nodup_map after.market.signals.nodup isTold.1 isSignal eventId.symm
  rw [same] at newest
  intro other isOther
  rw [mem_signalsOf] at isOther
  apply newest other
  rw [mem_signalsOf, rows]
  exact ⟨List.mem_append_left _ isOther.1, isOther.2⟩

end Steps

theorem latestIsNewest_empty : LatestIsNewest emptyConditionTables where
  present _ isSignal := absurd isSignal List.not_mem_nil
  newest _ _ found := by cases found

theorem condition_latest_is_newest_iff (ops : List ConditionOp) :
    (conditionSystem host).Throughout LatestIsNewest emptyConditionTables ops ↔
      (conditionSystem host).Along (SignalInOrder host) emptyConditionTables ops := by
  apply System.throughout_iff_along LatestIsNewest
  · exact fun _ holds => holds
  · intro state op holds inOrder
    cases op with
    | others gatewayEvents ledger => exact holds.congr rfl rfl
    | call event enabled commit call =>
        have effect := @processGatewayEventRows_effect host state event enabled commit call
        rw [SignalInOrder] at inOrder
        generalize writtenSignal host enabled state.market event call = signal at effect inOrder
        cases effect with
        | kept signals latest => exact holds.congr signals latest
        | written signal inserted latest => exact holds.written inserted latest (inOrder signal rfl)
  · intro state op _ after
    cases op with
    | others gatewayEvents ledger => trivial
    | call event enabled commit call =>
        have effect := @processGatewayEventRows_effect host state event enabled commit call
        rw [SignalInOrder]
        generalize writtenSignal host enabled state.market event call = signal at effect ⊢
        intro written isWritten
        cases effect with
        | kept signals latest => cases isWritten
        | written signal inserted latest =>
            cases isWritten
            exact LatestIsNewest.inOrder after inserted latest
  · exact latestIsNewest_empty

/-! ## A late entry -/

theorem stripped_conditionEvent : Stripped "condition_event" := by decide

def conditionEventAt (eventId : String) (stripped : Stripped eventId) (action : String)
    (seconds : Nat) : GatewayEvent where
  eventId := eventId
  eventType := "condition_event"
  source := "kiwoom"
  ts := seconds * Time.microsPerSecond
  payload := [("condition_id", .str "001"), ("condition_name", .str "volume"),
    ("code", .str "005930"), ("name", .str "Samsung"), ("action", .str action)]
  commandId := none
  idempotencyKey := none
  eventId_stripped := stripped
  eventType_stripped := stripped_conditionEvent
  source_stripped := stripped_kiwoom
  commandId_stripped := strippedOption_none
  idempotencyKey_stripped := strippedOption_none

/-- The stock enters and leaves the condition, and the two events are processed the other way
round. -/
def lateEntry : List ConditionOp :=
  [.call (conditionEventAt "evt-exit" (by decide) "EXIT" 2) true true plainCall,
    .call (conditionEventAt "evt-enter" (by decide) "ENTER" 1) true true plainCall]

theorem late_entry_is_latest :
    let ended := (conditionSystem wholeNumberHost).run emptyConditionTables lateEntry
    (ended.latest.find? ("001", "005930")).map ConditionLatest.eventId = some "evt-enter" ∧
      (ended.market.signals.rows.filter fun signal =>
        IsNewest ended.market signal).map ConditionSignal.eventId = ["evt-exit"] := by
  decide +kernel

theorem late_entry_overwrites_exit :
    ¬ (conditionSystem wholeNumberHost).Throughout LatestIsNewest emptyConditionTables
      lateEntry := by
  intro throughout
  have holds := throughout lateEntry [] (List.append_nil _).symm
  rcases late_entry_is_latest with ⟨isLatest, isNewest⟩
  generalize (conditionSystem wholeNumberHost).run emptyConditionTables lateEntry = ended
    at holds isLatest isNewest
  rcases Option.map_eq_some_iff.mp isLatest with ⟨row, found, isEvent⟩
  rcases holds.newest _ row found with ⟨signal, isSignal, _, _, sameEvent, newest⟩
  have listed : signal.eventId ∈ (ended.market.signals.rows.filter fun signal =>
      IsNewest ended.market signal).map ConditionSignal.eventId := by
    apply List.mem_map_of_mem
    simp [(mem_signalsOf.mp isSignal).1, newest]
  rw [isNewest, ← sameEvent, isEvent] at listed
  exact absurd listed (by decide)

end SuseokTrader
