import SuseokTrader.Market.Projection
import SuseokTrader.Outbox.Workers

/-!
# Routing of the inline projection

Every accepted event is projected inline, unless its routing decision leaves it
to the outbox worker. Market data events and market scans have a decision each.
A decision reads the outbox, the decisions before it and the state of the
projections, in statements of their own, and is stored at the end.

Only the market scans reserve their place in the budget of the minute before
they decide; the market data events count the decisions that are stored.
-/

namespace SuseokTrader

/-! ## Settings -/

inductive TradingMode where
  | observe
  | liveSim
  | liveReal
deriving DecidableEq

inductive TradingProfile where
  | observe
  | liveSimPilot
deriving DecidableEq

structure RoutingSettings where
  tradingProfile : TradingProfile := .observe
  tradingMode : TradingMode := .observe
  tradingAllowLiveSim : Bool := false
  tradingAllowLiveReal : Bool := false
  projectionOutboxApplyProjectionEnabled : Bool
  projectionOutboxMarketDataApplyEnabled : Bool
  projectionOutboxMarketScanApplyEnabled : Bool
  conditionFusionEventIncrementalEnabled : Bool
  dryRunEnabled : Bool
  cutoverEnabled : Bool
  requireReconcilePass : Bool
  requireLatestReconcilePass : Bool
  requireWorkerApplyEnabled : Bool
  reconcileMaxAgeSec : Nat
  eventTypes : List String
  cutoverEventTypes : List String
  minOutboxStatus : String
  priceTickCutoverEnabled : Bool
  priceTickMaxSkipPerMinute : Nat
  trResponseDryRunEnabled : Bool
  trResponseCutoverEnabled : Bool
  trResponseMaxSkipPerMinute : Nat
  trResponseMaxRowsPerEvent : Nat
  trResponseRequireSyntheticChildGuard : Bool
  trResponseRequireWorkerSideEffects : Bool
  conditionEventDryRunEnabled : Bool
  conditionEventCutoverEnabled : Bool
  conditionEventMaxSkipPerMinute : Nat
  conditionEventMaxPayloadAgeSec : Nat
  conditionEventRequireFusionEnabled : Bool
  conditionEventRequireBacklogReady : Bool
  conditionEventRequireWorkerSideEffects : Bool
  conditionEventAllowCandidateIngestInWorker : Bool
  marketScanEnabled : Bool
  marketScanDryRunEnabled : Bool
  marketScanCutoverEnabled : Bool
  marketScanGlobalKillSwitch : Bool
  marketScanEffectiveSkipDisabledInPr20 : Bool
  marketScanMaxSkipPerMinute : Nat
  marketScanMaxPendingWithinSla : Nat
  marketScanMaxEventAgeSec : Nat
  marketScanMaxFutureSkewSec : Nat
  marketScanReconcileMaxAgeSec : Nat
  marketScanRequireReconcilePass : Bool
  marketScanRequirePriorEventReconcile : Bool
  marketScanRequireParserVerified : Bool
  marketScanRequireMarketDataDependency : Bool
  marketScanRequireWorkerClosure : Bool
  marketScanFailClosedOnWorkerError : Bool

variable (settings : RoutingSettings)

def RoutingSettings.workerApplyEnabled : Bool :=
  settings.projectionOutboxApplyProjectionEnabled &&
    settings.projectionOutboxMarketDataApplyEnabled

def RoutingSettings.maxSkipPerMinute (eventType : String) : Nat :=
  if eventType = "price_tick" then settings.priceTickMaxSkipPerMinute
  else if eventType = "tr_response" then settings.trResponseMaxSkipPerMinute
  else if eventType = "condition_event" then settings.conditionEventMaxSkipPerMinute
  else 0

/-! ## Guards -/

def firstReason (guards : List (Bool × String)) : Option String :=
  (guards.find? Prod.fst).map Prod.snd

def allReasons (guards : List (Bool × String)) : List String :=
  (guards.filter Prod.fst).map Prod.snd

theorem firstReason_eq_none {guards : List (Bool × String)} (allowed : firstReason guards = none)
    {guard : Bool × String} (isGuard : guard ∈ guards) : guard.1 = false := by
  simp only [firstReason, Option.map_eq_none_iff, List.find?_eq_none] at allowed
  simpa using allowed guard isGuard

theorem allReasons_eq_nil {guards : List (Bool × String)} (allowed : allReasons guards = [])
    {guard : Bool × String} (isGuard : guard ∈ guards) : guard.1 = false := by
  simp only [allReasons, List.map_eq_nil_iff, List.filter_eq_nil_iff] at allowed
  simpa using allowed guard isGuard

/-! ## The decision on a market data event -/

structure ReconcileRun where
  status : Option String
  appendOnlyReady : Bool
  ageMicros : Option Nat
  syntheticChildEventIssueCount : Int

/-- What a decision on a market data event reads besides the outbox and the stored decisions: its
argument, the payload, the latest reconcile and the controller. -/
structure MarketReadings where
  outboxStatus : Option String
  latestRun : Option ReconcileRun
  sourceEventStatus : Option String
  trResponseRowsCount : Nat
  conditionEventPayloadAge : Option Nat
  conditionEventBacklogReady : Bool
  priceTickIdentified : Bool
  controllerAllows : Bool

def olderThan (ageMicros : Option Nat) (maxAgeSec : Nat) : Bool :=
  ageMicros.any fun age => maxAgeSec * Time.microsPerSecond < age

def normalizeOutboxStatus (value : Option String) : Option String :=
  if value = none ∨ value = some "" then none
  else value.map fun text => Text.upper (Text.strip text)

def outboxIsReady (outboxStatus : Option String) (outboxJobPresent : Bool)
    (minOutboxStatus : String) : Bool :=
  if !outboxJobPresent then false
  else
    let normalized := normalizeOutboxStatus outboxStatus
    if normalized ∈ [some "ERROR", some "NOOP"] then false
    else
      let required := normalizeOutboxStatus (some minOutboxStatus)
      if required = some "ENQUEUED" then
        normalized ∈ [none, some "ENQUEUED", some "DUPLICATE", some "PENDING", some "PROCESSING",
          some "APPLIED", some "SKIPPED"]
      else normalized = required

def MarketReadings.knownOutboxStatus (readings : MarketReadings) (job : Option OutboxStatus) :
    Option String :=
  if readings.outboxStatus = none ∨ readings.outboxStatus = some "" then
    job.map OutboxStatus.value
  else readings.outboxStatus

section MarketGuards

variable (settings : RoutingSettings) (readings : MarketReadings) (job : Option OutboxStatus)

def outboxNotReady : Bool :=
  !outboxIsReady (normalizeOutboxStatus (readings.knownOutboxStatus job)) job.isSome
    settings.minOutboxStatus

def latestStatus : Option String :=
  readings.latestRun.bind ReconcileRun.status

def appendOnlyReady : Bool :=
  readings.latestRun.any ReconcileRun.appendOnlyReady

def reconcileStale : Bool :=
  olderThan (readings.latestRun.bind ReconcileRun.ageMicros) settings.reconcileMaxAgeSec

variable (eventType : String)

def dryRunEnabledFor : Bool :=
  settings.dryRunEnabled || (eventType = "tr_response" && settings.trResponseDryRunEnabled) ||
    (eventType = "condition_event" && settings.conditionEventDryRunEnabled)

def wouldSkipGuards : List (Bool × String) :=
  let required := settings.requireReconcilePass
  [(eventType ∉ marketDataEventTypes, "NOT_MARKET_DATA_EVENT"),
    (!dryRunEnabledFor settings eventType, "DRY_RUN_DISABLED"),
    (eventType ∉ settings.eventTypes, "EVENT_TYPE_NOT_ALLOWED_FOR_APPEND_ONLY"),
    (outboxNotReady settings readings job, "MARKET_DATA_OUTBOX_JOB_MISSING_OR_NOT_ENQUEUED"),
    (required && readings.latestRun.isNone, "MARKET_DATA_RECONCILE_MISSING"),
    (required && (latestStatus readings ≠ some "PASS" || !appendOnlyReady readings),
      "MARKET_DATA_RECONCILE_NOT_PASS"),
    (required && reconcileStale settings readings, "MARKET_DATA_RECONCILE_STALE")]

/-- The guards that every type of event has in this order. -/
def readinessGuards : List (Bool × String) :=
  let required := settings.requireLatestReconcilePass
  [(settings.requireWorkerApplyEnabled && !settings.workerApplyEnabled,
      "WORKER_APPLY_NOT_ENABLED"),
    (!settings.workerApplyEnabled, "WORKER_APPLY_NOT_ENABLED"),
    (required && readings.latestRun.isNone, "MARKET_DATA_RECONCILE_MISSING"),
    (required && latestStatus readings ≠ some "PASS", "MARKET_DATA_RECONCILE_NOT_PASS"),
    (required && !appendOnlyReady readings, "MARKET_DATA_RECONCILE_NOT_PASS"),
    (required && reconcileStale settings readings, "MARKET_DATA_RECONCILE_STALE"),
    (outboxNotReady settings readings job, "MARKET_DATA_OUTBOX_NOT_READY"),
    (readings.sourceEventStatus ≠ some "ACCEPTED", "SOURCE_GATEWAY_EVENT_NOT_ACCEPTED")]

def syntheticChildGuardStatus : String :=
  if !settings.trResponseRequireSyntheticChildGuard then "NOT_REQUIRED"
  else if latestStatus readings ≠ some "PASS" ∨ !appendOnlyReady readings then
    "RECONCILE_NOT_READY"
  else
    match readings.latestRun with
    | none => "UNKNOWN"
    | some run => if 0 < run.syntheticChildEventIssueCount then "ISSUES_FOUND" else "PASS"

def skipBudgetRemaining (limit used : Nat) : Nat :=
  if limit = 0 then 0 else limit - used

variable (skipBudgetUsed : Nat)

def trResponseGuards : List (Bool × String) :=
  let limit := settings.trResponseMaxSkipPerMinute
  [(!settings.dryRunEnabled, "DRY_RUN_DISABLED"),
    (!settings.cutoverEnabled || !settings.trResponseCutoverEnabled,
      "TR_RESPONSE_CUTOVER_DISABLED")] ++
  readinessGuards settings readings job ++
  ([(readings.trResponseRowsCount = 0, "TR_RESPONSE_ROWS_EMPTY"),
    (settings.trResponseMaxRowsPerEvent < readings.trResponseRowsCount,
      "TR_RESPONSE_TOO_MANY_ROWS"),
    (settings.trResponseRequireSyntheticChildGuard &&
      syntheticChildGuardStatus settings readings ≠ "PASS",
      "TR_RESPONSE_SYNTHETIC_CHILD_GUARD_NOT_READY"),
    (settings.trResponseRequireWorkerSideEffects && !settings.workerApplyEnabled,
      "TR_RESPONSE_WORKER_SIDE_EFFECT_NOT_READY"),
    (limit = 0 || skipBudgetRemaining limit skipBudgetUsed = 0,
      "TR_RESPONSE_SKIP_BUDGET_EXHAUSTED")] : List (Bool × String))

def conditionEventGuards : List (Bool × String) :=
  let limit := settings.conditionEventMaxSkipPerMinute
  let fusionEnabled := settings.conditionFusionEventIncrementalEnabled
  let fusionRequired := settings.conditionEventRequireFusionEnabled
  [(!settings.dryRunEnabled, "DRY_RUN_DISABLED"),
    (!settings.cutoverEnabled || !settings.conditionEventCutoverEnabled,
      "CONDITION_EVENT_CUTOVER_DISABLED")] ++
  readinessGuards settings readings job ++
  ([(readings.conditionEventPayloadAge.isNone, "CONDITION_EVENT_PAYLOAD_INVALID"),
    (olderThan readings.conditionEventPayloadAge settings.conditionEventMaxPayloadAgeSec,
      "CONDITION_EVENT_PAYLOAD_STALE"),
    (fusionRequired && !fusionEnabled, "CONDITION_EVENT_FUSION_DISABLED"),
    (settings.conditionEventRequireBacklogReady && !readings.conditionEventBacklogReady,
      "CONDITION_EVENT_BACKLOG_NOT_READY"),
    (settings.conditionEventAllowCandidateIngestInWorker,
      "CONDITION_EVENT_CANDIDATE_INGEST_IN_WORKER_FORBIDDEN"),
    (settings.conditionEventRequireWorkerSideEffects &&
      !(settings.workerApplyEnabled && (fusionEnabled || !fusionRequired)),
      "CONDITION_EVENT_WORKER_SIDE_EFFECT_NOT_READY"),
    (limit = 0 || skipBudgetRemaining limit skipBudgetUsed = 0,
      "CONDITION_EVENT_SKIP_BUDGET_EXHAUSTED")] : List (Bool × String))

def priceTickGuards : List (Bool × String) :=
  let limit := settings.priceTickMaxSkipPerMinute
  ([(!settings.cutoverEnabled || !settings.priceTickCutoverEnabled,
      "PRICE_TICK_CUTOVER_DISABLED"),
    ("price_tick" ∉ settings.cutoverEventTypes, "EVENT_TYPE_NOT_ENABLED_FOR_PR7_CUTOVER"),
    (limit = 0 || skipBudgetRemaining limit skipBudgetUsed = 0,
      "PRICE_TICK_SKIP_BUDGET_EXHAUSTED")] : List (Bool × String)) ++
  readinessGuards settings readings job ++
  [(!readings.priceTickIdentified, "PRICE_TICK_PAYLOAD_INVALID")]

/-- The guards of the cutover that the type of the event has. -/
def cutoverGuards : List (Bool × String) :=
  if eventType = "tr_response" then trResponseGuards settings readings job skipBudgetUsed
  else if eventType = "condition_event" then
    conditionEventGuards settings readings job skipBudgetUsed
  else if eventType = "price_tick" then priceTickGuards settings readings job skipBudgetUsed
  else [(true, "EVENT_TYPE_NOT_ENABLED_FOR_PR7_CUTOVER")]

def inlineReason : Option String :=
  firstReason (wouldSkipGuards settings readings job eventType ++
    cutoverGuards settings readings job eventType skipBudgetUsed ++
    [(!readings.controllerAllows, "MARKET_DATA_APPEND_ONLY_CONTROLLER_NOT_READY")])

end MarketGuards

/-! ## The decision on a market scan -/

structure ScanReconcileRun where
  status : Option String
  appendOnlyReady : Bool
  ageMicros : Option Nat
  latestEventId : Option String

structure ScanReadings where
  recognized : Bool
  parserVerified : Bool
  dataUsable : Bool
  latestRun : Option ScanReconcileRun
  priorEventId : Option String
  marketDataDependencyReady : Bool
  eventAgeMicros : Option Nat
  eventFutureSkewMicros : Option Nat

structure ScanOutboxCounts where
  pendingCount : Nat
  processingCount : Nat
  errorCount : Nat
  deadLetterCount : Nat

structure EffectiveSkipHealth where
  pendingWorkerCount : Nat
  workerErrorCount : Nat
  workerApplyEvidenceMissingCount : Nat
  artifactMissingCount : Nat
  workerLineageMissingCount : Nat

def unknownOrOlder (ageMicros : Option Nat) (maxAgeSec : Nat) : Bool :=
  ageMicros.isNone || olderThan ageMicros maxAgeSec

section ScanGuards

variable (settings : RoutingSettings) (eventType : String) (readings : ScanReadings)
  (job : Option OutboxStatus) (counts : ScanOutboxCounts) (health : EffectiveSkipHealth)

def observeSafe : Bool :=
  settings.tradingProfile = .observe && settings.tradingMode = .observe &&
    !settings.tradingAllowLiveSim && !settings.tradingAllowLiveReal

def scanReconcileReady : Bool :=
  readings.latestRun.bind ScanReconcileRun.status = some "PASS" &&
    readings.latestRun.any ScanReconcileRun.appendOnlyReady

def reconcileCoversPriorEvent : Bool :=
  readings.priorEventId.any (fun prior => prior ≠ "" &&
    readings.latestRun.bind ScanReconcileRun.latestEventId = some prior) &&
      scanReconcileReady readings

def rollbackGuards : List (Bool × String) :=
  [(0 < counts.errorCount, "MARKET_SCAN_OUTBOX_ERROR"),
    (0 < counts.deadLetterCount, "MARKET_SCAN_OUTBOX_DEAD_LETTER"),
    (0 < counts.processingCount, "MARKET_SCAN_OUTBOX_PROCESSING_ACTIVE"),
    (settings.marketScanMaxPendingWithinSla < counts.pendingCount,
      "MARKET_SCAN_OUTBOX_PENDING_EXCEEDED"),
    (0 < health.pendingWorkerCount, "MARKET_SCAN_EFFECTIVE_SKIP_PENDING_WORKER"),
    (0 < health.workerErrorCount, "MARKET_SCAN_EFFECTIVE_SKIP_WORKER_ERROR"),
    (0 < health.workerApplyEvidenceMissingCount,
      "MARKET_SCAN_EFFECTIVE_SKIP_WORKER_EVIDENCE_MISSING"),
    (0 < health.artifactMissingCount, "MARKET_SCAN_EFFECTIVE_SKIP_ARTIFACT_MISSING"),
    (0 < health.workerLineageMissingCount, "MARKET_SCAN_EFFECTIVE_SKIP_WORKER_LINEAGE_MISSING")]

def rollbackReasonCodes : List String :=
  sortedCodes (allReasons (rollbackGuards settings counts health))
where
  sortedCodes (codes : List String) : List String :=
    codes.eraseDups.insertionSort (· ≤ ·)

def scanGuards : List (Bool × String) :=
  [(!settings.marketScanDryRunEnabled, "MARKET_SCAN_DRY_RUN_DISABLED"),
    (eventType ≠ "tr_response" || !readings.recognized, "MARKET_SCAN_EVENT_NOT_ELIGIBLE"),
    (!settings.marketScanEnabled, "MARKET_SCAN_SERVICE_DISABLED"),
    (!observeSafe settings, "MARKET_SCAN_OBSERVE_SAFE_REQUIRED"),
    (!(settings.projectionOutboxApplyProjectionEnabled &&
      settings.projectionOutboxMarketScanApplyEnabled), "MARKET_SCAN_WORKER_APPLY_DISABLED"),
    (!settings.marketScanRequireReconcilePass, "MARKET_SCAN_RECONCILE_GUARD_DISABLED"),
    (!settings.marketScanRequirePriorEventReconcile,
      "MARKET_SCAN_PRIOR_RECONCILE_GUARD_DISABLED"),
    (!scanReconcileReady readings, "MARKET_SCAN_RECONCILE_NOT_READY"),
    (unknownOrOlder (readings.latestRun.bind ScanReconcileRun.ageMicros)
      settings.marketScanReconcileMaxAgeSec, "MARKET_SCAN_RECONCILE_STALE"),
    (!reconcileCoversPriorEvent readings, "MARKET_SCAN_PRIOR_EVENT_NOT_RECONCILED"),
    (!settings.marketScanRequireParserVerified, "MARKET_SCAN_PARSER_GUARD_DISABLED"),
    (!readings.parserVerified, "MARKET_SCAN_PARSER_UNVERIFIED"),
    (!readings.dataUsable, "MARKET_SCAN_DATA_UNUSABLE"),
    (unknownOrOlder readings.eventAgeMicros settings.marketScanMaxEventAgeSec,
      "MARKET_SCAN_EVENT_STALE"),
    (unknownOrOlder readings.eventFutureSkewMicros settings.marketScanMaxFutureSkewSec,
      "MARKET_SCAN_EVENT_FUTURE_SKEW"),
    (!settings.marketScanRequireMarketDataDependency,
      "MARKET_SCAN_MARKET_DATA_DEPENDENCY_GUARD_DISABLED"),
    (!readings.marketDataDependencyReady, "MARKET_SCAN_MARKET_DATA_DEPENDENCY_NOT_READY"),
    (!settings.marketScanRequireWorkerClosure, "MARKET_SCAN_WORKER_CLOSURE_GUARD_DISABLED"),
    (!settings.marketScanFailClosedOnWorkerError,
      "MARKET_SCAN_WORKER_ERROR_FAIL_CLOSED_DISABLED"),
    (job.isNone, "MARKET_SCAN_OUTBOX_JOB_MISSING"),
    (job.any fun status => status ∉ [OutboxStatus.pending, .processing],
      "MARKET_SCAN_OUTBOX_NOT_ENQUEUED"),
    (0 < counts.errorCount, "MARKET_SCAN_OUTBOX_ERROR_PRESENT"),
    (0 < counts.deadLetterCount, "MARKET_SCAN_OUTBOX_DEAD_LETTER_PRESENT"),
    (settings.marketScanMaxPendingWithinSla < counts.pendingCount + counts.processingCount,
      "MARKET_SCAN_OUTBOX_BACKLOG_NOT_READY"),
    (rollbackReasonCodes settings counts health ≠ [], "MARKET_SCAN_INLINE_ROLLBACK_REQUIRED")]

def scanReasons : List String :=
  allReasons (scanGuards settings eventType readings job counts health) ++
    rollbackReasonCodes settings counts health

/-- The guards of the cutover of a scan that would be skipped. -/
def scanCutoverGuards : List (Bool × String) :=
  [(!settings.marketScanCutoverEnabled, "MARKET_SCAN_CUTOVER_DISABLED"),
    (settings.marketScanGlobalKillSwitch, "MARKET_SCAN_GLOBAL_KILL_SWITCH"),
    (settings.marketScanEffectiveSkipDisabledInPr20,
      "MARKET_SCAN_EFFECTIVE_SKIP_DISABLED_IN_PR20"),
    (settings.marketScanMaxSkipPerMinute = 0, "MARKET_SCAN_SKIP_BUDGET_EXHAUSTED")]

def asksForBudget : Bool :=
  scanReasons settings eventType readings job counts health = [] &&
    allReasons (scanCutoverGuards settings) = []

end ScanGuards

/-! ## Stored decisions -/

structure RoutingRow where
  eventId : String
  eventType : String
  effectiveSkipInline : Bool
  decidedAt : Instant

instance : Keyed RoutingRow String := ⟨RoutingRow.eventId⟩

structure SkipBudget where
  minuteBucket : Nat
  usedCount : Nat

def microsPerMinute : Nat := 60 * Time.microsPerSecond

def minuteOfClock (now : Instant) : Nat :=
  now / microsPerMinute

/-- The comparison of two times by `julianday`. -/
def notBefore (time start : Nat) : Bool :=
  (start + 500) / 1000 ≤ (time + 500) / 1000

def skipCountSince (decisions : Table RoutingRow) (eventType : String) (minute : Nat) : Nat :=
  decisions.rows.countP fun row => row.eventType = eventType && row.effectiveSkipInline &&
    notBefore row.decidedAt (minute * microsPerMinute)

/-! ## Decisions in hand -/

structure MarketHand where
  caller : String
  eventId : String
  eventType : String
  readings : MarketReadings
  decidedAt : Instant
  /-- The status of the job, once it is read. -/
  job : Option (Option OutboxStatus)
  /-- The minute of the count and the skips in it, once they are counted. -/
  counted : Option (Nat × Nat)

instance : Keyed MarketHand String := ⟨MarketHand.caller⟩

inductive Reservation where
  | notAsked
  /-- The event was skipped before. -/
  | already
  | wanted (minute : Nat)
  | made (minute : Nat)
  | refused
deriving DecidableEq

structure ScanHand where
  caller : String
  eventId : String
  eventType : String
  readings : ScanReadings
  decidedAt : Instant
  job : Option (Option OutboxStatus)
  counts : Option ScanOutboxCounts
  health : Option EffectiveSkipHealth
  reservation : Reservation

instance : Keyed ScanHand String := ⟨ScanHand.caller⟩

def MarketHand.skips (hand : MarketHand) : Bool :=
  match hand.job, hand.counted with
  | some job, some (_, used) =>
      inlineReason settings hand.readings job hand.eventType used = none
  | _, _ => false

def MarketHand.ready (hand : MarketHand) : Bool :=
  !dryRunEnabledFor settings hand.eventType || (hand.job.isSome && hand.counted.isSome)

def MarketHand.row (hand : MarketHand) : RoutingRow where
  eventId := hand.eventId
  eventType := hand.eventType
  effectiveSkipInline := hand.skips settings
  decidedAt := hand.decidedAt

variable (hand : ScanHand)

def ScanHand.asks : Bool :=
  match hand.job, hand.counts, hand.health with
  | some job, some counts, some health =>
      asksForBudget settings hand.eventType hand.readings job counts health
  | _, _, _ => false

def ScanHand.skips : Bool :=
  match hand.reservation with
  | .already | .made _ => true
  | .notAsked | .wanted _ | .refused => false

def ScanHand.ready : Bool :=
  hand.job.isSome && hand.counts.isSome && hand.health.isSome &&
    match hand.reservation with
    | .notAsked => !hand.asks settings
    | .wanted _ => false
    | .already | .made _ | .refused => true

def ScanHand.row : RoutingRow where
  eventId := hand.eventId
  eventType := hand.eventType
  effectiveSkipInline := hand.skips
  decidedAt := hand.decidedAt

/-! ## The system -/

structure RoutingState where
  outbox : OutboxState
  /-- The events that have rows of a projection. -/
  artifacts : List (String × String)
  decisions : Table RoutingRow
  scanDecisions : Table RoutingRow
  budget : Option SkipBudget
  marketHands : Table MarketHand
  scanHands : Table ScanHand

namespace RoutingState

variable (state : RoutingState)

def jobStatus (projectionName eventId : String) : Option OutboxStatus :=
  (state.outbox.tables.jobs.find? (outboxId projectionName eventId)).map ProjectionJob.status

def hasArtifact (projectionName eventId : String) : Bool :=
  (projectionName, eventId) ∈ state.artifacts

def countScanJobs (status : OutboxStatus) : Nat :=
  state.outbox.tables.jobs.rows.countP fun job =>
    job.projectionName = "market_scan" && job.status = status

def countOtherSkips (eventId : String) (holds : String → Bool) : Nat :=
  state.scanDecisions.rows.countP fun row =>
    row.effectiveSkipInline && row.eventId ≠ eventId && holds row.eventId

def scanOutboxCounts : ScanOutboxCounts where
  pendingCount := state.countScanJobs .pending
  processingCount := state.countScanJobs .processing
  errorCount := state.countScanJobs .error
  deadLetterCount := state.countScanJobs .deadLetter

def artifactMissing (eventId : String) : Bool :=
  !state.hasArtifact "market_scan" eventId

def effectiveSkipHealth (eventId : String) (evidenceMissing lineageMissing : Nat) :
    EffectiveSkipHealth where
  pendingWorkerCount := state.countOtherSkips eventId fun other =>
    state.jobStatus "market_scan" other ≠ some .applied
  workerErrorCount := state.countOtherSkips eventId fun other =>
    state.jobStatus "market_scan" other ∈ [some .error, some .deadLetter]
  workerApplyEvidenceMissingCount := evidenceMissing
  artifactMissingCount := state.countOtherSkips eventId state.artifactMissing
  workerLineageMissingCount := lineageMissing

def setMarketHand (hand : MarketHand) : RoutingState :=
  { state with marketHands := state.marketHands.upsert hand }

def setScanHand (hand : ScanHand) : RoutingState :=
  { state with scanHands := state.scanHands.upsert hand }

def dropMarketHand (caller : String) : RoutingState :=
  { state with marketHands := state.marketHands.deleteWhere fun hand => hand.caller = caller }

def dropScanHand (caller : String) : RoutingState :=
  { state with scanHands := state.scanHands.deleteWhere fun hand => hand.caller = caller }

end RoutingState

/-- One statement on the budget: a minute that is not the stored one starts at one, and the stored
one goes on up to the limit. -/
def reserveSkip (budget : Option SkipBudget) (minute limit : Nat) : Option SkipBudget :=
  match budget with
  | none => some ⟨minute, 1⟩
  | some stored =>
      if stored.minuteBucket ≠ minute then some ⟨minute, 1⟩
      else if stored.usedCount < limit then some ⟨minute, stored.usedCount + 1⟩
      else none

inductive RoutingOp where
  /-- A statement of a worker or of another program on the outbox. -/
  | outbox (op : OutboxOp)
  /-- A program writes the rows of a projection for an event. -/
  | project (projectionName eventId : String)
  | decideMarketData (caller eventId eventType : String) (readings : MarketReadings)
      (now : Instant)
  | readJob (caller : String)
  | countSkips (caller : String) (now : Instant)
  | persistMarketData (caller : String)
  | decideMarketScan (caller eventId eventType : String) (readings : ScanReadings)
      (now : Instant)
  | readScanJob (caller : String)
  | countScanJobs (caller : String)
  | readSkipHealth (caller : String) (evidenceMissing lineageMissing : Nat)
  | lookForSkip (caller : String) (now : Instant)
  | reserveSkipBudget (caller : String)
  | persistMarketScan (caller : String)
  /-- A decision fails between its statements. -/
  | abandon (caller : String)

def routingDecisionsOf (decisions : Table RoutingRow) : List RoutingDecision :=
  decisions.rows.map fun row =>
    { eventId := row.eventId, effectiveSkipInline := row.effectiveSkipInline.toNat }

namespace RoutingState

variable (state : RoutingState)

def withMarketHand (caller : String) (change : MarketHand → RoutingState) : RoutingState :=
  match state.marketHands.find? caller with
  | none => state
  | some hand => change hand

def withScanHand (caller : String) (change : ScanHand → RoutingState) : RoutingState :=
  match state.scanHands.find? caller with
  | none => state
  | some hand => change hand

variable (settings : RoutingSettings)

def persistMarketData (hand : MarketHand) : RoutingState :=
  if hand.ready settings then
    let decisions := state.decisions.upsert (hand.row settings)
    { state.dropMarketHand hand.caller with
      decisions := decisions
      outbox := { state.outbox with tables :=
        { state.outbox.tables with routingDecisions := routingDecisionsOf decisions } } }
  else state

/-- The event is looked up among the skipped ones before the budget is asked. -/
def lookForSkip (hand : ScanHand) (now : Instant) : RoutingState :=
  if hand.asks settings = true ∧ hand.reservation = .notAsked then
    let skipped := (state.scanDecisions.find? hand.eventId).any RoutingRow.effectiveSkipInline
    state.setScanHand { hand with
      reservation := if skipped then .already else .wanted (minuteOfClock now) }
  else state

def reserveSkipBudget (hand : ScanHand) : RoutingState :=
  match hand.reservation with
  | .wanted minute =>
      match reserveSkip state.budget minute settings.marketScanMaxSkipPerMinute with
      | some budget =>
          { state.setScanHand { hand with reservation := .made minute } with
            budget := some budget }
      | none => state.setScanHand { hand with reservation := .refused }
  | _ => state

def persistMarketScan (hand : ScanHand) : RoutingState :=
  if hand.ready settings then
    { state.dropScanHand hand.caller with
      scanDecisions := state.scanDecisions.upsert hand.row }
  else state

end RoutingState

def routingNext (host : Host) (settings : RoutingSettings) (state : RoutingState) :
    RoutingOp → RoutingState
  | .outbox op => { state with outbox := outboxNext host state.outbox op }
  | .project projectionName eventId =>
      { state with artifacts := (projectionName, eventId) :: state.artifacts }
  | .decideMarketData caller eventId eventType readings now =>
      if (state.marketHands.find? caller).isSome then state
      else state.setMarketHand
        { caller := caller, eventId := eventId, eventType := normalizeEventType eventType,
          readings := readings, decidedAt := now, job := none, counted := none }
  | .readJob caller =>
      state.withMarketHand caller fun hand =>
        let status := state.jobStatus "market_data" hand.eventId
        state.setMarketHand { hand with job := some status }
  | .countSkips caller now =>
      state.withMarketHand caller fun hand =>
        let used := skipCountSince state.decisions hand.eventType (minuteOfClock now)
        state.setMarketHand { hand with counted := some (minuteOfClock now, used) }
  | .persistMarketData caller => state.withMarketHand caller (state.persistMarketData settings)
  | .decideMarketScan caller eventId eventType readings now =>
      if (state.scanHands.find? caller).isSome then state
      else state.setScanHand
        { caller := caller, eventId := eventId, eventType := normalizeEventType eventType,
          readings := readings, decidedAt := now, job := none, counts := none, health := none,
          reservation := .notAsked }
  | .readScanJob caller =>
      state.withScanHand caller fun hand =>
        let status := state.jobStatus "market_scan" hand.eventId
        if hand.reservation = .notAsked then state.setScanHand { hand with job := some status }
        else state
  | .countScanJobs caller =>
      state.withScanHand caller fun hand =>
        if hand.reservation = .notAsked then
          state.setScanHand { hand with counts := some state.scanOutboxCounts }
        else state
  | .readSkipHealth caller evidenceMissing lineageMissing =>
      state.withScanHand caller fun hand =>
        let health := state.effectiveSkipHealth hand.eventId evidenceMissing lineageMissing
        if hand.reservation = .notAsked then state.setScanHand { hand with health := some health }
        else state
  | .lookForSkip caller now =>
      state.withScanHand caller fun hand => state.lookForSkip settings hand now
  | .reserveSkipBudget caller => state.withScanHand caller (state.reserveSkipBudget settings)
  | .persistMarketScan caller => state.withScanHand caller (state.persistMarketScan settings)
  | .abandon caller => (state.dropMarketHand caller).dropScanHand caller

/-- The routing decisions of all request threads beside the workers on the outbox. -/
def routing (host : Host) (settings : RoutingSettings) : System RoutingState RoutingOp Unit where
  step state op := (routingNext host settings state op, ())

def emptyRouting : RoutingState where
  outbox := emptyOutbox
  artifacts := []
  decisions := .empty
  scanDecisions := .empty
  budget := none
  marketHands := .empty
  scanHands := .empty

end SuseokTrader
