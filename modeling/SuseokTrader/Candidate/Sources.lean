import SuseokTrader.Lib.Run
import SuseokTrader.Candidate.Fsm
import SuseokTrader.Candidate.Fusion

/-!
# Candidate sources

A candidate is a code that something has pointed at on a trade date. What points
at it is a source: a plain condition that the code entered, the fusion of the
profiled conditions, a theme, a person. Every source event is stored once and
changes the latest state of its source; a code without an open candidate gets
one of the next generation. The exit from a plain condition ends the source that
its entry began, and the refresh that follows closes a candidate without
sources.

A rebuild fuses the conditions, takes in the fusions, then the plain signals,
then the themes, and refreshes every open candidate.
-/

namespace SuseokTrader

/-! ## Tables -/

inductive CandidateSourceType where
  | conditionEnter
  | conditionExit
  | conditionDiscovery
  | conditionLeader
  | conditionPullback
  | conditionBreakout
  | conditionRiskBlock
  | themeLeader
  | themeCoLeader
  | themeFollower
  | themeSpreadingMember
  | marketObserved
  | manualWatch
  | mock
deriving DecidableEq

namespace CandidateSourceType

def isFusion : CandidateSourceType → Bool
  | conditionDiscovery | conditionLeader | conditionPullback | conditionBreakout
  | conditionRiskBlock => true
  | _ => false

def isTheme : CandidateSourceType → Bool
  | themeLeader | themeCoLeader | themeFollower | themeSpreadingMember => true
  | _ => false

/-- `_condition_source_values` -/
def isCondition (sourceType : CandidateSourceType) : Bool :=
  sourceType = conditionEnter || sourceType.isFusion

end CandidateSourceType

structure SourcePayload where
  riskBlocked : Bool
  candidatePromotionAllowed : Json
  discoveryPromotionPending : Json

structure CandidateSourceEvent where
  sourceEventId : String
  tradeDate : String
  code : String
  name : String
  sourceType : CandidateSourceType
  sourceId : String
  action : String
  eventTs : String
  observedAt : String
  payload : SourcePayload

/-- The identifier of a candidate, as the parts it is made of. -/
structure CandidateInstanceId where
  tradeDate : String
  code : String
  generation : Nat
deriving DecidableEq

/-- `_candidate_instance_id` -/
def CandidateInstanceId.text (id : CandidateInstanceId) : String :=
  "CAND-" ++ id.tradeDate ++ "-" ++ id.code ++ "-" ++ toString id.generation

structure CandidateRow where
  candidateInstanceId : CandidateInstanceId
  name : String
  state : CandidateState
  previousState : Option CandidateState
  detectedAt : String
  lastSeenAt : String
  stateUpdatedAt : String
  closedAt : Option String
  primarySourceType : CandidateSourceType
  primarySourceId : String
  sourceCount : Nat
  activeSourceCount : Nat

instance : Keyed CandidateRow CandidateInstanceId := ⟨CandidateRow.candidateInstanceId⟩

def CandidateRow.isOpen (row : CandidateRow) : Bool :=
  row.state ≠ .closed

inductive CandidateEventType where
  | candidateCreated
  | stateChanged
  | candidateClosed
  | candidateStale
deriving DecidableEq

structure TransitionKey where
  candidateInstanceId : CandidateInstanceId
  fromState : Option CandidateState
  toState : CandidateState
  eventType : CandidateEventType
  cause : String
deriving DecidableEq

structure TransitionRow where
  key : TransitionKey
  sourceEventId : Option String
  transitionedAt : String

instance : Keyed TransitionRow TransitionKey := ⟨TransitionRow.key⟩

structure SourceEventRow where
  event : CandidateSourceEvent
  candidateInstanceId : Option CandidateInstanceId
  active : Bool

instance : Keyed SourceEventRow String := ⟨fun row => row.event.sourceEventId⟩

structure SourceKey where
  tradeDate : String
  code : String
  sourceType : CandidateSourceType
  sourceId : String
deriving DecidableEq

structure LatestSource where
  key : SourceKey
  generation : Nat
  name : String
  active : Bool
  firstSeenAt : String
  lastSeenAt : String
  lastEventId : String
  payload : SourcePayload

instance : Keyed LatestSource SourceKey := ⟨LatestSource.key⟩

def LatestSource.candidateInstanceId (row : LatestSource) : CandidateInstanceId where
  tradeDate := row.key.tradeDate
  code := row.key.code
  generation := row.generation

structure CandidateTables where
  signals : Table ConditionSignal
  fusions : Table ConditionFusion
  candidates : Table CandidateRow
  transitions : Table TransitionRow
  sourceEvents : Table SourceEventRow
  latestSources : Table LatestSource

def CandidateTables.initial : CandidateTables where
  signals := .empty
  fusions := .empty
  candidates := .empty
  transitions := .empty
  sourceEvents := .empty
  latestSources := .empty

structure CandidateSettings where
  candidateFsmEnabled : Bool := true
  candidateConditionActionEnter : String := "ENTER"
  candidateConditionActionExit : String := "EXIT"
  candidateStaleRequiresTickStale : Bool := true
  candidateContextRequire1mBar : Bool := true
  candidateContextRequireVwap : Bool := false
  /-- The trade date of a stored time, in the configured time zone. -/
  tradeDateOf : String → String

/-- What a refresh reads of the market data, the themes and the ages of things. -/
structure RefreshInputs where
  raises : Bool
  hasLatestTick : Bool
  marketReadinessStatus : String
  tickStale : Bool
  sourceStale : Bool
  ttlExpired : Bool
  vwapReady : Bool
  bar1mReady : Bool
  themeContextPresent : Bool
  themeState : String

structure RefreshReadings extends RefreshInputs where
  now : String

/-! ## The transition log -/

def transition (candidateInstanceId : CandidateInstanceId) (fromState : Option CandidateState)
    (toState : CandidateState) (eventType : CandidateEventType) (sourceEventId : Option String)
    (now : String) : TransitionRow where
  key :=
    { candidateInstanceId := candidateInstanceId
      fromState := fromState
      toState := toState
      eventType := eventType
      cause := if sourceEventId.getD "" = "" then now else sourceEventId.getD "" }
  sourceEventId := sourceEventId
  transitionedAt := now

variable (tables : CandidateTables)

/-- `INSERT OR IGNORE` -/
def CandidateTables.recordTransition (row : TransitionRow) :
    CandidateTables :=
  { tables with transitions := (tables.transitions.insert? row).getD tables.transitions }

def CandidateRow.moved (row : CandidateRow) (nextState : CandidateState) (now : String) :
    CandidateRow :=
  { row with
    previousState := some row.state
    state := nextState
    stateUpdatedAt := now
    closedAt := if nextState = .closed then some now else row.closedAt }

/-- `_apply_state_transition`; a move to the state the candidate is in is none. -/
def CandidateTables.applyStateTransition (row : CandidateRow)
    (nextState : CandidateState) (eventType : CandidateEventType) (sourceEventId : Option String)
    (now : String) : CandidateTables :=
  if row.state = nextState then tables
  else
    CandidateTables.recordTransition
      { tables with
        candidates := tables.candidates.update row.candidateInstanceId
          (fun stored => stored.moved nextState now) fun _ => rfl }
      (transition row.candidateInstanceId (some row.state) nextState eventType sourceEventId now)

/-! ## Refreshing a candidate -/

variable (candidateInstanceId : CandidateInstanceId)

def CandidateTables.listLatestSourceRows (activeOnly : Bool) : List LatestSource :=
  tables.latestSources.rows.filter fun row =>
    row.candidateInstanceId = candidateInstanceId && (!activeOnly || row.active)

def LatestSource.blocksObservation (row : LatestSource) : Bool :=
  row.key.sourceType.isCondition &&
    (row.payload.riskBlocked || row.key.sourceType = .conditionRiskBlock ||
      row.payload.candidatePromotionAllowed.isFalse &&
        !row.payload.discoveryPromotionPending.isTrue)

def activeConditionFusionBlocked (activeSources : List LatestSource) : Bool :=
  activeSources.any LatestSource.blocksObservation

variable (settings : CandidateSettings)

def fsmContext (activeSources : List LatestSource)
    (inputs : RefreshInputs) : CandidateContext where
  explicitClose := false
  onlyConditionExitSources := false
  activeSourceCount := activeSources.length
  hasLatestTick := inputs.hasLatestTick
  marketReadinessStatus := inputs.marketReadinessStatus
  tickStale := inputs.tickStale
  sourceStale := activeSources ≠ [] && inputs.sourceStale
  candidateStaleRequiresTickStale := settings.candidateStaleRequiresTickStale
  ttlExpired := inputs.ttlExpired
  vwapReady := inputs.vwapReady
  bar1mReady := inputs.bar1mReady
  require1mBar := settings.candidateContextRequire1mBar
  requireVwap := settings.candidateContextRequireVwap
  themeSource := activeSources.any fun row => row.key.sourceType.isTheme
  themeContextPresent := inputs.themeContextPresent
  themeState := inputs.themeState
  conditionSource := activeSources.any fun row => row.key.sourceType.isCondition
  conditionSignalPresent := activeSources.any fun row => row.key.sourceType.isCondition
  observationBlocked := activeConditionFusionBlocked activeSources
  reasonCodes := []

structure CandidateRefreshResult where
  transitionCount : Nat := 0
  staleCount : Nat := 0
  closedCount : Nat := 0
  errorCount : Nat := 0

/-- What a refresh of a candidate knows. -/
def CandidateTables.contextOf
    (candidateInstanceId : CandidateInstanceId) (inputs : RefreshInputs) : CandidateContext :=
  fsmContext settings (tables.listLatestSourceRows candidateInstanceId true) inputs

def CandidateTables.decision
    (row : CandidateRow) (inputs : RefreshInputs) : CandidateStateDecision :=
  determineNextState row.state (tables.contextOf settings row.candidateInstanceId inputs)

def CandidateStateDecision.eventType (decision : CandidateStateDecision) : CandidateEventType :=
  if decision.closeCandidate then .candidateClosed
  else if decision.staleCandidate then .candidateStale
  else .stateChanged

def CandidateTables.updateContextColumns : CandidateTables :=
  { tables with
    candidates := tables.candidates.update candidateInstanceId (fun row =>
      { row with
        sourceCount := (tables.listLatestSourceRows candidateInstanceId false).length
        activeSourceCount := (tables.listLatestSourceRows candidateInstanceId true).length })
      fun _ => rfl }

/-- A candidate that is closed stays as it is, and a failing read leaves everything as it is. -/
def refreshCandidateContext (tables : CandidateTables)
    (candidateInstanceId : CandidateInstanceId) (readings : RefreshReadings) :
    CandidateRefreshResult × CandidateTables :=
  match tables.candidates.find? candidateInstanceId with
  | none => ({ errorCount := 1 }, tables)
  | some row =>
      if row.state = .closed then ({}, tables)
      else if readings.raises then ({ errorCount := 1 }, tables)
      else
        let decision := tables.decision settings row readings.toRefreshInputs
        let refreshed := (tables.updateContextColumns candidateInstanceId).applyStateTransition
          row decision.nextState decision.eventType none readings.now
        ({ transitionCount := refreshed.transitions.rows.length - tables.transitions.rows.length
           staleCount := if decision.nextState = .stale then 1 else 0
           closedCount := if decision.nextState = .closed then 1 else 0 },
          refreshed)

/-! ## Applying a source event -/

/-- The open candidate of a code with the highest generation. -/
def CandidateTables.findActiveCandidate (tradeDate code : String) :
    Option CandidateRow :=
  (tables.candidates.rows.filter fun row =>
    row.candidateInstanceId.tradeDate = tradeDate && row.candidateInstanceId.code = code &&
      row.isOpen).foldl (fun found row =>
        match found with
        | none => some row
        | some best =>
            if best.candidateInstanceId.generation < row.candidateInstanceId.generation
            then some row else some best) none

def CandidateTables.nextGeneration (tradeDate code : String) : Nat :=
  ((tables.candidates.rows.filter fun row =>
    row.candidateInstanceId.tradeDate = tradeDate && row.candidateInstanceId.code = code).map
      fun row => row.candidateInstanceId.generation).foldl max 0 + 1

variable (event : CandidateSourceEvent)

def newCandidate (generation : Nat) (now : String) :
    CandidateRow where
  candidateInstanceId :=
    { tradeDate := event.tradeDate
      code := event.code
      generation := generation }
  name := event.name
  state := .detected
  previousState := none
  detectedAt := event.observedAt
  lastSeenAt := event.observedAt
  stateUpdatedAt := now
  closedAt := none
  primarySourceType := event.sourceType
  primarySourceId := event.sourceId
  sourceCount := 0
  activeSourceCount := 0

def CandidateTables.syncCandidateSourceCounts : CandidateTables :=
  { tables with
    candidates := tables.candidates.update candidateInstanceId (fun row =>
      { row with
        sourceCount := (tables.sourceEvents.rows.filter fun row =>
          row.candidateInstanceId = some candidateInstanceId).length
        activeSourceCount := (tables.listLatestSourceRows candidateInstanceId true).length })
      fun _ => rfl }

def CandidateSourceEvent.key : SourceKey where
  tradeDate := event.tradeDate
  code := event.code
  sourceType := event.sourceType
  sourceId := event.sourceId

/-- The latest state after an event, which keeps the time the source was first seen. -/
def CandidateSourceEvent.latest (generation : Nat)
    (existing : Option LatestSource) : LatestSource where
  key := event.key
  generation := generation
  name := event.name
  active := true
  firstSeenAt := (existing.map LatestSource.firstSeenAt).getD event.observedAt
  lastSeenAt := event.observedAt
  lastEventId := event.sourceEventId
  payload := event.payload

def CandidateTables.upsertLatestSource (generation : Nat) : CandidateTables :=
  { tables with
    latestSources := tables.latestSources.upsert
      (event.latest generation (tables.latestSources.find? event.key)) }

def CandidateTables.updateCandidateFromSource : CandidateTables :=
  { tables with
    candidates := tables.candidates.update candidateInstanceId (fun row =>
      { row with
        name := event.name
        lastSeenAt := max row.lastSeenAt event.observedAt }) fun _ => rfl }

def CandidateSourceEvent.enteredKey : SourceKey where
  tradeDate := event.tradeDate
  code := event.code
  sourceType := .conditionEnter
  sourceId := event.sourceId

def CandidateTables.endSource : CandidateTables :=
  { tables with
    latestSources := tables.latestSources.updateWhere
      (fun row =>
        row.candidateInstanceId = candidateInstanceId && row.key.sourceType = .conditionEnter &&
          row.key.sourceId = event.sourceId)
      (fun row =>
        { row with
          active := false
          lastSeenAt := event.observedAt
          lastEventId := event.sourceEventId
          payload := event.payload }) fun _ => rfl }

def CandidateTables.insertSourceEvent
    (candidateInstanceId : Option CandidateInstanceId) (active : Bool) : CandidateTables :=
  { tables with
    sourceEvents := (tables.sourceEvents.insert? ⟨event, candidateInstanceId, active⟩).getD
      tables.sourceEvents }

/-- The tables after an exit, unless its refresh fails: then the event is taken back. -/
def applyExitSourceEvent (tables : CandidateTables)
    (event : CandidateSourceEvent) (readings : CandidateInstanceId → RefreshReadings) :
    Option CandidateTables :=
  match tables.findActiveCandidate event.tradeDate event.code with
  | none => some (tables.insertSourceEvent event none false)
  | some candidate =>
      let candidateInstanceId := candidate.candidateInstanceId
      let ended := ((tables.insertSourceEvent event (some candidateInstanceId) false).endSource
        candidateInstanceId event).syncCandidateSourceCounts candidateInstanceId
      let (result, refreshed) :=
        refreshCandidateContext settings ended candidateInstanceId (readings candidateInstanceId)
      if result.errorCount ≠ 0 then none else some refreshed

/-- A new candidate of a code, which goes from `DETECTED` to `HYDRATING` at once. -/
def CandidateTables.createCandidate (now : String) : CandidateTables × CandidateInstanceId :=
  let row := newCandidate event (tables.nextGeneration event.tradeDate event.code) now
  let inserted := CandidateTables.recordTransition
    { tables with candidates := (tables.candidates.insert? row).getD tables.candidates }
    (transition row.candidateInstanceId none .detected .candidateCreated
      (some event.sourceEventId) now)
  (inserted.applyStateTransition row .hydrating .stateChanged (some event.sourceEventId) now,
    row.candidateInstanceId)

def CandidateTables.candidateFor (now : String) : CandidateTables × CandidateInstanceId :=
  match tables.findActiveCandidate event.tradeDate event.code with
  | some candidate => (tables, candidate.candidateInstanceId)
  | none => tables.createCandidate event now

/-- The tables after an event that is not an exit. -/
def mergeSourceEvent (tables : CandidateTables)
    (event : CandidateSourceEvent) (now : String) : CandidateTables :=
  if !settings.candidateFsmEnabled then tables
  else if (tables.sourceEvents.find? event.sourceEventId).isSome then tables
  else
    let (linked, candidateInstanceId) := tables.candidateFor event now
    (((linked.insertSourceEvent event (some candidateInstanceId) true).upsertLatestSource
      event candidateInstanceId.generation).syncCandidateSourceCounts
        candidateInstanceId).updateCandidateFromSource candidateInstanceId event

structure SourceReadings where
  now : String
  refresh : CandidateInstanceId → RefreshReadings

def createOrMergeCandidateFromSource (tables : CandidateTables)
    (event : CandidateSourceEvent) (readings : SourceReadings) : Option CandidateTables :=
  if !settings.candidateFsmEnabled then some tables
  else if (tables.sourceEvents.find? event.sourceEventId).isSome then some tables
  else if event.sourceType = .conditionExit then
    applyExitSourceEvent settings tables event readings.refresh
  else some (mergeSourceEvent settings tables event readings.now)

def applySourceEvent (readings : String → SourceReadings)
    (tables : CandidateTables) (event : CandidateSourceEvent) : CandidateTables :=
  (createOrMergeCandidateFromSource settings tables event
    (readings event.sourceEventId)).getD tables

/-! ## The source events of a rebuild -/

def sourceEventId (parts : List String) : String :=
  "CSE-" ++ String.ofList
    ((Sha256.hexdigest (String.intercalate "|" parts)).toList.take 20)

def fusionSourceType (roles : List ConditionRole) (riskBlocked : Bool) : CandidateSourceType :=
  if riskBlocked ∨ .riskBlock ∈ roles then .conditionRiskBlock
  else if .leader ∈ roles then .conditionLeader
  else if .pullback ∈ roles then .conditionPullback
  else if .breakout ∈ roles then .conditionBreakout
  else .conditionDiscovery

def fusionRowToSourceEvent (fusion : ConditionFusion) (tradeDate : String) :
    CandidateSourceEvent :=
  let hitAt := fusion.latestHitAt.getD fusion.updatedAt
  { sourceEventId := sourceEventId
      ["condition_fusion", tradeDate, fusion.code,
        if fusion.latestEventId = "" then hitAt else fusion.latestEventId,
        String.intercalate "," (fusion.activeRoles.map ConditionRole.value)]
    tradeDate := tradeDate
    code := fusion.code
    name := if fusion.name = "" then fusion.code else fusion.name
    sourceType := fusionSourceType fusion.activeRoles fusion.riskBlocked
    sourceId := "condition_fusion:" ++ fusion.code
    action := "OBSERVE"
    eventTs := hitAt
    observedAt := fusion.updatedAt
    payload :=
      { riskBlocked := fusion.riskBlocked
        candidatePromotionAllowed := .bool fusion.candidatePromotionAllowed
        discoveryPromotionPending := .bool fusion.discoveryPromotionPending } }

def signalSourceEventId (tradeDate : String) (row : ConditionSignal) : String :=
  sourceEventId ["condition", tradeDate, row.eventId]

variable (host : Host) (settings : CandidateSettings)

/-- The source event of a plain signal, unless its action is not one of the configured two. -/
def conditionRowToSourceEvent (tradeDate : String)
    (row : ConditionSignal) : Option CandidateSourceEvent :=
  let event (sourceType : CandidateSourceType) : CandidateSourceEvent :=
    { sourceEventId := signalSourceEventId tradeDate row
      tradeDate := tradeDate
      code := row.code
      name := row.name
      sourceType := sourceType
      sourceId := row.conditionId
      action := row.action.value
      eventTs := row.eventTs
      observedAt := row.receivedAt
      payload :=
        { riskBlocked := false
          candidatePromotionAllowed := (row.metadata host).get "candidate_promotion_allowed"
          discoveryPromotionPending := (row.metadata host).get "discovery_promotion_pending" } }
  if row.action.value = settings.candidateConditionActionEnter then some (event .conditionEnter)
  else if row.action.value = settings.candidateConditionActionExit then
    some (event .conditionExit)
  else none

def plainSignals (tables : CandidateTables)
    (tradeDate : String) : List ConditionSignal :=
  (signalsOfDate settings.tradeDateOf tables.signals tradeDate).filter fun row =>
    !isProfileConditionMetadata (row.metadata host)

/-! ## Rebuilding the candidates -/

/-- What a rebuild takes from outside: the clock, the themes as the source events they become, and
the readings of its refreshes. -/
structure RebuildReadings where
  now : Instant
  themeSources : List CandidateSourceEvent
  themesOnly : ∀ event ∈ themeSources, event.sourceType.isTheme = true
  sources : String → SourceReadings
  refreshes : CandidateInstanceId → Nat → RefreshReadings

def rebuildConditionFusion (tables : CandidateTables) (tradeDate : String) (now : Instant) :
    Checked CandidateTables := do
  let fusions ← conditionFusions host settings.tradeDateOf tables.signals tradeDate now
  return { tables with fusions := fusions.foldl Table.upsert tables.fusions }

/-- The fusion of one code is rebuilt when a signal of it is projected. -/
def rebuildConditionFusionForCode
    (tables : CandidateTables) (code tradeDate : String) (now : Instant) :
    Checked CandidateTables := do
  let rows := (signalsOfDate settings.tradeDateOf tables.signals tradeDate).filter fun row =>
    row.code = code
  let events ← profileEvents host rows
  let fusions ← fuseCode tradeDate events now code
  return { tables with fusions := fusions.foldl Table.upsert tables.fusions }

def fusionSources (tradeDate : String) : List CandidateSourceEvent :=
  ((listConditionFusion tables.fusions tradeDate 500).filter fun fusion =>
    fusion.activeRoles ≠ []).map fun fusion => fusionRowToSourceEvent fusion tradeDate

def ingestConditionSources
    (tables : CandidateTables) (tradeDate : String) (readings : RebuildReadings) :
    Checked CandidateTables := do
  let fused ← rebuildConditionFusion host settings tables tradeDate readings.now
  let withFusions := (fusionSources fused tradeDate).foldl
    (applySourceEvent settings readings.sources) fused
  return ((plainSignals host settings fused tradeDate).filterMap
    (conditionRowToSourceEvent host settings tradeDate)).foldl
      (applySourceEvent settings readings.sources) withFusions

/-- A second refresh follows the first one if it moved the candidate and left it fresh. -/
def refreshTwice (readings : CandidateInstanceId → Nat → RefreshReadings) (tables : CandidateTables)
    (candidateInstanceId : CandidateInstanceId) : CandidateTables :=
  let (first, once) :=
    refreshCandidateContext settings tables candidateInstanceId (readings candidateInstanceId 0)
  if first.transitionCount = 0 ∨ first.staleCount ≠ 0 ∨ first.closedCount ≠ 0 ∨
      first.errorCount ≠ 0 then once
  else
    (refreshCandidateContext settings once candidateInstanceId
      (readings candidateInstanceId 1)).2

def CandidateTables.listActiveCandidates (tradeDate : String) :
    List CandidateInstanceId :=
  ((tables.candidates.rows.filter fun row =>
    row.candidateInstanceId.tradeDate = tradeDate && row.isOpen).insertionSort
      fun left right =>
        left.lastSeenAt < right.lastSeenAt ∨
          left.lastSeenAt = right.lastSeenAt ∧
            left.candidateInstanceId.text ≤ right.candidateInstanceId.text).map
    CandidateRow.candidateInstanceId

/-- The conditions are taken in first, then the themes. -/
def ingestSources (tables : CandidateTables)
    (tradeDate : String) (readings : RebuildReadings) : Checked CandidateTables := do
  let ingested ← ingestConditionSources host settings tables tradeDate readings
  return readings.themeSources.foldl (applySourceEvent settings readings.sources) ingested

def rebuildCandidates (tables : CandidateTables)
    (tradeDate : String) (readings : RebuildReadings) : Checked CandidateTables := do
  if !settings.candidateFsmEnabled then return tables
  else
    let ingested ← ingestSources host settings tables tradeDate readings
    return (ingested.listActiveCandidates tradeDate).foldl
      (refreshTwice settings readings.refreshes) ingested

/-! ## Runs -/

structure OtherSource where
  event : CandidateSourceEvent
  notCondition : event.sourceType.isCondition = false
  notExit : event.sourceType ≠ .conditionExit

inductive CandidateOp where
  | signal (row : ConditionSignal)
  | source (other : OtherSource) (now : String)
  | refresh (candidateInstanceId : CandidateInstanceId) (readings : RefreshReadings)
  | fuseCode (code tradeDate : String) (now : Instant)
  | rebuild (tradeDate : String) (readings : RebuildReadings)

/-- A call that raises leaves the tables as they are. -/
def CandidateTables.next (tables : CandidateTables) :
    CandidateOp → CandidateTables
  | .signal row =>
      { tables with signals := (tables.signals.insert? row).getD tables.signals }
  | .source other now => mergeSourceEvent settings tables other.event now
  | .refresh candidateInstanceId readings =>
      (refreshCandidateContext settings tables candidateInstanceId readings).2
  | .fuseCode code tradeDate now =>
      match rebuildConditionFusionForCode host settings tables code tradeDate now with
      | .ok fused => fused
      | .error _ => tables
  | .rebuild tradeDate readings =>
      match rebuildCandidates host settings tables tradeDate readings with
      | .ok rebuilt => rebuilt
      | .error _ => tables

def candidateSystem :
    System CandidateTables CandidateOp Unit where
  step tables op := (tables.next host settings op, ())

end SuseokTrader
