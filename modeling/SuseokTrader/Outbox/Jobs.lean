import SuseokTrader.Broker.Envelopes
import SuseokTrader.Outbox.EventResults

/-!
# The projection outbox

Every gateway event that a projection reads leaves a job for it. Workers claim
pending jobs, and mark a claimed job when they are done with it; the inline
projection retires pending jobs, and a reset gives up claims that are stale.

Marking and retiring read the job in one statement and write it in a later
one, so each of them is two functions here.
-/

namespace SuseokTrader

/-! ## Tables -/

inductive OutboxStatus where
  | pending
  | processing
  | applied
  | skipped
  | error
  | deadLetter
deriving DecidableEq

namespace OutboxStatus

def value : OutboxStatus → String
  | pending => "PENDING"
  | processing => "PROCESSING"
  | applied => "APPLIED"
  | skipped => "SKIPPED"
  | error => "ERROR"
  | deadLetter => "DEAD_LETTER"

def isTerminal : OutboxStatus → Bool
  | pending | processing => false
  | applied | skipped | error | deadLetter => true

end OutboxStatus

structure ProjectionJob where
  outboxId : String
  projectionName : String
  eventId : String
  eventType : String
  eventRowid : Option Int
  source : String
  status : OutboxStatus
  priority : Int
  attempts : Int
  lastError : Option String
  availableAt : Option String
  lockedBy : Option String
  lockedAt : Option String
  createdAt : String
  updatedAt : String
  processedAt : Option String
  metadataJson : String

instance : Keyed ProjectionJob String := ⟨ProjectionJob.outboxId⟩

structure RoutingDecision where
  eventId : String
  effectiveSkipInline : Int

structure OutboxTables where
  jobs : Table ProjectionJob
  ledger : ResultLedger
  routingDecisions : List RoutingDecision

/-! ## Jobs of an event -/

structure ProjectionJobSpec where
  projectionName : String
  priority : Int
  metadata : Payload

def jobSpec (projectionName : String) : ProjectionJobSpec where
  projectionName := projectionName
  priority := 0
  metadata := []

variable (eventType : String)

def directEventProjections : Option (List String) :=
  if eventType = "price_tick" then some ["market_data"]
  else if eventType = "condition_event" then some ["market_data", "condition_fusion"]
  else if eventType = "tr_response" then some ["market_data"]
  else if eventType = "market_symbols" then some ["market_reference"]
  else if eventType = "market_index_tick" then some ["market_index", "market_regime"]
  else none

def excludedEventTypes : List String :=
  ["heartbeat", "gateway_log", "command_started", "command_ack", "command_failed",
    "rate_limited", "order_pre_ack", "execution_event", "kiwoom_order_chejan",
    "kiwoom_balance_chejan", "kiwoom_special_chejan"]

def normalizeEventType : String :=
  Text.lower (Text.strip eventType)

def startsWith (s start : String) : Bool :=
  start.toList.isPrefixOf s.toList

def isScanEventType : Bool :=
  eventType = "market_scan" || startsWith eventType "market_scan_"

def projectionJobsForGatewayEvent : List ProjectionJobSpec :=
  let normalized := normalizeEventType eventType
  if normalized ∈ excludedEventTypes then []
  else
    let projections := (directEventProjections normalized).or
      (if isScanEventType normalized then some ["market_scan"] else none)
    (projections.getD []).map jobSpec

variable (host : Host)

def fieldText (payload : Payload) (field : String) : String :=
  Text.lower (Text.strip (Json.textOrEmpty host (payload.get field)))

variable (event : GatewayEvent)

def isScanRelatedTrResponse : Bool :=
  normalizeEventType event.eventType = "tr_response" &&
    (startsWith (fieldText host event.payload "request_id") "market_scan:" ||
      startsWith (fieldText host event.payload "request_name") "market_scan_" ||
      (match (event.payload.get "metadata").asObject with
        | some metadata => Json.textOrEmpty host (Json.get metadata "source") = "market_scan"
        | none => false))

def firstTruthyText (first second : Json) : String :=
  if first.truthy then Json.text host first else Json.textOrEmpty host second

def isMarketIndexBootstrapTrResponse : Bool :=
  normalizeEventType event.eventType = "tr_response" &&
    startsWith (fieldText host event.payload "request_id") "market_index_tr_bootstrap:" &&
    (match (event.payload.get "metadata").asObject with
      | some metadata =>
          Text.upper (Text.strip (firstTruthyText host (Json.get metadata "projection_source")
              (Json.get metadata "source"))) = "KIWOOM_TR_BOOTSTRAP_MARKET_INDEX" &&
            fieldText host metadata "tr_bootstrap_contract_version" = "v1"
      | none => false)

def appendProjectionJob (specs : List ProjectionJobSpec) (projectionName : String) :
    List ProjectionJobSpec :=
  if specs.any fun spec => spec.projectionName = projectionName then specs
  else specs ++ [jobSpec projectionName]

def projectionJobsForEvent : List ProjectionJobSpec :=
  let specs := projectionJobsForGatewayEvent event.eventType
  let specs :=
    if isScanRelatedTrResponse host event then appendProjectionJob specs "market_scan"
    else specs
  if isMarketIndexBootstrapTrResponse host event then
    appendProjectionJob (appendProjectionJob specs "market_index") "market_regime"
  else specs

/-! ## Enqueueing -/

def outboxId (projectionName eventId : String) : String :=
  projectionName ++ ":" ++ eventId

def optionalJson : Option String → Json
  | none => .null
  | some text => .str text

def setFields (fields updates : Payload) : Payload :=
  updates.foldl (fun fields (key, value) => Json.setField key value fields) fields

def jobMetadata (spec : ProjectionJobSpec) : Payload :=
  setFields spec.metadata
    [("shadow_mode", .bool true), ("worker_enabled", .bool false),
      ("source_event_id", .str event.eventId),
      ("source_event_type", .str (normalizeEventType event.eventType)),
      ("source_command_id", optionalJson event.commandId),
      ("source_idempotency_key", optionalJson event.idempotencyKey)]

/-- The job an event leaves for a projection. -/
def pendingJob (eventRowid : Option Int) (now : String)
    (spec : ProjectionJobSpec) : ProjectionJob where
  outboxId := outboxId spec.projectionName event.eventId
  projectionName := spec.projectionName
  eventId := event.eventId
  eventType := normalizeEventType event.eventType
  eventRowid := eventRowid
  source := event.source
  status := .pending
  priority := spec.priority
  attempts := 0
  lastError := none
  availableAt := some now
  lockedBy := none
  lockedAt := none
  createdAt := now
  updatedAt := now
  processedAt := none
  metadataJson := canonicalJson (jobMetadata event spec)

def ProjectionJob.isFor (projectionName eventId : String) (job : ProjectionJob) : Bool :=
  job.projectionName = projectionName && job.eventId = eventId

variable (jobs : Table ProjectionJob)

/-- A job is inserted unless there is one for the same projection and event. A job identifier that
another projection or event has taken fails the statement. -/
def insertJob (job : ProjectionJob) :
    Option (Table ProjectionJob × Bool) :=
  if jobs.rows.any (ProjectionJob.isFor job.projectionName job.eventId) then some (jobs, false)
  else (jobs.insert? job).map fun inserted => (inserted, true)

structure EnqueuedJob where
  outboxId : String
  projectionName : String
  created : Bool

structure ProjectionOutboxEnqueueResult where
  status : String
  eventId : String
  eventType : String
  jobCount : Nat
  createdCount : Nat
  duplicateCount : Nat
  jobs : List EnqueuedJob

/-- The jobs inserted one after the other, and what came of each. -/
def insertJobs (jobs : Table ProjectionJob) :
    List ProjectionJob → Option (Table ProjectionJob × List EnqueuedJob)
  | [] => some (jobs, [])
  | job :: rest => do
      let (inserted, created) ← insertJob jobs job
      let (final, enqueued) ← insertJobs inserted rest
      return (final,
        { outboxId := job.outboxId, projectionName := job.projectionName, created := created } ::
          enqueued)

def lookupGatewayEventRowid (events : Table EventPosition) (eventId : String) : Option Int :=
  (events.find? eventId).map EventPosition.eventRowid

variable (tables : OutboxTables)

def enqueueProjectionJobsForGatewayEvent
    (event : GatewayEvent) (eventRowid : Option Int) (now : Instant) :
    Option (ProjectionOutboxEnqueueResult × OutboxTables) :=
  let eventType := normalizeEventType event.eventType
  let specs := projectionJobsForEvent host event
  if specs = [] then
    some ({ status := "NOOP", eventId := event.eventId, eventType := eventType, jobCount := 0,
            createdCount := 0, duplicateCount := 0, jobs := [] }, tables)
  else do
    let resolvedEventRowid :=
      eventRowid.or (lookupGatewayEventRowid tables.ledger.events event.eventId)
    let (jobs, enqueued) ← insertJobs tables.jobs
      (specs.map (pendingJob event resolvedEventRowid (datetimeToWire now)))
    let createdCount := enqueued.countP EnqueuedJob.created
    return ({ status := if createdCount = 0 then "DUPLICATE" else "ENQUEUED"
              eventId := event.eventId
              eventType := eventType
              jobCount := specs.length
              createdCount := createdCount
              duplicateCount := enqueued.length - createdCount
              jobs := enqueued },
      { tables with jobs := jobs })

/-! ## Claiming -/

def julianday (time : String) : Option Nat :=
  (Time.fromIsoformat time).map fun instant => (instant + 500) / 1000

def notAfter (time limit : String) : Bool :=
  match julianday time, julianday limit with
  | some time, some limit => time ≤ limit
  | _, _ => false

def isClaimable (now minCreatedAt : String) (job : ProjectionJob) : Bool :=
  job.status = .pending && (job.availableAt.all fun availableAt => notAfter availableAt now) &&
    notAfter job.createdAt minCreatedAt

def readsProjections (projectionName : String) : Bool :=
  projectionName ∈ ["condition_fusion", "market_regime", "market_scan"]

def claimOrder (left right : ProjectionJob) : Ordering :=
  (compare right.priority left.priority).then
    ((compare left.eventRowid right.eventRowid).then
      ((compare (readsProjections left.projectionName).toNat
          (readsProjections right.projectionName).toNat).then
        ((compare left.createdAt right.createdAt).then (compare left.outboxId right.outboxId))))

def claimJob (ownerId now : String) (job : ProjectionJob) : ProjectionJob :=
  { job with status := .processing, lockedBy := some ownerId, lockedAt := some now,
             updatedAt := now }

theorem key_claimJob (ownerId now : String) (job : ProjectionJob) :
    Keyed.key (claimJob ownerId now job) = Keyed.key job :=
  rfl

/-- One candidate claimed, where it still may be. -/
def claimCandidate (ownerId now minCreatedAt : String)
    (state : Table ProjectionJob × List ProjectionJob) (candidate : ProjectionJob) :
    Table ProjectionJob × List ProjectionJob :=
  match state.1.find? candidate.outboxId with
  | none => state
  | some job =>
      if isClaimable now minCreatedAt job then
        (state.1.update candidate.outboxId (claimJob ownerId now) (key_claimJob _ _),
          state.2 ++ [claimJob ownerId now job])
      else state

def normalizedProjection : Option String → Checked (Option String)
  | none => .ok none
  | some projectionName => do
      let projectionName ← requireNonEmpty projectionName "projection_name"
      return some (Text.lower projectionName)

/-- The pending jobs a claim goes through, in its order. -/
def claimCandidates (now minCreatedAt : String)
    (projectionName : Option String) (limit : Nat) : List ProjectionJob :=
  ((jobs.rows.filter fun job => isClaimable now minCreatedAt job &&
      projectionName.all fun projectionName => job.projectionName = projectionName).insertionSort
    fun left right => (claimOrder left right).isLE).take limit

/-- The claimed jobs and the table after the claim. `minAge` is in microseconds. -/
def claimProjectionOutboxJobs (ownerId : String) (limit : Int)
    (minAge : Nat) (projectionName : Option String) (now : Instant) :
    Checked (List ProjectionJob × Table ProjectionJob) := do
  let ownerId ← requireNonEmpty ownerId "owner_id"
  let projectionName ← normalizedProjection projectionName
  let time := datetimeToWire now
  let minCreatedAt := datetimeToWire (now - minAge)
  let candidates := claimCandidates jobs time minCreatedAt projectionName
    (min (max limit 1) 500).toNat
  let (claimedTable, claimed) := candidates.foldl (claimCandidate ownerId time minCreatedAt)
    (jobs, [])
  return (claimed, claimedTable)

/-! ## Metadata -/

def loadsJsonObject (text : String) : Payload :=
  ((Json.loads host.floatRepr text).bind Json.asObject).getD []

def workerHistory (metadata : Payload) : List Json :=
  match Json.get metadata "worker_history" with
  | .arr history => history
  | _ => []

def mergeMetadataJson (metadataJson : String) (status : OutboxStatus)
    (evidence : Payload) (markedAt : String) (errorMessage : Option String) : String :=
  let metadata := loadsJsonObject host metadataJson
  let reported : Payload := match errorMessage with
    | some errorMessage => [("error_message", .str errorMessage)]
    | none => []
  let entry : Payload :=
    [("status", .str status.value), ("marked_at", .str markedAt), ("evidence", .obj evidence)] ++
      reported
  let history := workerHistory metadata ++ [.obj entry]
  canonicalJson (setFields metadata
    ([("worker_history", .arr (history.drop (history.length - 20))),
      ("last_worker_status", .str status.value), ("last_worker_evidence", .obj evidence)] ++
      reported.map fun (_, message) => ("last_worker_error", message)))

/-! ## Marking -/

inductive Mark where
  | applied (evidence : Payload)
  | skipped (reason : String) (evidence : Payload)
  | error (errorMessage : String) (retryLimit : Int) (evidence : Payload)
  | retryableError (errorMessage : String) (retryLimit : Int) (evidence : Payload)

def Mark.Stated : Mark → Prop
  | .applied _ => True
  | .skipped reason _ => Stripped reason
  | .error errorMessage _ _ => Stripped errorMessage
  | .retryableError errorMessage _ _ => Stripped errorMessage

/-- The mark with its texts stripped; a blank one is refused. -/
def Mark.normalize : Mark → Checked {mark : Mark // mark.Stated}
  | .applied evidence => .ok ⟨.applied evidence, trivial⟩
  | .skipped reason evidence => do
      let reason ← strippedText reason "reason"
      return ⟨.skipped reason.val evidence, Stripped.of_val reason⟩
  | .error errorMessage retryLimit evidence => do
      let errorMessage ← strippedText errorMessage "error_message"
      return ⟨.error errorMessage.val retryLimit evidence, Stripped.of_val errorMessage⟩
  | .retryableError errorMessage retryLimit evidence => do
      let errorMessage ← strippedText errorMessage "error_message"
      return ⟨.retryableError errorMessage.val retryLimit evidence, Stripped.of_val errorMessage⟩

def lockedJob (outboxId ownerId : String) : Option ProjectionJob :=
  (jobs.find? outboxId).filter fun job => job.lockedBy = some ownerId

def updateLocked (outboxId ownerId : String)
    (change : ProjectionJob → ProjectionJob)
    (keeps : ∀ job, (change job).outboxId = job.outboxId) : Table ProjectionJob :=
  jobs.updateWhere (fun job => job.outboxId = outboxId && job.lockedBy = some ownerId) change
    keeps

def statusAfterError (attempts retryLimit : Int) (otherwise : OutboxStatus) : OutboxStatus :=
  if attempts + 1 ≥ retryLimit then .deadLetter else otherwise

variable (row : ProjectionJob)

/-- The result that a mark reports for the job it read, if it reports one. -/
def Mark.report : Mark → Option ResultReport
  | .applied _ =>
      some
        { projectionName := row.projectionName, eventId := row.eventId, status := .success
          outcome := "OUTBOX_APPLIED", eventRowid := row.eventRowid
          eventType := some row.eventType, eventReceivedAt := none, errorMessage := none }
  | .skipped _ _ => none
  | .error errorMessage retryLimit _ =>
      some
        { projectionName := row.projectionName, eventId := row.eventId, status := .error
          outcome := (statusAfterError row.attempts retryLimit .error).value
          eventRowid := row.eventRowid, eventType := some row.eventType, eventReceivedAt := none
          errorMessage := some errorMessage }
  | .retryableError errorMessage retryLimit _ =>
      some
        { projectionName := row.projectionName, eventId := row.eventId, status := .error
          outcome :=
            if statusAfterError row.attempts retryLimit .pending = .deadLetter then "DEAD_LETTER"
            else "RETRY_PENDING"
          eventRowid := row.eventRowid, eventType := some row.eventType, eventReceivedAt := none
          errorMessage := some errorMessage }

def markTerminalJob (status : OutboxStatus)
    (evidence : Payload) (now : String) (job : ProjectionJob) : ProjectionJob :=
  { job with
    status := status
    lockedBy := none
    lockedAt := none
    updatedAt := now
    processedAt := some now
    lastError := none
    metadataJson := mergeMetadataJson host row.metadataJson status evidence now none }

def markErrorJob (errorMessage : String) (retryLimit : Int)
    (evidence : Payload) (now : String) (job : ProjectionJob) : ProjectionJob :=
  let status := statusAfterError row.attempts retryLimit .error
  { job with
    status := status
    attempts := row.attempts + 1
    lastError := some errorMessage
    lockedBy := none
    lockedAt := none
    updatedAt := now
    processedAt := if status = .deadLetter then some now else job.processedAt
    metadataJson :=
      mergeMetadataJson host row.metadataJson status evidence now (some errorMessage) }

def markRetryableErrorJob (errorMessage : String)
    (retryLimit : Int) (evidence : Payload) (now : String) (job : ProjectionJob) :
    ProjectionJob :=
  let status := statusAfterError row.attempts retryLimit .pending
  { job with
    status := status
    attempts := row.attempts + 1
    lastError := some errorMessage
    availableAt := some now
    lockedBy := none
    lockedAt := none
    updatedAt := now
    processedAt := if status = .deadLetter then some now else none
    metadataJson :=
      mergeMetadataJson host row.metadataJson status evidence now (some errorMessage) }

/-- The job after the mark, from the row the mark read. -/
def Mark.change (now : String) :
    Mark → ProjectionJob → ProjectionJob
  | .applied evidence => markTerminalJob host row .applied evidence now
  | .skipped reason evidence =>
      markTerminalJob host row .skipped (Json.setField "reason" (.str reason) evidence) now
  | .error errorMessage retryLimit evidence =>
      markErrorJob host row errorMessage retryLimit evidence now
  | .retryableError errorMessage retryLimit evidence =>
      markRetryableErrorJob host row errorMessage retryLimit evidence now

theorem outboxId_markChange (now : String) (mark : Mark)
    (job : ProjectionJob) : (mark.change host row now job).outboxId = job.outboxId := by
  cases mark <;> rfl

structure PendingMark where
  outboxId : String
  mark : Mark
  row : ProjectionJob
  now : Instant
  stated : mark.Stated

theorem Mark.stated_of_val (mark : {mark : Mark // mark.Stated}) : mark.val.Stated :=
  mark.property

/-- The first half of a mark call: nothing is left to do where the owner holds no lock. -/
def beginMark (jobs : Table ProjectionJob) (outboxId ownerId : String) (mark : Mark)
    (now : Instant) : Checked (Option PendingMark) := do
  let outboxId ← requireNonEmpty outboxId "outbox_id"
  let ownerId ← requireNonEmpty ownerId "owner_id"
  let mark ← mark.normalize
  return (lockedJob jobs outboxId ownerId).map fun row =>
    { outboxId := outboxId, mark := mark.val, row := row, now := now,
      stated := Mark.stated_of_val mark }

def recordMark (ledger : ResultLedger) (report : Option ResultReport) (now : Instant) :
    Checked ResultLedger :=
  match report with
  | some report => recordProjectionEventResult ledger report now
  | none => .ok ledger

/-- The write transaction of a mark call. -/
def finishMark (ownerId : String) (pending : PendingMark)
    (now : Instant) : Checked OutboxTables := do
  let ledger ← recordMark tables.ledger (pending.mark.report pending.row) now
  return { tables with
    ledger := ledger
    jobs := updateLocked tables.jobs pending.outboxId ownerId
      (pending.mark.change host pending.row (datetimeToWire pending.now))
      (outboxId_markChange host _ _ _) }

/-! ## Resetting and retiring -/

def isStaleProcessing (cutoff : String) (job : ProjectionJob) : Bool :=
  job.status = .processing && job.lockedAt.any fun lockedAt => notAfter lockedAt cutoff

def resetJob (now : String) (job : ProjectionJob) : ProjectionJob :=
  { job with status := .pending, lockedBy := none, lockedAt := none, updatedAt := now }

theorem key_resetJob (now : String) (job : ProjectionJob) :
    Keyed.key (resetJob now job) = Keyed.key job :=
  rfl

def resetStaleProjectionOutboxProcessing (staleSec : Int)
    (now : Instant) : Table ProjectionJob :=
  let cutoff := datetimeToWire (now - (max staleSec 0).toNat * Time.microsPerSecond)
  jobs.updateWhere (isStaleProcessing cutoff) (resetJob (datetimeToWire now))
    (key_resetJob _)

structure PendingRetire where
  eventId : String
  status : OutboxStatus
  terminal : status = .applied ∨ status = .skipped
  row : ProjectionJob
  evidence : Payload
  now : Instant

/-- The terminal status an inline projection may leave. -/
def retiredStatus (terminalStatus : String) :
    Checked {status : OutboxStatus // status = .applied ∨ status = .skipped} := do
  let terminalStatus ← requireNonEmpty terminalStatus "terminal_status"
  if Text.upper terminalStatus = "APPLIED" then return ⟨.applied, Or.inl rfl⟩
  else if Text.upper terminalStatus = "SKIPPED" then return ⟨.skipped, Or.inr rfl⟩
  else Checked.invalid "terminal_status must be APPLIED or SKIPPED"

def beginRetire (jobs : Table ProjectionJob) (eventId projectionName terminalStatus : String)
    (evidence : Payload) (now : Instant) : Checked (Option PendingRetire) := do
  let eventId ← requireNonEmpty eventId "event_id"
  let projectionName ← requireNonEmpty projectionName "projection_name"
  let status ← retiredStatus terminalStatus
  let pendingRow := jobs.rows.find? fun job =>
    job.isFor (Text.lower projectionName) eventId && job.status = .pending
  return pendingRow.map fun row =>
    { eventId := eventId, status := status.val, terminal := status.property, row := row,
      evidence := evidence, now := now }

variable (pending : PendingRetire)

def retireJob (job : ProjectionJob) : ProjectionJob :=
  let retiredAt := datetimeToWire pending.now
  let evidence := setFields
    [("source", .str "gateway_batch_inline_projection"),
      ("inline_projection_terminal", .bool true), ("no_trading_side_effects", .bool true)]
    pending.evidence
  { job with
    status := pending.status
    updatedAt := retiredAt
    processedAt := some retiredAt
    lockedBy := none
    lockedAt := none
    lastError := none
    metadataJson :=
      mergeMetadataJson host pending.row.metadataJson pending.status evidence retiredAt none }

theorem key_retireJob (job : ProjectionJob) :
    Keyed.key (retireJob host pending job) = Keyed.key job :=
  rfl

/-- The write of a retirement: a routing decision that skips the inline projection stops it. -/
def finishRetire :
    OutboxTables :=
  let skipsInline := tables.routingDecisions.any fun decision =>
    decision.eventId = pending.eventId && decision.effectiveSkipInline = 1
  { tables with
    jobs := tables.jobs.updateWhere
      (fun job => job.outboxId = pending.row.outboxId && job.status = .pending && !skipsInline)
      (retireJob host pending) (key_retireJob host pending) }

end SuseokTrader
