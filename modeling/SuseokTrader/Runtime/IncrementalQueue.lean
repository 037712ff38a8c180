import SuseokTrader.Broker.Utils
import SuseokTrader.Candidate.Fsm
import SuseokTrader.Lib.Run
import SuseokTrader.Lib.Table

/-!
# The incremental evaluation queue

A price tick puts the open candidates of its code in a queue, one row each. A
batch takes rows by their priority and then by the time they were last stamped,
evaluates their candidates, and takes the rows out again; a row whose
evaluation fails is stamped anew, and after its last attempt goes to the dead
letters. A candidate with an unresolved dead letter is not queued again.

The backfill queues the candidates whose tick is fresh and newer than their
last evaluation.
-/

namespace SuseokTrader

structure EvaluationSettings where
  incrementalEvaluationEnabled : Bool
  incrementalEvaluationRetryLimit : Int
  entryTimingStaleMaxSeconds : Int

/-- The columns of a `candidates` row that the queue reads. -/
structure EvaluatedCandidate where
  candidateInstanceId : String
  tradeDate : String
  code : String
  state : CandidateState
  lastSeenAt : String

/-- The KRX row of `market_ticks_latest` of a code. -/
structure KrxTick where
  eventTs : String
  eventId : String

structure EvaluationQueueRow where
  candidateInstanceId : String
  tradeDate : String
  code : String
  reason : String
  sourceEventId : Option String
  priority : Int
  enqueuedAt : String
  updatedAt : String
  attempts : Int
  lastError : Option String
deriving DecidableEq

instance : Keyed EvaluationQueueRow String := ⟨EvaluationQueueRow.candidateInstanceId⟩

inductive DeadLetterBucket where
  | activeUnresolved
  | historicalPendingDisposition
  | historicalDisposed
  | manualReview
  | recoveryPending
  | recoveryVerified
  | invalidDisposition
deriving DecidableEq

/-- `BLOCKING_BUCKETS` -/
def DeadLetterBucket.isBlocking : DeadLetterBucket → Bool
  | historicalDisposed | recoveryVerified => false
  | _ => true

structure EvaluationDeadLetter where
  candidateInstanceId : String
  bucket : DeadLetterBucket

/-- The tables that the queue is fed from, and the queue. The last ticks and the times of the last
evaluations are read by their primary keys. -/
structure EvaluationTables where
  candidates : List EvaluatedCandidate
  krxTick : String → Option KrxTick
  strategyEvaluatedAt : String → Option String
  riskEvaluatedAt : String → Option String
  deadLetters : List EvaluationDeadLetter
  queue : Table EvaluationQueueRow

namespace EvaluationTables

/-! ## Dead letters -/

variable (tables : EvaluationTables)

variable (candidateId : String)

def blockers : List DeadLetterBucket :=
  (tables.deadLetters.filter fun letter =>
    letter.candidateInstanceId = candidateId && letter.bucket.isBlocking).map (·.bucket)

/-- `is_incremental_evaluation_candidate_blocked_by_dead_letter` -/
def isBlocked : Bool :=
  tables.blockers candidateId ≠ []

/-- `can_append_incremental_evaluation_dead_letter_generation` -/
def canAppendGeneration : Bool :=
  (tables.blockers candidateId).all fun bucket => bucket = .recoveryPending

def deleteQueueRow : EvaluationTables :=
  { tables with queue := tables.queue.deleteWhere fun row => row.candidateInstanceId = candidateId }

def upsertQueueRow (row : EvaluationQueueRow) : EvaluationTables :=
  { tables with queue := tables.queue.upsert row }

def moveQueueRowToDeadLetter :
    Checked EvaluationTables :=
  if tables.canAppendGeneration candidateId then
    .ok { tables.deleteQueueRow candidateId with
      deadLetters := ⟨candidateId, .activeUnresolved⟩ :: tables.deadLetters }
  else
    .error (.crash
      "incremental evaluation candidate already has an unresolved dead-letter generation")

def isExhausted (settings : EvaluationSettings) (tables : EvaluationTables)
    (candidateId : String) : Bool :=
  (tables.queue.find? candidateId).any fun row =>
    max settings.incrementalEvaluationRetryLimit 1 ≤ row.attempts

/-! ## Putting candidates in -/

/-- The row that the upsert leaves: a row that was there keeps the time it was put in and its
attempts, and gets no lower priority. -/
def queuedRow (candidate : EvaluatedCandidate) (reason : String)
    (sourceEventId : Option String) (priority : Int) (now : String) : EvaluationQueueRow :=
  match tables.queue.find? candidate.candidateInstanceId with
  | none =>
      { candidateInstanceId := candidate.candidateInstanceId
        tradeDate := candidate.tradeDate
        code := candidate.code
        reason := reason
        sourceEventId := sourceEventId
        priority := priority
        enqueuedAt := now
        updatedAt := now
        attempts := 0
        lastError := none }
  | some stored =>
      { stored with
        candidateInstanceId := candidate.candidateInstanceId
        tradeDate := candidate.tradeDate
        code := candidate.code
        reason := reason
        sourceEventId := sourceEventId
        priority := max priority stored.priority
        updatedAt := now
        lastError := none }

/-- One turn of the loop over the candidates of a code, and whether it queued the candidate. -/
def enqueueCandidate (settings : EvaluationSettings) (tables : EvaluationTables)
    (candidate : EvaluatedCandidate) (reason : String) (sourceEventId : Option String)
    (priority : Int) (now : String) : Checked (EvaluationTables × Bool) := do
  let id := candidate.candidateInstanceId
  let tables ←
    if tables.isExhausted settings id then tables.moveQueueRowToDeadLetter id else .ok tables
  if tables.isBlocked id then return (tables, false)
  return (tables.upsertQueueRow (tables.queuedRow candidate reason sourceEventId priority now), true)

/-- `_active_candidate_rows_for_code` -/
def activeCandidateRowsForCode (code : String) :
    List EvaluatedCandidate :=
  (tables.candidates.filter fun row => row.code = code && row.state ≠ .closed).insertionSort
    fun left right => right.lastSeenAt < left.lastSeenAt ∨ left.lastSeenAt = right.lastSeenAt ∧
      left.candidateInstanceId ≤ right.candidateInstanceId

end EvaluationTables

structure EvaluationEnqueueResult where
  status : String
  candidateIds : List String := []
  deadLetterBlockedCandidateIds : List String := []

/-- The loop over the candidates of a code: the ones it queues and the ones that are blocked. -/
def enqueueCandidates (settings : EvaluationSettings) (reason : String)
    (sourceEventId : Option String) (priority : Int) (now : String) :
    EvaluationTables → List EvaluatedCandidate →
      Checked (EvaluationTables × List String × List String)
  | tables, [] => .ok (tables, [], [])
  | tables, candidate :: rest => do
      let (tables, queued) ←
        tables.enqueueCandidate settings candidate reason sourceEventId priority now
      let (tables, enqueued, blocked) ←
        enqueueCandidates settings reason sourceEventId priority now tables rest
      return if queued then (tables, candidate.candidateInstanceId :: enqueued, blocked)
        else (tables, enqueued, candidate.candidateInstanceId :: blocked)

def enqueueStatus (enqueued blocked : List String) : String :=
  if blocked = [] then "ENQUEUED"
  else if enqueued = [] then "BLOCKED_DEAD_LETTER"
  else "PARTIAL_ENQUEUED_DEAD_LETTER_BLOCKED"

variable (settings : EvaluationSettings) (tables : EvaluationTables)

def enqueueIncrementalEvaluationForCode
    (code reason : String) (sourceEventId : Option String) (priority : Int) (now : Instant) :
    Checked (EvaluationTables × EvaluationEnqueueResult) :=
  if !settings.incrementalEvaluationEnabled then .ok (tables, { status := "DISABLED" })
  else
    match validateStockCode (.str code) with
    | .error _ => .ok (tables, { status := "IGNORED_INVALID_PAYLOAD" })
    | .ok code =>
        match tables.activeCandidateRowsForCode code with
        | [] => .ok (tables, { status := "IGNORED_NO_ACTIVE_CANDIDATE" })
        | row :: rows => do
            let (tables, enqueued, blocked) ←
              enqueueCandidates settings (Text.upper (Text.strip reason)) sourceEventId priority
                (datetimeToWire now) tables (row :: rows)
            return (tables, ⟨enqueueStatus enqueued blocked, enqueued, blocked⟩)

/-! ## The backfill -/

structure BackfillRow where
  candidate : EvaluatedCandidate
  tick : KrxTick

/-- `CASE c.state`, for the states of `_EVALUATION_BACKFILL_STATES` -/
def backfillRank : CandidateState → Option Nat
  | .contextReady => some 0
  | .watching => some 1
  | .dataWait => some 2
  | .hydrating => some 3
  | _ => none

namespace BackfillRow

def isMissing (row : BackfillRow) : Bool :=
  let isOlder := fun evaluatedAt : Option String => evaluatedAt.all (· < row.tick.eventTs)
  isOlder (tables.strategyEvaluatedAt row.candidate.candidateInstanceId) ||
    isOlder (tables.riskEvaluatedAt row.candidate.candidateInstanceId)

def ranksBefore (left right : BackfillRow) : Bool :=
  let rank := fun row : BackfillRow => (backfillRank row.candidate.state).getD 9
  rank left < rank right || rank left = rank right &&
    (right.tick.eventTs < left.tick.eventTs || left.tick.eventTs = right.tick.eventTs &&
      (right.candidate.lastSeenAt < left.candidate.lastSeenAt ||
        left.candidate.lastSeenAt = right.candidate.lastSeenAt &&
          left.candidate.candidateInstanceId ≤ right.candidate.candidateInstanceId))

def isFresh (now : Instant) (row : BackfillRow) : Bool :=
  match parseTimestamp (.str row.tick.eventTs) "tick_event_ts" with
  | .ok tickTs =>
      (now : Int) - tickTs ≤ max settings.entryTimingStaleMaxSeconds 1 * Time.microsPerSecond
  | .error _ => false

end BackfillRow

variable (tradeDate : Option String)

/-- The candidates that wait for an evaluation, best ranked first. -/
def candidatesMissingEvaluation :
    List BackfillRow :=
  let rows := tables.candidates.filterMap fun candidate =>
    (tables.krxTick candidate.code).map (BackfillRow.mk candidate)
  (rows.filter fun row => (backfillRank row.candidate.state).isSome &&
    tradeDate.all (fun date => date = "" || row.candidate.tradeDate = date) &&
      row.isMissing tables).insertionSort fun left right => left.ranksBefore right

/-- `_bounded_limit` -/
def boundedEvaluationLimit (limit : Int) : Nat :=
  (max (min limit 500) 1).toNat

def freshCandidateRowsMissingEvaluation (limit : Int) (now : Instant) : List BackfillRow :=
  ((candidatesMissingEvaluation tables tradeDate).take (boundedEvaluationLimit limit)).filter
    (BackfillRow.isFresh settings now)

/-- The calls for the codes of the rows, with their results. -/
def enqueueRows (settings : EvaluationSettings) (now : Instant) :
    EvaluationTables → List BackfillRow →
      Checked (EvaluationTables × List EvaluationEnqueueResult)
  | tables, [] => .ok (tables, [])
  | tables, row :: rows => do
      let (tables, result) ← enqueueIncrementalEvaluationForCode settings tables
        row.candidate.code "CANDIDATE_EVALUATION_BACKFILL" (some row.tick.eventId) 85 now
      let (tables, results) ← enqueueRows settings now tables rows
      return (tables, result :: results)

def enqueueIncrementalEvaluationForFreshCandidates (limit : Int) (now : Instant) :
    Checked (EvaluationTables × List EvaluationEnqueueResult) :=
  enqueueRows settings now tables
    (freshCandidateRowsMissingEvaluation settings tables tradeDate limit now)

/-! ## Taking rows out -/

/-- `ORDER BY priority DESC, updated_at ASC, candidate_instance_id ASC` -/
def EvaluationQueueRow.place (row : EvaluationQueueRow) : Int ×ₗ String ×ₗ String :=
  toLex (-row.priority, toLex (row.updatedAt, row.candidateInstanceId))

/-- `_queue_rows` -/
def queueRows (limit : Nat)
    (excluded : List String) : List EvaluationQueueRow :=
  ((tables.queue.rows.filter fun row =>
    row.attempts < settings.incrementalEvaluationRetryLimit &&
      row.candidateInstanceId ∉ excluded).insertionSort
        fun left right => left.place ≤ right.place).take limit

/-- `_mark_queue_error` -/
def markQueueError (candidateId errorMessage : String) (now : Instant) : Checked EvaluationTables :=
  match tables.queue.find? candidateId with
  | none => .ok tables
  | some row =>
      if max settings.incrementalEvaluationRetryLimit 1 ≤ row.attempts + 1 then
        tables.moveQueueRowToDeadLetter candidateId
      else
        .ok (tables.upsertQueueRow { row with
          attempts := row.attempts + 1
          lastError := some (String.ofList ((Text.strip errorMessage).toList.take 500))
          updatedAt := datetimeToWire now })

end SuseokTrader
