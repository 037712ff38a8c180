import SuseokTrader.Lib.Run
import SuseokTrader.LiveSim.Events
import SuseokTrader.Market.Projection
import SuseokTrader.Outbox.Jobs

/-!
# The lifecycle inbox

Every accepted lifecycle event of the gateway leaves a row in the inbox.
Workers claim the earliest row that is not done and apply it; the gateway may
apply its event itself. Claiming, applying, marking a failure and resetting
what got stuck are transactions of their own, and other parties may come in
between any two of them.
-/

namespace SuseokTrader

/-! ## Rows -/

def liveSimLifecycleProjection : String :=
  "live_sim_lifecycle"

def liveSimLifecycleEventTypes : List String :=
  ["command_started", "command_ack", "command_failed", "execution_event", "order_rejected",
    "cancel_ack", "cancel_rejected", "balance_snapshot", "account_snapshot",
    "kiwoom_balance_chejan", "kiwoom_order_chejan"]

def isLiveSimLifecycleEvent (eventType : String) : Bool :=
  normalizeEventType eventType ∈ liveSimLifecycleEventTypes

inductive InboxStatus where
  | pending
  | processing
  | applied
  | deadLetter
deriving DecidableEq

def InboxStatus.text : InboxStatus → String
  | pending => "PENDING"
  | processing => "PROCESSING"
  | applied => "APPLIED"
  | deadLetter => "DEAD_LETTER"

structure InboxRow where
  eventId : String
  eventRowid : Int
  eventType : String
  source : String
  status : InboxStatus
  attempts : Int
  availableAt : String
  lockedBy : Option String
  lockedAt : Option String
  consumerSource : Option String
  result : Option LifecycleReply
  lastError : Option String
  createdAt : String
  updatedAt : String
  processedAt : Option String

instance : Keyed InboxRow String := ⟨InboxRow.eventId⟩

structure LifecycleDecision where
  eventId : String
  eventRowid : Int
  eventType : String
  wouldDeferInline : Bool
  effectiveDeferInline : Bool
  inlineFallback : Bool
  orderedBacklogBlocked : Bool
  reasonCodes : List String
  createdAt : String

instance : Keyed LifecycleDecision String := ⟨LifecycleDecision.eventId⟩

structure LifecycleStore where
  gatewayEvents : Table StoredEvent
  ledger : ResultLedger
  inbox : Table InboxRow
  decisions : Table LifecycleDecision
  liveSim : LiveSimTables
  inboxStartedAt : String

structure LifecycleSettings where
  consumerEnabled : Bool
  workerEnabled : Bool
  retryLimit : Int
  retryDelaySec : Nat
  processingTtlSec : Nat
  requireWorkerHealth : Bool
  maxUnresolvedCount : Nat
  cutoverEnabled : Bool
  globalKillSwitch : Bool
  inlineFallbackEnabled : Bool
  liveSim : LiveSimSettings

variable (store : LifecycleStore)

variable (inbox : Table InboxRow)

def LifecycleStore.setInbox : LifecycleStore :=
  { store with inbox := inbox }

/-! ## Storing and enqueueing -/

def nextEventRowid (events : Table EventPosition) : Int :=
  (events.rows.map EventPosition.eventRowid).foldl max 0 + 1

variable (event : GatewayEvent)

/-- The gateway stores an event once, after all others. -/
def LifecycleStore.storeEvent (accepted : Bool)
    (receivedAt : String) : LifecycleStore :=
  let position : EventPosition := {
    eventId := event.eventId
    eventRowid := nextEventRowid store.ledger.events
    eventType := event.eventType
    receivedAt := receivedAt }
  match store.gatewayEvents.insert? { event := event, accepted := accepted },
      store.ledger.events.insert? position with
  | some gatewayEvents, some events =>
      { store with
        gatewayEvents := gatewayEvents
        ledger := { store.ledger with events := events } }
  | _, _ => store

/-- The row an event is enqueued with. -/
def freshInboxRow (eventRowid : Int) (now : String) : InboxRow where
  eventId := event.eventId
  eventRowid := eventRowid
  eventType := normalizeEventType event.eventType
  source := event.source
  status := .pending
  attempts := 0
  availableAt := now
  lockedBy := none
  lockedAt := none
  consumerSource := none
  result := none
  lastError := none
  createdAt := now
  updatedAt := now
  processedAt := none

def enqueueLiveSimLifecycleEvent (now : Instant) :
    Checked LifecycleStore :=
  if !isLiveSimLifecycleEvent event.eventType then .ok store
  else
    match store.gatewayEvents.find? event.eventId, store.ledger.events.find? event.eventId with
    | some stored, some position =>
        if !stored.accepted then .ok store
        else
          match store.inbox.find? event.eventId with
          | some _ => .ok store
          | none =>
              let row := freshInboxRow event position.eventRowid (datetimeToWire now)
              if store.inbox.rows.any (·.eventRowid = row.eventRowid) then
                .error (.crash "UNIQUE constraint failed: live_sim_lifecycle_inbox.event_rowid")
              else .ok (store.setInbox ((store.inbox.insert? row).getD store.inbox))
    | _, _ =>
        Checked.invalid ("gateway event must be durable before lifecycle enqueue: " ++
          event.eventId)

/-! ## Claiming and resetting -/

variable (row : InboxRow)

def isUnresolved : Bool :=
  row.status ≠ .applied

def earliestUnresolved : Option Int :=
  ((inbox.rows.filter isUnresolved).map InboxRow.eventRowid).min?

def claimedRow (ownerId now : String) (row : InboxRow) : InboxRow :=
  { row with
    status := .processing
    lockedBy := some ownerId
    lockedAt := some now
    updatedAt := now }

theorem key_claimedRow (ownerId now : String) (row : InboxRow) :
    Keyed.key (claimedRow ownerId now row) = Keyed.key row :=
  rfl

def claimNextInboxRow (ownerId : String) (now : Instant) :
    Option (InboxRow × Table InboxRow) :=
  let now := datetimeToWire now
  (inbox.rows.find? fun row =>
    some row.eventRowid = earliestUnresolved inbox && row.status = .pending &&
      notAfter row.availableAt now).map fun row =>
    (row, inbox.update row.eventId (claimedRow ownerId now) (key_claimedRow ownerId now))

/-- The rows that have been in hand for too long, as they are read. -/
def staleProcessingRows (settings : LifecycleSettings) (now : Instant) :
    List (String × Int) :=
  let cutoff := datetimeToWire (now - settings.processingTtlSec * Time.microsPerSecond)
  (inbox.rows.filter fun row =>
    row.status = .processing && row.lockedAt.any fun lockedAt => notAfter lockedAt cutoff).map
      fun row => (row.eventId, row.attempts)

variable (attempts retryLimit : Int)

def statusAfterAttempts : InboxStatus :=
  if retryLimit ≤ attempts then .deadLetter else .pending

def reclaimedRow (now : String) (row : InboxRow) : InboxRow :=
  let status := statusAfterAttempts attempts retryLimit
  { row with
    status := status
    attempts := attempts
    availableAt := now
    lockedBy := none
    lockedAt := none
    lastError := some "STALE_PROCESSING_RECLAIMED"
    updatedAt := now
    processedAt := if status = .deadLetter then some now else none }

theorem key_reclaimedRow (now : String) (row : InboxRow) :
    Keyed.key (reclaimedRow attempts retryLimit now row) = Keyed.key row :=
  rfl

/-- The rows that were read are reset where they are still in hand. -/
def resetStaleRows (inbox : Table InboxRow) (settings : LifecycleSettings) (now : Instant) :
    List (String × Int) → Table InboxRow
  | [] => inbox
  | (eventId, attempts) :: rows =>
      resetStaleRows
        (inbox.updateWhere (fun row => row.eventId = eventId && row.status = .processing)
          (reclaimedRow (attempts + 1) settings.retryLimit (datetimeToWire now))
          (key_reclaimedRow _ _ _))
        settings now rows

def reopenedRow (now : String) (row : InboxRow) : InboxRow :=
  { row with
    status := .pending
    attempts := 0
    availableAt := now
    lockedBy := none
    lockedAt := none
    lastError := none
    processedAt := none
    updatedAt := now }

theorem key_reopenedRow (now : String) (row : InboxRow) :
    Keyed.key (reopenedRow now row) = Keyed.key row :=
  rfl

def resetLiveSimLifecycleDeadLetter (eventId : String) (now : Instant) :
    Table InboxRow :=
  inbox.updateWhere (fun row => row.eventId = Text.strip eventId && row.status = .deadLetter)
    (reopenedRow (datetimeToWire now)) (key_reopenedRow _)

/-! ## Applying -/

def LifecycleReply.handled : LifecycleReply → Bool
  | ignored _ => false
  | order _ | duplicate _ | execution _ _ _ | cancel _ _ | observed _ => true

def appliedRow (consumerSource : String) (reply : LifecycleReply) (now : String) (row : InboxRow) :
    InboxRow :=
  { row with
    status := .applied
    consumerSource := some consumerSource
    result := some reply
    lastError := none
    lockedBy := none
    lockedAt := none
    updatedAt := now
    processedAt := some now }

theorem key_appliedRow (consumerSource : String) (reply : LifecycleReply) (now : String)
    (row : InboxRow) :
    Keyed.key (appliedRow consumerSource reply now row) = Keyed.key row :=
  rfl

structure LifecycleReadings where
  settings : LifecycleSettings
  now : Instant
  ids : FreshIds
  workerHealthy : Bool

inductive ApplyEnd where
  | applied
  | duplicate
  | deadLetter
  | deferred
  | claimLost
  | rowMissing
  | raised (message : String)
deriving DecidableEq

variable (host : Host)

/-- The handler's effects and the row, in one transaction. -/
def handleInTransaction (store : LifecycleStore) (event : GatewayEvent)
    (consumerSource : String) (readings : LifecycleReadings) : Checked LifecycleStore := do
  let (liveSim, reply) ← handleLiveSimGatewayEvent host readings.settings.liveSim store.liveSim
    event readings.ids readings.now
  let ledger ← recordProjectionEventResult store.ledger
    { projectionName := liveSimLifecycleProjection
      eventId := event.eventId
      status := .success
      outcome := if reply.handled then "HANDLED" else "IGNORED"
      eventRowid := none
      eventType := some event.eventType
      eventReceivedAt := none
      errorMessage := none } readings.now
  return { store with
    liveSim := liveSim
    ledger := ledger
    inbox := store.inbox.update event.eventId
      (appliedRow consumerSource reply (datetimeToWire readings.now)) (key_appliedRow _ _ _) }

/-- Whether the row may be applied, by the owner of its claim or by the gateway. -/
def refusesApply (expectedOwner : Option String) : Option ApplyEnd :=
  match row.status with
  | .applied => some .duplicate
  | .deadLetter => some .deadLetter
  | .pending => if expectedOwner.isSome then some .claimLost else none
  | .processing =>
      match expectedOwner with
      | some owner => if row.lockedBy = some owner then none else some .claimLost
      | none => some .deferred

def applyLifecycleEvent (store : LifecycleStore) (event : GatewayEvent)
    (consumerSource : String) (expectedOwner : Option String) (readings : LifecycleReadings) :
    LifecycleStore × ApplyEnd :=
  match store.inbox.find? event.eventId with
  | none => (store, .rowMissing)
  | some row =>
      match refusesApply row expectedOwner with
      | some refusal => (store, refusal)
      | none =>
          match handleInTransaction host store event consumerSource readings with
          | .ok written => (written, .applied)
          | .error failure => (store, .raised failure.text)

/-! ## Failures -/

def failedRow (message : String) (settings : LifecycleSettings) (now : Instant) (row : InboxRow) :
    InboxRow :=
  let status := statusAfterAttempts (row.attempts + 1) settings.retryLimit
  { row with
    status := status
    attempts := row.attempts + 1
    availableAt := datetimeToWire (now + settings.retryDelaySec * Time.microsPerSecond)
    lockedBy := none
    lockedAt := none
    lastError := some message
    updatedAt := datetimeToWire now
    processedAt := if status = .deadLetter then some (datetimeToWire now) else none }

theorem key_failedRow (message : String) (settings : LifecycleSettings) (now : Instant)
    (row : InboxRow) :
    Keyed.key (failedRow message settings now row) = Keyed.key row :=
  rfl

/-- The failure is put on record, whoever holds the row by then. -/
def markLifecycleFailure (eventId message : String)
    (settings : LifecycleSettings) (now : Instant) : Checked LifecycleStore :=
  match store.inbox.find? eventId with
  | none => .ok store
  | some row => do
      let ledger ← recordProjectionEventResult store.ledger
        { projectionName := liveSimLifecycleProjection
          eventId := eventId
          status := .error
          outcome := (statusAfterAttempts (row.attempts + 1) settings.retryLimit).text
          eventRowid := none
          eventType := some row.eventType
          eventReceivedAt := none
          errorMessage := some message } now
      return { store with
        ledger := ledger
        inbox := store.inbox.update eventId (failedRow message settings now)
          (key_failedRow message settings now) }

/-! ## Routing -/

def LifecycleStore.sinceActivation (eventId : String) : Bool :=
  (store.ledger.events.find? eventId).any fun position =>
    notAfter store.inboxStartedAt position.receivedAt

def LifecycleStore.missingFromInbox : List StoredEvent :=
  store.gatewayEvents.rows.filter fun stored =>
    stored.accepted && stored.event.eventType ∈ liveSimLifecycleEventTypes &&
      store.sinceActivation stored.event.eventId && (store.inbox.find? stored.event.eventId).isNone

def LifecycleStore.appliedWithoutResult : List InboxRow :=
  store.inbox.rows.filter fun row => row.status = .applied &&
    (store.ledger.results.find? (liveSimLifecycleProjection, row.eventId)).isNone

def unresolvedRows : List InboxRow :=
  inbox.rows.filter isUnresolved

def oldestUnresolved : Option String :=
  ((unresolvedRows inbox).find? fun row =>
    some row.eventRowid = earliestUnresolved inbox).map InboxRow.eventId

variable (readings : LifecycleReadings)

/-- The reasons for which an event is not left to the workers. -/
def readinessReasons :
    List String :=
  let settings := readings.settings
  (if settings.consumerEnabled then [] else ["LIFECYCLE_CONSUMER_DISABLED"]) ++
  (if settings.workerEnabled then [] else ["LIFECYCLE_WORKER_DISABLED"]) ++
  (if settings.requireWorkerHealth && !readings.workerHealthy then ["LIFECYCLE_WORKER_UNHEALTHY"]
    else []) ++
  (if store.inbox.rows.any (·.status = .deadLetter) then ["LIFECYCLE_DEAD_LETTER_PRESENT"]
    else []) ++
  (if (staleProcessingRows store.inbox settings readings.now).isEmpty then []
    else ["LIFECYCLE_STALE_PROCESSING"]) ++
  (if store.missingFromInbox.isEmpty then [] else ["LIFECYCLE_INBOX_GAP"]) ++
  (if store.appliedWithoutResult.isEmpty then [] else ["LIFECYCLE_APPLIED_RESULT_GAP"]) ++
  (if (unresolvedRows store.inbox).length ≤ settings.maxUnresolvedCount then []
    else ["LIFECYCLE_BACKLOG_LIMIT_EXCEEDED"]) ++
  (if row.status = .pending ∨ row.status = .processing then []
    else ["LIFECYCLE_CURRENT_INBOX_NOT_PENDING"])

/-- The decision for an event that has none yet. -/
def freshDecision : LifecycleDecision :=
  let settings := readings.settings
  let reasons := readinessReasons store row readings
  let oldest := oldestUnresolved store.inbox
  let isEarliest := oldest.isNone || oldest = some event.eventId
  let ready := reasons.isEmpty
  let defers := ready && settings.cutoverEnabled && !settings.globalKillSwitch
  let blocked := !defers && !isEarliest
  let fallsBack := !defers && isEarliest && settings.inlineFallbackEnabled
  { eventId := event.eventId
    eventRowid := row.eventRowid
    eventType := normalizeEventType event.eventType
    wouldDeferInline := ready
    effectiveDeferInline := defers
    inlineFallback := fallsBack
    orderedBacklogBlocked := blocked
    reasonCodes := (reasons ++
      (if isEarliest then [] else ["LIFECYCLE_PRIOR_EVENT_UNRESOLVED"]) ++
      (if settings.cutoverEnabled then [] else ["LIFECYCLE_CUTOVER_DISABLED"]) ++
      (if settings.globalKillSwitch then ["LIFECYCLE_GLOBAL_KILL_SWITCH"] else []) ++
      (if defers then ["LIFECYCLE_EFFECTIVE_DEFER_TO_WORKER"]
        else if blocked then ["LIFECYCLE_OUT_OF_ORDER_INLINE_BLOCKED"]
        else if fallsBack then ["LIFECYCLE_INLINE_FALLBACK"]
        else ["LIFECYCLE_INLINE_FALLBACK_DISABLED"]))
    createdAt := datetimeToWire readings.now }

/-- The decision that is on record for the event, or a new one put on record. -/
def decideLiveSimLifecycleRouting : Checked (LifecycleStore × LifecycleDecision) :=
  match store.decisions.find? event.eventId with
  | some decision => .ok (store, decision)
  | none =>
      match store.inbox.find? event.eventId with
      | none => Checked.invalid ("lifecycle inbox row missing for routing: " ++ event.eventId)
      | some row =>
          let decision := freshDecision store event row readings
          .ok ({ store with
            decisions := (store.decisions.insert? decision).getD store.decisions }, decision)

def LifecycleDecision.appliesInline (decision : LifecycleDecision) : Bool :=
  !decision.effectiveDeferInline && !decision.orderedBacklogBlocked && decision.inlineFallback

/-- The event was applied before, or the gateway is to apply it; the store holds the decision. -/
def routeLiveSimLifecycleEvent : Checked (LifecycleStore × Bool) :=
  if (store.inbox.find? event.eventId).any fun row => row.status = .applied then .ok (store, true)
  else do
    let (store, decision) ← decideLiveSimLifecycleRouting store event readings
    return (store, decision.appliesInline)

/-! ## Parties -/

inductive LifecycleParty where
  | worker (ownerId : String)
  | request (requestId : String)
deriving DecidableEq

/-- How far a party has come. Each phase but `idle` ends in a transaction or a read. -/
inductive LifecyclePhase where
  | idle
  | enqueueing (event : GatewayEvent)
  | routing (event : GatewayEvent)
  | enqueueingInline (event : GatewayEvent)
  | resetting (rows : List (String × Int)) (now : Instant)
  | claiming
  | loading (eventId : String)
  | applying (event : GatewayEvent)
  | failing (eventId message : String)

inductive TransactionEnd where
  | commits
  | doesNotBegin (message : String)
  | doesNotCommit (message : String)

def TransactionEnd.failure : TransactionEnd → Option String
  | commits => none
  | doesNotBegin message | doesNotCommit message => some message

structure LifecycleState where
  store : LifecycleStore
  phases : LifecycleParty → LifecyclePhase
  /-- The events whose effects have been committed, the last one first. -/
  applied : List String

inductive LifecycleOp where
  | store (event : GatewayEvent) (accepted : Bool) (receivedAt : String)
  | route (requestId : String) (event : GatewayEvent)
  | processBatch (ownerId : String) (readings : LifecycleReadings)
  | advance (party : LifecycleParty) (readings : LifecycleReadings) (ends : TransactionEnd)
  | resetDeadLetter (eventId : String) (now : Instant)
  /-- A batch is at its limit, or the process of a party ends. -/
  | abandon (party : LifecycleParty)

def LifecycleParty.consumerSource : LifecycleParty → String
  | worker _ => "durable_worker"
  | request _ => "gateway_inline_compatibility"

def LifecycleParty.expectedOwner : LifecycleParty → Option String
  | worker ownerId => some ownerId
  | request _ => none

def LifecycleParty.afterApply : LifecycleParty → LifecyclePhase
  | worker _ => .claiming
  | request _ => .idle

namespace LifecycleState

variable (state : LifecycleState) (party : LifecycleParty)

def setPhase (phase : LifecyclePhase) :
    LifecycleState :=
  { state with phases := Function.update state.phases party phase }

def setStore (store : LifecycleStore) : LifecycleState :=
  { state with store := store }

/-- The transaction of an apply, however it ends. -/
def apply (event : GatewayEvent)
    (readings : LifecycleReadings) (ends : TransactionEnd) : LifecycleState :=
  match ends with
  | .doesNotBegin message => state.setPhase party (.failing event.eventId message)
  | .doesNotCommit message =>
      match (applyLifecycleEvent host state.store event party.consumerSource party.expectedOwner
        readings).2 with
      | .applied | .duplicate => state.setPhase party (.failing event.eventId message)
      | .raised failure => state.setPhase party (.failing event.eventId failure)
      | .deadLetter | .deferred | .claimLost | .rowMissing => state.setPhase party .idle
  | .commits =>
      let (store, applyEnd) := applyLifecycleEvent host state.store event party.consumerSource
        party.expectedOwner readings
      match applyEnd with
      | .applied =>
          { (state.setStore store).setPhase party party.afterApply with
            applied := event.eventId :: state.applied }
      | .duplicate => state.setPhase party party.afterApply
      | .raised failure => state.setPhase party (.failing event.eventId failure)
      | .deadLetter | .deferred | .claimLost | .rowMissing => state.setPhase party .idle

def commitOr (ends : TransactionEnd)
    (written : Checked (LifecycleStore × LifecyclePhase)) : LifecycleState :=
  match ends.failure, written with
  | none, .ok (store, phase) => (state.setStore store).setPhase party phase
  | _, _ => state.setPhase party .idle

/-- The next transaction or read of a party. -/
def advance (readings : LifecycleReadings) (ends : TransactionEnd) : LifecycleState :=
  match state.phases party with
  | .idle => state
  | .enqueueing event =>
      state.commitOr party ends
        ((enqueueLiveSimLifecycleEvent state.store event readings.now).map
          fun store => (store, .routing event))
  | .routing event =>
      state.commitOr party ends
        ((routeLiveSimLifecycleEvent state.store event readings).map fun (store, inline) =>
          (store, if inline then .enqueueingInline event else .idle))
  | .enqueueingInline event =>
      state.commitOr party ends
        ((enqueueLiveSimLifecycleEvent state.store event readings.now).map
          fun store => (store, .applying event))
  | .resetting rows now =>
      state.commitOr party ends (.ok
        (state.store.setInbox (resetStaleRows state.store.inbox readings.settings now rows),
          .claiming))
  | .claiming =>
      state.commitOr party ends (.ok
        (match claimNextInboxRow state.store.inbox (party.expectedOwner.getD "") readings.now with
        | none => (state.store, .idle)
        | some (row, inbox) => (state.store.setInbox inbox, .loading row.eventId)))
  | .loading eventId =>
      state.setPhase party
        (match state.store.gatewayEvents.find? eventId with
        | some stored =>
            if stored.accepted then .applying stored.event
            else .failing eventId "SOURCE_GATEWAY_EVENT_MISSING"
        | none => .failing eventId "SOURCE_GATEWAY_EVENT_MISSING")
  | .applying event => state.apply host party event readings ends
  | .failing eventId message =>
      state.commitOr party ends
        ((markLifecycleFailure state.store eventId message readings.settings readings.now).map
          fun store => (store, .idle))

end LifecycleState

def lifecycleNext (state : LifecycleState) : LifecycleOp → LifecycleState
  | .store event accepted receivedAt =>
      state.setStore (state.store.storeEvent event accepted receivedAt)
  | .route requestId event =>
      match state.phases (.request requestId) with
      | .idle => if isLiveSimLifecycleEvent event.eventType then
          state.setPhase (.request requestId) (.enqueueing event)
        else state
      | _ => state
  | .processBatch ownerId readings =>
      match state.phases (.worker ownerId) with
      | .idle =>
          if readings.settings.consumerEnabled && readings.settings.workerEnabled then
            state.setPhase (.worker ownerId)
              (.resetting (staleProcessingRows state.store.inbox readings.settings readings.now)
                readings.now)
          else state
      | _ => state
  | .advance party readings ends => state.advance host party readings ends
  | .resetDeadLetter eventId now =>
      state.setStore (state.store.setInbox
        (resetLiveSimLifecycleDeadLetter state.store.inbox eventId now))
  | .abandon party => state.setPhase party .idle

/-- The inbox under any number of workers and requests. -/
def lifecycleSystem : System LifecycleState LifecycleOp Unit where
  step state op := (lifecycleNext host state op, ())

def LifecycleState.initial (inboxStartedAt : String) : LifecycleState where
  store :=
    { gatewayEvents := .empty, ledger := ⟨.empty, .empty, .empty⟩, inbox := .empty
      decisions := .empty, liveSim := .empty, inboxStartedAt := inboxStartedAt }
  phases := fun _ => .idle
  applied := []

end SuseokTrader
