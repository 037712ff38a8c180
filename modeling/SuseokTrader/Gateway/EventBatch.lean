import SuseokTrader.Gateway.CoreIo
import SuseokTrader.Gateway.EventStore
import SuseokTrader.LiveSim.LifecycleOrder

/-!
# Batches of gateway events

The gateway posts its events to Core in batches. Core appends them one after
the other and routes the lifecycle events among them. The price ticks and
condition events of a batch have been dealt with before; this file is about the
others. An error that the loop does not expect ends the request, and the
gateway then posts the same batch again.
-/

namespace SuseokTrader

/-! ## The lifecycle events of a request -/

structure LifecycleTurn where
  enqueued : Instant
  routing : LifecycleReadings
  applying : LifecycleReadings
  failing : LifecycleReadings

/-- What an apply on behalf of the gateway leaves; it raises after a failure and for a dead
letter. -/
def finishInlineApply (store : LifecycleStore) (event : GatewayEvent)
    (failing : LifecycleReadings) :
    LifecycleStore × ApplyEnd → LifecycleStore × Checked Unit
  | (applied, .applied) => (applied, .ok ())
  | (_, .duplicate) | (_, .deferred) => (store, .ok ())
  | (_, .deadLetter) =>
      (store, .error (.crash (match (store.inbox.find? event.eventId).bind InboxRow.lastError with
        | some message => if message = "" then "lifecycle apply failed" else message
        | none => "lifecycle apply failed")))
  | (_, .claimLost) => (store, .error (.crash "LIFECYCLE_CLAIM_LOST"))
  | (_, .rowMissing) => (store, .error (.crash "LIFECYCLE_INBOX_ROW_MISSING"))
  | (_, .raised message) =>
      match markLifecycleFailure store event.eventId message failing.settings failing.now with
      | .ok marked => (marked, .error (.crash message))
      | .error failure => (store, .error failure)

variable (host : Host)

def processLiveSimLifecycleInline (store : LifecycleStore) (event : GatewayEvent)
    (turn : LifecycleTurn) : LifecycleStore × Checked Unit :=
  match enqueueLiveSimLifecycleEvent store event turn.enqueued with
  | .error failure => (store, .error failure)
  | .ok enqueued =>
      finishInlineApply enqueued event turn.failing
        (applyLifecycleEvent host enqueued event "gateway_inline_compatibility" none turn.applying)

def routeLiveSimLifecycleGatewayEvent (store : LifecycleStore)
    (event : GatewayEvent) (turn : LifecycleTurn) : LifecycleStore × Checked Unit :=
  match enqueueLiveSimLifecycleEvent store event turn.enqueued with
  | .error failure => (store, .error failure)
  | .ok enqueued =>
      match routeLiveSimLifecycleEvent enqueued event turn.routing with
      | .error failure => (enqueued, .error failure)
      | .ok (routed, inline) =>
          if inline then processLiveSimLifecycleInline host routed event turn
          else (routed, .ok ())

/-! ## One event -/

structure IngestStore where
  database : Database
  lifecycle : LifecycleStore

/-- What the processing of one event meets besides the store. The market projections of a new
event either go through, most of them by recording their own failure, or raise. -/
structure EventTurn where
  locked : Bool
  append : AppendReadings
  projectionFailure : Option String
  lifecycle : LifecycleTurn

structure EventResponse where
  accepted : Bool
  eventId : Option String
  duplicate : Bool
  status : String
  errorMessage : Option String
deriving DecidableEq

/-- How the processing of one event ends: with a response, a refusal under a status code, for a
lock that is held, or with an error that nobody expects. -/
inductive EventEnd where
  | responded (response : EventResponse)
  | refused (statusCode : Nat) (detail : Option String)
  | lockedRetryable
  | raised (failure : Failure)

def AppendGatewayEventResult.response (result : AppendGatewayEventResult) : EventResponse where
  accepted := result.accepted
  eventId := some result.eventId
  duplicate := result.duplicate
  status := result.status
  errorMessage := none

def AppendGatewayEventResult.eventEnd (result : AppendGatewayEventResult) : EventEnd :=
  if result.status = "CONFLICT" then .refused 409 result.errorMessage
  else if result.status = "REJECTED" then .refused 422 result.errorMessage
  else .responded result.response

variable (store : IngestStore)

variable (event : GatewayEvent)

/-- The append as the lifecycle consumer sees it: a new event takes its place in the store. -/
def IngestStore.appended
    (result : AppendGatewayEventResult) (database : Database) (received : Instant) :
    IngestStore where
  database := database
  lifecycle :=
    if result.duplicate ∨ result.status = "CONFLICT" then store.lifecycle
    else store.lifecycle.storeEvent event (result.status = "ACCEPTED") (datetimeToWire received)

/-- After the append: the market projections of a new event, and the lifecycle of any. -/
def projectAppended
    (result : AppendGatewayEventResult) (turn : EventTurn) : IngestStore × Checked Unit :=
  if result.status = "ACCEPTED" then
    match if result.duplicate then none else turn.projectionFailure with
    | some message => (store, .error (.crash message))
    | none =>
        if isLiveSimLifecycleEvent event.eventType then
          let (lifecycle, routed) :=
            routeLiveSimLifecycleGatewayEvent host store.lifecycle event turn.lifecycle
          ({ store with lifecycle := lifecycle }, routed)
        else (store, .ok ())
  else (store, .ok ())

/-- One event, each of its transactions committed on its own. -/
def IngestStore.processGatewayEvent (turn : EventTurn) : IngestStore × EventEnd :=
  if turn.locked then (store, .lockedRetryable)
  else
    match appendGatewayEvent host store.database event turn.append with
    | .error failure => (store, .raised failure)
    | .ok (result, database) =>
        match projectAppended host (store.appended event result database turn.append.received)
            event result turn with
        | (written, .error failure) => (written, .raised failure)
        | (written, .ok ()) => (written, result.eventEnd)

/-! ## A batch -/

def isFastBatchEvent : Bool :=
  coreFastBatchEventTypes.contains (normalizeEventType event.eventType)

def batchRejection (eventId : Option String) (errorMessage : String) (conflict : Bool) :
    EventResponse where
  accepted := false
  eventId := eventId
  duplicate := false
  status := if conflict then "CONFLICT" else "REJECTED"
  errorMessage := some errorMessage

/-- An event of a batch, with what it will meet at its turn. -/
structure BatchItem where
  event : GatewayEvent
  turn : EventTurn

inductive BatchEnd where
  | completed (results : List EventResponse)
  | tooShort
  | tooLong
  | lockedRetryable
  | raised (failure : Failure)

/-- The request goes on after a response and after a refusal only. -/
def EventEnd.batchResult : EventEnd → Except BatchEnd EventResponse
  | .responded response => .ok response
  | .refused statusCode detail =>
      .ok (batchRejection (some event.eventId) (detail.getD "None") (statusCode = 409))
  | .lockedRetryable => .error .lockedRetryable
  | .raised failure => .error (.raised failure)

/-- The results of the events that are not fast, each at the index of its event. -/
def processNonFastEvents (host : Host) :
    IngestStore → List BatchItem → IngestStore × Except BatchEnd (List (Option EventResponse))
  | store, [] => (store, .ok [])
  | store, item :: items =>
      if isFastBatchEvent item.event then
        let (written, results) := processNonFastEvents host store items
        (written, results.map (none :: ·))
      else
        let (processed, eventEnd) := store.processGatewayEvent host item.event item.turn
        match eventEnd.batchResult item.event with
        | .error batchEnd => (processed, .error batchEnd)
        | .ok result =>
            let (written, results) := processNonFastEvents host processed items
            (written, results.map (some result :: ·))

/-- A batch without fast events. -/
def postGatewayEventsBatch (items : List BatchItem) :
    IngestStore × BatchEnd :=
  if items = [] then (store, .tooShort)
  else if 200 < items.length then (store, .tooLong)
  else
    match processNonFastEvents host store items with
    | (written, .ok results) =>
        (written, .completed (results.map fun result =>
          result.getD (batchRejection none "batch event was not processed" false)))
    | (written, .error batchEnd) => (written, batchEnd)

def BatchEnd.isCompleted : BatchEnd → Bool
  | .completed _ => true
  | _ => false

/-! ## Histories of the server -/

/-- What happens to the store: a batch is posted, or somebody else writes. The others (the workers
of the inbox, its operators, the gateway store) store no events and leave the rows of the inbox in
their places. -/
inductive IngestOp where
  | post (items : List BatchItem)
  | lifecycle (change : LifecycleStore → LifecycleStore)
      (keepsEvents : ∀ store, SameEvents store (change store))
      (keepsPlaces : ∀ store, SamePlaces store.inbox (change store).inbox)
  | database (change : Database → Database)
      (keepsEvents : ∀ db, (change db).rawEvents = db.rawEvents ∧
        (change db).gatewayEvents = db.gatewayEvents)

def ingestNext : IngestOp → IngestStore
  | .post items => (postGatewayEventsBatch host store items).1
  | .lifecycle change _ _ => { store with lifecycle := change store.lifecycle }
  | .database change _ => { store with database := change store.database }

def ingestSystem (host : Host) : System IngestStore IngestOp Unit where
  step store op := (ingestNext host store op, ())

def IngestStore.initial (catalog : Catalog) (appMetadata : List (String × String))
    (inboxStartedAt : String) : IngestStore where
  database := Database.empty catalog appMetadata
  lifecycle := (LifecycleState.initial inboxStartedAt).store

/-! ## The worker that posts -/

structure PostingState where
  server : IngestStore
  worker : CoreIoHistory

def batchItems (events : List QueuedEvent) (turns : Nat → EventTurn) : List BatchItem :=
  events.mapIdx fun index queued => { event := queued.event, turn := turns index }

variable (settings : CoreIoSettings)

/-- The worker selects a batch and posts it; where the request fails the batch stays queued. -/
def postNextEventBatch (state : PostingState)
    (turns : Nat → EventTurn) : PostingState :=
  let started := state.worker.next host settings .startBatch
  match started.inFlight with
  | none => { state with worker := started }
  | some post =>
      let (server, batchEnd) :=
        postGatewayEventsBatch host state.server (batchItems post.events turns)
      { server := server
        worker := started.next host settings (.finish batchEnd.isCompleted) }

inductive PostingOp where
  | attempt (turns : Nat → EventTurn)
  | server (op : IngestOp)

def postingNext (state : PostingState) :
    PostingOp → PostingState
  | .attempt turns => postNextEventBatch host settings state turns
  | .server op => { state with server := ingestNext host state.server op }

/-- The worker posting again and again, without new events coming in. -/
def postingSystem :
    System PostingState PostingOp Unit where
  step state op := (postingNext host settings state op, ())

end SuseokTrader
