import SuseokTrader.Lib.Queues
import SuseokTrader.Lib.Run
import SuseokTrader.Market.Ticks

/-!
# The queue to Core

The gateway hands its events over to a worker, which keeps them in a queue and
posts them to Core one by one or in batches. Above a size the queue replaces
ticks of a stock by newer ones, and above another it drops events of low value.
A post runs without the lock, so further events come in while it is under way.
-/

namespace SuseokTrader

/-! ## Equality of events -/

namespace Json

def numeric (host : Host) : Json → Option Float64
  | .bool value => some (.finite (if value then 1 else 0))
  | .int value => some (.finite value)
  | .float repr => host.float repr
  | _ => none

end Json

def Float64.equals : Float64 → Float64 → Bool
  | .finite value, .finite other => value = other
  | .posInf, .posInf | .negInf, .negInf => true
  | _, _ => false

namespace Json

mutual

/-- Equality of values: numbers by their value, objects in any order of their fields. -/
def equals (host : Host) : Json → Json → Bool
  | .null, .null => true
  | .str value, .str other => value = other
  | .arr items, .arr others => items.length = others.length && equalItems host items others
  | .obj fields, .obj others => fields.length = others.length && equalFields host fields others
  | value, other =>
      match numeric host value, numeric host other with
      | some number, some otherNumber => number.equals otherNumber
      | _, _ => false
termination_by structural value => value

def equalItems (host : Host) : List Json → List Json → Bool
  | item :: items, other :: others => equals host item other && equalItems host items others
  | [], _ | _, [] => true
termination_by structural items => items

def equalFields (host : Host) : List (String × Json) → List (String × Json) → Bool
  | (key, value) :: fields, others =>
      (match others.lookup key with
        | some other => equals host value other
        | none => false) && equalFields host fields others
  | [], _ => true
termination_by structural fields => fields

end

end Json

def GatewayEvent.equals (host : Host) (event other : GatewayEvent) : Bool :=
  event.eventType = other.eventType && event.source = other.source &&
    Json.equals host (.obj event.payload) (.obj other.payload) &&
    event.eventId = other.eventId && event.ts = other.ts &&
    event.commandId = other.commandId && event.idempotencyKey = other.idempotencyKey

/-! ## Kinds of events -/

def coreFastBatchEventTypes : List String :=
  ["price_tick", "condition_event"]

def priorityEventTypes : List String :=
  ["heartbeat", "market_index_tick", "tr_response"]

def marketRefreshEventTypes : List String :=
  ["price_tick", "quote_tick", "market_index_tick"]

def commandCriticalEventTypes : List String :=
  ["command_started", "command_ack", "command_failed", "rate_limited", "execution_event",
    "order_pre_ack", "order_broker_unconfirmed", "kiwoom_order_chejan", "kiwoom_balance_chejan",
    "kiwoom_special_chejan"]

def droppableEventTypes : List String :=
  ["heartbeat", "price_tick", "quote_tick", "market_index_tick", "gateway_log"]

def dropProtectedEventTypes : List String :=
  ["command_started", "command_ack", "command_failed", "rate_limited", "tr_response",
    "execution_event", "order_pre_ack", "order_broker_unconfirmed", "kiwoom_order_chejan",
    "kiwoom_balance_chejan", "kiwoom_special_chejan"]

/-- An event object, under the number of the call that handed it over. The runtime takes every
event from its own queue once, so each call brings an object of its own. -/
structure QueuedEvent where
  arrival : Nat
  event : GatewayEvent

namespace QueuedEvent

def isOfType (types : List String) (queued : QueuedEvent) : Bool :=
  types.contains (normalizeEventType queued.event.eventType)

def isCoreFastBatchEvent : QueuedEvent → Bool :=
  isOfType coreFastBatchEventTypes

def isPriorityEvent : QueuedEvent → Bool :=
  isOfType priorityEventTypes

def isMarketRefreshEvent : QueuedEvent → Bool :=
  isOfType marketRefreshEventTypes

def isCommandCriticalEvent : QueuedEvent → Bool :=
  isOfType commandCriticalEventTypes

def isDroppableEvent : QueuedEvent → Bool :=
  isOfType droppableEventTypes

def isDropProtectedEvent : QueuedEvent → Bool :=
  isOfType dropProtectedEventTypes

def isSame (queued other : QueuedEvent) : Bool :=
  queued.arrival = other.arrival

end QueuedEvent

def keyUnlessBlank (eventType text : String) : Option (String × String) :=
  if Text.strip text = "" then none else some (eventType, Text.strip text)

variable (host : Host)

def coalescingKey (queued : QueuedEvent) : Option (String × String) :=
  let eventType := normalizeEventType queued.event.eventType
  let payload := queued.event.payload
  if eventType = "heartbeat" then some (eventType, queued.event.source)
  else if eventType = "price_tick" ∨ eventType = "quote_tick" then
    keyUnlessBlank eventType ((payload.get "code").textOrEmpty host)
  else if eventType = "market_index_tick" then
    keyUnlessBlank eventType
      (((payload.get "index_code").orElse (payload.get "code")).textOrEmpty host)
  else none

/-! ## Handing over -/

/-- The settings of a worker, in the bounds its constructor puts them in. -/
structure CoreIoSettings where
  eventPostingEnabled : Bool
  coalesceAfterSize : Nat
  maxBufferSize : Nat
  eventBatchSize : Nat
  marketBatchShare : Nat
  coalesceAfterSize_pos : 1 ≤ coalesceAfterSize
  maxBufferSize_pos : 1 ≤ maxBufferSize
  eventBatchSize_pos : 1 ≤ eventBatchSize
  eventBatchSize_le : eventBatchSize ≤ 200
  marketBatchShare_pos : 1 ≤ marketBatchShare
  marketBatchShare_le : marketBatchShare ≤ eventBatchSize

def CoreIoSettings.make (eventPostingEnabled : Bool)
    (coalesceAfterSize maxBufferSize eventBatchSize marketBatchShare : Int) : CoreIoSettings where
  eventPostingEnabled := eventPostingEnabled
  coalesceAfterSize := (max coalesceAfterSize 1).toNat
  maxBufferSize := (max maxBufferSize 1).toNat
  eventBatchSize := (min (max eventBatchSize 1) 200).toNat
  marketBatchShare := (min (max marketBatchShare 1) (min (max eventBatchSize 1) 200)).toNat
  coalesceAfterSize_pos := by omega
  maxBufferSize_pos := by omega
  eventBatchSize_pos := by omega
  eventBatchSize_le := by omega
  marketBatchShare_pos := by omega
  marketBatchShare_le := by omega

def coalesceEvent (events : List QueuedEvent) (queued : QueuedEvent) :
    Option (List QueuedEvent × QueuedEvent) :=
  match coalescingKey host queued with
  | none => none
  | some key => replaceFirst (fun other => coalescingKey host other = some key) queued events

def insertAfterCommandCritical (events : List QueuedEvent) (queued : QueuedEvent) :
    List QueuedEvent :=
  insertAfterLast (·.isCommandCriticalEvent) events queued

def takeOutdated (events : List QueuedEvent) (queued : QueuedEvent) :
    Option (QueuedEvent × List QueuedEvent) :=
  match coalescingKey host queued with
  | none => none
  | some key => takeOut (fun other => coalescingKey host other = some key) events

def enqueuePriorityEvent (events : List QueuedEvent) (queued : QueuedEvent) :
    List QueuedEvent × Option QueuedEvent :=
  match takeOutdated host events queued with
  | some (old, events) => (insertAfterCommandCritical events queued, some old)
  | none => (insertAfterCommandCritical events queued, none)

def takeOverflow (events : List QueuedEvent) : Option (QueuedEvent × List QueuedEvent) :=
  (takeOut (·.isDroppableEvent) events).or
    (takeOut (fun queued => !queued.isDropProtectedEvent) events)

def dropOverflow (events : List QueuedEvent) : Nat → List QueuedEvent × List QueuedEvent
  | 0 => (events, [])
  | excess + 1 =>
      match takeOverflow events with
      | none => (events, [])
      | some (queued, events) =>
          let (kept, dropped) := dropOverflow events excess
          (kept, queued :: dropped)

variable (settings : CoreIoSettings)

def enforceBufferLimit (events : List QueuedEvent) :
    List QueuedEvent × List QueuedEvent :=
  dropOverflow events (events.length - settings.maxBufferSize)

structure Enqueued where
  events : List QueuedEvent
  replaced : Option QueuedEvent
  dropped : List QueuedEvent

def enqueueEvent (events : List QueuedEvent)
    (queued : QueuedEvent) : Enqueued :=
  if queued.isCommandCriticalEvent then
    let (kept, dropped) := enforceBufferLimit settings (insertAfterCommandCritical events queued)
    { events := kept, replaced := none, dropped := dropped }
  else if queued.isPriorityEvent then
    let (inserted, old) := enqueuePriorityEvent host events queued
    let (kept, dropped) := enforceBufferLimit settings inserted
    { events := kept, replaced := old, dropped := dropped }
  else
    match if settings.coalesceAfterSize ≤ events.length then coalesceEvent host events queued
        else none with
    | some (coalesced, old) => { events := coalesced, replaced := some old, dropped := [] }
    | none =>
        let (kept, dropped) := enforceBufferLimit settings (events ++ [queued])
        { events := kept, replaced := none, dropped := dropped }

/-! ## Selecting a batch -/

structure CoreIoWorker where
  events : List QueuedEvent
  lastSuccessfulBatchFast : Option Bool

variable (worker : CoreIoWorker)

def selectBatchFastGroup : Bool :=
  if !worker.events.any (·.isCoreFastBatchEvent) then false
  else if worker.events.all (·.isCoreFastBatchEvent) then true
  else
    match worker.events.find? (·.isCommandCriticalEvent) with
    | some critical => critical.isCoreFastBatchEvent
    | none =>
        match worker.lastSuccessfulBatchFast with
        | some fast => !fast
        | none =>
            (((worker.events.find? (·.isPriorityEvent)).or
              (worker.events.find? (·.isMarketRefreshEvent))).or
              worker.events.head?).any (·.isCoreFastBatchEvent)

/-- The selected events, with those added that match, up to the limits. -/
def addMatching (limit : Nat) (isMatching : QueuedEvent → Bool) :
    List QueuedEvent → Nat → List QueuedEvent → List QueuedEvent
  | [], _, selected => selected
  | queued :: events, itemLimit, selected =>
      if limit ≤ selected.length ∨ itemLimit = 0 then selected
      else if selected.any (·.isSame queued) || !isMatching queued then
        addMatching limit isMatching events itemLimit selected
      else addMatching limit isMatching events (itemLimit - 1) (selected ++ [queued])

def selectEventBatch : List QueuedEvent :=
  let limit := min settings.eventBatchSize worker.events.length
  let targetFast := selectBatchFastGroup worker
  let add (isMatching : QueuedEvent → Bool) (itemLimit : Nat) (selected : List QueuedEvent) :=
    addMatching limit
      (fun queued => queued.isCoreFastBatchEvent = targetFast && isMatching queued)
      worker.events itemLimit selected
  let critical := add (·.isCommandCriticalEvent) limit []
  let priority := add (fun queued => queued.isPriorityEvent && !queued.isCommandCriticalEvent)
    (min 16 (limit - critical.length)) critical
  let market := add (·.isMarketRefreshEvent)
    (min settings.marketBatchShare (limit - priority.length)) priority
  add (fun _ => true) (limit - market.length) market

/-! ## Posting -/

inductive CoreIoPost where
  | batch (first : QueuedEvent) (rest : List QueuedEvent)
  | single (queued : QueuedEvent)

def CoreIoPost.events : CoreIoPost → List QueuedEvent
  | .batch first rest => first :: rest
  | .single queued => [queued]

/-- The queue without an event that was posted: the first event where it is that one, or else the
first that is equal to it. -/
def removePostedEvent (events : List QueuedEvent) (posted : QueuedEvent) :
    List QueuedEvent :=
  if events.head?.any (·.isSame posted) then events.tail
  else events.eraseP fun queued => queued.isSame posted || queued.event.equals host posted.event

def CoreIoPost.succeed : CoreIoPost → CoreIoWorker
  | .batch first rest =>
      { events := (first :: rest).foldl (removeNamed QueuedEvent.arrival) worker.events
        lastSuccessfulBatchFast := some first.isCoreFastBatchEvent }
  | .single queued => { worker with events := removePostedEvent host worker.events queued }

/-! ## Runs -/

/-- The worker with its post, and what came and went so far. -/
structure CoreIoHistory where
  worker : CoreIoWorker
  inFlight : Option CoreIoPost
  enqueued : List QueuedEvent
  posted : List QueuedEvent
  dropped : List QueuedEvent
  /-- The events that were replaced, each with the one that came for it. -/
  replaced : List (QueuedEvent × QueuedEvent)

def CoreIoHistory.start : CoreIoHistory where
  worker := { events := [], lastSuccessfulBatchFast := none }
  inFlight := none
  enqueued := []
  posted := []
  dropped := []
  replaced := []

/-- A post may start whenever none is under way; the pause after a failure only delays it. -/
inductive CoreIoOp where
  | enqueue (event : GatewayEvent)
  | startBatch
  | startSingle
  | finish (succeeded : Bool)

def CoreIoHistory.arriving (history : CoreIoHistory) (event : GatewayEvent) : QueuedEvent where
  arrival := history.enqueued.length
  event := event

def CoreIoHistory.enqueue (host : Host) (settings : CoreIoSettings) (history : CoreIoHistory)
    (queued : QueuedEvent) : CoreIoHistory :=
  let result := enqueueEvent host settings history.worker.events queued
  { history with
    worker := { history.worker with events := result.events }
    enqueued := history.enqueued ++ [queued]
    dropped := history.dropped ++ result.dropped
    replaced := history.replaced ++ result.replaced.toList.map (·, queued) }

def CoreIoHistory.starts (settings : CoreIoSettings) (history : CoreIoHistory) :
    CoreIoOp → Option CoreIoPost
  | .startBatch =>
      match selectEventBatch settings history.worker with
      | [] => none
      | first :: rest => some (.batch first rest)
  | .startSingle =>
      if settings.eventPostingEnabled then history.worker.events.head?.map .single else none
  | _ => none

def CoreIoHistory.next (host : Host) (settings : CoreIoSettings) (history : CoreIoHistory)
    (op : CoreIoOp) : CoreIoHistory :=
  match op, history.inFlight with
  | .enqueue event, _ =>
      if settings.eventPostingEnabled then
        history.enqueue host settings (history.arriving event)
      else history
  | .startBatch, none | .startSingle, none =>
      { history with inFlight := history.starts settings op }
  | .finish true, some post =>
      { history with
        worker := post.succeed host history.worker
        inFlight := none
        posted := history.posted ++ post.events }
  | .finish false, some _ => { history with inFlight := none }
  | _, _ => history

def coreIoSystem :
    System CoreIoHistory CoreIoOp Unit where
  step history op := (history.next host settings op, ())

end SuseokTrader
