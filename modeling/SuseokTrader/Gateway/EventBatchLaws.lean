import SuseokTrader.Gateway.EventBatch

/-!
# What blocks a batch

A request goes through unless an event poisons it: the append raises, a market
projection raises, or the gateway is to apply a lifecycle event itself whose row
is a dead letter or whose handler fails. Only then does the worker keep the
batch, and post it again.
-/

namespace SuseokTrader

/-! ## The inbox at the turn of an event -/

/-- The stored events have places of their own, and the rows of the inbox stand there. -/
structure InboxSound (store : LifecycleStore) : Prop where
  positioned : ∀ eventId, (store.gatewayEvents.find? eventId).isSome =
    (store.ledger.events.find? eventId).isSome
  places : RowsPositioned store
  distinct : ∀ left ∈ store.ledger.events.rows, ∀ right ∈ store.ledger.events.rows,
    left.eventRowid = right.eventRowid → left.eventId = right.eventId

theorem InboxSound.of_same {before after : LifecycleStore} (sound : InboxSound before)
    (same : SameEvents before after) (places : SamePlaces before.inbox after.inbox) :
    InboxSound after := by
  refine ⟨?_, sound.places.of_samePlaces places same.events, ?_⟩
  · intro eventId
    rw [same.gatewayEvents, same.events]
    exact sound.positioned eventId
  · rw [same.events]
    exact sound.distinct

variable {store : LifecycleStore}

theorem inboxSound_storeEvent (sound : InboxSound store)
    (event : GatewayEvent) (accepted : Bool) (receivedAt : String) :
    InboxSound (store.storeEvent event accepted receivedAt) := by
  have places := positioned_storeEvent sound.places event accepted receivedAt
  rcases storeEvent_cases store event accepted receivedAt with
    same | ⟨gatewayEvents, events, stores, positions, same⟩
  · rw [same]
    exact sound
  · rw [same] at places ⊢
    refine ⟨?_, places, ?_⟩
    · intro eventId
      by_cases isNew : eventId = event.eventId
      · subst isNew
        have stored := Table.find?_of_insert?_self stores
        have position := Table.find?_of_insert?_self positions
        change gatewayEvents.find? event.eventId = _ at stored
        change events.find? event.eventId = _ at position
        rw [stored, position]
        rfl
      · rw [Table.find?_of_insert?_of_ne stores (Ne.symm isNew),
          Table.find?_of_insert?_of_ne positions (Ne.symm isNew)]
        exact sound.positioned eventId
    · intro left isLeft right isRight sameRowid
      have below : ∀ position ∈ store.ledger.events.rows,
          position.eventRowid < nextEventRowid store.ledger.events :=
        fun position present => lt_nextEventRowid (Table.find?_of_mem present)
      rw [Table.rows_of_insert? positions, List.mem_append, List.mem_singleton] at isLeft isRight
      rcases isLeft with isLeft | rfl
      · rcases isRight with isRight | rfl
        · exact sound.distinct left isLeft right isRight sameRowid
        · have := below left isLeft
          dsimp only at sameRowid
          omega
      · rcases isRight with isRight | rfl
        · have := below right isRight
          dsimp only at sameRowid
          omega
        · rfl

theorem sameEvents_enqueue {store enqueued : LifecycleStore} {event : GatewayEvent}
    {now : Instant} (success : enqueueLiveSimLifecycleEvent store event now = .ok enqueued) :
    SameEvents store enqueued ∧ enqueued.liveSim = store.liveSim ∧
      enqueued.decisions = store.decisions := by
  rcases enqueue_cases success with rfl | ⟨position, inbox, _, _, rfl⟩
  · exact ⟨⟨rfl, rfl, rfl⟩, rfl, rfl⟩
  · exact ⟨⟨rfl, rfl, rfl⟩, rfl, rfl⟩

theorem inboxSound_enqueue {store enqueued : LifecycleStore} (sound : InboxSound store)
    {event : GatewayEvent} {now : Instant}
    (success : enqueueLiveSimLifecycleEvent store event now = .ok enqueued) :
    InboxSound enqueued := by
  have same := (sameEvents_enqueue success).1
  refine ⟨?_, positioned_enqueue sound.places success, ?_⟩
  · intro eventId
    rw [same.gatewayEvents, same.events]
    exact sound.positioned eventId
  · rw [same.events]
    exact sound.distinct

def LifecycleStore.Accepts (store : LifecycleStore) (eventId : String) : Prop :=
  (store.gatewayEvents.find? eventId).map StoredEvent.accepted = some true

theorem LifecycleStore.Accepts.cases {eventId : String}
    (sound : InboxSound store) (accepts : store.Accepts eventId) :
    ∃ stored position, store.gatewayEvents.find? eventId = some stored ∧
      stored.accepted = true ∧ store.ledger.events.find? eventId = some position := by
  rcases Option.map_eq_some_iff.mp accepts with ⟨stored, found, accepted⟩
  have positioned := sound.positioned eventId
  rw [found] at positioned
  rcases Option.isSome_iff_exists.mp positioned.symm with ⟨position, isPosition⟩
  exact ⟨stored, position, found, accepted, isPosition⟩

theorem enqueue_of_accepts (sound : InboxSound store)
    {event : GatewayEvent} (isLifecycle : isLiveSimLifecycleEvent event.eventType = true)
    (accepts : store.Accepts event.eventId) (now : Instant) :
    ∃ enqueued row, enqueueLiveSimLifecycleEvent store event now = .ok enqueued ∧
      enqueued.inbox.find? event.eventId = some row := by
  rcases accepts.cases sound with ⟨stored, position, found, accepted, isPosition⟩
  unfold enqueueLiveSimLifecycleEvent
  simp only [isLifecycle, found, isPosition, accepted]
  cases present : store.inbox.find? event.eventId with
  | some row => exact ⟨store, row, rfl, present⟩
  | none =>
      have free : store.inbox.rows.any
          (fun row => row.eventRowid = (freshInboxRow event position.eventRowid
            (datetimeToWire now)).eventRowid) = false := by
        rw [List.any_eq_false]
        intro row isRow sameRowid
        rcases sound.places row isRow with ⟨place, isPlace, samePlace⟩
        have sameId : place.eventId = position.eventId := by
          apply sound.distinct place (Table.mem_of_find? isPlace) position
            (Table.mem_of_find? isPosition)
          rw [samePlace]
          exact of_decide_eq_true sameRowid
        have rowKey : place.eventId = row.eventId := Table.key_of_find? isPlace
        have eventKey : position.eventId = event.eventId := Table.key_of_find? isPosition
        have isEvent : row.eventId = event.eventId := by
          rw [← rowKey, sameId, eventKey]
        exact Table.find?_eq_none.mp present row isRow isEvent
      have inserts := Table.insert?_isSome_iff.mpr
        (show store.inbox.find? (Keyed.key (freshInboxRow event position.eventRowid
          (datetimeToWire now))) = none from present)
      rcases Option.isSome_iff_exists.mp inserts with ⟨inbox, inserted⟩
      simp only [free, inserted]
      exact ⟨_, _, rfl, Table.find?_of_insert?_self inserted⟩

theorem enqueue_of_row (sound : InboxSound store) {event : GatewayEvent}
    (accepts : store.Accepts event.eventId) {row : InboxRow}
    (found : store.inbox.find? event.eventId = some row) (now : Instant) :
    enqueueLiveSimLifecycleEvent store event now = .ok store := by
  rcases accepts.cases sound with ⟨stored, position, isStored, accepted, isPosition⟩
  unfold enqueueLiveSimLifecycleEvent
  simp only [isStored, isPosition, accepted, found, Bool.not_true, Bool.false_eq_true, if_false]
  split
  · rfl
  · rfl

/-! ## Routing and applying -/

def LifecycleStore.enqueued (store : LifecycleStore) (event : GatewayEvent) (now : Instant) :
    LifecycleStore :=
  match enqueueLiveSimLifecycleEvent store event now with
  | .ok enqueued => enqueued
  | .error _ => store

def decisionAtTurn (store : LifecycleStore) (event : GatewayEvent) (row : InboxRow)
    (readings : LifecycleReadings) : LifecycleDecision :=
  (store.decisions.find? event.eventId).getD (freshDecision store event row readings)

variable (host : Host)

/-- The gateway is to apply the event itself, and the row is a dead letter, or waits while the
handler fails. -/
def InlineFails (store : LifecycleStore) (event : GatewayEvent)
    (turn : LifecycleTurn) : Prop :=
  ∃ row ∈ (store.enqueued event turn.enqueued).inbox.find? event.eventId,
    (decisionAtTurn (store.enqueued event turn.enqueued) event row turn.routing).appliesInline =
      true ∧
    (row.status = .deadLetter ∨ row.status = .pending ∧
      ∃ failure, handleLiveSimGatewayEvent host turn.applying.settings.liveSim store.liveSim event
        turn.applying.ids turn.applying.now = .error failure)

theorem routeLiveSimLifecycleEvent_of_row {event : GatewayEvent}
    {readings : LifecycleReadings} {row : InboxRow}
    (found : store.inbox.find? event.eventId = some row) :
    ∃ decisions, routeLiveSimLifecycleEvent store event readings =
      .ok ({ store with decisions := decisions },
        row.status = .applied || (decisionAtTurn store event row readings).appliesInline) := by
  unfold routeLiveSimLifecycleEvent
  rw [found, Option.any_some]
  by_cases applied : row.status = .applied
  · simp only [applied]
    exact ⟨store.decisions, rfl⟩
  · simp only [applied, decide_false, Bool.false_eq_true, if_false, Bool.false_or,
      decideLiveSimLifecycleRouting, found, decisionAtTurn]
    cases decided : store.decisions.find? event.eventId with
    | some decision => exact ⟨store.decisions, rfl⟩
    | none => exact ⟨_, rfl⟩

theorem handleInTransaction_isOk_iff {host : Host} {store : LifecycleStore} {event : GatewayEvent}
    {consumerSource : String} {readings : LifecycleReadings}
    (stored : (store.ledger.events.find? event.eventId).isSome = true) :
    (∃ written, handleInTransaction host store event consumerSource readings = .ok written) ↔
      ∃ handled, handleLiveSimGatewayEvent host readings.settings.liveSim store.liveSim event
        readings.ids readings.now = .ok handled := by
  constructor
  · rintro ⟨written, success⟩
    rw [handleInTransaction, Checked.bind_eq_ok] at success
    rcases success with ⟨handled, handles, _⟩
    exact ⟨handled, handles⟩
  · rintro ⟨⟨liveSim, reply⟩, handles⟩
    have stated : ResultReport.Stated
        { projectionName := liveSimLifecycleProjection
          eventId := event.eventId
          status := .success
          outcome := if reply.handled then "HANDLED" else "IGNORED"
          eventRowid := none
          eventType := some event.eventType
          eventReceivedAt := none
          errorMessage := none } := by
      have name : Text.lower (Text.strip liveSimLifecycleProjection) =
          liveSimLifecycleProjection ∧ liveSimLifecycleProjection ≠ "" := by decide
      refine ⟨name.1, name.2, event.eventId_stripped, ?_, ?_, rfl⟩
      · dsimp only
        split
        · decide
        · decide
      · intro isError
        cases isError
    have records := @ResultReport.Stated.records _ stated store.ledger stored readings.now
    rcases records with ⟨ledger, _, recorded, _⟩
    exact ⟨_, Checked.bind_eq_ok.mpr ⟨_, handles, Checked.bind_eq_ok.mpr ⟨_, recorded, rfl⟩⟩⟩

/-- How an apply on behalf of the gateway ends, from the row. -/
theorem finishInlineApply_isError_iff {host : Host} {store : LifecycleStore} {event : GatewayEvent}
    {turn : LifecycleTurn} {row : InboxRow}
    (stored : (store.ledger.events.find? event.eventId).isSome = true)
    (found : store.inbox.find? event.eventId = some row) :
    (∃ failure, (finishInlineApply store event turn.failing
        (applyLifecycleEvent host store event "gateway_inline_compatibility" none
          turn.applying)).2 = .error failure) ↔
      row.status = .deadLetter ∨ row.status = .pending ∧
        ∃ failure, handleLiveSimGatewayEvent host turn.applying.settings.liveSim store.liveSim
          event turn.applying.ids turn.applying.now = .error failure := by
  have handles := @handleInTransaction_isOk_iff host store event "gateway_inline_compatibility"
    turn.applying stored
  unfold applyLifecycleEvent
  rw [found]
  cases status : row.status with
  | applied => simp [refusesApply, status, finishInlineApply]
  | deadLetter => simp [refusesApply, status, finishInlineApply]
  | processing => simp [refusesApply, status, finishInlineApply]
  | pending =>
      simp only [refusesApply, status, Option.isSome_none, if_false, reduceCtorEq, true_and,
        false_or]
      cases transaction : handleInTransaction host store event "gateway_inline_compatibility"
          turn.applying with
      | ok written =>
          rcases handles.mp ⟨written, transaction⟩ with ⟨handled, isHandled⟩
          simp [finishInlineApply, isHandled]
      | error failure =>
          have unhandled : ∃ failure, handleLiveSimGatewayEvent host
              turn.applying.settings.liveSim store.liveSim event turn.applying.ids
              turn.applying.now = .error failure := by
            cases isHandled : handleLiveSimGatewayEvent host turn.applying.settings.liveSim
                store.liveSim event turn.applying.ids turn.applying.now with
            | error failure => exact ⟨failure, rfl⟩
            | ok handled =>
                rcases handles.mpr ⟨handled, isHandled⟩ with ⟨written, success⟩
                rw [transaction] at success
                cases success
          refine iff_of_true ?_ unhandled
          simp only [finishInlineApply]
          split
          · exact ⟨_, rfl⟩
          · exact ⟨_, rfl⟩

/-- The routing of an accepted lifecycle event raises exactly where its apply does. -/
theorem routeLiveSimLifecycleGatewayEvent_isError_iff {host : Host} {store : LifecycleStore}
    (sound : InboxSound store) {event : GatewayEvent}
    (isLifecycle : isLiveSimLifecycleEvent event.eventType = true)
    (accepts : store.Accepts event.eventId) (turn : LifecycleTurn) :
    (∃ failure, (routeLiveSimLifecycleGatewayEvent host store event turn).2 = .error failure) ↔
      InlineFails host store event turn := by
  rcases enqueue_of_accepts sound isLifecycle accepts turn.enqueued with
    ⟨enqueued, row, enqueues, found⟩
  have same := sameEvents_enqueue enqueues
  have isEnqueued : store.enqueued event turn.enqueued = enqueued := by
    simp only [LifecycleStore.enqueued, enqueues]
  have inboxSound := inboxSound_enqueue sound enqueues
  rcases @routeLiveSimLifecycleEvent_of_row enqueued event turn.routing row found with
    ⟨decisions, routes⟩
  have routedAccepts : LifecycleStore.Accepts { enqueued with decisions := decisions }
      event.eventId := by
    rw [same.1.gatewayEvents]
    exact accepts
  have routedSound : InboxSound { enqueued with decisions := decisions } :=
    inboxSound.of_same ⟨rfl, rfl, rfl⟩ (SamePlaces.refl _)
  have stored : (enqueued.ledger.events.find? event.eventId).isSome = true := by
    rcases routedAccepts.cases routedSound with ⟨_, position, _, _, isPosition⟩
    exact Option.isSome_of_mem isPosition
  have applies := @finishInlineApply_isError_iff host { enqueued with decisions := decisions }
    event turn row stored found
  have liveSim : store.liveSim = enqueued.liveSim := same.2.1.symm
  unfold routeLiveSimLifecycleGatewayEvent InlineFails
  simp only [enqueues, routes, isEnqueued, found, liveSim, Option.mem_def, Option.some.injEq,
    exists_eq_left', processLiveSimLifecycleInline,
    enqueue_of_row routedSound routedAccepts found turn.enqueued]
  cases inline : (decisionAtTurn enqueued event row turn.routing).appliesInline with
  | true =>
      simp only [Bool.or_true, true_and]
      exact applies
  | false =>
      simp only [Bool.or_false, Bool.false_eq_true, false_and, iff_false]
      split
      · next applied =>
          rw [applies]
          simp [of_decide_eq_true applied]
      · rintro ⟨failure, fails⟩
        cases fails

/-! ## The store between two turns -/

/-- The event rows, and what the lifecycle consumer reads of them, belong together. -/
structure IngestSound (store : IngestStore) : Prop where
  rawStored : ∀ eventId, (store.database.rawEvents.find? eventId).isSome =
    (store.database.gatewayEvents.find? eventId).isSome
  statuses : ∀ eventId,
    (store.database.gatewayEvents.find? eventId).map (fun row => decide (row.status = "ACCEPTED")) =
      (store.lifecycle.gatewayEvents.find? eventId).map StoredEvent.accepted
  inbox : InboxSound store.lifecycle

theorem ingestSound_initial (catalog : Catalog) (appMetadata : List (String × String))
    (inboxStartedAt : String) :
    IngestSound (IngestStore.initial catalog appMetadata inboxStartedAt) := by
  refine ⟨fun _ => rfl, fun _ => rfl, ⟨fun _ => rfl, ?_, ?_⟩⟩
  · intro row present
    cases present
  · intro left present
    cases present

def IngestStore.Stores (store : IngestStore) (eventId : String) : Prop :=
  (store.database.rawEvents.find? eventId).isSome = true

theorem insertEventRows_eq_ok {db inserted : Database} {event : GatewayEvent}
    {receivedAt status : String} {errorMessage : Option String}
    (success : insertEventRows db event receivedAt status errorMessage = .ok inserted) :
    db.rawEvents.insert? (rawEventRow event receivedAt) = some inserted.rawEvents ∧
      db.gatewayEvents.insert? (gatewayEventRow event receivedAt status errorMessage) =
        some inserted.gatewayEvents := by
  rw [insertEventRows] at success
  split at success
  · next rawEvents gatewayEvents raw gateway =>
      cases success
      exact ⟨raw, gateway⟩
  · cases success
  · cases success

theorem isSome_countDuplicate (rows : Table RawEventRow) (counted eventId : String) :
    ((rows.update counted countDuplicate key_countDuplicate).find? eventId).isSome =
      (rows.find? eventId).isSome := by
  by_cases same : eventId = counted
  · subst same
    cases found : rows.find? eventId with
    | none => rw [Table.find?_update_of_none found, found]
    | some row =>
        rw [Table.find?_update_self found]
        rfl
  · rw [Table.find?_update_of_ne same]

/-- The rows of an appended event, and what the result says of it. -/
inductive Appends (store : IngestStore) (event : GatewayEvent) (result : AppendGatewayEventResult)
    (written : IngestStore) : Prop where
  | again (present : store.Stores event.eventId) (lifecycle : written.lifecycle = store.lifecycle)
      (stored : ∀ eventId, (written.database.rawEvents.find? eventId).isSome =
        (store.database.rawEvents.find? eventId).isSome)
      (gatewayEvents : written.database.gatewayEvents = store.database.gatewayEvents)
      (status : result.status ≠ "CONFLICT" → result.duplicate = true ∧
        (store.database.gatewayEvents.find? event.eventId).map GatewayEventRow.status =
          some result.status)
  | isNew (receivedAt : String) (absent : ¬ store.Stores event.eventId)
      (duplicate : result.duplicate = false) (conflict : result.status ≠ "CONFLICT")
      (lifecycle : written.lifecycle =
        store.lifecycle.storeEvent event (result.status = "ACCEPTED") receivedAt)
      (raw : store.database.rawEvents.insert? (rawEventRow event receivedAt) =
        some written.database.rawEvents)
      (gateway : store.database.gatewayEvents.insert?
        (gatewayEventRow event receivedAt result.status result.errorMessage) =
          some written.database.gatewayEvents)

theorem status_of_classifyEvent {host : Host} {eventType : String} {payload : Payload}
    {status : String} {message : Option String}
    (classified : classifyEvent host eventType payload = .ok (status, message)) :
    status = "ACCEPTED" ∨ status = "REJECTED" ∨ status = "UNKNOWN_EVENT_TYPE" := by
  rw [classifyEvent] at classified
  split at classified
  · split at classified
    · cases classified
      exact Or.inl rfl
    · cases classified
      exact Or.inr (Or.inl rfl)
    · cases classified
  · cases classified
    exact Or.inr (Or.inr rfl)

theorem appends_of_append {host : Host} {store : IngestStore} (sound : IngestSound store)
    {event : GatewayEvent} {readings : AppendReadings} {result : AppendGatewayEventResult}
    {database : Database}
    (success : appendGatewayEvent host store.database event readings = .ok (result, database)) :
    Appends store event result (store.appended event result database readings.received) := by
  rw [appendGatewayEvent] at success
  cases found : store.database.rawEvents.find? event.eventId with
  | some existing =>
      rw [found, Except.ok.injEq, appendAgain] at success
      have present : store.Stores event.eventId := Option.isSome_of_mem found
      split at success
      · cases success
        refine .again present ?_ ?_ rfl ?_
        · simp [IngestStore.appended]
        · exact isSome_countDuplicate store.database.rawEvents event.eventId
        · have stored := sound.rawStored event.eventId
          rw [found] at stored
          rcases Option.isSome_iff_exists.mp stored.symm with ⟨row, isRow⟩
          simp [isRow]
      · cases success
        refine .again present ?_ (fun _ => rfl) rfl ?_
        · simp [IngestStore.appended]
        · intro notConflict
          exact absurd rfl notConflict
  | none =>
      rw [found] at success
      rcases appendNew_cases success with
        ⟨inserted, gatewayStatus, inserts, classified, duplicate, records⟩
      rcases insertEventRows_eq_ok inserts with ⟨raw, gateway⟩
      rcases recordTrackedEvent_events records with ⟨rawSame, gatewaySame⟩
      have notConflict : result.status ≠ "CONFLICT" := by
        rcases status_of_classifyEvent classified with status | status | status
        · rw [status]
          decide
        · rw [status]
          decide
        · rw [status]
          decide
      refine .isNew (datetimeToWire readings.received) ?_ duplicate notConflict ?_ ?_ ?_
      · simp [IngestStore.Stores, found]
      · simp [IngestStore.appended, duplicate, notConflict]
      · rw [raw]
        exact congrArg some rawSame.symm
      · rw [gateway]
        exact congrArg some gatewaySame.symm

/-- An append keeps the store sound. -/
theorem Appends.sound {store written : IngestStore} {event : GatewayEvent}
    {result : AppendGatewayEventResult} (appends : Appends store event result written)
    (sound : IngestSound store) : IngestSound written := by
  cases appends with
  | again present lifecycle stored gatewayEvents status =>
      refine ⟨?_, ?_, ?_⟩
      · intro eventId
        rw [stored, gatewayEvents]
        exact sound.rawStored eventId
      · intro eventId
        rw [gatewayEvents, lifecycle]
        exact sound.statuses eventId
      · rw [lifecycle]
        exact sound.inbox
  | isNew receivedAt absent duplicate conflict lifecycle raw gateway =>
      have freshGateway : store.database.gatewayEvents.find? event.eventId = none :=
        Table.insert?_isSome_iff.mp (Option.isSome_of_mem gateway)
      have freshStored : store.lifecycle.gatewayEvents.find? event.eventId = none := by
        have statuses := sound.statuses event.eventId
        rw [freshGateway] at statuses
        exact Option.map_eq_none_iff.mp statuses.symm
      refine ⟨?_, ?_, ?_⟩
      · intro eventId
        by_cases same : event.eventId = eventId
        · subst same
          have isRaw := Table.find?_of_insert?_self raw
          have isGateway := Table.find?_of_insert?_self gateway
          change written.database.rawEvents.find? event.eventId = _ at isRaw
          change written.database.gatewayEvents.find? event.eventId = _ at isGateway
          rw [isRaw, isGateway]
          rfl
        · rw [Table.find?_of_insert?_of_ne raw same, Table.find?_of_insert?_of_ne gateway same]
          exact sound.rawStored eventId
      · intro eventId
        rw [lifecycle]
        have storedNow : (store.lifecycle.storeEvent event (result.status = "ACCEPTED")
            receivedAt).gatewayEvents.find? eventId =
            if eventId = event.eventId then
              some { event := event, accepted := result.status = "ACCEPTED" }
            else store.lifecycle.gatewayEvents.find? eventId := by
          have stores := Table.insert?_isSome_iff.mpr
            (show store.lifecycle.gatewayEvents.find?
              (Keyed.key ({ event := event, accepted := result.status = "ACCEPTED" } :
                StoredEvent)) = none from freshStored)
          have positions : (store.lifecycle.ledger.events.insert?
              { eventId := event.eventId
                eventRowid := nextEventRowid store.lifecycle.ledger.events
                eventType := event.eventType
                receivedAt := receivedAt }).isSome = true := by
            apply Table.insert?_isSome_iff.mpr
            have positioned := sound.inbox.positioned event.eventId
            rw [freshStored] at positioned
            exact Option.not_isSome_iff_eq_none.mp (by
              change ¬ (store.lifecycle.ledger.events.find? event.eventId).isSome = true
              simp [← positioned])
          rcases Option.isSome_iff_exists.mp stores with ⟨gatewayEvents, inserts⟩
          rcases Option.isSome_iff_exists.mp positions with ⟨events, inserts'⟩
          simp only [LifecycleStore.storeEvent, inserts, inserts']
          split
          · next same =>
              rw [same]
              exact Table.find?_of_insert?_self inserts
          · next different =>
              exact Table.find?_of_insert?_of_ne inserts (Ne.symm different)
        rw [storedNow]
        by_cases same : eventId = event.eventId
        · rw [if_pos same, same]
          have isGateway := Table.find?_of_insert?_self gateway
          change written.database.gatewayEvents.find? event.eventId = _ at isGateway
          rw [isGateway]
          rfl
        · rw [if_neg same, Table.find?_of_insert?_of_ne gateway (Ne.symm same)]
          exact sound.statuses eventId
      · rw [lifecycle]
        exact inboxSound_storeEvent sound.inbox _ _ _

/-- The event is one that the store takes as accepted at its turn: a new one that passes its
check, or the duplicate of an accepted one. -/
def acceptedAtTurn (db : Database) (event : GatewayEvent) : Bool :=
  match db.rawEvents.find? event.eventId with
  | some existing =>
      existing.payloadHash = hashPayloadJson (canonicalJson event.payload) &&
        (db.gatewayEvents.find? event.eventId).any fun row => row.status = "ACCEPTED"
  | none =>
      match classifyEvent host (normalizeEventType event.eventType) event.payload with
      | .ok (status, _) => status = "ACCEPTED"
      | .error _ => false

theorem status_eq_accepted_iff {host : Host} {store : IngestStore} (sound : IngestSound store)
    {event : GatewayEvent} {readings : AppendReadings} {result : AppendGatewayEventResult}
    {database : Database}
    (success : appendGatewayEvent host store.database event readings = .ok (result, database)) :
    result.status = "ACCEPTED" ↔ acceptedAtTurn host store.database event = true := by
  rw [appendGatewayEvent] at success
  rw [acceptedAtTurn]
  cases found : store.database.rawEvents.find? event.eventId with
  | some existing =>
      rw [found, Except.ok.injEq, appendAgain] at success
      have stored := sound.rawStored event.eventId
      rw [found] at stored
      rcases Option.isSome_iff_exists.mp stored.symm with ⟨row, isRow⟩
      split at success
      · next same =>
          cases success
          simp [same, isRow]
      · next different =>
          cases success
          simp [different]
  | none =>
      rw [found] at success
      rcases appendNew_cases success with ⟨_, _, _, classified, _⟩
      rw [classified]
      simp

theorem Appends.accepts {store written : IngestStore} {event : GatewayEvent}
    {result : AppendGatewayEventResult} (appends : Appends store event result written)
    (sound : IngestSound store) (accepted : result.status = "ACCEPTED") :
    written.lifecycle.Accepts event.eventId := by
  have after := appends.sound sound
  unfold LifecycleStore.Accepts
  rw [← after.statuses]
  cases appends with
  | again present lifecycle stored gatewayEvents status =>
      have isStatus := (status (by rw [accepted]; decide)).2
      rcases Option.map_eq_some_iff.mp isStatus with ⟨row, found, same⟩
      rw [gatewayEvents, found]
      simp [same, accepted]
  | isNew receivedAt absent duplicate conflict lifecycle raw gateway =>
      have isGateway := Table.find?_of_insert?_self gateway
      change written.database.gatewayEvents.find? event.eventId = _ at isGateway
      rw [isGateway]
      simp [gatewayEventRow, accepted]

/-! ## One turn -/

structure RoutingKeeps (before after : LifecycleStore) : Prop where
  sound : InboxSound after
  gatewayEvents : after.gatewayEvents = before.gatewayEvents

theorem RoutingKeeps.trans {first second third : LifecycleStore}
    (here : RoutingKeeps first second) (later : RoutingKeeps second third) :
    RoutingKeeps first third :=
  ⟨later.sound, later.gatewayEvents.trans here.gatewayEvents⟩

theorem routingKeeps_of_same {before after : LifecycleStore} (sound : InboxSound before)
    (same : SameEvents before after) (places : SamePlaces before.inbox after.inbox) :
    RoutingKeeps before after :=
  ⟨sound.of_same same places, same.gatewayEvents⟩

theorem RoutingKeeps.refl (sound : InboxSound store) :
    RoutingKeeps store store :=
  ⟨sound, rfl⟩

theorem routingKeeps_enqueue {store enqueued : LifecycleStore} (sound : InboxSound store)
    {event : GatewayEvent} {now : Instant}
    (success : enqueueLiveSimLifecycleEvent store event now = .ok enqueued) :
    RoutingKeeps store enqueued :=
  ⟨inboxSound_enqueue sound success, (sameEvents_enqueue success).1.gatewayEvents⟩

theorem routingKeeps_finish {host : Host} {store : LifecycleStore} (sound : InboxSound store)
    (event : GatewayEvent) (turn : LifecycleTurn) :
    RoutingKeeps store (finishInlineApply store event turn.failing
      (applyLifecycleEvent host store event "gateway_inline_compatibility" none
        turn.applying)).1 := by
  rcases @applyLifecycleEvent_cases host store event "gateway_inline_compatibility" none
      turn.applying with ⟨notApplied, _⟩ | ⟨row, written, _, _, handles, applies⟩
  · generalize applyLifecycleEvent host store event "gateway_inline_compatibility" none
      turn.applying = outcome at notApplied
    rcases outcome with ⟨after, applyEnd⟩
    cases applyEnd with
    | applied => exact absurd rfl notApplied
    | duplicate => exact RoutingKeeps.refl sound
    | deadLetter => exact RoutingKeeps.refl sound
    | deferred => exact RoutingKeeps.refl sound
    | claimLost => exact RoutingKeeps.refl sound
    | rowMissing => exact RoutingKeeps.refl sound
    | raised message =>
        simp only [finishInlineApply]
        split
        · next marked marks =>
            rcases markLifecycleFailure_eq_ok marks with rfl | ⟨row, ledger, _, events, rfl⟩
            · exact RoutingKeeps.refl sound
            · apply routingKeeps_of_same sound
              · exact ⟨rfl, events, rfl⟩
              · exact samePlaces_updateWhere (key_failedRow _ _ _) fun _ => rfl
        · exact RoutingKeeps.refl sound
  · rw [applies]
    rcases sameEvents_handleInTransaction handles with ⟨events, _, reply, inbox⟩
    apply routingKeeps_of_same sound events
    rw [inbox]
    exact samePlaces_updateWhere (key_appliedRow _ _ _) fun _ => rfl

theorem routingKeeps_inline {host : Host} {store : LifecycleStore} (sound : InboxSound store)
    (event : GatewayEvent) (turn : LifecycleTurn) :
    RoutingKeeps store (processLiveSimLifecycleInline host store event turn).1 := by
  unfold processLiveSimLifecycleInline
  split
  · exact RoutingKeeps.refl sound
  · next enqueued enqueues =>
      have here := routingKeeps_enqueue sound enqueues
      exact here.trans (routingKeeps_finish here.sound event turn)

theorem routingKeeps_route {host : Host} {store : LifecycleStore} (sound : InboxSound store)
    (event : GatewayEvent) (turn : LifecycleTurn) :
    RoutingKeeps store (routeLiveSimLifecycleGatewayEvent host store event turn).1 := by
  unfold routeLiveSimLifecycleGatewayEvent
  split
  · exact RoutingKeeps.refl sound
  · next enqueued enqueues =>
      have here := routingKeeps_enqueue sound enqueues
      split
      · exact here
      · next routed inline routes =>
          rcases routeLiveSimLifecycleEvent_cases routes with ⟨decisions, rfl⟩
          have decided : RoutingKeeps enqueued { enqueued with decisions := decisions } :=
            routingKeeps_of_same here.sound ⟨rfl, rfl, rfl⟩ (SamePlaces.refl _)
          split
          · exact (here.trans decided).trans (routingKeeps_inline decided.sound event turn)
          · exact here.trans decided

theorem projectAppended_keeps {host : Host} {store : IngestStore} (sound : IngestSound store)
    (event : GatewayEvent) (result : AppendGatewayEventResult) (turn : EventTurn) :
    (projectAppended host store event result turn).1.database = store.database ∧
      IngestSound (projectAppended host store event result turn).1 := by
  unfold projectAppended
  split
  · split
    · exact ⟨rfl, sound⟩
    · split
      · have keeps := @routingKeeps_route host store.lifecycle sound.inbox event turn.lifecycle
        generalize routeLiveSimLifecycleGatewayEvent host store.lifecycle event turn.lifecycle =
          routed at keeps
        rcases routed with ⟨lifecycle, outcome⟩
        refine ⟨rfl, sound.rawStored, ?_, keeps.sound⟩
        intro eventId
        have same : lifecycle.gatewayEvents = store.lifecycle.gatewayEvents := keeps.gatewayEvents
        rw [same]
        exact sound.statuses eventId
      · exact ⟨rfl, sound⟩
  · exact ⟨rfl, sound⟩

theorem Appends.stores {store written : IngestStore} {event : GatewayEvent}
    {result : AppendGatewayEventResult} (appends : Appends store event result written) :
    written.Stores event.eventId ∧ ∀ eventId, store.Stores eventId → written.Stores eventId := by
  cases appends with
  | again present lifecycle stored gatewayEvents status =>
      unfold IngestStore.Stores
      refine ⟨?_, ?_⟩
      · rw [stored]
        exact present
      · intro eventId isStored
        rw [stored]
        exact isStored
  | isNew receivedAt absent duplicate conflict lifecycle raw gateway =>
      have isRaw := Table.find?_of_insert?_self raw
      refine ⟨Option.isSome_of_mem isRaw, ?_⟩
      intro eventId isStored
      rcases Option.isSome_iff_exists.mp isStored with ⟨row, found⟩
      exact Option.isSome_of_mem (Table.find?_of_insert?_of_some raw found)

theorem processGatewayEvent_keeps {host : Host} {store : IngestStore} (sound : IngestSound store)
    (event : GatewayEvent) (turn : EventTurn) :
    IngestSound (store.processGatewayEvent host event turn).1 ∧
      ∀ eventId, store.Stores eventId →
        (store.processGatewayEvent host event turn).1.Stores eventId := by
  unfold IngestStore.processGatewayEvent
  split
  · exact ⟨sound, fun _ stored => stored⟩
  · split
    · exact ⟨sound, fun _ stored => stored⟩
    · next result database success =>
        have appends := appends_of_append sound success
        have keeps := @projectAppended_keeps host _ (appends.sound sound) event result turn
        have stores : ∀ eventId, store.Stores eventId →
            (projectAppended host (store.appended event result database turn.append.received)
              event result turn).1.Stores eventId := by
          intro eventId stored
          unfold IngestStore.Stores
          rw [keeps.1]
          exact appends.stores.2 eventId stored
        split
        · next written failure projects =>
            rw [projects] at keeps stores
            exact ⟨keeps.2, stores⟩
        · next written projects =>
            rw [projects] at keeps stores
            exact ⟨keeps.2, stores⟩

/-! ## Poisonous events -/

def IngestStore.lifecycleAtTurn (store : IngestStore) (item : BatchItem) : LifecycleStore :=
  if (store.database.rawEvents.find? item.event.eventId).isSome then store.lifecycle
  else store.lifecycle.storeEvent item.event true (datetimeToWire item.turn.append.received)

/-- An event whose processing raises: the event store cannot append it, a market projection of a
new event raises, or the gateway cannot apply it. -/
inductive Poisons (host : Host) (store : IngestStore) (item : BatchItem) : Prop where
  | append (failure : Failure)
      (raises : appendGatewayEvent host store.database item.event item.turn.append =
        .error failure)
  | projection (message : String)
      (accepted : acceptedAtTurn host store.database item.event = true)
      (isNew : ¬ store.Stores item.event.eventId)
      (raises : item.turn.projectionFailure = some message)
  | lifecycle (accepted : acceptedAtTurn host store.database item.event = true)
      (isLifecycle : isLiveSimLifecycleEvent item.event.eventType = true)
      (fails : InlineFails host (store.lifecycleAtTurn item) item.event item.turn.lifecycle)

theorem Appends.duplicate_iff {store written : IngestStore} {event : GatewayEvent}
    {result : AppendGatewayEventResult} (appends : Appends store event result written)
    (accepted : result.status = "ACCEPTED") :
    result.duplicate = true ↔ store.Stores event.eventId := by
  cases appends with
  | again present lifecycle stored gatewayEvents status =>
      exact iff_of_true (status (by rw [accepted]; decide)).1 present
  | isNew receivedAt absent duplicate conflict lifecycle raw gateway =>
      exact iff_of_false (by simp [duplicate]) absent

theorem lifecycle_appended {host : Host} {store : IngestStore} (sound : IngestSound store)
    {item : BatchItem} {result : AppendGatewayEventResult} {database : Database}
    (success : appendGatewayEvent host store.database item.event item.turn.append =
      .ok (result, database)) (accepted : result.status = "ACCEPTED") :
    (store.appended item.event result database item.turn.append.received).lifecycle =
      store.lifecycleAtTurn item := by
  have duplicate := (appends_of_append sound success).duplicate_iff accepted
  unfold IngestStore.appended IngestStore.lifecycleAtTurn
  unfold IngestStore.Stores at duplicate
  simp [accepted, duplicate]

/-- A turn raises exactly for a poisonous event. -/
theorem raised_iff {host : Host} {store : IngestStore} (sound : IngestSound store)
    {item : BatchItem} (unlocked : item.turn.locked = false) :
    (∃ failure, (store.processGatewayEvent host item.event item.turn).2 = .raised failure) ↔
      Poisons host store item := by
  unfold IngestStore.processGatewayEvent
  simp only [unlocked, Bool.false_eq_true, if_false]
  cases appended : appendGatewayEvent host store.database item.event item.turn.append with
  | error failure =>
      exact iff_of_true ⟨failure, rfl⟩ (.append failure appended)
  | ok outcome =>
      rcases outcome with ⟨result, database⟩
      have appends := appends_of_append sound appended
      have acceptedIff := status_eq_accepted_iff sound appended
      have raisedIff : (∃ failure, (projectAppended host
          (store.appended item.event result database item.turn.append.received) item.event result
          item.turn).2 = .error failure) ↔ Poisons host store item := by
        unfold projectAppended
        by_cases accepted : result.status = "ACCEPTED"
        · have isAccepted := acceptedIff.mp accepted
          have duplicateIff := appends.duplicate_iff accepted
          rw [if_pos accepted]
          split
          · next message raises =>
              refine iff_of_true ⟨_, rfl⟩ ?_
              split at raises
              · cases raises
              · next isNew =>
                  exact .projection message isAccepted
                    (fun stored => isNew (duplicateIff.mpr stored)) raises
          · next passes =>
              have noProjection : ∀ message, ¬ store.Stores item.event.eventId →
                  item.turn.projectionFailure ≠ some message := by
                intro message isNew raises
                rw [if_neg (fun duplicate => isNew (duplicateIff.mp duplicate))] at passes
                rw [raises] at passes
                cases passes
              by_cases isLifecycle : isLiveSimLifecycleEvent item.event.eventType = true
              · rw [if_pos isLifecycle]
                have soundAfter := appends.sound sound
                have routes := @routeLiveSimLifecycleGatewayEvent_isError_iff host _
                  soundAfter.inbox item.event isLifecycle (appends.accepts sound accepted)
                rw [routes, lifecycle_appended sound appended accepted]
                constructor
                · exact .lifecycle isAccepted isLifecycle
                · intro poisons
                  cases poisons with
                  | append failure raises =>
                      rw [appended] at raises
                      cases raises
                  | projection message _ isNew raises =>
                      exact absurd raises (noProjection message isNew)
                  | lifecycle _ _ fails => exact fails
              · rw [if_neg isLifecycle]
                refine iff_of_false nofun ?_
                intro poisons
                cases poisons with
                | append failure raises =>
                    rw [appended] at raises
                    cases raises
                | projection message _ isNew raises =>
                    exact absurd raises (noProjection message isNew)
                | lifecycle _ isOne _ => exact isLifecycle isOne
        · rw [if_neg accepted]
          refine iff_of_false nofun ?_
          intro poisons
          cases poisons with
          | append failure raises =>
              rw [appended] at raises
              cases raises
          | projection _ isAccepted _ _ => exact accepted (acceptedIff.mpr isAccepted)
          | lifecycle isAccepted _ _ => exact accepted (acceptedIff.mpr isAccepted)
      rw [← raisedIff]
      dsimp only
      split
      · next written failure projects =>
          rw [projects]
          exact iff_of_true ⟨failure, rfl⟩ ⟨failure, rfl⟩
      · next written projects =>
          rw [projects]
          refine iff_of_false ?_ nofun
          unfold AppendGatewayEventResult.eventEnd
          rintro ⟨failure, raises⟩
          split at raises
          · cases raises
          · split at raises
            · cases raises
            · cases raises

theorem answers_of_not_poisons {host : Host} {store : IngestStore} (sound : IngestSound store)
    {item : BatchItem} (unlocked : item.turn.locked = false) (clean : ¬ Poisons host store item) :
    ∃ response, (store.processGatewayEvent host item.event item.turn).2.batchResult item.event =
      .ok response := by
  cases ends : (store.processGatewayEvent host item.event item.turn).2 with
  | responded response => exact ⟨_, rfl⟩
  | refused statusCode detail => exact ⟨_, rfl⟩
  | raised failure => exact absurd ((raised_iff sound unlocked).mp ⟨failure, ends⟩) clean
  | lockedRetryable =>
      unfold IngestStore.processGatewayEvent at ends
      simp only [unlocked, Bool.false_eq_true, if_false] at ends
      split at ends
      · cases ends
      · split at ends
        · cases ends
        · unfold AppendGatewayEventResult.eventEnd at ends
          split at ends
          · cases ends
          · split at ends
            · cases ends
            · cases ends

/-! ## A whole batch -/

def turnSystem : System IngestStore BatchItem Unit where
  step store item := ((store.processGatewayEvent host item.event item.turn).1, ())

theorem next_turnSystem (store : IngestStore) (item : BatchItem) :
    (turnSystem host).next store item =
      (store.processGatewayEvent host item.event item.turn).1 :=
  rfl

def storeAtTurn (store : IngestStore) (items : List BatchItem) (index : Nat) :
    IngestStore :=
  (turnSystem host).run store (items.take index)

def AnsweredAlone (store : IngestStore) (item : BatchItem)
    (response : EventResponse) : Prop :=
  (store.processGatewayEvent host item.event item.turn).2.batchResult item.event = .ok response

/-- No event of the batch is poisonous at its turn. -/
def Unpoisoned (store : IngestStore) (items : List BatchItem) : Prop :=
  (turnSystem host).Along (fun store item => ¬ Poisons host store item) store items

/-- The events of the batch are not fast, and no lock is held against the request. -/
def PlainBatch (items : List BatchItem) : Prop :=
  ∀ item ∈ items, isFastBatchEvent item.event = false ∧ item.turn.locked = false

theorem ingestSound_turn {host : Host} {store : IngestStore} (sound : IngestSound store)
    (item : BatchItem) : IngestSound ((turnSystem host).next store item) := by
  exact (processGatewayEvent_keeps sound item.event item.turn).1

theorem ingestSound_run {host : Host} {store : IngestStore} (sound : IngestSound store)
    (items : List BatchItem) : IngestSound ((turnSystem host).run store items) :=
  System.run_invariant IngestSound (fun _ item sound => ingestSound_turn sound item) sound items

theorem stores_run {host : Host} {store : IngestStore} (sound : IngestSound store)
    {eventId : String} (stored : store.Stores eventId) (items : List BatchItem) :
    ((turnSystem host).run store items).Stores eventId := by
  induction items generalizing store with
  | nil => exact stored
  | cons item items ih =>
      apply @ih ((turnSystem host).next store item) (ingestSound_turn sound item)
      exact (processGatewayEvent_keeps sound item.event item.turn).2 eventId stored

theorem mem_take_of_getElem? {items : List BatchItem} {index : Nat} {item : BatchItem}
    (isItem : items[index]? = some item) :
    items.take (index + 1) = items.take index ++ [item] := by
  rw [List.take_add_one, isItem]
  rfl

theorem processNonFastEvents_of_unpoisoned {host : Host} {store : IngestStore}
    (sound : IngestSound store) {items : List BatchItem} (plain : PlainBatch items)
    (clean : Unpoisoned host store items) :
    ∃ results : List EventResponse,
      processNonFastEvents host store items =
        ((turnSystem host).run store items, .ok (results.map some)) ∧
      results.length = items.length ∧
      ∀ index item, items[index]? = some item → ∀ response,
        AnsweredAlone host (storeAtTurn host store items index) item response →
          results[index]? = some response := by
  induction items generalizing store with
  | nil =>
      refine ⟨[], rfl, rfl, ?_⟩
      intro index item isItem
      simp at isItem
  | cons item items ih =>
      have here := plain item List.mem_cons_self
      rcases clean with ⟨cleanHere, cleanLater⟩
      rcases answers_of_not_poisons sound here.2 cleanHere with ⟨response, answered⟩
      rcases @ih ((turnSystem host).next store item) (ingestSound_turn sound item)
        (fun other present => plain other (List.mem_cons_of_mem _ present)) cleanLater with
        ⟨results, processed, lengths, answers⟩
      refine ⟨response :: results, ?_, ?_, ?_⟩
      · rw [next_turnSystem] at processed
        rw [processNonFastEvents, here.1]
        simp only [answered, processed]
        rfl
      · simp [lengths]
      · intro index other isOther otherResponse alone
        cases index with
        | zero =>
            simp only [List.getElem?_cons_zero, Option.some.injEq] at isOther
            subst isOther
            have same : Except.ok response = Except.ok otherResponse := answered.symm.trans alone
            cases same
            rfl
        | succ index =>
            exact answers index other isOther otherResponse alone

theorem processNonFastEvents_of_poisoned {host : Host} {store : IngestStore}
    (sound : IngestSound store) {items : List BatchItem} (plain : PlainBatch items)
    (poisoned : ¬ Unpoisoned host store items) :
    ∃ written failure, processNonFastEvents host store items =
      (written, .error (.raised failure)) := by
  induction items generalizing store with
  | nil => exact absurd (System.along_nil _ store) poisoned
  | cons item items ih =>
      have here := plain item List.mem_cons_self
      rw [processNonFastEvents, here.1]
      by_cases poisons : Poisons host store item
      · rcases (raised_iff sound here.2).mpr poisons with ⟨failure, raises⟩
        simp only [raises]
        exact ⟨_, failure, rfl⟩
      · rcases answers_of_not_poisons sound here.2 poisons with ⟨response, answered⟩
        have poisonedLater : ¬ Unpoisoned host ((turnSystem host).next store item) items :=
          fun clean => poisoned ⟨poisons, clean⟩
        rcases @ih ((turnSystem host).next store item) (ingestSound_turn sound item)
          (fun other present => plain other (List.mem_cons_of_mem _ present)) poisonedLater with
          ⟨written, failure, processed⟩
        rw [next_turnSystem] at processed
        simp only [answered, processed]
        exact ⟨written, failure, rfl⟩

/-- The request completes with one result for each event, at its index, and stores every event that
would be accepted when it is posted alone. -/
structure GoesThrough (host : Host) (store : IngestStore) (items : List BatchItem) : Prop where
  completes : ∃ results, (postGatewayEventsBatch host store items).2 = .completed results ∧
    results.length = items.length ∧
    ∀ index item, items[index]? = some item → ∀ response,
      AnsweredAlone host (storeAtTurn host store items index) item response →
        results[index]? = some response
  stores : ∀ index item, items[index]? = some item → ∀ response,
    AnsweredAlone host (storeAtTurn host store items index) item response →
      response.accepted = true →
        (postGatewayEventsBatch host store items).1.Stores item.event.eventId

theorem stores_of_answered {host : Host} {store : IngestStore} (sound : IngestSound store)
    {item : BatchItem} {response : EventResponse}
    (answered : AnsweredAlone host store item response) :
    (store.processGatewayEvent host item.event item.turn).1.Stores item.event.eventId := by
  unfold AnsweredAlone IngestStore.processGatewayEvent at answered
  unfold IngestStore.processGatewayEvent
  split
  · next locked =>
      rw [if_pos locked] at answered
      cases answered
  · next unlocked =>
      rw [if_neg unlocked] at answered
      split
      · next failure appended =>
          rw [appended] at answered
          cases answered
      · next result database appended =>
          rw [appended] at answered
          have appends := appends_of_append sound appended
          have keeps := @projectAppended_keeps host _ (appends.sound sound) item.event result
            item.turn
          have isStored := appends.stores.1
          dsimp only at answered
          split
          · next written failure projects =>
              rw [projects] at answered
              cases answered
          · next written projects =>
              rw [projects] at keeps
              have same : written.database = _ := keeps.1
              unfold IngestStore.Stores at isStored ⊢
              rw [same]
              exact isStored

theorem goesThrough_iff_of_sound {host : Host} {store : IngestStore} (sound : IngestSound store)
    {items : List BatchItem} (plain : PlainBatch items) :
    GoesThrough host store items ↔
      (items ≠ [] ∧ items.length ≤ 200) ∧ Unpoisoned host store items := by
  constructor
  · rintro ⟨⟨results, completed, _⟩, _⟩
    unfold postGatewayEventsBatch at completed
    split at completed
    · cases completed
    · next nonempty =>
        split at completed
        · cases completed
        · refine ⟨⟨nonempty, by omega⟩, ?_⟩
          by_contra poisoned
          rcases processNonFastEvents_of_poisoned sound plain poisoned with
            ⟨written, failure, processed⟩
          rw [processed] at completed
          cases completed
  · rintro ⟨⟨nonempty, fits⟩, clean⟩
    rcases processNonFastEvents_of_unpoisoned sound plain clean with
      ⟨results, processed, lengths, answers⟩
    have posted : postGatewayEventsBatch host store items =
        ((turnSystem host).run store items, .completed results) := by
      unfold postGatewayEventsBatch
      rw [if_neg nonempty, if_neg (by omega), processed]
      simp
    refine ⟨⟨results, by rw [posted], lengths, answers⟩, ?_⟩
    intro index item isItem response answered _
    rw [posted]
    have soundThen := @ingestSound_run host store sound (items.take index)
    have storedThen := stores_of_answered soundThen answered
    have split : items = items.take (index + 1) ++ items.drop (index + 1) :=
      (List.take_append_drop _ _).symm
    have storedLater := @stores_run host _ (ingestSound_turn soundThen item) _ storedThen
      (items.drop (index + 1))
    rw [split, System.run_append, mem_take_of_getElem? isItem, System.run_append]
    exact storedLater

theorem ingestSound_ingestNext {host : Host} {store : IngestStore} (sound : IngestSound store)
    (op : IngestOp) : IngestSound (ingestNext host store op) := by
  have loop : ∀ (items : List BatchItem) (store : IngestStore), IngestSound store →
      IngestSound (processNonFastEvents host store items).1 := by
    intro items
    induction items with
    | nil => exact fun _ sound => sound
    | cons item items ih =>
        intro store sound
        rw [processNonFastEvents]
        split
        · exact ih store sound
        · have here := (@processGatewayEvent_keeps host store sound item.event item.turn).1
          dsimp only
          split
          · exact here
          · exact ih _ here
  cases op with
  | post items =>
      change IngestSound (postGatewayEventsBatch host store items).1
      unfold postGatewayEventsBatch
      split
      · exact sound
      · split
        · exact sound
        · have processed := loop items store sound
          split
          · next written results same =>
              rw [same] at processed
              exact processed
          · next written batchEnd same =>
              rw [same] at processed
              exact processed
  | lifecycle change keepsEvents keepsPlaces =>
      refine ⟨sound.rawStored, ?_, ?_⟩
      · intro eventId
        change _ = ((change store.lifecycle).gatewayEvents.find? eventId).map _
        rw [(keepsEvents store.lifecycle).gatewayEvents]
        exact sound.statuses eventId
      · exact sound.inbox.of_same (keepsEvents _) (keepsPlaces _)
  | database change keepsEvents =>
      rcases keepsEvents store.database with ⟨rawEvents, gatewayEvents⟩
      refine ⟨?_, ?_, sound.inbox⟩
      · intro eventId
        change ((change store.database).rawEvents.find? eventId).isSome = _
        rw [rawEvents]
        change _ = ((change store.database).gatewayEvents.find? eventId).isSome
        rw [gatewayEvents]
        exact sound.rawStored eventId
      · intro eventId
        change ((change store.database).gatewayEvents.find? eventId).map _ = _
        rw [gatewayEvents]
        exact sound.statuses eventId

/-! ## Posting again -/

theorem length_addMatching_le {limit : Nat} {isMatching : QueuedEvent → Bool}
    (events : List QueuedEvent) (itemLimit : Nat) (selected : List QueuedEvent)
    (fits : selected.length ≤ limit) :
    (addMatching limit isMatching events itemLimit selected).length ≤ limit := by
  induction events generalizing itemLimit selected with
  | nil => exact fits
  | cons queued events ih =>
      rw [addMatching]
      split
      · exact fits
      · split
        · exact ih _ _ fits
        · apply ih
          simp only [List.length_append, List.length_singleton]
          omega

theorem length_selectEventBatch_le (settings : CoreIoSettings) (worker : CoreIoWorker) :
    (selectEventBatch settings worker).length ≤ 200 := by
  have bound := settings.eventBatchSize_le
  have fits : (selectEventBatch settings worker).length ≤
      min settings.eventBatchSize worker.events.length := by
    apply length_addMatching_le
    apply length_addMatching_le
    apply length_addMatching_le
    apply length_addMatching_le
    simp
  omega

variable (events : List QueuedEvent)

theorem length_batchItems (turns : Nat → EventTurn) :
    (batchItems events turns).length = events.length := by
  simp [batchItems]

theorem isCompleted_iff {host : Host} {store : IngestStore} (sound : IngestSound store)
    {items : List BatchItem} (plain : PlainBatch items) (nonempty : items ≠ [])
    (fits : items.length ≤ 200) :
    (postGatewayEventsBatch host store items).2.isCompleted = true ↔
      Unpoisoned host store items := by
  constructor
  · intro completed
    by_contra poisoned
    rcases processNonFastEvents_of_poisoned sound plain poisoned with
      ⟨written, failure, processed⟩
    unfold postGatewayEventsBatch at completed
    rw [if_neg nonempty, if_neg (by omega), processed] at completed
    cases completed
  · intro clean
    rcases ((goesThrough_iff_of_sound sound plain).mpr ⟨⟨nonempty, fits⟩, clean⟩).completes with
      ⟨results, completed, _⟩
    rw [completed]
    rfl

theorem postNextEventBatch_of_selects {host : Host} {settings : CoreIoSettings}
    {state : PostingState} {first : QueuedEvent} {rest : List QueuedEvent}
    (free : state.worker.inFlight = none)
    (selects : selectEventBatch settings state.worker.worker = first :: rest)
    (turns : Nat → EventTurn) :
    let outcome := postGatewayEventsBatch host state.server (batchItems (first :: rest) turns)
    (postNextEventBatch host settings state turns).server = outcome.1 ∧
      (outcome.2.isCompleted = false →
        (postNextEventBatch host settings state turns).worker = state.worker) ∧
      (outcome.2.isCompleted = true →
        (postNextEventBatch host settings state turns).worker.posted =
          state.worker.posted ++ first :: rest) := by
  rcases state with ⟨server, ⟨worker, inFlight, enqueued, posted, dropped, replaced⟩⟩
  subst free
  unfold postNextEventBatch
  simp only [CoreIoHistory.next, CoreIoHistory.starts, selects, CoreIoPost.events]
  generalize postGatewayEventsBatch host server (batchItems (first :: rest) turns) = outcome
  rcases outcome with ⟨after, batchEnd⟩
  refine ⟨True.intro, ?_, ?_⟩
  · intro failed
    simp only [failed]
  · intro completed
    simp only [completed]

theorem length_posted_le {host : Host} {settings : CoreIoSettings} (history : CoreIoHistory)
    (op : CoreIoOp) :
    history.posted.length ≤ (history.next host settings op).posted.length := by
  rcases history with ⟨worker, inFlight, enqueued, posted, dropped, replaced⟩
  cases op with
  | enqueue event =>
      rw [CoreIoHistory.next]
      split
      · exact le_of_eq (by simp [CoreIoHistory.enqueue])
      · exact le_refl _
  | startBatch =>
      cases inFlight with
      | none => exact le_refl _
      | some post => exact le_refl _
  | startSingle =>
      cases inFlight with
      | none => exact le_refl _
      | some post => exact le_refl _
  | finish accepted =>
      cases inFlight with
      | none => cases accepted <;> exact le_refl _
      | some post =>
          cases accepted with
          | true => simp [CoreIoHistory.next]
          | false => exact le_refl _

theorem length_posted_le_attempt {host : Host} {settings : CoreIoSettings} (state : PostingState)
    (turns : Nat → EventTurn) :
    state.worker.posted.length ≤
      (postNextEventBatch host settings state turns).worker.posted.length := by
  have started := @length_posted_le host settings state.worker .startBatch
  unfold postNextEventBatch
  dsimp only
  split
  · exact started
  · exact started.trans (length_posted_le _ _)

theorem length_posted_le_run {host : Host} {settings : CoreIoSettings} (state : PostingState)
    (ops : List PostingOp) :
    state.worker.posted.length ≤
      ((postingSystem host settings).run state ops).worker.posted.length := by
  induction ops generalizing state with
  | nil => exact le_refl _
  | cons op ops ih =>
      refine le_trans ?_ (ih _)
      cases op with
      | attempt turns => exact length_posted_le_attempt state turns
      | server op => exact le_refl _

/-- No attempt at posting the batch meets a fast event or a lock. -/
def PlainAttempts (ops : List PostingOp) : Prop :=
  ∀ turns, .attempt turns ∈ ops → PlainBatch (batchItems events turns)

/-- The attempt finds a poisonous event in the batch. -/
def AttemptPoisoned (state : PostingState) :
    PostingOp → Prop
  | .attempt turns => ¬ Unpoisoned host state.server (batchItems events turns)
  | .server _ => True

/-- The batch is still queued exactly when every attempt at it found a poisonous event. -/
theorem batch_stays_iff_of_sound {host : Host} {settings : CoreIoSettings} {state : PostingState}
    (sound : IngestSound state.server) {first : QueuedEvent} {rest : List QueuedEvent}
    (free : state.worker.inFlight = none)
    (selects : selectEventBatch settings state.worker.worker = first :: rest)
    (ops : List PostingOp) (plain : PlainAttempts (first :: rest) ops) :
    ((postingSystem host settings).run state ops).worker.posted = state.worker.posted ↔
      (postingSystem host settings).Along (AttemptPoisoned host (first :: rest)) state ops := by
  have fits : (first :: rest).length ≤ 200 := by
    rw [← selects]
    exact length_selectEventBatch_le settings state.worker.worker
  induction ops generalizing state with
  | nil => exact iff_of_true rfl (System.along_nil _ state)
  | cons op ops ih =>
      have plainLater : PlainAttempts (first :: rest) ops :=
        fun turns present => plain turns (List.mem_cons_of_mem _ present)
      cases op with
      | server op =>
          have soundLater : IngestSound (ingestNext host state.server op) :=
            ingestSound_ingestNext sound op
          have later := @ih { state with server := ingestNext host state.server op } soundLater
            free selects plainLater
          exact later.trans ⟨fun along => ⟨True.intro, along⟩, And.right⟩
      | attempt turns =>
          have plainHere := plain turns List.mem_cons_self
          have fitsHere : (batchItems (first :: rest) turns).length ≤ 200 := by
            rw [length_batchItems]
            exact fits
          have nonempty : batchItems (first :: rest) turns ≠ [] := by
            intro isEmpty
            have lengths := length_batchItems (first :: rest) turns
            rw [isEmpty] at lengths
            cases lengths
          have completedIff :=
            @isCompleted_iff host state.server sound _ plainHere nonempty fitsHere
          rcases @postNextEventBatch_of_selects host settings state first rest free selects turns
            with ⟨server, failed, completed⟩
          change ((postingSystem host settings).run (postNextEventBatch host settings state turns)
            ops).worker.posted = _ ↔ _
          by_cases clean : Unpoisoned host state.server (batchItems (first :: rest) turns)
          · refine iff_of_false ?_ fun along => along.1 clean
            intro same
            have grows := @length_posted_le_run host settings
              (postNextEventBatch host settings state turns) ops
            rw [same, completed (completedIff.mpr clean)] at grows
            simp at grows
          · have worker := failed (by
              rw [← Bool.not_eq_true]
              exact fun isCompleted => clean (completedIff.mp isCompleted))
            have soundLater :
                IngestSound (postNextEventBatch host settings state turns).server := by
              rw [server]
              exact ingestSound_ingestNext sound (.post (batchItems (first :: rest) turns))
            have later := ih soundLater (by rw [worker]; exact free)
              (by rw [worker]; exact selects) plainLater
            rw [worker] at later
            exact later.trans ⟨fun along => ⟨clean, along⟩, And.right⟩

/-! ## The law -/

theorem ingestSound_of_reachable (catalog : Catalog)
    (appMetadata : List (String × String)) (inboxStartedAt : String) (history : List IngestOp) :
    IngestSound
      ((ingestSystem host).run (.initial catalog appMetadata inboxStartedAt) history) := by
  apply System.run_invariant IngestSound
  · intro store op sound
    exact ingestSound_ingestNext sound op
  · exact ingestSound_initial catalog appMetadata inboxStartedAt

/-- A rejection whose details no handler can read. -/
def unreadableRejection : GatewayEvent where
  eventId := "event-1"
  eventType := "order_rejected"
  source := "kiwoom_gateway"
  ts := 0
  payload := [("metadata", .str "x")]
  commandId := none
  idempotencyKey := none
  eventId_stripped := stripped_firstEvent
  eventType_stripped := by decide +kernel
  source_stripped := stripped_kiwoomGateway
  commandId_stripped := strippedOption_none
  idempotencyKey_stripped := strippedOption_none

def plainHeartbeat : GatewayEvent where
  eventId := "event-2"
  eventType := "heartbeat"
  source := "kiwoom_gateway"
  ts := 1000000
  payload := []
  commandId := none
  idempotencyKey := none
  eventId_stripped := stripped_secondEvent
  eventType_stripped := by decide +kernel
  source_stripped := stripped_kiwoomGateway
  commandId_stripped := strippedOption_none
  idempotencyKey_stripped := strippedOption_none

def freeTurn : EventTurn where
  locked := false
  append := { received := 2000000, written := 2000000 }
  projectionFailure := none
  lifecycle :=
    { enqueued := 2000000
      routing := lockedReadings 2000000
      applying := lockedReadings 2000000
      failing := lockedReadings 2000000 }

def rejectionBatch : List BatchItem :=
  [{ event := unreadableRejection, turn := freeTurn },
    { event := plainHeartbeat, turn := freeTurn }]

end SuseokTrader
