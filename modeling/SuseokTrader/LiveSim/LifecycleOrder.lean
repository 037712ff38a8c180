import SuseokTrader.Lib.Totals
import SuseokTrader.LiveSim.LifecycleOnce

/-!
# Lifecycle events are applied in order

A worker claims the earliest row of the inbox, and the gateway applies an event
itself where it is the earliest there. Neither sees an event that is stored but
not yet enqueued: where no earlier event is missing when an event is picked,
all earlier events have been applied when it is.
-/

namespace SuseokTrader

/-! ## Earlier events -/

namespace LifecycleStore

variable (store : LifecycleStore)

def earlierEvents (eventRowid : Int) : List StoredEvent :=
  store.gatewayEvents.rows.filter fun stored =>
    stored.accepted && isLiveSimLifecycleEvent stored.event.eventType &&
      store.sinceActivation stored.event.eventId &&
      (store.ledger.events.find? stored.event.eventId).any (·.eventRowid < eventRowid)

def Done (eventId : String) : Prop :=
  ∃ row ∈ store.inbox.find? eventId, row.status = .applied

def Cleared (eventRowid : Int) : Prop :=
  ∀ stored ∈ store.earlierEvents eventRowid, store.Done stored.event.eventId

def NoGap (eventRowid : Int) : Prop :=
  ∀ stored ∈ store.earlierEvents eventRowid, (store.inbox.find? stored.event.eventId).isSome = true

def Permitted (eventId : String) : Prop :=
  ∃ position ∈ store.ledger.events.find? eventId, store.Cleared position.eventRowid

end LifecycleStore

/-- An event gets to `APPLIED` only when every earlier event is there. -/
def AppliedInOrder (state next : LifecycleState) : Prop :=
  ∀ eventId, ¬ state.store.Done eventId → next.store.Done eventId →
    state.store.Permitted eventId

def LooksEarliest (store : LifecycleStore) (eventId : String) : Prop :=
  oldestUnresolved store.inbox = none ∨ oldestUnresolved store.inbox = some eventId

/-- When an event is claimed, or first routed as the earliest, no earlier one is missing from the
inbox; and no failure is put on record for an event that has been applied. -/
def InboxComplete (state : LifecycleState) : LifecycleOp → Prop
  | .advance party readings .commits =>
      match state.phases party with
      | .claiming =>
          ∀ claimed ∈
              claimNextInboxRow state.store.inbox (party.expectedOwner.getD "") readings.now,
            state.store.NoGap claimed.1.eventRowid
      | .routing event =>
          ∀ row ∈ state.store.inbox.find? event.eventId, row.status ≠ .applied →
            state.store.decisions.find? event.eventId = none →
            readings.settings.inlineFallbackEnabled = true →
            LooksEarliest state.store event.eventId → state.store.NoGap row.eventRowid
      | .failing eventId _ => ∀ row ∈ state.store.inbox.find? eventId, row.status ≠ .applied
      | _ => True
  | _ => True

/-! ## What stays -/

structure Steady (before after : LifecycleStore) : Prop where
  permitted : ∀ eventId, before.Permitted eventId → after.Permitted eventId
  done : ∀ eventId, before.Done eventId → after.Done eventId

theorem Steady.refl (store : LifecycleStore) : Steady store store :=
  ⟨fun _ permitted => permitted, fun _ done => done⟩

structure SameEvents (before after : LifecycleStore) : Prop where
  gatewayEvents : after.gatewayEvents = before.gatewayEvents
  events : after.ledger.events = before.ledger.events
  inboxStartedAt : after.inboxStartedAt = before.inboxStartedAt

variable {before after store written : LifecycleStore} {eventId : String} {row : InboxRow}
  {inbox : Table InboxRow} {event : GatewayEvent} {now : Instant} {phase : LifecyclePhase}
  {ends : TransactionEnd} {readings : LifecycleReadings} {party : LifecycleParty}

theorem SameEvents.earlierEvents (same : SameEvents before after) (eventRowid : Int) :
    after.earlierEvents eventRowid = before.earlierEvents eventRowid := by
  simp only [LifecycleStore.earlierEvents, LifecycleStore.sinceActivation, same.gatewayEvents,
    same.events, same.inboxStartedAt]

theorem SameEvents.steady (same : SameEvents before after)
    (done : ∀ eventId, before.Done eventId → after.Done eventId) : Steady before after := by
  refine ⟨?_, done⟩
  rintro eventId ⟨position, found, cleared⟩
  refine ⟨position, by rw [same.events]; exact found, ?_⟩
  intro stored earlier
  rw [same.earlierEvents] at earlier
  exact done _ (cleared stored earlier)

theorem AppliedKept.done (kept : AppliedKept before.inbox after.inbox) (eventId : String)
    (done : before.Done eventId) : after.Done eventId := by
  rcases done with ⟨row, found, applied⟩
  exact ⟨row, kept.stays eventId row found applied, applied⟩

theorem lt_nextEventRowid {events : Table EventPosition} {position : EventPosition}
    (found : events.find? eventId = some position) :
    position.eventRowid < nextEventRowid events := by
  have present : position.eventRowid ∈ events.rows.map EventPosition.eventRowid :=
    List.mem_map_of_mem (Table.mem_of_find? found)
  have bound := (le_foldl_max _ 0).2 _ present
  unfold nextEventRowid
  omega

theorem storeEvent_cases (store : LifecycleStore) (event : GatewayEvent) (accepted : Bool)
    (receivedAt : String) :
    store.storeEvent event accepted receivedAt = store ∨
      ∃ gatewayEvents events,
        store.gatewayEvents.insert? { event := event, accepted := accepted } =
          some gatewayEvents ∧
        store.ledger.events.insert?
          { eventId := event.eventId, eventRowid := nextEventRowid store.ledger.events
            eventType := event.eventType, receivedAt := receivedAt } = some events ∧
        store.storeEvent event accepted receivedAt =
          { store with
            gatewayEvents := gatewayEvents
            ledger := { store.ledger with events := events } } := by
  unfold LifecycleStore.storeEvent
  dsimp only
  split
  · next gatewayEvents events inserts inserts' =>
      exact Or.inr ⟨gatewayEvents, events, inserts, inserts', rfl⟩
  · exact Or.inl rfl

theorem steady_storeEvent (store : LifecycleStore) (event : GatewayEvent) (accepted : Bool)
    (receivedAt : String) : Steady store (store.storeEvent event accepted receivedAt) := by
  rcases storeEvent_cases store event accepted receivedAt with
    same | ⟨gatewayEvents, events, stores, positions, same⟩
  · rw [same]
    exact Steady.refl store
  · rw [same]
    refine ⟨?_, fun _ done => done⟩
    rintro eventId ⟨position, found, cleared⟩
    refine ⟨position, Table.find?_of_insert?_of_some positions found, ?_⟩
    intro stored earlier
    apply cleared stored
    simp only [LifecycleStore.earlierEvents, List.mem_filter, Table.rows_of_insert? stores,
      List.mem_append, List.mem_singleton] at earlier
    rcases earlier with ⟨present, meets⟩
    have isOld : stored.event.eventId ≠ event.eventId ∧ stored ∈ store.gatewayEvents.rows := by
      rcases present with present | rfl
      · refine ⟨?_, present⟩
        intro sameId
        have fresh := Table.find?_eq_none.mp
          (Table.insert?_isSome_iff.mp (Option.isSome_of_mem stores)) stored present
        exact fresh sameId
      · have isNew := Table.find?_of_insert?_self positions
        have later := lt_nextEventRowid found
        change events.find? event.eventId = _ at isNew
        simp only [isNew, Option.any_some, Bool.and_eq_true, decide_eq_true_eq] at meets
        omega
    have sameFind : events.find? stored.event.eventId =
        store.ledger.events.find? stored.event.eventId :=
      Table.find?_of_insert?_of_ne positions isOld.1.symm
    simp only [LifecycleStore.earlierEvents, List.mem_filter]
    refine ⟨isOld.2, ?_⟩
    simpa only [LifecycleStore.sinceActivation, sameFind] using meets

/-! ## The earliest row -/

theorem done_of_lt_earliest {earliest : Int}
    (isEarliest : earliestUnresolved store.inbox = some earliest)
    (present : row ∈ store.inbox.rows) (before : row.eventRowid < earliest) :
    store.Done row.eventId := by
  refine ⟨row, Table.find?_of_mem present, ?_⟩
  by_contra isOpen
  have listed : row.eventRowid ∈
      (store.inbox.rows.filter isUnresolved).map InboxRow.eventRowid := by
    apply List.mem_map_of_mem
    simp [present, isUnresolved, isOpen]
  have least := (List.min?_eq_some_iff.mp isEarliest).2 row.eventRowid listed
  omega

def RowsPositioned (store : LifecycleStore) : Prop :=
  ∀ row ∈ store.inbox.rows, ∃ position ∈ store.ledger.events.find? row.eventId,
    position.eventRowid = row.eventRowid

theorem permitted_of_earliest (positioned : RowsPositioned store)
    (present : row ∈ store.inbox.rows)
    (isEarliest : some row.eventRowid = earliestUnresolved store.inbox)
    (complete : store.NoGap row.eventRowid) : store.Permitted row.eventId := by
  rcases positioned row present with ⟨position, found, sameRowid⟩
  refine ⟨position, found, ?_⟩
  rw [sameRowid]
  intro stored earlier
  rcases Option.isSome_iff_exists.mp (complete stored earlier) with ⟨other, isRow⟩
  have otherKey : other.eventId = stored.event.eventId := Table.key_of_find? isRow
  rw [← otherKey]
  apply done_of_lt_earliest isEarliest.symm (Table.mem_of_find? isRow)
  rcases positioned other (Table.mem_of_find? isRow) with ⟨otherPosition, otherFound, otherRowid⟩
  simp only [LifecycleStore.earlierEvents, List.mem_filter, Bool.and_eq_true] at earlier
  have isBefore := earlier.2.2
  rw [← otherKey, Option.mem_def.mp otherFound] at isBefore
  simpa [otherRowid] using isBefore

theorem oldestUnresolved_eq_some (oldest : oldestUnresolved inbox = some eventId) :
    ∃ row ∈ inbox.rows, row.eventId = eventId ∧ some row.eventRowid = earliestUnresolved inbox := by
  rw [oldestUnresolved, Option.map_eq_some_iff] at oldest
  rcases oldest with ⟨row, found, rfl⟩
  have isEarliest := List.find?_some found
  have present := List.mem_of_find?_eq_some found
  rw [unresolvedRows, List.mem_filter] at present
  exact ⟨row, present.1, rfl, by simpa using isEarliest⟩

theorem oldestUnresolved_isSome (present : row ∈ inbox.rows) (isOpen : row.status ≠ .applied) :
    oldestUnresolved inbox ≠ none := by
  have listed : row ∈ unresolvedRows inbox := by
    simp [unresolvedRows, present, isUnresolved, isOpen]
  cases earliest : earliestUnresolved inbox with
  | none =>
      rw [earliestUnresolved, List.min?_eq_none_iff, List.map_eq_nil_iff] at earliest
      rw [unresolvedRows, earliest] at listed
      cases listed
  | some eventRowid =>
      have isLeast := (List.min?_eq_some_iff.mp earliest).1
      rcases List.mem_map.mp isLeast with ⟨least, isListed, sameRowid⟩
      intro none
      rw [oldestUnresolved, Option.map_eq_none_iff, List.find?_eq_none] at none
      exact none least isListed (by simp [earliest, sameRowid])

/-! ## Rows keep their places -/

def SamePlaces (before after : Table InboxRow) : Prop :=
  ∀ row ∈ after.rows, ∃ old ∈ before.rows,
    old.eventId = row.eventId ∧ old.eventRowid = row.eventRowid

theorem SamePlaces.refl (inbox : Table InboxRow) : SamePlaces inbox inbox :=
  fun row present => ⟨row, present, rfl, rfl⟩

theorem SamePlaces.trans {before between after : Table InboxRow} (first : SamePlaces before between)
    (second : SamePlaces between after) : SamePlaces before after := by
  intro row present
  rcases second row present with ⟨middle, isMiddle, sameId, sameRowid⟩
  rcases first middle isMiddle with ⟨old, isOld, sameId', sameRowid'⟩
  exact ⟨old, isOld, sameId'.trans sameId, sameRowid'.trans sameRowid⟩

theorem samePlaces_updateWhere {condition : InboxRow → Bool} {change : InboxRow → InboxRow}
    (keeps : ∀ row, Keyed.key (change row) = Keyed.key row)
    (stays : ∀ row, (change row).eventRowid = row.eventRowid) :
    SamePlaces inbox (inbox.updateWhere condition change keeps) := by
  intro row present
  rw [Table.rows_updateWhere, List.mem_map] at present
  rcases present with ⟨old, isOld, rfl⟩
  refine ⟨old, isOld, ?_⟩
  split
  · exact ⟨(keeps old).symm, (stays old).symm⟩
  · exact ⟨rfl, rfl⟩

theorem samePlaces_resetStaleRows (settings : LifecycleSettings) (now : Instant)
    (rows : List (String × Int)) (inbox : Table InboxRow) :
    SamePlaces inbox (resetStaleRows inbox settings now rows) := by
  induction rows generalizing inbox with
  | nil => exact SamePlaces.refl inbox
  | cons row rows ih =>
      refine SamePlaces.trans (samePlaces_updateWhere (key_reclaimedRow _ _ _) ?_) (ih _)
      exact fun _ => rfl

theorem RowsPositioned.of_samePlaces (positioned : RowsPositioned before)
    (same : SamePlaces before.inbox after.inbox)
    (events : after.ledger.events = before.ledger.events) : RowsPositioned after := by
  intro row present
  rcases same row present with ⟨old, isOld, sameId, sameRowid⟩
  rcases positioned old isOld with ⟨position, found, isPlace⟩
  exact ⟨position, by rw [events, ← sameId]; exact found, isPlace.trans sameRowid⟩

theorem positioned_storeEvent (positioned : RowsPositioned store) (event : GatewayEvent)
    (accepted : Bool) (receivedAt : String) :
    RowsPositioned (store.storeEvent event accepted receivedAt) := by
  rcases storeEvent_cases store event accepted receivedAt with
    same | ⟨gatewayEvents, events, stores, positions, same⟩
  · rw [same]
    exact positioned
  · rw [same]
    intro row present
    rcases positioned row present with ⟨position, found, isPlace⟩
    exact ⟨position, Table.find?_of_insert?_of_some positions found, isPlace⟩

theorem positioned_enqueue (positioned : RowsPositioned store)
    (success : enqueueLiveSimLifecycleEvent store event now = .ok written) :
    RowsPositioned written := by
  rcases enqueue_cases success with rfl | ⟨position, inbox, found, inserts, rfl⟩
  · exact positioned
  · intro row present
    change row ∈ inbox.rows at present
    rw [Table.rows_of_insert? inserts, List.mem_append, List.mem_singleton] at present
    rcases present with present | rfl
    · exact positioned row present
    · exact ⟨position, found, rfl⟩

/-! ## Runs in order -/

def PhaseCleared (store : LifecycleStore) : LifecyclePhase → Prop
  | .loading eventId => store.Permitted eventId
  | .enqueueingInline event | .applying event =>
      store.Permitted event.eventId ∨ store.Done event.eventId
  | .idle | .enqueueing _ | .routing _ | .resetting _ _ | .claiming | .failing _ _ => True

def DecisionsCleared (store : LifecycleStore) : Prop :=
  ∀ decision ∈ store.decisions.rows, decision.appliesInline = true →
    store.Permitted decision.eventId

structure Orderly (state : LifecycleState) : Prop where
  positioned : RowsPositioned state.store
  decided : DecisionsCleared state.store
  phased : ∀ party, PhaseCleared state.store (state.phases party)

theorem PhaseCleared.mono (steady : Steady before after) (cleared : PhaseCleared before phase) :
    PhaseCleared after phase := by
  cases phase with
  | loading eventId => exact steady.permitted _ cleared
  | enqueueingInline event => exact cleared.imp (steady.permitted _) (steady.done _)
  | applying event => exact cleared.imp (steady.permitted _) (steady.done _)
  | idle => trivial
  | enqueueing event => trivial
  | routing event => trivial
  | resetting rows now => trivial
  | claiming => trivial
  | failing eventId message => trivial

theorem DecisionsCleared.mono (steady : Steady before after) (cleared : DecisionsCleared before)
    (same : after.decisions = before.decisions) :
    DecisionsCleared after := by
  intro decision present inline
  rw [same] at present
  exact steady.permitted _ (cleared decision present inline)

variable {host : Host} {state : LifecycleState}

theorem Orderly.setPhase (order : Orderly state) (party : LifecycleParty)
    (cleared : PhaseCleared state.store phase) : Orderly (state.setPhase party phase) := by
  refine ⟨order.positioned, order.decided, fun other => ?_⟩
  by_cases same : other = party
  · rw [same, phases_setPhase_self]
    exact cleared
  · rw [phases_setPhase_of_ne same]
    exact order.phased other

theorem Orderly.setStore (order : Orderly state) (steady : Steady state.store store)
    (positioned : RowsPositioned store) (decided : DecisionsCleared store) :
    Orderly (state.setStore store) :=
  ⟨positioned, decided, fun party => (order.phased party).mono steady⟩

theorem Orderly.commitOr (order : Orderly state) (party : LifecycleParty)
    {written : Checked (LifecycleStore × LifecyclePhase)}
    (keeps : ∀ store phase, ends.failure = none → written = .ok (store, phase) →
      Steady state.store store ∧ RowsPositioned store ∧ DecisionsCleared store ∧
        PhaseCleared store phase) : Orderly (state.commitOr party ends written) := by
  rcases @commitOr_cases state party ends written with
    same | ⟨commits, store, phase, isWritten, same⟩
  · rw [same]
    exact order.setPhase party trivial
  · rw [same]
    rcases keeps store phase commits isWritten with ⟨steady, positioned, decided, cleared⟩
    exact (order.setStore steady positioned decided).setPhase party cleared

theorem Orderly.of_inbox (order : Orderly state) (kept : AppliedKept state.store.inbox inbox)
    (same : SamePlaces state.store.inbox inbox)
    (cleared : Steady state.store (state.store.setInbox inbox) →
      PhaseCleared (state.store.setInbox inbox) phase) :
    Steady state.store (state.store.setInbox inbox) ∧
      RowsPositioned (state.store.setInbox inbox) ∧
      DecisionsCleared (state.store.setInbox inbox) ∧
      PhaseCleared (state.store.setInbox inbox) phase := by
  have events : SameEvents state.store (state.store.setInbox inbox) := ⟨rfl, rfl, rfl⟩
  have steady := events.steady (AppliedKept.done kept)
  exact ⟨steady, order.positioned.of_samePlaces same rfl, order.decided.mono steady rfl,
    cleared steady⟩

theorem Orderly.enqueue (order : Orderly state)
    (success : enqueueLiveSimLifecycleEvent state.store event now = .ok store)
    (cleared : Steady state.store store → PhaseCleared store phase) :
    Steady state.store store ∧ RowsPositioned store ∧ DecisionsCleared store ∧
      PhaseCleared store phase := by
  have kept := (appliedKept_enqueue success).1
  have positioned := positioned_enqueue order.positioned success
  have same : SameEvents state.store store ∧ store.decisions = state.store.decisions := by
    rcases enqueue_cases success with rfl | ⟨position, inbox, _, _, rfl⟩
    · exact ⟨⟨rfl, rfl, rfl⟩, rfl⟩
    · exact ⟨⟨rfl, rfl, rfl⟩, rfl⟩
  have steady := same.1.steady (AppliedKept.done kept)
  exact ⟨steady, positioned, order.decided.mono steady same.2, cleared steady⟩

theorem looksEarliest_of_appliesInline
    (inline : (freshDecision store event row readings).appliesInline = true) :
    readings.settings.inlineFallbackEnabled = true ∧ LooksEarliest store event.eventId := by
  simp only [LifecycleDecision.appliesInline, freshDecision, Bool.and_eq_true] at inline
  refine ⟨inline.2.2, ?_⟩
  have isEarliest := inline.2.1.2
  simp only [Bool.or_eq_true, Option.isNone_iff_eq_none, decide_eq_true_eq] at isEarliest
  exact isEarliest

theorem permitted_of_looksEarliest (positioned : RowsPositioned store)
    (found : store.inbox.find? eventId = some row) (isOpen : row.status ≠ .applied)
    (earliest : LooksEarliest store eventId) (complete : store.NoGap row.eventRowid) :
    store.Permitted eventId := by
  rcases earliest with none | oldest
  · exact absurd none (oldestUnresolved_isSome (Table.mem_of_find? found) isOpen)
  · rcases oldestUnresolved_eq_some oldest with ⟨first, present, sameId, isEarliest⟩
    have same : first = row := by
      have isFirst := Table.find?_of_mem present
      change store.inbox.find? first.eventId = some first at isFirst
      rw [sameId, found, Option.some.injEq] at isFirst
      exact isFirst.symm
    subst same
    rw [← sameId]
    exact permitted_of_earliest positioned present isEarliest complete

/-- Routing puts a cleared decision on record, and goes on where the event may be applied. -/
theorem Orderly.route (order : Orderly state) {inline : Bool}
    (complete : ∀ row ∈ state.store.inbox.find? event.eventId, row.status ≠ .applied →
      state.store.decisions.find? event.eventId = none →
      readings.settings.inlineFallbackEnabled = true →
      LooksEarliest state.store event.eventId → state.store.NoGap row.eventRowid)
    (success : routeLiveSimLifecycleEvent state.store event readings = .ok (store, inline)) :
    Steady state.store store ∧ RowsPositioned store ∧ DecisionsCleared store ∧
      PhaseCleared store (if inline then .enqueueingInline event else .idle) := by
  have same : ∃ decisions, store = { state.store with decisions := decisions } :=
    routeLiveSimLifecycleEvent_cases success
  have steady : Steady state.store store := by
    rcases same with ⟨decisions, rfl⟩
    exact ⟨fun _ permitted => permitted, fun _ done => done⟩
  have positioned : RowsPositioned store := by
    rcases same with ⟨decisions, rfl⟩
    exact order.positioned
  unfold routeLiveSimLifecycleEvent at success
  split at success
  · next applied =>
      cases success
      refine ⟨steady, positioned, order.decided, ?_⟩
      rw [Option.any_eq_true] at applied
      rcases applied with ⟨row, found, isApplied⟩
      exact Or.inr ⟨row, found, by simpa using isApplied⟩
  · next notApplied =>
      rw [Checked.bind_eq_ok] at success
      rcases success with ⟨⟨written, decision⟩, decides, success⟩
      cases success
      unfold decideLiveSimLifecycleRouting at decides
      split at decides
      · next recorded =>
          cases decides
          refine ⟨steady, positioned, order.decided, ?_⟩
          cases inline : decision.appliesInline with
          | false => trivial
          | true =>
              have sameId : decision.eventId = event.eventId := Table.key_of_find? recorded
              left
              rw [← sameId]
              exact order.decided decision (Table.mem_of_find? recorded) inline
      · next undecided =>
          split at decides
          · cases decides
          · next row found =>
              have isOpen : row.status ≠ .applied := by
                simpa [found] using notApplied
              have permitted : (freshDecision state.store event row readings).appliesInline = true →
                  state.store.Permitted event.eventId := by
                intro inline
                rcases looksEarliest_of_appliesInline inline with ⟨fallsBack, earliest⟩
                exact permitted_of_looksEarliest order.positioned found isOpen earliest
                  (complete row found isOpen undecided fallsBack earliest)
              cases decides
              refine ⟨steady, positioned, ?_, ?_⟩
              · intro decision present inline
                cases inserts : state.store.decisions.insert?
                    (freshDecision state.store event row readings) with
                | none =>
                    rw [inserts] at present
                    exact order.decided decision present inline
                | some decisions =>
                    rw [inserts, Option.getD_some, Table.rows_of_insert? inserts,
                      List.mem_append, List.mem_singleton] at present
                    rcases present with present | rfl
                    · exact order.decided decision present inline
                    · exact permitted inline
              · cases inline : (freshDecision state.store event row readings).appliesInline with
                | false => trivial
                | true => exact Or.inl (permitted inline)

theorem sameEvents_handleInTransaction {consumerSource : String}
    (handles : handleInTransaction host store event consumerSource readings = .ok written) :
    SameEvents store written ∧ written.decisions = store.decisions ∧
      ∃ reply, written.inbox = store.inbox.update event.eventId
        (appliedRow consumerSource reply (datetimeToWire readings.now)) (key_appliedRow _ _ _) := by
  rcases handleInTransaction_eq_ok handles with ⟨liveSim, ledger, reply, events, rfl⟩
  exact ⟨⟨rfl, events, rfl⟩, rfl, reply, rfl⟩

theorem done_update {key : String} {change : InboxRow → InboxRow}
    {keeps : ∀ row, Keyed.key (change row) = Keyed.key row}
    (found : store.inbox.find? key = some row) (isOpen : row.status ≠ .applied)
    (inbox : written.inbox = store.inbox.update key change keeps) (eventId : String)
    (done : store.Done eventId) : written.Done eventId := by
  rcases done with ⟨other, present, applied⟩
  refine ⟨other, ?_, applied⟩
  rw [inbox]
  exact find?_update_of_applied found isOpen present applied

theorem Orderly.apply (order : Orderly state) :
    Orderly (state.apply host party event readings ends) := by
  rcases @apply_cases host state party event readings ends with
    ⟨phase, settles, same⟩ | ⟨row, written, found, allowed, handles, same⟩
  · rw [same]
    apply order.setPhase
    rcases settles with rfl | rfl | ⟨message, rfl⟩
    · trivial
    · trivial
    · trivial
  · rw [same]
    have isOpen := (openTo_of_refusesApply allowed).status_ne
    rcases sameEvents_handleInTransaction handles with ⟨events, decisions, reply, inbox⟩
    have steady := events.steady (done_update found isOpen inbox)
    have places : SamePlaces state.store.inbox written.inbox := by
      rw [inbox]
      exact samePlaces_updateWhere (key_appliedRow _ _ _) fun _ => rfl
    have written' := (order.setStore steady
      (order.positioned.of_samePlaces places events.events)
      (order.decided.mono steady decisions)).setPhase party
        (show PhaseCleared written party.afterApply by cases party <;> trivial)
    exact ⟨written'.positioned, written'.decided, written'.phased⟩

theorem Orderly.mark (order : Orderly state) {message : String} {settings : LifecycleSettings}
    (isOpen : ∀ row ∈ state.store.inbox.find? eventId, row.status ≠ .applied)
    (success : markLifecycleFailure state.store eventId message settings now = .ok store) :
    Steady state.store store ∧ RowsPositioned store ∧ DecisionsCleared store := by
  rcases markLifecycleFailure_eq_ok success with rfl | ⟨row, ledger, found, events, rfl⟩
  · exact ⟨Steady.refl _, order.positioned, order.decided⟩
  · have steady : Steady state.store { state.store with
        ledger := ledger
        inbox := state.store.inbox.update eventId (failedRow message settings now)
          (key_failedRow message settings now) } :=
      SameEvents.steady ⟨rfl, events, rfl⟩
        (@done_update _ _ _ _ _ (key_failedRow message settings now) found (isOpen row found) rfl)
    refine ⟨steady, order.positioned.of_samePlaces ?_ events, order.decided.mono steady rfl⟩
    exact samePlaces_updateWhere (key_failedRow message settings now) fun _ => rfl

theorem InboxComplete.commits (complete : InboxComplete state (.advance party readings ends))
    (commits : ends.failure = none) : InboxComplete state (.advance party readings .commits) := by
  cases ends with
  | commits => exact complete
  | doesNotBegin message => cases commits
  | doesNotCommit message => cases commits

theorem Orderly.advance (order : Orderly state)
    (complete : InboxComplete state (.advance party readings ends)) :
    Orderly (state.advance host party readings ends) := by
  have phased := order.phased party
  unfold LifecycleState.advance
  cases phase : state.phases party with
  | idle => exact order
  | enqueueing event =>
      refine order.commitOr party fun store next commits isWritten => ?_
      rcases Checked.map_eq_ok.mp isWritten with ⟨written, enqueued, same⟩
      cases same
      exact order.enqueue enqueued fun _ => trivial
  | routing event =>
      refine order.commitOr party fun store next commits isWritten => ?_
      rcases Checked.map_eq_ok.mp isWritten with ⟨⟨written, inline⟩, routed, same⟩
      cases same
      have complete := complete.commits commits
      simp only [InboxComplete, phase] at complete
      exact order.route complete routed
  | enqueueingInline event =>
      refine order.commitOr party fun store next commits isWritten => ?_
      rcases Checked.map_eq_ok.mp isWritten with ⟨written, enqueued, same⟩
      cases same
      rw [phase] at phased
      exact order.enqueue enqueued fun steady => phased.mono steady
  | resetting rows now =>
      refine order.commitOr party fun store next commits isWritten => ?_
      cases isWritten
      exact order.of_inbox (appliedKept_resetStaleRows _ _ _ _) (samePlaces_resetStaleRows _ _ _ _)
        fun _ => trivial
  | claiming =>
      refine order.commitOr party fun store next commits isWritten => ?_
      have complete := complete.commits commits
      simp only [InboxComplete, phase] at complete
      cases claims : claimNextInboxRow state.store.inbox (party.expectedOwner.getD "")
          readings.now with
      | none =>
          rw [claims] at isWritten
          cases isWritten
          exact ⟨Steady.refl _, order.positioned, order.decided, trivial⟩
      | some claimed =>
          rw [claims] at isWritten
          cases isWritten
          rcases claimed with ⟨row, inbox⟩
          have kept := appliedKept_claim claims
          rcases claimNextInboxRow_eq_some claims with ⟨present, isEarliest, _, rfl⟩
          refine order.of_inbox kept (samePlaces_updateWhere (key_claimedRow _ _) fun _ => rfl)
            fun steady => ?_
          exact steady.permitted _ (permitted_of_earliest order.positioned present isEarliest
            (complete _ claims))
  | loading eventId =>
      rw [phase] at phased
      apply order.setPhase
      cases found : state.store.gatewayEvents.find? eventId with
      | none => trivial
      | some stored =>
          cases accepted : stored.accepted with
          | false => simp [accepted, PhaseCleared]
          | true =>
              have sameId : stored.event.eventId = eventId := Table.key_of_find? found
              simp only [accepted, if_true, PhaseCleared, sameId]
              exact Or.inl phased
  | applying event => exact order.apply
  | failing eventId message =>
      refine order.commitOr party fun store next commits isWritten => ?_
      rcases Checked.map_eq_ok.mp isWritten with ⟨written, marked, same⟩
      cases same
      have complete := complete.commits commits
      simp only [InboxComplete, phase] at complete
      rcases order.mark complete marked with ⟨steady, positioned, decided⟩
      exact ⟨steady, positioned, decided, trivial⟩

theorem Orderly.next (order : Orderly state) {op : LifecycleOp}
    (complete : InboxComplete state op) : Orderly (lifecycleNext host state op) := by
  cases op with
  | store event accepted receivedAt =>
      exact order.setStore (steady_storeEvent _ _ _ _)
        (positioned_storeEvent order.positioned _ _ _)
        (order.decided.mono (steady_storeEvent _ _ _ _) (storeEvent_kept _ _ _ _).2.2)
  | route requestId event =>
      dsimp only [lifecycleNext]
      split
      · split
        · exact order.setPhase _ trivial
        · exact order
      · exact order
  | processBatch ownerId readings =>
      dsimp only [lifecycleNext]
      split
      · split
        · exact order.setPhase _ trivial
        · exact order
      · exact order
  | advance party readings ends => exact order.advance complete
  | resetDeadLetter eventId now =>
      rcases @Orderly.of_inbox _ .idle state order
          (appliedKept_resetDeadLetter state.store.inbox eventId now)
          (samePlaces_updateWhere (key_reopenedRow _) fun _ => rfl) (fun _ => trivial) with
        ⟨steady, positioned, decided, _⟩
      exact order.setStore steady positioned decided
  | abandon party => exact order.setPhase party trivial

theorem appliedInOrder_of_move {op : LifecycleOp} {next : LifecycleState} (order : Orderly state)
    (move : LifecycleMove host state op next) : AppliedInOrder state next := by
  intro eventId notDone done
  rcases done with ⟨row, found, applied⟩
  cases move with
  | keeps inbox liveSim applied' idle =>
      exact absurd ⟨row, inbox.comes eventId row found applied, applied⟩ notDone
  | @applies party readings ends _ event _ _ phase isRow allowed inbox applied' =>
      by_cases same : eventId = event.eventId
      · have cleared := order.phased party
        rw [phase] at cleared
        rw [same] at notDone ⊢
        exact cleared.resolve_right notDone
      · rw [inbox, Table.find?_update_of_ne same] at found
        exact absurd ⟨row, found, applied⟩ notDone
  | @fails party readings ends _ key message _ phase commits isRow inbox liveSim applied' =>
      by_cases same : eventId = key
      · rw [inbox, same, Table.find?_update_self isRow, Option.mem_some_iff] at found
        rw [← found] at applied
        exact absurd applied (statusAfterAttempts_ne_applied _ _)
      · rw [inbox, Table.find?_update_of_ne same] at found
        exact absurd ⟨row, found, applied⟩ notDone

theorem orderly_initial (inboxStartedAt : String) :
    Orderly (LifecycleState.initial inboxStartedAt) :=
  ⟨(fun _ present => nomatch present), (fun _ present => nomatch present), fun _ => trivial⟩

/-- Along every run in which no earlier event is missing from the inbox when an event is picked,
events are applied in the order in which they were stored. -/
theorem lifecycle_events_applied_in_order (host : Host) (inboxStartedAt : String)
    (ops : List LifecycleOp)
    (complete : (lifecycleSystem host).Along InboxComplete (.initial inboxStartedAt) ops) :
    (lifecycleSystem host).Along
      (fun state op => AppliedInOrder state ((lifecycleSystem host).next state op))
      (.initial inboxStartedAt) ops := by
  apply complete.imp Orderly
  · intro state op order complete
    exact order.next complete
  · intro state op order complete
    exact appliedInOrder_of_move order (move_lifecycleNext host state op)
  · exact orderly_initial inboxStartedAt

instance (store : LifecycleStore) (eventId : String) : Decidable (store.Done eventId) :=
  inferInstanceAs (Decidable (∃ row ∈ store.inbox.find? eventId, _))

instance (store : LifecycleStore) (eventRowid : Int) : Decidable (store.Cleared eventRowid) :=
  inferInstanceAs (Decidable (∀ stored ∈ store.earlierEvents eventRowid, _))

instance (store : LifecycleStore) (eventRowid : Int) : Decidable (store.NoGap eventRowid) :=
  inferInstanceAs (Decidable (∀ stored ∈ store.earlierEvents eventRowid, _))

instance (store : LifecycleStore) (eventId : String) : Decidable (store.Permitted eventId) :=
  inferInstanceAs (Decidable (∃ position ∈ store.ledger.events.find? eventId, _))

instance (store : LifecycleStore) (eventId : String) : Decidable (LooksEarliest store eventId) :=
  inferInstanceAs (Decidable (_ ∨ _))

instance (state : LifecycleState) (op : LifecycleOp) : Decidable (InboxComplete state op) := by
  unfold InboxComplete
  split
  · split <;> infer_instance
  · infer_instance

def ackEvent : GatewayEvent where
  eventId := "event-2"
  eventType := "command_ack"
  source := "kiwoom_gateway"
  ts := 0
  payload := []
  commandId := some "cmd-1"
  idempotencyKey := none
  eventId_stripped := stripped_secondEvent
  eventType_stripped := by decide
  source_stripped := stripped_kiwoomGateway
  commandId_stripped := strippedOption_firstCommand
  idempotencyKey_stripped := strippedOption_none

/-- The gateway stores an event and crashes before it is enqueued; the next event is applied. -/
def crashBeforeEnqueue : List LifecycleOp :=
  [.store startedEvent true "1970-01-01T00:00:01+00:00",
    .store ackEvent true "1970-01-01T00:00:02+00:00", .route "request-2" ackEvent,
    goesOn (.request "request-2") 2, goesOn (.request "request-2") 2,
    goesOn (.request "request-2") 2]

theorem applied_crashBeforeEnqueue :
    let state := (lifecycleSystem sampleHost).run (.initial "1970-01-01 00:00:00")
      crashBeforeEnqueue
    ¬ state.store.Done "event-2" ∧ ¬ state.store.Permitted "event-2" ∧
      ((lifecycleSystem sampleHost).next state (goesOn (.request "request-2") 2)).store.Done
        "event-2" := by
  decide +kernel

/-- An event is applied before the one that was stored before it. -/
theorem lifecycle_event_applied_early :
    ¬ (lifecycleSystem sampleHost).Along
      (fun state op => AppliedInOrder state ((lifecycleSystem sampleHost).next state op))
      (.initial "1970-01-01 00:00:00")
      (crashBeforeEnqueue ++ [goesOn (.request "request-2") 2]) := by
  rw [System.along_append]
  rintro ⟨-, inOrder, -⟩
  rcases applied_crashBeforeEnqueue with ⟨notDone, notPermitted, done⟩
  exact notPermitted (inOrder "event-2" notDone done)

/-- Both events are enqueued before one is picked: a worker applies the first, then the second. -/
def bothEnqueued : List LifecycleOp :=
  [.store startedEvent true "1970-01-01T00:00:01+00:00", .route "request-1" startedEvent,
    goesOn (.request "request-1") 1,
    .store ackEvent true "1970-01-01T00:00:02+00:00", .route "request-2" ackEvent,
    goesOn (.request "request-2") 2, goesOn (.request "request-2") 2,
    .processBatch "worker-1" (lockedReadings 3000000),
    goesOn (.worker "worker-1") 3, goesOn (.worker "worker-1") 3, goesOn (.worker "worker-1") 3,
    goesOn (.worker "worker-1") 3, goesOn (.worker "worker-1") 3, goesOn (.worker "worker-1") 3,
    goesOn (.worker "worker-1") 3]

theorem bothEnqueued_applied_in_order :
    ((lifecycleSystem sampleHost).run (.initial "1970-01-01 00:00:00") bothEnqueued).applied =
        ["event-2", "event-1"] ∧
      (lifecycleSystem sampleHost).Along
        (fun state op => AppliedInOrder state ((lifecycleSystem sampleHost).next state op))
        (.initial "1970-01-01 00:00:00") bothEnqueued :=
  ⟨by decide +kernel,
    lifecycle_events_applied_in_order sampleHost "1970-01-01 00:00:00" bothEnqueued
      (by decide +kernel)⟩

end SuseokTrader
