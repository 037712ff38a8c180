import SuseokTrader.Market.RebuildLaws

/-!
# Histories and rebuilds

Events are stored one after the other, and live calls come in any order, or
not at all. The watermark is the greatest rowid that went through, so that an
incremental rebuild passes over an older event which has no result. It finds
all of them exactly where no event went through while an older one had none.
-/

namespace SuseokTrader

/-! ## Histories -/

variable (tables : MarketTables)

def nextStoredRowid : Int :=
  (tables.ledger.events.rows.map EventPosition.eventRowid).foldl max 0 + 1

/-- An event is stored, or a stored event is sent to the projection. -/
inductive LiveOp where
  | store (event : GatewayEvent) (accepted : Bool) (receivedAt : String)
  | live (eventId : String) (enabled commit : Bool) (call : MarketCall)

def storeNext (event : GatewayEvent) (accepted : Bool)
    (receivedAt : String) : MarketTables :=
  storeEvent tables { event := event, accepted := accepted }
    { eventId := event.eventId
      eventRowid := nextStoredRowid tables
      eventType := event.eventType
      receivedAt := receivedAt }

variable (host : Host)

def liveCall (tables : MarketTables) (eventId : String) (enabled commit : Bool)
    (call : MarketCall) : MarketTables :=
  match replayableEvent tables eventId with
  | some event =>
      (processGatewayEvent host enabled tables event commit call.readings call.fault).1
  | none => tables

def liveNext (tables : MarketTables) : LiveOp → MarketTables
  | .store event accepted receivedAt => storeNext tables event accepted receivedAt
  | .live eventId enabled commit call => liveCall host tables eventId enabled commit call

def liveSystem : System MarketTables LiveOp Unit :=
  .ofStep (liveNext host)

def emptyMarketTables : MarketTables where
  samples := .empty
  latest := .empty
  signals := .empty
  snapshots := []
  errors := []
  gatewayEvents := .empty
  ledger := { events := .empty, results := .empty, watermarks := .empty }

/-! ## The law and its condition -/

/-- Every event without a result is above the watermark, where an incremental rebuild starts. -/
def NoneBelow : Prop :=
  ∀ row ∈ replayableRows tables, marketResult tables row.2.eventId = none →
    lastEventRowid tables < row.1

/-- No event goes through while an older one has no result. -/
def KeepsOrder (tables : MarketTables) : LiveOp → Prop
  | .store _ _ _ => True
  | .live eventId enabled _ call =>
      ∀ row ∈ replayableRows tables, row.2.eventId = eventId →
        ProjectsThrough host enabled tables row.2 call →
          ∀ older ∈ replayableRows tables, older.1 < row.1 →
            (marketResult tables older.2.eventId).isSome

/-! ## The order of the store -/

/-- What every history keeps of the store and the watermark. -/
structure StoreOrder (tables : MarketTables) : Prop where
  aligned : ∀ eventId,
    (tables.ledger.events.find? eventId).isSome = (tables.gatewayEvents.find? eventId).isSome
  positive : ∀ position ∈ tables.ledger.events.rows, 0 < position.eventRowid
  increasing : tables.ledger.events.rows.Pairwise fun left right =>
    left.eventRowid < right.eventRowid
  bounded : lastEventRowid tables < nextStoredRowid tables

theorem storeOrder_emptyMarketTables : StoreOrder emptyMarketTables where
  aligned _ := rfl
  positive _ present := by cases present
  increasing := List.Pairwise.nil
  bounded := by decide

theorem foldl_max_bounds (rowids : List Int) (first : Int) :
    first ≤ rowids.foldl max first ∧ ∀ rowid ∈ rowids, rowid ≤ rowids.foldl max first := by
  induction rowids generalizing first with
  | nil => exact ⟨le_refl first, nofun⟩
  | cons rowid rowids ih =>
      rcases ih (max first rowid) with ⟨least, others⟩
      refine ⟨(le_max_left first rowid).trans least, ?_⟩
      intro other listed
      rcases List.mem_cons.mp listed with rfl | listed
      · exact (le_max_right first other).trans least
      · exact others other listed

theorem nextStoredRowid_pos : 0 < nextStoredRowid tables := by
  have least := (foldl_max_bounds (tables.ledger.events.rows.map EventPosition.eventRowid) 0).1
  rw [nextStoredRowid]
  omega

variable {tables before after rebuilt : MarketTables} {event : GatewayEvent}
  {row : Int × GatewayEvent} {accepted enabled : Bool} {receivedAt : String} {host : Host}
  {readings : MarketRebuildReadings} {result : MarketDataRebuildResult}
  {calls : String → MarketCall} {counts : MarketRebuildCounts}

theorem eventRowid_lt_next {position : EventPosition}
    (present : position ∈ tables.ledger.events.rows) :
    position.eventRowid < nextStoredRowid tables := by
  have listed := List.mem_map_of_mem (f := EventPosition.eventRowid) present
  have least := (foldl_max_bounds _ 0).2 _ listed
  rw [nextStoredRowid]
  omega

theorem replayableEvent_eq_some {eventId : String}
    (replays : replayableEvent tables eventId = some event) :
    event.eventId = eventId ∧ (tables.gatewayEvents.find? eventId).isSome ∧
      event.eventType ∈ marketDataEventTypes := by
  rw [replayableEvent] at replays
  split at replays
  · next stored found =>
      split at replays
      · next takes =>
          rw [Option.some.injEq] at replays
          subst replays
          exact ⟨Table.key_of_find? found, Option.isSome_of_eq_some found, takes.2⟩
      · cases replays
  · cases replays

theorem mem_replayableRows :
    row ∈ replayableRows tables ↔
      ∃ position, tables.ledger.events.find? row.2.eventId = some position ∧
        position.eventRowid = row.1 ∧ replayableEvent tables row.2.eventId = some row.2 := by
  rw [replayableRows, List.mem_filterMap]
  constructor
  · rintro ⟨position, present, isRow⟩
    rw [Option.map_eq_some_iff] at isRow
    rcases isRow with ⟨event, replays, rfl⟩
    have isId := (replayableEvent_eq_some replays).1
    have found : tables.ledger.events.find? position.eventId = some position :=
      Table.find?_of_mem present
    rw [← isId] at found replays
    exact ⟨position, found, rfl, replays⟩
  · rintro ⟨position, found, isRowid, replays⟩
    have isId : position.eventId = row.2.eventId := Table.key_of_find? found
    refine ⟨position, Table.mem_of_find? found, ?_⟩
    rw [isId, replays, Option.map_some, isRowid]

theorem normalizeEventType_marketData {eventType : String}
    (isType : eventType ∈ marketDataEventTypes) :
    normalizeEventType eventType = eventType := by
  simp only [marketDataEventTypes, List.mem_cons, List.not_mem_nil, or_false] at isType
  rcases isType with rfl | rfl | rfl
  all_goals decide +kernel

theorem isStored_of_mem (listed : row ∈ replayableRows tables) :
    ∃ position, IsStored tables row.2 position ∧ position.eventRowid = row.1 := by
  rcases mem_replayableRows.mp listed with ⟨position, found, isRowid, replays⟩
  rcases replayableEvent_eq_some replays with ⟨_, isEvent, isType⟩
  exact ⟨position, ⟨found, isEvent, (normalizeEventType_marketData isType).symm ▸ isType⟩, isRowid⟩

namespace StoreOrder

variable {tables : MarketTables}

theorem positive_of_mem (order : StoreOrder tables) {row : Int × GatewayEvent}
    (listed : row ∈ replayableRows tables) : 0 < row.1 := by
  rcases mem_replayableRows.mp listed with ⟨position, found, isRowid, _⟩
  rw [← isRowid]
  exact order.positive position (Table.mem_of_find? found)

theorem increasingRows (order : StoreOrder tables) :
    (replayableRows tables).Pairwise fun left right => left.1 < right.1 := by
  rw [replayableRows, List.pairwise_filterMap]
  refine order.increasing.imp ?_
  intro first second below left isFirst right isSecond
  rw [Option.map_eq_some_iff] at isFirst isSecond
  rcases isFirst with ⟨_, _, rfl⟩
  rcases isSecond with ⟨_, _, rfl⟩
  exact below

theorem eq_of_rowid (order : StoreOrder tables) {left right : Int × GatewayEvent}
    (isLeft : left ∈ replayableRows tables) (isRight : right ∈ replayableRows tables)
    (same : left.1 = right.1) : left = right := by
  have distinct : ((replayableRows tables).map Prod.fst).Nodup := by
    rw [List.Nodup, List.pairwise_map]
    exact order.increasingRows.imp fun below => ne_of_lt below
  exact List.inj_on_of_nodup_map distinct isLeft isRight same

end StoreOrder

theorem eq_of_eventId {left right : Int × GatewayEvent} (isLeft : left ∈ replayableRows tables)
    (isRight : right ∈ replayableRows tables) (same : left.2.eventId = right.2.eventId) :
    left = right := by
  rcases mem_replayableRows.mp isLeft with ⟨first, foundLeft, rowidLeft, replaysLeft⟩
  rcases mem_replayableRows.mp isRight with ⟨second, foundRight, rowidRight, replaysRight⟩
  rw [same] at foundLeft replaysLeft
  rw [foundLeft, Option.some.injEq] at foundRight
  rw [replaysLeft, Option.some.injEq] at replaysRight
  subst foundRight
  exact Prod.ext (rowidLeft.symm.trans rowidRight) replaysRight

theorem replayableRows_of_same (sameGateway : after.gatewayEvents = before.gatewayEvents)
    (sameEvents : after.ledger.events = before.ledger.events) :
    replayableRows after = replayableRows before := by
  simp only [replayableRows, replayableEvent, sameGateway, sameEvents]

theorem StoreOrder.of_same (order : StoreOrder before)
    (sameGateway : after.gatewayEvents = before.gatewayEvents)
    (sameEvents : after.ledger.events = before.ledger.events)
    (bounded : lastEventRowid after < nextStoredRowid before) : StoreOrder after where
  aligned := by
    rw [sameGateway, sameEvents]
    exact order.aligned
  positive := by
    rw [sameEvents]
    exact order.positive
  increasing := by
    rw [sameEvents]
    exact order.increasing
  bounded := by
    rw [nextStoredRowid, sameEvents]
    exact bounded

/-! ## A store -/

/-- An event that is stored gets the greatest rowid, and changes nothing else. -/
inductive Stores (before : MarketTables) (event : GatewayEvent) (accepted : Bool)
    (receivedAt : String) : MarketTables → Prop
  | known : Stores before event accepted receivedAt before
  | fresh (gatewayEvents : Table StoredEvent) (events : Table EventPosition)
      (sameGateway : before.gatewayEvents.insert? { event := event, accepted := accepted } =
        some gatewayEvents)
      (sameEvents : before.ledger.events.insert?
        { eventId := event.eventId
          eventRowid := nextStoredRowid before
          eventType := event.eventType
          receivedAt := receivedAt } = some events) :
      Stores before event accepted receivedAt
        { before with
          gatewayEvents := gatewayEvents
          ledger := { before.ledger with events := events } }

theorem storeNext_stores (tables : MarketTables) (event : GatewayEvent) (accepted : Bool)
    (receivedAt : String) :
    Stores tables event accepted receivedAt (storeNext tables event accepted receivedAt) := by
  rw [storeNext, storeEvent]
  split
  · next gatewayEvents events sameGateway sameEvents =>
      exact .fresh gatewayEvents events sameGateway sameEvents
  · exact .known

theorem foldl_max_append (rowids : List Int) (last : Int) :
    (rowids ++ [last]).foldl max 0 = max (rowids.foldl max 0) last := by
  rw [List.foldl_append]
  rfl

theorem Stores.inOrder (stores : Stores before event accepted receivedAt after)
    (order : StoreOrder before) : StoreOrder after := by
  cases stores with
  | known => exact order
  | fresh gatewayEvents events sameGateway sameEvents =>
      have rows := Table.rows_of_insert? sameEvents
      refine ⟨?_, ?_, ?_, ?_⟩
      · intro eventId
        by_cases own : event.eventId = eventId
        · subst own
          have isEvent : gatewayEvents.find? event.eventId = some _ :=
            Table.find?_of_insert?_self sameGateway
          have isPosition : events.find? event.eventId = some _ :=
            Table.find?_of_insert?_self sameEvents
          rw [Option.isSome_of_eq_some isEvent, Option.isSome_of_eq_some isPosition]
        · rw [Table.find?_of_insert?_of_ne sameEvents own,
            Table.find?_of_insert?_of_ne sameGateway own]
          exact order.aligned eventId
      · intro position present
        rw [rows, List.mem_append, List.mem_singleton] at present
        rcases present with present | rfl
        · exact order.positive position present
        · exact nextStoredRowid_pos before
      · rw [rows, List.pairwise_append]
        refine ⟨order.increasing, List.pairwise_singleton _ _, ?_⟩
        intro left isLeft right isRight
        rw [List.mem_singleton] at isRight
        subst isRight
        exact eventRowid_lt_next isLeft
      · have grows : nextStoredRowid before ≤ nextStoredRowid
            { before with
              ledger := { before.ledger with events := events } } := by
          simp only [nextStoredRowid, rows, List.map_append, List.map_cons, List.map_nil,
            foldl_max_append]
          omega
        exact lt_of_lt_of_le order.bounded grows

theorem Stores.mem_replayableRows (stores : Stores before event accepted receivedAt after)
    (listed : row ∈ replayableRows after) :
    row ∈ replayableRows before ∨ row.1 = nextStoredRowid before := by
  cases stores with
  | known => exact Or.inl listed
  | fresh gatewayEvents events sameGateway sameEvents =>
      rcases SuseokTrader.mem_replayableRows.mp listed with ⟨position, found, isRowid, replays⟩
      by_cases own : event.eventId = row.2.eventId
      · right
        have isPosition : events.find? event.eventId = some _ :=
          Table.find?_of_insert?_self sameEvents
        rw [own, found, Option.some.injEq] at isPosition
        rw [← isRowid, isPosition]
      · left
        rw [Table.find?_of_insert?_of_ne sameEvents own] at found
        refine SuseokTrader.mem_replayableRows.mpr ⟨position, found, isRowid, ?_⟩
        simp only [replayableEvent] at replays ⊢
        rw [Table.find?_of_insert?_of_ne sameGateway own] at replays
        exact replays

theorem Stores.noneBelow (stores : Stores before event accepted receivedAt after)
    (order : StoreOrder before) (none : NoneBelow before) : NoneBelow after := by
  intro row listed noResult
  have sameRowid : lastEventRowid after = lastEventRowid before := by
    cases stores with
    | known => rfl
    | fresh gatewayEvents events sameGateway sameEvents => rfl
  have sameResult : marketResult after row.2.eventId = marketResult before row.2.eventId := by
    cases stores with
    | known => rfl
    | fresh gatewayEvents events sameGateway sameEvents => rfl
  rw [sameRowid]
  rcases stores.mem_replayableRows listed with old | new
  · exact none row old (sameResult ▸ noResult)
  · rw [new]
    exact order.bounded

/-! ## A live call -/

section Live

variable {host : Host} {tables : MarketTables} {row : Int × GatewayEvent}

theorem liveCall_of_mem (host : Host) (listed : row ∈ replayableRows tables) (enabled commit : Bool)
    (call : MarketCall) :
    liveCall host tables row.2.eventId enabled commit call =
      (processGatewayEvent host enabled tables row.2 commit call.readings call.fault).1 := by
  rcases mem_replayableRows.mp listed with ⟨_, _, _, replays⟩
  rw [liveCall, replays]

theorem liveCall_of_not_mem (order : StoreOrder tables) {eventId : String}
    (unlisted : ∀ row ∈ replayableRows tables, row.2.eventId ≠ eventId) (enabled commit : Bool)
    (call : MarketCall) : liveCall host tables eventId enabled commit call = tables := by
  rw [liveCall]
  split
  · next event replays =>
      rcases replayableEvent_eq_some replays with ⟨isId, isEvent, _⟩
      rw [← order.aligned] at isEvent
      rcases Option.isSome_iff_exists.mp isEvent with ⟨position, found⟩
      refine absurd isId (unlisted (position.eventRowid, event) ?_)
      refine mem_replayableRows.mpr ⟨position, ?_, rfl, ?_⟩
      · rw [isId]
        exact found
      · rw [isId]
        exact replays
  · rfl

theorem liveCall_end (host : Host) (listed : row ∈ replayableRows tables) (enabled commit : Bool)
    (call : MarketCall) :
    ∃ position outcome, IsStored tables row.2 position ∧ position.eventRowid = row.1 ∧
      CallEnd host enabled tables row.2 position call
        (liveCall host tables row.2.eventId enabled commit call, outcome) := by
  rcases isStored_of_mem listed with ⟨position, stored, isRowid⟩
  refine ⟨position, (processGatewayEvent host enabled tables row.2 commit call.readings
    call.fault).2, stored, isRowid, ?_⟩
  rw [liveCall_of_mem host listed]
  exact processGatewayEvent_end host enabled commit stored call

theorem CallEnd.inOrder {enabled : Bool} {event : GatewayEvent} {position : EventPosition}
    {call : MarketCall} {called : MarketTables × Checked MarketDataProcessResult}
    (ending : CallEnd host enabled tables event position call called)
    (stored : IsStored tables event position) (order : StoreOrder tables) :
    StoreOrder called.1 := by
  have present := Table.mem_of_find? stored.isPosition
  refine order.of_same ending.gatewayEvents ending.events ?_
  by_cases passes : ProjectsThrough host enabled tables event call
  · rw [ending.lastEventRowid_of_through (order.positive position present) passes]
    exact max_lt order.bounded (eventRowid_lt_next present)
  · rw [ending.lastEventRowid_of_not_through passes]
    exact order.bounded

theorem storeOrder_liveCall (order : StoreOrder tables) (eventId : String)
    (enabled commit : Bool) (call : MarketCall) :
    StoreOrder (liveCall host tables eventId enabled commit call) := by
  by_cases isListed : ∃ row ∈ replayableRows tables, row.2.eventId = eventId
  · rcases isListed with ⟨row, listed, rfl⟩
    rcases liveCall_end host listed enabled commit call with
      ⟨position, outcome, stored, _, ending⟩
    exact ending.inOrder stored order
  · rw [liveCall_of_not_mem order (by simpa using isListed)]
    exact order

/-- The call leaves no event without a result below the watermark exactly where, if its event
goes through, no older one has none. -/
theorem CallEnd.noneBelow_iff {enabled : Bool} {position : EventPosition} {call : MarketCall}
    {called : MarketTables × Checked MarketDataProcessResult}
    (ending : CallEnd host enabled tables row.2 position call called)
    (listed : row ∈ replayableRows tables) (stored : IsStored tables row.2 position)
    (isRowid : position.eventRowid = row.1) (order : StoreOrder tables) (none : NoneBelow tables) :
    NoneBelow called.1 ↔
      (ProjectsThrough host enabled tables row.2 call →
        ∀ older ∈ replayableRows tables, older.1 < row.1 →
          (marketResult tables older.2.eventId).isSome) := by
  have sameRows := replayableRows_of_same ending.gatewayEvents ending.events
  have positive : 0 < position.eventRowid := isRowid ▸ order.positive_of_mem listed
  constructor
  · intro noneAfter passes older isOlder below
    rw [Option.isSome_iff_ne_none]
    intro noResult
    have different : older.2.eventId ≠ row.2.eventId := by
      intro same
      have sameRow := eq_of_eventId isOlder listed same
      rw [sameRow] at below
      exact lt_irrefl _ below
    have above := noneAfter older (sameRows ▸ isOlder)
      ((ending.others stored different).trans noResult)
    rw [ending.lastEventRowid_of_through positive passes, isRowid] at above
    exact absurd (lt_of_le_of_lt (le_max_right _ _) above) (not_lt_of_gt below)
  · intro keepsOrder other isOther noResult
    rw [sameRows] at isOther
    have noneBefore : marketResult tables other.2.eventId = .none := by
      by_contra has
      have kept := ending.keeps stored (Option.isSome_iff_ne_none.mpr has)
      rw [noResult] at kept
      cases kept
    have above := none other isOther noneBefore
    by_cases passes : ProjectsThrough host enabled tables row.2 call
    · rw [ending.lastEventRowid_of_through positive passes, isRowid]
      refine max_lt above (lt_of_not_ge ?_)
      intro atMost
      rcases lt_or_eq_of_le atMost with below | same
      · have has := keepsOrder passes other isOther below
        rw [noneBefore] at has
        cases has
      · have sameRow := order.eq_of_rowid isOther listed same
        have has := ending.recorded_of_through stored passes
        rw [← sameRow, noResult] at has
        cases has
    · rw [ending.lastEventRowid_of_not_through passes]
      exact above

theorem noneBelow_liveCall_iff (order : StoreOrder tables) (none : NoneBelow tables)
    (eventId : String) (enabled commit : Bool) (call : MarketCall) :
    NoneBelow (liveCall host tables eventId enabled commit call) ↔
      KeepsOrder host tables (.live eventId enabled commit call) := by
  by_cases isListed : ∃ row ∈ replayableRows tables, row.2.eventId = eventId
  · rcases isListed with ⟨row, listed, rfl⟩
    rcases liveCall_end host listed enabled commit call with
      ⟨position, outcome, stored, isRowid, ending⟩
    have step := ending.noneBelow_iff listed stored isRowid order none
    refine step.trans ?_
    constructor
    · intro keepsOrder other isOther same
      rw [eq_of_eventId isOther listed same]
      exact keepsOrder
    · intro keepsOrder
      exact keepsOrder row listed rfl
  · have unlisted : ∀ row ∈ replayableRows tables, row.2.eventId ≠ eventId := by
      simpa using isListed
    rw [liveCall_of_not_mem order unlisted]
    refine ⟨fun _ row listed same => absurd same (unlisted row listed), fun _ => none⟩

end Live

theorem liveNext_inOrder (order : StoreOrder tables) (op : LiveOp) :
    StoreOrder (liveNext host tables op) := by
  cases op with
  | store event accepted receivedAt =>
      exact (storeNext_stores tables event accepted receivedAt).inOrder order
  | live eventId enabled commit call => exact storeOrder_liveCall order eventId enabled commit call

theorem liveNext_noneBelow_iff (order : StoreOrder tables) (none : NoneBelow tables) (op : LiveOp) :
    NoneBelow (liveNext host tables op) ↔ KeepsOrder host tables op := by
  cases op with
  | store event accepted receivedAt =>
      have stores := storeNext_stores tables event accepted receivedAt
      exact iff_of_true (stores.noneBelow order none) trivial
  | live eventId enabled commit call =>
      exact noneBelow_liveCall_iff order none eventId enabled commit call

/-- Every state of a history has all events without a result above the watermark exactly where
no event went through while an older one had none. -/
theorem noneBelow_throughout_iff (host : Host) (order : StoreOrder tables)
    (none : NoneBelow tables) (ops : List LiveOp) :
    (liveSystem host).Throughout NoneBelow tables ops ↔
      (liveSystem host).Along (KeepsOrder host) tables ops := by
  refine @System.throughout_iff_along _ _ _ (liveSystem host)
    (fun tables => StoreOrder tables ∧ NoneBelow tables) NoneBelow (KeepsOrder host) ?_ ?_ ?_ tables
    ⟨order, none⟩ ops
  · rintro tables ⟨_, none⟩
    exact none
  · rintro tables op ⟨order, none⟩ keepsOrder
    exact ⟨liveNext_inOrder order op, (liveNext_noneBelow_iff order none op).mpr keepsOrder⟩
  · rintro tables op ⟨order, none⟩ noneAfter
    exact (liveNext_noneBelow_iff order none op).mp noneAfter

/-! ## The rows of a rebuild -/

theorem mem_listReplayableGatewayEvents {afterEventRowid : Int} :
    row ∈ listReplayableGatewayEvents tables none afterEventRowid ↔
      row ∈ replayableRows tables ∧ max afterEventRowid 0 < row.1 := by
  simp [listReplayableGatewayEvents]

theorem listReplayableGatewayEvents_zero (order : StoreOrder tables) :
    listReplayableGatewayEvents tables none 0 = replayableRows tables := by
  have all : ((replayableRows tables).filter fun row => max 0 0 < row.1) =
      replayableRows tables := by
    rw [List.filter_eq_self]
    intro row listed
    simpa using order.positive_of_mem listed
  have sorted : (replayableRows tables).Pairwise fun left right => left.1 ≤ right.1 :=
    order.increasingRows.imp fun below => le_of_lt below
  rw [listReplayableGatewayEvents, all]
  exact sorted.insertionSort_eq

section Replay

variable {host : Host} {enabled : Bool} {calls : String → MarketCall}

theorem replayEvents_append (tables : MarketTables) (counts : MarketRebuildCounts)
    (older newer : List (Int × GatewayEvent)) :
    replayEvents host enabled calls tables counts (older ++ newer) =
      match replayEvents host enabled calls tables counts older with
      | (after, .ok counted) => replayEvents host enabled calls after counted newer
      | (after, .error failure) => (after, .error failure) := by
  induction older generalizing tables counts with
  | nil => rfl
  | cons row older ih =>
      rw [List.cons_append, replayEvents, replayEvents]
      split
      · exact ih _ _
      · rfl

theorem replayEvents_cons {tables after : MarketTables} {counts counted : MarketRebuildCounts}
    {row : Int × GatewayEvent} {rows : List (Int × GatewayEvent)}
    (completes : replayEvents host enabled calls tables counts (row :: rows) =
      (after, .ok counted)) :
    ∃ next result, processGatewayEvent host enabled tables row.2 true
        (calls row.2.eventId).readings (calls row.2.eventId).fault = (next, .ok result) ∧
      replayEvents host enabled calls next (counts.add result) rows = (after, .ok counted) := by
  rw [replayEvents] at completes
  split at completes
  · next next result called => exact ⟨next, result, called, completes⟩
  · cases (Prod.mk.inj completes).2

/-- What a rebuild that goes through its rows leaves of the store, the watermark and the number
of attempts. -/
structure Replays (enabled : Bool) (before after : MarketTables)
    (rows : List (Int × GatewayEvent)) : Prop where
  gatewayEvents : after.gatewayEvents = before.gatewayEvents
  events : after.ledger.events = before.ledger.events
  order : StoreOrder after
  watermark : ∀ bound, lastEventRowid before < bound → (∀ row ∈ rows, row.1 < bound) →
    lastEventRowid after < bound
  attempts : ∀ eventId, marketAttempts before eventId ≤ marketAttempts after eventId
  counts : enabled = true → ∀ row ∈ rows,
    marketAttempts before row.2.eventId < marketAttempts after row.2.eventId
  disabled : enabled = false → after = before

theorem processGatewayEvent_disabled (host : Host) (tables : MarketTables) (event : GatewayEvent)
    (commit : Bool) (readings : ProjectionReadings) (fault : Option DatabaseFault) :
    (processGatewayEvent host false tables event commit readings fault).1 = tables :=
  rfl

theorem replayEvents_replays {tables after : MarketTables} {counts counted : MarketRebuildCounts}
    {rows : List (Int × GatewayEvent)} (order : StoreOrder tables)
    (listed : ∀ row ∈ rows, row ∈ replayableRows tables)
    (completes : replayEvents host enabled calls tables counts rows = (after, .ok counted)) :
    Replays enabled tables after rows := by
  induction rows generalizing tables counts with
  | nil =>
      cases completes
      exact ⟨rfl, rfl, order, fun _ below _ => below, fun _ => le_refl _,
        fun _ row isRow => absurd isRow List.not_mem_nil, fun _ => rfl⟩
  | cons row rows ih =>
      have isListed := listed row List.mem_cons_self
      rcases replayEvents_cons completes with ⟨next, result, called, later⟩
      rcases isStored_of_mem isListed with ⟨position, stored, isRowid⟩
      have ending := processGatewayEvent_end host enabled true stored (calls row.2.eventId)
      rw [called] at ending
      have sameRows := replayableRows_of_same ending.gatewayEvents ending.events
      have replays := ih (ending.inOrder stored order)
        (fun other isOther => sameRows ▸ listed other (List.mem_cons_of_mem _ isOther)) later
      have positive : 0 < position.eventRowid := isRowid ▸ order.positive_of_mem isListed
      refine ⟨replays.gatewayEvents.trans ending.gatewayEvents,
        replays.events.trans ending.events, replays.order, ?_, ?_, ?_, ?_⟩
      · intro bound below all
        refine replays.watermark bound ?_ fun other isOther =>
          all other (List.mem_cons_of_mem _ isOther)
        by_cases passes : ProjectsThrough host enabled tables row.2 (calls row.2.eventId)
        · rw [ending.lastEventRowid_of_through positive passes, isRowid]
          exact max_lt below (all row List.mem_cons_self)
        · rw [ending.lastEventRowid_of_not_through passes]
          exact below
      · intro eventId
        exact (ending.attempts_le stored eventId).trans (replays.attempts eventId)
      · intro on other isOther
        rcases List.mem_cons.mp isOther with rfl | isOther
        · exact lt_of_lt_of_le (ending.attempts_lt stored on rfl) (replays.attempts _)
        · exact lt_of_le_of_lt (ending.attempts_le stored _) (replays.counts on other isOther)
      · intro off
        rw [replays.disabled off]
        subst off
        have same := processGatewayEvent_disabled host tables row.2 true
          (calls row.2.eventId).readings (calls row.2.eventId).fault
        rw [called] at same
        exact same

end Replay

/-! ## A clearing rebuild, and an incremental one after it -/

theorem lastEventRowid_clear (tables : MarketTables) :
    lastEventRowid (clearMarketDataProjection tables) = 0 := by
  have cleared : (clearMarketDataProjection tables).ledger.watermarks.find? "market_data" =
      none := by
    simp only [clearMarketDataProjection, Table.find?_deleteWhere]
    rw [Option.filter_eq_none_iff]
    intro row found
    have isName : row.projectionName = "market_data" := Table.key_of_find? found
    simp [isName]
  rw [lastEventRowid, cleared]
  rfl

theorem storeOrder_clear (order : StoreOrder tables) :
    StoreOrder (clearMarketDataProjection tables) := by
  refine order.of_same rfl rfl ?_
  rw [lastEventRowid_clear]
  exact nextStoredRowid_pos tables

theorem replayableRows_clear (tables : MarketTables) :
    replayableRows (clearMarketDataProjection tables) = replayableRows tables :=
  rfl

theorem clearingRebuild_eq (order : StoreOrder tables)
    (completes : rebuildMarketDataProjection host enabled tables clearingRebuild readings =
      (rebuilt, .ok result)) :
    ∃ counts, replayEvents host enabled readings.calls (clearMarketDataProjection tables)
      ⟨0, 0, 0, 0⟩ (replayableRows tables) = (rebuilt, .ok counts) := by
  simp only [rebuildMarketDataProjection, clearingRebuild, Bool.not_true, Bool.false_eq_true,
    and_false, if_false, if_true] at completes
  split at completes
  · cases (Prod.mk.inj completes).2
  · simp only [replayFrom, Bool.false_eq_true, if_false,
      listReplayableGatewayEvents_zero (storeOrder_clear order), replayableRows_clear] at completes
    split at completes
    · cases (Prod.mk.inj completes).2
    · next after counts replayed =>
        rw [Prod.mk.injEq] at completes
        rw [← completes.1]
        exact ⟨counts, replayed⟩

theorem incrementalRebuild_eq
    (completes : rebuildMarketDataProjection host enabled tables incrementalRebuild readings =
      (after, .ok result)) :
    ∃ counts, replayEvents host enabled readings.calls tables ⟨0, 0, 0, 0⟩
      (listReplayableGatewayEvents tables none (lastEventRowid tables)) = (after, .ok counts) := by
  simp only [rebuildMarketDataProjection, incrementalRebuild, Bool.false_eq_true, false_and,
    if_false, replayFrom] at completes
  split at completes
  · cases (Prod.mk.inj completes).2
  · next after counts replayed =>
      rw [Prod.mk.injEq] at completes
      rw [← completes.1]
      exact ⟨counts, replayed⟩

/-- The newest event goes through, on what the rebuild of the older ones left. -/
def NewestGoesThrough (host : Host) (enabled : Bool) (tables : MarketTables)
    (calls : String → MarketCall) : Prop :=
  ∀ older newest, replayableRows tables = older ++ [newest] →
    ProjectsThrough host enabled
      (replayEvents host enabled calls (clearMarketDataProjection tables) ⟨0, 0, 0, 0⟩ older).1
      newest.2 (calls newest.2.eventId)

theorem incrementalRebuild_same_iff (order : StoreOrder tables)
    (completes : rebuildMarketDataProjection host enabled tables incrementalRebuild readings =
      (after, .ok result)) :
    after = tables ↔ (enabled = true →
      ∀ row ∈ replayableRows tables, row.1 ≤ max (lastEventRowid tables) 0) := by
  rcases incrementalRebuild_eq completes with ⟨counts, replayed⟩
  have replays := replayEvents_replays order
    (fun row listed => (mem_listReplayableGatewayEvents.mp listed).1) replayed
  constructor
  · intro same on row listed
    by_contra above
    have found := mem_listReplayableGatewayEvents.mpr ⟨listed, not_le.mp above⟩
    have more := replays.counts on row found
    rw [same] at more
    exact lt_irrefl _ more
  · intro none
    cases enabled with
    | false => exact replays.disabled rfl
    | true =>
        have noRows : listReplayableGatewayEvents tables .none (lastEventRowid tables) = [] := by
          rw [List.eq_nil_iff_forall_not_mem]
          intro row found
          rcases mem_listReplayableGatewayEvents.mp found with ⟨listed, above⟩
          exact absurd above (not_lt.mpr (none rfl row listed))
        rw [noRows] at replayed
        exact (Prod.mk.inj replayed).1.symm

/-- The watermark comes to the newest of the rows exactly where that goes through. -/
theorem newest_through_iff {counted : MarketRebuildCounts} {older : List (Int × GatewayEvent)}
    {newest : Int × GatewayEvent} (order : StoreOrder tables) (fresh : lastEventRowid tables = 0)
    (split : replayableRows tables = older ++ [newest])
    (replayed : replayEvents host enabled calls tables counts (older ++ [newest]) =
      (after, .ok counted)) :
    ProjectsThrough host enabled (replayEvents host enabled calls tables counts older).1 newest.2
        (calls newest.2.eventId) ↔
      newest.1 ≤ max (lastEventRowid after) 0 := by
  have increasing := order.increasingRows
  rw [split, List.pairwise_append] at increasing
  have listed : ∀ row, row ∈ older ∨ row = newest → row ∈ replayableRows tables := by
    intro row isRow
    rw [split, List.mem_append, List.mem_singleton]
    exact isRow
  rw [replayEvents_append] at replayed
  cases first : replayEvents host enabled calls tables counts older with
  | mk middle outcome =>
      rw [first] at replayed
      cases outcome with
      | error failure => cases (Prod.mk.inj replayed).2
      | ok before =>
          have replays := replayEvents_replays order (fun row isRow => listed row (Or.inl isRow))
            first
          have stillNewest : newest ∈ replayableRows middle := by
            rw [replayableRows_of_same replays.gatewayEvents replays.events]
            exact listed newest (Or.inr rfl)
          rcases replayEvents_cons replayed with ⟨next, result, called, later⟩
          rcases isStored_of_mem stillNewest with ⟨position, stored, isRowid⟩
          have ending := processGatewayEvent_end host enabled true stored (calls newest.2.eventId)
          rw [called] at ending
          have isAfter : next = after := (Prod.mk.inj later).1
          subst isAfter
          have positive : 0 < position.eventRowid :=
            isRowid ▸ replays.order.positive_of_mem stillNewest
          have below : lastEventRowid middle < newest.1 := by
            refine replays.watermark newest.1 ?_ fun row isRow =>
              increasing.2.2 row isRow newest List.mem_cons_self
            rw [fresh, ← isRowid]
            exact positive
          constructor
          · intro passes
            rw [ending.lastEventRowid_of_through positive passes, isRowid]
            exact (le_max_right _ _).trans (le_max_left _ _)
          · intro atMost
            by_contra fails
            rw [ending.lastEventRowid_of_not_through fails] at atMost
            exact absurd atMost (not_le.mpr (max_lt below (isRowid ▸ positive)))

/-- After a clearing rebuild no event is above the watermark exactly where the newest one went
through. -/
theorem newestGoesThrough_iff (order : StoreOrder tables)
    (replayed : replayEvents host enabled calls (clearMarketDataProjection tables) ⟨0, 0, 0, 0⟩
      (replayableRows tables) = (rebuilt, .ok counts)) :
    NewestGoesThrough host enabled tables calls ↔
      ∀ row ∈ replayableRows rebuilt, row.1 ≤ max (lastEventRowid rebuilt) 0 := by
  have cleared := storeOrder_clear order
  have replays := replayEvents_replays cleared (fun row listed => listed) replayed
  have sameRows : replayableRows rebuilt = replayableRows tables :=
    replayableRows_of_same replays.gatewayEvents replays.events
  rw [sameRows]
  rcases List.eq_nil_or_concat (replayableRows tables) with noRows | ⟨older, newest, split⟩
  · rw [NewestGoesThrough, noRows]
    refine iff_of_true ?_ fun row isRow => absurd isRow List.not_mem_nil
    intro older newest split
    exact absurd split.symm (List.append_ne_nil_of_right_ne_nil older (List.cons_ne_nil newest []))
  · rw [List.concat_eq_append] at split
    rw [split] at replayed
    have through := newest_through_iff cleared (lastEventRowid_clear tables) split replayed
    have increasing := order.increasingRows
    rw [split, List.pairwise_append] at increasing
    constructor
    · intro goes row listed
      have atNewest := through.mp (goes older newest split)
      rw [split, List.mem_append, List.mem_singleton] at listed
      rcases listed with isOlder | rfl
      · exact (le_of_lt (increasing.2.2 row isOlder newest List.mem_cons_self)).trans atNewest
      · exact atNewest
    · intro all others last isLast
      rw [split] at isLast
      rcases List.append_inj' isLast rfl with ⟨rfl, sameLast⟩
      rw [List.cons.injEq] at sameLast
      rw [← sameLast.1]
      refine through.mpr (all newest ?_)
      rw [split]
      exact List.mem_append_right older List.mem_cons_self

/-! ## A rebuild as live processing -/

def LiveOp.isStore : LiveOp → Bool
  | .store _ _ _ => true
  | .live _ _ _ _ => false

/-- A live call for every event that a rebuild sends, in the order of the rowids. -/
def inRowidOrder (tables : MarketTables) (enabled : Bool) (lives : String → MarketCall) :
    List LiveOp :=
  (replayableRows tables).map fun row => .live row.2.eventId enabled true (lives row.2.eventId)

def OnlyStored (tables : MarketTables) : Prop :=
  tables = { emptyMarketTables with
    gatewayEvents := tables.gatewayEvents
    ledger := { emptyMarketTables.ledger with events := tables.ledger.events } }

theorem Stores.onlyStored (stores : Stores before event accepted receivedAt after)
    (only : OnlyStored before) : OnlyStored after := by
  cases stores with
  | known => exact only
  | fresh gatewayEvents events sameGateway sameEvents =>
      rw [OnlyStored] at only ⊢
      rw [only]

structure SameStore (left right : MarketTables) : Prop where
  gatewayEvents : right.gatewayEvents = left.gatewayEvents
  events : right.ledger.events = left.ledger.events

theorem storeNext_sameStore {left right : MarketTables} (same : SameStore left right)
    (event : GatewayEvent) (accepted : Bool) (receivedAt : String) :
    SameStore (storeNext left event accepted receivedAt)
      (storeNext right event accepted receivedAt) := by
  have sameNext : nextStoredRowid right = nextStoredRowid left := by
    rw [nextStoredRowid, same.events, nextStoredRowid]
  rw [storeNext, storeNext, storeEvent, storeEvent, sameNext, same.gatewayEvents, same.events]
  split
  · exact ⟨rfl, rfl⟩
  · exact same

theorem liveCall_sameStore (host : Host) (order : StoreOrder tables) (eventId : String)
    (enabled commit : Bool) (call : MarketCall) :
    SameStore tables (liveCall host tables eventId enabled commit call) := by
  by_cases isListed : ∃ row ∈ replayableRows tables, row.2.eventId = eventId
  · rcases isListed with ⟨row, listed, rfl⟩
    rcases liveCall_end host listed enabled commit call with
      ⟨position, outcome, stored, _, ending⟩
    exact ⟨ending.gatewayEvents, ending.events⟩
  · rw [liveCall_of_not_mem order (by simpa using isListed)]
    exact ⟨rfl, rfl⟩

theorem run_stores (host : Host) (ops : List LiveOp) {only : MarketTables}
    (same : SameStore only tables) (order : StoreOrder tables) (isOnly : OnlyStored only) :
    SameStore ((liveSystem host).run only (ops.filter LiveOp.isStore))
        ((liveSystem host).run tables ops) ∧
      OnlyStored ((liveSystem host).run only (ops.filter LiveOp.isStore)) := by
  induction ops generalizing only tables with
  | nil => exact ⟨same, isOnly⟩
  | cons op ops ih =>
      cases op with
      | store event accepted receivedAt =>
          exact ih (storeNext_sameStore same event accepted receivedAt)
            ((storeNext_stores tables event accepted receivedAt).inOrder order)
            ((storeNext_stores only event accepted receivedAt).onlyStored isOnly)
      | live eventId enabled commit call =>
          have stays := liveCall_sameStore host order eventId enabled commit call
          exact ih ⟨stays.gatewayEvents.trans same.gatewayEvents, stays.events.trans same.events⟩
            (storeOrder_liveCall order eventId enabled commit call) isOnly

theorem sameTables_clear {only : MarketTables} (isOnly : OnlyStored only)
    (same : SameStore only tables) : SameTables only (clearMarketDataProjection tables) where
  rows := by
    rw [isOnly]
    simp only [clearMarketDataProjection, MarketTables.withLedger, emptyMarketTables,
      same.gatewayEvents]
  ledger := by
    rw [isOnly]
    refine ⟨same.events, ?_, ?_⟩
    · intro eventId
      have cleared : (clearMarketDataProjection tables).ledger.results.find?
          ("market_data", eventId) = none := by
        simp only [clearMarketDataProjection, Table.find?_deleteWhere]
        rw [Option.filter_eq_none_iff]
        intro row found
        have isKey : (row.projectionName, row.eventId) = ("market_data", eventId) :=
          Table.key_of_find? found
        simp [(Prod.mk.inj isKey).1]
      rw [cleared]
      rfl
    · have cleared : (clearMarketDataProjection tables).ledger.watermarks.find? "market_data" =
          none := by
        simp only [clearMarketDataProjection, Table.find?_deleteWhere]
        rw [Option.filter_eq_none_iff]
        intro row found
        have isName : row.projectionName = "market_data" := Table.key_of_find? found
        simp [isName]
      rw [SameWatermark, cleared]
      rfl

/-- Calls that read their own clocks, and otherwise what the calls of the rebuild read. -/
def SameButClock (lives calls : String → MarketCall) : Prop :=
  ∀ eventId, (calls eventId).readings.derivedRows = (lives eventId).readings.derivedRows ∧
    (calls eventId).fault = (lives eventId).fault

theorem replayEvents_live {lives : String → MarketCall} (sameCalls : SameButClock lives calls)
    {rows : List (Int × GatewayEvent)} {left right : MarketTables} {counted : MarketRebuildCounts}
    (same : SameTables left right) (listed : ∀ row ∈ rows, row ∈ replayableRows left)
    (replayed : replayEvents host enabled calls right counts rows = (rebuilt, .ok counted)) :
    SameTables ((liveSystem host).run left
      (rows.map fun row => .live row.2.eventId enabled true (lives row.2.eventId))) rebuilt := by
  induction rows generalizing left right counts with
  | nil =>
      cases replayed
      exact same
  | cons row rows ih =>
      have isListed := listed row List.mem_cons_self
      rcases replayEvents_cons replayed with ⟨next, result, called, later⟩
      rcases isStored_of_mem isListed with ⟨position, stored, _⟩
      rcases sameCalls row.2.eventId with ⟨sameRows, sameFault⟩
      have sameCall := processGatewayEvent_same host enabled true stored same sameRows
        (lives row.2.eventId).fault
      rw [← sameFault, called, sameFault] at sameCall
      have isLive := liveCall_of_mem host isListed enabled true (lives row.2.eventId)
      have stays := processGatewayEvent_end host enabled true stored (lives row.2.eventId)
      refine ih ?_ ?_ later
      · rw [liveSystem, System.next_ofStep, liveNext, isLive]
        exact sameCall.tables
      · intro other isOther
        rw [liveSystem, System.next_ofStep, liveNext, isLive,
          replayableRows_of_same stays.gatewayEvents stays.events]
        exact listed other (List.mem_cons_of_mem _ isOther)

/-- A clearing rebuild that comes to its end leaves what live calls in the order of the rowids
leave of the stored events. -/
theorem clearingRebuild_live {ops : List LiveOp}
    (completes : rebuildMarketDataProjection host enabled
      ((liveSystem host).run emptyMarketTables ops) clearingRebuild readings =
        (rebuilt, .ok result)) {lives : String → MarketCall}
    (sameCalls : SameButClock lives readings.calls) :
    SameTables ((liveSystem host).run emptyMarketTables (ops.filter LiveOp.isStore ++
      inRowidOrder ((liveSystem host).run emptyMarketTables ops) enabled lives)) rebuilt := by
  have order : StoreOrder ((liveSystem host).run emptyMarketTables ops) :=
    @System.run_invariant _ _ _ (liveSystem host) StoreOrder
      (fun _ op order => liveNext_inOrder order op) _ storeOrder_emptyMarketTables ops
  rcases clearingRebuild_eq order completes with ⟨counts, replayed⟩
  rcases run_stores host ops ⟨rfl, rfl⟩ storeOrder_emptyMarketTables
    (rfl : OnlyStored emptyMarketTables) with ⟨sameStore, isOnly⟩
  rw [System.run_append]
  refine replayEvents_live sameCalls (sameTables_clear isOnly sameStore) ?_ replayed
  intro row listed
  rw [replayableRows_of_same sameStore.gatewayEvents sameStore.events] at listed
  exact listed

theorem noneBelow_emptyMarketTables : NoneBelow emptyMarketTables := by
  intro row listed
  cases listed

theorem stripped_secondTick : Stripped "tick-2" := by decide

/-- A price tick of the price. -/
def tickAt (eventId : String) (stripped : Stripped eventId) (price : Int) : GatewayEvent where
  eventId := eventId
  eventType := "price_tick"
  source := "kiwoom"
  ts := 0
  payload := [("code", .str "005930"), ("name", .str "Samsung"), ("price", .int price),
    ("change_rate", .int 0), ("volume", .int 10), ("trade_value", .int 10),
    ("execution_strength", .int 100), ("best_bid", .int price), ("best_ask", .int price),
    ("spread_ticks", .int 0), ("day_high", .int price), ("day_low", .int price),
    ("trade_time", .str "2026-01-05T01:00:00Z")]
  commandId := none
  idempotencyKey := none
  eventId_stripped := stripped
  eventType_stripped := stripped_priceTick
  source_stripped := stripped_kiwoom
  commandId_stripped := strippedOption_none
  idempotencyKey_stripped := strippedOption_none

def plainCall : MarketCall where
  readings := noReadings
  fault := none

/-- Two ticks are stored, and the second is projected first. -/
def secondTickFirst : List LiveOp :=
  [.store (tickAt "tick-1" stripped_firstTick 70000) true "2026-01-05T01:00:00Z",
    .store (tickAt "tick-2" stripped_secondTick 70100) true "2026-01-05T01:00:01Z",
    .live "tick-2" true true plainCall]

def leftBehind (tables : MarketTables) : Int × List (Int × String) :=
  (lastEventRowid tables, ((replayableRows tables).filter fun row =>
    (marketResult tables row.2.eventId).isNone).map fun row => (row.1, row.2.eventId))

theorem leftBehind_secondTickFirst :
    leftBehind ((liveSystem wholeNumberHost).run emptyMarketTables secondTickFirst) =
      (2, [(1, "tick-1")]) := by
  decide +kernel

theorem not_noneBelow_secondTickFirst :
    ¬ (liveSystem wholeNumberHost).Throughout NoneBelow emptyMarketTables secondTickFirst := by
  intro throughout
  have none := throughout secondTickFirst [] (List.append_nil _).symm
  have left := leftBehind_secondTickFirst
  generalize (liveSystem wholeNumberHost).run emptyMarketTables secondTickFirst = tables
    at none left
  rw [leftBehind, Prod.mk.injEq] at left
  rcases left with ⟨isRowid, rows⟩
  have listed : ((1 : Int), "tick-1") ∈ ((replayableRows tables).filter fun row =>
      (marketResult tables row.2.eventId).isNone).map fun row => (row.1, row.2.eventId) := by
    rw [rows]
    exact List.mem_cons_self
  rcases List.mem_map.mp listed with ⟨row, isRow, same⟩
  rcases List.mem_filter.mp isRow with ⟨isListed, noResult⟩
  have above := none row isListed (by simpa using noResult)
  rw [isRowid, (Prod.mk.inj same).1] at above
  exact absurd above (by decide)

/-- A tick at one won is stored, the tables are rebuilt, and rebuilt once more from the
watermark: whether both rebuilds came to their end, and the attempts after each. -/
def rebuiltTwice : Bool × Nat × Nat :=
  let stored := (liveSystem wholeNumberHost).run emptyMarketTables
    [.store oneWonTick true "2026-01-05T01:00:00Z"]
  let readings : MarketRebuildReadings := { clearFault := none, calls := fun _ => plainCall }
  let first := rebuildMarketDataProjection wholeNumberHost true stored clearingRebuild readings
  let second := rebuildMarketDataProjection wholeNumberHost true first.1 incrementalRebuild readings
  (first.2.toOption.isSome && second.2.toOption.isSome, marketAttempts first.1 "tick-1",
    marketAttempts second.1 "tick-1")

theorem rebuiltTwice_eq : rebuiltTwice = (true, 1, 2) := by
  decide +kernel

end SuseokTrader
