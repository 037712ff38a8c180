import SuseokTrader.Gateway.LifecycleLaws
import SuseokTrader.Gateway.StoreRuns

/-!
# Runs of the store and the fate of one command

Three laws that the store is meant to keep along every run: an order is not
sent again once it may be at the broker, a settled order stays settled, and a
completed command of another kind is final. Each is false of some run, through
an event that the store takes at its word; for each, the runs that keep the law
are exactly those without such an event.
-/

namespace SuseokTrader

open GatewayCommandStatus

/-! ## What the rows say -/

variable (db : Database)

variable (commandId : String)

def IsOrder : Prop :=
  ∃ row ∈ db.commands.find? commandId, isOrderCommandType row.commandType = true

/-- The stored command is of another kind. -/
def IsOther : Prop :=
  ∃ row ∈ db.commands.find? commandId, isOrderCommandType row.commandType = false

def HasStatus (status : GatewayCommandStatus) : Prop :=
  ∃ row ∈ db.commands.find? commandId, row.status = status.value

def BoundaryInState (state : OrderBrokerBoundaryState) :
    Prop :=
  ∃ row ∈ db.boundaries.find? commandId, row.state = state.value

/-- The boundary of an order has a pre-ack, or is in a state that only follows one. -/
def MayBeAtBroker : Prop :=
  IsOrder db commandId ∧ ∃ row ∈ db.boundaries.find? commandId,
    row.preAckRecordedAt.isSome = true ∨
      row.state ∈ ["PRE_ACK_RECORDED", "UNCONFIRMED", "BROKER_ACCEPTED", "CHEJAN_CONFIRMED"]

instance (db : Database) (commandId : String) : Decidable (IsOrder db commandId) :=
  inferInstanceAs (Decidable (∃ _ ∈ _, _))

instance (db : Database) (commandId : String) : Decidable (IsOther db commandId) :=
  inferInstanceAs (Decidable (∃ _ ∈ _, _))

instance (db : Database) (commandId : String) (status : GatewayCommandStatus) :
    Decidable (HasStatus db commandId status) :=
  inferInstanceAs (Decidable (∃ _ ∈ _, _))

instance (db : Database) (commandId : String) : Decidable (MayBeAtBroker db commandId) :=
  inferInstanceAs (Decidable (_ ∧ ∃ _ ∈ _, _))

variable {host : Host} {db : Database} {commandId : String} {life : Lifecycle}

namespace Shows

theorem isOrder_iff (shows : Shows db commandId life) :
    IsOrder db commandId ↔ life.order = true := by
  rcases shows.command with ⟨row, found, showsRow⟩
  simp [IsOrder, found, showsRow.order]

theorem isOther_iff (shows : Shows db commandId life) :
    IsOther db commandId ↔ life.order = false := by
  rcases shows.command with ⟨row, found, showsRow⟩
  simp [IsOther, found, showsRow.order]

theorem hasStatus_iff (shows : Shows db commandId life) (status : GatewayCommandStatus) :
    HasStatus db commandId status ↔ life.status = status := by
  rcases shows.command with ⟨row, found, showsRow⟩
  simp [HasStatus, found, showsRow.status_iff]

theorem boundaryInState_iff (shows : Shows db commandId life)
    (state : OrderBrokerBoundaryState) :
    BoundaryInState db commandId state ↔
      ∃ boundary, life.boundary = some boundary ∧ boundary.state = state := by
  cases found : db.boundaries.find? commandId with
  | none =>
      have absent := shows.boundary.none_iff.mp found
      simp [BoundaryInState, found, absent]
  | some row =>
      have showsRow := shows.boundary
      rw [found] at showsRow
      rcases showsRow.of_some with ⟨boundary, present, sameState, _⟩
      simp [BoundaryInState, found, present, sameState]

theorem mayBeAtBroker_iff (shows : Shows db commandId life) :
    MayBeAtBroker db commandId ↔ life.order = true ∧ life.Reached := by
  rw [MayBeAtBroker, shows.isOrder_iff]
  cases found : db.boundaries.find? commandId with
  | none =>
      have absent := shows.boundary.none_iff.mp found
      simp [Lifecycle.Reached, absent]
  | some row =>
      have showsRow := shows.boundary
      rw [found] at showsRow
      rcases showsRow.of_some with ⟨boundary, present, sameState, sameAck⟩
      have high : ∀ state : OrderBrokerBoundaryState,
          state.value ∈ ["PRE_ACK_RECORDED", "UNCONFIRMED", "BROKER_ACCEPTED",
            "CHEJAN_CONFIRMED"] ↔ .preAckRecorded ≤ state := by
        intro state
        cases state <;> decide
      simp only [Option.mem_some_iff, exists_eq_left', sameState, sameAck, high,
        Lifecycle.Reached, present, Option.some.injEq, BoundaryView.Reached]

end Shows

variable {row : CommandRow} {eventType : String} {payload : Payload}
  {eventId occurredAt : Option String} {now : Instant}

theorem Tracks.exists_of_mem {property : Lifecycle → Prop} (tracks : Tracks property commandId db)
    (found : row ∈ db.commands.find? commandId) :
    ∃ life, Shows db commandId life ∧ property life := by
  rcases tracks with absent | shown
  · rw [absent.command] at found
    cases found
  · exact shown

/-! ## Orders are not sent again -/

/-- After the step the command is not queued, and the step did not dispatch it. -/
def NotSentAgain (host : Host) (commandId : String) (db : Database) (op : StoreOp) : Prop :=
  ¬ HasStatus ((store host).next db op) commandId queued ∧ commandId ∉ dispatchedIds host db op

/-- A rate limit with a readable wait arrives for an order that may be at the broker, while its
status does not say so. -/
def RequeuesSentOrder (host : Host) (commandId : String) (db : Database) (op : StoreOp) : Prop :=
  MayBeAtBroker db commandId ∧
    (∀ status, Lifecycle.KeepsOnRateLimit status → ¬ HasStatus db commandId status) ∧
    ∃ eventType payload eventId occurredAt now,
      op = .event commandId eventType payload eventId occurredAt now ∧
      isRateLimited eventType = true ∧ (extractWaitTime host payload).isOk = true

theorem eventBoundary_rateLimited (limited : isRateLimited eventType = true)
    (command : Option CommandRow) :
    ∃ bounded, eventBoundary host db command eventType payload eventId occurredAt now =
      .ok (none, bounded) := by
  have kind := (isRateLimited_iff host eventType payload).mp limited
  have orders : statusForCommandEvent eventType true = none := by
    rw [statusForCommandEvent_order host eventType payload, kind]
    rfl
  have others : statusForCommandEvent eventType false = none := by
    rw [statusForCommandEvent_other host eventType payload, kind]
    rfl
  cases command with
  | none => exact ⟨db, by rw [eventBoundary_none, others]⟩
  | some row =>
      by_cases order : isOrderCommandType row.commandType = true
      · have noProposal : stateForEvent host eventType payload = none := by
          rw [stateForEvent_eq, kind]
          rfl
        simp only [eventBoundary, if_pos order, recordOrderBrokerEvent, noProposal, orders]
        exact ⟨_, rfl⟩
      · rw [eventBoundary_other (Bool.not_eq_true _ ▸ order), others]
        exact ⟨db, rfl⟩

theorem succeeds_rateLimited (limited : isRateLimited eventType = true)
    (found : db.commands.find? commandId = some row)
    (requeues : ¬ (isOrderCommandType row.commandType = true ∧
      keepsOnRateLimit row.status = true)) :
    succeeds host db (.event commandId eventType payload eventId occurredAt now) =
      (extractWaitTime host payload).isOk := by
  have isBounded : ∃ bounded, eventBoundary host db (some row) eventType payload eventId
      occurredAt now = .ok (none, bounded) := eventBoundary_rateLimited limited (some row)
  rcases isBounded with ⟨bounded, bounds⟩
  simp only [succeeds, recordCommandEvent, found, bounds, limited, Option.map_some,
    Option.getD_some, Option.any_some, if_neg requeues]
  cases extractWaitTime host payload <;> rfl

theorem Shows.requeuesSentOrder_iff (shows : Shows db commandId life) (op : StoreOp) :
    RequeuesSentOrder host commandId db op ↔ life.TakesBack (moveOf host db op commandId) := by
  rcases shows.command with ⟨row, found, showsRow⟩
  have keeps : (∀ status, Lifecycle.KeepsOnRateLimit status → ¬ HasStatus db commandId status) ↔
      ¬ Lifecycle.KeepsOnRateLimit life.status := by
    constructor
    · intro noStatus keepsStatus
      exact noStatus life.status keepsStatus ((shows.hasStatus_iff _).mpr rfl)
    · intro requeues status keepsStatus isStatus
      rw [shows.hasStatus_iff] at isStatus
      exact requeues (isStatus ▸ keepsStatus)
  have readable : ∀ {eventType payload eventId occurredAt now},
      ¬ Lifecycle.KeepsOnRateLimit life.status → isRateLimited eventType = true →
      succeeds host db (.event commandId eventType payload eventId occurredAt now) =
        (extractWaitTime host payload).isOk := by
    intro eventType payload eventId occurredAt now requeues limited
    apply succeeds_rateLimited limited found
    rintro ⟨_, keepsRow⟩
    rw [showsRow.status, keepsOnRateLimit_value] at keepsRow
    exact requeues keepsRow
  rw [RequeuesSentOrder, shows.mayBeAtBroker_iff, keeps]
  constructor
  · rintro ⟨⟨order, reached⟩, requeues, eventType, payload, eventId, occurredAt, now, rfl,
      limited, wait⟩
    refine ⟨?_, order, reached, requeues⟩
    rw [moveOf_event shows ((readable requeues limited).trans wait),
      (isRateLimited_iff host eventType payload).mp limited]
  · rintro ⟨moves, order, reached, requeues⟩
    rcases event_of_moveOf moves with
      ⟨eventType, payload, eventId, occurredAt, now, rfl, success, kind⟩
    have limited := (isRateLimited_iff host eventType payload).mpr kind
    exact ⟨⟨order, reached⟩, requeues, eventType, payload, eventId, occurredAt, now, rfl, limited,
      (readable requeues limited).symm.trans success⟩

theorem tracks_outOfQueue {op : StoreOp} (tracks : Tracks Lifecycle.OutOfQueue commandId db)
    (keeps : ¬ RequeuesSentOrder host commandId db op) :
    Tracks Lifecycle.OutOfQueue commandId ((store host).next db op) := by
  apply tracks.next Lifecycle.outOfQueue_fresh
  intro life shows out
  exact out.after fun takesBack => keeps ((shows.requeuesSentOrder_iff op).mpr takesBack)

/-- The runs that send no order again are those in which no rate limit arrives for an order that
may be at the broker and has no status that says so. -/
theorem order_not_sent_again_iff (host : Host) (catalog : Catalog)
    (appMetadata : List (String × String)) (ops : List StoreOp) (commandId : String) :
    (store host).Once (fun db => MayBeAtBroker db commandId) (NotSentAgain host commandId)
        (Database.empty catalog appMetadata) ops ↔
      (store host).Along (fun db op => ¬ RequeuesSentOrder host commandId db op)
        (Database.empty catalog appMetadata) ops := by
  constructor
  · intro once
    refine System.Along.imp (Tracks (fun _ => True) commandId) ?_ ?_ (tracks_empty _ _ _ _)
      once.along
    · intro db op tracks _
      exact tracks.next (fun _ => trivial) fun _ _ _ => trivial
    · rintro db op tracks notSentAgain requeues
      rcases requeues.1.1 with ⟨row, found, _⟩
      rcases tracks.exists_of_mem found with ⟨life, shows, _⟩
      rcases (shows.requeuesSentOrder_iff op).mp requeues with ⟨moves, order, reached, notKept⟩
      apply (notSentAgain requeues.1).1
      rw [(shows_next shows op).hasStatus_iff, moves]
      simp only [Lifecycle.after, order, if_true, Lifecycle.orderEvent_rateLimited,
        if_neg notKept]
  · apply System.Once.of_along (Tracks Lifecycle.OutOfQueue commandId)
      (fun db => MayBeAtBroker db commandId) ?_ ?_ ?_ ?_ (tracks_empty _ _ _ _)
    · intro db op tracks keeps
      exact tracks_outOfQueue tracks keeps
    · exact fun _ _ reached => reached
    · intro db op tracks _ reached
      rcases reached.1 with ⟨row, found, _⟩
      rcases tracks.exists_of_mem found with ⟨life, shows, _⟩
      rcases shows.mayBeAtBroker_iff.mp reached with ⟨order, isReached⟩
      rw [(shows_next shows op).mayBeAtBroker_iff]
      exact ⟨(Lifecycle.order_after life _).trans order, isReached.after _⟩
    · intro db op tracks keeps reached
      rcases reached.1 with ⟨row, found, _⟩
      rcases tracks.exists_of_mem found with ⟨life, shows, out⟩
      rcases shows.mayBeAtBroker_iff.mp reached with ⟨order, isReached⟩
      have outAfter := (tracks_outOfQueue tracks keeps).of_shows (shows_next shows op)
      constructor
      · rw [(shows_next shows op).hasStatus_iff]
        exact outAfter ((Lifecycle.order_after life _).trans order) (isReached.after _)
      · intro returned
        exact out order isReached (moveOf_of_dispatched shows returned).2

/-! ### A run that sends an order twice -/

/-- A host whose files and numbers play no part. -/
def sampleHost : Host where
  floatRepr := id
  float := fun _ => none
  floatOfInt := fun value => some (.finite value)
  reprText := id
  database := none

/-- The tables, columns and indexes of a migrated database file. -/
def migratedCatalog : Catalog where
  tables := resolutionSourceTableColumns
  indexes := rawRequiredIndexes
  resolutionSchema := ⟨true, true, true, true, true⟩
  fenceEventSchema := ⟨true, true, true, true, true⟩

def migratedMetadata : List (String × String) :=
  [("schema_version", "63"), ("app_name", "suseok-trader-v2")]

def freshStore : Database :=
  Database.empty migratedCatalog migratedMetadata

/-- A cancel order as the simulated trading engine sends it. -/
def sampleCancel : GatewayCommand where
  commandId := "cancel-1"
  commandType := "cancel_order"
  source := "live_sim"
  ts := 63900000000000000
  payload := [("mode", .str "LIVE_SIM"), ("idempotency_key", .str "key-1"),
    ("live_sim_only", .bool true), ("live_real_allowed", .bool false),
    ("broker_order_path", .str "LIVE_SIM_ONLY"), ("account_mode", .str "SIMULATION"),
    ("broker_env", .str "SIMULATION"), ("server_mode", .str "SIMULATION"),
    ("side", .str "BUY_CANCEL"), ("original_order_no", .str "1001"),
    ("metadata", .obj [("idempotency_key", .str "key-1"), ("live_sim_only", .bool true),
      ("live_real_allowed", .bool false), ("cancel_intent_id", .str "intent-1"),
      ("original_live_sim_order_id", .str "order-1")])]
  idempotencyKey := some "key-1"
  commandId_stripped := by decide +kernel
  commandType_stripped := by decide +kernel
  source_stripped := stripped_liveSim
  idempotencyKey_stripped := strippedOption_firstKey

def dispatchAt (now : Instant) : StoreOp :=
  .dispatch 1 ⟨now, now, now, now⟩

def eventAt (commandId eventType : String) (now : Instant) : StoreOp :=
  .event commandId eventType [] none none now

/-- A failure after the pre-ack hides from the rate limit that the order may be at the broker. -/
def resendingRun : List StoreOp :=
  [.enqueue sampleCancel none 63900000000000000,
    dispatchAt 63900000000000000,
    eventAt "cancel-1" "order_pre_ack" 63900000001000000,
    eventAt "cancel-1" "command_failed" 63900000002000000,
    eventAt "cancel-1" "rate_limited" 63900000003000000,
    dispatchAt 63900000010000000]

theorem order_sent_again :
    ¬ (store sampleHost).Once (fun db => MayBeAtBroker db "cancel-1")
      (NotSentAgain sampleHost "cancel-1") freshStore resendingRun := by
  intro once
  have reached : MayBeAtBroker ((store sampleHost).run freshStore (resendingRun.take 5))
      "cancel-1" := by decide +kernel
  have along := once (resendingRun.take 5) (resendingRun.drop 5) rfl reached
  exact along.1.2 (by decide +kernel)

/-! ## Settled orders stay settled -/

theorem eventKind_failed_iff (host : Host) (eventType : String) (payload : Payload) :
    Text.lower (Text.strip eventType) = "command_failed" ↔
      eventKind host eventType payload = .failed := by
  rcases eventKind_cases host eventType payload with
    ⟨type, kind⟩ | ⟨type, kind⟩ | ⟨type, kind⟩ | ⟨type, kind⟩ | ⟨type, kind⟩ | ⟨type, kind⟩ |
    ⟨type, kind⟩ | ⟨type, kind⟩ | ⟨type, kind⟩
  all_goals try simp only [List.mem_cons, not_or] at type
  all_goals simp [type, kind]

theorem stateForEvent_gatewayStarted_iff (host : Host) (eventType : String)
    (payload : Payload) :
    stateForEvent host eventType payload = some .gatewayStarted ↔
      eventKind host eventType payload = .started := by
  rw [stateForEvent_eq]
  cases eventKind host eventType payload with
  | preAck accepted => cases accepted <;> simp [EventKind.proposal]
  | _ => simp [EventKind.proposal]

theorem stateForEvent_preAckRecorded_iff (host : Host) (eventType : String)
    (payload : Payload) :
    stateForEvent host eventType payload = some .preAckRecorded ↔
      eventKind host eventType payload = .preAck false := by
  rw [stateForEvent_eq]
  cases eventKind host eventType payload with
  | preAck accepted => cases accepted <;> simp [EventKind.proposal]
  | _ => simp [EventKind.proposal]

/-- The order came to an end without the broker. -/
def IsSettledOrder (db : Database) (commandId : String) : Prop :=
  IsOrder db commandId ∧ ∃ status, Lifecycle.Settled status ∧ HasStatus db commandId status

def IsBrokerEvidence (host : Host) (commandId : String) (op : StoreOp) : Prop :=
  ∃ eventType payload eventId occurredAt now,
    op = .event commandId eventType payload eventId occurredAt now ∧
    (stateForEvent host eventType payload = some .brokerAccepted ∨
      stateForEvent host eventType payload = some .chejanConfirmed)

/-- The step gives the order no pre-broker status; a settled status it replaces only by the
broker's word, or by UNCONFIRMED where the boundary is unconfirmed. -/
def KeepsSettled (host : Host) (commandId : String) (db : Database) (op : StoreOp) : Prop :=
  let after := (store host).next db op
  (∀ status, Lifecycle.PreBroker status → ¬ HasStatus after commandId status) ∧
    ∀ status, Lifecycle.Settled status → HasStatus db commandId status →
      HasStatus after commandId status ∨
      (IsBrokerEvidence host commandId op ∧
        (HasStatus after commandId brokerAccepted ∨
          HasStatus after commandId chejanConfirmed)) ∨
      (HasStatus after commandId unconfirmed ∧ BoundaryInState after commandId .unconfirmed)

/-- For a settled order the store records a rate limit, a stage below the broker while the
boundary is not unconfirmed, or a failure while the status is not FAILED. -/
def UnsettlesOrder (host : Host) (commandId : String) (db : Database) (op : StoreOp) : Prop :=
  IsSettledOrder db commandId ∧
    ∃ eventType payload eventId occurredAt now,
      op = .event commandId eventType payload eventId occurredAt now ∧
      succeeds host db op = true ∧
      (isRateLimited eventType = true ∨
        ((stateForEvent host eventType payload = some .gatewayStarted ∨
            stateForEvent host eventType payload = some .preAckRecorded) ∧
          ¬ BoundaryInState db commandId .unconfirmed) ∨
        (Text.lower (Text.strip eventType) = "command_failed" ∧
          ¬ HasStatus db commandId failed))

theorem Shows.isSettledOrder_iff (shows : Shows db commandId life) :
    IsSettledOrder db commandId ↔
      life.order = true ∧ Lifecycle.Settled life.status := by
  rw [IsSettledOrder, shows.isOrder_iff]
  constructor
  · rintro ⟨order, status, settled, isStatus⟩
    rw [shows.hasStatus_iff] at isStatus
    exact ⟨order, isStatus ▸ settled⟩
  · rintro ⟨order, settled⟩
    exact ⟨order, life.status, settled, (shows.hasStatus_iff _).mpr rfl⟩

theorem Shows.unsettlesOrder_iff (shows : Shows db commandId life) (op : StoreOp) :
    UnsettlesOrder host commandId db op ↔ life.Unsettles (moveOf host db op commandId) := by
  rw [UnsettlesOrder, shows.isSettledOrder_iff]
  constructor
  · rintro ⟨⟨order, settled⟩, eventType, payload, eventId, occurredAt, now, rfl, success, kinds⟩
    rw [isRateLimited_iff host eventType payload, stateForEvent_gatewayStarted_iff,
      stateForEvent_preAckRecorded_iff, eventKind_failed_iff host eventType payload,
      shows.boundaryInState_iff, shows.hasStatus_iff] at kinds
    refine ⟨order, settled, ?_⟩
    rw [moveOf_event shows success]
    simpa only [Move.event.injEq, Lifecycle.Unconfirmed] using kinds
  · rintro ⟨order, settled, kinds⟩
    refine ⟨⟨order, settled⟩, ?_⟩
    have isEvent : ∃ kind, moveOf host db op commandId = .event kind := by
      rcases kinds with moves | ⟨moves | moves, _⟩ | ⟨moves, _⟩
      all_goals exact ⟨_, moves⟩
    rcases isEvent with ⟨kind, moves⟩
    rcases event_of_moveOf moves with
      ⟨eventType, payload, eventId, occurredAt, now, rfl, success, isKind⟩
    refine ⟨eventType, payload, eventId, occurredAt, now, rfl, success, ?_⟩
    rw [isRateLimited_iff host eventType payload, stateForEvent_gatewayStarted_iff,
      stateForEvent_preAckRecorded_iff, eventKind_failed_iff host eventType payload,
      shows.boundaryInState_iff, shows.hasStatus_iff, isKind]
    rw [moves] at kinds
    simpa only [Move.event.injEq, Lifecycle.Unconfirmed] using kinds

/-- The conclusion on the step is the conclusion on its move. -/
theorem Shows.keepsSettled_iff (shows : Shows db commandId life) (op : StoreOp) :
    KeepsSettled host commandId db op ↔
      ¬ Lifecycle.PreBroker (life.after (moveOf host db op commandId)).status ∧
        (Lifecycle.Settled life.status →
          life.StaysSettled (moveOf host db op commandId)) := by
  have after : Shows ((store host).next db op) commandId
      (life.after (moveOf host db op commandId)) := shows_next shows op
  have evidence : IsBrokerEvidence host commandId op → succeeds host db op = true →
      ∃ kind, moveOf host db op commandId = .event kind ∧ kind.IsEvidence := by
    rintro ⟨eventType, payload, eventId, occurredAt, now, rfl, proposes⟩ success
    refine ⟨eventKind host eventType payload, moveOf_event shows success, ?_⟩
    rw [stateForEvent_eq] at proposes
    exact proposes
  simp only [KeepsSettled, after.hasStatus_iff, shows.hasStatus_iff, after.boundaryInState_iff]
  constructor
  · rintro ⟨past, stays⟩
    refine ⟨fun preBroker => past _ preBroker rfl, fun settled => ?_⟩
    rcases stays life.status settled rfl with same | ⟨isEvidence, named⟩ | unconfirms
    · exact Or.inl same
    · by_cases success : succeeds host db op = true
      · rcases evidence isEvidence success with ⟨kind, moves, isKind⟩
        exact Or.inr (Or.inl ⟨kind, moves, isKind, by simpa using named⟩)
      · left
        have stay : moveOf host db op commandId = .stay := by
          rcases shows.command with ⟨row, found, _⟩
          simp only [moveOf, found, rowMove, if_neg success]
        rw [stay, Lifecycle.after_stay]
    · exact Or.inr (Or.inr unconfirms)
  · rintro ⟨past, stays⟩
    refine ⟨fun status preBroker same => past (same ▸ preBroker), ?_⟩
    rintro status settled rfl
    rcases stays settled with same | ⟨kind, moves, isKind, named⟩ | unconfirms
    · exact Or.inl same
    · rcases event_of_moveOf moves with
        ⟨eventType, payload, eventId, occurredAt, now, rfl, _, kindIs⟩
      refine Or.inr (Or.inl ⟨⟨eventType, payload, eventId, occurredAt, now, rfl, ?_⟩, ?_⟩)
      · rw [stateForEvent_eq, kindIs]
        exact isKind
      · simpa using named
    · exact Or.inr (Or.inr unconfirms)

theorem tracks_coherent (tracks : Tracks Lifecycle.Coherent commandId db) (op : StoreOp) :
    Tracks Lifecycle.Coherent commandId ((store host).next db op) :=
  tracks.next Lifecycle.coherent_fresh fun _ _ coherent => coherent.after _

/-- The runs in which a settled order stays settled are those in which no event unsettles it. -/
theorem settled_order_stays_settled_iff (host : Host) (catalog : Catalog)
    (appMetadata : List (String × String)) (ops : List StoreOp) (commandId : String) :
    (store host).Once (fun db => IsSettledOrder db commandId) (KeepsSettled host commandId)
        (Database.empty catalog appMetadata) ops ↔
      (store host).Along (fun db op => ¬ UnsettlesOrder host commandId db op)
        (Database.empty catalog appMetadata) ops := by
  constructor
  · intro once
    refine System.Along.imp (Tracks Lifecycle.Coherent commandId) ?_ ?_ (tracks_empty _ _ _ _)
      once.along
    · exact fun db op tracks _ => tracks_coherent tracks op
    · rintro db op tracks keeps unsettles
      rcases unsettles.1.1 with ⟨row, found, _⟩
      rcases tracks.exists_of_mem found with ⟨life, shows, coherent⟩
      have moves := (shows.unsettlesOrder_iff op).mp unsettles
      rcases (shows.keepsSettled_iff op).mp (keeps unsettles.1) with ⟨past, stays⟩
      rcases moves.breaks coherent with preBroker | moved
      · exact past preBroker
      · exact moved (stays moves.2.1)
  · apply System.Once.of_along (Tracks Lifecycle.Coherent commandId)
      (fun db => ∃ life, Shows db commandId life ∧ life.order = true ∧
        ¬ Lifecycle.PreBroker life.status) ?_ ?_ ?_ ?_ (tracks_empty _ _ _ _)
    · exact fun db op tracks _ => tracks_coherent tracks op
    · intro db tracks settledOrder
      rcases settledOrder.1 with ⟨row, found, _⟩
      rcases tracks.exists_of_mem found with ⟨life, shows, _⟩
      rcases shows.isSettledOrder_iff.mp settledOrder with ⟨order, settled⟩
      refine ⟨life, shows, order, ?_⟩
      revert settled
      cases life.status <;> decide
    · rintro db op tracks keeps ⟨life, shows, order, past⟩
      refine ⟨_, shows_next shows op, (Lifecycle.order_after life _).trans order, ?_⟩
      apply Lifecycle.not_preBroker_after (tracks.of_shows shows) order past
      exact fun unsettles => keeps ((shows.unsettlesOrder_iff op).mpr unsettles)
    · rintro db op tracks keeps ⟨life, shows, order, past⟩
      have noUnsettling : ¬ life.Unsettles (moveOf host db op commandId) :=
        fun unsettles => keeps ((shows.unsettlesOrder_iff op).mpr unsettles)
      rw [shows.keepsSettled_iff]
      exact ⟨Lifecycle.not_preBroker_after (tracks.of_shows shows) order past noUnsettling,
        fun settled => Lifecycle.staysSettled order settled noUnsettling⟩

/-- A failed order whose start is reported late. -/
def unsettlingRun : List StoreOp :=
  [.enqueue sampleCancel none 63900000000000000,
    dispatchAt 63900000000000000,
    eventAt "cancel-1" "command_failed" 63900000001000000,
    eventAt "cancel-1" "command_started" 63900000002000000]

theorem settled_order_restarted :
    ¬ (store sampleHost).Once (fun db => IsSettledOrder db "cancel-1")
      (KeepsSettled sampleHost "cancel-1") freshStore unsettlingRun := by
  intro once
  have failedOrder : IsOrder ((store sampleHost).run freshStore (unsettlingRun.take 3))
      "cancel-1" ∧ HasStatus ((store sampleHost).run freshStore (unsettlingRun.take 3))
      "cancel-1" failed := by decide +kernel
  have restarted : HasStatus ((store sampleHost).run freshStore unsettlingRun) "cancel-1"
      gatewayStarted := by decide +kernel
  have along := once (unsettlingRun.take 3) (unsettlingRun.drop 3) rfl
    ⟨failedOrder.1, failed, by decide, failedOrder.2⟩
  exact along.1.1 gatewayStarted (by decide) restarted

/-! ## Completed commands are final -/

/-- After the step the status is the same, and the step did not dispatch the command. -/
def StaysCompleted (host : Host) (commandId : String) (status : GatewayCommandStatus)
    (db : Database) (op : StoreOp) : Prop :=
  HasStatus ((store host).next db op) commandId status ∧ commandId ∉ dispatchedIds host db op

/-- The status of a completed command that a late event replaces. -/
def ReopensCommand (host : Host) (commandId : String) (db : Database) (op : StoreOp) : Prop :=
  IsOther db commandId ∧
    ∃ status eventType payload eventId occurredAt now,
      Lifecycle.Completed status ∧ HasStatus db commandId status ∧
      op = .event commandId eventType payload eventId occurredAt now ∧
      ((isRateLimited eventType = true ∧ (extractWaitTime host payload).isOk = true) ∨
        Text.lower (Text.strip eventType) = "command_started" ∨
        ((Text.lower (Text.strip eventType) = "command_ack" ∨
            Text.lower (Text.strip eventType) = "execution_event") ∧ status ≠ acked) ∨
        (Text.lower (Text.strip eventType) = "command_failed" ∧ status ≠ failed))

theorem succeeds_other (found : db.commands.find? commandId = some row)
    (other : isOrderCommandType row.commandType = false)
    (unlimited : isRateLimited eventType = false) :
    succeeds host db (.event commandId eventType payload eventId occurredAt now) = true := by
  have bounds : eventBoundary host db (some row) eventType payload eventId occurredAt now =
      .ok (statusForCommandEvent eventType false, db) := eventBoundary_other other
  simp only [succeeds, recordCommandEvent, found, bounds, unlimited]
  cases statusForCommandEvent eventType false <;> rfl

theorem eventKind_started_iff (host : Host) (eventType : String) (payload : Payload) :
    Text.lower (Text.strip eventType) = "command_started" ↔
      eventKind host eventType payload = .started := by
  rcases eventKind_cases host eventType payload with
    ⟨type, kind⟩ | ⟨type, kind⟩ | ⟨type, kind⟩ | ⟨type, kind⟩ | ⟨type, kind⟩ | ⟨type, kind⟩ |
    ⟨type, kind⟩ | ⟨type, kind⟩ | ⟨type, kind⟩
  all_goals try simp only [List.mem_cons, not_or] at type
  all_goals simp [type, kind]

theorem eventKind_answer_iff (host : Host) (eventType : String) (payload : Payload) :
    (Text.lower (Text.strip eventType) = "command_ack" ∨
        Text.lower (Text.strip eventType) = "execution_event") ↔
      eventKind host eventType payload = .ack ∨
        eventKind host eventType payload = .execution := by
  rcases eventKind_cases host eventType payload with
    ⟨type, kind⟩ | ⟨type, kind⟩ | ⟨type, kind⟩ | ⟨type, kind⟩ | ⟨type, kind⟩ | ⟨type, kind⟩ |
    ⟨type, kind⟩ | ⟨type, kind⟩ | ⟨type, kind⟩
  all_goals try simp only [List.mem_cons, not_or] at type
  all_goals simp [type, kind]

/-- The condition on the step is the condition on its move. -/
theorem Shows.reopensCommand_iff (shows : Shows db commandId life) (op : StoreOp) :
    ReopensCommand host commandId db op ↔ life.Reopens (moveOf host db op commandId) := by
  rcases shows.command with ⟨row, found, showsRow⟩
  have kinds : ∀ {eventType : String} {payload : Payload},
      (isRateLimited eventType = true ∨
        Text.lower (Text.strip eventType) = "command_started" ∨
        ((Text.lower (Text.strip eventType) = "command_ack" ∨
            Text.lower (Text.strip eventType) = "execution_event") ∧ life.status ≠ acked) ∨
        (Text.lower (Text.strip eventType) = "command_failed" ∧ life.status ≠ failed)) ↔
      (Move.event (eventKind host eventType payload) = .event .rateLimited ∨
        Move.event (eventKind host eventType payload) = .event .started ∨
        ((Move.event (eventKind host eventType payload) = .event .ack ∨
            Move.event (eventKind host eventType payload) = .event .execution) ∧
          life.status ≠ acked) ∨
        (Move.event (eventKind host eventType payload) = .event .failed ∧
          life.status ≠ failed)) := by
    intro eventType payload
    rw [isRateLimited_iff host eventType payload, eventKind_started_iff host eventType payload,
      eventKind_answer_iff host eventType payload, eventKind_failed_iff host eventType payload]
    simp only [Move.event.injEq]
  rw [ReopensCommand, shows.isOther_iff]
  constructor
  · rintro ⟨other, status, eventType, payload, eventId, occurredAt, now, completed, isStatus,
      rfl, late⟩
    rw [shows.hasStatus_iff] at isStatus
    subst isStatus
    have isOther := showsRow.order.trans other
    have success : succeeds host db
        (.event commandId eventType payload eventId occurredAt now) = true := by
      cases limited : isRateLimited eventType with
      | true =>
          rcases late with ⟨_, wait⟩ | late
          · rw [succeeds_rateLimited limited found (by simp [isOther]), wait]
          · -- no other event type is a rate limit
            exfalso
            have isKind := (isRateLimited_iff host eventType payload).mp limited
            rw [eventKind_started_iff host eventType payload,
              eventKind_answer_iff host eventType payload,
              eventKind_failed_iff host eventType payload, isKind] at late
            simp at late
      | false => exact succeeds_other found isOther limited
    refine ⟨other, completed, ?_⟩
    rw [moveOf_event shows success, ← kinds]
    rcases late with ⟨limited, _⟩ | late
    · exact Or.inl limited
    · exact Or.inr late
  · rintro ⟨other, completed, late⟩
    have isOther := showsRow.order.trans other
    have isEvent : ∃ kind, moveOf host db op commandId = .event kind := by
      rcases late with moves | moves | ⟨moves | moves, _⟩ | ⟨moves, _⟩
      all_goals exact ⟨_, moves⟩
    rcases isEvent with ⟨kind, moves⟩
    rcases event_of_moveOf moves with
      ⟨eventType, payload, eventId, occurredAt, now, rfl, success, isKind⟩
    rw [moves, ← isKind, ← kinds] at late
    refine ⟨other, life.status, eventType, payload, eventId, occurredAt, now, completed,
      (shows.hasStatus_iff _).mpr rfl, rfl, ?_⟩
    rcases late with limited | late
    · refine Or.inl ⟨limited, ?_⟩
      rw [← success]
      exact (succeeds_rateLimited limited found (by simp [isOther])).symm
    · exact Or.inr late

/-- The runs in which completed commands are final are those in which no late event reopens one:
a rate limit or a start, an answer to a command that is not ACKED, a failure of one not FAILED. -/
theorem completed_command_is_final_iff (host : Host) (catalog : Catalog)
    (appMetadata : List (String × String)) (ops : List StoreOp) (commandId : String) :
    (∀ status, Lifecycle.Completed status →
      (store host).Once (fun db => IsOther db commandId ∧ HasStatus db commandId status)
        (StaysCompleted host commandId status) (Database.empty catalog appMetadata) ops) ↔
      (store host).Along (fun db op => ¬ ReopensCommand host commandId db op)
        (Database.empty catalog appMetadata) ops := by
  have anything : ∀ db op, Tracks (fun _ => True) commandId db →
      Tracks (fun _ => True) commandId ((store host).next db op) :=
    fun db op tracks => tracks.next (fun _ => trivial) fun _ _ _ => trivial
  constructor
  · intro once
    have along : (store host).Along
        (fun db op => ∀ status, Lifecycle.Completed status → IsOther db commandId →
          HasStatus db commandId status → HasStatus ((store host).next db op) commandId status)
        (Database.empty catalog appMetadata) ops := by
      rw [System.along_forall]
      intro status
      rw [System.along_forall]
      intro completed
      exact (once status completed).along.mono fun db op stays other isStatus =>
        (stays ⟨other, isStatus⟩).1
    refine System.Along.imp (Tracks (fun _ => True) commandId) ?_ ?_ (tracks_empty _ _ _ _) along
    · exact fun db op tracks _ => anything db op tracks
    · rintro db op tracks stays reopens
      rcases reopens.1 with ⟨row, found, _⟩
      rcases tracks.exists_of_mem found with ⟨life, shows, _⟩
      have moves := (shows.reopensCommand_iff op).mp reopens
      have same := stays life.status moves.2.1 (shows.isOther_iff.mpr moves.1)
        ((shows.hasStatus_iff _).mpr rfl)
      rw [(shows_next shows op).hasStatus_iff,
        Lifecycle.status_after_iff moves.1 moves.2.1] at same
      exact same moves
  · intro along status completed
    apply System.Once.of_along (Tracks (fun _ => True) commandId)
      (fun db => ∃ life, Shows db commandId life ∧ life.order = false ∧ life.status = status)
      ?_ ?_ ?_ ?_ (tracks_empty _ _ _ _) along
    · exact fun db op tracks _ => anything db op tracks
    · rintro db tracks ⟨other, isStatus⟩
      rcases other with ⟨row, found, isOther⟩
      rcases tracks.exists_of_mem found with ⟨life, shows, _⟩
      exact ⟨life, shows, shows.isOther_iff.mp ⟨row, found, isOther⟩,
        (shows.hasStatus_iff status).mp isStatus⟩
    · rintro db op tracks keeps ⟨life, shows, other, rfl⟩
      refine ⟨_, shows_next shows op, (Lifecycle.order_after life _).trans other, ?_⟩
      rw [Lifecycle.status_after_iff other completed]
      exact fun reopens => keeps ((shows.reopensCommand_iff op).mpr reopens)
    · rintro db op tracks keeps ⟨life, shows, other, rfl⟩
      constructor
      · rw [(shows_next shows op).hasStatus_iff, Lifecycle.status_after_iff other completed]
        exact fun reopens => keeps ((shows.reopensCommand_iff op).mpr reopens)
      · intro returned
        have isQueued := (moveOf_of_dispatched shows returned).2
        rw [isQueued] at completed
        exact absurd completed (by decide)

/-- A command that asks the gateway for prices. -/
def sampleSubscribe : GatewayCommand where
  commandId := "subscribe-1"
  commandType := "register_realtime"
  source := "core"
  ts := 63900000000000000
  payload := []
  idempotencyKey := none
  commandId_stripped := by decide +kernel
  commandType_stripped := by decide +kernel
  source_stripped := stripped_core
  idempotencyKey_stripped := strippedOption_none

/-- An acknowledged command whose start is reported late. -/
def reopeningRun : List StoreOp :=
  [.enqueue sampleSubscribe none 63900000000000000,
    dispatchAt 63900000000000000,
    eventAt "subscribe-1" "command_ack" 63900000001000000,
    eventAt "subscribe-1" "command_started" 63900000002000000]

theorem completed_command_reopened :
    ¬ ∀ status, Lifecycle.Completed status →
      (store sampleHost).Once
        (fun db => IsOther db "subscribe-1" ∧ HasStatus db "subscribe-1" status)
        (StaysCompleted sampleHost "subscribe-1" status) freshStore reopeningRun := by
  intro once
  have completed : IsOther ((store sampleHost).run freshStore (reopeningRun.take 3))
      "subscribe-1" ∧ HasStatus ((store sampleHost).run freshStore (reopeningRun.take 3))
      "subscribe-1" acked := by decide +kernel
  have reopened : ¬ HasStatus ((store sampleHost).run freshStore reopeningRun) "subscribe-1"
      acked := by decide +kernel
  have along := once acked (by decide) (reopeningRun.take 3) (reopeningRun.drop 3) rfl completed
  exact reopened along.1.1

end SuseokTrader
