import SuseokTrader.Gateway.Dispatch
import SuseokTrader.Gateway.Lifecycle

/-!
# The store makes the moves of the lifecycle

The rows that the store keeps for one command form a slot. This file shows that
every operation takes every well-formed slot to a well-formed slot, by one of
the moves of `Lifecycle`, and says which operation makes which move.
-/

namespace SuseokTrader

open GatewayCommandStatus

/-! ## Events -/

variable (host : Host)

/-- What an event means, from its type and payload. -/
def eventKind (eventType : String) (payload : Payload) : EventKind :=
  let normalized := Text.lower (Text.strip eventType)
  if normalized = "command_started" then .started
  else if normalized = "order_pre_ack" then
    .preAck (Text.contains (Text.upper (Json.textOrEmpty host (payload.get "status")))
      "BROKER_ACCEPTED")
  else if normalized = "command_ack" then .ack
  else if normalized = "execution_event" then .execution
  else if normalized = "kiwoom_order_chejan" then .chejan
  else if normalized = "order_broker_unconfirmed" then .unconfirmed
  else if normalized = "command_failed" then .failed
  else if normalized = "rate_limited" then .rateLimited
  else .other

namespace EventKind

/-- The status an event proposes for an order command. -/
def orderStatus : EventKind → Option GatewayCommandStatus
  | started => some gatewayStarted
  | preAck _ => some preAckRecorded
  | ack => some brokerAccepted
  | execution => some chejanConfirmed
  | chejan => some chejanConfirmed
  | unconfirmed => some GatewayCommandStatus.unconfirmed
  | failed => some GatewayCommandStatus.failed
  | rateLimited => none
  | other => none

def otherStatus : EventKind → Option GatewayCommandStatus
  | started => some dispatched
  | ack => some acked
  | execution => some acked
  | failed => some GatewayCommandStatus.failed
  | _ => none

end EventKind

variable (eventType : String) (payload : Payload)

theorem eventKind_cases :
    (Text.lower (Text.strip eventType) = "command_started" ∧
        eventKind host eventType payload = .started) ∨
      (Text.lower (Text.strip eventType) = "order_pre_ack" ∧
        eventKind host eventType payload = .preAck
          (Text.contains (Text.upper (Json.textOrEmpty host (payload.get "status")))
            "BROKER_ACCEPTED")) ∨
      (Text.lower (Text.strip eventType) = "command_ack" ∧
        eventKind host eventType payload = .ack) ∨
      (Text.lower (Text.strip eventType) = "execution_event" ∧
        eventKind host eventType payload = .execution) ∨
      (Text.lower (Text.strip eventType) = "kiwoom_order_chejan" ∧
        eventKind host eventType payload = .chejan) ∨
      (Text.lower (Text.strip eventType) = "order_broker_unconfirmed" ∧
        eventKind host eventType payload = .unconfirmed) ∨
      (Text.lower (Text.strip eventType) = "command_failed" ∧
        eventKind host eventType payload = .failed) ∨
      (Text.lower (Text.strip eventType) = "rate_limited" ∧
        eventKind host eventType payload = .rateLimited) ∨
      (Text.lower (Text.strip eventType) ∉ ["command_started", "order_pre_ack", "command_ack",
          "execution_event", "kiwoom_order_chejan", "order_broker_unconfirmed",
          "command_failed", "rate_limited"] ∧
        eventKind host eventType payload = .other) := by
  simp only [eventKind]
  split_ifs <;> simp_all

theorem stateForEvent_eq :
    stateForEvent host eventType payload = (eventKind host eventType payload).proposal := by
  rcases eventKind_cases host eventType payload with
    ⟨type, kind⟩ | ⟨type, kind⟩ | ⟨type, kind⟩ | ⟨type, kind⟩ | ⟨type, kind⟩ | ⟨type, kind⟩ |
    ⟨type, kind⟩ | ⟨type, kind⟩ | ⟨type, kind⟩
  · simp [stateForEvent, type, kind, EventKind.proposal]
  · simp [stateForEvent, type, kind, EventKind.proposal, apply_ite some]
  · simp [stateForEvent, type, kind, EventKind.proposal]
  · simp [stateForEvent, type, kind, EventKind.proposal]
  · simp [stateForEvent, type, kind, EventKind.proposal]
  · simp [stateForEvent, type, kind, EventKind.proposal]
  · simp [stateForEvent, type, kind, EventKind.proposal]
  · simp [stateForEvent, type, kind, EventKind.proposal]
  · simp only [List.mem_cons, not_or] at type
    simp [stateForEvent, type, kind, EventKind.proposal]

theorem statusForCommandEvent_order :
    statusForCommandEvent eventType true = (eventKind host eventType payload).orderStatus := by
  rcases eventKind_cases host eventType payload with
    ⟨type, kind⟩ | ⟨type, kind⟩ | ⟨type, kind⟩ | ⟨type, kind⟩ | ⟨type, kind⟩ | ⟨type, kind⟩ |
    ⟨type, kind⟩ | ⟨type, kind⟩ | ⟨type, kind⟩
  all_goals try simp only [List.mem_cons, not_or] at type
  all_goals simp [statusForCommandEvent, type, kind, EventKind.orderStatus]

theorem statusForCommandEvent_other :
    statusForCommandEvent eventType false = (eventKind host eventType payload).otherStatus := by
  rcases eventKind_cases host eventType payload with
    ⟨type, kind⟩ | ⟨type, kind⟩ | ⟨type, kind⟩ | ⟨type, kind⟩ | ⟨type, kind⟩ | ⟨type, kind⟩ |
    ⟨type, kind⟩ | ⟨type, kind⟩ | ⟨type, kind⟩
  all_goals try simp only [List.mem_cons, not_or] at type
  all_goals simp [statusForCommandEvent, type, kind, EventKind.otherStatus]

theorem isRateLimited_iff :
    isRateLimited eventType = true ↔ eventKind host eventType payload = .rateLimited := by
  rcases eventKind_cases host eventType payload with
    ⟨type, kind⟩ | ⟨type, kind⟩ | ⟨type, kind⟩ | ⟨type, kind⟩ | ⟨type, kind⟩ | ⟨type, kind⟩ |
    ⟨type, kind⟩ | ⟨type, kind⟩ | ⟨type, kind⟩
  all_goals try simp only [List.mem_cons, not_or] at type
  all_goals simp [isRateLimited, type, kind]

theorem isPreAck_iff :
    decide (Text.lower (Text.strip eventType) = "order_pre_ack") =
      (eventKind host eventType payload).isPreAck := by
  rcases eventKind_cases host eventType payload with
    ⟨type, kind⟩ | ⟨type, kind⟩ | ⟨type, kind⟩ | ⟨type, kind⟩ | ⟨type, kind⟩ | ⟨type, kind⟩ |
    ⟨type, kind⟩ | ⟨type, kind⟩ | ⟨type, kind⟩
  all_goals try simp only [List.mem_cons, not_or] at type
  all_goals simp [type, kind, EventKind.isPreAck]

/-! ## Rows that show a lifecycle -/

def ShowsBoundary (row : Option BoundaryRow) (view : Option BoundaryView) : Prop :=
  row.map (fun row => (row.state, row.preAckRecordedAt.isSome)) =
    view.map fun view => (view.state.value, view.preAck)

structure ShowsCommand (row : CommandRow) (life : Lifecycle) : Prop where
  nonempty : row.commandId ≠ ""
  normalized : normalizeCommandType row.commandType = row.commandType
  order : isOrderCommandType row.commandType = life.order
  status : row.status = life.status.value
  wasDispatched : row.dispatchedAt.isSome = life.wasDispatched

structure Shows (db : Database) (commandId : String) (life : Lifecycle) : Prop where
  command : ∃ row, db.commands.find? commandId = some row ∧ ShowsCommand row life
  boundary : ShowsBoundary (db.boundaries.find? commandId) life.boundary

structure Absent (db : Database) (commandId : String) : Prop where
  command : db.commands.find? commandId = none
  boundary : db.boundaries.find? commandId = none

structure SameSlot (commandId : String) (before after : Database) : Prop where
  command : after.commands.find? commandId = before.commands.find? commandId
  boundary : after.boundaries.find? commandId = before.boundaries.find? commandId

theorem SameSlot.refl (commandId : String) (db : Database) : SameSlot commandId db db :=
  ⟨rfl, rfl⟩

variable {commandId eventType : String} {life : Lifecycle} {view : Option BoundaryView}
  {db written : Database} {host : Host} {payload : Payload} {eventId occurredAt : Option String}
  {now : Instant} {status : Option GatewayCommandStatus} {row : CommandRow}

theorem SameSlot.trans {first second third : Database} (here : SameSlot commandId first second)
    (later : SameSlot commandId second third) :
    SameSlot commandId first third :=
  ⟨later.command.trans here.command, later.boundary.trans here.boundary⟩

theorem SameSlot.shows {before after : Database} (same : SameSlot commandId before after)
    (shows : Shows before commandId life) :
    Shows after commandId life := by
  refine ⟨?_, ?_⟩
  · rw [same.command]
    exact shows.command
  · rw [same.boundary]
    exact shows.boundary

theorem SameSlot.absent {before after : Database} (same : SameSlot commandId before after)
    (absent : Absent before commandId) :
    Absent after commandId :=
  ⟨same.command.trans absent.command, same.boundary.trans absent.boundary⟩

theorem ShowsBoundary.none_iff {row : Option BoundaryRow} (shows : ShowsBoundary row view) :
    row = none ↔ view = none := by
  cases row <;> cases view <;> simp_all [ShowsBoundary]

theorem ShowsBoundary.of_some {row : BoundaryRow} (shows : ShowsBoundary (some row) view) :
    ∃ boundary, view = some boundary ∧ row.state = boundary.state.value ∧
      row.preAckRecordedAt.isSome = boundary.preAck := by
  cases view with
  | none => simp [ShowsBoundary] at shows
  | some boundary =>
      simp only [ShowsBoundary, Option.map_some, Option.some.injEq, Prod.mk.injEq] at shows
      exact ⟨boundary, rfl, shows⟩

theorem ShowsBoundary.state {row : Option BoundaryRow} (shows : ShowsBoundary row view) :
    row.map BoundaryRow.state = view.map fun view => view.state.value := by
  have states := congrArg (Option.map Prod.fst) shows
  rw [Option.map_map, Option.map_map] at states
  exact states

theorem ShowsBoundary.propose {row : Option BoundaryRow} (shows : ShowsBoundary row view)
    (host : Host) (command : CommandRow) (proposed : OrderBrokerBoundaryState) (payload : Payload)
    (eventId : Option String) (occurredAt : String) (preAck : Bool) :
    ShowsBoundary
      (some (proposedBoundary host command row proposed payload eventId occurredAt preAck))
      (some (BoundaryView.propose view proposed preAck)) := by
  cases row with
  | none =>
      have missing := shows.none_iff.mp rfl
      subst missing
      cases preAck <;> rfl
  | some row =>
      rcases shows.of_some with ⟨boundary, rfl, state, observed⟩
      simp only [ShowsBoundary, Option.map_some, Option.some.injEq, Prod.mk.injEq]
      constructor
      · rw [state_proposedBoundary, Option.map_some, state, resolveState_value]
        rfl
      · simp only [BoundaryView.propose, ← observed]
        cases preAck <;> cases recorded : row.preAckRecordedAt <;>
          simp [proposedBoundary, mergeBoundary, excludedBoundary, stateTimestamps, recorded]

theorem Shows.unique {left right : Lifecycle} (showsLeft : Shows db commandId left)
    (showsRight : Shows db commandId right) :
    left = right := by
  rcases showsLeft.command with ⟨row, found, leftRow⟩
  rcases showsRight.command with ⟨other, otherFound, rightRow⟩
  rw [found] at otherFound
  cases otherFound
  have boundary : left.boundary = right.boundary := by
    have same := showsLeft.boundary.symm.trans showsRight.boundary
    refine Option.map_injective ?_ same
    rintro ⟨leftState, leftPreAck⟩ ⟨rightState, rightPreAck⟩ equal
    simpa using equal
  have status : left.status = right.status :=
    GatewayCommandStatus.value_injective (leftRow.status.symm.trans rightRow.status)
  cases left
  cases right
  simp only [Lifecycle.mk.injEq]
  exact ⟨leftRow.order.symm.trans rightRow.order, status,
    leftRow.wasDispatched.symm.trans rightRow.wasDispatched, boundary⟩

theorem Shows.not_absent (shows : Shows db commandId life) : ¬ Absent db commandId := by
  intro absent
  rcases shows.command with ⟨row, found, _⟩
  rw [absent.command] at found
  cases found

/-! ## What an event does -/

theorem effectiveOrderCommandStatus_unconfirmed (status : GatewayCommandStatus) :
    effectiveOrderCommandStatus status.value unconfirmed =
      Lifecycle.statusAfterUnconfirmed status := by
  cases status <;> decide

theorem effectiveOrderCommandStatus_failed (status : GatewayCommandStatus) :
    effectiveOrderCommandStatus status.value failed = Lifecycle.statusAfterFailed status := by
  cases status <;> decide

theorem keepsOnRateLimit_value (status : GatewayCommandStatus) :
    keepsOnRateLimit status.value = true ↔ Lifecycle.KeepsOnRateLimit status := by
  cases status <;> decide

theorem recordOrderBrokerEvent_frame {command : CommandRow} {state : Option String}
    (success : recordOrderBrokerEvent host db command eventType payload eventId occurredAt now =
      some (state, written)) :
    written = { db with boundaries := written.boundaries } ∧
      ∀ commandId, commandId ≠ command.commandId →
        written.boundaries.find? commandId = db.boundaries.find? commandId := by
  simp only [recordOrderBrokerEvent] at success
  split at success
  · split at success
    · rcases success with ⟨_, rfl⟩
      refine ⟨rfl, ?_⟩
      intro commandId different
      rw [Table.find?_update_of_ne different]
    · simp only [Option.bind_eq_bind, Option.bind_eq_some_iff, Option.pure_def,
        Option.some.injEq, Prod.mk.injEq] at success
      rcases success with ⟨⟨effective, written⟩, wrote, _, rfl⟩
      rcases upsertBoundary_cases wrote with ⟨_, same, _, others⟩
      exact ⟨same, others⟩
  · cases success
    exact ⟨rfl, fun _ _ => rfl⟩

/-- The boundary after an event of an order command, and the state the event reports. -/
theorem recordOrderBrokerEvent_shows {command : CommandRow} {state : Option String}
    (order : isOrderCommandType command.commandType = true)
    (shows : ShowsBoundary (db.boundaries.find? command.commandId) view)
    (success : recordOrderBrokerEvent host db command eventType payload eventId occurredAt now =
      some (state, written)) :
    let kind := eventKind host eventType payload
    let after := match kind.proposal with
      | some proposed => some (BoundaryView.propose view proposed kind.isPreAck)
      | none => view
    ShowsBoundary (written.boundaries.find? command.commandId) after ∧
      state = after.map fun view => view.state.value := by
  intro kind after
  simp only [recordOrderBrokerEvent, if_pos order, stateForEvent_eq] at success
  cases proposes : kind.proposal with
  | none =>
      have proposesNone : (eventKind host eventType payload).proposal = none := proposes
      rw [proposesNone] at success
      simp only [updateLatestBoundaryPayload, Option.some.injEq, Prod.mk.injEq] at success
      rcases success with ⟨rfl, rfl⟩
      have same : after = view := by simp only [after, proposes]
      rw [same]
      refine ⟨?_, shows.state⟩
      cases found : db.boundaries.find? command.commandId with
      | none =>
          rw [Table.find?_update_of_none found, found, ← found]
          exact shows
      | some row =>
          rw [Table.find?_update_self found]
          rw [found] at shows
          exact shows
  | some proposed =>
      have proposesSome : (eventKind host eventType payload).proposal = some proposed := proposes
      rw [proposesSome] at success
      simp only [Option.bind_eq_bind, Option.bind_eq_some_iff] at success
      rcases success with ⟨⟨effective, written⟩, wrote, rfl, rfl⟩
      rcases upsertBoundary_cases wrote with ⟨reported, _, found, _⟩
      have same : after = some (BoundaryView.propose view proposed kind.isPreAck) := by
        simp only [after, proposes]
      have proposed := shows.propose host command proposed payload eventId
        (occurredAtOr occurredAt now) kind.isPreAck
      rw [isPreAck_iff host eventType payload] at found
      rw [same, found]
      refine ⟨proposed, ?_⟩
      rw [← proposed.state, Option.map_some, state_proposedBoundary]
      exact congrArg some reported

/-- Everything a recorded event does to the tables. -/
theorem recordCommandEvent_cases
    (success : recordCommandEvent host db commandId eventType payload eventId occurredAt now =
      .ok (status, written)) :
    ∃ nextStatus bounded logged,
      eventBoundary host db (db.commands.find? commandId) eventType payload eventId occurredAt
        now = .ok (nextStatus, bounded) ∧
      logged = appendCommandEvent bounded
        (commandEventRow commandId eventType nextStatus payload (occurredAtOr occurredAt now)) ∧
      ((isRateLimited eventType = true ∧
          ((db.commands.find? commandId).any fun row => isOrderCommandType row.commandType) ∧
          keepsOnRateLimit (((db.commands.find? commandId).map CommandRow.status).getD "") ∧
          written = logged) ∨
        (isRateLimited eventType = true ∧
          ¬ (((db.commands.find? commandId).any fun row => isOrderCommandType row.commandType) ∧
            keepsOnRateLimit (((db.commands.find? commandId).map CommandRow.status).getD "")) ∧
          ∃ wait, extractWaitTime host payload = .ok wait ∧
            written = requeueCommand logged commandId (datetimeToWire (now + wait))) ∨
        (isRateLimited eventType = false ∧ nextStatus = none ∧ written = logged) ∨
        (isRateLimited eventType = false ∧ ∃ next completedAt lastError,
          nextStatus = some next ∧
          written = setCommandStatus logged commandId next completedAt lastError)) := by
  simp only [recordCommandEvent, Checked.bind_eq_ok] at success
  rcases success with ⟨⟨nextStatus, bounded⟩, bounds, success⟩
  refine ⟨nextStatus, bounded, _, bounds, rfl, ?_⟩
  split at success
  · next limited =>
      split at success
      · next keeps =>
          cases success
          exact Or.inl ⟨limited, keeps.1, keeps.2, rfl⟩
      · next requeues =>
          rcases Checked.bind_eq_ok.mp success with ⟨wait, readable, success⟩
          cases success
          exact Or.inr (Or.inl ⟨limited, requeues, wait, readable, rfl⟩)
  · next unlimited =>
      simp only [Bool.not_eq_true] at unlimited
      split at success
      · next unchanged =>
          cases success
          exact Or.inr (Or.inr (Or.inl ⟨unlimited, unchanged, rfl⟩))
      · next next changed =>
          cases success
          exact Or.inr (Or.inr (Or.inr ⟨unlimited, next, _, _, changed, rfl⟩))

theorem eventBoundary_none (host : Host) (db : Database) (eventType : String) (payload : Payload)
    (eventId occurredAt : Option String) (now : Instant) :
    eventBoundary host db none eventType payload eventId occurredAt now =
      .ok (statusForCommandEvent eventType false, db) :=
  rfl

theorem eventBoundary_other (other : isOrderCommandType row.commandType = false) :
    eventBoundary host db (some row) eventType payload eventId occurredAt now =
      .ok (statusForCommandEvent eventType false, db) := by
  simp [eventBoundary, other]

theorem eventBoundary_order {bounded : Database} {nextStatus : Option GatewayCommandStatus}
    (order : isOrderCommandType row.commandType = true)
    (success : eventBoundary host db (some row) eventType payload eventId occurredAt now =
      .ok (nextStatus, bounded)) :
    ∃ state,
      recordOrderBrokerEvent host db row eventType payload eventId occurredAt now =
        some (state, bounded) ∧
      nextOrderStatus row.status (statusForCommandEvent eventType true) state =
        .ok nextStatus := by
  simp only [eventBoundary, if_pos order] at success
  split at success
  · cases success
  · next state written recorded =>
      rcases Checked.bind_eq_ok.mp success with ⟨status, decided, success⟩
      rcases success with ⟨rfl, rfl⟩
      exact ⟨state, recorded, decided⟩

theorem eventBoundary_frame {bounded : Database} {nextStatus : Option GatewayCommandStatus}
    (success : eventBoundary host db (db.commands.find? commandId) eventType payload eventId
      occurredAt now = .ok (nextStatus, bounded)) :
    bounded = { db with boundaries := bounded.boundaries } ∧
      ∀ other, other ≠ commandId →
        bounded.boundaries.find? other = db.boundaries.find? other := by
  cases found : db.commands.find? commandId with
  | none =>
      rw [found, eventBoundary_none, Except.ok.injEq, Prod.mk.injEq] at success
      rcases success with ⟨_, rfl⟩
      exact ⟨rfl, fun _ _ => rfl⟩
  | some row =>
      rw [found] at success
      have sameId : row.commandId = commandId := Table.key_of_find? found
      by_cases order : isOrderCommandType row.commandType = true
      · rcases eventBoundary_order order success with ⟨state, recorded, _⟩
        rw [← sameId]
        exact recordOrderBrokerEvent_frame recorded
      · rw [eventBoundary_other (Bool.not_eq_true _ ▸ order), Except.ok.injEq,
          Prod.mk.injEq] at success
        rcases success with ⟨_, rfl⟩
        exact ⟨rfl, fun _ _ => rfl⟩

theorem find?_requeueCommand (found : db.commands.find? commandId = some row)
    (availableAt : String) :
    (requeueCommand db commandId availableAt).commands.find? commandId =
      some { row with
        status := queued.value, availableAt := some availableAt, completedAt := none,
        lastError := none } := by
  simp only [requeueCommand, updateCommand]
  rw [Table.find?_update_self found]

theorem find?_setCommandStatus (found : db.commands.find? commandId = some row)
    (status : GatewayCommandStatus) (completedAt lastError : Option String) :
    (setCommandStatus db commandId status completedAt lastError).commands.find? commandId =
      some { row with
        status := status.value, completedAt := completedAt.or row.completedAt,
        lastError := lastError.or row.lastError } := by
  simp only [setCommandStatus, updateCommand]
  rw [Table.find?_update_self found]

theorem recordCommandEvent_database
    (success : recordCommandEvent host db commandId eventType payload eventId occurredAt now =
      .ok (status, written)) :
    ∃ row : CommandEventRow, row.commandId = commandId ∧ row.eventType = eventType ∧
      written = { db with
        commands := written.commands
        boundaries := written.boundaries
        commandEvents := db.commandEvents ++ [row] } := by
  rcases recordCommandEvent_cases success with ⟨nextStatus, bounded, logged, bounds, rfl, effect⟩
  rcases eventBoundary_frame bounds with ⟨same, _⟩
  refine ⟨commandEventRow commandId eventType nextStatus payload (occurredAtOr occurredAt now),
    rfl, rfl, ?_⟩
  rcases effect with ⟨_, _, _, rfl⟩ | ⟨_, _, wait, _, rfl⟩ | ⟨_, _, rfl⟩ | ⟨_, next, _, _, _, rfl⟩
  all_goals
    rw [same]
    rfl

theorem recordCommandEvent_frame {other : String}
    (success : recordCommandEvent host db commandId eventType payload eventId occurredAt now =
      .ok (status, written)) (different : other ≠ commandId) :
    SameSlot other db written := by
  rcases recordCommandEvent_cases success with ⟨nextStatus, bounded, logged, bounds, rfl, effect⟩
  rcases eventBoundary_frame bounds with ⟨same, others⟩
  have commands : bounded.commands = db.commands := by rw [same]
  have slot : SameSlot other db bounded := ⟨by rw [commands], others other different⟩
  apply slot.trans
  rcases effect with ⟨_, _, _, rfl⟩ | ⟨_, _, wait, _, rfl⟩ | ⟨_, _, rfl⟩ | ⟨_, next, _, _, _, rfl⟩
  · exact ⟨rfl, rfl⟩
  · refine ⟨?_, rfl⟩
    simp only [requeueCommand, updateCommand, appendCommandEvent]
    rw [Table.find?_update_of_ne different]
  · exact ⟨rfl, rfl⟩
  · refine ⟨?_, rfl⟩
    simp only [setCommandStatus, updateCommand, appendCommandEvent]
    rw [Table.find?_update_of_ne different]

/-- The columns an event may write are the status, the availability, the completion and the
error. -/
def SameButStatus (before after : CommandRow) : Prop :=
  after = { before with
    status := after.status
    availableAt := after.availableAt
    completedAt := after.completedAt
    lastError := after.lastError }

theorem recordCommandEvent_row (found : db.commands.find? commandId = some row)
    (success : recordCommandEvent host db commandId eventType payload eventId occurredAt now =
      .ok (status, written)) :
    ∃ after nextStatus bounded,
      written.commands.find? commandId = some after ∧ SameButStatus row after ∧
      eventBoundary host db (some row) eventType payload eventId occurredAt now =
        .ok (nextStatus, bounded) ∧
      written.boundaries = bounded.boundaries ∧
      after.status =
        if isRateLimited eventType then
          if isOrderCommandType row.commandType ∧ keepsOnRateLimit row.status then row.status
          else queued.value
        else (nextStatus.map GatewayCommandStatus.value).getD row.status := by
  rcases recordCommandEvent_cases success with ⟨nextStatus, bounded, logged, bounds, rfl, effect⟩
  rcases eventBoundary_frame bounds with ⟨same, _⟩
  have commands : bounded.commands = db.commands := by rw [same]
  have boundedFound : bounded.commands.find? commandId = some row := by rw [commands, found]
  rw [found] at bounds effect
  simp only [Option.any_some, Option.map_some, Option.getD_some] at effect
  rcases effect with ⟨limited, order, keeps, rfl⟩ | ⟨limited, requeues, wait, _, rfl⟩ |
    ⟨unlimited, unchanged, rfl⟩ | ⟨unlimited, next, _, _, changed, rfl⟩
  · refine ⟨row, nextStatus, bounded, boundedFound, rfl, bounds, rfl, ?_⟩
    rw [if_pos limited, if_pos ⟨order, keeps⟩]
  · refine ⟨_, nextStatus, bounded, find?_requeueCommand boundedFound _, rfl, bounds, rfl, ?_⟩
    rw [if_pos limited, if_neg requeues]
  · refine ⟨row, nextStatus, bounded, boundedFound, rfl, bounds, rfl, ?_⟩
    simp [unlimited, unchanged]
  · refine ⟨_, nextStatus, bounded, find?_setCommandStatus boundedFound _ _ _, rfl, bounds, rfl,
      ?_⟩
    simp [unlimited, changed]

theorem nextOrderStatus_orderEvent {kind : EventKind} {next : Option GatewayCommandStatus}
    (unlimited : kind ≠ .rateLimited)
    (success : nextOrderStatus life.status.value kind.orderStatus
      ((life.orderEvent kind).boundary.map fun view => view.state.value) = .ok next) :
    next.getD life.status = (life.orderEvent kind).status := by
  have mirrored : ∀ state : OrderBrokerBoundaryState,
      ofValue state.value = some state.toStatus := by
    intro state
    rw [← OrderBrokerBoundaryState.value_toStatus, ofValue_value]
  cases kind with
  | rateLimited => exact absurd rfl unlimited
  | other =>
      cases success
      rfl
  | unconfirmed =>
      simp only [nextOrderStatus, EventKind.orderStatus, Lifecycle.orderEvent,
        effectiveOrderCommandStatus_unconfirmed] at success
      cases success
      rfl
  | failed =>
      simp only [nextOrderStatus, EventKind.orderStatus, mirrorsBoundary,
        effectiveOrderCommandStatus_failed] at success
      split at success
      · cases success
        rfl
      · cases success
        rfl
  | preAck accepted | started | ack | execution | chejan =>
      simp only [nextOrderStatus, Lifecycle.orderEvent, EventKind.proposal, Option.map_some,
        mirrored] at success
      cases success
      rfl

/-- An event makes its move. -/
theorem recordCommandEvent_shows (shows : Shows db commandId life)
    (success : recordCommandEvent host db commandId eventType payload eventId occurredAt now =
      .ok (status, written)) :
    Shows written commandId (life.after (.event (eventKind host eventType payload))) := by
  rcases shows with ⟨⟨row, found, showsRow⟩, showsBoundary⟩
  have sameId : row.commandId = commandId := Table.key_of_find? found
  rcases recordCommandEvent_row found success with
    ⟨after, nextStatus, bounded, afterFound, frame, bounds, boundaries, afterStatus⟩
  have kept : ∀ later : Lifecycle, later.order = life.order →
      later.wasDispatched = life.wasDispatched → after.status = later.status.value →
      ShowsCommand after later := by
    intro later order wasDispatched status
    refine ⟨?_, ?_, ?_, status, ?_⟩
    · rw [frame]
      exact showsRow.nonempty
    · rw [frame]
      exact showsRow.normalized
    · rw [frame, order]
      exact showsRow.order
    · rw [frame, wasDispatched]
      exact showsRow.wasDispatched
  have limitedIff := isRateLimited_iff host eventType payload
  generalize kindIs : eventKind host eventType payload = kind at limitedIff ⊢
  by_cases order : isOrderCommandType row.commandType = true
  · have isOrder : life.order = true := showsRow.order.symm.trans order
    simp only [Lifecycle.after, isOrder, if_true]
    rcases eventBoundary_order order bounds with ⟨state, succeeded, decided⟩
    rw [← sameId] at showsBoundary
    rcases recordOrderBrokerEvent_shows order showsBoundary succeeded with
      ⟨showsAfter, reported⟩
    rw [kindIs] at showsAfter reported
    rw [sameId] at showsAfter
    refine ⟨⟨after, afterFound, kept _ rfl rfl ?_⟩, ?_⟩
    · rw [afterStatus]
      by_cases limited : isRateLimited eventType = true
      · rw [if_pos limited]
        have isLimited := limitedIff.mp limited
        subst isLimited
        simp only [order, true_and, showsRow.status, keepsOnRateLimit_value,
          Lifecycle.orderEvent]
        split <;> rfl
      · rw [if_neg limited]
        have unlimited : kind ≠ .rateLimited := fun same => limited (limitedIff.mpr same)
        rw [statusForCommandEvent_order host eventType payload, kindIs, reported,
          showsRow.status] at decided
        rw [← nextOrderStatus_orderEvent unlimited decided, showsRow.status]
        cases nextStatus <;> rfl
    · rw [boundaries]
      exact showsAfter
  · have isOther : life.order = false := by
      rw [← showsRow.order]
      simpa using order
    rw [eventBoundary_other (Bool.not_eq_true _ ▸ order), Except.ok.injEq,
      Prod.mk.injEq] at bounds
    rcases bounds with ⟨rfl, rfl⟩
    simp only [Lifecycle.after, isOther]
    refine ⟨⟨after, afterFound, kept _ rfl rfl ?_⟩, ?_⟩
    · rw [afterStatus, statusForCommandEvent_other host eventType payload, kindIs,
        showsRow.status]
      by_cases limited : isRateLimited eventType = true
      · rw [if_pos limited]
        have isLimited := limitedIff.mp limited
        subst isLimited
        simp [order, Lifecycle.otherEvent]
      · rw [if_neg limited]
        have unlimited : kind ≠ .rateLimited := fun same => limited (limitedIff.mpr same)
        cases kind with
        | rateLimited => exact absurd rfl unlimited
        | _ => rfl
    · rw [boundaries]
      exact showsBoundary

theorem recordCommandEvent_absent (absent : Absent db commandId)
    (success : recordCommandEvent host db commandId eventType payload eventId occurredAt now =
      .ok (status, written)) : Absent written commandId := by
  rcases recordCommandEvent_cases success with ⟨nextStatus, bounded, logged, bounds, rfl, effect⟩
  rw [absent.command, eventBoundary_none, Except.ok.injEq, Prod.mk.injEq] at bounds
  rcases bounds with ⟨_, rfl⟩
  rcases effect with ⟨_, _, _, rfl⟩ | ⟨_, _, wait, _, rfl⟩ | ⟨_, _, rfl⟩ | ⟨_, next, _, _, _, rfl⟩
  · exact ⟨absent.command, absent.boundary⟩
  · refine ⟨?_, absent.boundary⟩
    simp only [requeueCommand, updateCommand, appendCommandEvent]
    rw [Table.find?_update_of_none absent.command]
    exact absent.command
  · exact ⟨absent.command, absent.boundary⟩
  · refine ⟨?_, absent.boundary⟩
    simp only [setCommandStatus, updateCommand, appendCommandEvent]
    rw [Table.find?_update_of_none absent.command]
    exact absent.command

end SuseokTrader
