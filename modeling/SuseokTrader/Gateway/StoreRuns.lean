import SuseokTrader.Gateway.BatchMoves

/-!
# Runs of the store are runs of the lifecycle

`moveOf` is the move that an operation makes for one command, and `shows_next`
says that the rows of the command show exactly that move. A law about the moves
of a lifecycle is lifted by `Tracks` to the states a run of the store goes
through.
-/

namespace SuseokTrader

open GatewayCommandStatus

/-! ## Enqueueing -/

theorem normalizeCommandType_normalizeCommandType (commandType : String) :
    normalizeCommandType (normalizeCommandType commandType) =
      normalizeCommandType commandType := by
  simp only [normalizeCommandType, Text.strip_lower, Text.strip_strip, Text.lower_lower]

variable {cleared written : Database} {now : Instant} {command : GatewayCommand}
  {expiresAt : Option Instant} {result : EnqueueCommandResult} {op : StoreOp} {limit : Nat}
  {readings : DispatchReadings} {life : Lifecycle}

variable {db : Database}

theorem findActiveDedupeError_database {idempotencyKey : String}
    {refusal : Option String}
    (success : findActiveDedupeError db idempotencyKey now = .ok (refusal, cleared)) :
    cleared = { db with dedupeKeys := cleared.dedupeKeys } := by
  simp only [findActiveDedupeError] at success
  split at success
  · rw [Except.ok.injEq, Prod.mk.injEq] at success
    rw [← success.2]
  · rcases Checked.bind_eq_ok.mp success with ⟨retained, _, success⟩
    split at success
    · simp only [pure, Except.pure, Except.ok.injEq, Prod.mk.injEq] at success
      rw [← success.2]
    · simp only [pure, Except.pure, Except.ok.injEq, Prod.mk.injEq] at success
      rw [← success.2]

theorem dedupeError_database {refusal : Option String}
    (success : dedupeError db command now = .ok (refusal, cleared)) :
    cleared = { db with dedupeKeys := cleared.dedupeKeys } := by
  simp only [dedupeError] at success
  split at success
  · rw [Except.ok.injEq, Prod.mk.injEq] at success
    rw [← success.2]
  · exact findActiveDedupeError_database success

theorem insertCommand_database {row : CommandRow}
    (success : insertCommand db row now = .ok written) :
    ∃ commands, db.commands.insert? row = some commands ∧
      written = { db with commands := commands, dedupeKeys := written.dedupeKeys } := by
  simp only [insertCommand] at success
  split at success
  · cases success
  · next commands inserted =>
      refine ⟨commands, inserted, ?_⟩
      split at success
      · rw [Except.ok.injEq] at success
        rw [← success]
      · split at success
        · cases success
        · rw [Except.ok.injEq] at success
          rw [← success]

theorem storeCommand_database (row : CommandRow) (now : Instant)
    (refusal : Option String) (onlyKeys : cleared = { db with dedupeKeys := cleared.dedupeKeys }) :
    let written := (storeCommand db cleared row now refusal).2
    written = { db with dedupeKeys := written.dedupeKeys } ∨
      ∃ commands, db.commands.insert? row = some commands ∧
        written = { db with commands := commands, dedupeKeys := written.dedupeKeys } := by
  intro written
  cases refusal with
  | some message => exact Or.inl onlyKeys
  | none =>
      have sameCommands : cleared.commands = db.commands := by rw [onlyKeys]
      cases inserts : insertCommand cleared row now with
      | error message =>
          left
          simp only [written, storeCommand, inserts]
      | ok inserted =>
          right
          rcases insertCommand_database inserts with ⟨commands, isInserted, same⟩
          refine ⟨commands, sameCommands ▸ isInserted, ?_⟩
          simp only [written, storeCommand, inserts]
          rw [same, onlyKeys]

variable {host : Host} {db : Database}

theorem enqueueCommand_cases
    (success : enqueueCommand host db command expiresAt now = .ok (result, written)) :
    written = { db with dedupeKeys := written.dedupeKeys } ∨
      ∃ commands,
        db.commands.insert? (queuedCommandRow command (expiresAt.map datetimeToWire)) =
          some commands ∧
        written = { db with commands := commands, dedupeKeys := written.dedupeKeys } := by
  simp only [enqueueCommand] at success
  split at success
  · rw [Except.ok.injEq, Prod.mk.injEq] at success
    left
    rw [← success.2]
  · split at success
    · split at success
      · cases success
      · rw [Except.ok.injEq, Prod.mk.injEq] at success
        left
        rw [← success.2]
    · rcases Checked.bind_eq_ok.mp success with ⟨⟨refusal, cleared⟩, looked, stores⟩
      have onlyKeys := dedupeError_database looked
      simp only [pure, Except.pure, Except.ok.injEq] at stores
      have stored := storeCommand_database
        (queuedCommandRow command (expiresAt.map datetimeToWire)) now refusal onlyKeys
      rw [stores] at stored
      exact stored

theorem enqueueCommand_frame {commandId : String} {row : CommandRow}
    (success : enqueueCommand host db command expiresAt now = .ok (result, written))
    (found : db.commands.find? commandId = some row) : SameSlot commandId db written := by
  rcases enqueueCommand_cases success with same | ⟨commands, inserted, same⟩
  · rw [same]
    exact ⟨rfl, rfl⟩
  · rw [same]
    exact ⟨(Table.find?_of_insert?_of_some inserted found).trans found.symm, rfl⟩

theorem enqueueCommand_absent {commandId : String}
    (absent : Absent db commandId)
    (success : enqueueCommand host db command expiresAt now = .ok (result, written)) :
    Absent written commandId ∨ ∃ order, Shows written commandId (Lifecycle.fresh order) := by
  rcases enqueueCommand_cases success with same | ⟨commands, inserted, same⟩
  · left
    rw [same]
    exact ⟨absent.command, absent.boundary⟩
  · by_cases sameId : command.commandId = commandId
    · right
      refine ⟨isOrderCommandType (normalizeCommandType command.commandType), ?_, ?_⟩
      · refine ⟨queuedCommandRow command (expiresAt.map datetimeToWire), ?_, ?_⟩
        · rw [same, ← sameId]
          exact Table.find?_of_insert?_self inserted
        · refine ⟨command.commandId_stripped.ne_empty,
            normalizeCommandType_normalizeCommandType _, ?_, rfl, rfl⟩
          simp only [queuedCommandRow, Lifecycle.fresh]
      · rw [same]
        simp [ShowsBoundary, absent.boundary, Lifecycle.fresh]
    · left
      rw [same]
      exact ⟨(Table.find?_of_insert?_of_ne inserted sameId).trans absent.command,
        absent.boundary⟩

/-! ## Steps -/

variable (host : Host) (db : Database)

def dispatchedIds (op : StoreOp) : List String :=
  ((store host).output db op).map CommandRow.commandId

/-- The step of the store raises nothing. -/
def succeeds : StoreOp → Bool
  | .enqueue command expiresAt now => (enqueueCommand host db command expiresAt now).isOk
  | .sweep dispatchedTimeoutSec now =>
      (expireStaleGatewayCommands host db dispatchedTimeoutSec now).isSome
  | .dispatch limit readings => (dispatchReadyCommands host db limit readings).isSome
  | .event commandId eventType payload eventId occurredAt now =>
      (recordCommandEvent host db commandId eventType payload eventId occurredAt now).isOk

variable {host : Host} {db : Database}

theorem next_of_fails (fails : ¬ succeeds host db op = true) :
    (store host).next db op = db ∧ (store host).output db op = [] := by
  simp only [System.next, System.output, store]
  cases op with
  | enqueue command expiresAt now =>
      cases stored : enqueueCommand host db command expiresAt now with
      | error failure => simp only [storeStep, stored, and_self]
      | ok value => simp [succeeds, stored, Except.toBool] at fails
  | sweep dispatchedTimeoutSec now =>
      cases swept : expireStaleGatewayCommands host db dispatchedTimeoutSec now with
      | none => simp only [storeStep, swept, and_self]
      | some value => simp [succeeds, swept] at fails
  | dispatch limit readings =>
      cases dispatched : dispatchReadyCommands host db limit readings with
      | none => simp only [storeStep, dispatched, and_self]
      | some value => simp [succeeds, dispatched] at fails
  | event commandId eventType payload eventId occurredAt now =>
      cases recorded : recordCommandEvent host db commandId eventType payload eventId occurredAt
          now with
      | error failure => simp only [storeStep, recorded, and_self]
      | ok value => simp [succeeds, recorded, Except.toBool] at fails

theorem enqueue_of_succeeds (success : succeeds host db (.enqueue command expiresAt now) = true) :
    ∃ result, enqueueCommand host db command expiresAt now =
      .ok (result, (store host).next db (.enqueue command expiresAt now)) := by
  cases stored : enqueueCommand host db command expiresAt now with
  | error failure => simp [succeeds, stored, Except.toBool] at success
  | ok value =>
      refine ⟨value.1, ?_⟩
      simp only [System.next, store, storeStep, stored]

theorem sweep_of_succeeds {dispatchedTimeoutSec : Int}
    (success : succeeds host db (.sweep dispatchedTimeoutSec now) = true) :
    ∃ counts, expireStaleGatewayCommands host db dispatchedTimeoutSec now =
      some (counts, (store host).next db (.sweep dispatchedTimeoutSec now)) := by
  cases swept : expireStaleGatewayCommands host db dispatchedTimeoutSec now with
  | none => simp [succeeds, swept] at success
  | some value =>
      refine ⟨value.1, ?_⟩
      simp only [System.next, store, storeStep, swept]

theorem dispatch_of_succeeds (success : succeeds host db (.dispatch limit readings) = true) :
    dispatchReadyCommands host db limit readings =
      some ((store host).output db (.dispatch limit readings),
        (store host).next db (.dispatch limit readings)) := by
  cases dispatched : dispatchReadyCommands host db limit readings with
  | none => simp [succeeds, dispatched] at success
  | some value => simp only [System.next, System.output, store, storeStep, dispatched]

theorem event_of_succeeds {commandId eventType : String}
    {payload : Payload} {eventId occurredAt : Option String} (success : succeeds host db
      (.event commandId eventType payload eventId occurredAt now) = true) :
    ∃ status, recordCommandEvent host db commandId eventType payload eventId occurredAt now =
      .ok (status, (store host).next db
        (.event commandId eventType payload eventId occurredAt now)) := by
  cases recorded : recordCommandEvent host db commandId eventType payload eventId occurredAt
      now with
  | error failure => simp [succeeds, recorded, Except.toBool] at success
  | ok value =>
      refine ⟨value.1, ?_⟩
      simp only [System.next, store, storeStep, recorded]

theorem dispatchReadyCommands_cases {rows : List CommandRow}
    (success : dispatchReadyCommands host db limit readings = some (rows, written)) :
    (dispatchPrecheck host db readings.precheck readings.precheckFence = false ∧
        rows = [] ∧ written = db) ∨
      (dispatchPrecheck host db readings.precheck readings.precheckFence = true ∧
        dispatchTransaction host db limit readings.fence readings.claim =
          some (rows, written)) := by
  simp only [dispatchReadyCommands] at success
  split at success
  · next runs => exact Or.inr ⟨runs, success⟩
  · next idle =>
      rw [Option.some.injEq, Prod.mk.injEq] at success
      exact Or.inl ⟨by simpa using idle, success.1.symm, success.2.symm⟩

/-- The move that a step of the store, once it succeeds, makes for a stored command. -/
def opMove (host : Host) (db : Database) (row : CommandRow) : StoreOp → Move
  | .enqueue _ _ _ => .stay
  | .sweep dispatchedTimeoutSec now =>
      sweepMove (datetimeToWire now) (dispatchedCutoff now dispatchedTimeoutSec) row
  | .dispatch limit readings =>
      if dispatchPrecheck host db readings.precheck readings.precheckFence then
        dispatchMove (datetimeToWire readings.claim)
          (dispatchedIds host db (.dispatch limit readings)) row
      else .stay
  | .event commandId eventType payload _ _ _ =>
      if row.commandId = commandId then .event (eventKind host eventType payload) else .stay

def rowMove (host : Host) (db : Database) (op : StoreOp) (row : CommandRow) : Move :=
  if succeeds host db op then opMove host db row op else .stay

def moveOf (host : Host) (db : Database) (op : StoreOp) (commandId : String) : Move :=
  match db.commands.find? commandId with
  | some row => rowMove host db op row
  | none => .stay

variable {host : Host} {db : Database} {commandId : String}

theorem shows_next (shows : Shows db commandId life) (op : StoreOp) :
    Shows ((store host).next db op) commandId (life.after (moveOf host db op commandId)) := by
  rcases shows.command with ⟨row, found, showsRow⟩
  have sameId : row.commandId = commandId := Table.key_of_find? found
  have move : moveOf host db op commandId = rowMove host db op row := by
    simp only [moveOf, found]
  rw [move, rowMove]
  by_cases success : succeeds host db op = true
  · rw [if_pos success]
    cases op with
    | enqueue command expiresAt now =>
        rcases enqueue_of_succeeds success with ⟨result, stored⟩
        exact (enqueueCommand_frame stored found).shows shows
    | sweep dispatchedTimeoutSec now =>
        rcases sweep_of_succeeds success with ⟨counts, swept⟩
        exact expireStaleGatewayCommands_shows found shows swept
    | dispatch limit readings =>
        rcases dispatchReadyCommands_cases (dispatch_of_succeeds success) with
          ⟨idle, _, same⟩ | ⟨runs, dispatched⟩
        · rw [same]
          simp only [opMove, idle]
          exact shows
        · simp only [opMove, if_pos runs]
          exact dispatchTransaction_shows found shows dispatched
    | event eventCommandId eventType payload eventId occurredAt now =>
        rcases event_of_succeeds success with ⟨status, recorded⟩
        simp only [opMove]
        split
        · next same =>
            have eventSame : eventCommandId = commandId := same.symm.trans sameId
            subst eventSame
            exact recordCommandEvent_shows shows recorded
        · next different =>
            have foreign : commandId ≠ eventCommandId := by
              intro same
              exact different (sameId.trans same)
            exact (recordCommandEvent_frame recorded foreign).shows shows
  · rw [if_neg success, (next_of_fails success).1]
    exact shows

theorem absent_next (absent : Absent db commandId) (op : StoreOp) :
    Absent ((store host).next db op) commandId ∨
      ∃ order, Shows ((store host).next db op) commandId (Lifecycle.fresh order) := by
  by_cases success : succeeds host db op = true
  · cases op with
    | enqueue command expiresAt now =>
        rcases enqueue_of_succeeds success with ⟨result, stored⟩
        exact enqueueCommand_absent absent stored
    | sweep dispatchedTimeoutSec now =>
        rcases sweep_of_succeeds success with ⟨counts, swept⟩
        exact Or.inl (expireStaleGatewayCommands_absent absent swept)
    | dispatch limit readings =>
        left
        rcases dispatchReadyCommands_cases (dispatch_of_succeeds success) with
          ⟨_, _, same⟩ | ⟨_, dispatched⟩
        · rw [same]
          exact absent
        · exact dispatchTransaction_absent absent dispatched
    | event eventCommandId eventType payload eventId occurredAt now =>
        left
        rcases event_of_succeeds success with ⟨status, recorded⟩
        by_cases same : commandId = eventCommandId
        · subst same
          exact recordCommandEvent_absent absent recorded
        · exact (recordCommandEvent_frame recorded same).absent absent
  · left
    rw [(next_of_fails success).1]
    exact absent

theorem dispatch_of_dispatched (returned : commandId ∈ dispatchedIds host db op) :
    ∃ limit readings,
      op = .dispatch limit readings ∧
      dispatchPrecheck host db readings.precheck readings.precheckFence = true ∧
      dispatchTransaction host db limit readings.fence readings.claim =
        some ((store host).output db op, (store host).next db op) := by
  have success : succeeds host db op = true := by
    by_contra fails
    rw [dispatchedIds, (next_of_fails fails).2] at returned
    cases returned
  cases op with
  | dispatch limit readings =>
      refine ⟨limit, readings, rfl, ?_⟩
      rcases dispatchReadyCommands_cases (dispatch_of_succeeds success) with
        ⟨_, nothing, _⟩ | ⟨runs, dispatched⟩
      · rw [dispatchedIds, nothing] at returned
        cases returned
      · exact ⟨runs, dispatched⟩
  | enqueue command expiresAt now =>
      rcases enqueue_of_succeeds success with ⟨result, stored⟩
      simp [dispatchedIds, System.output, store, storeStep, stored] at returned
  | sweep dispatchedTimeoutSec now =>
      rcases sweep_of_succeeds success with ⟨counts, swept⟩
      simp [dispatchedIds, System.output, store, storeStep, swept] at returned
  | event eventCommandId eventType payload eventId occurredAt now =>
      rcases event_of_succeeds success with ⟨status, recorded⟩
      simp [dispatchedIds, System.output, store, storeStep, recorded] at returned

theorem succeeds_dispatch {rows : List CommandRow}
    (runs : dispatchPrecheck host db readings.precheck readings.precheckFence = true)
    (success : dispatchTransaction host db limit readings.fence readings.claim =
      some (rows, written)) : succeeds host db (.dispatch limit readings) = true := by
  simp only [succeeds, dispatchReadyCommands, if_pos runs, success, Option.isSome_some]

theorem moveOf_of_dispatched (shows : Shows db commandId life)
    (returned : commandId ∈ dispatchedIds host db op) :
    moveOf host db op commandId = .claim ∧ life.status = queued := by
  rcases shows.command with ⟨row, found, showsRow⟩
  have sameId : row.commandId = commandId := Table.key_of_find? found
  rcases dispatch_of_dispatched returned with ⟨limit, readings, rfl, runs, success⟩
  constructor
  · simp only [moveOf, found, rowMove, if_pos (succeeds_dispatch runs success), opMove,
      if_pos runs, dispatchMove, sameId, if_pos returned]
  · rcases List.mem_map.mp returned with ⟨taken, present, takenId⟩
    rcases dispatched_ready success present with ⟨takenFound, ready⟩
    rw [takenId, found, Option.some.injEq] at takenFound
    subst takenFound
    exact (showsRow.status_iff queued).mp (status_of_isReady ready)

/-- Which operations make which moves. -/
theorem moveOf_cases (host : Host) (db : Database) (op : StoreOp) (commandId : String) :
    moveOf host db op commandId = .stay ∨
      (∃ dispatchedTimeoutSec now row, op = .sweep dispatchedTimeoutSec now ∧
        db.commands.find? commandId = some row ∧
        moveOf host db op commandId =
          sweepMove (datetimeToWire now) (dispatchedCutoff now dispatchedTimeoutSec) row) ∨
      (∃ limit readings row, op = .dispatch limit readings ∧
        db.commands.find? commandId = some row ∧
        moveOf host db op commandId =
          dispatchMove (datetimeToWire readings.claim) (dispatchedIds host db op) row) ∨
      (∃ eventType payload eventId occurredAt now,
        op = .event commandId eventType payload eventId occurredAt now ∧
        succeeds host db op = true ∧
        moveOf host db op commandId = .event (eventKind host eventType payload)) := by
  cases found : db.commands.find? commandId with
  | none =>
      left
      simp only [moveOf, found]
  | some row =>
      have sameId : row.commandId = commandId := Table.key_of_find? found
      by_cases success : succeeds host db op = true
      · have move : moveOf host db op commandId = opMove host db row op := by
          simp only [moveOf, found, rowMove, if_pos success]
        rw [move]
        cases op with
        | enqueue command expiresAt now => exact Or.inl rfl
        | sweep dispatchedTimeoutSec now =>
            exact Or.inr (Or.inl ⟨dispatchedTimeoutSec, now, row, rfl, rfl, rfl⟩)
        | dispatch limit readings =>
            simp only [opMove]
            split
            · exact Or.inr (Or.inr (Or.inl ⟨limit, readings, row, rfl, rfl, rfl⟩))
            · exact Or.inl rfl
        | event eventCommandId eventType payload eventId occurredAt now =>
            simp only [opMove]
            split
            · next same =>
                have eventSame : eventCommandId = commandId := same.symm.trans sameId
                subst eventSame
                exact Or.inr (Or.inr (Or.inr
                  ⟨eventType, payload, eventId, occurredAt, now, rfl, success, rfl⟩))
            · exact Or.inl rfl
      · left
        simp only [moveOf, found, rowMove, if_neg success]

theorem dispatched_of_moveOf (claims : moveOf host db op commandId = .claim) :
    commandId ∈ dispatchedIds host db op := by
  rcases moveOf_cases host db op commandId with stays | ⟨timeout, now, row, rfl, _, sweeps⟩ |
    ⟨limit, readings, row, rfl, found, dispatches⟩ | ⟨type, payload, id, time, now, rfl, _, kind⟩
  · rw [claims] at stays
    cases stays
  · rw [claims] at sweeps
    simp only [sweepMove] at sweeps
    split at sweeps
    · cases sweeps
    · split at sweeps <;> cases sweeps
  · have sameId : row.commandId = commandId := Table.key_of_find? found
    rw [claims] at dispatches
    simp only [dispatchMove] at dispatches
    split at dispatches
    · next returned => exact sameId ▸ returned
    · split at dispatches <;> cases dispatches
  · rw [claims] at kind
    cases kind

theorem event_of_moveOf {kind : EventKind} (moves : moveOf host db op commandId = .event kind) :
    ∃ eventType payload eventId occurredAt now,
      op = .event commandId eventType payload eventId occurredAt now ∧
      succeeds host db op = true ∧ eventKind host eventType payload = kind := by
  rcases moveOf_cases host db op commandId with stays | ⟨timeout, now, row, rfl, _, sweeps⟩ |
    ⟨limit, readings, row, rfl, found, dispatches⟩ |
    ⟨eventType, payload, eventId, occurredAt, now, rfl, success, isKind⟩
  · rw [moves] at stays
    cases stays
  · rw [moves] at sweeps
    simp only [sweepMove] at sweeps
    split at sweeps
    · cases sweeps
    · split at sweeps <;> cases sweeps
  · rw [moves] at dispatches
    simp only [dispatchMove] at dispatches
    split at dispatches
    · cases dispatches
    · split at dispatches <;> cases dispatches
  · rw [moves, Move.event.injEq] at isKind
    exact ⟨eventType, payload, eventId, occurredAt, now, rfl, success, isKind.symm⟩

theorem moveOf_event {eventType : String} {payload : Payload} {eventId occurredAt : Option String}
    (shows : Shows db commandId life) (success : succeeds host db
      (.event commandId eventType payload eventId occurredAt now) = true) :
    moveOf host db (.event commandId eventType payload eventId occurredAt now) commandId =
      .event (eventKind host eventType payload) := by
  rcases shows.command with ⟨row, found, _⟩
  have sameId : row.commandId = commandId := Table.key_of_find? found
  simp only [moveOf, found, rowMove, success, opMove, if_true, sameId]

/-! ## Runs -/

def Tracks (property : Lifecycle → Prop) (commandId : String) (db : Database) : Prop :=
  Absent db commandId ∨ ∃ life, Shows db commandId life ∧ property life

theorem tracks_empty (property : Lifecycle → Prop) (commandId : String) (catalog : Catalog)
    (appMetadata : List (String × String)) :
    Tracks property commandId (Database.empty catalog appMetadata) :=
  Or.inl ⟨rfl, rfl⟩

theorem Tracks.of_shows {property : Lifecycle → Prop} (tracks : Tracks property commandId db)
    (shows : Shows db commandId life) :
    property life := by
  rcases tracks with absent | ⟨other, otherShows, holds⟩
  · exact absurd absent shows.not_absent
  · rw [shows.unique otherShows]
    exact holds

theorem Tracks.next {property : Lifecycle → Prop} (tracks : Tracks property commandId db)
    (fresh : ∀ order, property (Lifecycle.fresh order))
    (kept : ∀ life, Shows db commandId life → property life →
      property (life.after (moveOf host db op commandId))) :
    Tracks property commandId ((store host).next db op) := by
  rcases tracks with absent | ⟨life, shows, holds⟩
  · have next : Absent ((store host).next db op) commandId ∨
        ∃ order, Shows ((store host).next db op) commandId (Lifecycle.fresh order) :=
      absent_next absent op
    rcases next with stays | ⟨order, stored⟩
    · exact Or.inl stays
    · exact Or.inr ⟨_, stored, fresh order⟩
  · exact Or.inr ⟨_, shows_next shows op, kept life shows holds⟩

end SuseokTrader
