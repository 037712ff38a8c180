import SuseokTrader.Gateway.Boundary
import SuseokTrader.Gateway.CommandPolicy

/-!
# The gateway command store

Enqueueing, the events the gateway reports for a command, and the sweep that
expires queued commands and times out dispatched ones. Dispatch is in a file of
its own, since it asks the routing fence.

An operation that raises leaves the database as it was: its transaction rolls
back. `recordCommandEvent` and the sweep return an error or `none` then.
-/

namespace SuseokTrader

open GatewayCommandStatus

def defaultDispatchTimeoutSec : Nat := 120

/-! ## Enqueueing -/

structure EnqueueCommandResult where
  accepted : Bool
  commandId : String
  status : GatewayCommandStatus
  payloadHash : String
  duplicate : Bool
  errorMessage : Option String

def isRetained (retainedUntil : Option String) (now : Instant) : Checked Bool :=
  match retainedUntil with
  | none => .ok true
  | some retainedUntil => do
      let limit ← parseTimestamp (.str retainedUntil) "retained_until"
      return decide (now < limit)

variable (db : Database)

/-- The refusal of a key that is still retained; a key past its retention is deleted. -/
def findActiveDedupeError (idempotencyKey : String) (now : Instant) :
    Checked (Option String × Database) :=
  match db.dedupeKeys.find? idempotencyKey with
  | none => .ok (none, db)
  | some row => do
      if ← isRetained row.retainedUntil now then
        return (some ("idempotency_key already retained for command_id=" ++ row.commandId), db)
      else
        return (none, { db with
          dedupeKeys := db.dedupeKeys.deleteWhere fun other =>
            other.idempotencyKey = idempotencyKey })

/-- The row a command is stored as. -/
def queuedCommandRow (command : GatewayCommand) (expiresAt : Option String) : CommandRow :=
  let payloadJson := canonicalJson command.payload
  { commandId := command.commandId
    commandType := normalizeCommandType command.commandType
    source := command.source
    status := queued.value
    idempotencyKey := command.idempotencyKey
    payloadJson := payloadJson
    payloadHash := hashPayloadJson payloadJson
    createdAt := datetimeToWire command.ts
    availableAt := none
    dispatchedAt := none
    completedAt := none
    expiresAt := expiresAt
    attempts := 0
    lastError := none }

variable (row : CommandRow)

/-- The tables with the command and its dedupe key, unless one of the two keys is taken. -/
def insertCommand (now : Instant) : Except String Database :=
  match db.commands.insert? row with
  | none => .error "UNIQUE constraint failed: gateway_commands.command_id"
  | some commands =>
      match row.idempotencyKey with
      | none => .ok { db with commands := commands }
      | some idempotencyKey =>
          match db.dedupeKeys.insert?
              { idempotencyKey := idempotencyKey, commandId := row.commandId,
                commandType := row.commandType, createdAt := datetimeToWire now,
                retainedUntil := row.expiresAt } with
          | none =>
              .error "UNIQUE constraint failed: gateway_command_dedupe_keys.idempotency_key"
          | some dedupeKeys => .ok { db with commands := commands, dedupeKeys := dedupeKeys }

def refusedCommand (status : GatewayCommandStatus) (duplicate : Bool)
    (message : String) : EnqueueCommandResult where
  accepted := false
  commandId := row.commandId
  status := status
  payloadHash := row.payloadHash
  duplicate := duplicate
  errorMessage := some message

def acceptedCommand : EnqueueCommandResult where
  accepted := true
  commandId := row.commandId
  status := queued
  payloadHash := row.payloadHash
  duplicate := false
  errorMessage := none

def dedupeError (command : GatewayCommand) (now : Instant) :
    Checked (Option String × Database) :=
  match command.idempotencyKey with
  | none => .ok (none, db)
  | some idempotencyKey => findActiveDedupeError db idempotencyKey now

/-- A new command is stored, or refused where one of its keys is taken. -/
def storeCommand (db cleared : Database) (row : CommandRow) (now : Instant) :
    Option String → EnqueueCommandResult × Database
  | some dedupeError => (refusedCommand row rejected true dedupeError, cleared)
  | none =>
      match insertCommand cleared row now with
      | .error message => (refusedCommand row rejected true message, db)
      | .ok inserted => (acceptedCommand row, inserted)

variable (host : Host) (db : Database)

def enqueueCommand (command : GatewayCommand)
    (expiresAt : Option Instant) (now : Instant) : Checked (EnqueueCommandResult × Database) :=
  let row := queuedCommandRow command (expiresAt.map datetimeToWire)
  match validateCommandTypeAllowed host row.commandType (some command) with
  | some safetyError => .ok (refusedCommand row rejected false safetyError, db)
  | none =>
      match db.commands.find? command.commandId with
      | some existing =>
          match ofValue existing.status with
          | none => Checked.invalid (existing.status ++ " is not a valid GatewayCommandStatus")
          | some status => .ok (refusedCommand row status true "command_id already exists", db)
      | none => do
          let (refusal, cleared) ← dedupeError db command now
          return storeCommand db cleared row now refusal

/-! ## Gateway events -/

def statusForCommandEvent (eventType : String) (orderCommand : Bool) :
    Option GatewayCommandStatus :=
  let normalized := Text.lower (Text.strip eventType)
  if normalized = "command_started" then
    some (if orderCommand then gatewayStarted else dispatched)
  else if normalized = "order_pre_ack" ∧ orderCommand then some preAckRecorded
  else if normalized = "command_ack" then some (if orderCommand then brokerAccepted else acked)
  else if normalized = "execution_event" then
    some (if orderCommand then chejanConfirmed else acked)
  else if normalized = "kiwoom_order_chejan" ∧ orderCommand then some chejanConfirmed
  else if normalized = "order_broker_unconfirmed" ∧ orderCommand then some unconfirmed
  else if normalized = "command_failed" then some failed
  else none

def preBrokerRank : GatewayCommandStatus → Nat
  | claimed => 10
  | gatewayStarted => 20
  | preAckRecorded => 30
  | unconfirmed => 35
  | _ => 0

def effectiveOrderCommandStatus (currentStatus : String) (proposedStatus : GatewayCommandStatus) :
    GatewayCommandStatus :=
  let current := ofValue (Text.upper currentStatus)
  let settled := [failed, rejected, expired, cancelled]
  if current = some chejanConfirmed then chejanConfirmed
  else if proposedStatus = chejanConfirmed then proposedStatus
  else if proposedStatus = brokerAccepted then proposedStatus
  else if current = some brokerAccepted then brokerAccepted
  else if proposedStatus ∈ settled then proposedStatus
  else
    match current with
    | none => proposedStatus
    | some current =>
        if current ∈ settled then current
        else if current = unconfirmed ∧
            proposedStatus ∈ [claimed, gatewayStarted, preAckRecorded] then unconfirmed
        else if preBrokerRank proposedStatus ≥ preBrokerRank current then proposedStatus
        else current

def completedStatuses : List GatewayCommandStatus :=
  [acked, brokerAccepted, chejanConfirmed, rejected, failed, expired, cancelled]

def extractErrorMessage (payload : Payload) : Option String :=
  ["error_message", "message", "error"].findSome? fun key =>
    match payload.get key with
    | .str value => Text.optionalText (some value)
    | _ => none

/-- The number a value converts to, absent ones where the conversion refuses the value. -/
def floatOf (value : Json) : Checked (Option Float64) :=
  match value with
  | .bool value => .ok (some (.finite (if value then 1 else 0)))
  | .int value =>
      match host.floatOfInt value with
      | some value => .ok (some value)
      | none => .error (.crash "int too large to convert to float")
  | .float repr => .ok (host.float repr)
  | .str value => .ok (host.float value)
  | _ => .ok none

def roundMicros (seconds : Rat) : Nat :=
  let scaled := seconds * 1000000
  let below := scaled.floor.toNat
  let rest := scaled - scaled.floor
  if rest < 1 / 2 then below
  else if 1 / 2 < rest then below + 1
  else if below % 2 = 0 then below else below + 1

def clampWait : Float64 → Checked Nat
  | .nan => .error (.crash "cannot convert float NaN to integer")
  | .negInf => .ok 1000
  | .posInf => .ok 300000000
  | .finite seconds => .ok (roundMicros (min (max seconds (1 / 1000)) 300))

def extractWait (host : Host) (payload : Payload) : List String → Checked Nat
  | [] => .ok 1000000
  | key :: keys => do
      match ← floatOf host (payload.get key) with
      | some wait => clampWait wait
      | none => extractWait host payload keys

def extractWaitTime (payload : Payload) : Checked Nat :=
  extractWait host payload ["next_available_in_sec", "wait_time_sec", "retry_after_sec"]

def mirrorsBoundary (status : GatewayCommandStatus) : Bool :=
  status = gatewayStarted || status = preAckRecorded || status = brokerAccepted ||
    status = chejanConfirmed

/-- The status an event gives an order command whose boundary now has the given state. -/
def nextOrderStatus (currentStatus : String) (proposed : Option GatewayCommandStatus)
    (boundaryState : Option String) : Checked (Option GatewayCommandStatus) :=
  match proposed with
  | none => .ok none
  | some proposed =>
      match boundaryState with
      | some boundaryState =>
          if mirrorsBoundary proposed then
            match ofValue boundaryState with
            | some status => .ok (some status)
            | none => Checked.invalid (boundaryState ++ " is not a valid GatewayCommandStatus")
          else .ok (some (effectiveOrderCommandStatus currentStatus proposed))
      | none => .ok (some (effectiveOrderCommandStatus currentStatus proposed))

def keepsOnRateLimit (status : String) : Bool :=
  status = preAckRecorded.value || status = brokerAccepted.value ||
    status = chejanConfirmed.value || status = unconfirmed.value

def isRateLimited (eventType : String) : Bool :=
  Text.lower (Text.strip eventType) = "rate_limited"

/-- The boundary side of an event, and the status it gives the command. -/
def eventBoundary (command : Option CommandRow)
    (eventType : String) (payload : Payload) (eventId occurredAt : Option String)
    (now : Instant) : Checked (Option GatewayCommandStatus × Database) :=
  match command with
  | none => .ok (statusForCommandEvent eventType false, db)
  | some command =>
      if isOrderCommandType command.commandType then
        match recordOrderBrokerEvent host db command eventType payload eventId occurredAt now with
        | none => .error (.crash
            "UNIQUE constraint failed: gateway_order_broker_boundaries.idempotency_key")
        | some (boundaryState, written) => do
            let status ← nextOrderStatus command.status
              (statusForCommandEvent eventType true) boundaryState
            return (status, written)
      else .ok (statusForCommandEvent eventType false, db)

def appendCommandEvent (row : CommandEventRow) : Database :=
  { db with commandEvents := db.commandEvents ++ [row] }

def commandEventRow (commandId eventType : String) (nextStatus : Option GatewayCommandStatus)
    (payload : Payload) (createdAt : String) : CommandEventRow where
  commandId := commandId
  eventType := eventType
  status := nextStatus.map GatewayCommandStatus.value
  payloadJson := canonicalJson payload
  createdAt := createdAt

def updateCommand (commandId : String) (change : CommandRow → CommandRow)
    (keeps : ∀ row, (change row).commandId = row.commandId) : Database :=
  { db with commands := db.commands.update commandId change keeps }

def requeueCommand (commandId availableAt : String) : Database :=
  updateCommand db commandId
    (fun row =>
      { row with status := queued.value, availableAt := some availableAt, completedAt := none,
                 lastError := none })
    (fun _ => rfl)

def setCommandStatus (commandId : String) (status : GatewayCommandStatus)
    (completedAt lastError : Option String) : Database :=
  updateCommand db commandId
    (fun row =>
      { row with status := status.value, completedAt := completedAt.or row.completedAt,
                 lastError := lastError.or row.lastError })
    (fun _ => rfl)

def recordCommandEvent (commandId eventType : String)
    (payload : Payload) (eventId occurredAt : Option String) (now : Instant) :
    Checked (Option GatewayCommandStatus × Database) := do
  let command := db.commands.find? commandId
  let (nextStatus, written) ← eventBoundary host db command eventType payload eventId occurredAt
    now
  let lastError := if nextStatus = some failed then extractErrorMessage payload else none
  let time := occurredAtOr occurredAt now
  let logged := appendCommandEvent written
    (commandEventRow commandId eventType nextStatus payload time)
  if isRateLimited eventType then
    let currentStatus := (command.map CommandRow.status).getD ""
    let orderCommand := command.any fun row => isOrderCommandType row.commandType
    if orderCommand ∧ keepsOnRateLimit currentStatus then return (ofValue currentStatus, logged)
    else do
      let wait ← extractWaitTime host payload
      return (some queued, requeueCommand logged commandId (datetimeToWire (now + wait)))
  else
    match nextStatus with
    | none => return (none, logged)
    | some status =>
        return (some status, setCommandStatus logged commandId status
          (if status ∈ completedStatuses then some time else none) lastError)

/-! ## The staleness sweep -/

/-- A stored time that is there and not after the given one. -/
def reached (time : Option String) (limit : String) : Bool :=
  match time with
  | some time => time ≤ limit
  | none => false

def storedAsOrder : Bool :=
  row.commandType = "send_order" || row.commandType = "cancel_order"

variable (now : String)

def isExpiredQueued (row : CommandRow) : Bool :=
  row.status = queued.value && reached row.expiresAt now

def isTimedOutDispatched (cutoff : String) (row : CommandRow) : Bool :=
  row.status = dispatched.value && !storedAsOrder row && reached row.dispatchedAt cutoff

def isUnconfirmedOrder (cutoff : String) (row : CommandRow) : Bool :=
  (row.status = dispatched.value || row.status = claimed.value ||
      row.status = gatewayStarted.value || row.status = preAckRecorded.value) &&
    storedAsOrder row && reached row.dispatchedAt cutoff

def expireRow (row : CommandRow) : CommandRow :=
  { row with status := expired.value, completedAt := some now }

def failTimedOutRow (row : CommandRow) : CommandRow :=
  { row with
    status := failed.value
    completedAt := some now
    lastError := row.lastError.or
      (some "Gateway command dispatch timed out before ack/failure event.") }

def unconfirmRow : CommandRow :=
  { row with
    status := unconfirmed.value
    completedAt := none
    lastError := row.lastError.or
      (some "Gateway order dispatch timed out; reconciliation required.") }

theorem key_expireRow (row : CommandRow) :
    Keyed.key (expireRow now row) = Keyed.key row :=
  rfl

theorem key_failTimedOutRow (row : CommandRow) :
    Keyed.key (failTimedOutRow now row) = Keyed.key row :=
  rfl

theorem key_unconfirmRow : Keyed.key (unconfirmRow row) = Keyed.key row :=
  rfl

structure StaleCounts where
  expiredQueuedCount : Nat
  timedOutDispatchedCount : Nat
  unconfirmedOrderCount : Nat

def upsertGatewayStatus (key value : String) (now : Instant) : Database :=
  let row : GatewayStatusRow := { key := key, value := value, updatedAt := datetimeToWire now }
  match db.gatewayStatus.insert? row with
  | some gatewayStatus => { db with gatewayStatus := gatewayStatus }
  | none =>
      { db with
        gatewayStatus := db.gatewayStatus.update key
          (fun old => { row with key := old.key }) (fun _ => rfl) }

def upsertCommandQueueHealth (healthy : Bool) (now : Instant) : Database :=
  upsertGatewayStatus db "command_queue_healthy" (if healthy then "true" else "false") now

variable (commands : Table CommandRow)

def failStaleCommands (now cutoff : String) : Table CommandRow :=
  let expiredTable := commands.updateWhere (isExpiredQueued now) (expireRow now)
    (key_expireRow now)
  expiredTable.updateWhere (isTimedOutDispatched cutoff) (failTimedOutRow now)
    (key_failTimedOutRow now)

def staleOrderIds (cutoff : String) : List String :=
  (commands.rows.filter (isUnconfirmedOrder cutoff)).map CommandRow.commandId

def unconfirmStaleOrders (cutoff : String) : Table CommandRow :=
  commands.updateWhere (isUnconfirmedOrder cutoff) unconfirmRow key_unconfirmRow

def dispatchedCutoff (now : Instant) (dispatchedTimeoutSec : Int) : String :=
  datetimeToWire (now - (max dispatchedTimeoutSec 1).toNat * Time.microsPerSecond)

def expireStaleGatewayCommands (dispatchedTimeoutSec : Int)
    (now : Instant) : Option (StaleCounts × Database) :=
  let time := datetimeToWire now
  let cutoff := dispatchedCutoff now dispatchedTimeoutSec
  let counts : StaleCounts :=
    { expiredQueuedCount := db.commands.rows.countP (isExpiredQueued time)
      timedOutDispatchedCount := db.commands.rows.countP (isTimedOutDispatched cutoff)
      unconfirmedOrderCount := db.commands.rows.countP (isUnconfirmedOrder cutoff) }
  if counts.expiredQueuedCount = 0 ∧ counts.timedOutDispatchedCount = 0 ∧
      counts.unconfirmedOrderCount = 0 then
    some (counts, db)
  else do
    let failedTable := failStaleCommands db.commands time cutoff
    let marked ← markOrderCommandsUnconfirmed host
      { db with commands := unconfirmStaleOrders failedTable cutoff }
      (staleOrderIds failedTable cutoff) time
      "Gateway order command timed out before durable broker confirmation."
    return (counts, upsertCommandQueueHealth marked true now)

end SuseokTrader
