import SuseokTrader.Gateway.CommandStore
import SuseokTrader.Gateway.RoutingStatus
import SuseokTrader.Lib.Run

/-!
# Dispatch

A poll sweeps the store and then dispatches. The dispatcher looks without a
lock whether there is anything to do, and only then opens a write transaction,
in which it asks the fence again, expires, selects a batch and claims it row by
row. A claim that fails rolls the whole transaction back.

The store as a system of its four operations is at the end of the file.
-/

namespace SuseokTrader

open GatewayCommandStatus

/-! ## Selection -/

/-- The stored availability time has come. -/
def isAvailable (now : String) (row : CommandRow) : Bool :=
  row.availableAt.all fun availableAt => availableAt ≤ now

/-- The stored expiry time has not come. -/
def isUnexpired (now : String) (row : CommandRow) : Bool :=
  row.expiresAt.all fun expiresAt => now < expiresAt

def isReady (now : String) (orderRoutingBlocked : Bool) (row : CommandRow) : Bool :=
  row.status = queued.value && isAvailable now row && isUnexpired now row &&
    (!orderRoutingBlocked || Text.lower row.commandType ≠ "send_order")

def dispatchPriority (row : CommandRow) : Nat :=
  if storedAsOrder row then 0
  else if row.commandType = "register_realtime" ∨ row.commandType = "request_tr" then 2
  else 1

def inDispatchOrder (left right : CommandRow) : Bool :=
  dispatchPriority left < dispatchPriority right ||
    (dispatchPriority left = dispatchPriority right &&
      (left.createdAt < right.createdAt ||
        (left.createdAt = right.createdAt && left.commandId ≤ right.commandId)))

def selectReady (commands : Table CommandRow) (now : String) (orderRoutingBlocked : Bool)
    (limit : Nat) : List CommandRow :=
  ((commands.rows.filter (isReady now orderRoutingBlocked)).insertionSort
    fun left right => inDispatchOrder left right).take limit

/-! ## The transaction -/

def claimedStatus (row : CommandRow) : GatewayCommandStatus :=
  if isOrderCommandType row.commandType then claimed else dispatched

def claimCommandRow (status : GatewayCommandStatus) (now : String) (row : CommandRow) :
    CommandRow :=
  { row with status := status.value, dispatchedAt := some now, attempts := row.attempts + 1 }

variable (status : GatewayCommandStatus) (now : String) (row : CommandRow)

@[simp]
theorem commandType_claimCommandRow : (claimCommandRow status now row).commandType = row.commandType :=
  rfl

@[simp]
theorem idempotencyKey_claimCommandRow :
    (claimCommandRow status now row).idempotencyKey = row.idempotencyKey :=
  rfl

theorem key_claimCommandRow :
    Keyed.key (claimCommandRow status now row) = Keyed.key row :=
  rfl

theorem key_claimCommandRow_claimed (now : String) (stored : CommandRow) :
    Keyed.key (claimCommandRow (claimedStatus row) now stored) = Keyed.key stored :=
  key_claimCommandRow _ _ _

variable (host : Host)

/-- One selected row marked as dispatched, and its boundary where it is an order. -/
def claimCommand (now : String) (db : Database) (row : CommandRow) :
    Option Database :=
  let updated := { db with
    commands := db.commands.updateWhere
      (fun stored => stored.commandId = row.commandId && stored.status = queued.value)
      (claimCommandRow (claimedStatus row) now) (key_claimCommandRow_claimed row now) }
  if isOrderCommandType row.commandType then
    (recordOrderCommandClaim host updated { row with attempts := row.attempts + 1 } now).map
      Prod.snd
  else some updated

def expireQueued (commands : Table CommandRow) (now : String) : Table CommandRow :=
  commands.updateWhere (isExpiredQueued now) (expireRow now) (key_expireRow now)

structure DispatchReadings where
  precheck : Instant
  precheckFence : Instant
  fence : Instant
  claim : Instant

variable (db : Database)

/-- The write transaction of a dispatch: the claimed batch and the database after it. -/
def dispatchTransaction (limit : Nat) (fence claim : Instant) :
    Option (List CommandRow × Database) := do
  let blocked := orderRoutingBlocked host db fence
  let now := datetimeToWire claim
  let swept := { db with commands := expireQueued db.commands now }
  let rows := selectReady swept.commands now blocked limit
  let written ← rows.foldlM (claimCommand host now) swept
  return (rows, written)

/-- The look without a lock: something has expired, or something may be dispatched. -/
def dispatchPrecheck (precheck precheckFence : Instant) : Bool :=
  let now := datetimeToWire precheck
  let hasExpiredQueued := db.commands.rows.any (isExpiredQueued now)
  if hasExpiredQueued || db.commands.rows.any (isReady now false) then
    hasExpiredQueued ||
      db.commands.rows.any (isReady now (orderRoutingBlocked host db precheckFence))
  else false

def dispatchReadyCommands (limit : Nat)
    (readings : DispatchReadings) : Option (List CommandRow × Database) :=
  if dispatchPrecheck host db readings.precheck readings.precheckFence then
    dispatchTransaction host db limit readings.fence readings.claim
  else some ([], db)

/-- The command a dispatched row is returned as. -/
def rowToGatewayCommand (row : CommandRow) : Checked GatewayCommand := do
  let payload ← match Json.loads host.floatRepr row.payloadJson with
    | none => Checked.invalid "payload_json is not JSON"
    | some payload => normalizePayload payload
  let payload := match row.expiresAt with
    | none => payload
    | some expiresAt =>
        if payload.has "_gateway_command_expires_at" then payload
        else Json.setField "_gateway_command_expires_at" (.str expiresAt) payload
  let ts ← parseTimestamp (.str row.createdAt) "created_at"
  GatewayCommand.make row.commandId row.commandType row.source ts payload row.idempotencyKey

/-! ## The store as a system -/

/-- One operation on the store, with the clock readings it takes. -/
inductive StoreOp where
  | enqueue (command : GatewayCommand) (expiresAt : Option Instant) (now : Instant)
  | sweep (dispatchedTimeoutSec : Int) (now : Instant)
  | dispatch (limit : Nat) (readings : DispatchReadings)
  | event (commandId eventType : String) (payload : Payload) (eventId occurredAt : Option String)
      (now : Instant)

/-- The database after an operation and the rows a dispatch returns. An operation that raises
leaves the database unchanged and returns nothing. -/
def storeStep : StoreOp → Database × List CommandRow
  | .enqueue command expiresAt now =>
      match enqueueCommand host db command expiresAt now with
      | .ok (_, written) => (written, [])
      | .error _ => (db, [])
  | .sweep dispatchedTimeoutSec now =>
      match expireStaleGatewayCommands host db dispatchedTimeoutSec now with
      | some (_, written) => (written, [])
      | none => (db, [])
  | .dispatch limit readings =>
      match dispatchReadyCommands host db limit readings with
      | some (rows, written) => (written, rows)
      | none => (db, [])
  | .event commandId eventType payload eventId occurredAt now =>
      match recordCommandEvent host db commandId eventType payload eventId occurredAt now with
      | .ok (_, written) => (written, [])
      | .error _ => (db, [])

/-- The command store under any sequence of operations. -/
def store : System Database StoreOp (List CommandRow) where
  step := storeStep host

/-! ## Polling -/

inductive PollRound where
  | locked
  | clear (sweep : Instant) (readings : DispatchReadings)

def boundedLimit (limit : Int) : Nat :=
  (min (max limit 1) 100).toNat

/-- A poll repeats its rounds until one dispatches something or the deadline passes. -/
def pollCommands (host : Host) (limit : Int) (db : Database) :
    List PollRound → Option (List CommandRow × Database)
  | [] => some ([], db)
  | .locked :: rounds => pollCommands host limit db rounds
  | .clear sweep readings :: rounds => do
      let (_, swept) ← expireStaleGatewayCommands host db defaultDispatchTimeoutSec sweep
      let (rows, written) ← dispatchReadyCommands host swept (boundedLimit limit) readings
      if rows = [] then pollCommands host limit written rounds else some (rows, written)

end SuseokTrader
