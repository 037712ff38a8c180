import SuseokTrader.Broker.Utils
import SuseokTrader.Lib.Run
import SuseokTrader.Lib.SingleWriter
import SuseokTrader.Lib.Table

/-!
# Leases of the runtime execution locks

A lock has at most one row, and its fence counts the leases it has given out.
A lease is taken, renewed, asserted and released by connections of any number
of processes, each in a transaction of its own or inside the one its caller has
open; a start clears what dead owners have left.
-/

namespace SuseokTrader

universe u

/-! ## Owners -/

/-- What `os.kill(process_id, 0)` says. -/
inductive SignalOutcome where
  | delivered
  | noSuchProcess
  | notPermitted
  | failed

structure Processes where
  self : Int
  threadAlive : Int → Bool
  signal : Int → SignalOutcome

def lockOwnerIsAlive (processes : Processes) (processId threadId : Int) : Bool :=
  if processId ≤ 0 then false
  else if processId = processes.self then threadId ≤ 0 || processes.threadAlive threadId
  else
    match processes.signal processId with
    | .delivered | .notPermitted => true
    | .noSuchProcess | .failed => false

/-! ## Rows -/

structure LockRow where
  lockName : String
  ownerId : String
  acquiredAt : String
  expiresAt : String
  processId : Int
  threadId : Int
  heartbeatAt : String
  fencingToken : Nat
  detailJson : String

instance : Keyed LockRow String := ⟨LockRow.lockName⟩

structure FenceRow where
  lockName : String
  lastFencingToken : Nat
  updatedAt : String

instance : Keyed FenceRow String := ⟨FenceRow.lockName⟩

structure LockStore where
  locks : Table LockRow
  fences : Table FenceRow

structure Lease where
  lockName : String
  ownerId : String
  fencingToken : Nat
  ttlSec : Nat
deriving DecidableEq

/-- What `runtime_execution_lock` asks for. -/
structure LockRequest where
  lockName : String
  ownerId : String
  processId : Int
  threadId : Int
  ttlSec : Nat
  detailJson : String

inductive LockFailure where
  | databaseLocked
  | evaluationRunLock (row : LockRow) (reason : String)
  | evaluationRunFence (lease : Lease) (current : Option LockRow)
  | timestamp (failure : Failure)

/-- Whether the row is the one the lease was given out with. -/
def Lease.holds (lease : Lease) (row : LockRow) : Bool :=
  row.lockName = lease.lockName ∧ row.ownerId = lease.ownerId ∧
    row.fencingToken = lease.fencingToken

/-! ## Statements -/

namespace LockStore

def empty : LockStore :=
  ⟨Table.empty, Table.empty⟩

def lastFencingToken (store : LockStore) (lockName : String) : Nat :=
  (store.fences.find? lockName).elim 0 FenceRow.lastFencingToken

variable (store : LockStore)

def nextFencingToken (lockName : String) (now : Instant) : LockStore × Nat :=
  let token := store.lastFencingToken lockName + 1
  ({ store with fences := store.fences.upsert ⟨lockName, token, datetimeToWire now⟩ }, token)

def rowExpired (row : LockRow) (now : Instant) : Except LockFailure Bool :=
  match parseTimestamp (.str row.expiresAt) "expires_at" with
  | .ok expiresAt => .ok (expiresAt ≤ now)
  | .error failure => .error (.timestamp failure)

def expiry (now : Instant) (ttlSec : Nat) : String :=
  datetimeToWire (now + ttlSec * Time.microsPerSecond)

/-- The row of another owner is in the way unless it has expired and its owner is gone. -/
def checkAvailable (lockName : String) (now : Instant)
    (processes : Processes) : Except LockFailure Unit :=
  match store.locks.find? lockName with
  | none => .ok ()
  | some row => do
      let expired ← rowExpired row now
      let ownerAlive := lockOwnerIsAlive processes row.processId row.threadId
      if !expired || ownerAlive then
        .error (.evaluationRunLock row
          (if expired then "OWNER_ALIVE_AFTER_TTL" else "LEASE_ACTIVE"))
      else .ok ()

def acquireLock (request : LockRequest) (now : Instant)
    (processes : Processes) : Except LockFailure (LockStore × Lease) := do
  store.checkAvailable request.lockName now processes
  let (fenced, token) := store.nextFencingToken request.lockName now
  return ({ fenced with
    locks := fenced.locks.upsert
      { lockName := request.lockName
        ownerId := request.ownerId
        acquiredAt := datetimeToWire now
        expiresAt := expiry now request.ttlSec
        processId := request.processId
        threadId := request.threadId
        heartbeatAt := datetimeToWire now
        fencingToken := token
        detailJson := request.detailJson } },
    ⟨request.lockName, request.ownerId, token, request.ttlSec⟩)

def fenceError {α : Type} (store : LockStore) (lease : Lease) : Except LockFailure α :=
  .error (.evaluationRunFence lease (store.locks.find? lease.lockName))

variable (now : Instant)

theorem key_heartbeat (ttlSec : Nat) (row : LockRow) :
    Keyed.key { row with
      heartbeatAt := datetimeToWire now, expiresAt := expiry now ttlSec } =
        Keyed.key row :=
  rfl

def renewLock (lease : Lease) (now : Instant) :
    Except LockFailure LockStore :=
  if store.locks.rows.any lease.holds then
    .ok { store with
      locks := store.locks.updateWhere lease.holds
        (fun row => { row with
          heartbeatAt := datetimeToWire now, expiresAt := expiry now lease.ttlSec })
        (key_heartbeat now lease.ttlSec) }
  else fenceError store lease

def assertLockRowMatches (lease : Lease) : Except LockFailure Unit :=
  if store.locks.rows.any lease.holds then .ok () else fenceError store lease

def releaseLock (lease : Lease) : LockStore :=
  { store with locks := store.locks.deleteWhere lease.holds }

/-- The rows a start deletes: those of its own process number, and the expired ones without an
owner. -/
def clearRow (processes : Processes) (processId : Int) (row : LockRow) :
    Except LockFailure Bool := do
  let expired ← rowExpired row now
  let selfOwned := 0 < row.processId && row.processId = processId
  return selfOwned || (expired && !lockOwnerIsAlive processes row.processId row.threadId)

def clearLocks (processes : Processes) (processId : Int) :
    Except LockFailure (LockStore × Nat) :=
  store.locks.rows.foldlM (fun (cleared, deletedCount) row => do
    if ← clearRow now processes processId row then
      return (cleared.releaseLock ⟨row.lockName, row.ownerId, row.fencingToken, 0⟩,
        deletedCount + 1)
    else return (cleared, deletedCount)) (store, 0)

end LockStore

/-! ## Transactions -/

inductive LeaseNote where
  | acquired (lease : Lease)
  | asserted (lease : Lease)
deriving DecidableEq

inductive LockReply where
  | leased (lease : Lease)
  | entered
  | renewed
  | current
  | released
  | cleared (deletedCount : Nat)
  | ended

abbrev LockDatabase (Connection : Type u) :=
  SharedDatabase Connection LockStore LeaseNote

namespace LockDatabase

variable {Connection : Type u} [DecidableEq Connection]

variable (database : LockDatabase Connection) (connection : Connection)

def change (store : LockStore)
    (notes : List LeaseNote) (reply : LockReply) :
    LockDatabase Connection × Except LockFailure LockReply :=
  if database.canWrite connection then (database.write connection store notes, .ok reply)
  else (database, .error .databaseLocked)

/-- A call joins the transaction of its caller. Without one it runs in its own, which it commits,
or rolls back when it raises. -/
def withTransaction
    (body : LockDatabase Connection → LockDatabase Connection × Except LockFailure LockReply) :
    LockDatabase Connection × Except LockFailure LockReply :=
  if (database.transactions connection).isSome then body database
  else if database.writer.isSome then (database, .error .databaseLocked)
  else
    match body (database.begin connection true) with
    | (after, .ok reply) => (after.commit connection, .ok reply)
    | (after, .error failure) => (after.rollback connection, .error failure)

def acquire (request : LockRequest) (now : Instant)
    (processes : Processes) (database : LockDatabase Connection) :
    LockDatabase Connection × Except LockFailure LockReply :=
  match (database.view connection).acquireLock request now processes with
  | .ok (store, lease) => database.change connection store [.acquired lease] (.leased lease)
  | .error failure => (database, .error failure)

def renew (lease : Lease) (now : Instant)
    (database : LockDatabase Connection) :
    LockDatabase Connection × Except LockFailure LockReply :=
  match (database.view connection).renewLock lease now with
  | .ok store => database.change connection store [.asserted lease] .renewed
  | .error failure => (database, .error failure)

def assertMatches (lease : Lease) : LockDatabase Connection × Except LockFailure LockReply :=
  match (database.view connection).assertLockRowMatches lease with
  | .ok () => (database.note connection [.asserted lease], .ok .current)
  | .error failure => (database, .error failure)

def release (lease : Lease) (database : LockDatabase Connection) :
    LockDatabase Connection × Except LockFailure LockReply :=
  database.change connection ((database.view connection).releaseLock lease) [] .released

def clear (now : Instant) (processes : Processes) (processId : Int)
    (database : LockDatabase Connection) :
    LockDatabase Connection × Except LockFailure LockReply :=
  match (database.view connection).clearLocks now processes processId with
  | .ok (store, deletedCount) => database.change connection store [] (.cleared deletedCount)
  | .error failure => (database, .error failure)

def assertRuntimeExecutionFence (lease : Option Lease) (now : Instant)
    (database : LockDatabase Connection) :
    LockDatabase Connection × Except LockFailure LockReply :=
  match lease with
  | none => (database, .ok .entered)
  | some lease => database.renew connection lease now

/-- `immediate_transaction` up to its body. -/
def enterImmediate (lease : Option Lease) (now : Instant) :
    LockDatabase Connection × Except LockFailure LockReply :=
  if (database.transactions connection).isSome then
    database.assertRuntimeExecutionFence connection lease now
  else if database.writer.isSome then (database, .error .databaseLocked)
  else
    match assertRuntimeExecutionFence connection lease now (database.begin connection true) with
    | (after, .ok reply) => (after, .ok reply)
    | (after, .error failure) => (after.rollback connection, .error failure)

end LockDatabase

/-! ## The system -/

structure LeaseState (Connection : Type u) where
  database : LockDatabase Connection
  handedOut : List Lease

/-- One call of a connection. A write is one to any other table. -/
inductive LockOp (Connection : Type u) where
  | begin (connection : Connection) (immediate : Bool)
  | acquire (connection : Connection) (request : LockRequest) (now : Instant)
      (processes : Processes)
  | renew (connection : Connection) (lease : Lease) (now : Instant)
  | assertMatches (connection : Connection) (lease : Lease)
  | enterImmediate (connection : Connection) (lease : Option Lease) (now : Instant)
  | release (connection : Connection) (lease : Lease)
  | clear (connection : Connection) (now : Instant) (processes : Processes) (processId : Int)
  | write (connection : Connection)
  | commit (connection : Connection)
  | rollback (connection : Connection)

variable {Connection : Type u} [DecidableEq Connection]

def lockStep (database : LockDatabase Connection) :
    LockOp Connection → LockDatabase Connection × Except LockFailure LockReply
  | .begin connection immediate => (database.begin connection immediate, .ok .entered)
  | .acquire connection request now processes =>
      database.withTransaction connection (LockDatabase.acquire connection request now processes)
  | .renew connection lease now =>
      database.withTransaction connection (LockDatabase.renew connection lease now)
  | .assertMatches connection lease => database.assertMatches connection lease
  | .enterImmediate connection lease now => database.enterImmediate connection lease now
  | .release connection lease =>
      database.withTransaction connection (LockDatabase.release connection lease)
  | .clear connection now processes processId =>
      database.withTransaction connection
        (LockDatabase.clear connection now processes processId)
  | .write connection =>
      (database.write connection (database.view connection) [], .ok .ended)
  | .commit connection => (database.commit connection, .ok .ended)
  | .rollback connection => (database.rollback connection, .ok .ended)

def leaseSystem (Connection : Type u) [DecidableEq Connection] :
    System (LeaseState Connection) (LockOp Connection) (Except LockFailure LockReply) where
  step state op :=
    let (database, reply) := lockStep state.database op
    ({ database := database
       handedOut := match reply with
        | .ok (.leased lease) => lease :: state.handedOut
        | _ => state.handedOut },
      reply)

def LeaseState.initial (Connection : Type u) : LeaseState Connection :=
  ⟨SharedDatabase.initial LockStore.empty, []⟩

end SuseokTrader
