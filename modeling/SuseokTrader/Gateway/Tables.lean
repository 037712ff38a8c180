import SuseokTrader.Lib.Table
import SuseokTrader.Broker.Utils

/-!
# The tables of the gateway store

Command statuses, boundary states and the rows of every table that the command
store, the broker boundary and the operator ledgers read or write. A TEXT
column holds any text: that a status is one of the thirteen is a fact about
the states the store reaches, not about its type.
-/

namespace SuseokTrader

inductive GatewayCommandStatus where
  | queued
  | dispatched
  | claimed
  | gatewayStarted
  | preAckRecorded
  | brokerAccepted
  | chejanConfirmed
  | unconfirmed
  | acked
  | rejected
  | failed
  | expired
  | cancelled
  deriving DecidableEq

namespace GatewayCommandStatus

def value : GatewayCommandStatus → String
  | queued => "QUEUED"
  | dispatched => "DISPATCHED"
  | claimed => "CLAIMED"
  | gatewayStarted => "GATEWAY_STARTED"
  | preAckRecorded => "PRE_ACK_RECORDED"
  | brokerAccepted => "BROKER_ACCEPTED"
  | chejanConfirmed => "CHEJAN_CONFIRMED"
  | unconfirmed => "UNCONFIRMED"
  | acked => "ACKED"
  | rejected => "REJECTED"
  | failed => "FAILED"
  | expired => "EXPIRED"
  | cancelled => "CANCELLED"

def all : List GatewayCommandStatus :=
  [queued, dispatched, claimed, gatewayStarted, preAckRecorded, brokerAccepted, chejanConfirmed,
    unconfirmed, acked, rejected, failed, expired, cancelled]

def ofValue (text : String) : Option GatewayCommandStatus :=
  all.find? fun status => status.value = text

theorem value_injective {left right : GatewayCommandStatus} (same : left.value = right.value) :
    left = right := by
  cases left <;> cases right <;> first | rfl | (exact absurd same (by decide))

@[simp]
theorem value_inj {left right : GatewayCommandStatus} :
    left.value = right.value ↔ left = right :=
  ⟨value_injective, congrArg value⟩

@[simp]
theorem ofValue_value (status : GatewayCommandStatus) : ofValue status.value = some status := by
  cases status <;> decide

end GatewayCommandStatus

/-- The states of the broker boundary of an order command. -/
inductive OrderBrokerBoundaryState where
  | claimed
  | gatewayStarted
  | preAckRecorded
  | unconfirmed
  | brokerAccepted
  | chejanConfirmed
  deriving DecidableEq

namespace OrderBrokerBoundaryState

def value : OrderBrokerBoundaryState → String
  | claimed => "CLAIMED"
  | gatewayStarted => "GATEWAY_STARTED"
  | preAckRecorded => "PRE_ACK_RECORDED"
  | unconfirmed => "UNCONFIRMED"
  | brokerAccepted => "BROKER_ACCEPTED"
  | chejanConfirmed => "CHEJAN_CONFIRMED"

def all : List OrderBrokerBoundaryState :=
  [claimed, gatewayStarted, preAckRecorded, unconfirmed, brokerAccepted, chejanConfirmed]

theorem value_injective {left right : OrderBrokerBoundaryState}
    (same : left.value = right.value) : left = right := by
  cases left <;> cases right <;> first | rfl | (exact absurd same (by decide))

@[simp]
theorem value_inj {left right : OrderBrokerBoundaryState} :
    left.value = right.value ↔ left = right :=
  ⟨value_injective, congrArg value⟩

@[simp]
theorem upper_value (state : OrderBrokerBoundaryState) : Text.upper state.value = state.value := by
  cases state <;> decide

def toStatus : OrderBrokerBoundaryState → GatewayCommandStatus
  | claimed => .claimed
  | gatewayStarted => .gatewayStarted
  | preAckRecorded => .preAckRecorded
  | unconfirmed => .unconfirmed
  | brokerAccepted => .brokerAccepted
  | chejanConfirmed => .chejanConfirmed

@[simp]
theorem value_toStatus (state : OrderBrokerBoundaryState) : state.toStatus.value = state.value := by
  cases state <;> rfl

end OrderBrokerBoundaryState

/-! ## Rows -/

structure CommandRow where
  commandId : String
  commandType : String
  source : String
  status : String
  idempotencyKey : Option String
  payloadJson : String
  payloadHash : String
  createdAt : String
  availableAt : Option String
  dispatchedAt : Option String
  completedAt : Option String
  expiresAt : Option String
  attempts : Int
  lastError : Option String

instance : Keyed CommandRow String := ⟨CommandRow.commandId⟩

structure CommandEventRow where
  commandId : String
  eventType : String
  status : Option String
  payloadJson : String
  createdAt : String

structure DedupeKeyRow where
  idempotencyKey : String
  commandId : String
  commandType : String
  createdAt : String
  retainedUntil : Option String

instance : Keyed DedupeKeyRow String := ⟨DedupeKeyRow.idempotencyKey⟩

structure BoundaryRow where
  commandId : String
  idempotencyKey : Option String
  commandType : String
  source : String
  state : String
  attempts : Int
  accountId : Option String
  code : Option String
  side : Option String
  brokerOrderNo : Option String
  brokerResultCode : Option String
  brokerMessage : Option String
  claimedAt : Option String
  gatewayStartedAt : Option String
  preAckRecordedAt : Option String
  brokerAcceptedAt : Option String
  chejanConfirmedAt : Option String
  unconfirmedAt : Option String
  lastEventId : Option String
  preAckPayloadJson : String
  latestPayloadJson : String
  createdAt : String
  updatedAt : String
  liveSimOnly : Int
  liveRealAllowed : Int

instance : Keyed BoundaryRow String := ⟨BoundaryRow.commandId⟩

structure ResolutionRow where
  resolutionId : String
  requestId : String
  requestHash : String
  commandId : String
  sequenceNo : Int
  action : String
  resolutionType : String
  supersedesResolutionId : Option String
  reasonCode : String
  evidenceType : String
  evidenceRef : String
  evidenceSha256 : String
  operatorId : String
  sourceBoundaryFingerprint : String
  sourceBoundaryUpdatedAt : String
  boundarySnapshotJson : String
  createdAt : String
  liveSimOnly : Int
  liveRealAllowed : Int
  routingFenceActive : Int

instance : Keyed ResolutionRow String := ⟨ResolutionRow.resolutionId⟩

structure FenceEventRow where
  fenceEventId : String
  requestId : String
  requestHash : String
  commandId : String
  commandAlias : String
  sequenceNo : Int
  action : String
  supersedesFenceEventId : Option String
  resolutionId : String
  resolutionRequestHash : String
  sourceBoundaryFingerprint : String
  approvalId : String
  approvalTradeDate : String
  approvalSha256 : String
  evidenceSha256 : String
  databaseIdentitySha256 : String
  expectedAppName : String
  expectedSchemaVersion : Int
  expectedGatewayCommandTotalCount : Int
  expectedOrderCommandCount : Int
  expectedGatewayCommandStateFingerprint : String
  reasonCode : String
  operatorId : String
  createdAt : String
  liveSimOnly : Int
  liveRealAllowed : Int

instance : Keyed FenceEventRow String := ⟨FenceEventRow.fenceEventId⟩

structure RawEventRow where
  eventId : String
  eventType : String
  source : String
  commandId : Option String
  idempotencyKey : Option String
  eventTs : String
  receivedAt : String
  payloadJson : String
  payloadHash : String
  duplicateCount : Int

instance : Keyed RawEventRow String := ⟨RawEventRow.eventId⟩

structure GatewayEventRow where
  eventId : String
  eventType : String
  source : String
  commandId : Option String
  idempotencyKey : Option String
  eventTs : String
  receivedAt : String
  payloadJson : String
  status : String
  errorMessage : Option String

instance : Keyed GatewayEventRow String := ⟨GatewayEventRow.eventId⟩

structure GatewayStatusRow where
  key : String
  value : String
  updatedAt : String

instance : Keyed GatewayStatusRow String := ⟨GatewayStatusRow.key⟩

structure LiveSimOrderRow where
  liveSimOrderId : String
  gatewayCommandId : Option String
  brokerOrderNo : Option String
  brokerResultCode : Option String
  brokerAckedAt : Option String
  filledQuantity : Int
  status : String
  liveSimOnly : Int
  liveRealAllowed : Int

instance : Keyed LiveSimOrderRow String := ⟨LiveSimOrderRow.liveSimOrderId⟩

structure LiveSimIntentRow where
  liveSimIntentId : String
  gatewayCommandId : Option String
  brokerOrderSent : Int
  liveSimOnly : Int
  liveRealAllowed : Int

instance : Keyed LiveSimIntentRow String := ⟨LiveSimIntentRow.liveSimIntentId⟩

structure LiveSimExecutionRow where
  liveSimExecutionId : String
  liveSimOrderId : Option String
  liveSimIntentId : Option String

instance : Keyed LiveSimExecutionRow String := ⟨LiveSimExecutionRow.liveSimExecutionId⟩

/-! ## The database -/

structure LedgerSchema where
  tableExists : Bool
  requiredColumnsPresent : Bool
  requiredIndexesPresent : Bool
  appendOnlyTriggersPresent : Bool
  constraintsPresent : Bool

def LedgerSchema.ready (schema : LedgerSchema) : Bool :=
  schema.tableExists && schema.requiredColumnsPresent && schema.requiredIndexesPresent &&
    schema.appendOnlyTriggersPresent && schema.constraintsPresent

/-- The schema of the database file: tables with their columns, indexes, ledger contracts. -/
structure Catalog where
  tables : List (String × List String)
  indexes : List String
  resolutionSchema : LedgerSchema
  fenceEventSchema : LedgerSchema

structure Database where
  commands : Table CommandRow
  dedupeKeys : Table DedupeKeyRow
  commandEvents : List CommandEventRow
  boundaries : Table BoundaryRow
  resolutions : Table ResolutionRow
  fenceEvents : Table FenceEventRow
  rawEvents : Table RawEventRow
  gatewayEvents : Table GatewayEventRow
  gatewayStatus : Table GatewayStatusRow
  liveSimOrders : Table LiveSimOrderRow
  liveSimIntents : Table LiveSimIntentRow
  liveSimExecutions : Table LiveSimExecutionRow
  /-- The number of rows of `runtime_execution_locks`: the store only counts them. -/
  runtimeExecutionLocks : Nat
  /-- Keys and values of `app_metadata`. -/
  appMetadata : List (String × String)
  catalog : Catalog

namespace Database

/-- A database without rows. -/
def empty (catalog : Catalog) (appMetadata : List (String × String)) : Database where
  commands := .empty
  dedupeKeys := .empty
  commandEvents := []
  boundaries := .empty
  resolutions := .empty
  fenceEvents := .empty
  rawEvents := .empty
  gatewayEvents := .empty
  gatewayStatus := .empty
  liveSimOrders := .empty
  liveSimIntents := .empty
  liveSimExecutions := .empty
  runtimeExecutionLocks := 0
  appMetadata := appMetadata
  catalog := catalog

end Database

/-- The text of an order command's type is `send_order` or `cancel_order` in any case. -/
def isOrderCommandType (commandType : String) : Bool :=
  Text.lower (Text.strip commandType) = "send_order" ||
    Text.lower (Text.strip commandType) = "cancel_order"

end SuseokTrader
