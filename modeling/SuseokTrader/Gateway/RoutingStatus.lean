import SuseokTrader.Gateway.Projection

/-!
# The order-routing fence

`get_order_broker_boundary_status` counts what disagrees between the command
table, the boundary table and the two ledgers, and decides from the counts
whether a new order may be routed. The boundaries that have a resolution are
visited one by one; an effective resolution takes its row out of the count of
unconfirmed boundaries.
-/

namespace SuseokTrader

open OrderBrokerBoundaryState

/-! ## Counts -/

def isSqlOrderType (commandType : String) : Bool :=
  Text.lower commandType = "send_order" || Text.lower commandType = "cancel_order"

def isSqlOrderOrModifyType (commandType : String) : Bool :=
  isSqlOrderType commandType || Text.lower commandType = "modify_order"

def expectsBoundary (row : CommandRow) : Bool :=
  isSqlOrderType row.commandType &&
    (row.dispatchedAt.isSome ||
      ["CLAIMED", "GATEWAY_STARTED", "PRE_ACK_RECORDED", "BROKER_ACCEPTED", "CHEJAN_CONFIRMED",
        "UNCONFIRMED", "DISPATCHED", "ACKED"].contains row.status)

def isActiveOrder (row : CommandRow) : Bool :=
  isSqlOrderOrModifyType row.commandType &&
    ["QUEUED", "CLAIMED", "DISPATCHED", "GATEWAY_STARTED", "PRE_ACK_RECORDED"].contains
      (Text.upper row.status)

def hasUnknownStatus (row : CommandRow) : Bool :=
  isSqlOrderOrModifyType row.commandType &&
    (GatewayCommandStatus.ofValue (Text.upper row.status)).isNone

def mirroredState (status : String) : Option String :=
  let status := Text.upper status
  if status = "DISPATCHED" then some claimed.value
  else if status = "ACKED" then some brokerAccepted.value
  else if all.any fun state => state.value = status then some status
  else none

def isMismatch (command : CommandRow) (boundary : BoundaryRow) : Bool :=
  match mirroredState command.status with
  | some state => state ≠ Text.upper boundary.state
  | none => false

variable (db : Database)

def isMissingBoundary (command : CommandRow) : Bool :=
  expectsBoundary command && (db.boundaries.find? command.commandId).isNone

def isDurablePreAckGap (boundary : BoundaryRow) : Bool :=
  boundary.preAckRecordedAt.isNone &&
    ([preAckRecorded.value, brokerAccepted.value, chejanConfirmed.value].contains
        boundary.state ||
      (db.commands.find? boundary.commandId).any fun command =>
        ["PRE_ACK_RECORDED", "BROKER_ACCEPTED", "CHEJAN_CONFIRMED", "ACKED"].contains
          (Text.upper command.status))

def commandSatisfies (boundary : BoundaryRow)
    (condition : CommandRow → Bool) : Bool :=
  (db.commands.find? boundary.commandId).any condition

structure BoundaryCounts where
  orderCommandCount : Nat
  activeOrderCommandCount : Nat
  unknownCommandStatusCount : Nat
  expectedBoundaryCount : Nat
  boundaryCount : Nat
  missingBoundaryCount : Nat
  durablePreAckCount : Nat
  durablePreAckGapCount : Nat
  duplicateIdempotencyCount : Nat
  commandStateMismatchCount : Nat
  unknownStateCount : Nat
  orphanBoundaryCount : Nat
  unexpectedBoundaryCount : Nat
  linkedCommandTypeInvalidCount : Nat
  linkedCommandTypeMismatchCount : Nat
  invalidCommandTypeCount : Nat
  invalidScopeCount : Nat

def duplicateKeyCount (boundaries : List BoundaryRow) : Nat :=
  let keys := boundaries.filterMap BoundaryRow.idempotencyKey
  keys.eraseDups.countP fun key => 1 < keys.count key

def boundaryCounts : BoundaryCounts where
  orderCommandCount := db.commands.rows.countP fun row => isSqlOrderType row.commandType
  activeOrderCommandCount := db.commands.rows.countP isActiveOrder
  unknownCommandStatusCount := db.commands.rows.countP hasUnknownStatus
  expectedBoundaryCount := db.commands.rows.countP expectsBoundary
  boundaryCount := db.boundaries.rows.length
  missingBoundaryCount := db.commands.rows.countP (isMissingBoundary db)
  durablePreAckCount := db.boundaries.rows.countP fun row => row.preAckRecordedAt.isSome
  durablePreAckGapCount := db.boundaries.rows.countP (isDurablePreAckGap db)
  duplicateIdempotencyCount := duplicateKeyCount db.boundaries.rows
  commandStateMismatchCount := db.boundaries.rows.countP fun row =>
    commandSatisfies db row fun command => isMismatch command row
  unknownStateCount := db.boundaries.rows.countP fun row =>
    !(all.any fun state => state.value = row.state)
  orphanBoundaryCount := db.boundaries.rows.countP fun row =>
    (db.commands.find? row.commandId).isNone
  unexpectedBoundaryCount := db.boundaries.rows.countP fun row =>
    !commandSatisfies db row expectsBoundary
  linkedCommandTypeInvalidCount := db.boundaries.rows.countP fun row =>
    commandSatisfies db row fun command => !isSqlOrderType command.commandType
  linkedCommandTypeMismatchCount := db.boundaries.rows.countP fun row =>
    commandSatisfies db row fun command =>
      Text.lower row.commandType ≠ Text.lower command.commandType
  invalidCommandTypeCount := db.boundaries.rows.countP fun row =>
    !isSqlOrderType row.commandType
  invalidScopeCount := db.boundaries.rows.countP fun row =>
    isUnsafeScope row.liveSimOnly row.liveRealAllowed

/-- The codes of the counts that are not zero. -/
def countReasonCodes (counts : BoundaryCounts) : List String :=
  evidenceCodes [
    ("ORDER_BROKER_BOUNDARY_ROW_MISSING", counts.missingBoundaryCount),
    ("DURABLE_PRE_ACK_GAP", counts.durablePreAckGapCount),
    ("ORDER_BOUNDARY_IDEMPOTENCY_DUPLICATE", counts.duplicateIdempotencyCount),
    ("ORDER_COMMAND_BOUNDARY_STATE_MISMATCH", counts.commandStateMismatchCount),
    ("ORDER_BROKER_BOUNDARY_STATE_INVALID", counts.unknownStateCount),
    ("ORDER_BROKER_BOUNDARY_ORPHAN", counts.orphanBoundaryCount),
    ("ORDER_BROKER_BOUNDARY_UNEXPECTED", counts.unexpectedBoundaryCount),
    ("ORDER_BOUNDARY_LINKED_COMMAND_TYPE_INVALID", counts.linkedCommandTypeInvalidCount),
    ("ORDER_BOUNDARY_COMMAND_TYPE_MISMATCH", counts.linkedCommandTypeMismatchCount),
    ("ORDER_BOUNDARY_COMMAND_STATUS_INVALID", counts.unknownCommandStatusCount),
    ("ORDER_BOUNDARY_COMMAND_TYPE_INVALID", counts.invalidCommandTypeCount),
    ("ORDER_BOUNDARY_SCOPE_INVALID", counts.invalidScopeCount)]

/-! ## The boundaries that have a resolution -/

/-- What the visit of the resolved boundaries has counted. -/
structure ResolutionTally where
  /-- Boundaries by effective state. -/
  effectiveStateCounts : String → Nat
  effectiveResolutionCount : Nat
  invalidatedResolutionCount : Nat
  maintenanceFenceActiveCount : Nat
  maintenanceFenceReleasedCount : Nat
  invalidResolutionChainCount : Nat
  activeFenceReleaseCount : Nat
  invalidFenceEventChainCount : Nat
  invalidatedFenceReleaseCount : Nat

def stateCounts (state : String) : Nat :=
  db.boundaries.rows.countP fun row => row.state = state

def initialTally : ResolutionTally where
  effectiveStateCounts := Function.update (stateCounts db) resolvedBrokerNotReached 0
  effectiveResolutionCount := 0
  invalidatedResolutionCount := 0
  maintenanceFenceActiveCount := 0
  maintenanceFenceReleasedCount := 0
  invalidResolutionChainCount := 0
  activeFenceReleaseCount := 0
  invalidFenceEventChainCount := 0
  invalidatedFenceReleaseCount := 0

def moveCount (counts : String → Nat) (rawState state : String) : String → Nat :=
  let lowered := Function.update counts rawState (counts rawState - 1)
  Function.update lowered state (lowered state + 1)

variable (host : Host) (db : Database)

def talliedState (row : BoundaryRow) : String :=
  let rows := resolutionRowsOf db.resolutions row.commandId
  let (chainValid, active) := validateResolutionChain host rows
  if rows ≠ [] ∧ !chainValid then row.state
  else if active.isSome then (resolutionProjection host db row).effectiveState
  else row.state

def isFenceActive (active : Option ResolutionRow) (fence : FenceEventProjection) : Bool :=
  if active.any fun active => isTrueColumn active.routingFenceActive && !fence.released then true
  else active.isNone && fence.activeRelease.isSome && !fence.released

variable (now : Instant) (tally : ResolutionTally)

def tallyBoundary (row : BoundaryRow) : ResolutionTally :=
  let rows := resolutionRowsOf db.resolutions row.commandId
  let (chainValid, active) := validateResolutionChain host rows
  let state := talliedState host db row
  let fence := fenceEventProjection host db row (resolutionProjection host db row) now
  let invalidChain : Bool := rows ≠ [] && !chainValid
  let resolved : Bool := state = resolvedBrokerNotReached
  { effectiveStateCounts :=
      if resolved then moveCount tally.effectiveStateCounts row.state state
      else tally.effectiveStateCounts
    effectiveResolutionCount := tally.effectiveResolutionCount + resolved.toNat
    invalidatedResolutionCount :=
      tally.invalidatedResolutionCount + (!resolved && active.isSome).toNat
    maintenanceFenceActiveCount :=
      tally.maintenanceFenceActiveCount + (isFenceActive active fence).toNat
    maintenanceFenceReleasedCount :=
      tally.maintenanceFenceReleasedCount + (fence.activeRelease.isSome && fence.released).toNat
    invalidResolutionChainCount := tally.invalidResolutionChainCount + invalidChain.toNat
    activeFenceReleaseCount := tally.activeFenceReleaseCount + fence.activeRelease.isSome.toNat
    invalidFenceEventChainCount :=
      tally.invalidFenceEventChainCount + (fence.eventRows ≠ [] && !fence.chainValid).toNat
    invalidatedFenceReleaseCount :=
      tally.invalidatedFenceReleaseCount +
        (fence.activeRelease.isSome && !fence.released).toNat }

def resolvedBoundaries : List BoundaryRow :=
  db.boundaries.rows.filter fun row =>
    db.resolutions.rows.any fun resolution => resolution.commandId = row.commandId

def resolutionTally : ResolutionTally :=
  (resolvedBoundaries db).foldl (tallyBoundary host db now) (initialTally db)

def resolutionOrphanCount : Nat :=
  db.resolutions.rows.countP fun row => (db.boundaries.find? row.commandId).isNone

def fenceOrphanCount : Nat :=
  if db.catalog.fenceEventSchema.tableExists then
    db.fenceEvents.rows.countP fun row =>
      (db.boundaries.find? row.commandId).isNone || (db.resolutions.find? row.resolutionId).isNone
  else 0

/-! ## The decision -/

inductive CheckStatus where
  | pass
  | warn
  | fail
  deriving DecidableEq

structure RoutingStatus where
  rawStatus : CheckStatus
  effectiveStatus : CheckStatus
  reasonCodes : List String
  warningCodes : List String
  tableExists : Bool
  requiredIndexesPresent : Bool
  resolutionSchema : LedgerSchema
  fenceEventSchema : LedgerSchema
  resolutionSourceSchemaReasonCodes : List String
  counts : Option BoundaryCounts
  stateCounts : String → Nat
  tally : Option ResolutionTally
  unconfirmedCount : Nat
  effectiveUnconfirmedCount : Nat
  resolutionEventCount : Nat
  fenceEventCount : Nat
  rawBlockNewOrderRouting : Bool
  qualificationBlockNewOrderRouting : Bool
  effectiveBlockNewOrderRouting : Bool

def rawRequiredIndexes : List String :=
  ["uq_gateway_order_boundary_idempotency", "idx_gateway_order_boundary_state_updated",
    "idx_gateway_events_command_event", "idx_gateway_command_events_command_event"]

def missingTableStatus (schema : LedgerSchema) : RoutingStatus where
  rawStatus := .fail
  effectiveStatus := .fail
  reasonCodes := ["ORDER_BROKER_BOUNDARY_TABLE_MISSING"]
  warningCodes := []
  tableExists := false
  requiredIndexesPresent := false
  resolutionSchema := schema
  fenceEventSchema := schema
  resolutionSourceSchemaReasonCodes := ["RESOLUTION_SOURCE_SCHEMA_UNAVAILABLE"]
  counts := none
  stateCounts := fun _ => 0
  tally := none
  unconfirmedCount := 0
  effectiveUnconfirmedCount := 0
  resolutionEventCount := 0
  fenceEventCount := 0
  rawBlockNewOrderRouting := true
  qualificationBlockNewOrderRouting := true
  effectiveBlockNewOrderRouting := true

def noLedger : LedgerSchema where
  tableExists := false
  requiredColumnsPresent := false
  requiredIndexesPresent := false
  appendOnlyTriggersPresent := false
  constraintsPresent := false

def requiredIndexesPresent (db : Database) : Bool :=
  (rawRequiredIndexes.all fun name => db.catalog.indexes.contains name) &&
    db.catalog.resolutionSchema.requiredIndexesPresent &&
    db.catalog.fenceEventSchema.requiredIndexesPresent

def ledgersReadable : Bool :=
  db.catalog.resolutionSchema.ready && (resolutionSourceSchemaReasonCodes db).isEmpty

def visitedTally : ResolutionTally :=
  if ledgersReadable db then resolutionTally host db now else initialTally db

def schemaReasonCodes : List String :=
  failedChecks [
    (requiredIndexesPresent db, "ORDER_BROKER_BOUNDARY_INDEX_MISSING"),
    (db.catalog.resolutionSchema.ready, "ORDER_BROKER_BOUNDARY_RESOLUTION_SCHEMA_INVALID"),
    (db.catalog.fenceEventSchema.ready, "ORDER_BROKER_BOUNDARY_FENCE_EVENT_SCHEMA_INVALID")] ++
  (if (resolutionSourceSchemaReasonCodes db).isEmpty then []
    else "ORDER_BROKER_BOUNDARY_RESOLUTION_SOURCE_SCHEMA_INVALID" ::
      resolutionSourceSchemaReasonCodes db)

def ledgerReasonCodes : List String :=
  (if ledgersReadable db then
    evidenceCodes [
      ("ORDER_BOUNDARY_RESOLUTION_ORPHAN", resolutionOrphanCount db),
      ("ORDER_BOUNDARY_FENCE_EVENT_ORPHAN", fenceOrphanCount db)]
    else []) ++
  evidenceCodes [
    ("ORDER_BOUNDARY_RESOLUTION_CHAIN_INVALID", tally.invalidResolutionChainCount),
    ("ORDER_BOUNDARY_FENCE_EVENT_CHAIN_INVALID", tally.invalidFenceEventChainCount)]

def routingReasonCodes : List String :=
  (schemaReasonCodes db ++ countReasonCodes (boundaryCounts db) ++
    ledgerReasonCodes db tally).eraseDups

def routingWarningCodes : List String :=
  evidenceCodes [
    ("UNCONFIRMED_ORDER_BOUNDARY_REQUIRES_RECONCILE", stateCounts db unconfirmed.value),
    ("EFFECTIVE_ORDER_BOUNDARY_REQUIRES_RESOLUTION",
      tally.effectiveStateCounts unconfirmed.value),
    ("ORDER_BOUNDARY_RESOLUTION_INVALIDATED", tally.invalidatedResolutionCount),
    ("ORDER_BOUNDARY_FENCE_RELEASE_INVALIDATED", tally.invalidatedFenceReleaseCount),
    ("ACTIVE_ORDER_COMMANDS_PRESENT", (boundaryCounts db).activeOrderCommandCount)]

/-- A new order must wait: something disagrees, or an unconfirmed order is not resolved and
released. -/
def effectiveBlock : Bool :=
  !(routingReasonCodes db tally).isEmpty ||
    tally.effectiveStateCounts unconfirmed.value ≠ 0 ||
    tally.invalidatedResolutionCount ≠ 0 ||
    tally.maintenanceFenceActiveCount ≠ 0

def boundaryTableExists : Bool :=
  (db.catalog.tables.lookup "gateway_order_broker_boundaries").isSome

def getOrderBrokerBoundaryStatus (now : Instant) : RoutingStatus :=
  if boundaryTableExists db then
    let tally := visitedTally host db now
    let counts := boundaryCounts db
    let reasonCodes := routingReasonCodes db tally
    let unconfirmedCount := stateCounts db unconfirmed.value
    let effectiveUnconfirmedCount := tally.effectiveStateCounts unconfirmed.value
    let qualifies : Bool := effectiveUnconfirmedCount ≠ 0 ||
      tally.invalidatedResolutionCount ≠ 0 || counts.activeOrderCommandCount ≠ 0
    { rawStatus :=
        if reasonCodes ≠ [] then .fail else if unconfirmedCount ≠ 0 then .warn else .pass
      effectiveStatus := if reasonCodes ≠ [] then .fail else if qualifies then .warn else .pass
      reasonCodes := reasonCodes
      warningCodes := routingWarningCodes db tally
      tableExists := true
      requiredIndexesPresent := requiredIndexesPresent db
      resolutionSchema := db.catalog.resolutionSchema
      fenceEventSchema := db.catalog.fenceEventSchema
      resolutionSourceSchemaReasonCodes := resolutionSourceSchemaReasonCodes db
      counts := some counts
      stateCounts := stateCounts db
      tally := some tally
      unconfirmedCount := unconfirmedCount
      effectiveUnconfirmedCount := effectiveUnconfirmedCount
      resolutionEventCount :=
        if db.catalog.resolutionSchema.tableExists then db.resolutions.rows.length else 0
      fenceEventCount :=
        if db.catalog.fenceEventSchema.tableExists then db.fenceEvents.rows.length else 0
      rawBlockNewOrderRouting := !reasonCodes.isEmpty || unconfirmedCount ≠ 0
      qualificationBlockNewOrderRouting := !reasonCodes.isEmpty || qualifies
      effectiveBlockNewOrderRouting := effectiveBlock db tally }
  else missingTableStatus noLedger

def orderRoutingBlocked : Bool :=
  (getOrderBrokerBoundaryStatus host db now).effectiveBlockNewOrderRouting

end SuseokTrader
