import SuseokTrader.Gateway.Ledger

/-!
# What the ledgers say about a boundary today

A resolution holds only while the evidence it was given on is unchanged. The
reader collects that evidence again from every table that could show that the
broker was reached, fingerprints it, and compares. A fence release holds only
for its trade date, for the database it was approved on, and while the
resolution it is bound to still holds.
-/

namespace SuseokTrader

/-! ## The source schema -/

def resolutionMinSourceSchemaVersion : Int := 60

/-- The tables that evidence is read from, with the columns that are read. -/
def resolutionSourceTableColumns : List (String × List String) :=
  [("app_metadata", ["key", "value"]),
    ("gateway_commands",
      ["command_id", "command_type", "status", "attempts", "dispatched_at", "completed_at",
        "expires_at"]),
    ("gateway_order_broker_boundaries",
      ["command_id", "command_type", "source", "state", "idempotency_key", "attempts", "code",
        "side", "claimed_at", "gateway_started_at", "pre_ack_recorded_at", "broker_accepted_at",
        "chejan_confirmed_at", "broker_order_no", "broker_result_code", "broker_message",
        "unconfirmed_at", "created_at", "updated_at", "live_sim_only", "live_real_allowed"]),
    ("gateway_events", ["command_id", "event_type"]),
    ("gateway_command_events", ["command_id", "event_type"]),
    ("live_sim_orders",
      ["live_sim_order_id", "gateway_command_id", "broker_order_no", "broker_result_code",
        "broker_acked_at", "filled_quantity", "status", "live_sim_only", "live_real_allowed"]),
    ("live_sim_intents",
      ["live_sim_intent_id", "gateway_command_id", "broker_order_sent", "live_sim_only",
        "live_real_allowed"]),
    ("live_sim_executions",
      ["live_sim_execution_id", "live_sim_order_id", "live_sim_intent_id"]),
    ("runtime_execution_locks", []),
    ("gateway_status", ["key", "value"])]

def tableHasColumns (catalog : Catalog) (tableName : String) (required : List String) : Bool :=
  match catalog.tables.lookup tableName with
  | some columns => required.all fun column => columns.contains column
  | none => false

def sourceTableReady (catalog : Catalog) (tableName : String) : Bool :=
  match resolutionSourceTableColumns.lookup tableName with
  | some required => tableHasColumns catalog tableName required
  | none => false

variable (db : Database)

def metadataValue (key : String) : Option String :=
  db.appMetadata.lookup key

def resolutionSourceSchemaReasonCodes : List String :=
  let missing := resolutionSourceTableColumns.filter fun (tableName, required) =>
    !tableHasColumns db.catalog tableName required
  let schemaVersion := ((metadataValue db "schema_version").bind fun version =>
    integerText (Text.strip version)).getD (-1)
  (missing.map fun (tableName, _) =>
      "RESOLUTION_SOURCE_SCHEMA_INVALID_" ++ Text.upper tableName) ++
    if sourceTableReady db.catalog "app_metadata" &&
        schemaVersion < resolutionMinSourceSchemaVersion then
      ["RESOLUTION_SOURCE_SCHEMA_VERSION_UNSUPPORTED"]
    else []

/-! ## Evidence that the broker was reached -/

/-- Event types that only follow a broker call, with the reason code each gives. -/
def brokerReachEventTypes : List (String × String) :=
  [("cancel_ack", "CANCEL_ACK_EVENT"),
    ("cancel_rejected", "CANCEL_REJECTED_EVENT"),
    ("command_ack", "COMMAND_ACK_EVENT"),
    ("command_started", "GATEWAY_STARTED_EVENT"),
    ("execution_event", "EXECUTION_EVENT"),
    ("kiwoom_balance_chejan", "BALANCE_CHEJAN_EVENT"),
    ("kiwoom_order_chejan", "CHEJAN_EVENT"),
    ("kiwoom_special_chejan", "SPECIAL_CHEJAN_EVENT"),
    ("order_broker_unconfirmed", "BROKER_CALL_OUTCOME_UNCONFIRMED"),
    ("order_pre_ack", "PRE_ACK_EVENT"),
    ("order_rejected", "ORDER_REJECTED_EVENT")]

abbrev Evidence := String × Nat

def isPresent (text : Option String) : Bool :=
  (Text.optionalText text).isSome

variable (row : BoundaryRow)

/-- The columns of a boundary that only a broker call fills. -/
def boundaryMarkers : List (String × Option String × String) :=
  [("gateway_started_at", row.gatewayStartedAt, "BOUNDARY_GATEWAY_STARTED"),
    ("pre_ack_recorded_at", row.preAckRecordedAt, "BOUNDARY_PRE_ACK_RECORDED"),
    ("broker_accepted_at", row.brokerAcceptedAt, "BOUNDARY_BROKER_ACCEPTED"),
    ("chejan_confirmed_at", row.chejanConfirmedAt, "BOUNDARY_CHEJAN_CONFIRMED"),
    ("broker_order_no", row.brokerOrderNo, "BOUNDARY_BROKER_ORDER_PRESENT"),
    ("broker_result_code", row.brokerResultCode, "BOUNDARY_BROKER_RESULT_PRESENT"),
    ("broker_message", row.brokerMessage, "BOUNDARY_BROKER_MESSAGE_PRESENT")]

def boundaryEvidence : List Evidence :=
  (boundaryMarkers row).map fun (_, text, reasonCode) =>
    (reasonCode, if isPresent text then 1 else 0)

variable (events : List (Option String × String))

def countEvents (commandId eventType : String) : Nat :=
  events.countP fun (command, type) => command = some commandId && Text.lower type = eventType

variable (commandId : String)

def brokerReachCounts :
    List (String × Nat) :=
  (brokerReachEventTypes.map fun (eventType, _) =>
    (eventType, countEvents events commandId eventType)).filter fun (_, count) => count ≠ 0

def eventEvidence :
    List Evidence :=
  brokerReachEventTypes.map fun (eventType, reasonCode) =>
    (reasonCode, countEvents events commandId eventType)

/-- Command and type of every row of `gateway_events`. -/
def gatewayEventKinds : List (Option String × String) :=
  if sourceTableReady db.catalog "gateway_events" then
    db.gatewayEvents.rows.map fun row => (row.commandId, row.eventType)
  else []

/-- Command and type of every row of `gateway_command_events`. -/
def commandEventKinds : List (Option String × String) :=
  if sourceTableReady db.catalog "gateway_command_events" then
    db.commandEvents.map fun row => (some row.commandId, row.eventType)
  else []

def isSqlBlank (text : Option String) : Bool :=
  match text with
  | some text => Text.trimBlanks text = ""
  | none => true

def brokerTerminalStatuses : List String :=
  ["BROKER_ACKED", "PARTIALLY_FILLED", "FILLED", "BROKER_REJECTED", "CANCEL_ACKED",
    "CANCEL_REJECTED", "EXIT_FILLED"]

structure OrderSummary where
  count : Nat
  brokerOrderNoCount : Nat
  brokerResultCount : Nat
  brokerAckedCount : Nat
  filledCount : Nat
  brokerTerminalStatusCount : Nat
  unsafeScopeCount : Nat

def isUnsafeScope (liveSimOnly liveRealAllowed : Int) : Bool :=
  liveSimOnly ≠ 1 || liveRealAllowed ≠ 0

def orderSummary : OrderSummary :=
  let rows := if sourceTableReady db.catalog "live_sim_orders" then
    db.liveSimOrders.rows.filter fun row => row.gatewayCommandId = some commandId else []
  { count := rows.length
    brokerOrderNoCount := rows.countP fun row => !isSqlBlank row.brokerOrderNo
    brokerResultCount := rows.countP fun row => !isSqlBlank row.brokerResultCode
    brokerAckedCount := rows.countP fun row => row.brokerAckedAt.isSome
    filledCount := rows.countP fun row => row.filledQuantity > 0
    brokerTerminalStatusCount :=
      rows.countP fun row => brokerTerminalStatuses.contains (Text.upper row.status)
    unsafeScopeCount := rows.countP fun row => isUnsafeScope row.liveSimOnly row.liveRealAllowed }

def orderEvidence (summary : OrderSummary) : List Evidence :=
  [("LIVE_SIM_ORDER_BROKER_ORDER_PRESENT", summary.brokerOrderNoCount),
    ("LIVE_SIM_ORDER_BROKER_RESULT_PRESENT", summary.brokerResultCount),
    ("LIVE_SIM_ORDER_BROKER_ACK_PRESENT", summary.brokerAckedCount),
    ("LIVE_SIM_ORDER_FILL_PRESENT", summary.filledCount),
    ("LIVE_SIM_ORDER_BROKER_STATUS_PRESENT", summary.brokerTerminalStatusCount),
    ("LINKED_ORDER_NOT_LIVE_SIM_ONLY", summary.unsafeScopeCount)]

structure IntentSummary where
  count : Nat
  brokerOrderSentCount : Nat
  unsafeScopeCount : Nat

def intentSummary : IntentSummary :=
  let rows := if sourceTableReady db.catalog "live_sim_intents" then
    db.liveSimIntents.rows.filter fun row => row.gatewayCommandId = some commandId else []
  { count := rows.length
    brokerOrderSentCount := rows.countP fun row => row.brokerOrderSent ≠ 0
    unsafeScopeCount := rows.countP fun row => isUnsafeScope row.liveSimOnly row.liveRealAllowed }

def intentEvidence (summary : IntentSummary) : List Evidence :=
  [("LIVE_SIM_INTENT_BROKER_ORDER_SENT", summary.brokerOrderSentCount),
    ("LINKED_INTENT_NOT_LIVE_SIM_ONLY", summary.unsafeScopeCount)]

/-- Executions whose order or intent belongs to the command. -/
def executionCount : Nat :=
  if sourceTableReady db.catalog "live_sim_executions" &&
      sourceTableReady db.catalog "live_sim_orders" &&
      sourceTableReady db.catalog "live_sim_intents" then
    db.liveSimExecutions.rows.countP fun execution =>
      (db.liveSimOrders.rows.any fun order =>
        execution.liveSimOrderId = some order.liveSimOrderId &&
          order.gatewayCommandId = some commandId) ||
      (db.liveSimIntents.rows.any fun intent =>
        execution.liveSimIntentId = some intent.liveSimIntentId &&
          intent.gatewayCommandId = some commandId)
  else 0

def brokerStageStatuses : List String :=
  ["GATEWAY_STARTED", "PRE_ACK_RECORDED", "BROKER_ACCEPTED", "CHEJAN_CONFIRMED", "ACKED"]

def sourceCommand : Option CommandRow :=
  if sourceTableReady db.catalog "gateway_commands" then db.commands.find? commandId else none

def commandEvidence (command : Option CommandRow) : List Evidence :=
  match command with
  | none => [("GATEWAY_COMMAND_MISSING", 1)]
  | some command =>
      [("GATEWAY_COMMAND_BROKER_STAGE_STATUS",
        if brokerStageStatuses.contains (Text.upper command.status) then 1 else 0)]

/-- Every piece of evidence, in the order it is collected. -/
def brokerReachEvidence : List Evidence :=
  boundaryEvidence row ++ eventEvidence (gatewayEventKinds db) row.commandId ++
    eventEvidence (commandEventKinds db) row.commandId ++
    orderEvidence (orderSummary db row.commandId) ++
    intentEvidence (intentSummary db row.commandId) ++
    [("LIVE_SIM_EXECUTION_PRESENT", executionCount db row.commandId)] ++
    commandEvidence (sourceCommand db row.commandId)

/-! ## The snapshot -/

def Json.ofNat (value : Nat) : Json :=
  .int value

def Json.ofCounts (counts : List (String × Nat)) : Json :=
  .obj (counts.map fun (key, count) => (key, Json.ofNat count))

def commandSnapshot (command : Option CommandRow) : Payload :=
  let column := fun (text : CommandRow → Option String) =>
    Json.ofOption (command.bind fun command => Text.optionalText (text command))
  [("present", .bool command.isSome),
    ("command_type",
      Json.ofOption (command.map fun command => Text.lower command.commandType)),
    ("status", Json.ofOption (command.map fun command => Text.upper command.status)),
    ("attempts", .int ((command.map CommandRow.attempts).getD 0)),
    ("dispatched_at", column CommandRow.dispatchedAt),
    ("completed_at", column CommandRow.completedAt),
    ("expires_at", column CommandRow.expiresAt)]

def boundarySnapshot : Payload :=
  [("state", .str row.state),
    ("attempts", .int row.attempts),
    ("live_sim_only", .bool (isTrueColumn row.liveSimOnly)),
    ("live_real_allowed", .bool (isTrueColumn row.liveRealAllowed))] ++
  (boundaryMarkers row).map fun (field, text, _) => (field ++ "_present", .bool (isPresent text))

def OrderSummary.toJson (summary : OrderSummary) : Json :=
  Json.ofCounts [("count", summary.count),
    ("broker_order_no_count", summary.brokerOrderNoCount),
    ("broker_result_count", summary.brokerResultCount),
    ("broker_acked_count", summary.brokerAckedCount),
    ("filled_count", summary.filledCount),
    ("broker_terminal_status_count", summary.brokerTerminalStatusCount),
    ("unsafe_scope_count", summary.unsafeScopeCount)]

def IntentSummary.toJson (summary : IntentSummary) : Json :=
  Json.ofCounts [("count", summary.count),
    ("broker_order_sent_count", summary.brokerOrderSentCount),
    ("unsafe_scope_count", summary.unsafeScopeCount)]

def resolutionSnapshot : Payload :=
  [("contract", .str "gateway-order-boundary-resolution-fingerprint.v1"),
    ("source_schema_reason_codes",
      .arr ((resolutionSourceSchemaReasonCodes db).map Json.str)),
    ("command_id", .str row.commandId),
    ("command", .obj (commandSnapshot (sourceCommand db row.commandId))),
    ("boundary", .obj (boundarySnapshot row)),
    ("broker_reach_event_counts", .obj [
      ("gateway_events",
        Json.ofCounts (brokerReachCounts (gatewayEventKinds db) row.commandId)),
      ("gateway_command_events",
        Json.ofCounts (brokerReachCounts (commandEventKinds db) row.commandId))]),
    ("linked_live_sim_orders", (orderSummary db row.commandId).toJson),
    ("linked_live_sim_intents", (intentSummary db row.commandId).toJson),
    ("linked_live_sim_execution_count", Json.ofNat (executionCount db row.commandId))]

structure CollectedSnapshot where
  snapshot : Payload
  reasonCodes : List String
  evidenceCount : Nat

def evidenceCodes (evidence : List Evidence) : List String :=
  (evidence.filter fun (_, count) => count ≠ 0).map Prod.fst

def collectResolutionSnapshot : CollectedSnapshot where
  snapshot := resolutionSnapshot db row
  reasonCodes :=
    (resolutionSourceSchemaReasonCodes db ++ evidenceCodes (brokerReachEvidence db row)).eraseDups
  evidenceCount := ((brokerReachEvidence db row).map Prod.snd).sum

/-! ## The resolution of a boundary -/

inductive ResolutionStatus where
  | none
  | ledgerInvalid
  | overriddenByRawState
  | overriddenByBrokerEvidence
  | overriddenByFingerprintChange
  | effective
  | revoked
  deriving DecidableEq

structure ResolutionProjection where
  snapshot : Payload
  fingerprint : String
  brokerReachReasonCodes : List String
  brokerReachEvidenceCount : Nat
  resolutionRows : List ResolutionRow
  chainValid : Bool
  activeResolution : Option ResolutionRow
  effectiveState : String
  resolutionStatus : ResolutionStatus

def boundaryFingerprint : String :=
  Sha256.hexdigest (canonicalJson (resolutionSnapshot db row))

def ledgerResolutionRows : List ResolutionRow :=
  if db.catalog.resolutionSchema.tableExists then resolutionRowsOf db.resolutions commandId
  else []

def resolutionStatusOf (rawState fingerprint : String) (reasonCodes : List String)
    (chainValid : Bool) (active : Option ResolutionRow) (rows : List ResolutionRow) :
    ResolutionStatus :=
  if !chainValid then .ledgerInvalid
  else
    match active with
    | some active =>
        if rawState ≠ OrderBrokerBoundaryState.unconfirmed.value then .overriddenByRawState
        else if reasonCodes ≠ [] then .overriddenByBrokerEvidence
        else if active.sourceBoundaryFingerprint ≠ fingerprint then
          .overriddenByFingerprintChange
        else .effective
    | none => if rows ≠ [] then .revoked else .none

variable (host : Host) (db : Database)

def resolutionProjection (row : BoundaryRow) :
    ResolutionProjection :=
  let collected := collectResolutionSnapshot db row
  let fingerprint := boundaryFingerprint db row
  let rows := ledgerResolutionRows db row.commandId
  let (valid, active) := validateResolutionChain host rows
  let chainValid := valid && db.catalog.resolutionSchema.tableExists
  let status := resolutionStatusOf row.state fingerprint collected.reasonCodes chainValid active
    rows
  { snapshot := collected.snapshot
    fingerprint := fingerprint
    brokerReachReasonCodes := collected.reasonCodes
    brokerReachEvidenceCount := collected.evidenceCount
    resolutionRows := rows
    chainValid := chainValid
    activeResolution := active
    effectiveState := if status = .effective then resolvedBrokerNotReached else row.state
    resolutionStatus := status }

/-! ## The database a release was approved on -/

def databaseFilePayload : DatabaseFile → Payload
  | .file normalizedPath device inode =>
      [("contract", .str "sqlite-database-instance.v1"),
        ("kind", .str "file"),
        ("normalized_path_sha256", .str (Sha256.hexdigest normalizedPath)),
        ("device", .int device),
        ("inode", .int inode)]
  | .memory connectionIdentity =>
      [("contract", .str "sqlite-database-instance.v1"),
        ("kind", .str "memory"),
        ("connection_identity", .str connectionIdentity)]

def databaseIdentitySha256 : Option String :=
  host.database.map fun database =>
    Sha256.hexdigest (canonicalJson (databaseFilePayload database))

def fenceOrderCommandTypes : List String :=
  ["send_order", "cancel_order", "modify_order"]

structure CommandApprovalSnapshot where
  totalCount : Nat
  orderCount : Nat
  stateFingerprint : String

def commandRowPayload (row : CommandRow) : Payload :=
  [("command_id", .str row.commandId),
    ("command_type", .str row.commandType),
    ("source", .str row.source),
    ("status", .str row.status),
    ("idempotency_key", Json.ofOption row.idempotencyKey),
    ("payload_json", .str row.payloadJson),
    ("payload_hash", .str row.payloadHash),
    ("created_at", .str row.createdAt),
    ("available_at", Json.ofOption row.availableAt),
    ("dispatched_at", Json.ofOption row.dispatchedAt),
    ("completed_at", Json.ofOption row.completedAt),
    ("expires_at", Json.ofOption row.expiresAt),
    ("attempts", .int row.attempts),
    ("last_error", Json.ofOption row.lastError)]

def gatewayCommandApprovalSnapshot : CommandApprovalSnapshot :=
  let rows := db.commands.rows.insertionSort fun left right => left.commandId ≤ right.commandId
  { totalCount := rows.length
    orderCount := rows.countP fun row =>
      fenceOrderCommandTypes.contains (Text.lower row.commandType)
    stateFingerprint := Sha256.hexdigest (canonicalJson
      [("rows", .arr (rows.map fun row => .obj (commandRowPayload row)))]) }

structure FenceApprovalBinding where
  databaseIdentitySha256 : String
  appName : Option String
  schemaVersion : Option Int
  gatewayCommands : CommandApprovalSnapshot

def uniqueMetadata (key : String) : Option String :=
  match db.appMetadata.filter fun (name, _) => name = key with
  | [(_, value)] => some value
  | _ => none

/-- The database and command state an approval binds, when the database has an identity. -/
def fenceApprovalBinding : Option FenceApprovalBinding := do
  let identity ← databaseIdentitySha256 host
  return {
    databaseIdentitySha256 := identity
    appName := uniqueMetadata db "app_name"
    schemaVersion := (uniqueMetadata db "schema_version").bind fun version =>
      integerText (Text.strip version)
    gatewayCommands := gatewayCommandApprovalSnapshot db }

/-! ## The release of the fence -/

inductive FenceReleaseStatus where
  | notReleased
  | reinstated
  | released
  | releaseInvalidated
  deriving DecidableEq

structure FenceEventProjection where
  eventRows : List FenceEventRow
  chainValid : Bool
  latestEvent : Option FenceEventRow
  activeRelease : Option FenceEventRow
  released : Bool
  status : FenceReleaseStatus
  reasonCodes : List String

def failedChecks (checks : List (Bool × String)) : List String :=
  (checks.filter fun (passed, _) => !passed).map Prod.snd

variable (release : FenceEventRow)

def bindingReasonCodes : List String :=
  match fenceApprovalBinding host db with
  | none => ["DATABASE_IDENTITY_UNAVAILABLE"]
  | some binding =>
      failedChecks [
        (release.databaseIdentitySha256 = binding.databaseIdentitySha256,
          "DATABASE_IDENTITY_MISMATCH"),
        (release.expectedAppName = binding.appName.getD "None", "APP_NAME_MISMATCH"),
        (release.expectedSchemaVersion =
            (if binding.schemaVersion = some 0 then -1 else binding.schemaVersion.getD (-1)),
          "SCHEMA_VERSION_MISMATCH")]

/-- The reasons that the release does not match the boundary's resolution. -/
def releaseResolutionReasonCodes (projection : ResolutionProjection) :
    List String :=
  failedChecks [
    (projection.chainValid, "RESOLUTION_LEDGER_INVALID"),
    (projection.resolutionStatus = .effective, "ACTIVE_RESOLUTION_NOT_EFFECTIVE")] ++
  projection.brokerReachReasonCodes ++
  (match projection.activeResolution with
    | none => ["ACTIVE_RESOLUTION_MISSING"]
    | some active =>
        failedChecks [
          (release.resolutionId = active.resolutionId, "RESOLUTION_ID_MISMATCH"),
          (release.resolutionRequestHash = active.requestHash,
            "RESOLUTION_REQUEST_HASH_MISMATCH"),
          (release.sourceBoundaryFingerprint = active.sourceBoundaryFingerprint,
            "RESOLUTION_FINGERPRINT_MISMATCH")]) ++
  failedChecks [
    (release.sourceBoundaryFingerprint = projection.fingerprint,
      "SOURCE_BOUNDARY_FINGERPRINT_MISMATCH")]

def releaseReasonCodes (projection : ResolutionProjection) (now : Instant) : List String :=
  failedChecks [
    (release.approvalTradeDate = marketToday now, "FENCE_RELEASE_TRADE_DATE_EXPIRED")] ++
  bindingReasonCodes host db release ++ releaseResolutionReasonCodes release projection

def ledgerFenceEventRows (commandId : String) : List FenceEventRow :=
  if db.catalog.fenceEventSchema.tableExists then fenceEventRowsOf db.fenceEvents commandId
  else []

def fenceEventProjection (row : BoundaryRow)
    (projection : ResolutionProjection) (now : Instant) : FenceEventProjection :=
  let rows := ledgerFenceEventRows db row.commandId
  let (valid, active) := validateFenceEventChain rows
  let chainValid := valid && db.catalog.fenceEventSchema.tableExists
  let ledgerCodes := failedChecks [
    (db.catalog.fenceEventSchema.ready, "FENCE_EVENT_SCHEMA_INVALID"),
    (chainValid, "FENCE_EVENT_LEDGER_INVALID")]
  let reasonCodes := (ledgerCodes ++ match active with
    | none => []
    | some release => releaseReasonCodes host db release projection now).eraseDups
  { eventRows := rows
    chainValid := chainValid
    latestEvent := rows.getLast?
    activeRelease := active
    released := active.isSome && reasonCodes = []
    status :=
      if active.isSome then
        if reasonCodes = [] then .released else .releaseInvalidated
      else if rows ≠ [] then .reinstated
      else .notReleased
    reasonCodes := reasonCodes }

end SuseokTrader
