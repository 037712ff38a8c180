import SuseokTrader.Gateway.Tables

/-!
# The two operator ledgers

An operator who knows that an unconfirmed order never reached the broker
appends a resolution, and may then release the maintenance fence. Both ledgers
are append-only. A reader trusts none of their rows: it checks each row's
contract, recomputes its request hash, and follows the chain from the first
row. This file is the reader's side.
-/

namespace SuseokTrader

def resolvedBrokerNotReached : String := "RESOLVED_BROKER_NOT_REACHED"
def brokerNotReached : String := "BROKER_NOT_REACHED"
def resolutionActionResolve : String := "RESOLVE_BROKER_NOT_REACHED"
def resolutionActionRevoke : String := "REVOKE"
def fenceActionRelease : String := "RELEASE"
def fenceActionReinstate : String := "REINSTATE"
def fenceApprovalContract : String := "gateway-order-boundary-fence-approval.v2"
def fenceExpectedAppName : String := "suseok-trader-v2"
def fenceExpectedSchemaVersion : Int := 63
def fenceReleaseReasonCode : String := "APPROVED_MAINTENANCE_FENCE_RELEASE"
def fenceReinstateReasonCode : String := "OPERATOR_REINSTATED_MAINTENANCE_FENCE"

structure ResolutionError where
  code : String
  message : String
  details : Payload

abbrev Ledgered (α : Type) := Except ResolutionError α

namespace Ledgered

def refuse {α : Type} (code message : String) (details : Payload) : Ledgered α :=
  .error { code := code, message := message, details := details }

end Ledgered

/-! ## Texts the ledgers accept -/

def isSha256 (s : String) : Bool :=
  s.toList.length = 64 && s.toList.all Text.isHex

def isTradeDate (s : String) : Bool :=
  let isDecimal := fun c => (decimalValue c).isSome
  match s.toList with
  | [y1, y2, y3, y4, dash1, m1, m2, dash2, d1, d2] =>
      [y1, y2, y3, y4, m1, m2, d1, d2].all isDecimal && dash1 = '-' && dash2 = '-'
  | _ => false

def isIdentifierChar (c : Char) : Bool :=
  c.isAlpha || c.isDigit || c = '_' || c = '.' || c = ':' || c = '@' || c = '-'

def isSafeIdentifier (s : String) : Bool :=
  match s.toList with
  | first :: rest =>
      first.isAlpha && 2 ≤ rest.length && rest.length ≤ 127 && rest.all isIdentifierChar
  | [] => false

def isSeparator (c : Char) : Bool :=
  c = '_' || c = '.' || c = ':' || c = '@' || c = '-'

def containsAccountLikeDigitSequence (s : String) : Bool :=
  Text.hasRun Char.isDigit (fun _ => false) 8 0 s.toList ||
    Text.hasRun Char.isDigit isSeparator 8 0 s.toList

def requireSafeIdentifier (name value : String) : Ledgered String :=
  let normalized := Text.strip value
  if isSafeIdentifier normalized then .ok normalized
  else Ledgered.refuse ("INVALID_" ++ Text.upper name)
    (name ++ " must be an opaque identifier without path separators") []

def requireSafeIdentifierOption (name : String) (value : Option String) :
    Ledgered (Option String) :=
  match value with
  | none => .ok none
  | some value => do
      let normalized ← requireSafeIdentifier name value
      return some normalized

def requireSha256 (name value : String) : Ledgered String :=
  let normalized := Text.strip value
  if isSha256 normalized then .ok normalized
  else Ledgered.refuse ("INVALID_" ++ Text.upper name)
    (name ++ " must be a lowercase SHA-256 digest") []

def requireNoAccountDigits : List (String × String) → Ledgered Unit
  | [] => .ok ()
  | (field, value) :: fields =>
      if containsAccountLikeDigitSequence value then
        Ledgered.refuse ("INVALID_" ++ Text.upper field)
          (field ++ " must not contain an account-like digit sequence") []
      else requireNoAccountDigits fields

def Json.ofOption : Option String → Json
  | some text => .str text
  | none => .null

def isTrueColumn (value : Int) : Bool :=
  value ≠ 0

/-! ## The approval of a fence event -/

/-- What an operator's approval of a fence event binds. -/
structure FenceApprovalRequest where
  action : String
  approvalId : String
  requestId : String
  operatorId : String
  reasonCode : String
  approvalTradeDate : String
  commandAlias : String
  commandId : String
  expectedPreviousFenceEventId : Option String
  expectedResolutionId : String
  expectedResolutionRequestHash : String
  expectedSourceBoundaryFingerprint : String
  evidenceSha256 : String
  databaseIdentitySha256 : String
  expectedAppName : String
  expectedSchemaVersion : Int
  expectedGatewayCommandTotalCount : Int
  expectedOrderCommandCount : Int
  expectedGatewayCommandStateFingerprint : String

structure FenceApproval where
  payload : Payload
  canonicalJson : String
  sha256 : String

variable (request : FenceApprovalRequest)

/-- The canonical approval payload of a normalized request. -/
def fenceApprovalPayload : Payload :=
  [("contract", .str fenceApprovalContract),
    ("action", .str request.action),
    ("approval_id", .str request.approvalId),
    ("request_id", .str request.requestId),
    ("operator_id", .str request.operatorId),
    ("reason_code", .str request.reasonCode),
    ("trade_date", .str request.approvalTradeDate),
    ("command_alias", .str request.commandAlias),
    ("command_id", .str request.commandId),
    ("target", .obj [
      ("resolution_id", .str request.expectedResolutionId),
      ("resolution_request_hash", .str request.expectedResolutionRequestHash),
      ("source_boundary_fingerprint", .str request.expectedSourceBoundaryFingerprint),
      (if request.action = fenceActionRelease then "expected_previous_fence_event_id"
        else "expected_release_event_id",
        Json.ofOption request.expectedPreviousFenceEventId)]),
    ("evidence_sha256", .str request.evidenceSha256),
    ("database_identity_sha256", .str request.databaseIdentitySha256),
    ("expected_app_name", .str fenceExpectedAppName),
    ("expected_schema_version", .int fenceExpectedSchemaVersion),
    ("gateway_commands", .obj [
      ("total_count", .int request.expectedGatewayCommandTotalCount),
      ("order_count", .int request.expectedOrderCommandCount),
      ("state_fingerprint", .str request.expectedGatewayCommandStateFingerprint)]),
    ("one_shot", .bool true),
    ("append_only", .bool true),
    ("raw_boundary_changed", .bool false),
    ("no_order_commands_created", .bool true),
    ("no_broker_calls", .bool true),
    ("live_sim_only", .bool true),
    ("live_real_allowed", .bool false)]

/-- The request with every text stripped and checked. -/
def normalizeFenceApprovalRequest :
    Ledgered FenceApprovalRequest := do
  let action := Text.upper (Text.strip request.action)
  if action ≠ fenceActionRelease ∧ action ≠ fenceActionReinstate then
    Ledgered.refuse "INVALID_ACTION" "unsupported fence-event action" []
  let reasonCode ← requireSafeIdentifier "reason_code" request.reasonCode
  if reasonCode ≠ (if action = fenceActionRelease then fenceReleaseReasonCode
      else fenceReinstateReasonCode) then
    Ledgered.refuse "INVALID_REASON_CODE" "reason_code does not match fence action" []
  let approvalTradeDate := Text.strip request.approvalTradeDate
  if !isTradeDate approvalTradeDate then
    Ledgered.refuse "INVALID_APPROVAL_TRADE_DATE" "approval_trade_date must use YYYY-MM-DD" []
  let expectedPreviousFenceEventId ← requireSafeIdentifierOption
    "expected_previous_fence_event_id" request.expectedPreviousFenceEventId
  let approvalId ← requireSafeIdentifier "approval_id" request.approvalId
  let requestId ← requireSafeIdentifier "request_id" request.requestId
  let operatorId ← requireSafeIdentifier "operator_id" request.operatorId
  let commandAlias ← requireSafeIdentifier "command_alias" request.commandAlias
  let commandId := Text.strip request.commandId
  let expectedResolutionId ← requireSafeIdentifier "expected_resolution_id"
    request.expectedResolutionId
  let expectedResolutionRequestHash ← requireSha256 "expected_resolution_request_hash"
    request.expectedResolutionRequestHash
  let expectedSourceBoundaryFingerprint ← requireSha256 "expected_source_boundary_fingerprint"
    request.expectedSourceBoundaryFingerprint
  let evidenceSha256 ← requireSha256 "evidence_sha256" request.evidenceSha256
  let databaseIdentitySha256 ← requireSha256 "database_identity_sha256"
    request.databaseIdentitySha256
  let expectedGatewayCommandStateFingerprint ← requireSha256
    "expected_gateway_command_state_fingerprint" request.expectedGatewayCommandStateFingerprint
  if commandId = "" then
    Ledgered.refuse "INVALID_COMMAND_ID" "command_id is required" []
  requireNoAccountDigits [("approval_id", approvalId), ("request_id", requestId),
    ("operator_id", operatorId), ("command_alias", commandAlias), ("reason_code", reasonCode)]
  if request.expectedAppName ≠ fenceExpectedAppName then
    Ledgered.refuse "APP_METADATA_MISMATCH"
      "fence approval requires the exact application identity" []
  if request.expectedSchemaVersion ≠ fenceExpectedSchemaVersion then
    Ledgered.refuse "SCHEMA_VERSION_MISMATCH" "fence approval requires the exact schema version" []
  if request.expectedGatewayCommandTotalCount < 0 ∨ request.expectedOrderCommandCount < 0 ∨
      request.expectedGatewayCommandTotalCount < request.expectedOrderCommandCount then
    Ledgered.refuse "GATEWAY_COMMAND_SNAPSHOT_INVALID"
      "gateway command approval counts are invalid" []
  if action = fenceActionReinstate ∧ expectedPreviousFenceEventId = none then
    Ledgered.refuse "INVALID_EXPECTED_RELEASE_EVENT_ID"
      "reinstate requires the approved release event" []
  return { request with
    action := action
    approvalId := approvalId
    requestId := requestId
    operatorId := operatorId
    reasonCode := reasonCode
    approvalTradeDate := approvalTradeDate
    commandAlias := commandAlias
    commandId := commandId
    expectedPreviousFenceEventId := expectedPreviousFenceEventId
    expectedResolutionId := expectedResolutionId
    expectedResolutionRequestHash := expectedResolutionRequestHash
    expectedSourceBoundaryFingerprint := expectedSourceBoundaryFingerprint
    evidenceSha256 := evidenceSha256
    databaseIdentitySha256 := databaseIdentitySha256
    expectedGatewayCommandStateFingerprint := expectedGatewayCommandStateFingerprint }

def buildOrderBrokerBoundaryFenceApproval :
    Ledgered FenceApproval := do
  let normalized ← normalizeFenceApprovalRequest request
  let payload := fenceApprovalPayload normalized
  return {
    payload := payload
    canonicalJson := canonicalJson payload
    sha256 := Sha256.hexdigest (canonicalJson payload) }

/-! ## Row contracts -/

/-- The request a resolution row stands for, as its reader rebuilds it. -/
def resolutionRowRequest (row : ResolutionRow) : Payload :=
  [("action", .str row.action),
    ("command_id", .str row.commandId),
    ("request_id", .str row.requestId),
    ("expected_fingerprint", .str row.sourceBoundaryFingerprint),
    ("reason_code", .str row.reasonCode),
    ("evidence_type", .str row.evidenceType),
    ("evidence_ref", .str row.evidenceRef),
    ("evidence_sha256", .str row.evidenceSha256),
    ("operator_id", .str row.operatorId),
    ("supersedes_resolution_id", Json.ofOption (Text.optionalText row.supersedesResolutionId))]

variable (host : Host)

def snapshotMatches (row : ResolutionRow) : Bool :=
  match (Json.loads host.floatRepr row.boundarySnapshotJson).bind Json.asObject with
  | some snapshot => Sha256.hexdigest (canonicalJson snapshot) = row.sourceBoundaryFingerprint
  | none => false

def resolutionRowContractValid (row : ResolutionRow) : Bool :=
  (row.action = resolutionActionResolve || row.action = resolutionActionRevoke) &&
  row.resolutionType = brokerNotReached &&
  [row.sourceBoundaryFingerprint, row.evidenceSha256, row.requestHash].all isSha256 &&
  [row.resolutionId, row.requestId, row.reasonCode, row.evidenceType, row.evidenceRef,
    row.operatorId].all isSafeIdentifier &&
  [row.requestId, row.reasonCode, row.evidenceType, row.evidenceRef, row.operatorId].all
    (fun text => !containsAccountLikeDigitSequence text) &&
  (Text.optionalText row.supersedesResolutionId).all isSafeIdentifier &&
  isTrueColumn row.liveSimOnly && !isTrueColumn row.liveRealAllowed &&
  isTrueColumn row.routingFenceActive &&
  snapshotMatches host row &&
  row.requestHash = Sha256.hexdigest (canonicalJson (resolutionRowRequest row))

variable (row : FenceEventRow)

/-- The request a fence row stands for, as its reader rebuilds it. -/
def fenceEventRowRequest : Payload :=
  [("action", .str row.action),
    ("command_id", .str row.commandId),
    ("request_id", .str row.requestId),
    ("expected_previous_fence_event_id",
      Json.ofOption (Text.optionalText row.supersedesFenceEventId)),
    ("expected_resolution_id", .str row.resolutionId),
    ("expected_resolution_request_hash", .str row.resolutionRequestHash),
    ("expected_source_boundary_fingerprint", .str row.sourceBoundaryFingerprint),
    ("approval_id", .str row.approvalId),
    ("command_alias", .str row.commandAlias),
    ("approval_trade_date", .str row.approvalTradeDate),
    ("approval_sha256", .str row.approvalSha256),
    ("evidence_sha256", .str row.evidenceSha256),
    ("database_identity_sha256", .str row.databaseIdentitySha256),
    ("expected_app_name", .str row.expectedAppName),
    ("expected_schema_version", .int row.expectedSchemaVersion),
    ("expected_gateway_command_total_count", .int row.expectedGatewayCommandTotalCount),
    ("expected_order_command_count", .int row.expectedOrderCommandCount),
    ("expected_gateway_command_state_fingerprint",
      .str row.expectedGatewayCommandStateFingerprint),
    ("reason_code", .str row.reasonCode),
    ("operator_id", .str row.operatorId)]

/-- The approval a fence row stands for, as its reader rebuilds it. -/
def fenceEventRowApproval : FenceApprovalRequest where
  action := row.action
  approvalId := row.approvalId
  requestId := row.requestId
  operatorId := row.operatorId
  reasonCode := row.reasonCode
  approvalTradeDate := row.approvalTradeDate
  commandAlias := row.commandAlias
  commandId := row.commandId
  expectedPreviousFenceEventId := Text.optionalText row.supersedesFenceEventId
  expectedResolutionId := row.resolutionId
  expectedResolutionRequestHash := row.resolutionRequestHash
  expectedSourceBoundaryFingerprint := row.sourceBoundaryFingerprint
  evidenceSha256 := row.evidenceSha256
  databaseIdentitySha256 := row.databaseIdentitySha256
  expectedAppName := row.expectedAppName
  expectedSchemaVersion := row.expectedSchemaVersion
  expectedGatewayCommandTotalCount := row.expectedGatewayCommandTotalCount
  expectedOrderCommandCount := row.expectedOrderCommandCount
  expectedGatewayCommandStateFingerprint := row.expectedGatewayCommandStateFingerprint

def approvalMatches : Bool :=
  match buildOrderBrokerBoundaryFenceApproval (fenceEventRowApproval row) with
  | .ok approval => row.approvalSha256 = approval.sha256
  | .error _ => false

def fenceEventRowContractValid : Bool :=
  (row.action = fenceActionRelease || row.action = fenceActionReinstate) &&
  [row.requestHash, row.resolutionRequestHash, row.sourceBoundaryFingerprint,
    row.approvalSha256, row.evidenceSha256, row.databaseIdentitySha256,
    row.expectedGatewayCommandStateFingerprint].all isSha256 &&
  [row.fenceEventId, row.requestId, row.resolutionId, row.approvalId, row.commandAlias,
    row.reasonCode, row.operatorId].all isSafeIdentifier &&
  [row.requestId, row.approvalId, row.commandAlias, row.reasonCode, row.operatorId].all
    (fun text => !containsAccountLikeDigitSequence text) &&
  isTradeDate row.approvalTradeDate &&
  row.expectedAppName = fenceExpectedAppName &&
  row.expectedSchemaVersion = fenceExpectedSchemaVersion &&
  0 ≤ row.expectedGatewayCommandTotalCount && 0 ≤ row.expectedOrderCommandCount &&
  row.expectedOrderCommandCount ≤ row.expectedGatewayCommandTotalCount &&
  (Text.optionalText row.supersedesFenceEventId).all isSafeIdentifier &&
  isTrueColumn row.liveSimOnly && !isTrueColumn row.liveRealAllowed &&
  row.requestHash = Sha256.hexdigest (canonicalJson (fenceEventRowRequest row)) &&
  approvalMatches row

/-! ## Chains -/

structure ResolutionChain where
  active : Option ResolutionRow
  expectedSequence : Int

/-- One row of a resolution chain, refused where it does not continue it. -/
def advanceResolutionChain (chain : ResolutionChain) (row : ResolutionRow) :
    Option ResolutionChain :=
  let supersedes := Text.optionalText row.supersedesResolutionId
  if !resolutionRowContractValid host row then none
  else if row.sequenceNo ≠ chain.expectedSequence then none
  else if row.action = resolutionActionResolve then
    if chain.active.isSome ∨ supersedes.isSome then none
    else some { active := some row, expectedSequence := chain.expectedSequence + 1 }
  else if row.action = resolutionActionRevoke then
    match chain.active with
    | none => none
    | some active =>
        if supersedes ≠ some active.resolutionId then none
        else some { active := none, expectedSequence := chain.expectedSequence + 1 }
  else none

def followResolutionChain (host : Host) (chain : ResolutionChain) :
    List ResolutionRow → Bool × Option ResolutionRow
  | [] => (true, chain.active)
  | row :: rows =>
      match advanceResolutionChain host chain row with
      | none => (false, chain.active)
      | some chain => followResolutionChain host chain rows

attribute [local irreducible] advanceResolutionChain in
theorem followResolutionChain_cons (chain : ResolutionChain) (row : ResolutionRow)
    (rows : List ResolutionRow) :
    followResolutionChain host chain (row :: rows) =
      match advanceResolutionChain host chain row with
      | none => (false, chain.active)
      | some chain => followResolutionChain host chain rows :=
  rfl

def validateResolutionChain (rows : List ResolutionRow) :
    Bool × Option ResolutionRow :=
  followResolutionChain host { active := none, expectedSequence := 1 } rows

structure FenceEventChain where
  previous : Option FenceEventRow
  activeRelease : Option FenceEventRow
  expectedSequence : Int

/-- One row of a fence chain, refused where it does not continue it. -/
def advanceFenceEventChain (chain : FenceEventChain) (row : FenceEventRow) :
    Option FenceEventChain :=
  let supersedes := Text.optionalText row.supersedesFenceEventId
  if !fenceEventRowContractValid row then none
  else if row.sequenceNo ≠ chain.expectedSequence then none
  else if supersedes ≠ chain.previous.map FenceEventRow.fenceEventId then none
  else if row.action = fenceActionRelease then
    if chain.activeRelease.isSome then none
    else if (chain.previous.any fun previous => previous.action ≠ fenceActionReinstate) then none
    else some { previous := some row, activeRelease := some row,
                expectedSequence := chain.expectedSequence + 1 }
  else if row.action = fenceActionReinstate then
    match chain.activeRelease, chain.previous with
    | some activeRelease, some previous =>
        if previous.fenceEventId ≠ activeRelease.fenceEventId then none
        else if row.resolutionId ≠ activeRelease.resolutionId ∨
            row.resolutionRequestHash ≠ activeRelease.resolutionRequestHash ∨
            row.sourceBoundaryFingerprint ≠ activeRelease.sourceBoundaryFingerprint then none
        else some { previous := some row, activeRelease := none,
                    expectedSequence := chain.expectedSequence + 1 }
    | _, _ => none
  else none

def followFenceEventChain (chain : FenceEventChain) :
    List FenceEventRow → Bool × Option FenceEventRow
  | [] => (true, chain.activeRelease)
  | row :: rows =>
      match advanceFenceEventChain chain row with
      | none => (false, chain.activeRelease)
      | some chain => followFenceEventChain chain rows

attribute [local irreducible] advanceFenceEventChain in
theorem followFenceEventChain_cons (chain : FenceEventChain) (row : FenceEventRow)
    (rows : List FenceEventRow) :
    followFenceEventChain chain (row :: rows) =
      match advanceFenceEventChain chain row with
      | none => (false, chain.activeRelease)
      | some chain => followFenceEventChain chain rows :=
  rfl

def validateFenceEventChain (rows : List FenceEventRow) : Bool × Option FenceEventRow :=
  followFenceEventChain { previous := none, activeRelease := none, expectedSequence := 1 } rows

/-! ## The rows of a command -/

def inLedgerOrder (left right : Int × String × String) : Bool :=
  left.1 < right.1 ||
    (left.1 = right.1 && (left.2.1 < right.2.1 || (left.2.1 = right.2.1 && left.2.2 ≤ right.2.2)))

def resolutionOrder (row : ResolutionRow) : Int × String × String :=
  (row.sequenceNo, row.createdAt, row.resolutionId)

def fenceEventOrder : Int × String × String :=
  (row.sequenceNo, row.createdAt, row.fenceEventId)

def resolutionRowsOf (resolutions : Table ResolutionRow) (commandId : String) :
    List ResolutionRow :=
  (resolutions.rows.filter fun row => row.commandId = commandId).insertionSort
    fun left right => inLedgerOrder (resolutionOrder left) (resolutionOrder right)

def fenceEventRowsOf (fenceEvents : Table FenceEventRow) (commandId : String) :
    List FenceEventRow :=
  (fenceEvents.rows.filter fun row => row.commandId = commandId).insertionSort
    fun left right => inLedgerOrder (fenceEventOrder left) (fenceEventOrder right)

end SuseokTrader
