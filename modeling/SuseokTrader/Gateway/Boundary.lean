import SuseokTrader.Gateway.Tables

/-!
# The broker boundary of an order command

Every order command has at most one boundary row. A claim, a gateway event and
a timeout each propose a state, and the row keeps the result of
`resolveState`. The case ladder of `resolveState` is the join of a chain of
six states; this is the theorem `resolveState_value`, and everything about
runs of proposals follows from it.

Writing a row fails when its idempotency key belongs to another command. The
functions return `none` then, and the transaction around them rolls back.
-/

namespace SuseokTrader

/-! ## The chain of states -/

namespace OrderBrokerBoundaryState

def rank : OrderBrokerBoundaryState → Nat
  | claimed => 10
  | gatewayStarted => 20
  | preAckRecorded => 30
  | unconfirmed => 35
  | brokerAccepted => 40
  | chejanConfirmed => 50

theorem rank_injective : Function.Injective rank := by
  intro left right same
  cases left <;> cases right <;> first | rfl | cases same

/-- States are ordered by their rank. -/
instance : LinearOrder OrderBrokerBoundaryState :=
  LinearOrder.lift' rank rank_injective

def ofText (text : String) : Option OrderBrokerBoundaryState :=
  all.find? fun state => state.value = Text.upper text

@[simp]
theorem ofText_value (state : OrderBrokerBoundaryState) : ofText state.value = some state := by
  cases state <;> decide

theorem upper_of_ofText {text : String} {state : OrderBrokerBoundaryState}
    (named : ofText text = some state) : Text.upper text = state.value := by
  simpa [eq_comm] using List.find?_some named

theorem ofText_eq_none {text : String} :
    ofText text = none ↔ ∀ state : OrderBrokerBoundaryState, Text.upper text ≠ state.value := by
  rw [ofText, List.find?_eq_none]
  constructor
  · intro unnamed state same
    have present : state ∈ all := by cases state <;> decide
    simpa [same] using unnamed state present
  · intro unnamed state _
    simpa using (unnamed state).symm

theorem claimed_le (state : OrderBrokerBoundaryState) : claimed ≤ state := by
  cases state <;> decide

end OrderBrokerBoundaryState

open OrderBrokerBoundaryState

def stateRank (state : String) : Nat :=
  match all.find? fun known => known.value = state with
  | some known => known.rank
  | none => 0

def resolveState (currentState : Option String) (proposedState : OrderBrokerBoundaryState) :
    String :=
  let proposed := proposedState.value
  match currentState with
  | none => proposed
  | some currentState =>
      let current := Text.upper currentState
      if current = chejanConfirmed.value then current
      else if proposed = chejanConfirmed.value then proposed
      else if proposed = brokerAccepted.value then proposed
      else if current = unconfirmed.value then current
      else if stateRank proposed ≥ stateRank current then proposed
      else current

structure StateTimestamps where
  claimedAt : Option String
  gatewayStartedAt : Option String
  preAckRecordedAt : Option String
  brokerAcceptedAt : Option String
  chejanConfirmedAt : Option String
  unconfirmedAt : Option String

def stateTimestamps (state : OrderBrokerBoundaryState) (occurredAt : String)
    (preAckObserved : Bool) : StateTimestamps where
  claimedAt := if stateRank state.value ≥ 10 then some occurredAt else none
  gatewayStartedAt :=
    if stateRank state.value ≥ 20 ∧ state ≠ unconfirmed then some occurredAt else none
  preAckRecordedAt := if preAckObserved then some occurredAt else none
  brokerAcceptedAt := if stateRank state.value ≥ 40 then some occurredAt else none
  chejanConfirmedAt := if state = chejanConfirmed then some occurredAt else none
  unconfirmedAt := if state = unconfirmed then some occurredAt else none

variable (host : Host)

/-- The state a gateway event proposes, if it proposes one. -/
def stateForEvent (eventType : String) (payload : Payload) :
    Option OrderBrokerBoundaryState :=
  let normalized := Text.lower (Text.strip eventType)
  if normalized = "command_started" then some gatewayStarted
  else if normalized = "order_pre_ack" then
    if Text.contains (Text.upper (Json.textOrEmpty host (payload.get "status")))
        "BROKER_ACCEPTED" then
      some brokerAccepted
    else some preAckRecorded
  else if normalized = "command_ack" then some brokerAccepted
  else if normalized = "order_broker_unconfirmed" then some unconfirmed
  else if normalized = "execution_event" ∨ normalized = "kiwoom_order_chejan" then
    some chejanConfirmed
  else none

/-! ## Writing the row -/

def jsonObject (text : String) : Payload :=
  ((Json.loads host.floatRepr text).bind Json.asObject).getD []

/-- The row a proposal would insert. -/
def excludedBoundary (command : CommandRow) (effectiveState : String)
    (proposedState : OrderBrokerBoundaryState) (payload : Payload) (eventId : Option String)
    (occurredAt : String) (preAckObserved : Bool) : BoundaryRow :=
  let commandPayload := jsonObject host command.payloadJson
  let details := payload.mapping "details"
  let timestamps := stateTimestamps proposedState occurredAt preAckObserved
  { commandId := command.commandId
    idempotencyKey := Text.optionalText command.idempotencyKey
    commandType := Text.lower (Text.strip command.commandType)
    source := if command.source = "" then "unknown" else command.source
    state := effectiveState
    attempts := command.attempts
    accountId := Json.firstText host
      [payload.get "account_id", payload.get "account", commandPayload.get "account_id",
        commandPayload.get "account"]
    code := Json.firstText host [payload.get "code", commandPayload.get "code"]
    side := Json.firstText host [payload.get "side", commandPayload.get "side"]
    brokerOrderNo := Json.firstText host
      [details.get "broker_order_no", details.get "broker_order_id",
        payload.get "broker_order_no", payload.get "broker_order_id"]
    brokerResultCode := Json.firstText host
      [details.get "broker_result_code", payload.get "broker_result_code"]
    brokerMessage := Json.firstText host
      [details.get "broker_message", payload.get "broker_message", payload.get "message",
        payload.get "error_message"]
    claimedAt := timestamps.claimedAt
    gatewayStartedAt := timestamps.gatewayStartedAt
    preAckRecordedAt := timestamps.preAckRecordedAt
    brokerAcceptedAt := timestamps.brokerAcceptedAt
    chejanConfirmedAt := timestamps.chejanConfirmedAt
    unconfirmedAt := timestamps.unconfirmedAt
    lastEventId := eventId
    preAckPayloadJson := if preAckObserved then canonicalJson payload else "\x7b\x7d"
    latestPayloadJson := canonicalJson payload
    createdAt := occurredAt
    updatedAt := occurredAt
    liveSimOnly := 1
    liveRealAllowed := 0 }

/-- The stored row after a conflict on the command id: what is known stays, except the broker's
own words and the latest payload. -/
def mergeBoundary (existing excluded : BoundaryRow) : BoundaryRow :=
  { existing with
    idempotencyKey := existing.idempotencyKey.or excluded.idempotencyKey
    state := excluded.state
    attempts := max existing.attempts excluded.attempts
    accountId := existing.accountId.or excluded.accountId
    code := existing.code.or excluded.code
    side := existing.side.or excluded.side
    brokerOrderNo := excluded.brokerOrderNo.or existing.brokerOrderNo
    brokerResultCode := excluded.brokerResultCode.or existing.brokerResultCode
    brokerMessage := excluded.brokerMessage.or existing.brokerMessage
    claimedAt := existing.claimedAt.or excluded.claimedAt
    gatewayStartedAt := existing.gatewayStartedAt.or excluded.gatewayStartedAt
    preAckRecordedAt := existing.preAckRecordedAt.or excluded.preAckRecordedAt
    brokerAcceptedAt := existing.brokerAcceptedAt.or excluded.brokerAcceptedAt
    chejanConfirmedAt := existing.chejanConfirmedAt.or excluded.chejanConfirmedAt
    unconfirmedAt := existing.unconfirmedAt.or excluded.unconfirmedAt
    lastEventId := excluded.lastEventId.or existing.lastEventId
    preAckPayloadJson :=
      if excluded.preAckPayloadJson ≠ "\x7b\x7d" then excluded.preAckPayloadJson
      else existing.preAckPayloadJson
    latestPayloadJson := excluded.latestPayloadJson
    updatedAt := excluded.updatedAt }

def keyTaken (boundaries : Table BoundaryRow) (row : BoundaryRow) : Bool :=
  boundaries.rows.any fun other =>
    other.commandId ≠ row.commandId && row.idempotencyKey.isSome &&
      other.idempotencyKey = row.idempotencyKey

/-- Insert the row or merge it into the command's row, unless its key is another command's. -/
def writeBoundary (boundaries : Table BoundaryRow) (excluded : BoundaryRow) :
    Option (Table BoundaryRow) :=
  match boundaries.find? excluded.commandId with
  | none => if keyTaken boundaries excluded then none else boundaries.insert? excluded
  | some existing =>
      if keyTaken boundaries (mergeBoundary existing excluded) then none
      else
        some (boundaries.update excluded.commandId
          (fun row => mergeBoundary row excluded) (fun _ => rfl))

variable (db : Database)

variable (command : CommandRow)

def upsertBoundary
    (proposedState : OrderBrokerBoundaryState) (payload : Payload) (eventId : Option String)
    (occurredAt : String) (preAckObserved : Bool) : Option (String × Database) := do
  let existing := db.boundaries.find? command.commandId
  let effectiveState := resolveState (existing.map BoundaryRow.state) proposedState
  let boundaries ← writeBoundary db.boundaries
    (excludedBoundary host command effectiveState proposedState payload eventId occurredAt
      preAckObserved)
  return (effectiveState, { db with boundaries := boundaries })

def updateLatestBoundaryPayload (payload : Payload)
    (eventId : Option String) (occurredAt : String) : Option String × Database :=
  ((db.boundaries.find? command.commandId).map BoundaryRow.state,
    { db with
      boundaries := db.boundaries.update command.commandId
        (fun row =>
          { row with
            latestPayloadJson := canonicalJson payload
            lastEventId := eventId.or row.lastEventId
            updatedAt := occurredAt })
        (fun _ => rfl) })

def occurredAtOr (occurredAt : Option String) (now : Instant) : String :=
  match occurredAt with
  | some occurredAt => if occurredAt = "" then datetimeToWire now else occurredAt
  | none => datetimeToWire now

def recordOrderCommandClaim (claimedAt : String) : Option (Option String × Database) :=
  if isOrderCommandType command.commandType then do
    let (state, db) ← upsertBoundary host db command claimed
      (jsonObject host command.payloadJson) none claimedAt false
    return (some state, db)
  else some (none, db)

def recordOrderBrokerEvent (eventType : String) (payload : Payload) (eventId : Option String)
    (occurredAt : Option String) (now : Instant) : Option (Option String × Database) :=
  if isOrderCommandType command.commandType then
    match stateForEvent host eventType payload with
    | none =>
        some (updateLatestBoundaryPayload db command payload eventId
          (occurredAtOr occurredAt now))
    | some proposedState => do
        let (state, db) ← upsertBoundary host db command proposedState payload eventId
          (occurredAtOr occurredAt now)
          (Text.lower (Text.strip eventType) = "order_pre_ack")
        return (some state, db)
  else some (none, db)

/-- One command of a timed-out batch. -/
def markOrderCommandUnconfirmed (commandId occurredAt : String)
    (reason : String) : Option Database :=
  match db.commands.find? commandId with
  | none => some db
  | some command =>
      if isOrderCommandType command.commandType then
        (upsertBoundary host db command unconfirmed [("reason", .str reason)] none occurredAt
          false).map Prod.snd
      else some db

def markOrderCommandsUnconfirmed (commandIds : List String)
    (occurredAt reason : String) : Option Database :=
  (commandIds.filter (· ≠ "")).eraseDups.foldlM
    (fun db commandId => markOrderCommandUnconfirmed host db commandId occurredAt reason) db

/-! ## What a proposal does to the state -/

@[simp]
theorem stateRank_value (state : OrderBrokerBoundaryState) :
    stateRank state.value = state.rank := by
  cases state <;> decide

theorem stateRank_of_ofText_eq_none {text : String} (unnamed : ofText text = none) :
    stateRank (Text.upper text) = 0 := by
  have missing : (all.find? fun known => known.value = Text.upper text) = none := unnamed
  rw [stateRank, missing]

@[simp]
theorem resolveState_value (current proposed : OrderBrokerBoundaryState) :
    resolveState (some current.value) proposed = (max current proposed).value := by
  cases current <;> cases proposed <;> decide

@[simp]
theorem resolveState_none (proposed : OrderBrokerBoundaryState) :
    resolveState none proposed = proposed.value :=
  rfl

theorem resolveState_eq (text : String) (proposed : OrderBrokerBoundaryState) :
    resolveState (some text) proposed =
      (((ofText text).map fun current => max current proposed).getD proposed).value := by
  cases named : ofText text with
  | some current =>
      have same : resolveState (some text) proposed = resolveState (some current.value) proposed := by
        simp only [resolveState, upper_of_ofText named, upper_value]
      rw [same, resolveState_value]
      rfl
  | none =>
      have unnamed := ofText_eq_none.mp named
      simp only [resolveState, if_neg (unnamed chejanConfirmed), if_neg (unnamed unconfirmed),
        stateRank_of_ofText_eq_none named, Nat.zero_le, if_true, ite_self]
      rfl

theorem le_resolveState (current : Option String) (proposed : OrderBrokerBoundaryState) :
    ∃ state, resolveState current proposed = state.value ∧ proposed ≤ state := by
  cases current with
  | none => exact ⟨proposed, rfl, le_rfl⟩
  | some text =>
      refine ⟨_, resolveState_eq text proposed, ?_⟩
      cases ofText text with
      | none => exact le_rfl
      | some current => exact le_max_right current proposed

/-! ## What a proposal does to the table -/

theorem find?_writeBoundary_self {boundaries written : Table BoundaryRow} {excluded : BoundaryRow}
    (success : writeBoundary boundaries excluded = some written) :
    written.find? excluded.commandId =
      some (((boundaries.find? excluded.commandId).map
        fun existing => mergeBoundary existing excluded).getD excluded) := by
  unfold writeBoundary at success
  cases found : boundaries.find? excluded.commandId with
  | none =>
      rw [found] at success
      simp only [Option.ite_none_left_eq_some] at success
      exact Table.find?_of_insert?_self success.2
  | some existing =>
      rw [found] at success
      simp only [Option.ite_none_left_eq_some, Option.some.injEq] at success
      rw [← success.2]
      exact Table.find?_update_self found

theorem find?_writeBoundary_of_ne {boundaries written : Table BoundaryRow}
    {excluded : BoundaryRow} {commandId : String}
    (success : writeBoundary boundaries excluded = some written)
    (different : commandId ≠ excluded.commandId) :
    written.find? commandId = boundaries.find? commandId := by
  unfold writeBoundary at success
  cases found : boundaries.find? excluded.commandId with
  | none =>
      rw [found] at success
      simp only [Option.ite_none_left_eq_some] at success
      exact Table.find?_of_insert?_of_ne success.2 different.symm
  | some existing =>
      rw [found] at success
      simp only [Option.ite_none_left_eq_some, Option.some.injEq] at success
      rw [← success.2]
      exact Table.find?_update_of_ne different

/-- The row a proposal leaves for its command. -/
def proposedBoundary (existing : Option BoundaryRow)
    (proposedState : OrderBrokerBoundaryState) (payload : Payload) (eventId : Option String)
    (occurredAt : String) (preAckObserved : Bool) : BoundaryRow :=
  let excluded := excludedBoundary host command
    (resolveState (existing.map BoundaryRow.state) proposedState) proposedState payload eventId
    occurredAt preAckObserved
  (existing.map fun existing => mergeBoundary existing excluded).getD excluded

theorem upsertBoundary_cases {host : Host} {db written : Database} {command : CommandRow}
    {proposedState : OrderBrokerBoundaryState} {payload : Payload} {eventId : Option String}
    {occurredAt state : String} {preAckObserved : Bool}
    (success : upsertBoundary host db command proposedState payload eventId occurredAt
      preAckObserved = some (state, written)) :
    state = resolveState ((db.boundaries.find? command.commandId).map BoundaryRow.state)
        proposedState ∧
      written = { db with boundaries := written.boundaries } ∧
      written.boundaries.find? command.commandId =
        some (proposedBoundary host command (db.boundaries.find? command.commandId)
          proposedState payload eventId occurredAt preAckObserved) ∧
      ∀ commandId, commandId ≠ command.commandId →
        written.boundaries.find? commandId = db.boundaries.find? commandId := by
  simp only [upsertBoundary, Option.bind_eq_bind, Option.bind_eq_some_iff, Option.pure_def,
    Option.some.injEq] at success
  rcases success with ⟨boundaries, wrote, rfl, rfl⟩
  refine ⟨rfl, rfl, find?_writeBoundary_self wrote, ?_⟩
  intro commandId different
  exact find?_writeBoundary_of_ne wrote different

@[simp]
theorem state_proposedBoundary
    (existing : Option BoundaryRow) (proposedState : OrderBrokerBoundaryState)
    (payload : Payload) (eventId : Option String) (occurredAt : String)
    (preAckObserved : Bool) :
    (proposedBoundary host command existing proposedState payload eventId occurredAt
      preAckObserved).state = resolveState (existing.map BoundaryRow.state) proposedState := by
  cases existing <;> rfl

end SuseokTrader
