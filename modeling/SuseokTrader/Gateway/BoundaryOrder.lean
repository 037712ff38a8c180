import SuseokTrader.Gateway.OrderRuns
import SuseokTrader.Lib.Merging

/-!
# The boundary row does not depend on the order of events

After the first claim of an order, events, timeouts and further claims only
merge proposals into its boundary row: the state is the highest one proposed
and each stage keeps its first timestamp. None of these operations can fail
then, because the only failure is a taken idempotency key, and the first claim
has taken the key for this order.
-/

namespace SuseokTrader

open OrderBrokerBoundaryState

/-! ## Operations on one order -/

/-- The timestamp of the stage that a state begins. -/
def StateTimestamps.stage (timestamps : StateTimestamps) :
    OrderBrokerBoundaryState → Option String
  | claimed => timestamps.claimedAt
  | gatewayStarted => timestamps.gatewayStartedAt
  | preAckRecorded => timestamps.preAckRecordedAt
  | unconfirmed => timestamps.unconfirmedAt
  | brokerAccepted => timestamps.brokerAcceptedAt
  | chejanConfirmed => timestamps.chejanConfirmedAt

def BoundaryRow.stage (row : BoundaryRow) : OrderBrokerBoundaryState → Option String
  | claimed => row.claimedAt
  | gatewayStarted => row.gatewayStartedAt
  | preAckRecorded => row.preAckRecordedAt
  | unconfirmed => row.unconfirmedAt
  | brokerAccepted => row.brokerAcceptedAt
  | chejanConfirmed => row.chejanConfirmedAt

inductive BoundaryOp where
  | event (eventType : String) (payload : Payload) (eventId occurredAt : Option String)
      (now : Instant)
  | timeOut (occurredAt reason : String)
  | claim (claimedAt : String)

variable (host : Host)

/-- The operation on the order with this command id. -/
def applyBoundaryOp (commandId : String) (db : Database) :
    BoundaryOp → Option Database
  | .event eventType payload eventId occurredAt now => do
      let command ← db.commands.find? commandId
      let (_, written) ← recordOrderBrokerEvent host db command eventType payload eventId
        occurredAt now
      return written
  | .timeOut occurredAt reason =>
      markOrderCommandsUnconfirmed host db [commandId] occurredAt reason
  | .claim claimedAt => do
      let command ← db.commands.find? commandId
      claimCommand host claimedAt db command

namespace BoundaryOp

def proposal : BoundaryOp → Option OrderBrokerBoundaryState
  | event eventType payload _ _ _ => stateForEvent host eventType payload
  | timeOut _ _ => some unconfirmed
  | claim _ => some claimed

/-- The stage timestamps that the operation's proposal sets. -/
def timestamps : BoundaryOp → Option StateTimestamps
  | event eventType payload _ occurredAt now =>
      (stateForEvent host eventType payload).map fun proposedState =>
        stateTimestamps proposedState (occurredAtOr occurredAt now)
          (Text.lower (Text.strip eventType) = "order_pre_ack")
  | timeOut occurredAt _ => some (stateTimestamps unconfirmed occurredAt false)
  | claim claimedAt => some (stateTimestamps claimed claimedAt false)

def stamp (op : BoundaryOp) (place : OrderBrokerBoundaryState) : Option String :=
  (op.timestamps host).bind fun timestamps => timestamps.stage place

end BoundaryOp

/-! ## A claimed order -/

def boundaryState (commandId : String) (db : Database) : OrderBrokerBoundaryState :=
  ((db.boundaries.find? commandId).bind fun row => ofText row.state).getD claimed

def boundaryStage (commandId : String) (db : Database) (place : OrderBrokerBoundaryState) :
    Option String :=
  (db.boundaries.find? commandId).bind fun row => row.stage place

/-- The order has its boundary row, and no other row has its idempotency key. -/
structure ClaimedOrder (commandId : String) (key : Option String) (db : Database) : Prop where
  command : ∃ command, db.commands.find? commandId = some command ∧
    isOrderCommandType command.commandType = true ∧
    Text.optionalText command.idempotencyKey = key
  boundary : ∃ row, db.boundaries.find? commandId = some row ∧ row.idempotencyKey = key ∧
    ∃ state : OrderBrokerBoundaryState, row.state = state.value
  keyFree : ∀ other row, other ≠ commandId → db.boundaries.find? other = some row →
    key.isSome = true → row.idempotencyKey ≠ key

theorem keyTaken_eq_false_iff {boundaries : Table BoundaryRow} {row : BoundaryRow} :
    keyTaken boundaries row = false ↔
      ∀ commandId other, commandId ≠ row.commandId → boundaries.find? commandId = some other →
        row.idempotencyKey.isSome = true → other.idempotencyKey ≠ row.idempotencyKey := by
  rw [keyTaken, List.any_eq_false]
  constructor
  · intro free commandId other different found hasKey sameKey
    have sameId : other.commandId = commandId := Table.key_of_find? found
    apply free other (Table.mem_of_find? found)
    simp [sameId, different, hasKey, sameKey]
  · intro free other present taken
    simp only [Bool.and_eq_true, decide_eq_true_eq] at taken
    exact free other.commandId other taken.1.1 (Table.find?_of_mem present) taken.1.2 taken.2

theorem stage_mergeBoundary (existing excluded : BoundaryRow) (place : OrderBrokerBoundaryState) :
    (mergeBoundary existing excluded).stage place =
      (existing.stage place).or (excluded.stage place) := by
  cases place <;> rfl

theorem stage_excludedBoundary (command : CommandRow) (effectiveState : String)
    (proposedState : OrderBrokerBoundaryState) (payload : Payload) (eventId : Option String)
    (occurredAt : String) (preAckObserved : Bool) (place : OrderBrokerBoundaryState) :
    (excludedBoundary host command effectiveState proposedState payload eventId occurredAt
      preAckObserved).stage place =
      (stateTimestamps proposedState occurredAt preAckObserved).stage place := by
  cases place <;> rfl

variable {db : Database} {key : Option String} {commandId : String} {command : CommandRow}

variable (host : Host)

/-- A proposal for a claimed order is merged into its row. -/
theorem upsertBoundary_merges (command : CommandRow)
    (stands : ClaimedOrder command.commandId key db)
    (sameKey : Text.optionalText command.idempotencyKey = key)
    (proposedState : OrderBrokerBoundaryState) (payload : Payload) (eventId : Option String)
    (occurredAt : String) (preAckObserved : Bool) :
    ∃ state written, upsertBoundary host db command proposedState payload eventId occurredAt
        preAckObserved = some (state, written) ∧
      ClaimedOrder command.commandId key written ∧
      boundaryState command.commandId written =
        max (boundaryState command.commandId db) proposedState ∧
      ∀ place, boundaryStage command.commandId written place =
        (boundaryStage command.commandId db place).or
          ((stateTimestamps proposedState occurredAt preAckObserved).stage place) := by
  rcases stands with ⟨hasCommand, ⟨row, found, rowKey, state, isState⟩, keyFree⟩
  have mergedKey : ∀ effectiveState, (mergeBoundary row (excludedBoundary host command
      effectiveState proposedState payload eventId occurredAt
      preAckObserved)).idempotencyKey = key := by
    simp [mergeBoundary, excludedBoundary, rowKey, sameKey]
  have sameId : row.commandId = command.commandId := Table.key_of_find? found
  have free : ∀ effectiveState, keyTaken db.boundaries (mergeBoundary row (excludedBoundary host
      command effectiveState proposedState payload eventId occurredAt preAckObserved)) =
      false := by
    intro effectiveState
    rw [keyTaken_eq_false_iff, mergedKey]
    intro other otherRow different otherFound hasKey
    exact keyFree other otherRow (fun same => different (same.trans sameId.symm)) otherFound
      hasKey
  have success : ∃ result, upsertBoundary host db command proposedState payload eventId
      occurredAt preAckObserved = some result := by
    simp only [upsertBoundary, writeBoundary, excludedBoundary] at free ⊢
    simp [found, free]
  rcases success with ⟨⟨effective, written⟩, success⟩
  rcases upsertBoundary_cases success with ⟨_, same, wrote, others⟩
  rw [found, proposedBoundary, Option.map_some, Option.getD_some, Option.map_some, isState,
    resolveState_value] at wrote
  refine ⟨effective, written, success, ⟨?_, ⟨_, wrote, mergedKey _, _, rfl⟩, ?_⟩, ?_, ?_⟩
  · rw [same]
    exact hasCommand
  · intro other otherRow different otherFound
    rw [others other different] at otherFound
    exact keyFree other otherRow different otherFound
  · rw [boundaryState, boundaryState, wrote, found]
    simp [mergeBoundary, excludedBoundary, isState]
  · intro place
    rw [boundaryStage, boundaryStage, wrote, found]
    exact (stage_mergeBoundary _ _ place).trans
      (congrArg _ (stage_excludedBoundary host command _ proposedState payload eventId
        occurredAt preAckObserved place))

theorem ClaimedOrder.of_commands (stands : ClaimedOrder commandId key db)
    {commands : Table CommandRow}
    (hasCommand : ∃ command, commands.find? commandId = some command ∧
      isOrderCommandType command.commandType = true ∧
      Text.optionalText command.idempotencyKey = key) :
    ClaimedOrder commandId key { db with commands := commands } :=
  ⟨hasCommand, stands.boundary, stands.keyFree⟩

theorem updateLatestBoundaryPayload_keeps (stands : ClaimedOrder command.commandId key db)
    (payload : Payload) (eventId : Option String) (occurredAt : String) :
    ClaimedOrder command.commandId key
        (updateLatestBoundaryPayload db command payload eventId occurredAt).2 ∧
      boundaryState command.commandId
          (updateLatestBoundaryPayload db command payload eventId occurredAt).2 =
        boundaryState command.commandId db ∧
      ∀ place, boundaryStage command.commandId
          (updateLatestBoundaryPayload db command payload eventId occurredAt).2 place =
        boundaryStage command.commandId db place := by
  rcases stands with ⟨hasCommand, ⟨row, found, rowKey, state, isState⟩, keyFree⟩
  have wrote : (updateLatestBoundaryPayload db command payload eventId
      occurredAt).2.boundaries.find? command.commandId =
      some { row with
        latestPayloadJson := canonicalJson payload
        lastEventId := eventId.or row.lastEventId
        updatedAt := occurredAt } := by
    simp only [updateLatestBoundaryPayload]
    exact Table.find?_update_self found
  refine ⟨⟨hasCommand, ⟨_, wrote, rowKey, state, isState⟩, ?_⟩, ?_, ?_⟩
  · intro other otherRow different otherFound
    simp only [updateLatestBoundaryPayload] at otherFound
    rw [Table.find?_update_of_ne different] at otherFound
    exact keyFree other otherRow different otherFound
  · rw [boundaryState, boundaryState, wrote, found]
    rfl
  · intro place
    rw [boundaryStage, boundaryStage, wrote, found]
    cases place <;> rfl

theorem find?_claimed (found : db.commands.find? command.commandId = some command)
    (order : isOrderCommandType command.commandType = true)
    (sameKey : Text.optionalText command.idempotencyKey = key) (claimedAt : String) :
    ∃ row, (db.commands.updateWhere
        (fun stored => stored.commandId = command.commandId &&
          stored.status = GatewayCommandStatus.queued.value)
        (claimCommandRow (claimedStatus command) claimedAt)
        (key_claimCommandRow _ _)).find? command.commandId = some row ∧
      isOrderCommandType row.commandType = true ∧
      Text.optionalText row.idempotencyKey = key := by
  by_cases isQueued : command.status = GatewayCommandStatus.queued.value
  · refine ⟨claimCommandRow (claimedStatus command) claimedAt command, ?_, ?_, ?_⟩
    · simp [found, isQueued]
    · rw [commandType_claimCommandRow]
      exact order
    · rw [idempotencyKey_claimCommandRow]
      exact sameKey
  · refine ⟨command, ?_, order, sameKey⟩
    simp [found, isQueued]

theorem claimCommand_merges (stands : ClaimedOrder command.commandId key db)
    (found : db.commands.find? command.commandId = some command)
    (order : isOrderCommandType command.commandType = true)
    (sameKey : Text.optionalText command.idempotencyKey = key) (claimedAt : String) :
    ∃ written, claimCommand host claimedAt db command = some written ∧
      ClaimedOrder command.commandId key written ∧
      boundaryState command.commandId written =
        max (boundaryState command.commandId db) claimed ∧
      ∀ place, boundaryStage command.commandId written place =
        (boundaryStage command.commandId db place).or
          ((stateTimestamps claimed claimedAt false).stage place) := by
  have updated := stands.of_commands (find?_claimed found order sameKey claimedAt)
  rcases upsertBoundary_merges host { command with attempts := command.attempts + 1 } updated sameKey claimed
    (jsonObject host command.payloadJson) none claimedAt false with
    ⟨state, written, success, merged⟩
  refine ⟨written, ?_, merged⟩
  simp only [claimCommand, if_pos order, recordOrderCommandClaim]
  rw [success]
  rfl

/-- After the first claim of an order every operation on it merges its proposal. -/
theorem boundary_merging (nonempty : commandId ≠ "") (key : Option String) :
    Merging (applyBoundaryOp host commandId) (ClaimedOrder commandId key)
      (boundaryState commandId) (boundaryStage commandId) (BoundaryOp.proposal host)
      (BoundaryOp.stamp host) where
  merges := by
    intro db op stands
    rcases stands.command with ⟨command, found, order, sameKey⟩
    have sameId : command.commandId = commandId := Table.key_of_find? found
    subst sameId
    cases op with
    | event eventType payload eventId occurredAt now =>
        cases proposes : stateForEvent host eventType payload with
        | none =>
            rcases updateLatestBoundaryPayload_keeps stands payload eventId
              (occurredAtOr occurredAt now) with ⟨kept, level, marks⟩
            refine ⟨_, ?_, kept, ?_, ?_⟩
            · simp [applyBoundaryOp, found, recordOrderBrokerEvent, order, proposes]
            · rw [level, BoundaryOp.proposal, proposes, Option.elim_none]
            · simpa [BoundaryOp.stamp, BoundaryOp.timestamps, proposes] using marks
        | some proposedState =>
            rcases upsertBoundary_merges host command stands sameKey proposedState payload
              eventId (occurredAtOr occurredAt now)
              (Text.lower (Text.strip eventType) = "order_pre_ack") with
              ⟨state, written, success, kept, level, marks⟩
            refine ⟨written, ?_, kept, ?_, ?_⟩
            · simp [applyBoundaryOp, found, recordOrderBrokerEvent, order, proposes, success]
            · rw [level, BoundaryOp.proposal, proposes, Option.elim_some]
            · simpa [BoundaryOp.stamp, BoundaryOp.timestamps, proposes] using marks
    | timeOut occurredAt reason =>
        rcases upsertBoundary_merges host command stands sameKey unconfirmed
          [("reason", .str reason)] none occurredAt false with
          ⟨state, written, success, merged⟩
        refine ⟨written, ?_, merged⟩
        simp [applyBoundaryOp, markOrderCommandsUnconfirmed, markOrderCommandUnconfirmed,
          List.eraseDups_cons, nonempty, found, order, success]
    | claim claimedAt =>
        rcases claimCommand_merges host stands found order sameKey claimedAt with
          ⟨written, success, merged⟩
        refine ⟨written, ?_, merged⟩
        simp [applyBoundaryOp, found, success]

theorem keyTaken_of_writeBoundary {boundaries written : Table BoundaryRow}
    {excluded : BoundaryRow} (absent : boundaries.find? excluded.commandId = none)
    (success : writeBoundary boundaries excluded = some written) :
    keyTaken boundaries excluded = false := by
  rw [writeBoundary, absent] at success
  simp only [Option.ite_none_left_eq_some, Bool.not_eq_true] at success
  exact success.1

theorem claimedOrder_of_firstClaim {host : Host} {first : Database} {claimedAt : String}
    (found : db.commands.find? command.commandId = some command)
    (order : isOrderCommandType command.commandType = true)
    (unclaimed : db.boundaries.find? command.commandId = none)
    (claims : claimCommand host claimedAt db command = some first) :
    ClaimedOrder command.commandId (Text.optionalText command.idempotencyKey) first ∧
      boundaryState command.commandId first = claimed ∧
      ∀ place, boundaryStage command.commandId first place =
        if place = claimed then some claimedAt else none := by
  rcases claimCommand_cases claims with ⟨same, others, ofOrder, _⟩
  have begun := ofOrder order
  rw [unclaimed] at begun
  have free : keyTaken db.boundaries (excludedBoundary host
      { command with attempts := command.attempts + 1 } claimed.value claimed
      (jsonObject host command.payloadJson) none claimedAt false) = false := by
    simp only [claimCommand, if_pos order, recordOrderCommandClaim, upsertBoundary, unclaimed,
      Option.map_none, resolveState_none, Option.bind_eq_bind, Option.map_eq_some_iff,
      Option.bind_eq_some_iff] at claims
    rcases claims with ⟨_, ⟨_, ⟨boundaries, wrote, _⟩, _⟩, _⟩
    exact keyTaken_of_writeBoundary unclaimed wrote
  refine ⟨⟨?_, ⟨_, begun, rfl, claimed, rfl⟩, ?_⟩, ?_, ?_⟩
  · rw [same]
    exact find?_claimed found order rfl claimedAt
  · intro other row different otherFound hasKey
    rw [others other different] at otherFound
    exact keyTaken_eq_false_iff.mp free other row different otherFound hasKey
  · rw [boundaryState, begun]
    simp
  · intro place
    rw [boundaryStage, begun]
    cases place <;> rfl

/-! ## Runs on one order -/

/-- The boundary row after the operations, applied in this order. -/
def boundaryAfter (commandId : String) (first : Database) (ops : List BoundaryOp) :
    Option BoundaryRow :=
  (ops.foldlM (applyBoundaryOp host commandId) first).bind fun final =>
    final.boundaries.find? commandId

theorem boundaryAfter_eq_some {host : Host} {first final : Database} {ops : List BoundaryOp}
    (runs : ops.foldlM (applyBoundaryOp host commandId) first = some final)
    (stands : ClaimedOrder commandId key final) :
    ∃ row, boundaryAfter host commandId first ops = some row ∧
      row.state = (boundaryState commandId final).value ∧
      ∀ place, row.stage place = boundaryStage commandId final place := by
  rcases stands.boundary with ⟨row, found, _, state, isState⟩
  refine ⟨row, ?_, ?_, ?_⟩
  · rw [boundaryAfter, runs]
    exact found
  · simp [boundaryState, found, isState]
  · intro place
    rw [boundaryStage, found]
    rfl

/-- Every order of the operations on an order after its first claim leaves the same state, the
highest one proposed, and the same stages with a timestamp; along a run the state does not move
down and a stage keeps its timestamp. -/
theorem boundary_ignores_order {db first : Database} {command : CommandRow}
    {claimedAt : String} (nonempty : command.commandId ≠ "")
    (found : db.commands.find? command.commandId = some command)
    (order : isOrderCommandType command.commandType = true)
    (unclaimed : db.boundaries.find? command.commandId = none)
    (claims : claimCommand host claimedAt db command = some first) :
    (∀ ops, ∃ row, ∃ state : OrderBrokerBoundaryState,
      boundaryAfter host command.commandId first ops = some row ∧ row.state = state.value ∧
      IsGreatest {proposed | proposed = claimed ∨ ∃ op ∈ ops, op.proposal host = some proposed}
        state ∧
      ∀ place, (row.stage place).isSome = true ↔
        place = claimed ∨ ∃ op ∈ ops, (op.stamp host place).isSome = true) ∧
    (∀ ops otherOps, ops.Perm otherOps →
      ∃ row otherRow, boundaryAfter host command.commandId first ops = some row ∧
        boundaryAfter host command.commandId first otherOps = some otherRow ∧
        row.state = otherRow.state ∧
        ∀ place, (row.stage place).isSome = (otherRow.stage place).isSome) ∧
    (∀ ops later, ∃ row laterRow, ∃ state laterState : OrderBrokerBoundaryState,
      boundaryAfter host command.commandId first ops = some row ∧
        boundaryAfter host command.commandId first (ops ++ later) = some laterRow ∧
        row.state = state.value ∧ laterRow.state = laterState.value ∧ state ≤ laterState ∧
        ∀ place stamped, row.stage place = some stamped →
          laterRow.stage place = some stamped) := by
  rcases claimedOrder_of_firstClaim found order unclaimed claims with ⟨stands, level, marks⟩
  have merging := boundary_merging host nonempty (Text.optionalText command.idempotencyKey)
  refine ⟨?_, ?_, ?_⟩
  · intro ops
    rcases merging.total stands ops with ⟨final, runs, finalStands⟩
    rcases boundaryAfter_eq_some runs finalStands with ⟨row, after, isState, stages⟩
    refine ⟨row, _, after, isState, ?_, ?_⟩
    · have greatest := merging.isGreatest stands runs
      rw [level] at greatest
      exact greatest
    · intro place
      rw [stages, merging.mark_isSome_iff stands runs, marks]
      by_cases here : place = claimed
      · simp
      · simp
  · intro ops otherOps same
    rcases merging.total stands ops with ⟨final, runs, finalStands⟩
    rcases merging.total stands otherOps with ⟨otherFinal, otherRuns, otherStands⟩
    rcases boundaryAfter_eq_some runs finalStands with ⟨row, after, isState, stages⟩
    rcases boundaryAfter_eq_some otherRuns otherStands with
      ⟨otherRow, otherAfter, otherIsState, otherStages⟩
    rcases merging.perm stands runs otherRuns same with ⟨sameLevel, sameMarks⟩
    refine ⟨row, otherRow, after, otherAfter, ?_, ?_⟩
    · rw [isState, otherIsState, sameLevel]
    · intro place
      rw [stages, otherStages, sameMarks]
  · intro ops later
    rcases merging.total stands ops with ⟨final, runs, finalStands⟩
    rcases merging.total finalStands later with ⟨laterFinal, laterRuns, laterStands⟩
    have wholeRuns : (ops ++ later).foldlM (applyBoundaryOp host command.commandId) first =
        some laterFinal := by
      rw [List.foldlM_append, runs]
      exact laterRuns
    rcases boundaryAfter_eq_some runs finalStands with ⟨row, after, isState, stages⟩
    rcases boundaryAfter_eq_some wholeRuns laterStands with
      ⟨laterRow, laterAfter, laterIsState, laterStages⟩
    refine ⟨row, laterRow, _, _, after, laterAfter, isState, laterIsState,
      merging.level_mono finalStands laterRuns, ?_⟩
    intro place stamped isStamped
    rw [stages] at isStamped
    rw [laterStages]
    exact merging.mark_persists finalStands laterRuns isStamped

/-- A cancel order that waits for its first claim. -/
def waitingCancel : CommandRow where
  commandId := "cancel-1"
  commandType := "cancel_order"
  source := "live_sim"
  status := "QUEUED"
  idempotencyKey := some "key-1"
  payloadJson := "\x7b\x7d"
  payloadHash := ""
  createdAt := "2026-07-17T00:00:00Z"
  availableAt := none
  dispatchedAt := none
  completedAt := none
  expiresAt := none
  attempts := 0
  lastError := none

def waitingStore : Database :=
  { freshStore with commands := ⟨[waitingCancel], by simp⟩ }

theorem boundary_ignores_order_of_cancel :
    ∃ first, claimCommand sampleHost "2026-07-17T00:00:01Z" waitingStore waitingCancel =
        some first ∧
      ∀ ops otherOps, ops.Perm otherOps →
        ∃ row otherRow, boundaryAfter sampleHost "cancel-1" first ops = some row ∧
          boundaryAfter sampleHost "cancel-1" first otherOps = some otherRow ∧
          row.state = otherRow.state ∧
          ∀ place, (row.stage place).isSome = (otherRow.stage place).isSome := by
  have claimable : (claimCommand sampleHost "2026-07-17T00:00:01Z" waitingStore
      waitingCancel).isSome = true := by decide +kernel
  rcases Option.isSome_iff_exists.mp claimable with ⟨first, claims⟩
  exact ⟨first, claims, (boundary_ignores_order sampleHost (by decide)
    (Table.find?_of_mem List.mem_cons_self) (by decide +kernel) rfl claims).2.1⟩

end SuseokTrader
