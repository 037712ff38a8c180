import SuseokTrader.Gateway.OrderRuns

/-!
# Command status and broker boundary agree

The fence closes for every new order as soon as one command disagrees with its
boundary row. On the store's own runs this has one cause: a dispatch that
claims an order once more after its boundary has left CLAIMED. The runs without
such a claim are exactly those in which the two sides agree throughout.
-/

namespace SuseokTrader

open GatewayCommandStatus

/-- A status that names a stage of an order is the state of its boundary row. -/
def StatusAgrees (db : Database) (commandId : String) : Prop :=
  ∀ row ∈ db.commands.find? commandId, isOrderCommandType row.commandType = true →
    row.status ∈ ["CLAIMED", "GATEWAY_STARTED", "PRE_ACK_RECORDED", "BROKER_ACCEPTED",
      "CHEJAN_CONFIRMED", "UNCONFIRMED"] →
    ∃ boundary ∈ db.boundaries.find? commandId, boundary.state = row.status

/-- Every command agrees with its boundary, and the fence reports neither kind of disagreement. -/
def BooksAgree (host : Host) (db : Database) : Prop :=
  (∀ commandId, StatusAgrees db commandId) ∧
    ∀ now,
      "ORDER_COMMAND_BOUNDARY_STATE_MISMATCH" ∉
        (getOrderBrokerBoundaryStatus host db now).reasonCodes ∧
      "ORDER_BROKER_BOUNDARY_ROW_MISSING" ∉
        (getOrderBrokerBoundaryStatus host db now).reasonCodes

variable {host : Host} {db : Database} {commandId : String} {life : Lifecycle}

theorem Shows.statusAgrees_iff (shows : Shows db commandId life) :
    StatusAgrees db commandId ↔ life.Agrees := by
  rcases shows.command with ⟨row, found, showsRow⟩
  have named : ∀ status : GatewayCommandStatus,
      status.value ∈ ["CLAIMED", "GATEWAY_STARTED", "PRE_ACK_RECORDED", "BROKER_ACCEPTED",
        "CHEJAN_CONFIRMED", "UNCONFIRMED"] ↔
      status ∈ [claimed, gatewayStarted, preAckRecorded, brokerAccepted, chejanConfirmed,
        unconfirmed] := by
    intro status
    cases status <;> decide
  have boundary : (∃ boundary ∈ db.boundaries.find? commandId,
        boundary.state = life.status.value) ↔
      ∃ boundary, life.boundary = some boundary ∧ boundary.state.toStatus = life.status := by
    cases boundaryFound : db.boundaries.find? commandId with
    | none =>
        have absent := shows.boundary.none_iff.mp boundaryFound
        simp [absent]
    | some boundaryRow =>
        have showsBoundary := shows.boundary
        rw [boundaryFound] at showsBoundary
        rcases showsBoundary.of_some with ⟨view, present, sameState, _⟩
        simp [present, sameState, ← OrderBrokerBoundaryState.value_toStatus]
  simp only [StatusAgrees, found, Option.mem_some_iff, forall_eq', showsRow.order,
    showsRow.status, named, boundary, Lifecycle.Agrees]

/-! ## The counts of the fence -/

theorem isSqlOrderType_eq {row : CommandRow} (shows : ShowsCommand row life) :
    isSqlOrderType row.commandType = life.order := by
  have normalized : Text.lower (Text.strip row.commandType) = row.commandType := shows.normalized
  have lowered : Text.lower row.commandType = row.commandType := by
    rw [← normalized, Text.lower_lower]
  rw [← shows.order, isSqlOrderType, isOrderCommandType, lowered, normalized]

def InStep (life : Lifecycle) : Prop :=
  life.Coherent ∧ life.Agrees

theorem inStep_fresh (order : Bool) : InStep (Lifecycle.fresh order) :=
  ⟨Lifecycle.coherent_fresh order, Lifecycle.agrees_fresh order⟩

theorem Tracks.of_row {property : Lifecycle → Prop} {row : CommandRow}
    (tracks : ∀ commandId, Tracks property commandId db)
    (present : row ∈ db.commands.rows) :
    ∃ life, Shows db row.commandId life ∧ ShowsCommand row life ∧ property life := by
  have found := Table.find?_of_mem present
  rcases (tracks row.commandId).exists_of_mem found with ⟨life, shows, holds⟩
  rcases shows.command with ⟨other, otherFound, showsRow⟩
  have same : row = other := Option.some.inj (found.symm.trans otherFound)
  exact ⟨life, shows, same ▸ showsRow, holds⟩

theorem missingBoundaryCount_eq_zero (tracks : ∀ commandId, Tracks InStep commandId db) :
    (boundaryCounts db).missingBoundaryCount = 0 := by
  apply List.countP_eq_zero.mpr
  intro row present missing
  rcases Tracks.of_row tracks present with ⟨life, shows, showsRow, coherent, agrees⟩
  simp only [isMissingBoundary, expectsBoundary, isSqlOrderType_eq showsRow,
    Bool.and_eq_true, Bool.or_eq_true, Option.isNone_iff_eq_none] at missing
  rcases missing with ⟨⟨order, expected⟩, noRow⟩
  have noBoundary : life.boundary = none := shows.boundary.none_iff.mp noRow
  rcases expected with dispatched | named
  · rw [showsRow.wasDispatched] at dispatched
    exact coherent.claimed order dispatched noBoundary
  · rcases coherent.orderStatus order with ⟨notDispatched, notAcked⟩
    have stage : life.status ∈ [claimed, gatewayStarted, preAckRecorded, brokerAccepted,
        chejanConfirmed, unconfirmed] := by
      rw [showsRow.status] at named
      revert named notDispatched notAcked
      cases life.status <;> decide
    rcases agrees order stage with ⟨boundary, isBoundary, _⟩
    rw [noBoundary] at isBoundary
    cases isBoundary

theorem mirroredState_value {status : GatewayCommandStatus}
    (orderStatus : status ≠ dispatched ∧ status ≠ acked) :
    mirroredState status.value =
      if status ∈ [claimed, gatewayStarted, preAckRecorded, brokerAccepted, chejanConfirmed,
        unconfirmed] then some status.value
      else none := by
  revert orderStatus
  cases status <;> decide

theorem commandStateMismatchCount_eq_zero (tracks : ∀ commandId, Tracks InStep commandId db) :
    (boundaryCounts db).commandStateMismatchCount = 0 := by
  apply List.countP_eq_zero.mpr
  intro boundaryRow present mismatch
  have boundaryFound : db.boundaries.find? boundaryRow.commandId = some boundaryRow :=
    Table.find?_of_mem present
  rcases (Option.any_eq_true _ _).mp mismatch with ⟨row, found, disagrees⟩
  rcases (tracks boundaryRow.commandId).exists_of_mem found with
    ⟨life, shows, coherent, agrees⟩
  rcases shows.command with ⟨other, otherFound, showsRow⟩
  have same : row = other := Option.some.inj (found.symm.trans otherFound)
  subst same
  have showsBoundary := shows.boundary
  rw [boundaryFound] at showsBoundary
  rcases showsBoundary.of_some with ⟨view, isView, sameState, _⟩
  have order : life.order = true := by
    by_contra other
    simp only [Bool.not_eq_true] at other
    rw [coherent.noBoundary other] at isView
    cases isView
  rw [isMismatch, showsRow.status, mirroredState_value (coherent.orderStatus order)] at disagrees
  split at disagrees
  · next state mirrored =>
      split at mirrored
      · next stage =>
          rcases agrees order stage with ⟨boundary, isBoundary, agreed⟩
          rw [isView, Option.some.injEq] at isBoundary
          subst isBoundary
          rw [Option.some.injEq] at mirrored
          rw [sameState, ← mirrored, ← agreed] at disagrees
          simp at disagrees
      · cases mirrored
  · cases disagrees

theorem mem_evidenceCodes {code : String} {evidence : List Evidence} :
    code ∈ evidenceCodes evidence ↔ ∃ count, (code, count) ∈ evidence ∧ count ≠ 0 := by
  simp [evidenceCodes]

/-- The reason codes that come from the schema alone. -/
def schemaCodes : List String :=
  ["ORDER_BROKER_BOUNDARY_INDEX_MISSING", "ORDER_BROKER_BOUNDARY_RESOLUTION_SCHEMA_INVALID",
    "ORDER_BROKER_BOUNDARY_FENCE_EVENT_SCHEMA_INVALID",
    "ORDER_BROKER_BOUNDARY_RESOLUTION_SOURCE_SCHEMA_INVALID",
    "RESOLUTION_SOURCE_SCHEMA_VERSION_UNSUPPORTED"] ++
  resolutionSourceTableColumns.map fun (tableName, _) =>
    "RESOLUTION_SOURCE_SCHEMA_INVALID_" ++ Text.upper tableName

theorem mem_schemaCodes {code : String} (reported : code ∈ schemaReasonCodes db) :
    code ∈ schemaCodes := by
  have ofSource : code ∈ resolutionSourceSchemaReasonCodes db → code ∈ schemaCodes := by
    intro source
    simp only [resolutionSourceSchemaReasonCodes, List.mem_append, List.mem_map] at source
    rcases source with ⟨table, missing, rfl⟩ | unsupported
    · refine List.mem_append_right _ (List.mem_map.mpr ⟨table, ?_, rfl⟩)
      exact List.mem_of_mem_filter missing
    · split at unsupported
      · rw [List.mem_singleton] at unsupported
        subst unsupported
        simp [schemaCodes]
      · cases unsupported
  simp only [schemaReasonCodes, List.mem_append] at reported
  rcases reported with failed | source
  · simp only [failedChecks, List.mem_map, List.mem_filter] at failed
    rcases failed with ⟨check, ⟨listed, _⟩, rfl⟩
    simp only [List.mem_cons, List.not_mem_nil, or_false] at listed
    rcases listed with rfl | rfl | rfl
    all_goals simp [schemaCodes]
  · split at source
    · cases source
    · rcases List.mem_cons.mp source with rfl | source
      · simp [schemaCodes]
      · exact ofSource source

theorem reasonCodes_of_inStep (tracks : ∀ commandId, Tracks InStep commandId db)
    (now : Instant) :
    "ORDER_COMMAND_BOUNDARY_STATE_MISMATCH" ∉
        (getOrderBrokerBoundaryStatus host db now).reasonCodes ∧
      "ORDER_BROKER_BOUNDARY_ROW_MISSING" ∉
        (getOrderBrokerBoundaryStatus host db now).reasonCodes := by
  have missing := missingBoundaryCount_eq_zero tracks
  have mismatch := commandStateMismatchCount_eq_zero tracks
  simp only [getOrderBrokerBoundaryStatus]
  split
  · simp only [routingReasonCodes, List.mem_eraseDups, List.mem_append, not_or]
    refine ⟨⟨⟨?_, ?_⟩, ?_⟩, ⟨?_, ?_⟩, ?_⟩
    · exact fun reported => absurd (mem_schemaCodes reported) (by decide +kernel)
    · simp [countReasonCodes, mem_evidenceCodes, mismatch]
    · simp only [ledgerReasonCodes, List.mem_append, not_or]
      constructor
      · split <;> simp [mem_evidenceCodes]
      · simp [mem_evidenceCodes]
    · exact fun reported => absurd (mem_schemaCodes reported) (by decide +kernel)
    · simp [countReasonCodes, mem_evidenceCodes, missing]
    · simp only [ledgerReasonCodes, List.mem_append, not_or]
      constructor
      · split <;> simp [mem_evidenceCodes]
      · simp [mem_evidenceCodes]
  · simp [missingTableStatus]

/-! ## Runs -/

def selectedRows (host : Host) (db : Database) (limit : Nat) (readings : DispatchReadings) :
    List CommandRow :=
  let now := datetimeToWire readings.claim
  selectReady (expireQueued db.commands now) now (orderRoutingBlocked host db readings.fence)
    limit

/-- A dispatch that commits selects an order whose boundary row has left CLAIMED. -/
def ReclaimsOrder (host : Host) (commandId : String) (db : Database) (op : StoreOp) : Prop :=
  IsOrder db commandId ∧
    (∃ boundary ∈ db.boundaries.find? commandId, boundary.state ≠ "CLAIMED") ∧
    ∃ limit readings, op = .dispatch limit readings ∧ succeeds host db op = true ∧
      dispatchPrecheck host db readings.precheck readings.precheckFence = true ∧
      ∃ row ∈ selectedRows host db limit readings, row.commandId = commandId

theorem dispatched_iff_selected {op : StoreOp} :
    commandId ∈ dispatchedIds host db op ↔
      ∃ limit readings, op = .dispatch limit readings ∧ succeeds host db op = true ∧
        dispatchPrecheck host db readings.precheck readings.precheckFence = true ∧
        ∃ row ∈ selectedRows host db limit readings, row.commandId = commandId := by
  constructor
  · intro returned
    rcases dispatch_of_dispatched returned with ⟨limit, readings, rfl, runs, success⟩
    refine ⟨limit, readings, rfl, succeeds_dispatch runs success, runs, ?_⟩
    rcases List.mem_map.mp returned with ⟨row, present, sameId⟩
    rw [(dispatchTransaction_cases success).1] at present
    exact ⟨row, present, sameId⟩
  · rintro ⟨limit, readings, rfl, success, runs, row, present, sameId⟩
    rcases dispatchReadyCommands_cases (dispatch_of_succeeds success) with
      ⟨idle, _⟩ | ⟨_, dispatched⟩
    · rw [runs] at idle
      cases idle
    · refine List.mem_map.mpr ⟨row, ?_, sameId⟩
      rw [(dispatchTransaction_cases dispatched).1]
      exact present

theorem Shows.reclaimsOrder_iff (shows : Shows db commandId life) (op : StoreOp) :
    ReclaimsOrder host commandId db op ↔ life.ClaimsBegun (moveOf host db op commandId) := by
  have begun : (∃ boundary ∈ db.boundaries.find? commandId, boundary.state ≠ "CLAIMED") ↔
      ∃ boundary, life.boundary = some boundary ∧ boundary.state ≠ .claimed := by
    cases found : db.boundaries.find? commandId with
    | none =>
        have absent := shows.boundary.none_iff.mp found
        simp [absent]
    | some row =>
        have showsBoundary := shows.boundary
        rw [found] at showsBoundary
        rcases showsBoundary.of_some with ⟨view, isView, sameState, _⟩
        have claimedText : "CLAIMED" = OrderBrokerBoundaryState.claimed.value := rfl
        simp [isView, sameState, claimedText]
  rw [ReclaimsOrder, shows.isOrder_iff, begun, ← dispatched_iff_selected]
  constructor
  · rintro ⟨order, isBegun, returned⟩
    rcases moveOf_of_dispatched shows returned with ⟨claims, isQueued⟩
    exact ⟨claims, isQueued, order, isBegun⟩
  · rintro ⟨claims, _, order, isBegun⟩
    exact ⟨order, isBegun, dispatched_of_moveOf claims⟩

theorem tracks_inStep {op : StoreOp} (tracks : Tracks InStep commandId db)
    (keeps : ¬ ReclaimsOrder host commandId db op) :
    Tracks InStep commandId ((store host).next db op) := by
  apply tracks.next inStep_fresh
  rintro life shows ⟨coherent, agrees⟩
  refine ⟨coherent.after _, agrees.after coherent ?_⟩
  exact fun claims => keeps ((shows.reclaimsOrder_iff op).mpr claims)

theorem booksAgree_of_inStep (tracks : ∀ commandId, Tracks InStep commandId db) :
    BooksAgree host db := by
  refine ⟨fun commandId row found order => ?_, reasonCodes_of_inStep tracks⟩
  rcases (tracks commandId).exists_of_mem found with ⟨life, shows, _, agrees⟩
  exact shows.statusAgrees_iff.mpr agrees row found order

/-- The runs in which status and boundary agree throughout are those in which no dispatch claims
an order whose boundary has left CLAIMED. -/
theorem order_status_agrees_with_boundary_iff (host : Host) (catalog : Catalog)
    (appMetadata : List (String × String)) (ops : List StoreOp) :
    (store host).Throughout (BooksAgree host) (Database.empty catalog appMetadata) ops ↔
      (store host).Along (fun db op => ∀ commandId, ¬ ReclaimsOrder host commandId db op)
        (Database.empty catalog appMetadata) ops := by
  rw [System.throughout_iff]
  constructor
  · rintro ⟨_, agree⟩
    refine System.Along.imp (fun db => ∀ commandId, Tracks (fun _ => True) commandId db) ?_ ?_
      (fun commandId => tracks_empty _ _ _ _) agree
    · intro db op tracks _ commandId
      exact (tracks commandId).next (fun _ => trivial) fun _ _ _ => trivial
    · rintro db op tracks agree commandId reclaims
      rcases reclaims.1 with ⟨row, found, _⟩
      rcases (tracks commandId).exists_of_mem found with ⟨life, shows, _⟩
      apply ((shows.reclaimsOrder_iff op).mp reclaims).not_agrees
      exact (shows_next shows op).statusAgrees_iff.mp (agree.1 commandId)
  · intro along
    have initial : ∀ commandId, Tracks InStep commandId (Database.empty catalog appMetadata) :=
      fun commandId => tracks_empty _ _ _ _
    refine ⟨booksAgree_of_inStep initial, ?_⟩
    refine System.Along.imp (fun db => ∀ commandId, Tracks InStep commandId db) ?_ ?_ initial
      along
    · exact fun db op tracks keeps commandId => tracks_inStep (tracks commandId) (keeps commandId)
    · intro db op tracks keeps
      exact booksAgree_of_inStep fun commandId => tracks_inStep (tracks commandId) (keeps commandId)

/-- A rate limit after the start sends the command back to the queue, not its boundary. -/
def reclaimingRun : List StoreOp :=
  [.enqueue sampleCancel none 63900000000000000,
    dispatchAt 63900000000000000,
    eventAt "cancel-1" "command_started" 63900000001000000,
    eventAt "cancel-1" "rate_limited" 63900000002000000,
    dispatchAt 63900000010000000]

theorem order_status_disagrees :
    ¬ (store sampleHost).Throughout (BooksAgree sampleHost) freshStore reclaimingRun := by
  intro agree
  have disagrees : "ORDER_COMMAND_BOUNDARY_STATE_MISMATCH" ∈
      (getOrderBrokerBoundaryStatus sampleHost ((store sampleHost).run freshStore reclaimingRun)
        63900000011000000).reasonCodes := by decide +kernel
  exact ((agree reclaimingRun [] (List.append_nil _).symm).2 _).1 disagrees

end SuseokTrader
