import SuseokTrader.Gateway.BoundaryOrder
import SuseokTrader.Gateway.OrderRuns

/-!
# The keys of a dispatched batch

A dedupe entry is dropped when its command expires, and the boundary row of an
order keeps the order's key for good. A key used again after the entry is gone
therefore meets the old boundary row, and the dispatch that would claim the
new order rolls back. `KeysFiled` is what all boundary rows of a reachable
store have in common, and under it a batch can be claimed exactly when its
orders have keys of their own.
-/

namespace SuseokTrader

open GatewayCommandStatus

/-! ## Keys on file -/

def boundaryKey (db : Database) (commandId : String) : Option String :=
  (db.commands.find? commandId).bind fun row => Text.optionalText row.idempotencyKey

/-- Boundary rows carry the keys of stored commands, and no two rows one key. -/
structure KeysFiled (db : Database) : Prop where
  filed : ∀ commandId boundary, db.boundaries.find? commandId = some boundary →
    (db.commands.find? commandId).isSome = true ∧
      boundary.idempotencyKey = boundaryKey db commandId
  distinct : ∀ left right, (db.boundaries.find? left).isSome = true →
    (db.boundaries.find? right).isSome = true → (boundaryKey db left).isSome = true →
    boundaryKey db left = boundaryKey db right → left = right

def KeepsKeys (commands written : Table CommandRow) : Prop :=
  ∀ commandId row, commands.find? commandId = some row →
    ∃ after, written.find? commandId = some after ∧ after.idempotencyKey = row.idempotencyKey

variable (commands : Table CommandRow)

theorem KeepsKeys.refl : KeepsKeys commands commands :=
  fun _ row found => ⟨row, found, rfl⟩

theorem KeepsKeys.trans {first second third : Table CommandRow} (here : KeepsKeys first second)
    (later : KeepsKeys second third) : KeepsKeys first third := by
  intro commandId row found
  rcases here commandId row found with ⟨next, nextFound, same⟩
  rcases later commandId next nextFound with ⟨after, afterFound, sameAfter⟩
  exact ⟨after, afterFound, sameAfter.trans same⟩

theorem keepsKeys_updateWhere (condition : CommandRow → Bool)
    {change : CommandRow → CommandRow} (keeps : ∀ row, Keyed.key (change row) = Keyed.key row)
    (keepsKey : ∀ row, (change row).idempotencyKey = row.idempotencyKey) :
    KeepsKeys commands (commands.updateWhere condition change keeps) := by
  intro commandId row found
  rw [Table.find?_updateWhere, found, Option.map_some]
  refine ⟨_, rfl, ?_⟩
  split
  · exact keepsKey row
  · rfl

variable {host : Host} {db written : Database}

variable {commandId now : String} {command row : CommandRow} {payload : Payload}
  {eventId : Option String} {rows : List CommandRow}

theorem KeepsKeys.stored (keeps : KeepsKeys db.commands written.commands)
    (stored : (db.commands.find? commandId).isSome = true) :
    (written.commands.find? commandId).isSome = true ∧
      boundaryKey written commandId = boundaryKey db commandId := by
  rcases Option.isSome_iff_exists.mp stored with ⟨row, found⟩
  rcases keeps commandId row found with ⟨after, afterFound, same⟩
  simp only [boundaryKey, found, afterFound, Option.isSome_some, Option.bind_some, same,
    and_self]

theorem KeysFiled.kept (filed : KeysFiled db)
    (keeps : KeepsKeys db.commands written.commands)
    (boundaries : ∀ commandId,
      (written.boundaries.find? commandId).map BoundaryRow.idempotencyKey =
        (db.boundaries.find? commandId).map BoundaryRow.idempotencyKey) :
    KeysFiled written := by
  have earlier : ∀ {commandId}, (written.boundaries.find? commandId).isSome = true →
      (db.boundaries.find? commandId).isSome = true := by
    intro commandId present
    rw [← Option.isSome_map (f := BoundaryRow.idempotencyKey), ← boundaries commandId,
      Option.isSome_map]
    exact present
  have stored : ∀ {commandId}, (db.boundaries.find? commandId).isSome = true →
      (db.commands.find? commandId).isSome = true := by
    intro commandId present
    rcases Option.isSome_iff_exists.mp present with ⟨boundary, found⟩
    exact (filed.filed commandId boundary found).1
  constructor
  · intro commandId boundary found
    have present : (db.boundaries.find? commandId).isSome = true :=
      earlier (Option.isSome_of_mem found)
    rcases keeps.stored (stored present) with ⟨isStored, sameKey⟩
    refine ⟨isStored, ?_⟩
    rcases Option.isSome_iff_exists.mp present with ⟨before, beforeFound⟩
    have same := boundaries commandId
    rw [found, beforeFound, Option.map_some, Option.map_some, Option.some.injEq] at same
    rw [same, sameKey]
    exact (filed.filed commandId before beforeFound).2
  · intro left right hasLeft hasRight hasKey same
    rw [(keeps.stored (stored (earlier hasLeft))).2] at hasKey same
    rw [(keeps.stored (stored (earlier hasRight))).2] at same
    exact filed.distinct left right (earlier hasLeft) (earlier hasRight) hasKey same

/-! ## Proposals -/

def KeyFree (db : Database) (commandId : String) : Prop :=
  ∀ other, other ≠ commandId → (db.boundaries.find? other).isSome = true →
    (boundaryKey db commandId).isSome = true → boundaryKey db other ≠ boundaryKey db commandId

def StoredWithKey (commands : Table CommandRow) (command : CommandRow) : Prop :=
  ∃ stored, commands.find? command.commandId = some stored ∧
    stored.idempotencyKey = command.idempotencyKey

theorem storedWithKey_self {commands : Table CommandRow}
    (found : commands.find? command.commandId = some command) : StoredWithKey commands command :=
  ⟨command, found, rfl⟩

theorem StoredWithKey.kept {commands written : Table CommandRow}
    (stored : StoredWithKey commands command) (keeps : KeepsKeys commands written) :
    StoredWithKey written command := by
  rcases stored with ⟨before, found, sameKey⟩
  rcases keeps command.commandId before found with ⟨after, afterFound, same⟩
  exact ⟨after, afterFound, same.trans sameKey⟩

theorem StoredWithKey.isSome (stored : StoredWithKey db.commands command) :
    (db.commands.find? command.commandId).isSome = true := by
  rcases stored with ⟨before, found, _⟩
  exact Option.isSome_of_mem found

theorem StoredWithKey.boundaryKey (stored : StoredWithKey db.commands command) :
    boundaryKey db command.commandId = Text.optionalText command.idempotencyKey := by
  rcases stored with ⟨before, found, sameKey⟩
  simp only [SuseokTrader.boundaryKey, found, Option.bind_some, sameKey]

theorem idempotencyKey_proposedBoundary (filed : KeysFiled db)
    (stored : StoredWithKey db.commands command) (proposedState : OrderBrokerBoundaryState)
    (payload : Payload) (eventId : Option String) (occurredAt : String) (preAckObserved : Bool) :
    (proposedBoundary host command (db.boundaries.find? command.commandId) proposedState payload
      eventId occurredAt preAckObserved).idempotencyKey = boundaryKey db command.commandId := by
  have key := stored.boundaryKey
  cases existing : db.boundaries.find? command.commandId with
  | none =>
      rw [key]
      rfl
  | some boundary =>
      have isFiled := (filed.filed command.commandId boundary existing).2
      simp only [proposedBoundary, Option.map_some, Option.getD_some, mergeBoundary,
        excludedBoundary, isFiled, key, Option.or_self]

theorem commandId_proposedBoundary_find (host : Host) (db : Database) (command : CommandRow)
    (proposedState : OrderBrokerBoundaryState) (payload : Payload) (eventId : Option String)
    (occurredAt : String) (preAckObserved : Bool) :
    (proposedBoundary host command (db.boundaries.find? command.commandId) proposedState payload
      eventId occurredAt preAckObserved).commandId = command.commandId := by
  cases existing : db.boundaries.find? command.commandId with
  | none => rfl
  | some boundary =>
      exact Table.key_of_find? existing

theorem writeBoundary_isSome_iff (boundaries : Table BoundaryRow) (excluded : BoundaryRow) :
    (writeBoundary boundaries excluded).isSome = true ↔
      keyTaken boundaries (((boundaries.find? excluded.commandId).map
        fun existing => mergeBoundary existing excluded).getD excluded) = false := by
  rw [writeBoundary]
  cases existing : boundaries.find? excluded.commandId with
  | none =>
      have fresh : (boundaries.insert? excluded).isSome = true :=
        Table.insert?_isSome_iff.mpr existing
      cases taken : keyTaken boundaries excluded <;> simp [taken, fresh]
  | some boundary =>
      cases taken : keyTaken boundaries (mergeBoundary boundary excluded) <;> simp

theorem upsertBoundary_isSome_iff (filed : KeysFiled db)
    (stored : StoredWithKey db.commands command) (proposedState : OrderBrokerBoundaryState)
    (payload : Payload) (eventId : Option String) (occurredAt : String) (preAckObserved : Bool) :
    (upsertBoundary host db command proposedState payload eventId occurredAt
        preAckObserved).isSome = true ↔ KeyFree db command.commandId := by
  have written : (upsertBoundary host db command proposedState payload eventId occurredAt
      preAckObserved).isSome = true ↔ keyTaken db.boundaries (proposedBoundary host command
        (db.boundaries.find? command.commandId) proposedState payload eventId occurredAt
        preAckObserved) = false := by
    simp only [upsertBoundary, Option.bind_eq_bind, Option.isSome_bind]
    exact writeBoundary_isSome_iff ..
  rw [written, keyTaken_eq_false_iff, commandId_proposedBoundary_find,
    idempotencyKey_proposedBoundary filed stored]
  constructor
  · intro free other different present hasKey same
    rcases Option.isSome_iff_exists.mp present with ⟨boundary, boundaryFound⟩
    apply free other boundary different boundaryFound hasKey
    rw [(filed.filed other boundary boundaryFound).2, same]
  · intro free other boundary different boundaryFound hasKey same
    apply free other different (Option.isSome_of_mem boundaryFound) hasKey
    rw [← same, (filed.filed other boundary boundaryFound).2]

/-- A proposal for a stored command keeps the keys on file. -/
theorem KeysFiled.after_upsert (filed : KeysFiled db) {proposedState : OrderBrokerBoundaryState}
    {occurredAt state : String} {preAckObserved : Bool}
    (stored : StoredWithKey db.commands command)
    (success : upsertBoundary host db command proposedState payload eventId occurredAt
      preAckObserved = some (state, written)) : KeysFiled written := by
  have free : KeyFree db command.commandId :=
    (upsertBoundary_isSome_iff filed stored ..).mp (Option.isSome_of_mem success)
  rcases upsertBoundary_cases success with ⟨_, same, proposed, others⟩
  have keys : ∀ commandId, boundaryKey written commandId = boundaryKey db commandId := by
    intro commandId
    rw [same, boundaryKey, boundaryKey]
  have earlier : ∀ commandId, commandId ≠ command.commandId →
      (written.boundaries.find? commandId).isSome = true →
        (db.boundaries.find? commandId).isSome = true := by
    intro commandId different present
    rw [← others commandId different]
    exact present
  constructor
  · intro commandId boundary boundaryFound
    by_cases isCommand : commandId = command.commandId
    · subst isCommand
      rw [proposed, Option.some.injEq] at boundaryFound
      rw [same, ← boundaryFound]
      exact ⟨stored.isSome, idempotencyKey_proposedBoundary filed stored ..⟩
    · rw [others commandId isCommand] at boundaryFound
      rw [same]
      exact filed.filed commandId boundary boundaryFound
  · intro left right hasLeft hasRight hasKey sameKeys
    rw [keys] at hasKey sameKeys
    rw [keys] at sameKeys
    by_cases isLeft : left = command.commandId
    · by_cases isRight : right = command.commandId
      · rw [isLeft, isRight]
      · subst isLeft
        exact absurd sameKeys.symm (free right isRight (earlier right isRight hasRight) hasKey)
    · by_cases isRight : right = command.commandId
      · subst isRight
        rw [sameKeys] at hasKey
        exact absurd sameKeys (free left isLeft (earlier left isLeft hasLeft) hasKey)
      · exact filed.distinct left right (earlier left isLeft hasLeft)
          (earlier right isRight hasRight) hasKey sameKeys

theorem KeysFiled.keyFree (filed : KeysFiled db)
    (present : (db.boundaries.find? commandId).isSome = true) : KeyFree db commandId := by
  intro other different otherPresent hasKey same
  rw [← same] at hasKey
  exact different (filed.distinct other commandId otherPresent present hasKey same)

/-! ## Steps that keep the keys on file -/

theorem keysFiled_empty (catalog : Catalog) (appMetadata : List (String × String)) :
    KeysFiled (Database.empty catalog appMetadata) where
  filed := by
    intro commandId boundary found
    cases found
  distinct := by
    intro left right present
    cases present

theorem KeysFiled.after_enqueue (filed : KeysFiled db) {command : GatewayCommand}
    {expiresAt : Option Instant} {now : Instant} {result : EnqueueCommandResult}
    (success : enqueueCommand host db command expiresAt now = .ok (result, written)) :
    KeysFiled written := by
  apply filed.kept
  · intro commandId row found
    exact ⟨row, (enqueueCommand_frame success found).command.trans found, rfl⟩
  · intro commandId
    rcases enqueueCommand_cases success with same | ⟨commands, _, same⟩ <;> rw [same]

theorem KeysFiled.after_latestPayload (filed : KeysFiled db) (command : CommandRow)
    (payload : Payload) (eventId : Option String) (occurredAt : String) :
    KeysFiled (updateLatestBoundaryPayload db command payload eventId occurredAt).2 := by
  refine filed.kept ?_ ?_
  · exact KeepsKeys.refl _
  intro commandId
  simp only [updateLatestBoundaryPayload]
  by_cases isCommand : commandId = command.commandId
  · subst isCommand
    cases found : db.boundaries.find? command.commandId with
    | none => rw [Table.find?_update_of_none found, found]
    | some boundary => rw [Table.find?_update_self found, Option.map_some, Option.map_some]
  · rw [Table.find?_update_of_ne isCommand]

theorem KeysFiled.after_orderEvent (filed : KeysFiled db) {eventType : String}
    {occurredAt : Option String} {now : Instant} {state : Option String}
    (found : db.commands.find? command.commandId = some command)
    (success : recordOrderBrokerEvent host db command eventType payload eventId occurredAt now =
      some (state, written)) : KeysFiled written := by
  simp only [recordOrderBrokerEvent] at success
  split at success
  · split at success
    · rw [Option.some.injEq] at success
      have same : written = (updateLatestBoundaryPayload db command payload eventId
          (occurredAtOr occurredAt now)).2 := by rw [success]
      rw [same]
      exact filed.after_latestPayload ..
    · simp only [Option.bind_eq_bind, Option.bind_eq_some_iff, Option.pure_def,
        Option.some.injEq, Prod.mk.injEq] at success
      rcases success with ⟨⟨effective, after⟩, wrote, _, rfl⟩
      exact filed.after_upsert (storedWithKey_self found) wrote
  · rw [Option.some.injEq, Prod.mk.injEq] at success
    rw [← success.2]
    exact filed

theorem KeysFiled.after_updateCommand (filed : KeysFiled db) (commandId : String)
    {change : CommandRow → CommandRow} (keeps : ∀ row, (change row).commandId = row.commandId)
    (keepsKey : ∀ row, (change row).idempotencyKey = row.idempotencyKey) :
    KeysFiled (updateCommand db commandId change keeps) := by
  refine filed.kept ?_ fun _ => rfl
  exact keepsKeys_updateWhere db.commands _ keeps keepsKey

theorem KeysFiled.after_event (filed : KeysFiled db) {eventType : String}
    {occurredAt : Option String} {now : Instant} {status : Option GatewayCommandStatus}
    (success : recordCommandEvent host db commandId eventType payload eventId occurredAt now =
      .ok (status, written)) : KeysFiled written := by
  rcases recordCommandEvent_cases success with ⟨nextStatus, bounded, logged, bounds, logs, ends⟩
  have boundedFiled : KeysFiled bounded := by
    cases found : db.commands.find? commandId with
    | none =>
        rw [found, eventBoundary_none, Except.ok.injEq, Prod.mk.injEq] at bounds
        rw [← bounds.2]
        exact filed
    | some row =>
        rw [found] at bounds
        cases order : isOrderCommandType row.commandType with
        | true =>
            rcases eventBoundary_order order bounds with ⟨state, records, _⟩
            have sameId : row.commandId = commandId := Table.key_of_find? found
            exact filed.after_orderEvent (sameId ▸ found) records
        | false =>
            rw [eventBoundary_other order, Except.ok.injEq, Prod.mk.injEq] at bounds
            rw [← bounds.2]
            exact filed
  have loggedFiled : KeysFiled logged := by
    rw [logs]
    exact boundedFiled.kept (KeepsKeys.refl _) fun _ => rfl
  rcases ends with ⟨_, _, _, rfl⟩ | ⟨_, _, wait, _, rfl⟩ | ⟨_, _, rfl⟩ |
    ⟨_, next, completedAt, lastError, _, rfl⟩
  · exact loggedFiled
  · exact loggedFiled.after_updateCommand _ _ fun _ => rfl
  · exact loggedFiled
  · exact loggedFiled.after_updateCommand _ _ fun _ => rfl

/-! ## Sweeps -/

def sweptCommands (time cutoff : String) : Table CommandRow :=
  unconfirmStaleOrders (failStaleCommands commands time cutoff) cutoff

theorem keepsKeys_sweptCommands (time cutoff : String) :
    KeepsKeys commands (sweptCommands commands time cutoff) := by
  have fails := (keepsKeys_updateWhere commands (isExpiredQueued time) (key_expireRow time)
    fun _ => rfl).trans (keepsKeys_updateWhere _ (isTimedOutDispatched cutoff)
      (key_failTimedOutRow time) fun _ => rfl)
  exact fails.trans (keepsKeys_updateWhere _ (isUnconfirmedOrder cutoff) key_unconfirmRow
    fun _ => rfl)

/-- Orders that have a boundary row can be marked as unconfirmed. -/
theorem KeysFiled.marks_succeed (host : Host) (filed : KeysFiled db) {commandIds : List String}
    (present : ∀ commandId ∈ commandIds, (db.boundaries.find? commandId).isSome = true)
    (occurredAt reason : String) :
    ∃ written, commandIds.foldlM (fun db commandId =>
        markOrderCommandUnconfirmed host db commandId occurredAt reason) db = some written ∧
      KeysFiled written := by
  induction commandIds generalizing db with
  | nil => exact ⟨db, rfl, filed⟩
  | cons commandId commandIds ih =>
      simp only [List.foldlM_cons]
      cases found : db.commands.find? commandId with
      | none =>
          simp only [markOrderCommandUnconfirmed, found]
          exact ih filed fun other later => present other (List.mem_cons_of_mem _ later)
      | some row =>
          cases order : isOrderCommandType row.commandType with
          | false =>
              simp only [markOrderCommandUnconfirmed, found, order]
              exact ih filed fun other later => present other (List.mem_cons_of_mem _ later)
          | true =>
              have sameId : row.commandId = commandId := Table.key_of_find? found
              subst sameId
              have free := filed.keyFree (present row.commandId List.mem_cons_self)
              have goesThrough : (upsertBoundary host db row .unconfirmed
                  [("reason", .str reason)] none occurredAt false).isSome = true :=
                (upsertBoundary_isSome_iff filed (storedWithKey_self found) ..).mpr free
              rcases Option.isSome_iff_exists.mp goesThrough with ⟨⟨state, marked⟩, wrote⟩
              simp only [markOrderCommandUnconfirmed, found, order, wrote]
              apply ih (filed.after_upsert (storedWithKey_self found) wrote)
              intro other later
              rcases upsertBoundary_cases wrote with ⟨_, _, proposed, others⟩
              by_cases same : other = row.commandId
              · rw [same, proposed]
                rfl
              · rw [others other same]
                exact present other (List.mem_cons_of_mem _ later)

theorem boundary_of_isUnconfirmedOrder {cutoff : String}
    (coherent : Tracks Lifecycle.Coherent commandId db)
    (found : db.commands.find? commandId = some row)
    (stale : isUnconfirmedOrder cutoff row = true) :
    (db.boundaries.find? commandId).isSome = true := by
  rcases coherent with absent | ⟨life, shows, isCoherent⟩
  · rw [absent.command] at found
    cases found
  · rcases shows.command with ⟨stored, storedFound, showsRow⟩
    rw [found, Option.some.injEq] at storedFound
    subst storedFound
    have order := (isUnconfirmedOrder_status showsRow stale).2
    have wasDispatched : life.wasDispatched = true := by
      rw [← showsRow.wasDispatched]
      simp only [isUnconfirmedOrder, reached] at stale
      cases dispatchedAt : row.dispatchedAt with
      | none => simp [dispatchedAt] at stale
      | some time => rfl
    rw [Option.isSome_iff_ne_none]
    intro missing
    exact isCoherent.claimed order wasDispatched (shows.boundary.none_iff.mp missing)

/-- A sweep of a reachable store never fails. -/
theorem KeysFiled.sweep_succeeds (filed : KeysFiled db)
    (coherent : ∀ commandId, Tracks Lifecycle.Coherent commandId db)
    (dispatchedTimeoutSec : Int) (now : Instant) :
    ∃ counts written, expireStaleGatewayCommands host db dispatchedTimeoutSec now =
      some (counts, written) ∧ KeysFiled written := by
  simp only [expireStaleGatewayCommands]
  split
  · exact ⟨_, db, rfl, filed⟩
  · generalize datetimeToWire now = time
    generalize dispatchedCutoff now dispatchedTimeoutSec = cutoff
    have sweptFiled : KeysFiled
        { db with commands := sweptCommands db.commands time cutoff } := by
      refine filed.kept ?_ fun _ => rfl
      exact keepsKeys_sweptCommands db.commands time cutoff
    have present : ∀ commandId ∈
        ((staleOrderIds (failStaleCommands db.commands time cutoff) cutoff).filter
          (· ≠ "")).eraseDups, (db.boundaries.find? commandId).isSome = true := by
      intro commandId listed
      rw [List.mem_eraseDups, List.mem_filter] at listed
      cases found : db.commands.find? commandId with
      | none =>
          rcases List.mem_map.mp listed.1 with ⟨row, isRow, rfl⟩
          have rowFound := Table.find?_of_mem (List.mem_of_mem_filter isRow)
          simp only [failStaleCommands] at rowFound
          rw [Table.find?_updateWhere, Table.find?_updateWhere] at rowFound
          have missing : db.commands.find? (Keyed.key row) = none := found
          rw [missing] at rowFound
          cases rowFound
      | some row =>
          have stale := ((find?_sweep found time cutoff).2.mp listed.1).2.2
          exact boundary_of_isUnconfirmedOrder (coherent commandId) found stale
    rcases sweptFiled.marks_succeed host present time
      "Gateway order command timed out before durable broker confirmation." with
      ⟨marked, marks, markedFiled⟩
    simp only [sweptCommands] at marks
    simp only [markOrderCommandsUnconfirmed, marks]
    refine ⟨_, _, rfl, ?_⟩
    rw [upsertCommandQueueHealth, upsertGatewayStatus_database]
    exact markedFiled.kept (KeepsKeys.refl _) fun _ => rfl

/-! ## Dispatches -/

def HasBoundaryAfter (db : Database) (rows : List CommandRow) (commandId : String) : Prop :=
  (db.boundaries.find? commandId).isSome = true ∨
    ∃ row ∈ rows, row.commandId = commandId ∧ isOrderCommandType row.commandType = true

/-- The key of every order of the batch is its own: no other command that has a boundary row, or
gets one from the batch, has this key. -/
def KeysOwn (db : Database) (rows : List CommandRow) : Prop :=
  ∀ row ∈ rows, isOrderCommandType row.commandType = true →
    ∀ other, other ≠ row.commandId → HasBoundaryAfter db rows other →
      (boundaryKey db row.commandId).isSome = true →
        boundaryKey db other ≠ boundaryKey db row.commandId

def markDispatched (commands : Table CommandRow) (now : String) (row : CommandRow) :
    Table CommandRow :=
  commands.updateWhere
    (fun stored => stored.commandId = row.commandId && stored.status = queued.value)
    (claimCommandRow (claimedStatus row) now) (key_claimCommandRow_claimed row now)

theorem keepsKeys_markDispatched (now : String)
    (row : CommandRow) : KeepsKeys commands (markDispatched commands now row) :=
  keepsKeys_updateWhere commands _ _ (idempotencyKey_claimCommandRow _ _)

theorem claimCommand_eq (host : Host) (now : String) (db : Database) (row : CommandRow) :
    claimCommand host now db row =
      if isOrderCommandType row.commandType then
        (upsertBoundary host { db with commands := markDispatched db.commands now row }
          { row with attempts := row.attempts + 1 } .claimed (jsonObject host row.payloadJson)
          none now false).map Prod.snd
      else some { db with commands := markDispatched db.commands now row } := by
  cases order : isOrderCommandType row.commandType with
  | false => simp only [claimCommand, order, markDispatched, Bool.false_eq_true, if_false]
  | true =>
      simp only [claimCommand, order, markDispatched, recordOrderCommandClaim]
      generalize upsertBoundary host _ _ _ _ _ _ _ = proposal
      cases proposal <;> rfl

theorem KeysFiled.keyFree_iff (filed : KeysFiled db)
    (keeps : KeepsKeys db.commands written.commands) (same : written.boundaries = db.boundaries)
    (stored : (db.commands.find? commandId).isSome = true) :
    KeyFree written commandId ↔ KeyFree db commandId := by
  have sameOther : ∀ other, (db.boundaries.find? other).isSome = true →
      boundaryKey written other = boundaryKey db other := by
    intro other present
    rcases Option.isSome_iff_exists.mp present with ⟨boundary, found⟩
    exact (keeps.stored (filed.filed other boundary found).1).2
  have sameKey := (keeps.stored stored).2
  rw [KeyFree, same, sameKey]
  constructor
  · intro free other different present hasKey
    rw [← sameOther other present]
    exact free other different present hasKey
  · intro free other different present hasKey
    rw [sameOther other present]
    exact free other different present hasKey

theorem KeysFiled.after_markDispatched (filed : KeysFiled db) (now : String)
    (row : CommandRow) :
    KeysFiled { db with commands := markDispatched db.commands now row } := by
  refine filed.kept ?_ fun _ => rfl
  exact keepsKeys_markDispatched db.commands now row

/-- The claim of one stored command goes through exactly when it is no order or its key is
free. -/
theorem KeysFiled.claimCommand_isSome_iff (filed : KeysFiled db)
    (stored : StoredWithKey db.commands row) (now : String) :
    (claimCommand host now db row).isSome = true ↔
      (isOrderCommandType row.commandType = true → KeyFree db row.commandId) := by
  have keeps := keepsKeys_markDispatched db.commands now row
  rw [claimCommand_eq]
  cases order : isOrderCommandType row.commandType with
  | false => simp
  | true =>
      simp only [if_true, Option.isSome_map, forall_const]
      refine (upsertBoundary_isSome_iff (filed.after_markDispatched now row) ?_ ..).trans ?_
      · exact stored.kept keeps
      · refine filed.keyFree_iff ?_ ?_ stored.isSome
        · exact keeps
        · rfl

theorem KeysFiled.after_claim (filed : KeysFiled db) (stored : StoredWithKey db.commands row)
    (success : claimCommand host now db row = some written) : KeysFiled written := by
  have keeps := keepsKeys_markDispatched db.commands now row
  have markedFiled := filed.after_markDispatched now row
  rw [claimCommand_eq] at success
  split at success
  · rcases Option.map_eq_some_iff.mp success with ⟨⟨state, result⟩, wrote, rfl⟩
    refine markedFiled.after_upsert ?_ wrote
    exact stored.kept keeps
  · rw [Option.some.injEq] at success
    rw [← success]
    exact markedFiled

theorem keepsKeys_claimCommand (success : claimCommand host now db row = some written) :
    KeepsKeys db.commands written.commands := by
  have same : written.commands = markDispatched db.commands now row := by
    rw [(claimCommand_cases success).1, markDispatched]
  rw [same]
  exact keepsKeys_markDispatched db.commands now row

theorem boundary_claimCommand_iff (success : claimCommand host now db row = some written)
    (commandId : String) :
    (written.boundaries.find? commandId).isSome = true ↔ HasBoundaryAfter db [row] commandId := by
  rcases claimCommand_cases success with ⟨_, others, ofOrder, ofOther⟩
  simp only [HasBoundaryAfter, List.mem_singleton, exists_eq_left]
  by_cases same : commandId = row.commandId
  · cases order : isOrderCommandType row.commandType with
    | true => simp [same, ofOrder order]
    | false => simp [ofOther order]
  · rw [others commandId same]
    have different : row.commandId ≠ commandId := fun sameId => same sameId.symm
    simp [different]

theorem hasBoundaryAfter_cons (success : claimCommand host now db row = some written)
    (commandId : String) :
    HasBoundaryAfter written rows commandId ↔ HasBoundaryAfter db (row :: rows) commandId := by
  rw [HasBoundaryAfter, boundary_claimCommand_iff success]
  simp only [HasBoundaryAfter, List.mem_cons, List.not_mem_nil, or_false, exists_eq_left,
    or_assoc, exists_eq_or_imp]

theorem KeysFiled.stored_of_hasBoundaryAfter (filed : KeysFiled db)
    (stored : ∀ row ∈ rows, StoredWithKey db.commands row)
    (has : HasBoundaryAfter db rows commandId) :
    (db.commands.find? commandId).isSome = true := by
  rcases has with present | ⟨row, present, rfl, _⟩
  · rcases Option.isSome_iff_exists.mp present with ⟨boundary, found⟩
    exact (filed.filed commandId boundary found).1
  · exact (stored row present).isSome

/-- A batch has keys of its own when its first order has, and the others after its claim. -/
theorem KeysFiled.keysOwn_cons_iff (filed : KeysFiled db)
    (stored : ∀ taken ∈ row :: rows, StoredWithKey db.commands taken)
    (success : claimCommand host now db row = some written) :
    KeysOwn db (row :: rows) ↔
      (isOrderCommandType row.commandType = true → KeyFree db row.commandId) ∧
        KeysOwn written rows := by
  have keeps := keepsKeys_claimCommand success
  have sameKey : ∀ commandId, HasBoundaryAfter db (row :: rows) commandId →
      boundaryKey written commandId = boundaryKey db commandId := by
    intro commandId has
    exact (keeps.stored (filed.stored_of_hasBoundaryAfter stored has)).2
  have own : ∀ taken ∈ row :: rows, isOrderCommandType taken.commandType = true →
      HasBoundaryAfter db (row :: rows) taken.commandId := by
    intro taken present order
    exact Or.inr ⟨taken, present, rfl, order⟩
  constructor
  · intro owns
    constructor
    · intro order other different present
      exact owns row List.mem_cons_self order other different (Or.inl present)
    · intro taken present order other different has hasKey
      have later := List.mem_cons_of_mem row present
      have hasBefore := (hasBoundaryAfter_cons success other).mp has
      rw [sameKey _ (own taken later order)] at hasKey ⊢
      rw [sameKey other hasBefore]
      exact owns taken later order other different hasBefore hasKey
  · rintro ⟨free, owns⟩ taken present order other different has hasKey same
    rcases List.mem_cons.mp present with rfl | later
    · rcases has with earlier | ⟨second, isSecond, rfl, secondOrder⟩
      · exact free order other different earlier hasKey same
      · rcases List.mem_cons.mp isSecond with rfl | isSecond
        · exact different rfl
        · have secondHas := own second (List.mem_cons_of_mem _ isSecond) secondOrder
          have firstHas := own taken List.mem_cons_self order
          apply owns second isSecond secondOrder taken.commandId (Ne.symm different)
          · exact (hasBoundaryAfter_cons success _).mpr firstHas
          · rw [sameKey _ secondHas, same]
            exact hasKey
          · rw [sameKey _ secondHas, sameKey _ firstHas, same]
    · apply owns taken later order other different
      · exact (hasBoundaryAfter_cons success other).mpr has
      · rw [sameKey _ (own taken present order)]
        exact hasKey
      · rw [sameKey _ (own taken present order), sameKey other has]
        exact same

theorem KeysFiled.claims_isSome_iff (filed : KeysFiled db)
    (stored : ∀ row ∈ rows, StoredWithKey db.commands row) (now : String) :
    (rows.foldlM (claimCommand host now) db).isSome = true ↔ KeysOwn db rows := by
  induction rows generalizing db with
  | nil =>
      simp only [List.foldlM_nil, Option.pure_def, Option.isSome_some, true_iff]
      intro row present
      cases present
  | cons row rows ih =>
      have headStored := stored row List.mem_cons_self
      rw [List.foldlM_cons, Option.bind_eq_bind]
      cases claims : claimCommand host now db row with
      | none =>
          simp only [Option.bind_none, Option.isSome_none, Bool.false_eq_true, false_iff]
          intro owns
          have free : isOrderCommandType row.commandType = true → KeyFree db row.commandId :=
            fun order other different present =>
              owns row List.mem_cons_self order other different (Or.inl present)
          have goesThrough : (claimCommand host now db row).isSome = true :=
            (filed.claimCommand_isSome_iff headStored now).mpr free
          rw [claims] at goesThrough
          cases goesThrough
      | some next =>
          have free := (filed.claimCommand_isSome_iff headStored now).mp
            (Option.isSome_of_mem claims)
          rw [Option.bind_some, filed.keysOwn_cons_iff stored claims,
            ih (filed.after_claim headStored claims)]
          · exact (and_iff_right free).symm
          · intro taken later
            exact (stored taken (List.mem_cons_of_mem _ later)).kept
              (keepsKeys_claimCommand claims)

theorem KeysFiled.after_claims (filed : KeysFiled db)
    (stored : ∀ row ∈ rows, StoredWithKey db.commands row)
    (success : rows.foldlM (claimCommand host now) db = some written) : KeysFiled written := by
  induction rows generalizing db with
  | nil =>
      cases success
      exact filed
  | cons row rows ih =>
      rw [List.foldlM_cons, Option.bind_eq_bind, Option.bind_eq_some_iff] at success
      rcases success with ⟨next, claims, later⟩
      apply ih (filed.after_claim (stored row List.mem_cons_self) claims) _ later
      intro taken isLater
      exact (stored taken (List.mem_cons_of_mem _ isLater)).kept (keepsKeys_claimCommand claims)

def dispatchBatch (host : Host) (db : Database) (limit : Nat) (fence claim : Instant) :
    List CommandRow :=
  selectReady (expireQueued db.commands (datetimeToWire claim)) (datetimeToWire claim)
    (orderRoutingBlocked host db fence) limit

theorem keepsKeys_expireQueued (now : String) :
    KeepsKeys commands (expireQueued commands now) :=
  keepsKeys_updateWhere commands _ (key_expireRow now) fun _ => rfl

theorem KeysFiled.after_expire (filed : KeysFiled db) (now : String) :
    KeysFiled (expiredStore db now) := by
  refine filed.kept ?_ fun _ => rfl
  exact keepsKeys_expireQueued db.commands now

theorem boundaryKey_expiredStore (db : Database) (now commandId : String) :
    boundaryKey (expiredStore db now) commandId = boundaryKey db commandId := by
  simp only [boundaryKey, expiredStore, expireQueued]
  rw [Table.find?_updateWhere]
  cases db.commands.find? commandId with
  | none => rfl
  | some row =>
      simp only [Option.map_some]
      split <;> rfl

theorem keysOwn_expiredStore_iff (db : Database) (now : String) (rows : List CommandRow) :
    KeysOwn (expiredStore db now) rows ↔ KeysOwn db rows := by
  simp only [KeysOwn, boundaryKey_expiredStore]
  rfl

theorem storedWithKey_of_mem_dispatchBatch {limit : Nat} {fence claim : Instant}
    (selected : row ∈ dispatchBatch host db limit fence claim) :
    StoredWithKey (expireQueued db.commands (datetimeToWire claim)) row :=
  storedWithKey_self (commandId_of_mem_selectReady selected).1

/-- The write transaction of a dispatch commits exactly when the orders of its batch have keys of
their own. -/
theorem KeysFiled.dispatchTransaction_isSome_iff (filed : KeysFiled db) (limit : Nat)
    (fence claim : Instant) :
    (dispatchTransaction host db limit fence claim).isSome = true ↔
      KeysOwn db (dispatchBatch host db limit fence claim) := by
  have sweptFiled := filed.after_expire (datetimeToWire claim)
  have claims : ((dispatchBatch host db limit fence claim).foldlM
      (claimCommand host (datetimeToWire claim))
        (expiredStore db (datetimeToWire claim))).isSome = true ↔
      KeysOwn (expiredStore db (datetimeToWire claim))
        (dispatchBatch host db limit fence claim) :=
    sweptFiled.claims_isSome_iff (fun row selected => storedWithKey_of_mem_dispatchBatch selected)
      (datetimeToWire claim)
  rw [keysOwn_expiredStore_iff] at claims
  rw [← claims]
  simp only [dispatchTransaction, Option.bind_eq_bind, Option.isSome_bind]
  rfl

theorem KeysFiled.after_dispatchTransaction (filed : KeysFiled db) {limit : Nat}
    {fence claim : Instant}
    (success : dispatchTransaction host db limit fence claim = some (rows, written)) :
    KeysFiled written := by
  rcases dispatchTransaction_cases success with ⟨rfl, folds⟩
  apply (filed.after_expire (datetimeToWire claim)).after_claims _ folds
  intro row selected
  exact storedWithKey_of_mem_dispatchBatch selected

/-! ## Serving every command -/

def ReadyFor (host : Host) (db : Database) (readings : DispatchReadings) (row : CommandRow) :
    Prop :=
  isReady (datetimeToWire readings.precheck)
      (orderRoutingBlocked host db readings.precheckFence) row = true ∧
    isReady (datetimeToWire readings.claim) (orderRoutingBlocked host db readings.fence) row =
      true

/-- A poll is a sweep and a dispatch. Neither fails, and the dispatch returns every ready command
unless it returns as many that come first as it may. -/
def ServesStored (host : Host) (db : Database) : StoreOp → Prop
  | .enqueue _ _ _ => True
  | .event _ _ _ _ _ _ => True
  | .sweep dispatchedTimeoutSec now =>
      (expireStaleGatewayCommands host db dispatchedTimeoutSec now).isSome = true
  | .dispatch limit readings =>
      ∃ rows written, dispatchReadyCommands host db limit readings = some (rows, written) ∧
        ∀ row ∈ db.commands.rows, ReadyFor host db readings row →
          row ∈ rows ∨
            rows.length = limit ∧ ∀ taken ∈ rows, inDispatchOrder taken row = true

/-- The orders a dispatch would claim have keys of their own. -/
def ClaimsOwnKeys (host : Host) (db : Database) : StoreOp → Prop
  | .dispatch limit readings =>
      dispatchPrecheck host db readings.precheck readings.precheckFence = true →
        KeysOwn db (dispatchBatch host db limit readings.fence readings.claim)
  | _ => True

theorem isExpiredQueued_of_isReady {blocked : Bool} (ready : isReady now blocked row = true) :
    isExpiredQueued now row = false := by
  simp only [isReady, Bool.and_eq_true] at ready
  have unexpired := ready.1.2
  cases expiresAt : row.expiresAt with
  | none => simp [isExpiredQueued, reached, expiresAt]
  | some time =>
      simp only [isUnexpired, expiresAt, Option.all_some, decide_eq_true_eq] at unexpired
      simp [isExpiredQueued, reached, expiresAt, unexpired]

theorem mem_dispatchBatch_or {readings : DispatchReadings} (present : row ∈ db.commands.rows)
    (ready : ReadyFor host db readings row) (limit : Nat) :
    row ∈ dispatchBatch host db limit readings.fence readings.claim ∨
      (dispatchBatch host db limit readings.fence readings.claim).length = limit ∧
        ∀ taken ∈ dispatchBatch host db limit readings.fence readings.claim,
          inDispatchOrder taken row = true := by
  apply mem_selectReady_or _ ready.2
  have found : db.commands.find? row.commandId = some row := Table.find?_of_mem present
  have kept := find?_expireQueued found (datetimeToWire readings.claim)
  rw [isExpiredQueued_of_isReady ready.2] at kept
  exact Table.mem_of_find? kept

theorem dispatchPrecheck_of_ready {readings : DispatchReadings} (present : row ∈ db.commands.rows)
    (ready : ReadyFor host db readings row) :
    dispatchPrecheck host db readings.precheck readings.precheckFence = true := by
  have fenced : db.commands.rows.any (isReady (datetimeToWire readings.precheck)
      (orderRoutingBlocked host db readings.precheckFence)) = true :=
    List.any_eq_true.mpr ⟨row, present, ready.1⟩
  have unfenced : db.commands.rows.any (isReady (datetimeToWire readings.precheck) false) =
      true := by
    refine List.any_eq_true.mpr ⟨row, present, ?_⟩
    have isReadyRow := ready.1
    simp only [isReady, Bool.and_eq_true] at isReadyRow ⊢
    exact ⟨isReadyRow.1, rfl⟩
  simp only [dispatchPrecheck, fenced, unfenced, Bool.or_true, if_true]

/-- What holds of every reachable store: its keys are on file and its lifecycles coherent. -/
structure InOrder (db : Database) : Prop where
  filed : KeysFiled db
  coherent : ∀ commandId, Tracks Lifecycle.Coherent commandId db

theorem inOrder_empty (catalog : Catalog) (appMetadata : List (String × String)) :
    InOrder (Database.empty catalog appMetadata) where
  filed := keysFiled_empty catalog appMetadata
  coherent := fun commandId => tracks_empty _ commandId catalog appMetadata

theorem InOrder.next (inOrder : InOrder db) (op : StoreOp) :
    InOrder ((store host).next db op) := by
  constructor
  · by_cases success : succeeds host db op = true
    · cases op with
      | enqueue command expiresAt now =>
          rcases enqueue_of_succeeds success with ⟨result, stored⟩
          exact inOrder.filed.after_enqueue stored
      | sweep dispatchedTimeoutSec now =>
          rcases sweep_of_succeeds success with ⟨counts, swept⟩
          rcases inOrder.filed.sweep_succeeds inOrder.coherent dispatchedTimeoutSec now with
            ⟨otherCounts, written, same, writtenFiled⟩
          rw [swept, Option.some.injEq, Prod.mk.injEq] at same
          rw [same.2]
          exact writtenFiled
      | dispatch limit readings =>
          rcases dispatchReadyCommands_cases (dispatch_of_succeeds success) with
            ⟨_, _, same⟩ | ⟨_, dispatched⟩
          · rw [same]
            exact inOrder.filed
          · exact inOrder.filed.after_dispatchTransaction dispatched
      | event commandId eventType payload eventId occurredAt now =>
          rcases event_of_succeeds success with ⟨status, recorded⟩
          exact inOrder.filed.after_event recorded
    · rw [(next_of_fails success).1]
      exact inOrder.filed
  · intro commandId
    exact (inOrder.coherent commandId).next Lifecycle.coherent_fresh
      fun life _ isCoherent => isCoherent.after _

theorem InOrder.serves_iff (inOrder : InOrder db) (op : StoreOp) :
    ServesStored host db op ↔ ClaimsOwnKeys host db op := by
  cases op with
  | enqueue command expiresAt now => exact Iff.rfl
  | event commandId eventType payload eventId occurredAt now => exact Iff.rfl
  | sweep dispatchedTimeoutSec now =>
      have sweeps : (expireStaleGatewayCommands host db dispatchedTimeoutSec now).isSome =
          true := by
        rcases inOrder.filed.sweep_succeeds inOrder.coherent dispatchedTimeoutSec now with
          ⟨counts, written, swept, _⟩
        exact Option.isSome_of_mem swept
      simp only [ServesStored, ClaimsOwnKeys, sweeps]
  | dispatch limit readings =>
      constructor
      · rintro ⟨rows, written, dispatched, _⟩ runs
        rw [dispatchReadyCommands, if_pos runs] at dispatched
        exact (inOrder.filed.dispatchTransaction_isSome_iff ..).mp
          (Option.isSome_of_mem dispatched)
      · intro owns
        cases runs : dispatchPrecheck host db readings.precheck readings.precheckFence with
        | false =>
            refine ⟨[], db, by rw [dispatchReadyCommands, runs]; rfl, ?_⟩
            intro row present ready
            rw [dispatchPrecheck_of_ready present ready] at runs
            cases runs
        | true =>
            have commits := (inOrder.filed.dispatchTransaction_isSome_iff ..).mpr (owns runs)
            rcases Option.isSome_iff_exists.mp commits with ⟨⟨rows, written⟩, dispatched⟩
            refine ⟨rows, written, ?_, ?_⟩
            · rw [dispatchReadyCommands, if_pos runs, dispatched]
            · intro row present ready
              have isBatch := (dispatchTransaction_cases dispatched).1
              rw [isBatch]
              exact mem_dispatchBatch_or present ready limit

/-- The operations of a round of a poll. -/
def PollRound.ops (limit : Int) : PollRound → List StoreOp
  | .locked => []
  | .clear sweep readings =>
      [.sweep defaultDispatchTimeoutSec sweep, .dispatch (boundedLimit limit) readings]

theorem pollCommands_isSome {limit : Int} {rounds : List PollRound}
    (served : (store host).Along (ServesStored host) db (rounds.flatMap (PollRound.ops limit))) :
    (pollCommands host limit db rounds).isSome = true := by
  induction rounds generalizing db with
  | nil => rfl
  | cons round rounds ih =>
      cases round with
      | locked => exact ih served
      | clear sweep readings =>
          rcases served with ⟨sweeps, ⟨rows, written, dispatched, _⟩, later⟩
          rcases Option.isSome_iff_exists.mp sweeps with ⟨⟨counts, swept⟩, sweeps⟩
          have sweptNext : (store host).next db (.sweep defaultDispatchTimeoutSec sweep) =
              swept := by simp only [System.next, store, storeStep, sweeps]
          rw [sweptNext] at dispatched later
          have dispatchedNext : (store host).next swept
              (.dispatch (boundedLimit limit) readings) = written := by
            simp only [System.next, store, storeStep, dispatched]
          rw [dispatchedNext] at later
          simp only [pollCommands, sweeps, dispatched, Option.bind_eq_bind, Option.bind_some]
          split
          · exact ih later
          · rfl

/-- The stored commands never keep a poll from serving exactly when every dispatch claims orders
that have keys of their own. -/
theorem stored_commands_served_iff (host : Host) (catalog : Catalog)
    (appMetadata : List (String × String)) (ops : List StoreOp) :
    (store host).Along (ServesStored host) (Database.empty catalog appMetadata) ops ↔
      (store host).Along (ClaimsOwnKeys host) (Database.empty catalog appMetadata) ops := by
  have holds := inOrder_empty catalog appMetadata
  constructor
  · intro serves
    refine System.Along.imp InOrder ?_ ?_ holds serves
    · exact fun db op inOrder _ => inOrder.next op
    · exact fun db op inOrder served => (inOrder.serves_iff op).mp served
  · intro owns
    refine System.Along.imp InOrder ?_ ?_ holds owns
    · exact fun db op inOrder _ => inOrder.next op
    · exact fun db op inOrder own => (inOrder.serves_iff op).mpr own

def reusedCancel : GatewayCommand :=
  { sampleCancel with commandId := "cancel-2", commandId_stripped := by decide +kernel }

/-- The key of a cancellation that expires a minute after its dispatch is used again. -/
def poisonedRun : List StoreOp :=
  [.enqueue sampleCancel (some 63900000060000000) 63900000000000000,
    dispatchAt 63900000001000000,
    .enqueue reusedCancel (some 63900000180000000) 63900000120000000,
    .sweep 120 63900000121000000,
    dispatchAt 63900000121000000]

theorem reused_key_poisons_dispatch :
    ¬ (store sampleHost).Along (ServesStored sampleHost) freshStore poisonedRun := by
  intro served
  rcases served with ⟨_, _, _, _, ⟨rows, written, dispatched, _⟩, _⟩
  have fails : (dispatchReadyCommands sampleHost
      ((store sampleHost).run freshStore (poisonedRun.take 4)) 1
      ⟨63900000121000000, 63900000121000000, 63900000121000000, 63900000121000000⟩).isSome =
        false := by decide +kernel
  rw [Option.isSome_eq_false_iff, Option.isNone_iff_eq_none] at fails
  have same : some (rows, written) = none := dispatched.symm.trans fails
  cases same

end SuseokTrader
