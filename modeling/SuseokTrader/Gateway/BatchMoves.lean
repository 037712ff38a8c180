import SuseokTrader.Gateway.Refinement
import SuseokTrader.Lib.Batch

/-!
# The batches make the moves of the lifecycle

The sweep and the dispatch go through the whole store at once. For one command
each comes down to a move: the sweep expires it, times it out or leaves it, the
dispatch claims it, expires it or leaves it.
-/

namespace SuseokTrader

open GatewayCommandStatus

/-! ## Kinds of commands -/

variable {row : CommandRow} {life : Lifecycle} {host : Host} {db written : Database}
  {commandId occurredAt reason now cutoff : String} {commandIds : List String}
  {commands : Table CommandRow} {dispatchedTimeoutSec : Int} {counts : StaleCounts}
  {blocked : Bool} {limit : Nat} {fence claim : Instant} {rows : List CommandRow}

theorem storedAsOrder_eq (normalized : normalizeCommandType row.commandType = row.commandType) :
    storedAsOrder row = isOrderCommandType row.commandType := by
  have same : Text.lower (Text.strip row.commandType) = row.commandType := normalized
  simp only [storedAsOrder, isOrderCommandType, same]

theorem ShowsCommand.storedAsOrder (shows : ShowsCommand row life) :
    storedAsOrder row = life.order :=
  (storedAsOrder_eq shows.normalized).trans shows.order

theorem ShowsCommand.status_iff (shows : ShowsCommand row life) (status : GatewayCommandStatus) :
    row.status = status.value ↔ life.status = status := by
  rw [shows.status, GatewayCommandStatus.value_inj]

/-! ## Timed-out orders -/

theorem markOrderCommandUnconfirmed_frame
    (success : markOrderCommandUnconfirmed host db commandId occurredAt reason = some written) :
    written = { db with boundaries := written.boundaries } ∧
      ∀ other, other ≠ commandId →
        written.boundaries.find? other = db.boundaries.find? other := by
  cases found : db.commands.find? commandId with
  | none =>
      simp only [markOrderCommandUnconfirmed, found, Option.some.injEq] at success
      subst success
      exact ⟨rfl, fun _ _ => rfl⟩
  | some row =>
      have sameId : row.commandId = commandId := Table.key_of_find? found
      simp only [markOrderCommandUnconfirmed, found] at success
      split at success
      · rcases Option.map_eq_some_iff.mp success with ⟨⟨state, result⟩, wrote, rfl⟩
        rcases upsertBoundary_cases wrote with ⟨_, same, _, others⟩
        rw [← sameId]
        exact ⟨same, others⟩
      · cases success
        exact ⟨rfl, fun _ _ => rfl⟩

theorem markOrderCommandUnconfirmed_shows {view : Option BoundaryView}
    (found : db.commands.find? commandId = some row)
    (order : isOrderCommandType row.commandType = true)
    (shows : ShowsBoundary (db.boundaries.find? commandId) view)
    (success : markOrderCommandUnconfirmed host db commandId occurredAt reason = some written) :
    ShowsBoundary (written.boundaries.find? commandId)
      (some (BoundaryView.propose view .unconfirmed false)) := by
  have sameId : row.commandId = commandId := Table.key_of_find? found
  simp only [markOrderCommandUnconfirmed, found, if_pos order] at success
  rcases Option.map_eq_some_iff.mp success with ⟨⟨state, result⟩, wrote, rfl⟩
  rcases upsertBoundary_cases wrote with ⟨_, _, after, _⟩
  rw [sameId] at after
  rw [after]
  exact shows.propose host row .unconfirmed _ none occurredAt false

theorem framed_markOrderCommandUnconfirmed (host : Host) (occurredAt reason : String) :
    Framed (fun db commandId => markOrderCommandUnconfirmed host db commandId occurredAt reason)
      id SameSlot where
  refl := SameSlot.refl
  trans := SameSlot.trans
  frame := by
    intro db commandId written success other different
    rcases markOrderCommandUnconfirmed_frame success with ⟨same, others⟩
    exact ⟨by rw [same], others other different⟩

theorem markOrderCommandsUnconfirmed_database
    (success : markOrderCommandsUnconfirmed host db commandIds occurredAt reason = some written) :
    written = { db with boundaries := written.boundaries } := by
  refine batch_relates
    (fun before after => after = { before with boundaries := after.boundaries }) ?_ ?_ ?_ success
  · exact fun _ => rfl
  · intro first second third here later
    rw [later, here]
  · exact fun step => (markOrderCommandUnconfirmed_frame step).1

theorem markOrderCommandsUnconfirmed_frame
    (success : markOrderCommandsUnconfirmed host db commandIds occurredAt reason = some written)
    (foreign : commandId ∉ commandIds) : SameSlot commandId db written := by
  apply (framed_markOrderCommandUnconfirmed host occurredAt reason).batch_frame success
  rw [List.map_id, List.mem_eraseDups, List.mem_filter]
  exact fun present => foreign present.1

theorem markOrderCommandsUnconfirmed_shows {view : Option BoundaryView}
    (nonempty : commandId ≠ "") (present : commandId ∈ commandIds)
    (found : db.commands.find? commandId = some row)
    (order : isOrderCommandType row.commandType = true)
    (shows : ShowsBoundary (db.boundaries.find? commandId) view)
    (success : markOrderCommandsUnconfirmed host db commandIds occurredAt reason = some written) :
    ShowsBoundary (written.boundaries.find? commandId)
      (some (BoundaryView.propose view .unconfirmed false)) := by
  have member : commandId ∈ (commandIds.filter (· ≠ "")).eraseDups := by
    rw [List.mem_eraseDups, List.mem_filter]
    exact ⟨present, by simpa using nonempty⟩
  have framed := framed_markOrderCommandUnconfirmed host occurredAt reason
  rcases framed.batch_step (by simpa using nodup_eraseDups _) success member with
    ⟨before, next, sameBefore, step, sameAfter⟩
  simp only [id_eq] at sameBefore sameAfter
  rw [sameAfter.boundary]
  apply markOrderCommandUnconfirmed_shows (sameBefore.command.trans found) order _ step
  rw [sameBefore.boundary]
  exact shows

/-! ## The sweep -/

def sweepMove (now cutoff : String) (row : CommandRow) : Move :=
  if isExpiredQueued now row then .expire
  else if isTimedOutDispatched cutoff row || isUnconfirmedOrder cutoff row then .timeOut
  else .stay

def sweptRow (now cutoff : String) (row : CommandRow) : CommandRow :=
  if isExpiredQueued now row then expireRow now row
  else if isTimedOutDispatched cutoff row then failTimedOutRow now row
  else if isUnconfirmedOrder cutoff row then unconfirmRow row
  else row

/-- The three updates of the sweep never meet in one row. -/
theorem find?_sweep (found : commands.find? commandId = some row) (now cutoff : String) :
    (unconfirmStaleOrders (failStaleCommands commands now cutoff) cutoff).find? commandId =
        some (sweptRow now cutoff row) ∧
      (commandId ∈ staleOrderIds (failStaleCommands commands now cutoff) cutoff ↔
        isExpiredQueued now row = false ∧ isTimedOutDispatched cutoff row = false ∧
          isUnconfirmedOrder cutoff row = true) := by
  have expiredTime : ∀ row, isTimedOutDispatched cutoff (expireRow now row) = false ∧
      isUnconfirmedOrder cutoff (expireRow now row) = false := by
    simp [isTimedOutDispatched, isUnconfirmedOrder, expireRow]
  have failedTime : ∀ row, isUnconfirmedOrder cutoff (failTimedOutRow now row) = false := by
    simp [isUnconfirmedOrder, failTimedOutRow]
  have failedFound : (failStaleCommands commands now cutoff).find? commandId =
      some (if isExpiredQueued now row then expireRow now row
        else if isTimedOutDispatched cutoff row then failTimedOutRow now row else row) := by
    simp only [failStaleCommands]
    rw [Table.find?_updateWhere, Table.find?_updateWhere, found]
    by_cases expires : isExpiredQueued now row = true
    · simp [expires, expiredTime]
    · simp [expires]
  constructor
  · simp only [unconfirmStaleOrders, sweptRow]
    rw [Table.find?_updateWhere, failedFound]
    by_cases expires : isExpiredQueued now row = true
    · simp [expires, expiredTime]
    · by_cases times : isTimedOutDispatched cutoff row = true
      · simp [expires, times, failedTime]
      · simp [expires, times]
  · have stale : commandId ∈ staleOrderIds (failStaleCommands commands now cutoff) cutoff ↔
        ∃ later, (failStaleCommands commands now cutoff).find? commandId = some later ∧
          isUnconfirmedOrder cutoff later = true := by
      simp only [staleOrderIds, List.mem_map, List.mem_filter]
      constructor
      · rintro ⟨later, ⟨present, unconfirmed⟩, rfl⟩
        exact ⟨later, Table.find?_of_mem present, unconfirmed⟩
      · rintro ⟨later, later_found, unconfirmed⟩
        exact ⟨later, ⟨Table.mem_of_find? later_found, unconfirmed⟩,
          Table.key_of_find? later_found⟩
    rw [stale, failedFound]
    by_cases expires : isExpiredQueued now row = true
    · simp [expires, expiredTime]
    · by_cases times : isTimedOutDispatched cutoff row = true
      · simp [expires, times, failedTime]
      · simp [expires, times]

theorem isExpiredQueued_status (shows : ShowsCommand row life)
    (expires : isExpiredQueued now row = true) :
    life.status = queued := by
  simp only [isExpiredQueued, Bool.and_eq_true, decide_eq_true_eq, shows.status_iff] at expires
  exact expires.1

theorem isTimedOutDispatched_status (shows : ShowsCommand row life)
    (times : isTimedOutDispatched cutoff row = true) :
    life.status = dispatched ∧ life.order = false := by
  simp only [isTimedOutDispatched, Bool.and_eq_true, decide_eq_true_eq, shows.status_iff,
    shows.storedAsOrder, Bool.not_eq_true'] at times
  exact times.1

theorem isUnconfirmedOrder_status (shows : ShowsCommand row life)
    (times : isUnconfirmedOrder cutoff row = true) :
    Lifecycle.InFlight life.status ∧ life.order = true := by
  simp only [isUnconfirmedOrder, Bool.and_eq_true, shows.status_iff, shows.storedAsOrder] at times
  refine ⟨?_, times.1.2⟩
  simpa [Lifecycle.InFlight, or_assoc] using times.1.1

theorem showsCommand_sweptRow (shows : ShowsCommand row life) :
    ShowsCommand (sweptRow now cutoff row) (life.after (sweepMove now cutoff row)) := by
  by_cases expires : isExpiredQueued now row = true
  · have isQueued := isExpiredQueued_status shows expires
    simp only [sweptRow, sweepMove, expires, if_true, Lifecycle.after, isQueued]
    exact ⟨shows.nonempty, shows.normalized, shows.order, rfl, shows.wasDispatched⟩
  · by_cases times : isTimedOutDispatched cutoff row = true
    · rcases isTimedOutDispatched_status shows times with ⟨isDispatched, other⟩
      simp only [sweptRow, sweepMove, expires, times, if_true, Lifecycle.after,
        Lifecycle.timedOut, isDispatched, other, Bool.true_or, Bool.false_eq_true, if_false]
      exact ⟨shows.nonempty, shows.normalized, shows.order.trans other, rfl,
        shows.wasDispatched⟩
    · by_cases unconfirms : isUnconfirmedOrder cutoff row = true
      · rcases isUnconfirmedOrder_status shows unconfirms with ⟨inFlight, order⟩
        simp only [sweptRow, sweepMove, expires, times, unconfirms, if_true, Lifecycle.after,
          Lifecycle.timedOut, inFlight, order, Bool.or_true, Bool.false_eq_true, if_false]
        exact ⟨shows.nonempty, shows.normalized, shows.order.trans order, rfl,
          shows.wasDispatched⟩
      · simp only [sweptRow, sweepMove, expires, times, unconfirms, Bool.or_false,
          Bool.false_eq_true, if_false, Lifecycle.after]
        exact shows

theorem expireStaleGatewayCommands_cases {now : Instant}
    (success : expireStaleGatewayCommands host db dispatchedTimeoutSec now =
      some (counts, written)) :
    let time := datetimeToWire now
    let cutoff := dispatchedCutoff now dispatchedTimeoutSec
    (written = db ∧ ∀ row ∈ db.commands.rows, isExpiredQueued time row = false ∧
        isTimedOutDispatched cutoff row = false ∧ isUnconfirmedOrder cutoff row = false) ∨
      ∃ marked,
        markOrderCommandsUnconfirmed host
          { db with
            commands := unconfirmStaleOrders (failStaleCommands db.commands time cutoff) cutoff }
          (staleOrderIds (failStaleCommands db.commands time cutoff) cutoff) time
          "Gateway order command timed out before durable broker confirmation." = some marked ∧
        written = upsertCommandQueueHealth marked true now := by
  simp only [expireStaleGatewayCommands] at success
  split at success
  · next nothing =>
      rw [Option.some.injEq, Prod.mk.injEq] at success
      left
      refine ⟨success.2.symm, ?_⟩
      intro row present
      rcases nothing with ⟨expired, timedOut, unconfirmed⟩
      exact ⟨by simpa using List.countP_eq_zero.mp expired row present,
        by simpa using List.countP_eq_zero.mp timedOut row present,
        by simpa using List.countP_eq_zero.mp unconfirmed row present⟩
  · right
    simp only [Option.bind_eq_bind, Option.bind_eq_some_iff, Option.pure_def,
      Option.some.injEq, Prod.mk.injEq] at success
    rcases success with ⟨marked, marks, _, rfl⟩
    exact ⟨marked, marks, rfl⟩

theorem upsertGatewayStatus_database (db : Database) (key value : String) (now : Instant) :
    upsertGatewayStatus db key value now =
      { db with gatewayStatus := (upsertGatewayStatus db key value now).gatewayStatus } := by
  simp only [upsertGatewayStatus]
  split <;> rfl

theorem sweep_marked {marked : Database} {time : String} {now : Instant}
    (marks : markOrderCommandsUnconfirmed host { db with commands := commands } commandIds time
      reason = some marked) :
    (upsertCommandQueueHealth marked true now).commands = commands ∧
      (upsertCommandQueueHealth marked true now).boundaries = marked.boundaries := by
  have same := markOrderCommandsUnconfirmed_database marks
  rw [upsertCommandQueueHealth, upsertGatewayStatus_database]
  exact ⟨congrArg Database.commands same, rfl⟩

theorem expireStaleGatewayCommands_row {now : Instant}
    (found : db.commands.find? commandId = some row)
    (success : expireStaleGatewayCommands host db dispatchedTimeoutSec now =
      some (counts, written)) :
    written.commands.find? commandId =
      some (sweptRow (datetimeToWire now) (dispatchedCutoff now dispatchedTimeoutSec) row) := by
  rcases expireStaleGatewayCommands_cases success with ⟨rfl, fresh⟩ | ⟨marked, marks, rfl⟩
  · rcases fresh row (Table.mem_of_find? found) with ⟨expires, times, unconfirms⟩
    simp [sweptRow, expires, times, unconfirms, found]
  · rw [(sweep_marked marks).1]
    exact (find?_sweep found _ _).1

/-- The boundary row after a sweep. -/
theorem expireStaleGatewayCommands_boundary {now : Instant}
    (found : db.commands.find? commandId = some row) (showsRow : ShowsCommand row life)
    (showsBoundary : ShowsBoundary (db.boundaries.find? commandId) life.boundary)
    (success : expireStaleGatewayCommands host db dispatchedTimeoutSec now =
      some (counts, written)) :
    ShowsBoundary (written.boundaries.find? commandId)
      (life.after (sweepMove (datetimeToWire now) (dispatchedCutoff now dispatchedTimeoutSec)
        row)).boundary := by
  have sameId : row.commandId = commandId := Table.key_of_find? found
  rcases expireStaleGatewayCommands_cases success with ⟨rfl, fresh⟩ | ⟨marked, marks, rfl⟩
  · rcases fresh row (Table.mem_of_find? found) with ⟨expires, times, unconfirms⟩
    simpa [sweepMove, expires, times, unconfirms, Lifecycle.after] using showsBoundary
  · rw [(sweep_marked marks).2]
    generalize datetimeToWire now = time at marks ⊢
    generalize dispatchedCutoff now dispatchedTimeoutSec = cutoff at marks ⊢
    rcases find?_sweep found time cutoff with ⟨after, stale⟩
    by_cases unconfirms : isExpiredQueued time row = false ∧
        isTimedOutDispatched cutoff row = false ∧ isUnconfirmedOrder cutoff row = true
    · rcases unconfirms with ⟨expires, times, unconfirmed⟩
      rcases isUnconfirmedOrder_status showsRow unconfirmed with ⟨inFlight, order⟩
      have present := stale.mpr ⟨expires, times, unconfirmed⟩
      rw [sweptRow, expires, times, unconfirmed] at after
      have proposed : ShowsBoundary (marked.boundaries.find? commandId)
          (some (BoundaryView.propose life.boundary .unconfirmed false)) := by
        refine markOrderCommandsUnconfirmed_shows ?_ present after ?_ ?_ marks
        · exact sameId ▸ showsRow.nonempty
        · exact showsRow.order.trans order
        · exact showsBoundary
      simpa [sweepMove, expires, unconfirmed, Lifecycle.after, Lifecycle.timedOut, inFlight, order]
        using proposed
    · rw [(markOrderCommandsUnconfirmed_frame marks (mt stale.mp unconfirms)).boundary]
      have same : (life.after (sweepMove time cutoff row)).boundary = life.boundary := by
        by_cases expires : isExpiredQueued time row = true
        · simp only [sweepMove, expires, if_true, Lifecycle.after]
          split <;> rfl
        · by_cases times : isTimedOutDispatched cutoff row = true
          · rcases isTimedOutDispatched_status showsRow times with ⟨status, other⟩
            simp [sweepMove, expires, times, Lifecycle.after, Lifecycle.timedOut, other, status]
          · have confirmed : isUnconfirmedOrder cutoff row = false := by
              simpa [expires, times] using unconfirms
            simp [sweepMove, expires, times, confirmed]
      rw [same]
      exact showsBoundary

theorem expireStaleGatewayCommands_shows {now : Instant}
    (found : db.commands.find? commandId = some row) (shows : Shows db commandId life)
    (success : expireStaleGatewayCommands host db dispatchedTimeoutSec now =
      some (counts, written)) :
    Shows written commandId (life.after
      (sweepMove (datetimeToWire now) (dispatchedCutoff now dispatchedTimeoutSec) row)) := by
  rcases shows with ⟨⟨other, otherFound, showsRow⟩, showsBoundary⟩
  rw [found] at otherFound
  cases otherFound
  exact ⟨⟨_, expireStaleGatewayCommands_row found success, showsCommand_sweptRow showsRow⟩,
    expireStaleGatewayCommands_boundary found showsRow showsBoundary success⟩

theorem expireStaleGatewayCommands_absent {now : Instant} (absent : Absent db commandId)
    (success : expireStaleGatewayCommands host db dispatchedTimeoutSec now =
      some (counts, written)) : Absent written commandId := by
  rcases expireStaleGatewayCommands_cases success with ⟨rfl, _⟩ | ⟨marked, marks, rfl⟩
  · exact absent
  · have missing : (unconfirmStaleOrders (failStaleCommands db.commands (datetimeToWire now)
        (dispatchedCutoff now dispatchedTimeoutSec))
        (dispatchedCutoff now dispatchedTimeoutSec)).find? commandId = none := by
      simp only [unconfirmStaleOrders, failStaleCommands]
      rw [Table.find?_updateWhere, Table.find?_updateWhere, Table.find?_updateWhere,
        absent.command]
      rfl
    refine ⟨?_, ?_⟩
    · rw [(sweep_marked marks).1]
      exact missing
    · rw [(sweep_marked marks).2]
      refine (markOrderCommandsUnconfirmed_frame marks ?_).boundary.trans absent.boundary
      intro stale
      rcases List.mem_map.mp stale with ⟨row, present, rfl⟩
      have staleFound := Table.find?_of_mem (List.mem_of_mem_filter present)
      simp only [failStaleCommands] at staleFound
      rw [Table.find?_updateWhere, Table.find?_updateWhere] at staleFound
      have missing : db.commands.find? (Keyed.key row) = none := absent.command
      rw [missing] at staleFound
      cases staleFound

/-! ## The dispatch -/

theorem commandId_of_mem_selectReady (selected : row ∈ selectReady commands now blocked limit) :
    commands.find? row.commandId = some row ∧ isReady now blocked row = true := by
  have sorted := List.mem_of_mem_take selected
  rw [List.mem_insertionSort, List.mem_filter] at sorted
  exact ⟨Table.find?_of_mem sorted.1, sorted.2⟩

theorem nodup_selectReady (commands : Table CommandRow) (now : String) (blocked : Bool)
    (limit : Nat) : ((selectReady commands now blocked limit).map CommandRow.commandId).Nodup := by
  have filtered : ((commands.rows.filter (isReady now blocked)).map CommandRow.commandId).Nodup :=
    commands.nodup.sublist (List.filter_sublist.map _)
  have sorted := ((List.perm_insertionSort (fun left right => inDispatchOrder left right = true)
    (commands.rows.filter (isReady now blocked))).map CommandRow.commandId).nodup_iff.mpr filtered
  exact sorted.sublist ((List.take_sublist _ _).map _)

def dispatchKey (row : CommandRow) : Nat ×ₗ String ×ₗ String :=
  toLex (dispatchPriority row, toLex (row.createdAt, row.commandId))

theorem inDispatchOrder_iff (left right : CommandRow) :
    inDispatchOrder left right = true ↔ dispatchKey left ≤ dispatchKey right := by
  simp only [inDispatchOrder, dispatchKey, Prod.Lex.toLex_le_toLex, Bool.or_eq_true,
    Bool.and_eq_true, decide_eq_true_eq]

theorem mem_selectReady_or (present : row ∈ commands.rows)
    (ready : isReady now blocked row = true) (limit : Nat) :
    row ∈ selectReady commands now blocked limit ∨
      (selectReady commands now blocked limit).length = limit ∧
        ∀ taken ∈ selectReady commands now blocked limit, inDispatchOrder taken row = true := by
  have total : Std.Total fun left right : CommandRow => inDispatchOrder left right = true :=
    ⟨fun left right => by simpa only [inDispatchOrder_iff] using le_total _ _⟩
  have transitive : IsTrans CommandRow fun left right => inDispatchOrder left right = true :=
    ⟨fun left middle right => by simpa only [inDispatchOrder_iff] using le_trans⟩
  have ordered := List.pairwise_insertionSort
    (fun left right : CommandRow => inDispatchOrder left right = true)
    (commands.rows.filter (isReady now blocked))
  have sorted : row ∈ (commands.rows.filter (isReady now blocked)).insertionSort
      fun left right => inDispatchOrder left right = true := by
    rw [List.mem_insertionSort, List.mem_filter]
    exact ⟨present, ready⟩
  simp only [selectReady]
  generalize (commands.rows.filter (isReady now blocked)).insertionSort
    (fun left right => inDispatchOrder left right = true) = batch at ordered sorted ⊢
  rw [← List.take_append_drop limit batch] at ordered sorted
  rcases List.mem_append.mp sorted with taken | left
  · exact Or.inl taken
  · right
    constructor
    · rw [List.length_take, Nat.min_eq_left]
      by_contra short
      rw [List.drop_of_length_le (Nat.le_of_lt (Nat.lt_of_not_le short))] at left
      cases left
    · intro taken isTaken
      exact (List.pairwise_append.mp ordered).2.2 taken isTaken row left

theorem claimCommand_cases (success : claimCommand host now db row = some written) :
    written = { db with
        commands := db.commands.updateWhere
          (fun stored => stored.commandId = row.commandId && stored.status = queued.value)
          (claimCommandRow (claimedStatus row) now) (key_claimCommandRow _ _)
        boundaries := written.boundaries } ∧
      (∀ other, other ≠ row.commandId →
        written.boundaries.find? other = db.boundaries.find? other) ∧
      (isOrderCommandType row.commandType = true →
        written.boundaries.find? row.commandId =
          some (proposedBoundary host { row with attempts := row.attempts + 1 }
            (db.boundaries.find? row.commandId) .claimed (jsonObject host row.payloadJson) none
            now false)) ∧
      (isOrderCommandType row.commandType = false → written.boundaries = db.boundaries) := by
  simp only [claimCommand] at success
  split at success
  · next order =>
      rcases Option.map_eq_some_iff.mp success with ⟨⟨state, result⟩, claims, rfl⟩
      simp only [recordOrderCommandClaim, if_pos order, Option.bind_eq_bind,
        Option.bind_eq_some_iff] at claims
      rcases claims with ⟨⟨effective, proposed⟩, wrote, _, rfl⟩
      rcases upsertBoundary_cases wrote with ⟨_, same, claimed, others⟩
      refine ⟨same, others, fun _ => claimed, ?_⟩
      intro other
      rw [other] at order
      cases order
  · next other =>
      rw [Option.some.injEq] at success
      subst success
      exact ⟨rfl, fun _ _ => rfl, fun order => absurd order other, fun _ => rfl⟩

theorem claimCommand_frame (success : claimCommand host now db row = some written)
    {other : String} (different : other ≠ row.commandId) : SameSlot other db written := by
  rcases claimCommand_cases success with ⟨same, others, _, _⟩
  refine ⟨?_, others other different⟩
  rw [same]
  apply (Table.find?_updateWhere _ _ _ (key_claimCommandRow _ _) _).trans
  cases found : db.commands.find? other with
  | none => rfl
  | some stored =>
      have sameId : stored.commandId = other := Table.key_of_find? found
      simp [sameId, different]

theorem claimCommand_row (found : db.commands.find? row.commandId = some row)
    (isQueued : row.status = queued.value) (success : claimCommand host now db row = some written) :
    written.commands.find? row.commandId =
      some (claimCommandRow (claimedStatus row) now row) := by
  rw [(claimCommand_cases success).1]
  simp [found, isQueued]

theorem claimCommand_shows (found : db.commands.find? row.commandId = some row)
    (isQueued : row.status = queued.value) (shows : Shows db row.commandId life)
    (success : claimCommand host now db row = some written) :
    Shows written row.commandId (life.after .claim) := by
  rcases shows with ⟨⟨other, otherFound, showsRow⟩, showsBoundary⟩
  rw [found, Option.some.injEq] at otherFound
  subst otherFound
  have lifeQueued : life.status = queued := (showsRow.status_iff queued).mp isQueued
  rcases claimCommand_cases success with ⟨_, _, ofOrder, ofOther⟩
  have claimedRow := claimCommand_row found isQueued success
  cases order : life.order with
  | true =>
      have isOrder := showsRow.order.trans order
      simp only [Lifecycle.after, Lifecycle.claimedLife, lifeQueued, order, if_true]
      refine ⟨⟨_, claimedRow, ?_⟩, ?_⟩
      · simp only [claimedStatus, isOrder]
        exact ⟨showsRow.nonempty, showsRow.normalized, isOrder, rfl, rfl⟩
      · rw [ofOrder isOrder]
        exact showsBoundary.propose host _ .claimed _ none now false
  | false =>
      have isOther := showsRow.order.trans order
      simp only [Lifecycle.after, Lifecycle.claimedLife, lifeQueued, order]
      refine ⟨⟨_, claimedRow, ?_⟩, ?_⟩
      · simp only [claimedStatus, isOther]
        exact ⟨showsRow.nonempty, showsRow.normalized, isOther, rfl, rfl⟩
      · rw [ofOther isOther]
        exact showsBoundary

theorem framed_claimCommand (host : Host) (now : String) :
    Framed (claimCommand host now) CommandRow.commandId SameSlot where
  refl := SameSlot.refl
  trans := SameSlot.trans
  frame := by
    intro db row written success other different
    exact claimCommand_frame success different

theorem dispatchTransaction_cases
    (success : dispatchTransaction host db limit fence claim = some (rows, written)) :
    rows = selectReady (expireQueued db.commands (datetimeToWire claim)) (datetimeToWire claim)
        (orderRoutingBlocked host db fence) limit ∧
      rows.foldlM (claimCommand host (datetimeToWire claim))
        { db with commands := expireQueued db.commands (datetimeToWire claim) } =
        some written := by
  simp only [dispatchTransaction, Option.bind_eq_bind, Option.bind_eq_some_iff] at success
  rcases success with ⟨final, folds, rfl, rfl⟩
  exact ⟨rfl, folds⟩

theorem dispatched_ready
    (success : dispatchTransaction host db limit fence claim = some (rows, written))
    (selected : row ∈ rows) :
    db.commands.find? row.commandId = some row ∧
      isReady (datetimeToWire claim) (orderRoutingBlocked host db fence) row = true := by
  rcases dispatchTransaction_cases success with ⟨rfl, _⟩
  rcases commandId_of_mem_selectReady selected with ⟨found, ready⟩
  refine ⟨?_, ready⟩
  simp only [expireQueued] at found
  rw [Table.find?_updateWhere] at found
  rcases Option.map_eq_some_iff.mp found with ⟨stored, storedFound, same⟩
  split at same
  · rw [← same] at ready
    simp [isReady, expireRow] at ready
  · rw [← same] at storedFound
    exact same ▸ storedFound

theorem status_of_isReady (ready : isReady now blocked row = true) : row.status = queued.value := by
  simp only [isReady, Bool.and_eq_true, decide_eq_true_eq] at ready
  exact ready.1.1.1

def dispatchMove (now : String) (dispatchedIds : List String) (row : CommandRow) : Move :=
  if row.commandId ∈ dispatchedIds then .claim
  else if isExpiredQueued now row then .expire
  else .stay

theorem find?_expireQueued (found : commands.find? commandId = some row) (now : String) :
    (expireQueued commands now).find? commandId =
      some (if isExpiredQueued now row then expireRow now row else row) := by
  simp only [expireQueued]
  rw [Table.find?_updateWhere, found]
  rfl

def expiredStore (db : Database) (now : String) : Database :=
  { db with commands := expireQueued db.commands now }

theorem dispatchTransaction_claims
    (success : dispatchTransaction host db limit fence claim = some (rows, written))
    (selected : row ∈ rows) :
    ∃ before after,
      SameSlot row.commandId (expiredStore db (datetimeToWire claim)) before ∧
      before.commands.find? row.commandId = some row ∧
      claimCommand host (datetimeToWire claim) before row = some after ∧
      SameSlot row.commandId after written := by
  have framed := framed_claimCommand host (datetimeToWire claim)
  have distinct : (rows.map CommandRow.commandId).Nodup := by
    rw [(dispatchTransaction_cases success).1]
    exact nodup_selectReady ..
  rcases framed.batch_step distinct (dispatchTransaction_cases success).2 selected with
    ⟨before, after, sameBefore, step, sameAfter⟩
  rcases commandId_of_mem_selectReady ((dispatchTransaction_cases success).1 ▸ selected) with
    ⟨found, _⟩
  exact ⟨before, after, sameBefore, sameBefore.command.trans found, step, sameAfter⟩

theorem dispatchTransaction_row (found : db.commands.find? commandId = some row)
    (success : dispatchTransaction host db limit fence claim = some (rows, written)) :
    written.commands.find? commandId =
      some (if commandId ∈ rows.map CommandRow.commandId then
          claimCommandRow (claimedStatus row) (datetimeToWire claim) row
        else if isExpiredQueued (datetimeToWire claim) row then
          expireRow (datetimeToWire claim) row
        else row) := by
  have framed := framed_claimCommand host (datetimeToWire claim)
  by_cases selected : commandId ∈ rows.map CommandRow.commandId
  · rw [if_pos selected]
    rcases List.mem_map.mp selected with ⟨taken, present, rfl⟩
    rcases dispatched_ready success present with ⟨takenFound, ready⟩
    rw [found, Option.some.injEq] at takenFound
    subst takenFound
    rcases dispatchTransaction_claims success present with
      ⟨before, after, _, beforeFound, step, sameAfter⟩
    rw [sameAfter.command]
    exact claimCommand_row beforeFound (status_of_isReady ready) step
  · rw [if_neg selected]
    have same := framed.batch_frame (dispatchTransaction_cases success).2 selected
    rw [same.command]
    exact find?_expireQueued found (datetimeToWire claim)

theorem dispatchTransaction_shows (found : db.commands.find? commandId = some row)
    (shows : Shows db commandId life)
    (success : dispatchTransaction host db limit fence claim = some (rows, written)) :
    Shows written commandId (life.after
      (dispatchMove (datetimeToWire claim) (rows.map CommandRow.commandId) row)) := by
  have sameId : row.commandId = commandId := Table.key_of_find? found
  subst sameId
  rcases shows with ⟨⟨other, otherFound, showsRow⟩, showsBoundary⟩
  rw [found, Option.some.injEq] at otherFound
  subst otherFound
  by_cases selected : row.commandId ∈ rows.map CommandRow.commandId
  · rcases List.mem_map.mp selected with ⟨taken, present, sameId⟩
    rcases dispatched_ready success present with ⟨takenFound, ready⟩
    rw [sameId, found, Option.some.injEq] at takenFound
    subst takenFound
    rcases dispatchTransaction_claims success present with
      ⟨before, after, sameBefore, beforeFound, step, sameAfter⟩
    have beforeShows : Shows before row.commandId life := by
      refine ⟨⟨row, beforeFound, showsRow⟩, ?_⟩
      rw [sameBefore.boundary]
      exact showsBoundary
    simp only [dispatchMove, if_pos selected]
    exact sameAfter.shows
      (claimCommand_shows beforeFound (status_of_isReady ready) beforeShows step)
  · have framed := framed_claimCommand host (datetimeToWire claim)
    have swept := find?_expireQueued found (datetimeToWire claim)
    apply (framed.batch_frame (dispatchTransaction_cases success).2 selected).shows
    simp only [dispatchMove, if_neg selected]
    by_cases expires : isExpiredQueued (datetimeToWire claim) row = true
    · have isQueued := isExpiredQueued_status showsRow expires
      simp only [expires, if_true] at swept ⊢
      simp only [Lifecycle.after, isQueued]
      exact ⟨⟨_, swept, showsRow.nonempty, showsRow.normalized, showsRow.order, rfl,
        showsRow.wasDispatched⟩, showsBoundary⟩
    · simp only [expires] at swept ⊢
      exact ⟨⟨row, swept, showsRow⟩, showsBoundary⟩

theorem dispatchTransaction_absent (absent : Absent db commandId)
    (success : dispatchTransaction host db limit fence claim = some (rows, written)) :
    Absent written commandId := by
  have framed := framed_claimCommand host (datetimeToWire claim)
  have foreign : commandId ∉ rows.map CommandRow.commandId := by
    intro selected
    rcases List.mem_map.mp selected with ⟨taken, present, rfl⟩
    have takenFound := (dispatched_ready success present).1
    rw [absent.command] at takenFound
    cases takenFound
  apply (framed.batch_frame (dispatchTransaction_cases success).2 foreign).absent
  refine ⟨?_, absent.boundary⟩
  simp only [expireQueued]
  rw [Table.find?_updateWhere, absent.command]
  rfl

end SuseokTrader
