import SuseokTrader.LiveSim.Exits
import SuseokTrader.LiveSim.OrderStatus

/-!
# What the exit pipeline does to the tables

One lemma for each call. Inserting a signal and creating an intent leave orders,
executions and positions alone; queueing an exit either only rejects the intent
or writes the order and marks the position.
-/

namespace SuseokTrader

/-! ## Queueing -/

/-- What queueing an exit does to the tables of the simulated trading. -/
inductive ExitQueueEffect (settings : LiveSimSettings) (tables : LiveSimTables)
    (exitIntentId : String) (readings : QueueReadings) : LiveSimTables → Prop
  | nothing : ExitQueueEffect settings tables exitIntentId readings tables
  | rejects (intent : ExitIntent) (found : tables.exitIntents.find? exitIntentId = some intent) :
      ExitQueueEffect settings tables exitIntentId readings
        (tables.rejectExitIntent intent.exitIntentId)
  | queues {after : LiveSimTables} (intent : ExitIntent) (position : LiveSimPosition)
      (found : tables.exitIntents.find? exitIntentId = some intent)
      (held : tables.positions.find? intent.positionId = some position)
      (allowed : exitSafetyReasons settings readings.gateReasons position intent = [])
      (written : writeQueuedExit tables position intent readings = some after) :
      ExitQueueEffect settings tables exitIntentId readings after

theorem exitQueueEffect (host : LiveSimHost) (settings : LiveSimSettings) (store : LiveSimStore)
    (exitIntentId : String) (readings : QueueReadings) :
    ExitQueueEffect settings store.live exitIntentId readings
      (queueLiveSimExitOrderCommand host settings store exitIntentId readings).1.live := by
  rw [queueLiveSimExitOrderCommand]
  split
  · exact .nothing
  · next intent found =>
      split
      · exact .nothing
      · next position held =>
          split
          · exact .rejects intent found
          · next allowed =>
              split
              · exact .nothing
              · rw [queueExitCommand]
                split
                · exact .nothing
                · split
                  · split
                    · next live written => exact .queues intent position found held allowed written
                    · exact .nothing
                  · exact .rejects intent found

theorem mergeReasons_eq_nil {reasons : List String}
    (none : mergeReasons reasons = []) : ∀ reason ∈ reasons, Text.strip reason = "" := by
  intro reason present
  by_contra notBlank
  have kept : Text.upper reason ∈ (reasons.filter fun reason => Text.strip reason ≠ "").map
      Text.upper := List.mem_map_of_mem (List.mem_filter.mpr ⟨present, by simpa using notBlank⟩)
  have merged : Text.upper reason ∈ mergeReasons reasons := List.mem_eraseDups.mpr kept
  rw [none] at merged
  cases merged

theorem check_of_mergeReasons_eq_nil {gateReasons : List String} {checks : List (Bool × String)}
    (none : mergeReasons (gateReasons ++ reasonsWhere checks) = []) (check : Bool)
    (reason : String) (present : (check, reason) ∈ checks) (text : Text.strip reason ≠ "") :
    check = false := by
  cases check with
  | false => rfl
  | true =>
      have listed : reason ∈ reasonsWhere checks :=
        List.mem_map.mpr ⟨(true, reason), List.mem_filter.mpr ⟨present, rfl⟩, rfl⟩
      exact absurd (mergeReasons_eq_nil none reason (List.mem_append_right _ listed)) text

structure ExitAllowed (position : LiveSimPosition) (intent : ExitIntent) : Prop where
  notClosed : position.status ≠ .closed
  positive : 0 < intent.quantity
  available : intent.quantity ≤ position.availableQuantity
  unqueued : intent.gatewayCommandId.getD "" = ""

theorem exitAllowed_of_reasons {settings : LiveSimSettings} {gateReasons : List String}
    {position : LiveSimPosition} {intent : ExitIntent}
    (allowed : exitSafetyReasons settings gateReasons position intent = []) :
    ExitAllowed position intent := by
  have closed := check_of_mergeReasons_eq_nil allowed (position.status = .closed)
    "LIVE_SIM_EXIT_POSITION_NOT_OPEN" (by simp) (by decide +kernel)
  have quantity := check_of_mergeReasons_eq_nil allowed
    (intent.quantity ≤ 0 || position.availableQuantity < intent.quantity)
    "LIVE_SIM_EXIT_QUANTITY_INVALID" (by simp) (by decide +kernel)
  have duplicate := check_of_mergeReasons_eq_nil allowed
    ((intent.gatewayCommandId.getD "") ≠ "") "LIVE_SIM_EXIT_DUPLICATE" (by simp)
    (by decide +kernel)
  simp only [Bool.or_eq_false_iff, decide_eq_false_iff_not] at closed quantity duplicate
  exact ⟨closed, by omega, by omega, by simpa using duplicate⟩

theorem rows_of_insertOrder {orders inserted : Table LiveSimOrder} {order : LiveSimOrder}
    (success : insertOrder orders order = some inserted) :
    inserted.rows = orders.rows ++ [order] := by
  rw [insertOrder] at success
  split at success
  · cases success
  · exact Table.rows_of_insert? success

/-- The rows that a queued exit writes. -/
structure WritesExit (tables after : LiveSimTables) (position : LiveSimPosition)
    (intent : ExitIntent) (readings : QueueReadings) : Prop where
  orders : insertOrder tables.orders (exitOrder position intent readings) = some after.orders
  exitIntents : after.exitIntents = tables.exitIntents.update intent.exitIntentId
    (queuedExitIntent readings.commandId readings.orderId) (key_queuedExitIntent _ _)
  exitSignals : after.exitSignals = tables.exitSignals.update intent.exitSignalId
    (setExitSignalStatus .commandQueued) (key_setExitSignalStatus _)
  positions : after.positions = tables.positions.update position.positionId
    (closingPosition (datetimeToWire readings.queuedAt)) (key_closingPosition _)
  executions : after.executions = tables.executions

theorem writesExit {tables after : LiveSimTables} {position : LiveSimPosition}
    {intent : ExitIntent} {readings : QueueReadings}
    (written : writeQueuedExit tables position intent readings = some after) :
    WritesExit tables after position intent readings := by
  rcases Option.bind_eq_some_iff.mp written with ⟨orders, inserted, rows⟩
  rw [Option.pure_def, Option.some.injEq] at rows
  subst rows
  exact ⟨inserted, rfl, rfl, rfl, rfl⟩

/-! ## Signals and intents -/

theorem insertedSignal {tables after : LiveSimTables} {signal : ExitSignal}
    (success : insertExitSignalFromCandidate tables signal = .ok after) :
    tables.activeExitForPosition signal.positionId = false ∧
      ∃ exitSignals, tables.exitSignals.insert? signal = some exitSignals ∧
        after = { tables with exitSignals := exitSignals } := by
  rw [insertExitSignalFromCandidate] at success
  split at success
  · cases success
  · next inactive =>
      split at success
      · next exitSignals inserted =>
          rw [Except.ok.injEq] at success
          exact ⟨by simpa using inactive, exitSignals, inserted, success.symm⟩
      · cases success

/-- What a created intent needs, and its rows. -/
structure CreatesExit (settings : LiveSimSettings) (tables after : LiveSimTables)
    (exitIntentId : String) (position : LiveSimPosition) (signal : ExitSignal) : Prop where
  held : tables.positions.find? position.positionId = some position
  inactive : tables.activeExitIntentForPosition position.positionId = false
  isOpen : position.status = .opened ∨ position.status = .reconcileMismatch
  positive : 0 < position.availableQuantity
  exitIntents : insertExitIntent tables.exitIntents
    (newExitIntent settings position signal exitIntentId) = some after.exitIntents
  exitSignals : after.exitSignals = tables.exitSignals.update signal.exitSignalId
    (setExitSignalStatus .exitIntentCreated) (key_setExitSignalStatus _)
  orders : after.orders = tables.orders
  executions : after.executions = tables.executions
  positions : after.positions = tables.positions

theorem createsExit {settings : LiveSimSettings} {tables after : LiveSimTables}
    {positionId exitIntentId : String} {exitSignalId : Option String}
    (success : createLiveSimExitIntent settings tables positionId exitSignalId exitIntentId =
      .ok after) :
    ∃ position signal, position.positionId = positionId ∧
      CreatesExit settings tables after exitIntentId position signal := by
  rw [createLiveSimExitIntent] at success
  split at success
  · cases success
  · next position found =>
      have isPosition : position.positionId = positionId := Table.key_of_find? found
      split at success
      · cases success
      · next accepted =>
          split at success
          · cases success
          · next signal _ =>
              split at success
              · cases success
              · next exitIntents inserted =>
                  rw [Except.ok.injEq] at success
                  subst success
                  simp only [exitIntentRefusal] at accepted
                  split at accepted
                  · cases accepted
                  · split at accepted
                    · cases accepted
                    · split at accepted
                      · cases accepted
                      · next inactive =>
                          split at accepted
                          · cases accepted
                          · next isOpen =>
                              split at accepted
                              · cases accepted
                              · refine ⟨position, signal, isPosition, ?_, ?_, ?_, ?_, inserted,
                                  rfl, rfl, rfl, rfl⟩
                                · rw [isPosition]
                                  exact found
                                · simpa using inactive
                                · by_contra neither
                                  exact isOpen ⟨fun is => neither (Or.inl is),
                                    fun is => neither (Or.inr is)⟩
                                · omega

end SuseokTrader
