import SuseokTrader.Lib.Transaction
import SuseokTrader.LiveSim.Cancels
import SuseokTrader.LiveSim.Runs

/-!
# Queueing that is cut off

The statements of the three calls that queue a command. A purchase is queued
behind a savepoint. An exit and a cancellation commit the command first, and
the rows that speak of it afterwards.
-/

namespace SuseokTrader

/-! ## Statements -/

def onLive (change : LiveSimTables → LiveSimTables) (store : LiveSimStore) : LiveSimStore :=
  { store with live := change store.live }

def onGateway (gateway : Database) (store : LiveSimStore) : LiveSimStore :=
  { store with gateway := gateway }

inductive QueueWay where
  | nothing
  | refuses (first : LiveSimStore → LiveSimStore)
  | sends (gateway : Database) (rows : Option (List (LiveSimTables → LiveSimTables)))

def QueueWay.statements : QueueWay → List (Statement LiveSimStore)
  | .nothing => []
  | .refuses first => Session.committingFirst first [] false
  | .sends gateway rows =>
      Session.committingFirst (onGateway gateway) ((rows.getD []).map onLive) rows.isSome

variable (host : LiveSimHost)

/-- The way of a call with its command: the answer of the gateway store decides. -/
def wayOfCommand (gateway : Database) (command : Checked GatewayCommand)
    (now : Instant) (reject : LiveSimTables → LiveSimTables)
    (rows : Option (List (LiveSimTables → LiveSimTables))) : QueueWay :=
  match command with
  | .error _ => .nothing
  | .ok command =>
      match enqueueCommand host.toHost gateway command none now with
      | .error _ => .nothing
      | .ok (result, written) =>
          if result.accepted then .sends written rows
          else .refuses fun store => onLive reject (onGateway written store)

def rejectExit (intent : ExitIntent) (tables : LiveSimTables) : LiveSimTables :=
  tables.rejectExitIntent intent.exitIntentId

/-- The rows of a queued exit, one statement each; the first one can fail. -/
def exitRows (tables : LiveSimTables) (position : LiveSimPosition) (intent : ExitIntent)
    (readings : QueueReadings) : Option (List (LiveSimTables → LiveSimTables)) :=
  (insertOrder tables.orders (exitOrder position intent readings)).map fun orders =>
    [fun tables => { tables with orders := orders },
      fun tables => { tables with
        exitIntents := tables.exitIntents.update intent.exitIntentId
          (queuedExitIntent readings.commandId readings.orderId) (key_exitIntent_queued readings) },
      fun tables => { tables with
        exitSignals := tables.exitSignals.update intent.exitSignalId
          (setExitSignalStatus .commandQueued) (key_setExitSignalStatus _) },
      fun tables => { tables with
        positions := tables.positions.update position.positionId
          (closingPosition (datetimeToWire readings.queuedAt)) (key_position_closing readings) }]

variable (settings : LiveSimSettings)

def exitCommand (position : LiveSimPosition)
    (intent : ExitIntent) (readings : QueueReadings) : Checked GatewayCommand :=
  liveSimCommand .sendOrder readings.commandId
    (buildGatewayExitOrderPayload host settings position intent) intent.idempotencyKey
    readings.commandTs

variable (store : LiveSimStore)

def exitWay (exitIntentId : String) (readings : QueueReadings) : QueueWay :=
  match store.live.exitIntents.find? exitIntentId with
  | none => .nothing
  | some intent =>
      match store.live.positions.find? intent.positionId with
      | none => .nothing
      | some position =>
          if exitSafetyReasons settings readings.gateReasons position intent ≠ [] then
            .refuses (onLive (rejectExit intent))
          else
            wayOfCommand host store.gateway (exitCommand host settings position intent readings)
              readings.enqueuedAt (rejectExit intent) (exitRows store.live position intent readings)

def rejectCancel (intent : CancelIntent) (tables : LiveSimTables) : LiveSimTables :=
  tables.updateCancelIntent intent.cancelIntentId .rejected

/-- The rows of a queued cancellation, one statement each. -/
def cancelRows (order : LiveSimOrder) (intent : CancelIntent) (readings : QueueReadings) :
    List (LiveSimTables → LiveSimTables) :=
  [fun tables => { tables with
      cancelIntents := tables.cancelIntents.update intent.cancelIntentId
        (queuedCancelIntent readings.commandId) (key_cancelIntent_queued readings) },
    fun tables => { tables with
      orders := tables.orders.update order.liveSimOrderId
        (cancellingOrder .cancelCommandQueued (datetimeToWire readings.queuedAt))
        (key_order_cancelling readings) }]

def cancelCommand (order : LiveSimOrder) (intent : CancelIntent)
    (readings : QueueReadings) : Checked GatewayCommand :=
  liveSimCommand .cancelOrder readings.commandId
    (buildGatewayCancelOrderPayload settings order intent) intent.idempotencyKey
    readings.commandTs

def cancelWay (cancelIntentId : String) (readings : QueueReadings) : QueueWay :=
  match store.live.cancelIntents.find? cancelIntentId with
  | none => .nothing
  | some intent =>
      match store.live.orders.find? intent.liveSimOrderId with
      | none => .nothing
      | some order =>
          if cancelSafetyReasons settings order intent readings ≠ [] then
            .refuses (onLive (rejectCancel intent))
          else
            wayOfCommand host store.gateway (cancelCommand settings order intent readings)
              readings.enqueuedAt (rejectCancel intent) (some (cancelRows order intent readings))

/-- The rows of a queued order, one statement each; the first one can fail. -/
def orderRows (tables : LiveSimTables) (intent : LiveSimIntent) (readings : QueueReadings) :
    Option (List (LiveSimTables → LiveSimTables)) :=
  (insertOrder tables.orders (queuedOrder intent readings)).map fun orders =>
    [fun tables => { tables with orders := orders },
      fun tables => { tables with
        intents := tables.intents.update intent.liveSimIntentId
          (queuedIntent readings.commandId) (key_intent_queued readings) }]

/-- The statements behind the savepoint of an order, and the commit of a call that has a
transaction of its own. -/
def submitStatements
    (intent : LiveSimIntent) (readings : QueueReadings) (callerTransaction : Bool) :
    List (Statement LiveSimStore) :=
  match enqueueOrder host settings store.gateway intent readings with
  | .error _ => []
  | .ok (result, gateway) =>
      if result.accepted then
        match orderRows store.live intent readings with
        | none => [.savepoint, .write (onGateway gateway)]
        | some rows =>
            .savepoint :: ((onGateway gateway :: rows.map onLive).map .write ++
              if callerTransaction then [.release] else [.release, .commit])
      else []

variable (settings : LiveSimBuySettings) (store : LiveSimStore)

def orderStatements (liveSimIntentId : String) (readings : BuyReadings) (callerTransaction : Bool) :
    List (Statement LiveSimStore) :=
  match store.live.intents.find? liveSimIntentId with
  | none => []
  | some intent =>
      if intent.status ≠ .created ∨ orderQueueReasons settings store.live intent readings ≠ [] ∨
          queueBoundaryReasons intent readings ≠ [] then []
      else
        submitStatements host settings.toLiveSimSettings store intent readings.toQueueReadings
          callerTransaction

/-- The calls that queue a command. -/
inductive QueueCall where
  | exit (exitIntentId : String) (readings : QueueReadings)
  | cancel (cancelIntentId : String) (readings : QueueReadings)
  | order (liveSimIntentId : String) (readings : BuyReadings) (callerTransaction : Bool)

def QueueCall.statements (host : LiveSimHost) (settings : LiveSimBuySettings)
    (store : LiveSimStore) : QueueCall → List (Statement LiveSimStore)
  | .exit exitIntentId readings =>
      (exitWay host settings.toLiveSimSettings store exitIntentId readings).statements
  | .cancel cancelIntentId readings =>
      (cancelWay host settings.toLiveSimSettings store cancelIntentId readings).statements
  | .order liveSimIntentId readings callerTransaction =>
      orderStatements host settings store liveSimIntentId readings callerTransaction

/-- The store after the call. -/
def QueueCall.after :
    QueueCall → LiveSimStore
  | .exit exitIntentId readings =>
      (queueLiveSimExitOrderCommand host settings.toLiveSimSettings store exitIntentId readings).1
  | .cancel cancelIntentId readings =>
      (queueLiveSimCancelCommand host settings.toLiveSimSettings store cancelIntentId readings).1
  | .order liveSimIntentId readings _ =>
      (queueLiveSimOrderCommand host settings store liveSimIntentId readings).1

/-! ## The statements make up the call -/

/-- What the statements come to when none is left out. -/
def QueueWay.result : QueueWay → LiveSimStore
  | .nothing => store
  | .refuses first => first store
  | .sends gateway rows =>
      Session.applyAll ((rows.getD []).map onLive) (onGateway gateway store)

theorem cutAfter_whole_committingFirst
    (first : LiveSimStore → LiveSimStore) (changes : List (LiveSimStore → LiveSimStore))
    (completes : Bool) :
    (Session.start store).cutAfter (Session.committingFirst first changes completes)
      (Session.committingFirst first changes completes).length .committed =
      Session.applyAll changes (first store) := by
  have length : changes.length ≤
      (Session.committingFirst first changes completes).length - 2 := by
    simp only [Session.committingFirst, List.length_cons, List.length_append, List.length_map]
    omega
  have notEmpty : (Session.committingFirst first changes completes).length ≠ 0 := by
    simp [Session.committingFirst]
  rw [Session.cutAfter_committingFirst, Session.survivingChanges, if_neg notEmpty]
  dsimp only
  rw [List.take_of_length_le length]

theorem QueueWay.cutAfter_whole (way : QueueWay) :
    (Session.start store).cutAfter way.statements way.statements.length .committed =
      way.result store := by
  cases way with
  | nothing => rfl
  | refuses first => exact cutAfter_whole_committingFirst store first [] false
  | sends gateway rows => exact cutAfter_whole_committingFirst store (onGateway gateway) _ _

theorem exitWay_result (settings : LiveSimSettings) (store : LiveSimStore)
    (exitIntentId : String) (readings : QueueReadings) :
    (exitWay host settings store exitIntentId readings).result store =
      (queueLiveSimExitOrderCommand host settings store exitIntentId readings).1 := by
  rw [exitWay, queueLiveSimExitOrderCommand]
  cases store.live.exitIntents.find? exitIntentId with
  | none => rfl
  | some intent =>
      dsimp only
      cases store.live.positions.find? intent.positionId with
      | none => rfl
      | some position =>
          dsimp only
          cases exitSafetyReasons settings readings.gateReasons position intent with
          | cons reason reasons => rfl
          | nil =>
              rw [exitCommand]
              cases liveSimCommand .sendOrder readings.commandId
                (buildGatewayExitOrderPayload host settings position intent)
                intent.idempotencyKey readings.commandTs with
              | error failure => rfl
              | ok command =>
                  dsimp only [wayOfCommand]
                  rw [queueExitCommand]
                  cases enqueueCommand host.toHost store.gateway command none
                    readings.enqueuedAt with
                  | error failure => rfl
                  | ok enqueued =>
                      rcases enqueued with ⟨result, gateway⟩
                      dsimp only
                      cases result.accepted with
                      | false => rfl
                      | true =>
                          rw [exitRows, writeQueuedExit]
                          cases insertOrder store.live.orders
                            (exitOrder position intent readings) <;> rfl

theorem cancelWay_result (settings : LiveSimSettings) (store : LiveSimStore)
    (cancelIntentId : String) (readings : QueueReadings) :
    (cancelWay host settings store cancelIntentId readings).result store =
      (queueLiveSimCancelCommand host settings store cancelIntentId readings).1 := by
  rw [cancelWay, queueLiveSimCancelCommand]
  cases store.live.cancelIntents.find? cancelIntentId with
  | none => rfl
  | some intent =>
      dsimp only
      cases store.live.orders.find? intent.liveSimOrderId with
      | none => rfl
      | some order =>
          dsimp only
          cases cancelSafetyReasons settings order intent readings with
          | cons reason reasons => rfl
          | nil =>
              rw [cancelCommand]
              cases liveSimCommand .cancelOrder readings.commandId
                (buildGatewayCancelOrderPayload settings order intent)
                intent.idempotencyKey readings.commandTs with
              | error failure => rfl
              | ok command =>
                  dsimp only [wayOfCommand]
                  rw [queueCancelCommand]
                  cases enqueueCommand host.toHost store.gateway command none
                    readings.enqueuedAt with
                  | error failure => rfl
                  | ok enqueued =>
                      rcases enqueued with ⟨result, gateway⟩
                      dsimp only
                      cases result.accepted <;> rfl

theorem orderStatements_result (liveSimIntentId : String) (readings : BuyReadings)
    (callerTransaction : Bool) :
    (Session.start store).cutAfter
      (orderStatements host settings store liveSimIntentId readings callerTransaction)
      (orderStatements host settings store liveSimIntentId readings callerTransaction).length
      .committed = (queueLiveSimOrderCommand host settings store liveSimIntentId readings).1 := by
  rw [Session.cutAfter, List.take_length, orderStatements, queueLiveSimOrderCommand]
  cases store.live.intents.find? liveSimIntentId with
  | none => rfl
  | some intent =>
      by_cases created : intent.status = .created
      · cases refused : orderQueueReasons settings store.live intent readings with
        | cons reason reasons => simp [created, refused, Session.start, Session.survivor]
        | nil =>
            cases blocked : queueBoundaryReasons intent readings with
            | cons reason reasons =>
                simp [created, refused, blocked, Session.start, Session.survivor]
            | nil =>
                simp only [created, refused, blocked, submitStatements, submitOrder, bind,
                  Except.bind]
                cases enqueueOrder host settings.toLiveSimSettings store.gateway intent
                    readings.toQueueReadings with
                | error failure => rfl
                | ok enqueued =>
                    rcases enqueued with ⟨result, gateway⟩
                    cases accepted : result.accepted with
                    | false => simp [accepted, Session.start, Session.survivor, Checked.invalid]
                    | true =>
                        simp only [accepted, orderRows, writeQueuedOrder]
                        cases insertOrder store.live.orders
                            (queuedOrder intent readings.toQueueReadings) with
                        | none => rfl
                        | some orders => cases callerTransaction <;> rfl
      · simp [created, Session.start, Session.survivor]

theorem QueueCall.statements_result (call : QueueCall) :
    (Session.start store).cutAfter (call.statements host settings store)
      (call.statements host settings store).length .committed = call.after host settings store := by
  cases call with
  | exit exitIntentId readings =>
      exact (QueueWay.cutAfter_whole store _).trans
        (exitWay_result host settings.toLiveSimSettings store exitIntentId readings)
  | cancel cancelIntentId readings =>
      exact (QueueWay.cutAfter_whole store _).trans
        (cancelWay_result host settings.toLiveSimSettings store cancelIntentId readings)
  | order liveSimIntentId readings callerTransaction =>
      exact orderStatements_result host settings store liveSimIntentId readings callerTransaction

end SuseokTrader
