import SuseokTrader.Broker.Time
import SuseokTrader.Broker.Utils
import SuseokTrader.Lib.Run
import SuseokTrader.Lib.Table

/-!
# Accounts of the dry run

Simulated buys open positions and add to them. An exit intent becomes an exit
order, and the order is filled once, for no more than is left of its position
by then. So whatever intents and orders compete for a position, what was bought
is what was sold and what is left.
-/

namespace SuseokTrader

/-! ## Tables -/

inductive DryRunPositionStatus where
  | opened
  | closed
deriving DecidableEq

structure DryRunPosition where
  dryRunPositionId : String
  tradeDate : String
  code : String
  name : String
  quantity : Int
  avgPrice : Rat
  investedNotional : Rat
  realizedPnl : Rat
  unrealizedPnl : Rat
  lastPrice : Rat
  status : DryRunPositionStatus
  openedAt : String
  updatedAt : String
  closedAt : Option String

instance : Keyed DryRunPosition String := ⟨DryRunPosition.dryRunPositionId⟩

inductive DryRunExitIntentStatus where
  | created
  | rejected
  | convertedToExitOrder
deriving DecidableEq

structure DryRunExitIntent where
  dryRunExitIntentId : String
  exitEvaluationId : String
  dryRunPositionId : String
  tradeDate : String
  code : String
  name : String
  quantity : Int
  intendedPrice : Rat
  notional : Rat
  status : DryRunExitIntentStatus
  reasonCodes : List String

instance : Keyed DryRunExitIntent String := ⟨DryRunExitIntent.dryRunExitIntentId⟩

inductive DryRunExitOrderStatus where
  | created
  | simulatedFilled
deriving DecidableEq

structure DryRunExitOrder where
  dryRunExitOrderId : String
  dryRunExitIntentId : String
  dryRunPositionId : String
  tradeDate : String
  code : String
  name : String
  quantity : Int
  requestedPrice : Rat
  filledQuantity : Int
  remainingQuantity : Int
  simulatedFillPrice : Option Rat
  status : DryRunExitOrderStatus

instance : Keyed DryRunExitOrder String := ⟨DryRunExitOrder.dryRunExitOrderId⟩

structure DryRunExitExecution where
  dryRunExitExecutionId : String
  dryRunExitOrderId : String
  dryRunExitIntentId : String
  dryRunPositionId : String
  code : String
  quantity : Int
  price : Rat
  notional : Rat
  realizedPnl : Rat
  commission : Rat
  tax : Rat
  executedAt : String

instance : Keyed DryRunExitExecution String := ⟨DryRunExitExecution.dryRunExitExecutionId⟩

structure BuyEntry where
  dryRunPositionId : String
  quantity : Int
  amount : Rat

structure DryRunTables where
  positions : Table DryRunPosition
  exitIntents : Table DryRunExitIntent
  exitOrders : Table DryRunExitOrder
  exitExecutions : Table DryRunExitExecution
  buys : List BuyEntry

def DryRunTables.empty : DryRunTables :=
  ⟨.empty, .empty, .empty, .empty, []⟩

structure DryRunSettings where
  exitEngineEnabled : Bool
  exitIntentCreationEnabled : Bool
  exitOrderCreationEnabled : Bool
  exitSimulatedFillEnabled : Bool
  exitRequireSafetyGate : Bool
  commissionRate : Rat
  taxRate : Rat

/-! ## Buys -/

structure DryRunExecution where
  tradeDate : String
  code : String
  name : String
  quantity : Int
  price : Rat
  quantity_pos : 1 ≤ quantity

variable (execution : DryRunExecution)

def DryRunExecution.notional : Rat :=
  execution.price * execution.quantity

def openedDryRunPosition (positionId now : String) :
    DryRunPosition where
  dryRunPositionId := positionId
  tradeDate := execution.tradeDate
  code := execution.code
  name := execution.name
  quantity := execution.quantity
  avgPrice := execution.price
  investedNotional := execution.notional
  realizedPnl := 0
  unrealizedPnl := 0
  lastPrice := execution.price
  status := .opened
  openedAt := now
  updatedAt := now
  closedAt := none

def raisedDryRunPosition (now : String)
    (position : DryRunPosition) : DryRunPosition :=
  let newQuantity := position.quantity + execution.quantity
  let newNotional := position.investedNotional + execution.notional
  let avgPrice := if newQuantity = 0 then 0 else newNotional / newQuantity
  { position with
    quantity := newQuantity
    avgPrice := avgPrice
    investedNotional := newNotional
    unrealizedPnl := (execution.price - avgPrice) * newQuantity
    lastPrice := execution.price
    updatedAt := now }

variable (tables : DryRunTables)

def openDryRunPosition (execution : DryRunExecution) :
    Option DryRunPosition :=
  ((tables.positions.rows.filter fun position =>
      position.tradeDate = execution.tradeDate && position.code = execution.code &&
        position.status = .opened).insertionSort
    fun left right => (compare left.openedAt right.openedAt).isLE).head?

def upsertPositionForExecution (execution : DryRunExecution)
    (newId now : String) : Checked DryRunTables :=
  match openDryRunPosition tables execution with
  | none =>
      match tables.positions.insert? (openedDryRunPosition execution newId now) with
      | none => .error (.crash "UNIQUE constraint failed: dry_run_positions.dry_run_position_id")
      | some positions => .ok { tables with
          positions := positions
          buys := tables.buys ++ [⟨newId, execution.quantity, execution.notional⟩] }
  | some position => .ok { tables with
      positions := tables.positions.update position.dryRunPositionId
        (raisedDryRunPosition execution now) fun _ => rfl
      buys := tables.buys ++
        [⟨position.dryRunPositionId, execution.quantity, execution.notional⟩] }

/-! ## Exits -/

def isActiveDryRunPosition (position : DryRunPosition) : Bool :=
  position.status = .opened && position.quantity > 0

structure DryRunEvaluation where
  exitEvaluationId : String
  signalObserved : Bool
  lastPrice : Option Rat

structure ExitIntentReadings where
  gateReasons : List String
  exitEvaluationId : Option String
  evaluation : Option DryRunEvaluation
  newId : String

def rejectedExitIntent (readings : ExitIntentReadings) (positionId : String)
    (position : Option DryRunPosition) (evaluationId : Option String) (reasonCodes : List String) :
    DryRunExitIntent where
  dryRunExitIntentId := readings.newId
  exitEvaluationId := evaluationId.getD "UNKNOWN"
  dryRunPositionId := positionId
  tradeDate := (position.map DryRunPosition.tradeDate).getD "UNKNOWN"
  code := (position.map DryRunPosition.code).getD "000000"
  name := (position.map DryRunPosition.name).getD "UNKNOWN"
  quantity := max ((position.map DryRunPosition.quantity).getD 0) 0
  intendedPrice := (position.map DryRunPosition.lastPrice).getD 0
  notional := (position.map DryRunPosition.lastPrice).getD 0 *
    (max ((position.map DryRunPosition.quantity).getD 0) 0 : Int)
  status := .rejected
  reasonCodes := reasonCodes

variable (settings : DryRunSettings)

def exitIntentOf (readings : ExitIntentReadings) (positionId : String)
    (found : Option DryRunPosition) : DryRunExitIntent :=
  let reject := rejectedExitIntent readings positionId found
  if !settings.exitEngineEnabled then reject readings.exitEvaluationId ["DRY_RUN_EXIT_DISABLED"]
  else if !settings.exitIntentCreationEnabled then
    reject readings.exitEvaluationId ["EXIT_INTENT_CREATION_DISABLED"]
  else if settings.exitRequireSafetyGate ∧ readings.gateReasons ≠ [] then
    reject readings.exitEvaluationId ("SAFETY_GATE_FAILED" :: readings.gateReasons)
  else
    match found with
    | none => reject readings.exitEvaluationId ["POSITION_NOT_FOUND"]
    | some position =>
        if !isActiveDryRunPosition position then
          reject readings.exitEvaluationId ["POSITION_ALREADY_CLOSED"]
        else
          match readings.evaluation with
          | none => reject readings.exitEvaluationId ["EXIT_EVALUATION_NOT_FOUND"]
          | some evaluation =>
              let price := (evaluation.lastPrice.filter (· ≠ 0)).getD position.lastPrice
              if !evaluation.signalObserved then
                reject evaluation.exitEvaluationId ["EXIT_SIGNAL_REQUIRED"]
              else if price ≤ 0 then reject evaluation.exitEvaluationId ["LATEST_TICK_MISSING"]
              else
                { dryRunExitIntentId := readings.newId
                  exitEvaluationId := evaluation.exitEvaluationId
                  dryRunPositionId := positionId
                  tradeDate := position.tradeDate
                  code := position.code
                  name := position.name
                  quantity := position.quantity
                  intendedPrice := price
                  notional := price * position.quantity
                  status := .created
                  reasonCodes := ["DRY_RUN_ONLY", "LIVE_ORDER_FORBIDDEN",
                    "GATEWAY_COMMAND_FORBIDDEN", "BROKER_ORDER_FORBIDDEN"] }

def createDryRunExitIntent (tables : DryRunTables)
    (positionId : String) (readings : ExitIntentReadings) : Checked DryRunTables := do
  let positionId ← requireNonEmptyStr (.str positionId) "dry_run_position_id"
  match tables.exitIntents.insert?
      (exitIntentOf settings readings positionId (tables.positions.find? positionId)) with
  | none => .error (.crash "UNIQUE constraint failed: dry_run_exit_intents.dry_run_exit_intent_id")
  | some exitIntents => return { tables with exitIntents := exitIntents }

def exitOrderOf (intent : DryRunExitIntent) (newId : String) : DryRunExitOrder where
  dryRunExitOrderId := newId
  dryRunExitIntentId := intent.dryRunExitIntentId
  dryRunPositionId := intent.dryRunPositionId
  tradeDate := intent.tradeDate
  code := intent.code
  name := intent.name
  quantity := intent.quantity
  requestedPrice := intent.intendedPrice
  filledQuantity := 0
  remainingQuantity := intent.quantity
  simulatedFillPrice := none
  status := .created

def activePosition (positionId : String) : Checked DryRunPosition :=
  match tables.positions.find? positionId with
  | none => Checked.invalid "POSITION_NOT_FOUND"
  | some position =>
      if isActiveDryRunPosition position then .ok position
      else Checked.invalid "POSITION_ALREADY_CLOSED"

def convertExitIntentToDryRunOrder (tables : DryRunTables)
    (exitIntentId : String) (gateReasons : List String) (newId : String) : Checked DryRunTables :=
  if !settings.exitOrderCreationEnabled then Checked.invalid "EXIT_ORDER_CREATION_DISABLED"
  else if settings.exitRequireSafetyGate ∧ gateReasons ≠ [] then
    Checked.invalid "SAFETY_GATE_FAILED"
  else
    match tables.exitIntents.find? exitIntentId with
    | none => Checked.invalid "EXIT_INTENT_NOT_FOUND"
    | some intent =>
        if intent.status ≠ .created then Checked.invalid "INVALID_EXIT_INTENT_STATUS"
        else do
          let _ ← activePosition tables intent.dryRunPositionId
          match tables.exitOrders.insert? (exitOrderOf intent newId) with
          | none =>
              .error (.crash "UNIQUE constraint failed: dry_run_exit_orders.dry_run_exit_order_id")
          | some exitOrders => return { tables with
              exitOrders := exitOrders
              exitIntents := tables.exitIntents.update exitIntentId
                (fun intent => { intent with status := .convertedToExitOrder }) fun _ => rfl }

def fillQuantity (order : DryRunExitOrder) (position : DryRunPosition) : Int :=
  min (if order.remainingQuantity = 0 then order.quantity else order.remainingQuantity)
    position.quantity

def exitExecutionOf (order : DryRunExitOrder)
    (position : DryRunPosition) (tickPrice : Rat) (newId executedAt : String) :
    DryRunExitExecution :=
  let quantity := fillQuantity order position
  let price := if tickPrice = 0 then order.requestedPrice else tickPrice
  let notional := price * quantity
  let commission := notional * settings.commissionRate
  let tax := notional * settings.taxRate
  { dryRunExitExecutionId := newId
    dryRunExitOrderId := order.dryRunExitOrderId
    dryRunExitIntentId := order.dryRunExitIntentId
    dryRunPositionId := order.dryRunPositionId
    code := order.code
    quantity := quantity
    price := price
    notional := notional
    realizedPnl := (price - position.avgPrice) * quantity - commission - tax
    commission := commission
    tax := tax
    executedAt := executedAt }

def filledExitOrder (execution : DryRunExitExecution) (order : DryRunExitOrder) : DryRunExitOrder :=
  { order with
    status := .simulatedFilled
    simulatedFillPrice := some execution.price
    filledQuantity := execution.quantity
    remainingQuantity := 0 }

def reduceOrClosePosition (execution : DryRunExitExecution) (position : DryRunPosition) :
    DryRunPosition :=
  let newQuantity := max (position.quantity - execution.quantity) 0
  { position with
    quantity := newQuantity
    investedNotional := position.avgPrice * newQuantity
    realizedPnl := position.realizedPnl + execution.realizedPnl
    unrealizedPnl := (execution.price - position.avgPrice) * newQuantity
    lastPrice := execution.price
    status := if newQuantity = 0 then .closed else .opened
    updatedAt := execution.executedAt
    closedAt := if newQuantity = 0 then some execution.executedAt else position.closedAt }

def simulateFillDryRunExitOrder (tables : DryRunTables)
    (exitOrderId : String) (gateReasons : List String) (latestTick : String → Option Rat)
    (newId executedAt : String) : Checked DryRunTables :=
  if !settings.exitSimulatedFillEnabled then Checked.invalid "SIMULATED_EXIT_FILL_DISABLED"
  else if settings.exitRequireSafetyGate ∧ gateReasons ≠ [] then
    Checked.invalid "SAFETY_GATE_FAILED"
  else
    match tables.exitOrders.find? exitOrderId with
    | none => Checked.invalid "EXIT_ORDER_NOT_FOUND"
    | some order =>
        if order.status ≠ .created then Checked.invalid "INVALID_EXIT_ORDER_STATUS"
        else do
          let position ← activePosition tables order.dryRunPositionId
          match latestTick order.code with
          | none => Checked.invalid "LATEST_TICK_MISSING"
          | some tickPrice =>
              let execution := exitExecutionOf settings order position tickPrice newId executedAt
              if execution.quantity ≤ 0 then Checked.invalid "POSITION_QUANTITY_INVALID"
              else
                match tables.exitExecutions.insert? execution with
                | none => .error (.crash
                    "UNIQUE constraint failed: dry_run_exit_executions.dry_run_exit_execution_id")
                | some exitExecutions => return { tables with
                    exitExecutions := exitExecutions
                    exitOrders := tables.exitOrders.update order.dryRunExitOrderId
                      (filledExitOrder execution) fun _ => rfl
                    positions := tables.positions.update position.dryRunPositionId
                      (reduceOrClosePosition execution) fun _ => rfl }

/-! ## The system -/

inductive DryRunOp where
  | buy (execution : DryRunExecution) (newId now : String)
  | createIntent (positionId : String) (readings : ExitIntentReadings)
  | convertIntent (exitIntentId : String) (gateReasons : List String) (newId : String)
  | fillOrder (exitOrderId : String) (gateReasons : List String) (latestTick : String → Option Rat)
      (newId executedAt : String)

def dryRunStep (tables : DryRunTables) : DryRunOp → Checked DryRunTables
  | .buy execution newId now => upsertPositionForExecution tables execution newId now
  | .createIntent positionId readings => createDryRunExitIntent settings tables positionId readings
  | .convertIntent exitIntentId gateReasons newId =>
      convertExitIntentToDryRunOrder settings tables exitIntentId gateReasons newId
  | .fillOrder exitOrderId gateReasons latestTick newId executedAt =>
      simulateFillDryRunExitOrder settings tables exitOrderId gateReasons latestTick newId
        executedAt

/-- A call that raises leaves the tables as they were. -/
def dryRunSystem : System DryRunTables DryRunOp (Option Failure) where
  step tables op :=
    match dryRunStep settings tables op with
    | .ok after => (after, none)
    | .error failure => (tables, some failure)

end SuseokTrader
