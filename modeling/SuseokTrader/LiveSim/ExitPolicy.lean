import SuseokTrader.Lib.Sorting
import SuseokTrader.LiveSim.Exits

/-!
# The exit policy

A position is held against the latest price of its code: a stop loss, a profit,
a fall from its highest price, the time it was held and the end of the day may
each trigger an exit. Positions are looked at one after the other, and each is
marked to the market before the policy is asked.
-/

namespace SuseokTrader

/-! ## Policy -/

inductive ExitTriggerType where
  | stopLoss
  | takeProfit
  | trailingStop
  | maxHold
  | eodFlatten
deriving DecidableEq

namespace ExitTriggerType

def value : ExitTriggerType → String
  | stopLoss => "STOP_LOSS"
  | takeProfit => "TAKE_PROFIT"
  | trailingStop => "TRAILING_STOP"
  | maxHold => "MAX_HOLD"
  | eodFlatten => "EOD_FLATTEN"

/-- `EXIT_TRIGGER_PRIORITY` -/
def priority : ExitTriggerType → Nat
  | stopLoss => 0
  | trailingStop => 1
  | eodFlatten => 2
  | maxHold => 3
  | takeProfit => 4

end ExitTriggerType

inductive ExitOrderStyle where
  | sellLimit
  | stopSell
deriving DecidableEq

structure ExitPolicySettings where
  staleTickSec : Nat
  stopLossPct : Rat
  takeProfitPct : Rat
  trailingActivationPct : Rat
  trailingStopPct : Rat
  minimumHoldSec : Nat
  maximumHoldSec : Nat
  eodFlattenEnabled : Bool
  eodFlattenTime : Nat

structure ExitPolicySettings.Valid (settings : ExitPolicySettings) : Prop where
  stopLoss : 0 < settings.stopLossPct
  takeProfit : 0 < settings.takeProfitPct
  trailingStop : 0 < settings.trailingStopPct
  activation : 0 ≤ settings.trailingActivationPct
  maximum : 1 ≤ settings.maximumHoldSec
  holds : settings.minimumHoldSec ≤ settings.maximumHoldSec

abbrev ExitPolicyConfig := {settings : ExitPolicySettings // settings.Valid}

def exitPolicyConfig (settings : ExitPolicySettings) : Checked ExitPolicyConfig :=
  if stopLoss : settings.stopLossPct ≤ 0 then Checked.invalid "stop_loss_pct must be > 0"
  else if takeProfit : settings.takeProfitPct ≤ 0 then
    Checked.invalid "take_profit_pct must be > 0"
  else if trailing : settings.trailingStopPct ≤ 0 then
    Checked.invalid "trailing_stop_pct must be > 0"
  else if activation : settings.trailingActivationPct < 0 then
    Checked.invalid "trailing_activation_pct must be >= 0"
  else if maximum : settings.maximumHoldSec < 1 then
    Checked.invalid "maximum_hold_sec must be >= 1"
  else if holds : settings.maximumHoldSec < settings.minimumHoldSec then
    Checked.invalid "maximum_hold_sec must be >= minimum_hold_sec"
  else .ok ⟨settings, not_le.mp stopLoss, not_le.mp takeProfit, not_le.mp trailing,
    not_lt.mp activation, not_lt.mp maximum, not_lt.mp holds⟩

structure LongPositionSnapshot where
  entryPrice : Rat
  currentPrice : Rat
  highestPrice : Rat
  quantity : Int
  openedAt : Instant
  observedAt : Instant
  entry_pos : 0 < entryPrice
  current_pos : 0 < currentPrice
  current_le : currentPrice ≤ highestPrice
  quantity_pos : 0 < quantity
  opened_le : openedAt ≤ observedAt

def longPositionSnapshot (entryPrice currentPrice highestPrice : Rat) (quantity : Int)
    (openedAt : Checked Instant) (observedAt : Instant) : Checked LongPositionSnapshot :=
  if prices : entryPrice ≤ 0 ∨ currentPrice ≤ 0 ∨ highestPrice ≤ 0 then
    Checked.invalid "position prices must be > 0"
  else if noShares : quantity ≤ 0 then Checked.invalid "long position quantity must be > 0"
  else
    match openedAt with
    | .error failure => .error failure
    | .ok openedAt =>
        if early : observedAt < openedAt then
          Checked.invalid "opened_at must not be after observed_at"
        else .ok
          { entryPrice := entryPrice
            currentPrice := currentPrice
            highestPrice := max highestPrice currentPrice
            quantity := quantity
            openedAt := openedAt
            observedAt := observedAt
            entry_pos := not_le.mp fun low => prices (Or.inl low)
            current_pos := not_le.mp fun low => prices (Or.inr (Or.inl low))
            current_le := le_max_right _ _
            quantity_pos := not_le.mp noShares
            opened_le := not_lt.mp early }

structure ExitPolicyTrigger where
  triggerType : ExitTriggerType
  orderStyle : ExitOrderStyle
  triggerPrice : Option Rat
  currentPrice : Rat
  holdSec : Rat

def eodDue (observedAt : Instant) (eodFlattenTime : Nat) : Bool :=
  let localTime := (observedAt + 9 * 3600 * Time.microsPerSecond) % Time.microsPerDay
  decide (eodFlattenTime ≤ localTime) && decide (localTime < Time.microsPerDay - 1)

def evaluateLongExitPolicy (position : LongPositionSnapshot) (policy : ExitPolicyConfig) :
    List ExitPolicyTrigger :=
  let policy := policy.val
  let held := position.observedAt - position.openedAt
  let trigger (triggerType : ExitTriggerType) (orderStyle : ExitOrderStyle)
      (triggerPrice : Option Rat) : ExitPolicyTrigger :=
    ⟨triggerType, orderStyle, triggerPrice, position.currentPrice, held / Time.microsPerSecond⟩
  let stopPrice := position.entryPrice * (1 - policy.stopLossPct / 100)
  let takeProfitPrice := position.entryPrice * (1 + policy.takeProfitPct / 100)
  let trailingStopPrice := position.highestPrice * (1 - policy.trailingStopPct / 100)
  let triggers := List.flatten
    [if position.currentPrice ≤ stopPrice then [trigger .stopLoss .stopSell (some stopPrice)]
      else [],
     if takeProfitPrice ≤ position.currentPrice then
        [trigger .takeProfit .sellLimit (some takeProfitPrice)]
      else [],
     if position.entryPrice * (1 + policy.trailingActivationPct / 100) ≤ position.highestPrice ∧
        position.currentPrice ≤ trailingStopPrice then
        [trigger .trailingStop .stopSell (some trailingStopPrice)]
      else [],
     if policy.maximumHoldSec * Time.microsPerSecond ≤ held ∧
        policy.minimumHoldSec * Time.microsPerSecond ≤ held then [trigger .maxHold .stopSell none]
      else [],
     if policy.eodFlattenEnabled ∧ eodDue position.observedAt policy.eodFlattenTime then
        [trigger .eodFlatten .stopSell none]
      else []]
  triggers.insertionSort fun left right => left.triggerType.priority ≤ right.triggerType.priority

/-! ## Evaluation -/

structure ExitTick where
  price : Rat
  eventTs : String

structure ExitReadings where
  settings : LiveSimSettings
  policy : ExitPolicySettings
  latestTick : String → Option ExitTick
  clock : String → Instant

structure ExitEvaluationRequest where
  positionId : Option String
  code : Option String
  limit : Option Int

structure ExitSignalDraft where
  position : LiveSimPosition
  trigger : ExitTrigger
  eligible : Bool
  reasonCodes : List String

variable (readings : ExitReadings)

def markPositionToMarket (tick : ExitTick) (now : Instant)
    (position : LiveSimPosition) : LiveSimPosition :=
  { position with
    lastPrice := some tick.price
    lastPriceAt := some tick.eventTs
    unrealizedPnl := netUnrealizedPnl readings.settings position.quantity position.avgEntryPrice tick.price
    highestPrice := some (max (priceOr position.highestPrice tick.price) tick.price)
    lowestPrice := some (min (priceOr position.lowestPrice tick.price) tick.price)
    updatedAt := datetimeToWire now }

variable (tables : LiveSimTables)

def markRow (positionId : String)
    (tick : ExitTick) (now : Instant) : LiveSimTables :=
  { tables with
    positions := tables.positions.update positionId (markPositionToMarket readings tick now)
      fun _ => rfl }

def exitSignalDraft (position : LiveSimPosition)
    (trigger : ExitPolicyTrigger) : ExitSignalDraft :=
  let active := tables.activeExitForPosition position.positionId
  { position := position
    trigger := ⟨trigger.triggerType.value, trigger.triggerPrice, trigger.currentPrice⟩
    eligible := !active
    reasonCodes := if active then ["LIVE_SIM_EXIT_DUPLICATE"] else [] }

def openedInstant (position : LiveSimPosition) (now : Instant) : Checked Instant :=
  if position.openedAt = "" then .ok now else parseTimestamp (.str position.openedAt) "opened_at"

def askPolicy (state : LiveSimTables × List ExitSignalDraft)
    (position : LiveSimPosition) (tick : ExitTick) (eventAt now : Instant) :
    Checked (LiveSimTables × List ExitSignalDraft) :=
  if readings.policy.staleTickSec * Time.microsPerSecond < now - eventAt then return state
  else do
    let snapshot ← longPositionSnapshot position.avgEntryPrice tick.price
      (priceOr position.highestPrice tick.price) position.quantity
      (openedInstant position now) now
    let config ← exitPolicyConfig readings.policy
    return (state.1, state.2 ++
      (evaluateLongExitPolicy snapshot config).map (exitSignalDraft state.1 position))

def evaluatePosition (readings : ExitReadings)
    (state : LiveSimTables × List ExitSignalDraft) (position : LiveSimPosition) :
    Checked (LiveSimTables × List ExitSignalDraft) := do
  let code ← validateStockCode (.str position.code)
  match readings.latestTick code with
  | none => return state
  | some tick =>
      let eventAt ← parseTimestamp (.str tick.eventTs) "event_ts"
      let now := readings.clock position.positionId
      let tables := markRow readings state.1 position.positionId tick now
      let positionId ← requireNonEmptyStr (.str position.positionId) "position_id"
      askPolicy readings (tables, state.2) ((tables.positions.find? positionId).getD position) tick
        eventAt now

def selectionLimit (limit : Option Int) : Nat :=
  let limit := match limit with
    | some limit => if limit = 0 then 500 else limit
    | none => 500
  (min (max limit 1) 500).toNat

/-- The open positions of the request, the oldest first. -/
def selectedPositions (request : ExitEvaluationRequest) :
    Checked (List LiveSimPosition) := do
  let positionId ← request.positionId.mapM fun text =>
    requireNonEmptyStr (.str text) "position_id"
  let code ← request.code.mapM fun text => validateStockCode (.str text)
  let isAsked (position : LiveSimPosition) : Bool :=
    isEvaluated position && positionId.all (· == position.positionId) &&
      code.all (· == position.code)
  return ((tables.positions.rows.filter isAsked).insertionSort fun left right =>
    (openedOrder left right).isLE).take (selectionLimit request.limit)

def evaluateLiveSimExitSignals
    (request : ExitEvaluationRequest) : Checked (LiveSimTables × List ExitSignalDraft) := do
  let positions ← selectedPositions tables request
  positions.foldlM (evaluatePosition readings) (tables, [])

end SuseokTrader
