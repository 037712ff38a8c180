import SuseokTrader.Lib.Scan
import SuseokTrader.LiveSim.ExitPolicy
import SuseokTrader.LiveSim.Orders

/-!
# Conservative execution

The profit lab replays ticks in the order in which they became available. A
signal buys at its limit when a tick comes down to it in time, the exit policy
is asked at every later tick until it triggers, and the sale waits for a tick
behind the trigger. Prices are exact rational numbers here, nothing is rounded,
and the times of a trade are kept as instants.
-/

namespace SuseokTrader

/-! ## Inputs -/

structure ProfitLabConfig where
  buyCommissionRate : Rat
  sellCommissionRate : Rat
  sellTaxRate : Rat
  buySlippageTicks : Nat
  sellSlippageTicks : Nat
  entryLatencyMs : Nat
  exitLatencyMs : Nat
  entryTtlSec : Nat
  exitTtlSec : Nat
  exitPolicy : ExitPolicyConfig

structure ProfitLabSignal where
  signalId : String
  tradeDate : String
  code : String
  signalAt : Instant
  limitPrice : Rat
  quantity : Int
  exchange : String
  coherent : Bool
  setupType : String
  regime : String
  theme : String
  limitPrice_pos : 0 < limitPrice
  quantity_pos : 0 < quantity

structure ExecutionTick where
  sequence : Nat
  eventId : String
  code : String
  exchange : String
  price : Int
  eventAt : Instant
  availableAt : Instant
  price_pos : 0 < price

def microsPerMilli : Nat := 1000

/-! ## Trades -/

structure ExitTriggered where
  tick : ExecutionTick
  triggerType : ExitTriggerType
  orderStyle : ExitOrderStyle
  triggerPrice : Option Int

structure ExitFill where
  tick : ExecutionTick
  price : Int

structure Excursion where
  highest : Int
  lowest : Int

def Excursion.include (excursion : Excursion) (price : Int) : Excursion :=
  ⟨max excursion.highest price, min excursion.lowest price⟩

structure TradeCosts where
  grossPnl : Rat
  buyCommission : Rat
  sellCommission : Rat
  sellTax : Rat
  slippageCost : Rat
  totalCost : Rat
  netPnl : Rat
  netR : Option Rat

inductive TradeOutcome where
  | ineligible
  | entryNoFill
  | openAtReplayEnd (entry : ExecutionTick) (excursion : Excursion)
  | exitNoFill (entry : ExecutionTick) (trigger : ExitTriggered) (excursion : Excursion)
  | closed (entry : ExecutionTick) (trigger : ExitTriggered) (fill : ExitFill)
      (excursion : Excursion) (costs : TradeCosts)

namespace TradeOutcome

def status : TradeOutcome → String
  | ineligible => "INELIGIBLE"
  | entryNoFill => "ENTRY_NO_FILL"
  | openAtReplayEnd .. => "OPEN_AT_REPLAY_END"
  | exitNoFill .. => "EXIT_NO_FILL"
  | closed .. => "CLOSED"

def reasonCode : TradeOutcome → String
  | ineligible => "SIGNAL_NOT_COHERENT"
  | entryNoFill => "BUY_LIMIT_TTL_NO_FILL"
  | openAtReplayEnd .. => "EXIT_TRIGGER_NOT_OBSERVED"
  | exitNoFill .. => "SELL_EXIT_TTL_NO_FILL"
  | closed .. => "CONSERVATIVE_EXIT_FILLED"

def entry : TradeOutcome → Option ExecutionTick
  | ineligible | entryNoFill => none
  | openAtReplayEnd entry _ | exitNoFill entry _ _ | closed entry _ _ _ _ => some entry

def trigger : TradeOutcome → Option ExitTriggered
  | exitNoFill _ trigger _ | closed _ trigger _ _ _ => some trigger
  | _ => none

def fill : TradeOutcome → Option ExitFill
  | closed _ _ fill _ _ => some fill
  | _ => none

def excursion : TradeOutcome → Option Excursion
  | ineligible | entryNoFill => none
  | openAtReplayEnd _ excursion | exitNoFill _ _ excursion | closed _ _ _ excursion _ =>
      some excursion

def netPnl : TradeOutcome → Rat
  | closed _ _ _ _ costs => costs.netPnl
  | _ => 0

end TradeOutcome

structure ProfitLabTrade where
  signal : ProfitLabSignal
  datasetSplit : String
  requestedEntryLimit : Int
  outcome : TradeOutcome

/-! ## The simulation of a signal -/

def requestedLimit (signal : ProfitLabSignal) : Int :=
  normalizeTickPrice signal.limitPrice

variable (config : ProfitLabConfig)

variable (signal : ProfitLabSignal)

def entryStep (_ : Unit)
    (tick : ExecutionTick) : ScanStep Unit Bool :=
  if tick.availableAt ≤ signal.signalAt ∨
      tick.availableAt < signal.signalAt + config.entryLatencyMs * microsPerMilli then .next ()
  else if signal.signalAt + config.entryTtlSec * Time.microsPerSecond < tick.availableAt then
    .stop false
  else if tick.price ≤ requestedLimit signal then .stop true
  else .next ()

variable (entry : ExecutionTick)

/-- The policy is asked with the highest price up to the tick, this one included. -/
def triggerStep (excursion : Excursion) (tick : ExecutionTick) :
    ScanStep Excursion (Checked (Excursion × ExitPolicyTrigger)) :=
  let excursion := excursion.include tick.price
  match longPositionSnapshot (requestedLimit signal) tick.price excursion.highest signal.quantity
      (.ok entry.availableAt) tick.availableAt with
  | .error failure => .stop (.error failure)
  | .ok snapshot =>
      match evaluateLongExitPolicy snapshot config.exitPolicy with
      | [] => .next excursion
      | trigger :: _ => .stop (.ok (excursion, trigger))

def exitStep (trigger : ExitTriggered) (_ : Unit)
    (tick : ExecutionTick) : ScanStep Unit (Option Int) :=
  let triggeredAt := trigger.tick.availableAt
  if tick.availableAt ≤ triggeredAt ∨
      tick.availableAt < triggeredAt + config.exitLatencyMs * microsPerMilli then .next ()
  else if triggeredAt + config.exitTtlSec * Time.microsPerSecond < tick.availableAt then .stop none
  else
    match trigger.orderStyle with
    | .stopSell => .stop (some tick.price)
    | .sellLimit =>
        match trigger.triggerPrice with
        | none => .next ()
        | some limitPrice => if tick.price < limitPrice then .next () else .stop (some limitPrice)

def subtractTicks (price : Int) : Nat → Int
  | 0 => normalizeTickPrice price
  | ticks + 1 =>
      let adjusted := subtractTicks price ticks
      if adjusted ≤ 1 then 1
      else
        let tick := krxTickSize (adjusted - 1 : Int)
        max ((adjusted - 1) / tick * tick) tick

def tradeCosts (quantity entryPrice exitPrice : Int) : TradeCosts :=
  let buyNotional : Rat := entryPrice * quantity
  let sellNotional : Rat := exitPrice * quantity
  let slippageCost : Rat :=
    ((addTicks entryPrice config.buySlippageTicks - entryPrice) * quantity +
      (exitPrice - subtractTicks exitPrice config.sellSlippageTicks) * quantity : Int)
  let totalCost := buyNotional * config.buyCommissionRate +
    sellNotional * config.sellCommissionRate + sellNotional * config.sellTaxRate + slippageCost
  let grossPnl : Rat := ((exitPrice - entryPrice) * quantity : Int)
  let initialRisk := entryPrice * (config.exitPolicy.val.stopLossPct / 100) * quantity
  { grossPnl := grossPnl
    buyCommission := buyNotional * config.buyCommissionRate
    sellCommission := sellNotional * config.sellCommissionRate
    sellTax := sellNotional * config.sellTaxRate
    slippageCost := slippageCost
    totalCost := totalCost
    netPnl := grossPnl - totalCost
    netR := if 0 < initialRisk then some ((grossPnl - totalCost) / initialRisk) else none }

def startExcursion : Excursion :=
  ⟨max (requestedLimit signal) entry.price, min (requestedLimit signal) entry.price⟩

def exitTriggered (tick : ExecutionTick) (trigger : ExitPolicyTrigger) : ExitTriggered :=
  ⟨tick, trigger.triggerType, trigger.orderStyle, trigger.triggerPrice.map normalizeTickPrice⟩

/-- Behind a trigger: the sale, if a tick comes in time. -/
def soldOutcome (trigger : ExitTriggered) (excursion : Excursion) (behind : List ExecutionTick) :
    TradeOutcome :=
  match scan (exitStep config trigger) () behind with
  | .inr ⟨_, tick, _, some price⟩ =>
      .closed entry trigger ⟨tick, price⟩ (excursion.include tick.price)
        (tradeCosts config signal.quantity (requestedLimit signal) price)
  | _ => .exitNoFill entry trigger excursion

/-- Behind an entry: the trigger, if the policy has one. -/
def heldOutcome (behind : List ExecutionTick) : Checked TradeOutcome :=
  match scan (triggerStep config signal entry) (startExcursion signal entry) behind with
  | .inl excursion => .ok (.openAtReplayEnd entry excursion)
  | .inr ⟨_, _, _, .error failure⟩ => .error failure
  | .inr ⟨_, tick, behind, .ok (excursion, trigger)⟩ =>
      .ok (soldOutcome config signal entry (exitTriggered tick trigger) excursion behind)

variable (ticks : List ExecutionTick)

def signalOutcome : Checked TradeOutcome :=
  if !signal.coherent then .ok .ineligible
  else
    match scan (entryStep config signal) () ticks with
    | .inr ⟨_, entry, behind, true⟩ => heldOutcome config signal entry behind
    | _ => .ok .entryNoFill

def ticksOf : List ExecutionTick :=
  ticks.filter fun tick => tick.code = signal.code && tick.exchange = signal.exchange

/-- `_simulate_signal` on the ticks of its instrument. -/
def simulateSignal (splitByDate : String → Option String)
    (ticks : List ExecutionTick) (signal : ProfitLabSignal) : Checked ProfitLabTrade := do
  let outcome ← signalOutcome config signal (ticksOf signal ticks)
  return ⟨signal, (splitByDate signal.tradeDate).getD "UNASSIGNED", requestedLimit signal, outcome⟩

def earlierSignal (left right : ProfitLabSignal) : Ordering :=
  (compare left.signalAt right.signalAt).then (compare left.signalId right.signalId)

def simulateConservativeExecution
    (splitByDate : String → Option String) (signals : List ProfitLabSignal)
    (ticks : List ExecutionTick) : Checked (List ProfitLabTrade) :=
  (signals.insertionSort fun left right => (earlierSignal left right).isLE).mapM
    (simulateSignal config splitByDate ticks)

/-! ## Ticks in order -/

/-- Ticks in the order in which they became available. -/
def Available : Prop :=
  ticks.Pairwise fun earlier later => earlier.availableAt ≤ later.availableAt

theorem krxTickSize_pos (price : Rat) : 0 < krxTickSize price := by
  rw [krxTickSize]
  split_ifs <;> decide

theorem requestedLimit_pos : 0 < requestedLimit signal :=
  lt_of_lt_of_le (krxTickSize_pos _) (le_max_right _ _)

variable {config : ProfitLabConfig} {signal : ProfitLabSignal} {entry : ExecutionTick}
  {ticks : List ExecutionTick}

theorem triggerStep_ne_error {excursion : Excursion} {tick : ExecutionTick} {failure : Failure}
    (isPos : 0 < excursion.highest) (later : entry.availableAt ≤ tick.availableAt) :
    triggerStep config signal entry excursion tick ≠ .stop (.error failure) := by
  have prices : ¬ ((requestedLimit signal : Rat) ≤ 0 ∨ (tick.price : Rat) ≤ 0 ∨
      ((excursion.include tick.price).highest : Rat) ≤ 0) := by
    simp only [not_or, not_le]
    exact ⟨by exact_mod_cast requestedLimit_pos signal, by exact_mod_cast tick.price_pos,
      by exact_mod_cast lt_max_of_lt_left isPos⟩
  rw [triggerStep, longPositionSnapshot]
  simp only [prices, not_le.mpr signal.quantity_pos, not_lt.mpr later, ↓reduceDIte]
  split <;> simp

theorem heldOutcome_isOk (later : ∀ tick ∈ ticks, entry.availableAt ≤ tick.availableAt) :
    ∃ outcome, heldOutcome config signal entry ticks = .ok outcome := by
  rw [heldOutcome]
  have start : 0 < (startExcursion signal entry).highest :=
    lt_of_lt_of_le (requestedLimit_pos signal) (le_max_left _ _)
  have spec := scan_spec (triggerStep config signal entry) (startExcursion signal entry) ticks []
    (fun _ excursion => 0 < excursion.highest) start (by
      intro past excursion tick after isPos stepped
      rw [triggerStep] at stepped
      split at stepped
      · cases stepped
      · split at stepped
        · cases stepped
          exact lt_max_of_lt_left isPos
        · cases stepped)
  split
  · exact ⟨_, rfl⟩
  · next before tick after failure stopped =>
      rw [stopped] at spec
      rcases spec with ⟨split, last, isPos, stepped⟩
      exact absurd stepped (triggerStep_ne_error isPos (later tick (by simp [split, Stop.seen])))
  · exact ⟨_, rfl⟩

theorem signalOutcome_isOk (available : Available ticks) :
    ∃ outcome, signalOutcome config signal ticks = .ok outcome := by
  rw [signalOutcome]
  split
  · exact ⟨_, rfl⟩
  · split
    · next before entry behind stopped =>
        rw [(scan_stop stopped).1, Available, Stop.seen, List.append_assoc, List.singleton_append,
          List.pairwise_append, List.pairwise_cons] at available
        exact heldOutcome_isOk available.2.1.1
    · exact ⟨_, rfl⟩

end SuseokTrader
