import SuseokTrader.Lib.Groups
import SuseokTrader.ProfitLab.NoLookahead

/-!
# Accounting of the trades

The worst and the best price of a closed trade are taken over the ticks up to
its trigger and the tick of its sale. The ticks that the sale waits through
count for neither.
-/

namespace SuseokTrader

/-! ## Excursions and groups -/

namespace ProfitLabTrade

def pct (trade : ProfitLabTrade) (price : Int) : Rat :=
  (price - trade.requestedEntryLimit) / trade.requestedEntryLimit * 100

def maePct (trade : ProfitLabTrade) : Option Rat :=
  trade.outcome.excursion.map fun excursion => trade.pct excursion.lowest

def mfePct (trade : ProfitLabTrade) : Option Rat :=
  trade.outcome.excursion.map fun excursion => trade.pct excursion.highest

end ProfitLabTrade

structure GroupMetrics where
  signalCount : Nat
  entryFillCount : Nat
  closedTradeCount : Nat
  netPnl : Rat

def groupMetrics (trades : List ProfitLabTrade) : GroupMetrics where
  signalCount := trades.length
  entryFillCount := trades.countP fun trade => trade.outcome.entry.isSome
  closedTradeCount := trades.countP fun trade => trade.outcome.fill.isSome
  netPnl := (trades.map fun trade => trade.outcome.netPnl).sum

def entryHour (trade : ProfitLabTrade) : String :=
  let value := (trade.outcome.entry.map ExecutionTick.availableAt).getD trade.signal.signalAt
  String.ofList (Time.pad 2 ((value / Time.microsPerSecond + 9 * 3600) / 3600 % 24))

def dimensions : List (String × (ProfitLabTrade → String)) :=
  [("setup", fun trade => trade.signal.setupType), ("regime", fun trade => trade.signal.regime),
    ("theme", fun trade => trade.signal.theme), ("entry_hour_kst", entryHour),
    ("dataset_split", ProfitLabTrade.datasetSplit)]

/-- One dimension of `_grouped_metrics`. -/
def groupedMetrics (getter : ProfitLabTrade → String) (trades : List ProfitLabTrade) :
    List (String × GroupMetrics) :=
  let key (trade : ProfitLabTrade) := if getter trade = "" then "UNKNOWN" else getter trade
  ((trades.map key).dedup.insertionSort (· ≤ ·)).map fun group =>
    (group, groupMetrics (trades.filter fun trade => key trade = group))

/-! ## The ticks of a closed trade -/

structure ClosedRun where
  held : List ExecutionTick
  awaited : List ExecutionTick
  fill : ExecutionTick

def closedRun (config : ProfitLabConfig) (signal : ProfitLabSignal)
    (ticks : List ExecutionTick) : Option ClosedRun :=
  if !signal.coherent then none
  else
    match scan (entryStep config signal) () ticks with
    | .inr ⟨_, entry, behind, true⟩ =>
        match scan (triggerStep config signal entry) (startExcursion signal entry) behind with
        | .inr ⟨before, tick, behind, .ok (_, trigger)⟩ =>
            match scan (exitStep config (exitTriggered tick trigger)) () behind with
            | .inr ⟨awaited, fill, _, some _⟩ => some ⟨entry :: before ++ [tick], awaited, fill⟩
            | _ => none
        | _ => none
    | _ => none

namespace ClosedRun

def prices (run : ClosedRun) (signal : ProfitLabSignal) : List Int :=
  requestedLimit signal :: (run.held ++ run.awaited ++ [run.fill]).map ExecutionTick.price

def counted (run : ClosedRun) (signal : ProfitLabSignal) : List Int :=
  requestedLimit signal :: (run.held ++ [run.fill]).map ExecutionTick.price

end ClosedRun

/-! ## The law -/

def ProfitLabConfig.withSlippage (config : ProfitLabConfig) (buyTicks sellTicks : Nat) :
    ProfitLabConfig :=
  { config with buySlippageTicks := buyTicks, sellSlippageTicks := sellTicks }

def TradeOutcome.recost (config : ProfitLabConfig) (signal : ProfitLabSignal) :
    TradeOutcome → TradeOutcome
  | closed entry trigger fill excursion _ => closed entry trigger fill excursion
      (tradeCosts config signal.quantity (requestedLimit signal) fill.price)
  | outcome => outcome

structure SumsTo (groups : List GroupMetrics) (total : GroupMetrics) : Prop where
  signalCount : (groups.map GroupMetrics.signalCount).sum = total.signalCount
  entryFillCount : (groups.map GroupMetrics.entryFillCount).sum = total.entryFillCount
  closedTradeCount : (groups.map GroupMetrics.closedTradeCount).sum = total.closedTradeCount
  netPnl : (groups.map GroupMetrics.netPnl).sum = total.netPnl

/-- What is promised of the trade of a signal, and of any list of trades. -/
structure Accounted (config : ProfitLabConfig) (signal : ProfitLabSignal)
    (ticks : List ExecutionTick) : Prop where
  excursion : ∀ splitByDate trade, simulateSignal config splitByDate ticks signal = .ok trade →
    trade.outcome.fill.isSome →
    ∃ run, closedRun config signal (ticksOf signal ticks) = some run ∧
      ∃ lowest highest, IsLeast {price | price ∈ run.prices signal} lowest ∧
        IsGreatest {price | price ∈ run.prices signal} highest ∧
        trade.maePct = some (trade.pct lowest) ∧ trade.mfePct = some (trade.pct highest)
  net : ∀ splitByDate trade entry trigger fill excursion costs,
    simulateSignal config splitByDate ticks signal = .ok trade →
    trade.outcome = .closed entry trigger fill excursion costs →
    costs.netPnl = (fill.price - trade.requestedEntryLimit) * signal.quantity -
      (trade.requestedEntryLimit * signal.quantity * config.buyCommissionRate +
        fill.price * signal.quantity * config.sellCommissionRate) -
      fill.price * signal.quantity * config.sellTaxRate -
      ((addTicks trade.requestedEntryLimit config.buySlippageTicks -
          trade.requestedEntryLimit) * signal.quantity +
        (fill.price - subtractTicks fill.price config.sellSlippageTicks) * signal.quantity)
  slippage : ∀ splitByDate trade buyTicks sellTicks,
    simulateSignal config splitByDate ticks signal = .ok trade →
    config.buySlippageTicks ≤ buyTicks → config.sellSlippageTicks ≤ sellTicks →
    ∃ other, simulateSignal
        (config.withSlippage buyTicks sellTicks) splitByDate ticks signal = .ok other ∧
      other.outcome.entry = trade.outcome.entry ∧ other.outcome.trigger = trade.outcome.trigger ∧
      other.outcome.fill = trade.outcome.fill ∧ other.outcome.netPnl ≤ trade.outcome.netPnl
  groups : ∀ trades, ∀ dimension ∈ dimensions,
    SumsTo ((groupedMetrics dimension.2 trades).map Prod.snd) (groupMetrics trades)

/-- No tick that the sale waits through lies below or above all the others. -/
def ExcursionsSeen (config : ProfitLabConfig) (signal : ProfitLabSignal)
    (ticks : List ExecutionTick) : Prop :=
  ∀ run, closedRun config signal (ticksOf signal ticks) = some run → ∀ tick ∈ run.awaited,
    (∃ price ∈ run.counted signal, price ≤ tick.price) ∧
      ∃ price ∈ run.counted signal, tick.price ≤ price

/-! ## Groups -/

theorem sumsTo_grouped (getter : ProfitLabTrade → String) (trades : List ProfitLabTrade) :
    SumsTo ((groupedMetrics getter trades).map Prod.snd) (groupMetrics trades) := by
  have grouped : ∀ {Total : Type} [AddCommMonoid Total] (field : GroupMetrics → Total)
      (value : ProfitLabTrade → Total),
      (∀ trades, field (groupMetrics trades) = (trades.map value).sum) →
      (((groupedMetrics getter trades).map Prod.snd).map field).sum =
        field (groupMetrics trades) := by
    intro Total _ field value isSum
    rw [groupedMetrics, List.map_map, List.map_map]
    simp only [Function.comp_def, isSum]
    apply sum_groups
    · exact (List.perm_insertionSort _ _).nodup_iff.mpr (List.nodup_dedup _)
    · intro trade listed
      rw [(List.perm_insertionSort _ _).mem_iff, List.mem_dedup]
      exact List.mem_map_of_mem listed
  have counted : ∀ (isCounted : ProfitLabTrade → Bool) (trades : List ProfitLabTrade),
      trades.countP isCounted = (trades.map fun trade => if isCounted trade then 1 else 0).sum := by
    intro isCounted trades
    induction trades with
    | nil => rfl
    | cons trade trades ih => rw [List.countP_cons, ih, List.map_cons, List.sum_cons, Nat.add_comm]
  exact ⟨grouped _ (fun _ => 1) fun trades => by simp [groupMetrics],
    grouped _ _ (counted _), grouped _ _ (counted _), grouped _ _ fun _ => rfl⟩

/-! ## Slippage -/

theorem addTicks_monotone (price : Rat) : Monotone (addTicks price) := by
  apply monotone_nat_of_le_succ
  intro ticks
  exact le_add_of_nonneg_right (krxTickSize_pos _).le

theorem one_le_subtractTicks (price : Int) (ticks : Nat) : 1 ≤ subtractTicks price ticks := by
  cases ticks with
  | zero => exact (krxTickSize_pos _).trans_le (le_max_right _ _)
  | succ ticks =>
      rw [subtractTicks]
      split
      · exact le_rfl
      · exact (krxTickSize_pos _).trans_le (le_max_right _ _)

theorem krxTickSize_le {price : Int} (isPos : 0 < price) : krxTickSize price ≤ price := by
  rw [krxTickSize]
  split_ifs <;> norm_cast at * <;> omega

theorem subtractTicks_antitone (price : Int) : Antitone (subtractTicks price) := by
  apply antitone_nat_of_succ_le
  intro ticks
  rw [subtractTicks]
  split
  · exact one_le_subtractTicks price ticks
  · have size : krxTickSize (subtractTicks price ticks - 1 : Int) ≤
        subtractTicks price ticks - 1 := krxTickSize_le (by omega)
    have floor := Int.ediv_mul_le (subtractTicks price ticks - 1)
      (krxTickSize_pos (subtractTicks price ticks - 1 : Int)).ne'
    exact max_le (by omega) (by omega)

theorem tradeCosts_slippage (config : ProfitLabConfig) {quantity : Int} (isPos : 0 < quantity)
    (entryPrice exitPrice : Int) {buyTicks sellTicks : Nat}
    (moreBuy : config.buySlippageTicks ≤ buyTicks)
    (moreSell : config.sellSlippageTicks ≤ sellTicks) :
    (tradeCosts (config.withSlippage buyTicks sellTicks) quantity entryPrice exitPrice).netPnl ≤
      (tradeCosts config quantity entryPrice exitPrice).netPnl := by
  have bought := addTicks_monotone entryPrice moreBuy
  have sold := subtractTicks_antitone exitPrice moreSell
  simp only [tradeCosts, ProfitLabConfig.withSlippage]
  gcongr

/-! ## Excursions -/

structure Covers (prices : List Int) (excursion : Excursion) : Prop where
  least : IsLeast {price | price ∈ prices} excursion.lowest
  greatest : IsGreatest {price | price ∈ prices} excursion.highest

theorem Covers.include {prices : List Int} {excursion : Excursion}
    (covers : Covers prices excursion) (price : Int) :
    Covers (prices ++ [price]) (excursion.include price) := by
  have more : {other | other ∈ prices ++ [price]} = insert price {other | other ∈ prices} := by
    ext other
    simp [or_comm]
  rw [Excursion.include, max_comm, min_comm]
  exact ⟨more ▸ covers.least.insert price, more ▸ covers.greatest.insert price⟩

theorem triggerStep_covers {excursion : Excursion} {tick : ExecutionTick}
    {result : ScanStep Excursion (Checked (Excursion × ExitPolicyTrigger))}
    (stepped : triggerStep config signal entry excursion tick = result) :
    result = .next (excursion.include tick.price) ∨
      (∃ trigger, result = .stop (.ok (excursion.include tick.price, trigger))) ∨
      ∃ failure, result = .stop (.error failure) := by
  rw [triggerStep] at stepped
  split at stepped
  · exact Or.inr (Or.inr ⟨_, stepped.symm⟩)
  · split at stepped
    · exact Or.inl stepped.symm
    · exact Or.inr (Or.inl ⟨_, stepped.symm⟩)

theorem covers_of_triggered {before behind : List ExecutionTick} {tick : ExecutionTick}
    {excursion : Excursion} {trigger : ExitPolicyTrigger}
    (stopped : scan (triggerStep config signal entry) (startExcursion signal entry) ticks =
      .inr ⟨before, tick, behind, .ok (excursion, trigger)⟩) :
    Covers (requestedLimit signal ::
      (entry :: before ++ [tick]).map ExecutionTick.price) excursion := by
  have start : Covers [requestedLimit signal, entry.price] (startExcursion signal entry) := by
    have single : Covers [requestedLimit signal] ⟨requestedLimit signal, requestedLimit signal⟩ :=
      ⟨by simp, by simp⟩
    exact single.include entry.price
  have spec := scan_spec (triggerStep config signal entry) (startExcursion signal entry) ticks []
    (fun past excursion => Covers
      (requestedLimit signal :: entry.price :: past.map ExecutionTick.price) excursion) start (by
      intro past excursion tick after covers stepped
      rcases triggerStep_covers stepped with isNext | ⟨_, isStop⟩ | ⟨_, isStop⟩
      · cases isNext
        simpa using covers.include tick.price
      · cases isStop
      · cases isStop)
  rw [stopped] at spec
  rcases spec with ⟨_, last, covers, stepped⟩
  rcases triggerStep_covers stepped with isNext | ⟨_, isStop⟩ | ⟨_, isStop⟩
  · cases isNext
  · injection isStop with isStop
    injection isStop with isStop
    rw [(Prod.mk.inj isStop).1]
    simpa using covers.include tick.price
  · cases isStop

theorem signalOutcome_cases (config : ProfitLabConfig) (signal : ProfitLabSignal)
    (ticks : List ExecutionTick) :
    (∃ run entry trigger fill excursion, closedRun config signal ticks = some run ∧
      Covers (run.counted signal) excursion ∧
      signalOutcome config signal ticks = .ok (.closed entry trigger fill excursion
        (tradeCosts config signal.quantity (requestedLimit signal) fill.price))) ∨
    closedRun config signal ticks = none ∧
      ∀ outcome, signalOutcome config signal ticks = .ok outcome → outcome.fill = none := by
  rw [signalOutcome, closedRun]
  split
  · exact Or.inr ⟨rfl, by rintro _ ⟨⟩; rfl⟩
  · rcases scan (entryStep config signal) () ticks with _ | ⟨_, entry, behind, _ | _⟩
    · exact Or.inr ⟨rfl, by rintro _ ⟨⟩; rfl⟩
    · exact Or.inr ⟨rfl, by rintro _ ⟨⟩; rfl⟩
    · dsimp only
      rw [heldOutcome]
      rcases triggered : scan (triggerStep config signal entry) (startExcursion signal entry)
        behind with _ | ⟨before, tick, behind, _ | ⟨excursion, trigger⟩⟩
      · exact Or.inr ⟨rfl, by rintro _ ⟨⟩; rfl⟩
      · exact Or.inr ⟨rfl, by rintro _ ⟨⟩⟩
      · dsimp only
        rw [soldOutcome]
        rcases scan (exitStep config (exitTriggered tick trigger)) () behind with
          _ | ⟨awaited, fill, _, _ | price⟩
        · exact Or.inr ⟨rfl, by rintro _ ⟨⟩; rfl⟩
        · exact Or.inr ⟨rfl, by rintro _ ⟨⟩; rfl⟩
        · refine Or.inl ⟨_, _, _, ⟨fill, price⟩, _, rfl, ?_, rfl⟩
          simpa [ClosedRun.counted] using (covers_of_triggered triggered).include fill.price

/-! ## The trades -/

variable {splitByDate : String → Option String} {trade : ProfitLabTrade}

theorem outcome_of_simulateSignal
    (done : simulateSignal config splitByDate ticks signal = .ok trade) :
    trade.requestedEntryLimit = requestedLimit signal ∧
      signalOutcome config signal (ticksOf signal ticks) = .ok trade.outcome := by
  rcases Checked.bind_eq_ok.mp done with ⟨outcome, isOutcome, made⟩
  cases made
  exact ⟨rfl, isOutcome⟩

theorem signalOutcome_slippage (buyTicks sellTicks : Nat) :
    signalOutcome (config.withSlippage buyTicks sellTicks) signal ticks =
      (signalOutcome config signal ticks).map
        (TradeOutcome.recost (config.withSlippage buyTicks sellTicks) signal) := by
  have entries : entryStep (config.withSlippage buyTicks sellTicks) signal =
      entryStep config signal := rfl
  have triggers : ∀ entry, triggerStep (config.withSlippage buyTicks sellTicks) signal entry =
      triggerStep config signal entry := fun _ => rfl
  have exits : ∀ trigger, exitStep (config.withSlippage buyTicks sellTicks) trigger =
      exitStep config trigger := fun _ => rfl
  rw [signalOutcome, signalOutcome, entries]
  split
  · rfl
  · rcases scan (entryStep config signal) () ticks with _ | ⟨_, entry, behind, _ | _⟩
    · rfl
    · rfl
    · dsimp only
      rw [heldOutcome, heldOutcome, triggers]
      rcases scan (triggerStep config signal entry) (startExcursion signal entry) behind with
        _ | ⟨_, tick, behind, _ | ⟨excursion, trigger⟩⟩
      · rfl
      · rfl
      · dsimp only
        rw [soldOutcome, soldOutcome, exits]
        rcases scan (exitStep config (exitTriggered tick trigger)) () behind with
          _ | ⟨_, _, _, _ | _⟩ <;> rfl

theorem recost_netPnl_le {buyTicks sellTicks : Nat}
    (moreBuy : config.buySlippageTicks ≤ buyTicks)
    (moreSell : config.sellSlippageTicks ≤ sellTicks)
    (done : signalOutcome config signal ticks = .ok outcome) :
    (outcome.recost (config.withSlippage buyTicks sellTicks) signal).netPnl ≤ outcome.netPnl := by
  rcases signalOutcome_cases config signal ticks with
    ⟨_, _, _, _, _, _, _, isClosed⟩ | ⟨_, notClosed⟩
  · cases done.symm.trans isClosed
    exact tradeCosts_slippage config signal.quantity_pos _ _ moreBuy moreSell
  · have noFill := notClosed outcome done
    cases outcome with
    | closed => cases noFill
    | _ => exact le_rfl

theorem pct_injective (signal : ProfitLabSignal) {trade : ProfitLabTrade}
    (limit : trade.requestedEntryLimit = requestedLimit signal) : trade.pct.Injective := by
  intro first second same
  have isPos : (0 : Rat) < requestedLimit signal := by exact_mod_cast requestedLimit_pos signal
  simp only [ProfitLabTrade.pct, limit] at same
  field_simp at same
  exact_mod_cast sub_left_injective same

theorem ClosedRun.mem_prices {run : ClosedRun} {price : Int} :
    price ∈ run.prices signal ↔
      price ∈ run.counted signal ∨ ∃ tick ∈ run.awaited, tick.price = price := by
  simp [prices, counted, or_comm, or_left_comm, or_assoc]

/-- The accounts of a signal are right exactly when the ticks that its sale waits through lie
between the others. -/
theorem accounted_iff (config : ProfitLabConfig) (signal : ProfitLabSignal)
    (ticks : List ExecutionTick) :
    Accounted config signal ticks ↔ ExcursionsSeen config signal ticks := by
  constructor
  · intro accounted run isRun tick waited
    rcases signalOutcome_cases config signal (ticksOf signal ticks) with
      ⟨run', entry, trigger, fill, excursion, isRun', covers, isClosed⟩ | ⟨noRun, _⟩
    · cases isRun'.symm.trans isRun
      have done : simulateSignal config (fun _ => none) ticks signal =
          .ok ⟨signal, "UNASSIGNED", requestedLimit signal, .closed entry trigger fill excursion
            (tradeCosts config signal.quantity (requestedLimit signal) fill.price)⟩ := by
        rw [simulateSignal, isClosed]
        rfl
      rcases accounted.excursion _ _ done rfl with
        ⟨run', isRun', lowest, highest, least, greatest, mae, mfe⟩
      cases isRun'.symm.trans isRun
      have isLowest : excursion.lowest = lowest := pct_injective signal rfl (Option.some.inj mae)
      have isHighest : excursion.highest = highest := pct_injective signal rfl (Option.some.inj mfe)
      have counts : tick.price ∈ run.prices signal :=
        ClosedRun.mem_prices.mpr (Or.inr ⟨tick, waited, rfl⟩)
      exact ⟨⟨_, covers.least.1, isLowest ▸ least.2 counts⟩,
        ⟨_, covers.greatest.1, isHighest ▸ greatest.2 counts⟩⟩
    · rw [noRun] at isRun
      cases isRun
  · intro seen
    refine ⟨?_, ?_, ?_, fun trades dimension _ => sumsTo_grouped dimension.2 trades⟩
    · intro splitByDate trade done filled
      rcases outcome_of_simulateSignal done with ⟨_, isOutcome⟩
      rcases signalOutcome_cases config signal (ticksOf signal ticks) with
        ⟨run, entry, trigger, fill, excursion, isRun, covers, isClosed⟩ | ⟨_, noFill⟩
      · have isTrade := Except.ok.inj (isOutcome.symm.trans isClosed)
        refine ⟨run, isRun, excursion.lowest, excursion.highest, ⟨?_, ?_⟩, ⟨?_, ?_⟩,
          by rw [ProfitLabTrade.maePct, isTrade]; rfl, by rw [ProfitLabTrade.mfePct, isTrade]; rfl⟩
        · exact ClosedRun.mem_prices.mpr (Or.inl covers.least.1)
        · intro price isPrice
          rcases ClosedRun.mem_prices.mp isPrice with counted | ⟨tick, waited, rfl⟩
          · exact covers.least.2 counted
          · rcases (seen run isRun tick waited).1 with ⟨price, counted, below⟩
            exact (covers.least.2 counted).trans below
        · exact ClosedRun.mem_prices.mpr (Or.inl covers.greatest.1)
        · intro price isPrice
          rcases ClosedRun.mem_prices.mp isPrice with counted | ⟨tick, waited, rfl⟩
          · exact covers.greatest.2 counted
          · rcases (seen run isRun tick waited).2 with ⟨price, counted, above⟩
            exact above.trans (covers.greatest.2 counted)
      · rw [noFill _ isOutcome] at filled
        cases filled
    · intro splitByDate trade entry trigger fill excursion costs done isClosed
      rcases outcome_of_simulateSignal done with ⟨limit, isOutcome⟩
      rcases signalOutcome_cases config signal (ticksOf signal ticks) with
        ⟨_, _, _, _, _, _, _, isTrade⟩ | ⟨_, noFill⟩
      · rw [isOutcome, isClosed] at isTrade
        cases isTrade
        rw [limit]
        simp only [tradeCosts]
        push_cast
        ring
      · have none := noFill _ isOutcome
        rw [isClosed] at none
        cases none
    · intro splitByDate trade buyTicks sellTicks done moreBuy moreSell
      rcases Checked.bind_eq_ok.mp done with ⟨outcome, isOutcome, made⟩
      cases made
      refine ⟨⟨signal, (splitByDate signal.tradeDate).getD "UNASSIGNED", requestedLimit signal,
        outcome.recost (config.withSlippage buyTicks sellTicks) signal⟩, ?_, ?_, ?_, ?_,
        recost_netPnl_le moreBuy moreSell isOutcome⟩
      · rw [simulateSignal, signalOutcome_slippage, isOutcome]
        rfl
      · cases outcome <;> rfl
      · cases outcome <;> rfl
      · cases outcome <;> rfl

/-! ## A fall that is not counted -/

/-- The price is lowest while the sale waits, and the worst price of the trade is that of the
trigger. -/
theorem fall_is_not_counted : ¬ Accounted labConfig labSignal fallingTicks := by
  intro accounted
  have traded : (simulateSignal labConfig (fun _ => none) fallingTicks labSignal).toOption.any
      (fun trade => trade.outcome.fill.isSome && trade.requestedEntryLimit = 1000 &&
        trade.maePct = some (-10)) = true := by decide +kernel
  have priced : (closedRun labConfig labSignal (ticksOf labSignal fallingTicks)).map
      (fun run => run.prices labSignal) = some [1000, 1000, 900, 800, 950] := by decide +kernel
  cases done : simulateSignal labConfig (fun _ => none) fallingTicks labSignal with
  | error failure =>
      rw [done] at traded
      cases traded
  | ok trade =>
      rw [done] at traded
      simp only [Except.toOption, Option.any_some, Bool.and_eq_true, decide_eq_true_eq] at traded
      rcases traded with ⟨⟨filled, limit⟩, mae⟩
      rcases accounted.excursion _ _ done filled with ⟨run, isRun, lowest, _, least, _, isMae, _⟩
      rw [isRun] at priced
      have below : lowest ≤ 800 := least.2 (by simp [Option.some.inj priced])
      have isPct : trade.pct lowest = -10 := Option.some.inj (isMae.symm.trans mae)
      rw [ProfitLabTrade.pct, limit] at isPct
      have cast : (lowest : Rat) ≤ 800 := by exact_mod_cast below
      norm_num at isPct
      linarith

end SuseokTrader
