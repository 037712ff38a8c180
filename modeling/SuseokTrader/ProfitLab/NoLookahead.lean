import SuseokTrader.ProfitLab.Engine

/-!
# No look ahead

Two replays that see the same ticks up to a time do the same up to it. Each of
the three scans either stops among the ticks that both see, in the same way, or
it stops behind them.
-/

namespace SuseokTrader

/-- Whatever the first replay did up to the time the second did as well; what was closed by then
is the same. -/
structure AlikeUntil (time : Instant) (first second : TradeOutcome) : Prop where
  entry : ∀ tick, first.entry = some tick → tick.availableAt ≤ time → second.entry = some tick
  trigger : ∀ trigger, first.trigger = some trigger → trigger.tick.availableAt ≤ time →
    second.trigger = some trigger
  closed : ∀ fill, first.fill = some fill → fill.tick.availableAt ≤ time → second = first

/-- The ticks that fill a trade come in time, and not too early. -/
structure InWindows (config : ProfitLabConfig) (signal : ProfitLabSignal)
    (ticks : List ExecutionTick) (outcome : TradeOutcome) : Prop where
  entry : ∀ tick, outcome.entry = some tick → tick ∈ ticks ∧
    signal.signalAt < tick.availableAt ∧
    signal.signalAt + config.entryLatencyMs * microsPerMilli ≤ tick.availableAt ∧
    tick.availableAt ≤ signal.signalAt + config.entryTtlSec * Time.microsPerSecond ∧
    tick.price ≤ requestedLimit signal
  fill : ∀ trigger fill, outcome.trigger = some trigger → outcome.fill = some fill →
    fill.tick ∈ ticks ∧ trigger.tick.availableAt < fill.tick.availableAt ∧
    trigger.tick.availableAt + config.exitLatencyMs * microsPerMilli ≤ fill.tick.availableAt ∧
    fill.tick.availableAt ≤
      trigger.tick.availableAt + config.exitTtlSec * Time.microsPerSecond

variable {config : ProfitLabConfig} {signal : ProfitLabSignal} {entry : ExecutionTick}
  {trigger : ExitTriggered} {excursion : Excursion} {ticks first second : List ExecutionTick}
  {time : Instant} {outcome : TradeOutcome}

/-! ## What one replay uses -/

theorem exists_trigger_of_fill {fill : ExitFill} (filled : outcome.fill = some fill) :
    ∃ trigger, outcome.trigger = some trigger := by
  cases outcome with
  | closed entry trigger fill excursion costs => exact ⟨trigger, rfl⟩
  | _ => cases filled

theorem soldOutcome_spec (config : ProfitLabConfig) (signal : ProfitLabSignal)
    (entry : ExecutionTick) (trigger : ExitTriggered) (excursion : Excursion)
    (ticks : List ExecutionTick) :
    (soldOutcome config signal entry trigger excursion ticks).entry = some entry ∧
    (soldOutcome config signal entry trigger excursion ticks).trigger = some trigger ∧
    ∀ fill, (soldOutcome config signal entry trigger excursion ticks).fill = some fill →
      fill.tick ∈ ticks ∧ trigger.tick.availableAt < fill.tick.availableAt ∧
      trigger.tick.availableAt + config.exitLatencyMs * microsPerMilli ≤ fill.tick.availableAt ∧
      fill.tick.availableAt ≤
        trigger.tick.availableAt + config.exitTtlSec * Time.microsPerSecond := by
  rw [soldOutcome]
  split
  · next before tick after price stopped =>
      refine ⟨rfl, rfl, ?_⟩
      rintro _ ⟨⟩
      rcases scan_stop stopped with ⟨split, _, stepped⟩
      refine ⟨by simp [split, Stop.seen], ?_⟩
      rw [exitStep] at stepped
      split at stepped
      · cases stepped
      · next early =>
          split at stepped
          · cases stepped
          · next late =>
              simp only [not_or, not_le, not_lt] at early late
              exact ⟨early.1, early.2, late⟩
  · refine ⟨rfl, rfl, ?_⟩
    intro fill filled
    cases filled

theorem heldOutcome_spec (held : heldOutcome config signal entry ticks = .ok outcome) :
    outcome.entry = some entry ∧
    (∀ trigger, outcome.trigger = some trigger → trigger.tick ∈ ticks) ∧
    ∀ trigger fill, outcome.trigger = some trigger → outcome.fill = some fill →
      fill.tick ∈ ticks ∧ trigger.tick.availableAt < fill.tick.availableAt ∧
      trigger.tick.availableAt + config.exitLatencyMs * microsPerMilli ≤ fill.tick.availableAt ∧
      fill.tick.availableAt ≤
        trigger.tick.availableAt + config.exitTtlSec * Time.microsPerSecond := by
  rw [heldOutcome] at held
  split at held
  · cases held
    refine ⟨rfl, ?_, ?_⟩
    · intro trigger triggered
      cases triggered
    · intro trigger fill triggered
      cases triggered
  · cases held
  · next before tick behind excursion triggered stopped =>
      cases held
      have split : ticks = before ++ tick :: behind := by
        simpa [Stop.seen] using (scan_stop stopped).1
      rcases soldOutcome_spec config signal entry (exitTriggered tick triggered) excursion behind
        with ⟨isEntry, isTrigger, sold⟩
      rw [isTrigger, split]
      refine ⟨isEntry, ?_, ?_⟩
      · rintro _ ⟨⟩
        exact List.mem_append_right _ List.mem_cons_self
      · rintro _ fill ⟨⟩ filled
        rcases sold fill filled with ⟨isBehind, window⟩
        exact ⟨List.mem_append_right _ (List.mem_cons_of_mem _ isBehind), window⟩

theorem signalOutcome_inWindows (done : signalOutcome config signal ticks = .ok outcome) :
    InWindows config signal ticks outcome := by
  rw [signalOutcome] at done
  split at done
  · cases done
    constructor
    · intro tick entered
      cases entered
    · intro trigger fill triggered
      cases triggered
  · split at done
    · next before tick behind stopped =>
        rcases scan_stop stopped with ⟨split, _, stepped⟩
        rcases heldOutcome_spec done with ⟨isEntry, _, filled⟩
        constructor
        · rw [isEntry]
          rintro _ ⟨⟩
          refine ⟨by simp [split, Stop.seen], ?_⟩
          rw [entryStep] at stepped
          split at stepped
          · cases stepped
          · next early =>
              split at stepped
              · cases stepped
              · next late =>
                  split at stepped
                  · next cheap =>
                      simp only [not_or, not_le, not_lt] at early late
                      exact ⟨early.1, early.2, late, cheap⟩
                  · cases stepped
        · intro trigger fill isTrigger isFill
          rcases filled trigger fill isTrigger isFill with ⟨isBehind, window⟩
          rw [split]
          exact ⟨List.mem_append_right _ isBehind, window⟩
    · cases done
      constructor
      · intro tick entered
        cases entered
      · intro trigger fill triggered
        cases triggered

/-! ## Two replays -/

theorem AlikeUntil.of_nothing {other : TradeOutcome} (noEntry : outcome.entry = none)
    (noTrigger : outcome.trigger = none) (noFill : outcome.fill = none) :
    AlikeUntil time outcome other := by
  constructor
  · intro tick entered
    cases noEntry.symm.trans entered
  · intro trigger triggered
    cases noTrigger.symm.trans triggered
  · intro fill filled
    cases noFill.symm.trans filled

variable (firstLate : ∀ tick ∈ first, time < tick.availableAt)

include firstLate

theorem soldOutcome_alike :
    AlikeUntil time (soldOutcome config signal entry trigger excursion (ticks ++ first))
      (soldOutcome config signal entry trigger excursion (ticks ++ second)) := by
  rcases soldOutcome_spec config signal entry trigger excursion (ticks ++ first) with
    ⟨isEntry, isTrigger, _⟩
  rcases soldOutcome_spec config signal entry trigger excursion (ticks ++ second) with
    ⟨isEntry', isTrigger', _⟩
  refine ⟨fun _ entered _ => isEntry'.trans (isEntry.symm.trans entered),
    fun _ triggered _ => isTrigger'.trans (isTrigger.symm.trans triggered), ?_⟩
  intro fill filled early
  rcases scan_append_cases (exitStep config trigger) () ticks first second with
    ⟨stop, stopped, stopped'⟩ | behind
  · rw [soldOutcome, soldOutcome, stopped, stopped']
    rcases stop with ⟨before, tick, after, _ | price⟩ <;> rfl
  · rw [soldOutcome] at filled
    split at filled
    · next stopped =>
        cases filled
        exact absurd early (not_le.mpr (firstLate _ (behind _ _ stopped).1))
    · cases filled

theorem heldOutcome_alike {firstOutcome secondOutcome : TradeOutcome}
    (held : heldOutcome config signal entry (ticks ++ first) = .ok firstOutcome)
    (held' : heldOutcome config signal entry (ticks ++ second) = .ok secondOutcome) :
    AlikeUntil time firstOutcome secondOutcome := by
  rcases heldOutcome_spec held with ⟨isEntry, _, filled⟩
  rcases heldOutcome_spec held' with ⟨isEntry', _, _⟩
  rcases scan_append_cases (triggerStep config signal entry) (startExcursion signal entry) ticks
    first second with ⟨stop, stopped, stopped'⟩ | behind
  · rw [heldOutcome, stopped] at held
    rw [heldOutcome, stopped'] at held'
    rcases stop with ⟨before, tick, after, _ | ⟨excursion, triggered⟩⟩
    · cases held
    · cases held
      cases held'
      exact soldOutcome_alike firstLate
  · have late : ∀ trigger, firstOutcome.trigger = some trigger →
        time < trigger.tick.availableAt := by
      intro trigger isTrigger
      rw [heldOutcome] at held
      split at held
      · cases held
        cases isTrigger
      · cases held
      · next stopped =>
          cases held
          rw [(soldOutcome_spec _ _ _ _ _ _).2.1] at isTrigger
          cases isTrigger
          exact firstLate _ (behind _ _ stopped).1
    refine ⟨fun _ entered _ => isEntry'.trans (isEntry.symm.trans entered),
      fun trigger isTrigger early => absurd early (not_le.mpr (late trigger isTrigger)), ?_⟩
    intro fill isFill early
    rcases exists_trigger_of_fill isFill with ⟨trigger, isTrigger⟩
    have window := filled trigger fill isTrigger isFill
    exact absurd early (not_le.mpr ((late trigger isTrigger).trans window.2.1))

theorem signalOutcome_alike {firstOutcome secondOutcome : TradeOutcome}
    (done : signalOutcome config signal (ticks ++ first) = .ok firstOutcome)
    (done' : signalOutcome config signal (ticks ++ second) = .ok secondOutcome) :
    AlikeUntil time firstOutcome secondOutcome := by
  rw [signalOutcome] at done done'
  split at done
  · next incoherent =>
      rw [if_pos incoherent] at done'
      cases done
      cases done'
      exact .of_nothing rfl rfl rfl
  · next coherent =>
      rw [if_neg coherent] at done'
      rcases scan_append_cases (entryStep config signal) () ticks first second with
        ⟨⟨before, tick, after, filled⟩, stopped, stopped'⟩ | behind
      · rw [stopped] at done
        rw [stopped'] at done'
        cases filled with
        | true => exact heldOutcome_alike firstLate done done'
        | false =>
            cases done
            cases done'
            exact .of_nothing rfl rfl rfl
      · split at done
        · next stopped =>
            rcases behind _ _ stopped with ⟨isEntry, isBehind⟩
            rcases heldOutcome_spec done with ⟨entered, triggers, fills⟩
            have late : ∀ tick ∈ first, ¬ tick.availableAt ≤ time := fun tick present =>
              not_le.mpr (firstLate tick present)
            refine ⟨?_, ?_, ?_⟩
            · rw [entered]
              rintro _ ⟨⟩ early
              exact absurd early (late _ isEntry)
            · intro trigger isTrigger early
              exact absurd early (late _ (isBehind (triggers trigger isTrigger)))
            · intro fill isFill early
              rcases exists_trigger_of_fill isFill with ⟨trigger, isTrigger⟩
              exact absurd early (late _ (isBehind (fills trigger fill isTrigger isFill).1))
        · cases done
          exact .of_nothing rfl rfl rfl

omit firstLate

/-! ## All signals -/

theorem Available.ticksOf (available : Available ticks) (signal : ProfitLabSignal) :
    Available (ticksOf signal ticks) :=
  available.filter _

theorem Available.split (available : Available ticks) (time : Instant) :
    ∃ later, ticks = (ticks.filter fun tick => tick.availableAt ≤ time) ++ later ∧
      ∀ tick ∈ later, time < tick.availableAt := by
  induction ticks with
  | nil => exact ⟨[], rfl, nofun⟩
  | cons tick ticks ih =>
      rcases List.pairwise_cons.mp available with ⟨isFirst, available⟩
      by_cases early : tick.availableAt ≤ time
      · rcases ih available with ⟨later, split, late⟩
        refine ⟨later, ?_, late⟩
        rw [List.filter_cons_of_pos (by simpa using early), List.cons_append, ← split]
      · refine ⟨tick :: ticks, ?_, ?_⟩
        · rw [List.filter_eq_nil_iff.mpr, List.nil_append]
          intro other listed
          rcases List.mem_cons.mp listed with rfl | listed
          · simpa using early
          · simpa using lt_of_lt_of_le (not_le.mp early) (isFirst other listed)
        · intro other listed
          rcases List.mem_cons.mp listed with rfl | listed
          · exact not_le.mp early
          · exact lt_of_lt_of_le (not_le.mp early) (isFirst other listed)

theorem exists_tradeOf (config : ProfitLabConfig) (splitByDate : String → Option String)
    (available : Available ticks) :
    ∃ tradeOf : ProfitLabSignal → ProfitLabTrade,
      (∀ signals, ∃ trades,
        simulateConservativeExecution config splitByDate signals ticks = .ok trades ∧
          trades.Perm (signals.map tradeOf)) ∧
      ∀ signal, ∃ outcome, signalOutcome config signal (ticksOf signal ticks) = .ok outcome ∧
        tradeOf signal = ⟨signal, (splitByDate signal.tradeDate).getD "UNASSIGNED",
          requestedLimit signal, outcome⟩ := by
  have done : ∀ signal, ∃ outcome, signalOutcome config signal (ticksOf signal ticks) =
      .ok outcome := fun signal => signalOutcome_isOk (available.ticksOf signal)
  choose outcomeOf isOutcome using done
  refine ⟨fun signal => ⟨signal, (splitByDate signal.tradeDate).getD "UNASSIGNED",
    requestedLimit signal, outcomeOf signal⟩, ?_, fun signal => ⟨_, isOutcome signal, rfl⟩⟩
  intro signals
  have simulated : simulateSignal config splitByDate ticks = fun signal =>
      .ok ⟨signal, (splitByDate signal.tradeDate).getD "UNASSIGNED", requestedLimit signal,
        outcomeOf signal⟩ := by
    funext signal
    rw [simulateSignal, isOutcome signal]
    rfl
  refine ⟨_, ?_, (List.perm_insertionSort (fun left right => (earlierSignal left right).isLE)
    signals).map _⟩
  rw [simulateConservativeExecution, simulated]
  exact List.mapM_pure

/-- Replays of ticks that agree up to a time trade alike up to it, each signal by itself and
within its windows. -/
theorem never_looks_ahead (config : ProfitLabConfig) (splitByDate : String → Option String)
    (time : Instant) (first second : List ExecutionTick) (firstAvailable : Available first)
    (secondAvailable : Available second)
    (agree : (first.filter fun tick => tick.availableAt ≤ time) =
      second.filter fun tick => tick.availableAt ≤ time) :
    ∃ firstTrade secondTrade : ProfitLabSignal → ProfitLabTrade,
      (∀ signals, ∃ trades,
        simulateConservativeExecution config splitByDate signals first = .ok trades ∧
          trades.Perm (signals.map firstTrade)) ∧
      (∀ signals, ∃ trades,
        simulateConservativeExecution config splitByDate signals second = .ok trades ∧
          trades.Perm (signals.map secondTrade)) ∧
      ∀ signal,
        AlikeUntil time (firstTrade signal).outcome (secondTrade signal).outcome ∧
        { firstTrade signal with outcome := (secondTrade signal).outcome } = secondTrade signal ∧
        InWindows config signal (ticksOf signal first) (firstTrade signal).outcome := by
  rcases exists_tradeOf config splitByDate firstAvailable with
    ⟨firstTrade, firstRuns, isFirst⟩
  rcases exists_tradeOf config splitByDate secondAvailable with
    ⟨secondTrade, secondRuns, isSecond⟩
  refine ⟨firstTrade, secondTrade, firstRuns, secondRuns, ?_⟩
  intro signal
  rcases isFirst signal with ⟨firstOutcome, firstDone, firstIs⟩
  rcases isSecond signal with ⟨secondOutcome, secondDone, secondIs⟩
  rw [firstIs, secondIs]
  refine ⟨?_, rfl, signalOutcome_inWindows firstDone⟩
  rcases (firstAvailable.ticksOf signal).split time with ⟨firstLater, firstSplit, firstLate⟩
  rcases (secondAvailable.ticksOf signal).split time with ⟨secondLater, secondSplit, _⟩
  have same : ((ticksOf signal first).filter fun tick => tick.availableAt ≤ time) =
      (ticksOf signal second).filter fun tick => tick.availableAt ≤ time := by
    rw [ticksOf, ticksOf, List.filter_comm, agree, List.filter_comm]
  rw [firstSplit] at firstDone
  rw [secondSplit, ← same] at secondDone
  exact signalOutcome_alike firstLate firstDone secondDone

/-! ## A fall -/

def labConfig : ProfitLabConfig where
  buyCommissionRate := 0
  sellCommissionRate := 0
  sellTaxRate := 0
  buySlippageTicks := 0
  sellSlippageTicks := 0
  entryLatencyMs := 250
  exitLatencyMs := 250
  entryTtlSec := 90
  exitTtlSec := 90
  exitPolicy := ⟨⟨15, 3, 5, 2, 5 / 2, 30, 1800, true, 54900000000⟩, by
    constructor <;> norm_num⟩

/-- Ten shares at 1000, at ten in the morning. -/
def labSignal : ProfitLabSignal where
  signalId := "s"
  tradeDate := "2026-07-17"
  code := "000001"
  signalAt := 63919846800000000
  limitPrice := 1000
  quantity := 10
  exchange := "KRX"
  coherent := true
  setupType := "UNKNOWN"
  regime := "UNKNOWN"
  theme := "UNKNOWN"
  limitPrice_pos := by norm_num
  quantity_pos := by norm_num

def labTick (sequence millis : Nat) (price : Int) (price_pos : 0 < price) : ExecutionTick where
  sequence := sequence
  eventId := "e"
  code := "000001"
  exchange := "KRX"
  price := price
  eventAt := 63919846800000000 + millis * 1000
  availableAt := 63919846800000000 + millis * 1000
  price_pos := price_pos

/-- The stop is at 970: the price falls to 800 before the sale may be filled. -/
def fallingTicks : List ExecutionTick :=
  [labTick 1 1000 1000 (by norm_num), labTick 2 2000 900 (by norm_num),
    labTick 3 2100 800 (by norm_num), labTick 4 3000 950 (by norm_num)]

/-- Whatever comes behind the first tick, the entry is the same. -/
theorem entry_before_the_fall :
    ∃ firstTrade secondTrade : ProfitLabSignal → ProfitLabTrade, ∀ signal,
      AlikeUntil 63919846801500000 (firstTrade signal).outcome (secondTrade signal).outcome := by
  rcases never_looks_ahead labConfig (fun _ => none) 63919846801500000 (fallingTicks.take 1)
    fallingTicks (by simp [Available, fallingTicks])
    (by simp [Available, fallingTicks, labTick]) (by simp [fallingTicks, labTick]) with
    ⟨firstTrade, secondTrade, _, _, alike⟩
  exact ⟨firstTrade, secondTrade, fun signal => (alike signal).1⟩

end SuseokTrader
