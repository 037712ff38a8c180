import SuseokTrader.LiveSim.PositionBooks

/-!
# The daily loss guard

The guard sums the realized results of the positions that were opened on a day.
That is what the sales of the day have realized only as long as every sale that
wins or loses anything takes from a position of its own day.
-/

namespace SuseokTrader

/-! ## The guard -/

structure DailyLossSettings where
  maxDailyNotional : Rat
  maxDailyLoss : Rat
  maxDailyLossPct : Rat

structure DailyLossEvidence where
  tradeDate : String
  realizedPnl : Rat
  unrealizedPnl : Rat
  dailyPnl : Rat
  dailyLoss : Rat
  maxDailyLoss : Rat
  maxDailyLossPct : Rat
  pctLossLimit : Rat
  effectiveLossLimit : Rat
  dailyLossLimitEnabled : Bool
  dailyLossLimitExceeded : Bool
  reasonCode : Option String

/-- `SUM` over the positions that meet the condition. -/
def sumLiveSimPositions (column : LiveSimPosition → Rat) (condition : LiveSimPosition → Bool)
    (positions : Table LiveSimPosition) : Rat :=
  ((positions.rows.filter condition).map column).sum

def isActivePosition (position : LiveSimPosition) : Bool :=
  position.status ∈ [.opened, .closing, .reconcileMismatch] && 0 < position.quantity

def effectiveLossLimit (limits : List Rat) : Rat :=
  match limits.filter fun limit => 0 < limit with
  | [] => 0
  | limit :: limits => limits.foldl min limit

def buildLiveSimDailyLossEvidence (settings : DailyLossSettings)
    (positions : Table LiveSimPosition) (tradeDate : String) : DailyLossEvidence :=
  let realizedPnl := sumLiveSimPositions LiveSimPosition.realizedPnl
    (fun position => position.tradeDate = tradeDate) positions
  let unrealizedPnl := sumLiveSimPositions LiveSimPosition.unrealizedPnl
    (fun position => position.tradeDate = tradeDate && isActivePosition position) positions
  let dailyPnl := realizedPnl + unrealizedPnl
  let pctLossLimit :=
    if 0 < settings.maxDailyLossPct then
      settings.maxDailyNotional * settings.maxDailyLossPct / 100
    else 0
  let limit := effectiveLossLimit [settings.maxDailyLoss, pctLossLimit]
  let dailyLoss := max (-dailyPnl) 0
  let exceeded : Bool := 0 < limit && limit ≤ dailyLoss
  { tradeDate := tradeDate
    realizedPnl := realizedPnl
    unrealizedPnl := unrealizedPnl
    dailyPnl := dailyPnl
    dailyLoss := dailyLoss
    maxDailyLoss := settings.maxDailyLoss
    maxDailyLossPct := settings.maxDailyLossPct
    pctLossLimit := pctLossLimit
    effectiveLossLimit := limit
    dailyLossLimitEnabled := 0 < limit
    dailyLossLimitExceeded := exceeded
    reasonCode := if exceeded then some "DAILY_LOSS_LIMIT_EXCEEDED" else none }

/-! ## The law -/

def executedDay (executedAt : String) : String :=
  ((Time.fromIsoformat executedAt).map marketToday).getD ""

def realizedOn (tradeDate : String) (event : PositionEvent) : Rat :=
  if event.isSale = true ∧ executedDay event.execution.executedAt = tradeDate then
    event.realizedPnl
  else 0

def realizedBySales (events : List PositionEvent) (tradeDate : String) : Rat :=
  (events.map (realizedOn tradeDate)).sum

/-- The guard counts for every trade date what its sales have realized. -/
def CountsSales (lossSettings : DailyLossSettings) (booked : BookedStore) : Prop :=
  ∀ tradeDate,
    (buildLiveSimDailyLossEvidence lossSettings booked.store.live.positions
      tradeDate).realizedPnl = realizedBySales booked.events tradeDate

/-- A sale takes from a position of the trade date on which it is executed, unless it brings
just what the shares have cost. -/
def SellsOnOpeningDay (settings : LiveSimSettings) (position : LiveSimPosition)
    (report : ExecutionReport) : Prop :=
  position.tradeDate = executedDay report.executedAt ∨
    report.price * (1 - settings.feeRate - settings.taxRate) = position.avgEntryPrice

/-- A fill that can be recorded and meets a position with enough shares sells on the opening day
of the position. -/
def FillSellsOnOpeningDay (host : Host) (settings : LiveSimSettings) (tables : LiveSimTables)
    (delivery : Delivery) : Prop :=
  ∀ fill ∈ fillOf host settings tables delivery.event, fill.1.side = .sell →
    IsRecordable tables.executions fill.1 fill.2 delivery.ids →
    ∀ position ∈ positionOfSell tables.positions fill.1 fill.2.positionId,
      fill.2.quantity ≤ position.availableQuantity →
        SellsOnOpeningDay settings position fill.2

def StepSellsOnOpeningDay (host : LiveSimHost) (settings : LiveSimSettings)
    (booked : BookedStore) : TradingOp → Prop
  | .deliver delivery =>
      FillSellsOnOpeningDay host.toHost settings booked.store.live delivery
  | .signal .. | .createExit .. | .queueExit .. => True

/-! ## What a step counts -/

def openedOn (tradeDate : String) (position : LiveSimPosition) : Rat :=
  if position.tradeDate = tradeDate then position.realizedPnl else 0

theorem sum_filter_map {Row : Type*} (column : Row → Rat) (condition : Row → Bool)
    (rows : List Row) :
    ((rows.filter condition).map column).sum =
      (rows.map fun row => if condition row then column row else 0).sum := by
  induction rows with
  | nil => rfl
  | cons row rows ih =>
      by_cases met : condition row
      · simp [met, ih]
      · simp [met, ih]

variable (lossSettings : DailyLossSettings)

theorem realizedPnl_of_guard (positions : Table LiveSimPosition) (tradeDate : String) :
    (buildLiveSimDailyLossEvidence lossSettings positions tradeDate).realizedPnl =
      (positions.rows.map (openedOn tradeDate)).sum := by
  change sumLiveSimPositions _ _ positions = _
  rw [sumLiveSimPositions, sum_filter_map]
  congr 1
  simp [openedOn]

theorem realizedBySales_append (events : List PositionEvent) (added : Option PositionEvent)
    (tradeDate : String) :
    realizedBySales (events ++ added.toList) tradeDate =
      realizedBySales events tradeDate + (added.map (realizedOn tradeDate)).getD 0 := by
  rw [realizedBySales, realizedBySales, List.map_append, List.sum_append]
  cases added with
  | none => rfl
  | some event => simp

def overcount (positions : Table LiveSimPosition) (events : List PositionEvent)
    (tradeDate : String) : Rat :=
  (positions.rows.map (openedOn tradeDate)).sum - realizedBySales events tradeDate

theorem countsSales_iff {lossSettings : DailyLossSettings} {booked : BookedStore} :
    CountsSales lossSettings booked ↔
      ∀ tradeDate, overcount booked.store.live.positions booked.events tradeDate = 0 := by
  apply forall_congr'
  intro tradeDate
  rw [realizedPnl_of_guard, overcount, sub_eq_zero]

variable {settings : LiveSimSettings} {order : LiveSimOrder} {report : ExecutionReport}

variable {positions : Table LiveSimPosition} {events : List PositionEvent}
  {position : LiveSimPosition}

theorem overcount_update {added : Option PositionEvent}
    {change : LiveSimPosition → LiveSimPosition}
    {keeps : ∀ position, Keyed.key (change position) = Keyed.key position}
    (found : positions.find? position.positionId = some position) (tradeDate : String) :
    overcount (positions.update position.positionId change keeps) (events ++ added.toList)
        tradeDate =
      overcount positions events tradeDate - openedOn tradeDate position +
        openedOn tradeDate (change position) - (added.map (realizedOn tradeDate)).getD 0 := by
  rw [overcount, overcount, Table.sum_update found, realizedBySales_append]
  ring

theorem overcount_mark {change : LiveSimPosition → LiveSimPosition}
    {keeps : ∀ position, Keyed.key (change position) = Keyed.key position}
    (found : positions.find? position.positionId = some position)
    (same : (change position).tradeDate = position.tradeDate ∧
      (change position).realizedPnl = position.realizedPnl) (tradeDate : String) :
    overcount (positions.update position.positionId change keeps) events tradeDate =
      overcount positions events tradeDate := by
  rw [overcount, overcount, Table.sum_update found, openedOn, openedOn, same.1, same.2]
  ring

/-- What a fill adds to the count is what its sale realizes on the day of the position less what
it realizes on its own. -/
inductive CountsFill (settings : LiveSimSettings) (positions : Table LiveSimPosition)
    (order : LiveSimOrder) (report : ExecutionReport) (before after : String → Rat) : Prop
  | same (unsold : order.side = .sell → ∀ position ∈
        positionOfSell positions order report.positionId,
      ¬ report.quantity ≤ position.availableQuantity) (counts : after = before)
  | sells (position : LiveSimPosition) (sells : order.side = .sell)
      (sold : positionOfSell positions order report.positionId = some position)
      (fits : report.quantity ≤ position.availableQuantity)
      (counts : ∀ tradeDate, after tradeDate = before tradeDate +
        (if position.tradeDate = tradeDate then
          realizedPnl settings position report.quantity report.price else 0) -
        (if executedDay report.executedAt = tradeDate then
          realizedPnl settings position report.quantity report.price else 0))

theorem countsFill {after : Table LiveSimPosition} {added : Option PositionEvent}
    (books : BooksFill settings positions order report after added) :
    CountsFill settings positions order report (overcount positions events)
      (overcount after (events ++ added.toList)) := by
  have positive := report.positive
  cases books with
  | opens id buys inserted ofPosition delta price realized =>
      refine .same (fun sells => ?_) (funext fun tradeDate => ?_)
      · rw [buys] at sells
        cases sells
      · rw [overcount, overcount, Table.rows_of_insert? inserted, realizedBySales_append]
        simp [openedOn, openedPosition, realizedOn, realized]
  | increases position buys found ofPosition delta price realized =>
      refine .same (fun sells => ?_) (funext fun tradeDate => ?_)
      · rw [buys] at sells
        cases sells
      · rw [overcount_update found]
        simp [openedOn, increasedPosition, realizedOn, realized]
  | misses sells missing =>
      refine .same (fun _ position found => ?_) (funext fun tradeDate => ?_)
      · rw [missing] at found
        cases found
      · rw [Option.toList_none, List.append_nil]
  | mismatches position sells sold exceeds =>
      refine .same (fun _ other found => ?_) (funext fun tradeDate => ?_)
      · rw [sold] at found
        cases found
        omega
      · rw [Option.toList_none, List.append_nil]
        exact overcount_mark (find?_of_positionOfSell sold) ⟨rfl, rfl⟩ tradeDate
  | reduces position sells sold fits ofPosition delta price realized average execution =>
      next event =>
      refine .sells position sells sold fits fun tradeDate => ?_
      have isSale : event.isSale = true := by
        rw [PositionEvent.isSale]
        simpa using by omega
      have held : openedOn tradeDate (reducedPosition settings report.quantity report.price
          report.executedAtText position) = openedOn tradeDate position +
            if position.tradeDate = tradeDate then
              realizedPnl settings position report.quantity report.price else 0 := by
        by_cases day : position.tradeDate = tradeDate
        · simp [openedOn, reducedPosition, day]
        · simp [openedOn, reducedPosition, day]
      rw [overcount_update (find?_of_positionOfSell sold), held, Option.map_some,
        Option.getD_some, realizedOn, isSale, execution, realized]
      simp only [true_and]
      ring

theorem realizedPnl_eq_zero_iff (settings : LiveSimSettings) (position : LiveSimPosition)
    {quantity : Int} (positive : 1 ≤ quantity) (price : Rat) :
    realizedPnl settings position quantity price = 0 ↔
      price * (1 - settings.feeRate - settings.taxRate) = position.avgEntryPrice := by
  have nonzero : (quantity : Rat) ≠ 0 := by
    intro zero
    have isZero : quantity = 0 := by exact_mod_cast zero
    omega
  have factored : realizedPnl settings position quantity price =
      (price * (1 - settings.feeRate - settings.taxRate) - position.avgEntryPrice) * quantity := by
    rw [realizedPnl]
    ring
  rw [factored, mul_eq_zero, or_iff_left nonzero, sub_eq_zero]

theorem counts_of_opening {before after : String → Rat}
    (counts : ∀ tradeDate, after tradeDate = before tradeDate +
      (if position.tradeDate = tradeDate then
        realizedPnl settings position report.quantity report.price else 0) -
      (if executedDay report.executedAt = tradeDate then
        realizedPnl settings position report.quantity report.price else 0)) :
    SellsOnOpeningDay settings position report ↔
      ∀ tradeDate, after tradeDate = before tradeDate := by
  rw [SellsOnOpeningDay, ← realizedPnl_eq_zero_iff settings position report.positive]
  constructor
  · rintro (day | none) tradeDate
    · rw [counts, day, add_sub_cancel_right]
    · simp [counts, none]
  · intro same
    by_cases day : position.tradeDate = executedDay report.executedAt
    · exact Or.inl day
    · right
      have here := counts position.tradeDate
      rw [same, if_pos rfl, if_neg (Ne.symm day)] at here
      linarith

/-- The step lemma: a step keeps the count of every trade date exactly if it sells on the opening
day. -/
theorem overcount_step_iff {host : LiveSimHost} {booked : BookedStore} {op : TradingOp} :
    StepSellsOnOpeningDay host settings booked op ↔
      ∀ tradeDate, overcount ((bookedSystem host settings).next booked op).store.live.positions
          ((bookedSystem host settings).next booked op).events tradeDate =
        overcount booked.store.live.positions booked.events tradeDate := by
  rw [next_bookedSystem]
  cases op with
  | deliver delivery =>
      dsimp only [StepSellsOnOpeningDay, tradingStep, bookedBy]
      have books := booksDelivery host.toHost settings booked.store.live delivery
      generalize (tablesAfterEvent host.toHost settings booked.store.live delivery.event
        delivery.ids delivery.now).positions = after at books ⊢
      generalize positionEventOf host.toHost settings booked.store.live delivery = added
        at books ⊢
      cases books with
      | nothing unsold =>
          rw [Option.toList_none, List.append_nil]
          refine iff_of_true ?_ fun _ => rfl
          intro fill isFill sells recordable
          exact absurd recordable (unsold fill isFill sells)
      | fill order report reported recordable books =>
          have counted : CountsFill settings booked.store.live.positions order report
              (overcount booked.store.live.positions booked.events)
              (overcount after (booked.events ++ added.toList)) := countsFill books
          cases counted with
          | same unsold counts =>
              refine iff_of_true ?_ (congrFun counts)
              rw [FillSellsOnOpeningDay, reported]
              rintro fill ⟨⟩ sells _ position found fits
              exact absurd fits (unsold sells position found)
          | sells position sells sold fits counts =>
              rw [← counts_of_opening counts, FillSellsOnOpeningDay, reported]
              constructor
              · intro opening
                exact opening (order, report) rfl sells recordable position sold fits
              · rintro opening fill ⟨⟩ _ _ other found _
                rw [sold] at found
                cases found
                exact opening
  | signal positionId trigger exitSignalId createdAt =>
      dsimp only [StepSellsOnOpeningDay, tradingStep, bookedBy]
      rcases signalled_frame booked.store.live positionId trigger exitSignalId createdAt
        with ⟨exitSignals, same⟩
      rw [same]
      simp
  | createExit positionId exitSignalId exitIntentId =>
      dsimp only [StepSellsOnOpeningDay, tradingStep, bookedBy, tablesAfterCreateExit]
      split
      · next after success =>
          rcases createsExit success with ⟨position, signal, _, creates⟩
          simp [creates.positions]
      · simp
  | queueExit exitIntentId readings =>
      dsimp only [StepSellsOnOpeningDay, tradingStep, bookedBy]
      rw [List.append_nil]
      have effect := exitQueueEffect host settings booked.store exitIntentId readings
      generalize (queueLiveSimExitOrderCommand host settings booked.store exitIntentId
        readings).1.live = after at effect ⊢
      cases effect with
      | nothing => simp
      | rejects intent found => exact iff_of_true trivial fun _ => rfl
      | queues intent position found held allowed written =>
          have isPosition : position.positionId = intent.positionId := Table.key_of_find? held
          rw [← isPosition] at held
          rw [(writesExit written).positions]
          exact iff_of_true trivial (overcount_mark held ⟨rfl, rfl⟩)

/-- From books that agree with the guard it counts what the sales of each day have realized
throughout a run exactly if all sales with a result are made on the opening day of their
position. -/
theorem guard_counts_sales_iff (host : LiveSimHost)
    (settings : LiveSimSettings) (booked : BookedStore)
    (start : CountsSales lossSettings booked) (ops : List TradingOp) :
    (bookedSystem host settings).Throughout (CountsSales lossSettings) booked ops ↔
      (bookedSystem host settings).Along (StepSellsOnOpeningDay host settings) booked ops := by
  refine System.throughout_iff_along (CountsSales lossSettings) (fun _ law => law) ?_ ?_ start
    ops
  · intro booked op law sells
    rw [countsSales_iff] at law ⊢
    intro tradeDate
    rw [overcount_step_iff.mp sells tradeDate, law tradeDate]
  · intro booked op law after
    rw [countsSales_iff] at law after
    apply overcount_step_iff.mpr
    intro tradeDate
    rw [after tradeDate, law tradeDate]

theorem countsSales_of_empty {store : LiveSimStore}
    (positions : store.live.positions = .empty) : CountsSales lossSettings ⟨store, []⟩ := by
  rw [countsSales_iff, positions]
  simp [overcount, realizedBySales]

/-! ## A position that is carried over -/

/-- The exit of a position fills at 90. -/
def saleOn (executedAt : String) : TradingOp :=
  .deliver (deliveredAt
    { commandEventOf "event-2" "execution_event"
        (withFields (fillPayload "" "e2" "SELL" 10 .null)
          [("price", .int 90), ("executed_at", .str executedAt)]) stripped_secondExecution with
      commandId := some "command-3", commandId_stripped := strippedOption_thirdCommand } "2")

/-- Ten shares are bought on a Friday and sold at a loss on the Monday after. -/
def carriedOver : List TradingOp :=
  buyFill "1001" "e1" 10 "1" :: exitSteps "signal-1" "exit-1" "command-3" ++
    [saleOn "2026-07-20T00:00:02+00:00"]

def sampleLossSettings : DailyLossSettings := ⟨300000, 50, 0⟩

theorem carriedOver_counts :
    let booked := (bookedSystem sampleLiveSimHost sampleLiveSimSettings).run ⟨twoBuyOrders, []⟩
      carriedOver
    (buildLiveSimDailyLossEvidence sampleLossSettings booked.store.live.positions
        "2026-07-20").dailyLossLimitExceeded = false ∧
      (buildLiveSimDailyLossEvidence sampleLossSettings booked.store.live.positions
        "2026-07-20").realizedPnl = 0 ∧
      realizedBySales booked.events "2026-07-20" = -100 := by
  decide +kernel

/-- The guard of the Monday does not see the loss, though it is twice the limit. -/
theorem carried_loss_uncounted :
    CountsSales sampleLossSettings ⟨twoBuyOrders, []⟩ ∧
      ¬ (bookedSystem sampleLiveSimHost sampleLiveSimSettings).Throughout
        (CountsSales sampleLossSettings) ⟨twoBuyOrders, []⟩ carriedOver := by
  refine ⟨countsSales_of_empty sampleLossSettings rfl, ?_⟩
  intro counts
  have law := counts carriedOver [] (List.append_nil _).symm "2026-07-20"
  rcases carriedOver_counts with ⟨_, guard, sales⟩
  rw [guard, sales] at law
  exact absurd law (by decide)

theorem sale_of_day_counted :
    (bookedSystem sampleLiveSimHost sampleLiveSimSettings).Throughout
        (CountsSales sampleLossSettings) ⟨twoBuyOrders, []⟩ soldAfterClosing ↔
      (bookedSystem sampleLiveSimHost sampleLiveSimSettings).Along
        (StepSellsOnOpeningDay sampleLiveSimHost sampleLiveSimSettings) ⟨twoBuyOrders, []⟩
        soldAfterClosing :=
  guard_counts_sales_iff sampleLossSettings sampleLiveSimHost sampleLiveSimSettings
    ⟨twoBuyOrders, []⟩ (countsSales_of_empty sampleLossSettings rfl) soldAfterClosing

end SuseokTrader
