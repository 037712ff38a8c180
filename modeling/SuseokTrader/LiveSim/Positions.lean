import SuseokTrader.Lib.Totals
import SuseokTrader.LiveSim.ExitEffects

/-!
# Positions and the fills they come from

A fill adds a row to the executions under the account, code and side that the
event reports, and moves a position that is found by the account and code of
the order or by an identifier in the metadata. The two stay in balance as long
as these agree and the fill meets a position that it fits.
-/

namespace SuseokTrader

/-! ## The system -/

/-- The calls that trade: delivered events and the steps of the exit pipeline. -/
inductive TradingOp where
  | deliver (delivery : Delivery)
  | signal (positionId : String) (trigger : ExitTrigger) (exitSignalId createdAt : String)
  | createExit (positionId : String) (exitSignalId : Option String) (exitIntentId : String)
  | queueExit (exitIntentId : String) (readings : QueueReadings)

variable (tables : LiveSimTables)

/-- The tables after the exit policy found a trigger for a position. -/
def tablesAfterSignal (positionId : String) (trigger : ExitTrigger)
    (exitSignalId createdAt : String) : LiveSimTables :=
  match tables.positions.find? positionId with
  | none => tables
  | some position =>
      if isEvaluated position then
        match insertExitSignalFromCandidate tables
            (exitSignalCandidate position trigger exitSignalId createdAt) with
        | .ok after => after
        | .error _ => tables
      else tables

def tablesAfterCreateExit (settings : LiveSimSettings) (tables : LiveSimTables)
    (positionId : String) (exitSignalId : Option String) (exitIntentId : String) :
    LiveSimTables :=
  match createLiveSimExitIntent settings tables positionId exitSignalId exitIntentId with
  | .ok after => after
  | .error _ => tables

variable (host : LiveSimHost) (settings : LiveSimSettings) (store : LiveSimStore)

def tradingStep :
    TradingOp → LiveSimStore
  | .deliver delivery =>
      { store with
        live := tablesAfterEvent host.toHost settings store.live delivery.event delivery.ids
          delivery.now }
  | .signal positionId trigger exitSignalId createdAt =>
      { store with
        live := tablesAfterSignal store.live positionId trigger exitSignalId createdAt }
  | .createExit positionId exitSignalId exitIntentId =>
      { store with
        live := tablesAfterCreateExit settings store.live positionId exitSignalId exitIntentId }
  | .queueExit exitIntentId readings =>
      (queueLiveSimExitOrderCommand host settings store exitIntentId readings).1

def tradingSystem (host : LiveSimHost) (settings : LiveSimSettings) :
    System LiveSimStore TradingOp Unit where
  step store op := (tradingStep host settings store op, ())

theorem next_tradingSystem (op : TradingOp) :
    (tradingSystem host settings).next store op = tradingStep host settings store op := by
  rw [System.next, tradingSystem]

theorem signalled_frame (positionId : String) (trigger : ExitTrigger)
    (exitSignalId createdAt : String) :
    ∃ exitSignals, tablesAfterSignal tables positionId trigger exitSignalId createdAt =
      { tables with exitSignals := exitSignals } := by
  rw [tablesAfterSignal]
  split
  · exact ⟨tables.exitSignals, rfl⟩
  · split
    · split
      · next success =>
          rcases (insertedSignal success).2 with ⟨exitSignals, _, same⟩
          exact ⟨exitSignals, same⟩
      · exact ⟨tables.exitSignals, rfl⟩
    · exact ⟨tables.exitSignals, rfl⟩

/-! ## The law -/

def heldQuantity (accountId code : String) (position : LiveSimPosition) : Int :=
  if position.accountId = accountId ∧ position.code = code then position.quantity else 0

def filledShares (accountId code : String) (execution : LiveSimExecution) : Int :=
  if execution.accountId = accountId ∧ execution.code = code then
    match execution.side with
    | .buy => execution.quantity
    | .sell => -execution.quantity
  else 0

def netPositionQuantityFromFills (executions : Table LiveSimExecution) (accountId code : String) :
    Int :=
  executions.total (filledShares accountId code)

/-- The positions are the net of the executions. -/
structure NetOfFills (tables : LiveSimTables) : Prop where
  single : ∀ position ∈ tables.positions.rows, ∀ other ∈ tables.positions.rows,
    position.accountId = other.accountId → position.code = other.code →
    0 < position.quantity → 0 < other.quantity → position.positionId = other.positionId
  balanced : ∀ accountId code, tables.positions.total (heldQuantity accountId code) =
    netPositionQuantityFromFills tables.executions accountId code
  bounded : ∀ position ∈ tables.positions.rows,
    0 ≤ position.availableQuantity ∧ position.availableQuantity ≤ position.quantity
  closed : ∀ position ∈ tables.positions.rows,
    position.status = .closed ↔ position.quantity = 0

def BuyBalances (order : LiveSimOrder) (report : ExecutionReport) :
    Prop :=
  report.accountId = order.accountId ∧ report.code = order.code ∧
    (positionByAccountCode tables.positions order.accountId order.code false = none →
      positionByAccountCode tables.positions order.accountId order.code true = none)

def SellBalances (order : LiveSimOrder) (report : ExecutionReport) :
    Prop :=
  ∃ position ∈ positionOfSell tables.positions order report.positionId,
    report.quantity ≤ position.availableQuantity ∧ report.accountId = position.accountId ∧
      report.code = position.code

def FillBalances (order : LiveSimOrder) (report : ExecutionReport) :
    Prop :=
  report.side = order.side ∧ (order.side = .buy → BuyBalances tables order report) ∧
    (order.side = .sell → SellBalances tables order report)

instance (tables : LiveSimTables) (order : LiveSimOrder) (report : ExecutionReport) :
    Decidable (BuyBalances tables order report) :=
  inferInstanceAs (Decidable (_ ∧ _ ∧ (_ → _)))

instance (tables : LiveSimTables) (order : LiveSimOrder) (report : ExecutionReport) :
    Decidable (SellBalances tables order report) :=
  inferInstanceAs (Decidable (∃ position ∈ positionOfSell tables.positions order
    report.positionId, _ ∧ _ ∧ _))

instance (tables : LiveSimTables) (order : LiveSimOrder) (report : ExecutionReport) :
    Decidable (FillBalances tables order report) :=
  inferInstanceAs (Decidable (_ ∧ (_ → _) ∧ (_ → _)))

/-- The step moves a position by what it adds to the executions. -/
def Balances :
    TradingOp → Prop
  | .deliver delivery => ∀ fill ∈ fillOf host.toHost settings store.live delivery.event,
      FillBalances store.live fill.1 fill.2
  | .signal .. | .createExit .. | .queueExit .. => True

instance (host : LiveSimHost) (settings : LiveSimSettings) (store : LiveSimStore)
    (op : TradingOp) : Decidable (Balances host settings store op) :=
  match op with
  | .deliver delivery => inferInstanceAs (Decidable
      (∀ fill ∈ fillOf host.toHost settings store.live delivery.event, _))
  | .signal .. | .createExit .. | .queueExit .. => inferInstanceAs (Decidable True)

/-! ## Lookups of positions -/

variable {positions : Table LiveSimPosition} {accountId code : String} {includeClosing : Bool}
  {position : LiveSimPosition} {order : LiveSimOrder} {tables after : LiveSimTables}
  {settings : LiveSimSettings}

theorem mem_of_positionByAccountCode
    (found : positionByAccountCode positions accountId code includeClosing = some position) :
    position ∈ positions.rows ∧ takesFills accountId code includeClosing position = true := by
  have present := List.mem_of_mem_head? found
  rw [List.mem_insertionSort, List.mem_filter] at present
  exact present

theorem takesFills_of_none
    (none : positionByAccountCode positions accountId code includeClosing = none) :
    ∀ position ∈ positions.rows, takesFills accountId code includeClosing position = false := by
  intro position present
  rw [Bool.eq_false_iff]
  intro takes
  have kept : position ∈ (positions.rows.filter (takesFills accountId code includeClosing)) :=
    List.mem_filter.mpr ⟨present, takes⟩
  rw [positionByAccountCode, List.head?_eq_none_iff] at none
  rw [← List.mem_insertionSort (fun left right => (openedOrder left right).isLE), none] at kept
  cases kept

theorem takesFills_iff :
    takesFills accountId code includeClosing position = true ↔
      position.accountId = accountId ∧ position.code = code ∧ position.status ≠ .closed ∧
        (position.status = .closing → includeClosing = true) := by
  rw [takesFills]
  cases position.status <;> simp [and_assoc]

theorem mem_of_positionOfSell {named : Option String}
    (found : positionOfSell positions order named = some position) :
    position ∈ positions.rows := by
  rw [positionOfSell, Option.or_eq_some_iff] at found
  rcases found with byName | ⟨_, byCode⟩
  · rcases Option.bind_eq_some_iff.mp byName with ⟨id, _, here⟩
    exact Table.mem_of_find? here
  · exact (mem_of_positionByAccountCode byCode).1

/-! ## What a step preserves -/

theorem mem_update {id : String} {change : LiveSimPosition → LiveSimPosition}
    {keeps : ∀ position, Keyed.key (change position) = Keyed.key position} {row : LiveSimPosition}
    (found : positions.find? id = some position)
    (present : row ∈ (positions.update id change keeps).rows) :
    row = change position ∨ (row ∈ positions.rows ∧ row.positionId ≠ id) := by
  rcases List.mem_map.mp present with ⟨before, isRow, rfl⟩
  by_cases same : Keyed.key before = id
  · left
    have isPosition : before = position := by
      have here := Table.find?_of_mem isRow
      rw [same, found] at here
      exact (Option.some.inj here).symm
    rw [if_pos (by simpa using same), isPosition]
  · right
    simp only [same]
    exact ⟨isRow, same⟩

/-- A position that holds shares may change as long as the executions change with it. -/
theorem NetOfFills.update (law : NetOfFills tables) (change : LiveSimPosition → LiveSimPosition)
    (keeps : ∀ position, Keyed.key (change position) = Keyed.key position)
    (found : tables.positions.find? position.positionId = some position)
    (positions : after.positions = tables.positions.update position.positionId change keeps)
    (accountId : (change position).accountId = position.accountId)
    (code : (change position).code = position.code) (held : 0 < position.quantity)
    (bounded : 0 ≤ (change position).availableQuantity ∧
      (change position).availableQuantity ≤ (change position).quantity)
    (closed : (change position).status = .closed ↔ (change position).quantity = 0)
    (executions : ∀ accountId code, netPositionQuantityFromFills after.executions accountId code =
      netPositionQuantityFromFills tables.executions accountId code -
        heldQuantity accountId code position + heldQuantity accountId code (change position)) :
    NetOfFills after where
  single := by
    have present := Table.mem_of_find? found
    intro first isFirst second isSecond sameAccount sameCode firstHeld secondHeld
    rw [positions] at isFirst isSecond
    have changedId : (change position).positionId = position.positionId := keeps position
    rcases mem_update found isFirst with rfl | ⟨first_before, firstOther⟩ <;>
      rcases mem_update found isSecond with rfl | ⟨second_before, secondOther⟩
    · rfl
    · rw [accountId] at sameAccount
      rw [code] at sameCode
      rw [changedId]
      exact law.single position present second second_before sameAccount sameCode held secondHeld
    · rw [accountId] at sameAccount
      rw [code] at sameCode
      rw [changedId]
      exact law.single first first_before position present sameAccount sameCode firstHeld held
    · exact law.single first first_before second second_before sameAccount sameCode firstHeld
        secondHeld
  balanced := by
    intro account stock
    rw [positions, Table.total_update found, law.balanced, executions]
  bounded := by
    intro row isRow
    rw [positions] at isRow
    rcases mem_update found isRow with rfl | ⟨before, _⟩
    · exact bounded
    · exact law.bounded row before
  closed := by
    intro row isRow
    rw [positions] at isRow
    rcases mem_update found isRow with rfl | ⟨before, _⟩
    · exact closed
    · exact law.closed row before

theorem NetOfFills.opened {positionId executedAt : String} {quantity : Int} {price : Rat}
    (law : NetOfFills tables) (rows : after.positions.rows = tables.positions.rows ++
      [openedPosition settings order positionId quantity price executedAt])
    (positive : 1 ≤ quantity)
    (noShares : ∀ position ∈ tables.positions.rows, position.accountId = order.accountId →
      position.code = order.code → position.quantity = 0)
    (executions : ∀ accountId code, netPositionQuantityFromFills after.executions accountId code =
      netPositionQuantityFromFills tables.executions accountId code + heldQuantity accountId code
        (openedPosition settings order positionId quantity price executedAt)) :
    NetOfFills after where
  single := by
    intro first isFirst second isSecond sameAccount sameCode firstHeld secondHeld
    rw [rows, List.mem_append, List.mem_singleton] at isFirst isSecond
    rcases isFirst with before | rfl <;> rcases isSecond with before' | rfl
    · exact law.single first before second before' sameAccount sameCode firstHeld secondHeld
    · have none := noShares first before sameAccount sameCode
      omega
    · have none := noShares second before' sameAccount.symm sameCode.symm
      omega
    · rfl
  balanced := by
    intro account stock
    rw [Table.total_of_rows_append rows, law.balanced, executions]
  bounded := by
    intro row isRow
    rw [rows, List.mem_append, List.mem_singleton] at isRow
    rcases isRow with before | rfl
    · exact law.bounded row before
    · simp only [openedPosition]
      omega
  closed := by
    intro row isRow
    rw [rows, List.mem_append, List.mem_singleton] at isRow
    rcases isRow with before | rfl
    · exact law.closed row before
    · simp only [openedPosition]
      constructor
      · intro isClosed
        cases isClosed
      · omega

theorem NetOfFills.of_same (law : NetOfFills tables)
    (positions : after.positions = tables.positions)
    (executions : after.executions = tables.executions) : NetOfFills after where
  single := by
    rw [positions]
    exact law.single
  balanced := by
    rw [positions, executions]
    exact law.balanced
  bounded := by
    rw [positions]
    exact law.bounded
  closed := by
    rw [positions]
    exact law.closed

/-- A fill that balances keeps the law. -/
theorem NetOfFills.fill {report : ExecutionReport} {ids : FreshIds} {now : String}
    (law : NetOfFills tables) (balances : FillBalances tables order report)
    (applies : AppliesFill settings tables after order report ids now) : NetOfFills after := by
  have positive := report.positive
  have net : ∀ accountId code, netPositionQuantityFromFills after.executions accountId code =
      netPositionQuantityFromFills tables.executions accountId code +
        filledShares accountId code (report.row order ids.executionId) := fun accountId code =>
    Table.total_of_rows_append (rows_of_insertExecution applies.recorded)
  have moves := applies.position
  generalize isPositions : after.positions = positions at moves
  cases moves with
  | opens buys missing inserted =>
      rcases balances with ⟨side, isBuy, _⟩
      rw [buys] at side
      rcases isBuy buys with ⟨accountId, code, alone⟩
      have rows : after.positions.rows = tables.positions.rows ++ [openedPosition settings order
          ids.positionId report.quantity report.price report.executedAtText] := by
        rw [isPositions, Table.rows_of_insert? inserted]
      have noShares : ∀ position ∈ tables.positions.rows,
          position.accountId = order.accountId → position.code = order.code →
          position.quantity = 0 := by
        intro position present sameAccount sameCode
        have free := takesFills_of_none (alone missing) position present
        by_contra nonzero
        rw [Bool.eq_false_iff] at free
        exact free (takesFills_iff.mpr ⟨sameAccount, sameCode,
          fun isClosed => nonzero ((law.closed position present).mp isClosed), fun _ => rfl⟩)
      exact law.opened rows positive noShares fun account stock => by
        rw [net]
        simp only [ExecutionReport.row, side, accountId, code]
        rfl
  | increases position buys found =>
      rcases balances with ⟨side, isBuy, _⟩
      rw [buys] at side
      rcases isBuy buys with ⟨accountId, code, _⟩
      rcases mem_of_positionByAccountCode found with ⟨present, takes⟩
      rcases takesFills_iff.mp takes with ⟨ofAccount, ofCode, notClosed, _⟩
      have bounds := law.bounded position present
      have nonzero : position.quantity ≠ 0 := fun zero =>
        notClosed ((law.closed position present).mpr zero)
      apply law.update _ _ (Table.find?_of_mem present) isPositions rfl rfl (by omega)
      · simp only [increasedPosition]
        omega
      · simp only [increasedPosition]
        constructor
        · intro isClosed
          cases isClosed
        · omega
      · intro account stock
        rw [net, filledShares, heldQuantity, heldQuantity]
        simp only [ExecutionReport.row, increasedPosition, side, accountId, code, ofAccount, ofCode]
        split <;> omega
  | misses sells missing =>
      rcases balances.2.2 sells with ⟨position, found, _⟩
      rw [missing] at found
      cases found
  | mismatches position sells found exceeds =>
      rcases balances.2.2 sells with ⟨other, isOther, fits, _⟩
      rw [found] at isOther
      obtain rfl : position = other := Option.some.inj isOther
      omega
  | reduces position sells found fits =>
      rcases balances with ⟨side, _, isSell⟩
      rw [sells] at side
      rcases isSell sells with ⟨other, isOther, _, accountId, code⟩
      rw [found] at isOther
      obtain rfl : position = other := Option.some.inj isOther
      have present := mem_of_positionOfSell found
      have bounds := law.bounded position present
      apply law.update _ _ (Table.find?_of_mem present) isPositions rfl rfl (by omega)
      · simp only [reducedPosition]
        omega
      · simp only [reducedPosition]
        split <;> simp_all
      · intro account stock
        rw [net, filledShares, heldQuantity, heldQuantity]
        simp only [ExecutionReport.row, reducedPosition, side, accountId, code]
        by_cases here : position.accountId = account ∧ position.code = stock
        · simp only [here, and_self, if_true]
          omega
        · simp only [here, if_false]
          omega

theorem NetOfFills.queueExit {exitIntentId : String} {readings : QueueReadings}
    (law : NetOfFills tables)
    (effect : ExitQueueEffect settings tables exitIntentId readings after) :
    NetOfFills after := by
  cases effect with
  | nothing => exact law
  | rejects intent found => exact law.of_same rfl rfl
  | queues intent position found held allowed written =>
      have writes := writesExit written
      have enough := exitAllowed_of_reasons allowed
      have present := Table.mem_of_find? held
      have bounds := law.bounded position present
      have available := enough.available
      have positive := enough.positive
      apply law.update _ _ (Table.find?_of_mem present) writes.positions rfl rfl (by omega)
      · exact bounds
      · simp only [closingPosition]
        constructor
        · intro isClosed
          cases isClosed
        · omega
      · intro account stock
        have same : heldQuantity account stock (closingPosition
            (datetimeToWire readings.queuedAt) position) = heldQuantity account stock position :=
          rfl
        rw [writes.executions]
        omega

theorem NetOfFills.step {host : LiveSimHost} {store : LiveSimStore} {op : TradingOp}
    (law : NetOfFills store.live) (balances : Balances host settings store op) :
    NetOfFills ((tradingSystem host settings).next store op).live := by
  rw [next_tradingSystem]
  cases op with
  | deliver delivery =>
      have effect := effect_of_event host.toHost settings store.live delivery.event delivery.ids
        delivery.now
      dsimp only [tradingStep]
      generalize tablesAfterEvent host.toHost settings store.live delivery.event delivery.ids
        delivery.now = after at effect ⊢
      cases effect with
      | nothing => exact law
      | notice order status _ writes => exact law.of_same writes.positions writes.executions
      | fill order report reported applies =>
          exact law.fill (balances (order, report) reported) applies
  | signal positionId trigger exitSignalId createdAt =>
      rcases signalled_frame store.live positionId trigger exitSignalId createdAt
        with ⟨exitSignals, same⟩
      dsimp only [tradingStep]
      rw [same]
      exact law.of_same rfl rfl
  | createExit positionId exitSignalId exitIntentId =>
      dsimp only [tradingStep, tablesAfterCreateExit]
      split
      · next after success =>
          rcases createsExit success with ⟨position, signal, _, creates⟩
          exact law.of_same creates.positions creates.executions
      · exact law
  | queueExit exitIntentId readings =>
      exact law.queueExit (exitQueueEffect host settings store exitIntentId readings)

/-- In a run whose fills all balance the positions are the net of the executions throughout. -/
theorem positions_net_of_fills (settings : LiveSimSettings)
    (store : LiveSimStore) (ops : List TradingOp) (start : NetOfFills store.live)
    (balances : (tradingSystem host settings).Along (Balances host settings) store ops) :
    (tradingSystem host settings).Throughout (fun store => NetOfFills store.live) store ops := by
  have preserved : ∀ store op, NetOfFills store.live → Balances host settings store op →
      NetOfFills ((tradingSystem host settings).next store op).live :=
    fun _ _ law balances => law.step balances
  exact (System.throughout_iff _ store ops).mpr
    ⟨start, System.Along.imp (fun store => NetOfFills store.live) preserved preserved start
      balances⟩

/-! ## A purchase while the exit of the same stock is queued -/

def sampleLiveSimHost : LiveSimHost :=
  { sampleHost with priceText := fun _ => "100.0" }

def secondBuy : LiveSimOrder :=
  { dispatchedBuy with
    liveSimOrderId := "order-2", liveSimIntentId := "intent-2"
    gatewayCommandId := some "command-2", brokerOrderNo := some "1002"
    idempotencyKey := "buy-2" }

def twoBuyOrders : LiveSimStore where
  gateway := freshStore
  live := tablesOfOrders [dispatchedBuy, secondBuy] (by decide)

def buyFill (brokerOrderNo executionId : String) (quantity : Int) (fresh : String) : TradingOp :=
  .deliver (deliveredAt (commandEventOf "event-1" "execution_event"
    (fillPayload brokerOrderNo executionId "BUY" quantity .null) stripped_firstExecution) fresh)

def exitSteps (signal intent command : String) : List TradingOp :=
  [.signal "position-1" ⟨"STOP_LOSS", none, 90⟩ signal "2026-07-17 00:00:03",
    .createExit "position-1" (some signal) intent,
    .queueExit intent ⟨command, "exit-order-" ++ command, [], 63900000003000000,
      63900000003000000, 63900000003000000⟩]

/-- A fill of the second order arrives while the exit of the first is queued. -/
def buyWhileClosing : List TradingOp :=
  buyFill "1001" "e1" 10 "1" :: exitSteps "signal-1" "exit-1" "command-3" ++
    [buyFill "1002" "e2" 10 "2"]

/-- The stock sold after the exit was queued. -/
def soldAfterClosing : List TradingOp :=
  buyFill "1001" "e1" 10 "1" :: exitSteps "signal-1" "exit-1" "command-3" ++
    [.deliver (deliveredAt { commandEventOf "event-2" "execution_event"
      (fillPayload "" "e2" "SELL" 10 .null) stripped_secondExecution with
        commandId := some "command-3", commandId_stripped := strippedOption_thirdCommand } "2")]

theorem netOfFills_of_empty (positions : tables.positions = .empty)
    (executions : tables.executions = .empty) : NetOfFills tables where
  single := by simp [positions]
  balanced := by simp [positions, executions, netPositionQuantityFromFills]
  bounded := by simp [positions]
  closed := by simp [positions]

theorem buyWhileClosing_positions :
    ((tradingSystem sampleLiveSimHost sampleLiveSimSettings).run twoBuyOrders
      buyWhileClosing).live.positions.rows.map
        (fun position => (position.positionId, position.accountId, position.code,
          position.quantity)) =
      [("position-1", "SIM-1", "005930", 10), ("position-2", "SIM-1", "005930", 10)] := by
  decide +kernel

/-- The fill opens a second position beside the one that is closing. -/
theorem purchase_opens_second_position :
    NetOfFills twoBuyOrders.live ∧
      ¬ (tradingSystem sampleLiveSimHost sampleLiveSimSettings).Throughout
        (fun store => NetOfFills store.live) twoBuyOrders buyWhileClosing := by
  refine ⟨netOfFills_of_empty rfl rfl, ?_⟩
  intro holds
  have law : NetOfFills ((tradingSystem sampleLiveSimHost sampleLiveSimSettings).run
      twoBuyOrders buyWhileClosing).live := holds buyWhileClosing [] (List.append_nil _).symm
  have rows := buyWhileClosing_positions
  generalize ((tradingSystem sampleLiveSimHost sampleLiveSimSettings).run twoBuyOrders
    buyWhileClosing).live = tables at law rows
  rcases List.map_eq_cons_iff.mp rows with ⟨first, rest, isRows, isFirst, rows⟩
  rcases List.map_eq_cons_iff.mp rows with ⟨second, rest, rfl, isSecond, _⟩
  simp only [Prod.mk.injEq] at isFirst isSecond
  rcases isFirst with ⟨firstId, firstAccount, firstCode, firstHeld⟩
  rcases isSecond with ⟨secondId, secondAccount, secondCode, secondHeld⟩
  have same := law.single first (by simp [isRows]) second (by simp [isRows])
    (firstAccount.trans secondAccount.symm) (firstCode.trans secondCode.symm) (by omega) (by omega)
  rw [firstId, secondId] at same
  exact absurd same (by decide)

theorem soldAfterClosing_balances :
    (tradingSystem sampleLiveSimHost sampleLiveSimSettings).Along
      (Balances sampleLiveSimHost sampleLiveSimSettings) twoBuyOrders soldAfterClosing := by
  refine ⟨?_, trivial, trivial, trivial, ?_, trivial⟩
  · decide +kernel
  · decide +kernel

theorem positions_net_of_sale :
    NetOfFills twoBuyOrders.live ∧
      (tradingSystem sampleLiveSimHost sampleLiveSimSettings).Along
        (Balances sampleLiveSimHost sampleLiveSimSettings) twoBuyOrders soldAfterClosing ∧
      (tradingSystem sampleLiveSimHost sampleLiveSimSettings).Throughout
        (fun store => NetOfFills store.live) twoBuyOrders soldAfterClosing :=
  ⟨netOfFills_of_empty rfl rfl, soldAfterClosing_balances,
    positions_net_of_fills sampleLiveSimHost sampleLiveSimSettings twoBuyOrders soldAfterClosing
      (netOfFills_of_empty rfl rfl) soldAfterClosing_balances⟩

end SuseokTrader
