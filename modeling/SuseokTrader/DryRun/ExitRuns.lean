import SuseokTrader.DryRun.ExitAccounts

/-!
# Runs of the dry run

Every call keeps the accounts of all positions: a buy adds what it bought, a
fill takes what it sold, and intents and orders move nothing.
-/

namespace SuseokTrader

/-! ## Sums by owner -/

section Sums

variable {Row Value : Type} [AddCommMonoid Value] {owner : Row → String} {value : Row → Value}
  {rows : List Row} {row : Row} {id : String}

def sumFor (owner : Row → String) (value : Row → Value) (id : String) (rows : List Row) : Value :=
  ((rows.filter fun row => owner row = id).map value).sum

theorem sumFor_append :
    sumFor owner value id (rows ++ [row]) =
      sumFor owner value id rows + if owner row = id then value row else 0 := by
  by_cases same : owner row = id
  · simp [sumFor, same]
  · simp [sumFor, same]

theorem sumFor_eq_zero (none : ∀ row ∈ rows, owner row ≠ id) : sumFor owner value id rows = 0 := by
  have empty : rows.filter (fun row => owner row = id) = [] :=
    List.filter_eq_nil_iff.mpr fun row present => by simpa using none row present
  rw [sumFor, empty]
  rfl

end Sums

/-! ## Accounts -/

namespace DryRunTables

variable (tables : DryRunTables) (positionId : String)

def bought : Int :=
  sumFor BuyEntry.dryRunPositionId BuyEntry.quantity positionId tables.buys

def exited : Int :=
  sumFor DryRunExitExecution.dryRunPositionId DryRunExitExecution.quantity positionId
    tables.exitExecutions.rows

def realized : Rat :=
  sumFor DryRunExitExecution.dryRunPositionId DryRunExitExecution.realizedPnl positionId
    tables.exitExecutions.rows

end DryRunTables

structure DryRunAccount (tables : DryRunTables) (positionId : String) (position : DryRunPosition) :
    Prop where
  conserved : tables.exited positionId + position.quantity = tables.bought positionId
  nonneg : 0 ≤ position.quantity
  invested : position.investedNotional = position.avgPrice * position.quantity
  closed : position.status = .closed ↔ position.quantity = 0
  realizes : position.realizedPnl = tables.realized positionId

/-- Every position keeps its account, and every exit order is filled once at most. -/
structure DryRunAccounts (tables : DryRunTables) : Prop where
  positions : ∀ positionId position, tables.positions.find? positionId = some position →
    DryRunAccount tables positionId position
  once : ∀ exitOrderId, (tables.exitExecutions.rows.filter fun execution =>
    execution.dryRunExitOrderId = exitOrderId).length ≤ 1

/-- What keeps the accounts: no row is about a position or an order that is not there, and an
order that may be filled was not. -/
structure DryRunInvariant (tables : DryRunTables) : Prop extends DryRunAccounts tables where
  buysKnown : ∀ entry ∈ tables.buys, tables.positions.find? entry.dryRunPositionId ≠ none
  exitsKnown : ∀ execution ∈ tables.exitExecutions.rows,
    tables.positions.find? execution.dryRunPositionId ≠ none ∧
      tables.exitOrders.find? execution.dryRunExitOrderId ≠ none
  unfilled : ∀ exitOrderId order, tables.exitOrders.find? exitOrderId = some order →
    order.status = .created → ∀ execution ∈ tables.exitExecutions.rows,
      execution.dryRunExitOrderId ≠ exitOrderId

variable {positionId newId : String} {position : DryRunPosition} {execution : DryRunExitExecution}

theorem DryRunAccount.congr {tables other : DryRunTables}
    (account : DryRunAccount tables positionId position) (buys : other.buys = tables.buys)
    (exits : other.exitExecutions = tables.exitExecutions) :
    DryRunAccount other positionId position := by
  refine ⟨?_, account.nonneg, account.invested, account.closed, ?_⟩
  · simpa only [DryRunTables.exited, DryRunTables.bought, buys, exits] using account.conserved
  · simpa only [DryRunTables.realized, exits] using account.realizes

theorem dryRunInvariant_empty : DryRunInvariant .empty where
  positions := by
    intro positionId position found
    cases found
  once := fun _ => Nat.zero_le 1
  buysKnown := fun _ present => absurd present List.not_mem_nil
  exitsKnown := fun _ present => absurd present List.not_mem_nil
  unfilled := by
    intro exitOrderId order found
    cases found

/-! ## Steps -/

variable {tables after : DryRunTables} {settings : DryRunSettings}

theorem activePosition_eq_ok (active : activePosition tables positionId = .ok position) :
    tables.positions.find? positionId = some position ∧ position.status = .opened ∧
      0 < position.quantity := by
  unfold activePosition at active
  split at active
  · cases active
  · next found =>
      split_ifs at active with isActive
      · cases active
        simp only [isActiveDryRunPosition, Bool.and_eq_true, decide_eq_true_eq] at isActive
        exact ⟨found, isActive.1, isActive.2⟩
      · cases active

theorem DryRunInvariant.bought (holds : DryRunInvariant tables) {positions : Table DryRunPosition}
    {entry : BuyEntry} (found : positions.find? entry.dryRunPositionId = some position)
    (others : ∀ other, other ≠ entry.dryRunPositionId →
      positions.find? other = tables.positions.find? other)
    (account : DryRunAccount { tables with positions := positions, buys := tables.buys ++ [entry] }
      entry.dryRunPositionId position) :
    DryRunInvariant { tables with positions := positions, buys := tables.buys ++ [entry] } := by
  have known : ∀ id, tables.positions.find? id ≠ none → positions.find? id ≠ none := by
    intro id isKnown
    by_cases same : id = entry.dryRunPositionId
    · rw [same, found]
      simp
    · rw [others id same]
      exact isKnown
  refine ⟨⟨?_, holds.once⟩, ?_, ?_, holds.unfilled⟩
  · intro id other isOther
    by_cases same : id = entry.dryRunPositionId
    · subst same
      cases found.symm.trans isOther
      exact account
    · have before := holds.positions id other ((others id same).symm.trans isOther)
      refine ⟨?_, before.nonneg, before.invested, before.closed, before.realizes⟩
      have conserved := before.conserved
      rw [DryRunTables.bought] at conserved ⊢
      rw [sumFor_append, if_neg (Ne.symm same), add_zero]
      exact conserved
  · intro other present
    rcases List.mem_append.mp present with early | last
    · exact known _ (holds.buysKnown other early)
    · rw [List.mem_singleton.mp last, found]
      simp
  · intro execution present
    have isKnown := holds.exitsKnown execution present
    exact ⟨known _ isKnown.1, isKnown.2⟩

theorem DryRunInvariant.buy (holds : DryRunInvariant tables) {execution : DryRunExecution}
    {now : String} (buys : upsertPositionForExecution tables execution newId now = .ok after) :
    DryRunInvariant after := by
  unfold upsertPositionForExecution at buys
  split at buys
  · split at buys
    · cases buys
    · next positions inserted =>
        cases buys
        have fresh : tables.positions.find? newId = none :=
          Table.insert?_isSome_iff.mp (Option.isSome_iff_exists.mpr ⟨_, inserted⟩)
        refine holds.bought (Table.find?_of_insert?_self inserted)
          (fun other different => Table.find?_of_insert?_of_ne inserted (Ne.symm different)) ?_
        have unbought : tables.bought newId = 0 := sumFor_eq_zero fun entry present same =>
          holds.buysKnown entry present (same ▸ fresh)
        have unexited : tables.exited newId = 0 ∧ tables.realized newId = 0 :=
          ⟨sumFor_eq_zero fun exit present same => (holds.exitsKnown exit present).1 (same ▸ fresh),
            sumFor_eq_zero fun exit present same =>
              (holds.exitsKnown exit present).1 (same ▸ fresh)⟩
        have positive := execution.quantity_pos
        refine ⟨?_, ?_, rfl, ?_, unexited.2.symm⟩
        · have sum := @sumFor_append _ _ _ BuyEntry.dryRunPositionId BuyEntry.quantity tables.buys
            ⟨newId, execution.quantity, execution.notional⟩ newId
          rw [if_pos rfl] at sum
          rw [DryRunTables.bought] at unbought ⊢
          rw [sum, unbought, zero_add]
          exact (congrArg (· + execution.quantity) unexited.1).trans (zero_add _)
        · exact (by omega : 0 ≤ execution.quantity)
        · have some : execution.quantity ≠ 0 := by omega
          simp [openedDryRunPosition, some]
  · next position isOpen =>
      cases buys
      have listed := List.mem_of_mem_head? isOpen
      rw [List.mem_insertionSort, List.mem_filter] at listed
      have opened : position.status = .opened := by
        have conditions := listed.2
        simp only [Bool.and_eq_true, decide_eq_true_eq] at conditions
        exact conditions.2
      have found : tables.positions.find? position.dryRunPositionId = some position :=
        Table.find?_of_mem listed.1
      have account := holds.positions _ position found
      refine holds.bought (Table.find?_update_self found)
        (fun other different => Table.find?_update_of_ne different) ?_
      have positive := execution.quantity_pos
      have nonneg := account.nonneg
      have some : position.quantity + execution.quantity ≠ 0 := by omega
      refine ⟨?_, ?_, ?_, ?_, account.realizes⟩
      · have sum := @sumFor_append _ _ _ BuyEntry.dryRunPositionId BuyEntry.quantity tables.buys
          ⟨position.dryRunPositionId, execution.quantity, execution.notional⟩
          position.dryRunPositionId
        rw [if_pos rfl] at sum
        rw [DryRunTables.bought, sum]
        have conserved := account.conserved
        rw [DryRunTables.bought] at conserved
        rw [← conserved]
        exact (add_assoc _ _ _).symm
      · exact (by omega : 0 ≤ position.quantity + execution.quantity)
      · have divides : ((position.quantity + execution.quantity : Int) : Rat) ≠ 0 := by
          exact_mod_cast some
        simp only [raisedDryRunPosition, some, if_false]
        rw [div_mul_cancel₀ _ divides]
      · simp [raisedDryRunPosition, opened, some]

theorem DryRunInvariant.createIntent (holds : DryRunInvariant tables)
    {readings : ExitIntentReadings}
    (created : createDryRunExitIntent settings tables positionId readings = .ok after) :
    DryRunInvariant after := by
  rcases Checked.bind_eq_ok.mp created with ⟨id, _, created⟩
  split at created
  · cases created
  · cases created
    exact ⟨⟨fun id position found => (holds.positions id position found).congr rfl rfl,
      holds.once⟩, holds.buysKnown, holds.exitsKnown, holds.unfilled⟩

theorem DryRunInvariant.convertIntent (holds : DryRunInvariant tables) {exitIntentId : String}
    {gateReasons : List String}
    (converted : convertExitIntentToDryRunOrder settings tables exitIntentId gateReasons newId =
      .ok after) : DryRunInvariant after := by
  unfold convertExitIntentToDryRunOrder at converted
  split_ifs at converted
  · cases converted
  · cases converted
  split at converted
  · cases converted
  · split_ifs at converted
    · cases converted
    rcases Checked.bind_eq_ok.mp converted with ⟨_, _, converted⟩
    split at converted
    · cases converted
    · next exitOrders inserted =>
        cases converted
        have fresh : tables.exitOrders.find? newId = none :=
          Table.insert?_isSome_iff.mp (Option.isSome_iff_exists.mpr ⟨_, inserted⟩)
        have kept : ∀ id, newId ≠ id → exitOrders.find? id = tables.exitOrders.find? id :=
          fun id different => Table.find?_of_insert?_of_ne inserted different
        refine ⟨⟨fun id position found => (holds.positions id position found).congr rfl rfl,
          holds.once⟩, holds.buysKnown, ?_, ?_⟩
        · intro execution present
          have known := holds.exitsKnown execution present
          refine ⟨known.1, ?_⟩
          have different : newId ≠ execution.dryRunExitOrderId := fun same =>
            known.2 (same ▸ fresh)
          exact (kept _ different).symm ▸ known.2
        · intro exitOrderId order found isCreated execution present same
          by_cases isNew : newId = exitOrderId
          · exact (holds.exitsKnown execution present).2 (same.trans isNew.symm ▸ fresh)
          · exact holds.unfilled exitOrderId order ((kept _ isNew).symm.trans found) isCreated
              execution present same

theorem fillQuantity_le (order : DryRunExitOrder) (position : DryRunPosition) :
    fillQuantity order position ≤ position.quantity :=
  min_le_right _ _

theorem DryRunAccount.fill {filled : DryRunTables}
    (account : DryRunAccount tables positionId position)
    (ofPosition : execution.dryRunPositionId = positionId)
    (covered : execution.quantity ≤ position.quantity) (buys : filled.buys = tables.buys)
    (exits : filled.exitExecutions.rows = tables.exitExecutions.rows ++ [execution]) :
    DryRunAccount filled positionId (reduceOrClosePosition execution position) := by
  refine ⟨?_, le_max_right _ _, rfl, ?_, ?_⟩
  · have conserved := account.conserved
    simp only [DryRunTables.exited, DryRunTables.bought, buys, exits, sumFor_append, ofPosition,
      if_true, reduceOrClosePosition] at conserved ⊢
    omega
  · simp only [reduceOrClosePosition]
    split_ifs with none <;> simp [none]
  · have realizes := account.realizes
    simp only [DryRunTables.realized, exits, sumFor_append, ofPosition, if_true,
      reduceOrClosePosition] at realizes ⊢
    rw [realizes]

theorem DryRunAccount.fillOther {filled : DryRunTables}
    (account : DryRunAccount tables positionId position)
    (ofOther : execution.dryRunPositionId ≠ positionId) (buys : filled.buys = tables.buys)
    (exits : filled.exitExecutions.rows = tables.exitExecutions.rows ++ [execution]) :
    DryRunAccount filled positionId position := by
  refine ⟨?_, account.nonneg, account.invested, account.closed, ?_⟩
  · have conserved := account.conserved
    simpa [DryRunTables.exited, DryRunTables.bought, buys, exits, sumFor_append, ofOther]
  · have realizes := account.realizes
    simpa [DryRunTables.realized, exits, sumFor_append, ofOther] using realizes

/-- The state after a fill: the order had no execution yet, and its position covers this one. -/
theorem DryRunInvariant.filled (holds : DryRunInvariant tables) {order : DryRunExitOrder}
    {exitExecutions : Table DryRunExitExecution} {exitOrders : Table DryRunExitOrder}
    {positions : Table DryRunPosition}
    (foundOrder : tables.exitOrders.find? order.dryRunExitOrderId = some order)
    (isCreated : order.status = .created)
    (foundPosition : tables.positions.find? position.dryRunPositionId = some position)
    (ofOrder : execution.dryRunExitOrderId = order.dryRunExitOrderId)
    (ofPosition : execution.dryRunPositionId = position.dryRunPositionId)
    (covered : execution.quantity ≤ position.quantity)
    (exits : exitExecutions.rows = tables.exitExecutions.rows ++ [execution])
    (orders : exitOrders = tables.exitOrders.update order.dryRunExitOrderId
      (filledExitOrder execution) fun _ => rfl)
    (reduced : positions = tables.positions.update position.dryRunPositionId
      (reduceOrClosePosition execution) fun _ => rfl) :
    DryRunInvariant { tables with
      exitExecutions := exitExecutions, exitOrders := exitOrders, positions := positions } := by
  have positionSelf : positions.find? position.dryRunPositionId =
      some (reduceOrClosePosition execution position) := by
    rw [reduced]
    exact Table.find?_update_self foundPosition
  have positionOther : ∀ id, id ≠ position.dryRunPositionId →
      positions.find? id = tables.positions.find? id := by
    intro id different
    rw [reduced]
    exact Table.find?_update_of_ne different
  have orderSelf : exitOrders.find? order.dryRunExitOrderId =
      some (filledExitOrder execution order) := by
    rw [orders]
    exact Table.find?_update_self foundOrder
  have orderOther : ∀ id, id ≠ order.dryRunExitOrderId →
      exitOrders.find? id = tables.exitOrders.find? id := by
    intro id different
    rw [orders]
    exact Table.find?_update_of_ne different
  have knownPosition : ∀ id, tables.positions.find? id ≠ none → positions.find? id ≠ none := by
    intro id known
    by_cases same : id = position.dryRunPositionId
    · simp [same, positionSelf]
    · simpa [positionOther id same] using known
  have knownOrder : ∀ id, tables.exitOrders.find? id ≠ none → exitOrders.find? id ≠ none := by
    intro id known
    by_cases same : id = order.dryRunExitOrderId
    · simp [same, orderSelf]
    · simpa [orderOther id same] using known
  refine ⟨⟨?_, ?_⟩, ?_, ?_, ?_⟩
  · intro id other found
    by_cases same : id = position.dryRunPositionId
    · subst same
      cases positionSelf.symm.trans found
      exact (holds.positions _ position foundPosition).fill ofPosition covered rfl exits
    · have before := holds.positions id other ((positionOther id same).symm.trans found)
      exact before.fillOther (fun isOf => same (isOf.symm.trans ofPosition)) rfl exits
  · intro exitOrderId
    have before := holds.once exitOrderId
    by_cases same : exitOrderId = order.dryRunExitOrderId
    · have none := holds.unfilled _ order foundOrder isCreated
      simpa [exits, ofOrder, same] using none
    · simpa [exits, ofOrder, Ne.symm same] using before
  · intro entry present
    exact knownPosition _ (holds.buysKnown entry present)
  · intro exit present
    rw [exits, List.mem_append, List.mem_singleton] at present
    rcases present with early | rfl
    · have known := holds.exitsKnown exit early
      exact ⟨knownPosition _ known.1, knownOrder _ known.2⟩
    · simp [ofPosition, ofOrder, positionSelf, orderSelf]
  · intro exitOrderId other found otherCreated exit present
    by_cases same : exitOrderId = order.dryRunExitOrderId
    · subst same
      cases orderSelf.symm.trans found
      cases otherCreated
    · rw [exits, List.mem_append, List.mem_singleton] at present
      rcases present with early | rfl
      · exact holds.unfilled exitOrderId other ((orderOther _ same).symm.trans found) otherCreated
          exit early
      · exact fun isOf => same (isOf.symm.trans ofOrder)

theorem DryRunInvariant.fillOrder (holds : DryRunInvariant tables)
    {exitOrderId executedAt : String} {gateReasons : List String}
    {latestTick : String → Option Rat}
    (filled : simulateFillDryRunExitOrder settings tables exitOrderId gateReasons latestTick newId
      executedAt = .ok after) : DryRunInvariant after := by
  unfold simulateFillDryRunExitOrder at filled
  split_ifs at filled
  · cases filled
  · cases filled
  split at filled
  · cases filled
  · next order foundOrder =>
      split_ifs at filled with notCreated
      · cases filled
      rcases Checked.bind_eq_ok.mp filled with ⟨position, active, filled⟩
      have isActive := activePosition_eq_ok active
      have ofOrder : order.dryRunExitOrderId = exitOrderId := Table.key_of_find? foundOrder
      have ofPosition : position.dryRunPositionId = order.dryRunPositionId :=
        Table.key_of_find? isActive.1
      split at filled
      · cases filled
      · simp only at filled
        split_ifs at filled
        · cases filled
        split at filled
        · cases filled
        · next exitExecutions inserted =>
            cases filled
            refine holds.filled (ofOrder.symm ▸ foundOrder) (not_not.mp notCreated)
              (ofPosition.symm ▸ isActive.1) rfl ofPosition.symm (fillQuantity_le order position)
              (Table.rows_of_insert? inserted) rfl rfl

/-! ## Runs -/

theorem DryRunInvariant.step (holds : DryRunInvariant tables) {op : DryRunOp}
    (done : dryRunStep settings tables op = .ok after) : DryRunInvariant after := by
  cases op with
  | buy execution newId now => exact holds.buy done
  | createIntent positionId readings => exact holds.createIntent done
  | convertIntent exitIntentId gateReasons newId => exact holds.convertIntent done
  | fillOrder exitOrderId gateReasons latestTick newId executedAt => exact holds.fillOrder done

theorem DryRunInvariant.next (holds : DryRunInvariant tables) (op : DryRunOp) :
    DryRunInvariant ((dryRunSystem settings).next tables op) := by
  unfold System.next dryRunSystem
  dsimp only
  split
  · next done => exact holds.step done
  · exact holds

/-- Whatever is bought, intended, ordered and filled, in whatever order and as often as may be,
every position keeps its account and every exit order is filled once at most. -/
theorem dry_run_accounts_hold (settings : DryRunSettings) (ops : List DryRunOp) :
    DryRunAccounts ((dryRunSystem settings).run .empty ops) :=
  (System.run_invariant DryRunInvariant (fun _ op holds => holds.next op)
    dryRunInvariant_empty ops).toDryRunAccounts

end SuseokTrader
