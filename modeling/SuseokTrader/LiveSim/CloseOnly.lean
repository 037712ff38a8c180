import SuseokTrader.LiveSim.Positions

/-!
# The shares on offer

A SELL order belongs to the position of its exit intent and offers its
remaining quantity until it ends. Nothing is set aside when an exit is queued:
the checks compare the quantity of the intent with what the position has
available, not with what is already on offer.
-/

namespace SuseokTrader

/-! ## The law -/

variable (exitIntents : Table ExitIntent)

def positionOfExit (exitIntentId : String) : Option String :=
  (exitIntents.find? exitIntentId).map ExitIntent.positionId

def offeredShares (positionId : String) (order : LiveSimOrder) :
    Int :=
  if order.side = .sell ∧ order.status.isTerminal = false ∧
      positionOfExit exitIntents order.liveSimIntentId = some positionId then
    order.remainingQuantity
  else 0

variable (tables : LiveSimTables)

def offeredQuantity (positionId : String) : Int :=
  tables.orders.total (offeredShares tables.exitIntents positionId)

/-- No position has more shares on offer than available. -/
def CloseOnly : Prop :=
  ∀ position ∈ tables.positions.rows,
    offeredQuantity tables position.positionId ≤ position.availableQuantity

def exitRoom (position : LiveSimPosition) : Int :=
  position.availableQuantity - offeredQuantity tables position.positionId

/-! ## The condition -/

/-- What a SELL fill takes from a position. -/
def takenShares (positions : Table LiveSimPosition) (order : LiveSimOrder)
    (report : ExecutionReport) (position : LiveSimPosition) : Int :=
  match positionOfSell positions order report.positionId with
  | none => 0
  | some sold =>
      if order.side = .sell ∧ sold.positionId = position.positionId ∧
          report.quantity ≤ position.availableQuantity then
        report.quantity
      else 0

def orderLeft (order : LiveSimOrder) (status : LiveSimOrderStatus) (remaining : Int) :
    LiveSimOrder :=
  { order with status := status, remainingQuantity := remaining }

/-- What the order offers more, and what is taken from the position, is not on offer yet. -/
def OffersWithin (order : LiveSimOrder) (status : LiveSimOrderStatus)
    (remaining : Int) (taken : LiveSimPosition → Int) : Prop :=
  ∀ position ∈ tables.positions.rows,
    offeredShares tables.exitIntents position.positionId (orderLeft order status remaining) -
      offeredShares tables.exitIntents position.positionId order + taken position ≤
    exitRoom tables position

instance (tables : LiveSimTables) (order : LiveSimOrder) (status : LiveSimOrderStatus)
    (remaining : Int) (taken : LiveSimPosition → Int) :
    Decidable (OffersWithin tables order status remaining taken) :=
  inferInstanceAs (Decidable (∀ position ∈ tables.positions.rows, _))

/-- The intent asks for no more than the shares that are not on offer yet. -/
def QueuesWithin (settings : LiveSimSettings) (tables : LiveSimTables) (exitIntentId : String)
    (readings : QueueReadings) : Prop :=
  ∀ intent ∈ tables.exitIntents.find? exitIntentId,
    ∀ position ∈ tables.positions.find? intent.positionId,
      exitSafetyReasons settings readings.gateReasons position intent = [] →
      (insertOrder tables.orders (exitOrder position intent readings)).isSome →
      intent.quantity ≤ exitRoom tables position

instance (settings : LiveSimSettings) (tables : LiveSimTables) (exitIntentId : String)
    (readings : QueueReadings) :
    Decidable (QueuesWithin settings tables exitIntentId readings) :=
  inferInstanceAs (Decidable (∀ intent ∈ tables.exitIntents.find? exitIntentId,
    ∀ position ∈ tables.positions.find? intent.positionId, _ → _ → _))

/-- The event offers and takes no more than there is room for. -/
def MovesWithin (host : Host) (settings : LiveSimSettings) (tables : LiveSimTables)
    (event : GatewayEvent) : Prop :=
  (∀ notice ∈ noticeOf host tables event,
    OffersWithin tables notice.1 notice.2 notice.1.remainingQuantity fun _ => 0) ∧
  ∀ fill ∈ fillOf host settings tables event,
    OffersWithin tables fill.1 (statusAfterFill tables fill.1 fill.2) (fill.2.remaining fill.1)
      (takenShares tables.positions fill.1 fill.2)

instance (host : Host) (settings : LiveSimSettings) (tables : LiveSimTables)
    (event : GatewayEvent) : Decidable (MovesWithin host settings tables event) :=
  inferInstanceAs (Decidable ((∀ notice ∈ noticeOf host tables event, _) ∧
    ∀ fill ∈ fillOf host settings tables event, _))

def StaysWithin (host : LiveSimHost) (settings : LiveSimSettings) (store : LiveSimStore) :
    TradingOp → Prop
  | .deliver delivery => MovesWithin host.toHost settings store.live delivery.event
  | .queueExit exitIntentId readings => QueuesWithin settings store.live exitIntentId readings
  | .signal .. | .createExit .. => True

instance (host : LiveSimHost) (settings : LiveSimSettings) (store : LiveSimStore)
    (op : TradingOp) : Decidable (StaysWithin host settings store op) :=
  match op with
  | .deliver delivery =>
      inferInstanceAs (Decidable (MovesWithin host.toHost settings store.live delivery.event))
  | .queueExit exitIntentId readings =>
      inferInstanceAs (Decidable (QueuesWithin settings store.live exitIntentId readings))
  | .signal .. | .createExit .. => inferInstanceAs (Decidable True)

/-! ## Owners -/

def KeepsOwners (before after : Table ExitIntent) : Prop :=
  ∀ id positionId, positionOfExit before id = some positionId →
    positionOfExit after id = some positionId

theorem keepsOwners_refl : KeepsOwners exitIntents exitIntents :=
  fun _ _ found => found

theorem keepsOwners_update (id : String)
    (change : ExitIntent → ExitIntent)
    (keeps : ∀ intent, Keyed.key (change intent) = Keyed.key intent)
    (same : ∀ intent, (change intent).positionId = intent.positionId) :
    KeepsOwners exitIntents (exitIntents.update id change keeps) := by
  intro other positionId found
  rw [positionOfExit, Option.map_eq_some_iff] at found ⊢
  rcases found with ⟨intent, here, rfl⟩
  by_cases isId : other = id
  · subst isId
    exact ⟨change intent, Table.find?_update_self here, same intent⟩
  · exact ⟨intent, by rw [Table.find?_update_of_ne isId, here], rfl⟩

variable {exitIntents : Table ExitIntent} {tables after : LiveSimTables} {positionId : String}
  {order new : LiveSimOrder} {settings : LiveSimSettings} {report : ExecutionReport}

theorem keepsOwners_insert {inserted : Table ExitIntent} {intent : ExitIntent}
    (success : insertExitIntent exitIntents intent = some inserted) :
    KeepsOwners exitIntents inserted := by
  intro other positionId found
  rw [positionOfExit, Option.map_eq_some_iff] at found ⊢
  rcases found with ⟨before, here, rfl⟩
  rw [insertExitIntent] at success
  split at success
  · cases success
  · exact ⟨before, Table.find?_of_insert?_of_some success here, rfl⟩

theorem keepsOwners_marked (exitIntents : Table ExitIntent) (mark : Option (ExitIntent × Bool)) :
    KeepsOwners exitIntents (markedIntents exitIntents mark) := by
  cases mark with
  | none => exact keepsOwners_refl exitIntents
  | some mark => exact keepsOwners_update _ _ _ _ fun _ => rfl

structure Linked (tables : LiveSimTables) : Prop where
  orders : ∀ order ∈ tables.orders.rows, order.side = .sell →
    ∃ positionId, positionOfExit tables.exitIntents order.liveSimIntentId = some positionId
  intents : ∀ id positionId, positionOfExit tables.exitIntents id = some positionId →
    (tables.positions.find? positionId).isSome

theorem offeredShares_of_keepsOwners (linked : Linked tables)
    (owners : KeepsOwners tables.exitIntents exitIntents) (positionId : String)
    (order : LiveSimOrder) (present : order ∈ tables.orders.rows) :
    offeredShares exitIntents positionId order =
      offeredShares tables.exitIntents positionId order := by
  rw [offeredShares, offeredShares]
  by_cases sells : order.side = .sell
  · rcases linked.orders order present sells with ⟨owner, isOwner⟩
    rw [isOwner, owners _ _ isOwner]
  · simp only [sells, false_and]

theorem offeredQuantity_of_keepsOwners (linked : Linked tables)
    (owners : KeepsOwners tables.exitIntents exitIntents) (positionId : String) :
    tables.orders.total (offeredShares exitIntents positionId) =
      offeredQuantity tables positionId :=
  Table.total_congr fun order present =>
    offeredShares_of_keepsOwners linked owners positionId order present

theorem offeredQuantity_of_unowned
    (unowned : ∀ id, positionOfExit tables.exitIntents id ≠ some positionId) :
    offeredQuantity tables positionId = 0 := by
  apply List.sum_eq_zero
  intro shares present
  rcases List.mem_map.mp present with ⟨order, _, rfl⟩
  rw [offeredShares, if_neg]
  rintro ⟨_, _, owner⟩
  exact unowned _ owner

/-! ## One order changes -/

/-- One order got new values and no row came or went. -/
structure ReplacesOrder (tables after : LiveSimTables) (order new : LiveSimOrder) : Prop where
  present : tables.orders.find? order.liveSimOrderId = some order
  replaced : after.orders.find? order.liveSimOrderId = some new
  others : ∀ id, id ≠ order.liveSimOrderId → after.orders.find? id = tables.orders.find? id
  keys : after.orders.rows.map Keyed.key = tables.orders.rows.map Keyed.key
  side : new.side = order.side
  intent : new.liveSimIntentId = order.liveSimIntentId
  owners : KeepsOwners tables.exitIntents after.exitIntents

theorem offeredShares_orderLeft (side : new.side = order.side)
    (intent : new.liveSimIntentId = order.liveSimIntentId) (exitIntents : Table ExitIntent)
    (positionId : String) :
    offeredShares exitIntents positionId new =
      offeredShares exitIntents positionId (orderLeft order new.status new.remainingQuantity) := by
  rw [offeredShares, side, intent]
  rfl

theorem ReplacesOrder.offeredQuantity (replaces : ReplacesOrder tables after order new)
    (linked : Linked tables) (positionId : String) :
    offeredQuantity after positionId = SuseokTrader.offeredQuantity tables positionId -
      offeredShares tables.exitIntents positionId order +
      offeredShares tables.exitIntents positionId
        (orderLeft order new.status new.remainingQuantity) := by
  have isRow := Table.mem_of_find? replaces.present
  have before := offeredShares_of_keepsOwners linked replaces.owners positionId order isRow
  have sameOwner : offeredShares after.exitIntents positionId
      (orderLeft order new.status new.remainingQuantity) =
      offeredShares tables.exitIntents positionId
        (orderLeft order new.status new.remainingQuantity) := by
    rw [offeredShares, offeredShares]
    by_cases sells : order.side = .sell
    · rcases linked.orders order isRow sells with ⟨owner, isOwner⟩
      simp only [orderLeft, isOwner, replaces.owners _ _ isOwner]
    · simp only [orderLeft, sells, false_and]
  rw [SuseokTrader.offeredQuantity, Table.total_of_replaced replaces.keys replaces.present
    replaces.replaced replaces.others, offeredQuantity_of_keepsOwners linked replaces.owners,
    before, offeredShares_orderLeft replaces.side replaces.intent, sameOwner]

theorem ReplacesOrder.closeOnly {taken : LiveSimPosition → Int}
    (replaces : ReplacesOrder tables after order new) (linked : Linked tables)
    (within : OffersWithin tables order new.status new.remainingQuantity taken)
    (position : LiveSimPosition) (isPosition : position ∈ tables.positions.rows) :
    SuseokTrader.offeredQuantity after position.positionId + taken position ≤
      position.availableQuantity := by
  have room := within position isPosition
  have offered := replaces.offeredQuantity linked position.positionId
  rw [exitRoom] at room
  omega

theorem ReplacesOrder.linked (replaces : ReplacesOrder tables after order new)
    (linked : Linked tables) :
    ∀ row ∈ after.orders.rows, row.side = .sell →
      ∃ positionId, positionOfExit after.exitIntents row.liveSimIntentId = some positionId := by
  intro row isRow sells
  have found := Table.find?_of_mem isRow
  have owned : ∃ before ∈ tables.orders.rows, before.side = .sell ∧
      before.liveSimIntentId = row.liveSimIntentId := by
    by_cases here : Keyed.key row = order.liveSimOrderId
    · rw [here, replaces.replaced, Option.some.injEq] at found
      subst found
      exact ⟨order, Table.mem_of_find? replaces.present, replaces.side.symm.trans sells,
        replaces.intent.symm⟩
    · rw [replaces.others _ here] at found
      exact ⟨row, Table.mem_of_find? found, sells, rfl⟩
  rcases owned with ⟨before, wasRow, sold, same⟩
  rcases linked.orders before wasRow sold with ⟨positionId, owner⟩
  rw [same] at owner
  exact ⟨positionId, replaces.owners _ _ owner⟩

theorem WritesStatus.replacesOrder {status : LiveSimOrderStatus}
    (writes : WritesStatus tables after order status) :
    ∃ new, ReplacesOrder tables after order new ∧ new.status = status ∧
      new.remainingQuantity = order.remainingQuantity := by
  rcases writes.written with ⟨new, found, isStatus, _, remaining, side, intent⟩
  refine ⟨new, ?_, isStatus, remaining⟩
  refine ⟨writes.present, found, writes.others, writes.keys, side, intent, ?_⟩
  rcases writes.exitIntents with same | ⟨id, updated⟩
  · rw [same]
    exact keepsOwners_refl _
  · rw [updated]
    exact keepsOwners_update _ _ _ _ fun _ => rfl

theorem AppliesFill.replacesOrder {ids : FreshIds} {now : String}
    (applies : AppliesFill settings tables after order report ids now) :
    ReplacesOrder tables after order
      (orderAfterFill tables order report after.executions now) where
  present := applies.present
  replaced := applies.written
  others := applies.others
  keys := applies.sameOrders.keys_eq
  side := rfl
  intent := rfl
  owners := by
    rw [applies.exitIntents]
    exact keepsOwners_marked _ _

/-! ## Positions -/

theorem takenShares_nonneg (positions : Table LiveSimPosition) (order : LiveSimOrder)
    (report : ExecutionReport) (position : LiveSimPosition) :
    0 ≤ takenShares positions order report position := by
  have positive := report.positive
  rw [takenShares]
  split
  · exact le_rfl
  · split
    · omega
    · exact le_rfl

/-- A position after a fill has what the fill leaves of it; a new one is not empty. -/
theorem FillsPosition.available {positions after : Table LiveSimPosition}
    (fills : FillsPosition settings positions order report positionId after)
    (row : LiveSimPosition) (isRow : row ∈ after.rows) :
    (∃ position ∈ positions.rows, row.positionId = position.positionId ∧
      position.availableQuantity - takenShares positions order report position ≤
        row.availableQuantity) ∨
    (positions.find? row.positionId = none ∧ 0 ≤ row.availableQuantity) := by
  have positive := report.positive
  have kept : row ∈ positions.rows → ∃ position ∈ positions.rows,
      row.positionId = position.positionId ∧
        position.availableQuantity - takenShares positions order report position ≤
          row.availableQuantity := by
    intro present
    have taken := takenShares_nonneg positions order report row
    exact ⟨row, present, rfl, by omega⟩
  cases fills with
  | opens buys missing inserted =>
      rw [Table.rows_of_insert? inserted, List.mem_append, List.mem_singleton] at isRow
      rcases isRow with before | rfl
      · exact Or.inl (kept before)
      · right
        have fresh := Table.insert?_isSome_iff.mp (Option.isSome_of_eq_some inserted)
        refine ⟨fresh, ?_⟩
        simp only [openedPosition]
        omega
  | increases position buys found =>
      have isPosition := (mem_of_positionByAccountCode found).1
      left
      rcases mem_update (Table.find?_of_mem isPosition) isRow with rfl | ⟨before, _⟩
      · have taken := takenShares_nonneg positions order report position
        refine ⟨position, isPosition, rfl, ?_⟩
        simp only [increasedPosition]
        omega
      · exact kept before
  | misses sells missing => exact Or.inl (kept isRow)
  | mismatches position sells found exceeds =>
      have isPosition := mem_of_positionOfSell found
      left
      rcases mem_update (Table.find?_of_mem isPosition) isRow with rfl | ⟨before, _⟩
      · have taken := takenShares_nonneg positions order report position
        refine ⟨position, isPosition, rfl, ?_⟩
        simp only [mismatchedPosition]
        omega
      · exact kept before
  | reduces position sells found fits =>
      have isPosition := mem_of_positionOfSell found
      left
      rcases mem_update (Table.find?_of_mem isPosition) isRow with rfl | ⟨before, _⟩
      · refine ⟨position, isPosition, rfl, ?_⟩
        rw [takenShares, found]
        simp only [reducedPosition, sells, fits, and_self, if_true]
        omega
      · exact kept before

theorem FillsPosition.keeps {positions after : Table LiveSimPosition} {id : String}
    (fills : FillsPosition settings positions order report positionId after)
    (present : (positions.find? id).isSome) : (after.find? id).isSome := by
  rcases Option.isSome_iff_exists.mp present with ⟨position, found⟩
  cases fills with
  | opens buys missing inserted =>
      rw [Table.find?_of_insert?_of_some inserted found, Option.isSome_some]
  | increases | mismatches | reduces =>
      rw [Table.update, Table.find?_updateWhere, found, Option.map_some, Option.isSome_some]
  | misses sells missing => exact present

/-! ## What a step preserves -/

/-- An invariant of the run: the rows are linked, and no position is oversold. -/
structure SellsWithin (tables : LiveSimTables) : Prop where
  linked : Linked tables
  closeOnly : CloseOnly tables

theorem SellsWithin.of_same (law : SellsWithin tables) (orders : after.orders = tables.orders)
    (positions : after.positions = tables.positions)
    (owners : KeepsOwners tables.exitIntents after.exitIntents)
    (owned : ∀ id positionId, positionOfExit after.exitIntents id = some positionId →
      (tables.positions.find? positionId).isSome) : SellsWithin after where
  linked := {
    orders := by
      intro order isOrder sells
      rw [orders] at isOrder
      rcases law.linked.orders order isOrder sells with ⟨positionId, owner⟩
      exact ⟨positionId, owners _ _ owner⟩
    intents := by
      rw [positions]
      exact owned }
  closeOnly := by
    intro position isPosition
    rw [positions] at isPosition
    rw [offeredQuantity, orders, offeredQuantity_of_keepsOwners law.linked owners]
    exact law.closeOnly position isPosition

theorem positionOfExit_update (exitIntents : Table ExitIntent) (id other : String)
    (change : ExitIntent → ExitIntent)
    (keeps : ∀ intent, Keyed.key (change intent) = Keyed.key intent)
    (same : ∀ intent, (change intent).positionId = intent.positionId) :
    positionOfExit (exitIntents.update id change keeps) other =
      positionOfExit exitIntents other := by
  rw [positionOfExit, positionOfExit, Table.update, Table.find?_updateWhere]
  cases exitIntents.find? other with
  | none => rfl
  | some intent =>
      rw [Option.map_some, Option.map_some, Option.map_some]
      split
      · rw [same]
      · rfl

theorem positionOfExit_marked (exitIntents : Table ExitIntent)
    (mark : Option (ExitIntent × Bool)) (id : String) :
    positionOfExit (markedIntents exitIntents mark) id = positionOfExit exitIntents id := by
  cases mark with
  | none => rfl
  | some mark => exact positionOfExit_update _ _ _ _ _ fun _ => rfl

theorem SellsWithin.notice {status : LiveSimOrderStatus} (law : SellsWithin tables)
    (writes : WritesStatus tables after order status)
    (within : OffersWithin tables order status order.remainingQuantity fun _ => 0) :
    SellsWithin after := by
  rcases writes.replacesOrder with ⟨new, replaces, rfl, remaining⟩
  rw [← remaining] at within
  refine ⟨⟨replaces.linked law.linked, ?_⟩, ?_⟩
  · intro id positionId owner
    rw [writes.positions]
    rcases writes.exitIntents with same | ⟨updated, isUpdate⟩
    · rw [same] at owner
      exact law.linked.intents id positionId owner
    · rw [isUpdate, positionOfExit_update] at owner
      · exact law.linked.intents id positionId owner
      · intro intent
        rfl
  · intro position isPosition
    rw [writes.positions] at isPosition
    have sold := replaces.closeOnly law.linked within position isPosition
    omega

theorem SellsWithin.fill {ids : FreshIds} {now : String} (law : SellsWithin tables)
    (applies : AppliesFill settings tables after order report ids now)
    (within : OffersWithin tables order (statusAfterFill tables order report)
      (report.remaining order) (takenShares tables.positions order report)) :
    SellsWithin after := by
  have replaces := applies.replacesOrder
  have owned : ∀ id positionId, positionOfExit after.exitIntents id = some positionId →
      (tables.positions.find? positionId).isSome := by
    intro id positionId owner
    rw [applies.exitIntents, positionOfExit_marked] at owner
    exact law.linked.intents id positionId owner
  refine ⟨⟨replaces.linked law.linked, ?_⟩, ?_⟩
  · intro id positionId owner
    exact applies.position.keeps (owned id positionId owner)
  · intro row isRow
    rcases applies.position.available row isRow with
      ⟨position, isPosition, sameId, left⟩ | ⟨fresh, nonneg⟩
    · have sold := replaces.closeOnly law.linked within position isPosition
      rw [sameId]
      omega
    · have unowned : ∀ id, positionOfExit after.exitIntents id ≠ some row.positionId := by
        intro id owner
        have present := owned id row.positionId owner
        rw [fresh] at present
        cases present
      rw [offeredQuantity_of_unowned unowned]
      exact nonneg

theorem SellsWithin.createExit {exitIntentId : String} {position : LiveSimPosition}
    {signal : ExitSignal} (law : SellsWithin tables)
    (creates : CreatesExit settings tables after exitIntentId position signal) :
    SellsWithin after := by
  refine law.of_same creates.orders creates.positions (keepsOwners_insert creates.exitIntents) ?_
  intro id positionId owner
  have inserted := creates.exitIntents
  rw [insertExitIntent] at inserted
  split at inserted
  · cases inserted
  · by_cases isNew : id = exitIntentId
    · have found := Table.find?_of_insert?_self inserted
      have here : after.exitIntents.find? id =
          some (newExitIntent settings position signal exitIntentId) := by
        rw [isNew]
        exact found
      rw [positionOfExit, here, Option.map_some, Option.some.injEq] at owner
      rw [← owner]
      exact Option.isSome_of_eq_some creates.held
    · have apart : Keyed.key (newExitIntent settings position signal exitIntentId) ≠ id :=
        fun same => isNew same.symm
      rw [positionOfExit, Table.find?_of_insert?_of_ne inserted apart] at owner
      exact law.linked.intents id positionId owner

theorem SellsWithin.queues {position : LiveSimPosition} {intent : ExitIntent}
    {readings : QueueReadings} (law : SellsWithin tables)
    (found : tables.exitIntents.find? intent.exitIntentId = some intent)
    (held : tables.positions.find? intent.positionId = some position)
    (writes : WritesExit tables after position intent readings)
    (within : intent.quantity ≤ exitRoom tables position) : SellsWithin after := by
  have owner : positionOfExit tables.exitIntents intent.exitIntentId = some intent.positionId := by
    rw [positionOfExit, found, Option.map_some]
  have owners : KeepsOwners tables.exitIntents after.exitIntents := by
    rw [writes.exitIntents]
    exact keepsOwners_update _ _ _ _ fun _ => rfl
  have rows := rows_of_insertOrder writes.orders
  have isPosition : position.positionId = intent.positionId := Table.key_of_find? held
  have offered : ∀ positionId, offeredQuantity after positionId =
      offeredQuantity tables positionId + offeredShares after.exitIntents positionId
        (exitOrder position intent readings) := by
    intro positionId
    rw [offeredQuantity, Table.total_of_rows_append rows,
      offeredQuantity_of_keepsOwners law.linked owners]
  have newShares : ∀ positionId, offeredShares after.exitIntents positionId
      (exitOrder position intent readings) =
      if intent.positionId = positionId then intent.quantity else 0 := by
    intro positionId
    rw [offeredShares]
    simp only [exitOrder, owners _ _ owner, LiveSimOrderStatus.isTerminal, Option.some.injEq,
      true_and]
  refine ⟨⟨?_, ?_⟩, ?_⟩
  · intro order isOrder sells
    rw [rows, List.mem_append, List.mem_singleton] at isOrder
    rcases isOrder with before | rfl
    · rcases law.linked.orders order before sells with ⟨positionId, isOwner⟩
      exact ⟨positionId, owners _ _ isOwner⟩
    · exact ⟨intent.positionId, owners _ _ owner⟩
  · intro id positionId isOwner
    rw [writes.exitIntents, positionOfExit_update] at isOwner
    · rcases Option.isSome_iff_exists.mp (law.linked.intents id positionId isOwner)
        with ⟨owned, present⟩
      rw [writes.positions, Table.update, Table.find?_updateWhere, present, Option.map_some,
        Option.isSome_some]
    · intro other
      rfl
  · intro row isRow
    rw [offered, newShares]
    rw [writes.positions] at isRow
    have isPositionId : tables.positions.find? position.positionId = some position := by
      rw [isPosition]
      exact held
    rcases mem_update isPositionId isRow with rfl | ⟨before, other⟩
    · rw [exitRoom] at within
      simp only [closingPosition, isPosition, if_true] at within ⊢
      omega
    · have room := law.closeOnly row before
      rw [if_neg (by rw [← isPosition]; exact fun same => other same.symm)]
      omega

/-- The step lemma: a step within the room of the positions keeps the law. -/
theorem SellsWithin.step {host : LiveSimHost} {store : LiveSimStore} {op : TradingOp}
    (law : SellsWithin store.live) (within : StaysWithin host settings store op) :
    SellsWithin ((tradingSystem host settings).next store op).live := by
  rw [next_tradingSystem]
  cases op with
  | deliver delivery =>
      rcases within with ⟨ofNotice, ofFill⟩
      have effect := effect_of_event host.toHost settings store.live delivery.event delivery.ids
        delivery.now
      dsimp only [tradingStep]
      generalize tablesAfterEvent host.toHost settings store.live delivery.event delivery.ids
        delivery.now = after at effect ⊢
      cases effect with
      | nothing => exact law
      | notice order status noticed writes =>
          exact law.notice writes (ofNotice (order, status) noticed)
      | fill order report reported applies =>
          exact law.fill applies (ofFill (order, report) reported)
  | signal positionId trigger exitSignalId createdAt =>
      rcases signalled_frame store.live positionId trigger exitSignalId createdAt
        with ⟨exitSignals, same⟩
      dsimp only [tradingStep]
      rw [same]
      exact law.of_same rfl rfl (keepsOwners_refl _) law.linked.intents
  | createExit positionId exitSignalId exitIntentId =>
      dsimp only [tradingStep, tablesAfterCreateExit]
      split
      · next after success =>
          rcases createsExit success with ⟨position, signal, _, creates⟩
          exact law.createExit creates
      · exact law
  | queueExit exitIntentId readings =>
      have effect := exitQueueEffect host settings store exitIntentId readings
      dsimp only [tradingStep]
      generalize (queueLiveSimExitOrderCommand host settings store exitIntentId
        readings).1.live = after at effect ⊢
      cases effect with
      | nothing => exact law
      | rejects intent found =>
          have owners : KeepsOwners store.live.exitIntents
              (store.live.rejectExitIntent intent.exitIntentId).exitIntents :=
            keepsOwners_update _ _ _ (key_setExitIntentStatus _) fun _ => rfl
          refine law.of_same rfl rfl owners ?_
          intro id positionId owner
          rw [LiveSimTables.rejectExitIntent, positionOfExit_update] at owner
          · exact law.linked.intents id positionId owner
          · intro other
            rfl
      | queues intent position found held allowed written =>
          have writes := writesExit written
          have isIntent : intent.exitIntentId = exitIntentId := Table.key_of_find? found
          have room := within intent found position held allowed
            (Option.isSome_of_eq_some writes.orders)
          rw [← isIntent] at found
          exact law.queues found held writes room

/-- In a run whose steps all stay within the room no position is oversold. -/
theorem never_oversold (host : LiveSimHost) (settings : LiveSimSettings) (store : LiveSimStore)
    (ops : List TradingOp) (start : SellsWithin store.live)
    (within : (tradingSystem host settings).Along (StaysWithin host settings) store ops) :
    (tradingSystem host settings).Throughout (fun store => CloseOnly store.live) store ops := by
  have preserved : ∀ store op, SellsWithin store.live → StaysWithin host settings store op →
      SellsWithin ((tradingSystem host settings).next store op).live :=
    fun _ _ law within => law.step within
  have entails : ∀ store op, SellsWithin store.live → StaysWithin host settings store op →
      CloseOnly ((tradingSystem host settings).next store op).live :=
    fun _ _ law within => (law.step within).closeOnly
  exact (System.throughout_iff _ store ops).mpr ⟨start.closeOnly,
    System.Along.imp (fun store => SellsWithin store.live) preserved entails start within⟩

/-! ## A refused exit that is queued again -/

def exitReadings (command : String) (gateReasons : List String) : QueueReadings :=
  ⟨command, "exit-order-" ++ command, gateReasons, 63900000003000000, 63900000003000000,
    63900000003000000⟩

/-- The gate refuses the first exit of a position. A second one goes through with the signal of
another position, and then the first is queued after all. -/
def refusedExitAgain : List TradingOp :=
  buyWhileClosing ++
    [.signal "position-2" ⟨"STOP_LOSS", none, 90⟩ "signal-2" "2026-07-17 00:00:04",
      .createExit "position-2" (some "signal-2") "exit-2",
      .queueExit "exit-2" (exitReadings "command-4" ["LIVE_SIM_KILL_SWITCH_ACTIVE"]),
      .createExit "position-2" (some "signal-1") "exit-3",
      .queueExit "exit-3" (exitReadings "command-5" []),
      .queueExit "exit-2" (exitReadings "command-6" [])]

theorem sellsWithin_of_buys (buys : ∀ order ∈ tables.orders.rows, order.side = .buy)
    (positions : tables.positions = .empty) (exitIntents : tables.exitIntents = .empty) :
    SellsWithin tables where
  linked := {
    orders := by
      intro order isOrder sells
      rw [buys order isOrder] at sells
      cases sells
    intents := by
      intro id positionId owner
      rw [exitIntents] at owner
      cases owner }
  closeOnly := by
    intro position isPosition
    rw [positions] at isPosition
    cases isPosition

theorem twoBuyOrders_sellsWithin : SellsWithin twoBuyOrders.live :=
  sellsWithin_of_buys (by decide) rfl rfl

theorem refusedExitAgain_offers :
    ((tradingSystem sampleLiveSimHost sampleLiveSimSettings).run twoBuyOrders
      refusedExitAgain).live.positions.rows.map
        (fun position => (position.availableQuantity, offeredQuantity
          ((tradingSystem sampleLiveSimHost sampleLiveSimSettings).run twoBuyOrders
            refusedExitAgain).live position.positionId)) =
      [(10, 10), (10, 20)] := by
  decide +kernel

/-- Twenty shares are on offer for a position with ten. -/
theorem refused_exit_oversells :
    SellsWithin twoBuyOrders.live ∧
      ¬ (tradingSystem sampleLiveSimHost sampleLiveSimSettings).Throughout
        (fun store => CloseOnly store.live) twoBuyOrders refusedExitAgain := by
  refine ⟨twoBuyOrders_sellsWithin, ?_⟩
  intro holds
  have law : CloseOnly ((tradingSystem sampleLiveSimHost sampleLiveSimSettings).run
      twoBuyOrders refusedExitAgain).live := holds refusedExitAgain [] (List.append_nil _).symm
  have offers := refusedExitAgain_offers
  generalize ((tradingSystem sampleLiveSimHost sampleLiveSimSettings).run twoBuyOrders
    refusedExitAgain).live = tables at law offers
  rcases List.map_eq_cons_iff.mp offers with ⟨first, rest, isRows, _, offers⟩
  rcases List.map_eq_cons_iff.mp offers with ⟨second, rest, rfl, isSecond, _⟩
  rw [Prod.mk.injEq] at isSecond
  rcases isSecond with ⟨available, offered⟩
  have bounded := law second (by simp [isRows])
  omega

theorem soldAfterClosing_within :
    (tradingSystem sampleLiveSimHost sampleLiveSimSettings).Along
      (StaysWithin sampleLiveSimHost sampleLiveSimSettings) twoBuyOrders soldAfterClosing := by
  refine ⟨?_, trivial, trivial, ?_, ?_, trivial⟩
  · decide +kernel
  · decide +kernel
  · decide +kernel

theorem sale_never_oversold :
    SellsWithin twoBuyOrders.live ∧
      (tradingSystem sampleLiveSimHost sampleLiveSimSettings).Along
        (StaysWithin sampleLiveSimHost sampleLiveSimSettings) twoBuyOrders soldAfterClosing ∧
      (tradingSystem sampleLiveSimHost sampleLiveSimSettings).Throughout
        (fun store => CloseOnly store.live) twoBuyOrders soldAfterClosing :=
  ⟨twoBuyOrders_sellsWithin, soldAfterClosing_within,
    never_oversold sampleLiveSimHost sampleLiveSimSettings twoBuyOrders soldAfterClosing
      twoBuyOrders_sellsWithin soldAfterClosing_within⟩

end SuseokTrader
