import SuseokTrader.LiveSim.ExitClosure

/-!
# The books of a position

Each fill that moves a position adds a position event. A purchase adds its cost
to the notional of the position and takes the average from it; a sale takes the
notional from the average. Over both the notional stays the average times the
quantity, and what was realized is what the sales brought less what the shares
that were sold have cost.
-/

namespace SuseokTrader

/-! ## Position events -/

/-- A row of the position events, with the execution it names and the average price that the
position had before the fill. -/
structure PositionEvent where
  positionId : String
  eventType : String
  liveSimOrderId : String
  execution : LiveSimExecution
  code : String
  quantityDelta : Int
  price : Rat
  realizedPnl : Rat
  avgEntryPrice : Rat

/-- The event of a fill, unless the fill met no position or too few shares. -/
def positionEvent (positions : Table LiveSimPosition) (order : LiveSimOrder)
    (report : ExecutionReport) (ids : FreshIds) (result : PositionResult) :
    Option PositionEvent :=
  if result.eventType = "RECONCILE_MISMATCH" then none
  else result.positionId.map fun positionId =>
    { positionId := positionId
      eventType := result.eventType
      liveSimOrderId := order.liveSimOrderId
      execution := report.row order ids.executionId
      code := order.code
      quantityDelta := result.quantityDelta
      price := report.price
      realizedPnl := result.realizedPnl
      avgEntryPrice := ((positions.find? positionId).map LiveSimPosition.avgEntryPrice).getD 0 }

/-- The position event that a delivered event adds. -/
def positionEventOf (host : Host) (settings : LiveSimSettings) (tables : LiveSimTables)
    (delivery : Delivery) : Option PositionEvent :=
  match handleLiveSimGatewayEvent host settings tables delivery.event delivery.ids delivery.now,
    fillOf host settings tables delivery.event with
  | .ok (_, .execution _ _ result), some (order, report) =>
      positionEvent tables.positions order report delivery.ids result
  | _, _ => none

/-- The store with its position events. -/
structure BookedStore where
  store : LiveSimStore
  events : List PositionEvent

variable (host : LiveSimHost) (settings : LiveSimSettings)

def bookedBy (store : LiveSimStore) :
    TradingOp → List PositionEvent
  | .deliver delivery => (positionEventOf host.toHost settings store.live delivery).toList
  | .signal .. | .createExit .. | .queueExit .. => []

def bookedSystem :
    System BookedStore TradingOp Unit where
  step booked op :=
    (⟨tradingStep host settings booked.store op,
      booked.events ++ bookedBy host settings booked.store op⟩, ())

theorem next_bookedSystem (booked : BookedStore)
    (op : TradingOp) :
    (bookedSystem host settings).next booked op =
      ⟨tradingStep host settings booked.store op,
        booked.events ++ bookedBy host settings booked.store op⟩ := by
  rw [System.next, bookedSystem]

/-! ## What a fill books -/

/-- What a fill does to the positions, and the event it adds. -/
inductive BooksFill (settings : LiveSimSettings) (positions : Table LiveSimPosition)
    (order : LiveSimOrder) (report : ExecutionReport) :
    Table LiveSimPosition → Option PositionEvent → Prop
  | opens {opened : Table LiveSimPosition} {event : PositionEvent} (id : String)
      (buys : order.side = .buy)
      (inserted : positions.insert? (openedPosition settings order id
        report.quantity report.price report.executedAtText) = some opened)
      (ofPosition : event.positionId = id) (delta : event.quantityDelta = report.quantity)
      (price : event.price = report.price) (realized : event.realizedPnl = 0) :
      BooksFill settings positions order report opened (some event)
  | increases {event : PositionEvent} (position : LiveSimPosition) (buys : order.side = .buy)
      (found : positions.find? position.positionId = some position)
      (ofPosition : event.positionId = position.positionId)
      (delta : event.quantityDelta = report.quantity) (price : event.price = report.price)
      (realized : event.realizedPnl = 0) :
      BooksFill settings positions order report
        (positions.update position.positionId
          (increasedPosition settings report.quantity report.price report.executedAtText)
          (key_increasedPosition _ _ _ _)) (some event)
  | misses (sells : order.side = .sell)
      (missing : positionOfSell positions order report.positionId = none) :
      BooksFill settings positions order report positions none
  | mismatches (position : LiveSimPosition) (sells : order.side = .sell)
      (sold : positionOfSell positions order report.positionId = some position)
      (exceeds : position.availableQuantity < report.quantity) :
      BooksFill settings positions order report
        (positions.update position.positionId (mismatchedPosition report.executedAtText)
          (key_mismatchedPosition _)) none
  | reduces {event : PositionEvent} (position : LiveSimPosition) (sells : order.side = .sell)
      (sold : positionOfSell positions order report.positionId = some position)
      (fits : report.quantity ≤ position.availableQuantity)
      (ofPosition : event.positionId = position.positionId)
      (delta : event.quantityDelta = -report.quantity) (price : event.price = report.price)
      (realized : event.realizedPnl =
        realizedPnl settings position report.quantity report.price)
      (average : event.avgEntryPrice = position.avgEntryPrice)
      (execution : event.execution.executedAt = report.executedAt) :
      BooksFill settings positions order report
        (positions.update position.positionId
          (reducedPosition settings report.quantity report.price report.executedAtText)
          (key_reducedPosition _ _ _ _)) (some event)

variable {host : Host} {settings : LiveSimSettings} {tables after : LiveSimTables}
  {order : LiveSimOrder} {report : ExecutionReport} {ids : FreshIds}

theorem booksFill_of_buy {result : PositionResult} (buys : order.side = .buy)
    (success : applyBuyFill settings tables order ids.positionId report.quantity report.price
      report.executedAtText = .ok (after, result)) :
    BooksFill settings tables.positions order report after.positions
      (positionEvent tables.positions order report ids result) := by
  rw [applyBuyFill] at success
  split at success
  · split at success
    · next positions inserted =>
        cases success
        exact .opens ids.positionId buys inserted rfl rfl rfl rfl
    · cases success
  · next position found =>
      cases success
      exact .increases position buys
        (Table.find?_of_mem (mem_of_positionByAccountCode found).1) rfl rfl rfl rfl

variable {positions : Table LiveSimPosition} {position : LiveSimPosition}
  {events : List PositionEvent} {event : PositionEvent}

theorem find?_of_positionOfSell {named : Option String}
    (sold : positionOfSell positions order named = some position) :
    positions.find? position.positionId = some position :=
  Table.find?_of_mem (mem_of_positionOfSell sold)

theorem booksFill_of_sell {applied : LiveSimTables} {result : PositionResult}
    (sells : order.side = .sell)
    (sold : applySellFill settings tables order report.positionId report.quantity report.price
      report.executedAtText = (applied, result)) :
    BooksFill settings tables.positions order report applied.positions
      (positionEvent tables.positions order report ids result) := by
  rw [applySellFill] at sold
  split at sold
  · next missing =>
      cases sold
      exact .misses sells missing
  · next position found =>
      split at sold
      · next exceeds =>
          cases sold
          exact .mismatches position sells found exceeds
      · cases sold
        have booked : ∀ eventType, eventType ≠ "RECONCILE_MISMATCH" →
            BooksFill settings tables.positions order report
              (tables.positions.update position.positionId
                (reducedPosition settings report.quantity report.price report.executedAtText)
                (key_reducedPosition _ _ _ _))
              (positionEvent tables.positions order report ids
                { eventType := eventType, positionId := some position.positionId
                  quantityDelta := -report.quantity
                  realizedPnl := realizedPnl settings position report.quantity report.price
                  remainingQuantity := some (position.quantity - report.quantity) }) := by
          intro eventType differs
          rw [positionEvent, if_neg differs]
          refine .reduces position sells found (by omega) rfl rfl rfl rfl ?_ rfl
          simp only [find?_of_positionOfSell found, Option.map_some, Option.getD_some]
        apply booked
        split <;> decide

def IsRecordable (executions : Table LiveSimExecution) (order : LiveSimOrder)
    (report : ExecutionReport) (ids : FreshIds) : Prop :=
  (insertExecution executions (report.row order ids.executionId)).isSome = true

instance (executions : Table LiveSimExecution) (order : LiveSimOrder) (report : ExecutionReport)
    (ids : FreshIds) : Decidable (IsRecordable executions order report ids) :=
  inferInstanceAs (Decidable (_ = _))

theorem booksFill {now : String} {reply : LifecycleReply}
    (success : applyExecution settings tables order report ids now = .ok (after, reply)) :
    ∃ orderId executionId result, reply = .execution orderId executionId result ∧
      IsRecordable tables.executions order report ids ∧
      BooksFill settings tables.positions order report after.positions
        (positionEvent tables.positions order report ids result) := by
  rw [applyExecution] at success
  split at success
  · cases success
  · next executions recorded =>
      simp only [Checked.bind_eq_ok, Prod.exists] at success
      rcases success with ⟨applied, result, fills, rfl, rfl⟩
      refine ⟨_, _, result, rfl, Option.isSome_of_eq_some recorded, ?_⟩
      rw [applyFill] at fills
      split at fills
      · next buys =>
        change BooksFill settings (recordFill tables order report executions now).positions _ _ _
          (positionEvent (recordFill tables order report executions now).positions _ _ _ _)
        exact booksFill_of_buy buys fills
      · next sells =>
        rcases fills with ⟨rfl, rfl⟩
        rw [positions_markExit]
        change BooksFill settings (recordFill tables order report executions now).positions _ _ _
          (positionEvent (recordFill tables order report executions now).positions _ _ _ _)
        exact booksFill_of_sell sells rfl

theorem applyExecution_of_sale {now : String} (sells : order.side = .sell)
    (recordable : IsRecordable tables.executions order report ids) :
    ∃ handled, applyExecution settings tables order report ids now = .ok handled := by
  rcases Option.isSome_iff_exists.mp recordable with ⟨executions, recorded⟩
  rw [applyExecution, recorded]
  dsimp only
  rw [applyFill, sells]
  exact ⟨_, rfl⟩

/-- What a delivered event does to the positions, and the position event it adds. -/
inductive BooksDelivery (host : Host) (settings : LiveSimSettings) (tables : LiveSimTables)
    (delivery : Delivery) : Table LiveSimPosition → Option PositionEvent → Prop
  | nothing (unsold : ∀ fill ∈ fillOf host settings tables delivery.event,
        fill.1.side = .sell → ¬ IsRecordable tables.executions fill.1 fill.2 delivery.ids) :
      BooksDelivery host settings tables delivery tables.positions none
  | fill {after : Table LiveSimPosition} {added : Option PositionEvent} (order : LiveSimOrder)
      (report : ExecutionReport)
      (reported : fillOf host settings tables delivery.event = some (order, report))
      (recordable : IsRecordable tables.executions order report delivery.ids)
      (books : BooksFill settings tables.positions order report after added) :
      BooksDelivery host settings tables delivery after added

/-- A delivered event leaves the positions and adds no event, or books its fill. -/
theorem booksDelivery (host : Host) (settings : LiveSimSettings) (tables : LiveSimTables)
    (delivery : Delivery) :
    BooksDelivery host settings tables delivery
      (tablesAfterEvent host settings tables delivery.event delivery.ids delivery.now).positions
      (positionEventOf host settings tables delivery) := by
  cases reported : fillOf host settings tables delivery.event with
  | none =>
      have unbooked : positionEventOf host settings tables delivery = none := by
        rw [positionEventOf, reported]
        split
        · next fill => cases fill
        · rfl
      have effect := effect_of_event host settings tables delivery.event delivery.ids
        delivery.now
      have unsold : ∀ fill ∈ fillOf host settings tables delivery.event,
          fill.1.side = .sell → ¬ IsRecordable tables.executions fill.1 fill.2 delivery.ids := by
        rw [reported]
        rintro fill ⟨⟩
      rw [unbooked]
      generalize tablesAfterEvent host settings tables delivery.event delivery.ids
        delivery.now = after at effect ⊢
      cases effect with
      | nothing => exact .nothing unsold
      | notice order status _ writes =>
          rw [writes.positions]
          exact .nothing unsold
      | fill order report isReported _ =>
          rw [reported] at isReported
          cases isReported
  | some fill =>
      rcases fill with ⟨order, report⟩
      rcases handle_of_fill reported with ⟨_, applies⟩
      rw [tablesAfterEvent, positionEventOf, reported, applies]
      cases success : applyExecution settings tables order report delivery.ids
          (datetimeToWire delivery.now) with
      | error failure =>
          refine .nothing ?_
          rw [reported]
          rintro fill ⟨⟩ sells recordable
          rcases applyExecution_of_sale sells recordable with ⟨handled, applied⟩
          rw [success] at applied
          cases applied
      | ok handled =>
          rcases handled with ⟨after, reply⟩
          rcases booksFill success with ⟨orderId, executionId, result, rfl, recordable, books⟩
          exact .fill order report reported recordable books

/-! ## The law -/

def PositionEvent.isSale (event : PositionEvent) : Bool :=
  event.quantityDelta < 0

def purchaseCost (settings : LiveSimSettings) (event : PositionEvent) : Rat :=
  if event.isSale then 0
  else event.price * event.quantityDelta * (1 + settings.feeRate)

def saleProceeds (settings : LiveSimSettings) (event : PositionEvent) : Rat :=
  if event.isSale then
    event.price * (-event.quantityDelta : Int) * (1 - settings.feeRate - settings.taxRate)
  else 0

def saleMargin (settings : LiveSimSettings) (event : PositionEvent) : Rat :=
  if event.isSale then
    event.price * (-event.quantityDelta : Int) * (1 - settings.feeRate - settings.taxRate) -
      event.avgEntryPrice * (-event.quantityDelta : Int)
  else 0

def bookedTotal (value : PositionEvent → Rat) (events : List PositionEvent)
    (positionId : String) : Rat :=
  ((events.filter fun event => event.positionId = positionId).map value).sum

/-- The books of a position agree with its events. -/
structure KeepsBooks (settings : LiveSimSettings) (events : List PositionEvent)
    (position : LiveSimPosition) : Prop where
  notional : position.totalEntryNotional = position.avgEntryPrice * position.quantity
  realized : position.realizedPnl =
    bookedTotal (saleMargin settings) events position.positionId
  closed : position.status = .closed → position.realizedPnl =
    bookedTotal (saleProceeds settings) events position.positionId -
      bookedTotal (purchaseCost settings) events position.positionId

variable (host : LiveSimHost)

/-- A sale leaves the average price of its position. -/
def SaleKeepsAverage (settings : LiveSimSettings) (booked : BookedStore)
    (op : TradingOp) : Prop :=
  ∀ event ∈ bookedBy host settings booked.store op, event.isSale = true →
    ∃ position ∈ booked.store.live.positions.find? event.positionId,
      ∃ after ∈ (tradingStep host settings booked.store op).live.positions.find?
          event.positionId,
        after.avgEntryPrice = position.avgEntryPrice

/-! ## What a step keeps -/

/-- What the books rest on: all shares are available, and the notional is what is left of the
costs. -/
structure SoundBooks (settings : LiveSimSettings) (events : List PositionEvent)
    (position : LiveSimPosition) : Prop where
  books : KeepsBooks settings events position
  available : position.availableQuantity = position.quantity
  nonneg : 0 ≤ position.quantity
  emptied : position.status = .closed → position.quantity = 0
  balance : position.realizedPnl + bookedTotal (purchaseCost settings) events position.positionId =
    bookedTotal (saleProceeds settings) events position.positionId + position.totalEntryNotional

structure Booked (settings : LiveSimSettings) (positions : Table LiveSimPosition)
    (events : List PositionEvent) : Prop where
  sound : ∀ position ∈ positions.rows, SoundBooks settings events position
  known : ∀ event ∈ events, (positions.find? event.positionId).isSome

theorem bookedTotal_append (value : PositionEvent → Rat) (events : List PositionEvent)
    (event : PositionEvent) (positionId : String) :
    bookedTotal value (events ++ [event]) positionId = bookedTotal value events positionId +
      if event.positionId = positionId then value event else 0 := by
  rw [bookedTotal, bookedTotal]
  by_cases same : event.positionId = positionId
  · simp [same]
  · simp [same]

theorem bookedTotal_of_forall_ne {value : PositionEvent → Rat} {positionId : String}
    (none : ∀ event ∈ events, event.positionId ≠ positionId) :
    bookedTotal value events positionId = 0 := by
  have empty : events.filter (fun event => event.positionId = positionId) = [] := by
    rw [List.filter_eq_nil_iff]
    intro event present
    simpa using none event present
  rw [bookedTotal, empty]
  rfl

theorem SoundBooks.append_of_ne (sound : SoundBooks settings events position)
    (other : event.positionId ≠ position.positionId) :
    SoundBooks settings (events ++ [event]) position := by
  have same : ∀ value, bookedTotal value (events ++ [event]) position.positionId =
      bookedTotal value events position.positionId := by
    intro value
    rw [bookedTotal_append, if_neg other, add_zero]
  rcases sound with ⟨⟨notional, realized, closed⟩, available, nonneg, emptied, balance⟩
  refine ⟨⟨notional, ?_, ?_⟩, available, nonneg, emptied, ?_⟩
  · rw [same, realized]
  · rw [same, same]
    exact closed
  · rw [same, same]
    exact balance

theorem Booked.update {added : Option PositionEvent} {change : LiveSimPosition → LiveSimPosition}
    {keeps : ∀ position, Keyed.key (change position) = Keyed.key position}
    (booked : Booked settings positions events)
    (found : positions.find? position.positionId = some position)
    (ofPosition : ∀ event ∈ added, event.positionId = position.positionId)
    (sound : SoundBooks settings (events ++ added.toList) (change position)) :
    Booked settings (positions.update position.positionId change keeps)
      (events ++ added.toList) where
  sound := by
    intro row isRow
    rcases mem_update found isRow with rfl | ⟨before, other⟩
    · exact sound
    · have kept := booked.sound row before
      cases added with
      | none =>
          rw [Option.toList_none, List.append_nil]
          exact kept
      | some event =>
          apply kept.append_of_ne
          rw [ofPosition event rfl]
          exact other.symm
  known := by
    intro event present
    have isSome : (positions.find? event.positionId).isSome := by
      rcases List.mem_append.mp present with before | new
      · exact booked.known event before
      · rw [ofPosition event (Option.mem_toList.mp new), found]
        rfl
    by_cases same : event.positionId = position.positionId
    · rw [same, Table.find?_update_self found]
      rfl
    · rw [Table.find?_update_of_ne same]
      exact isSome

theorem SoundBooks.of_same {changed : LiveSimPosition}
    (sound : SoundBooks settings events position) (id : changed.positionId = position.positionId)
    (quantity : changed.quantity = position.quantity)
    (available : changed.availableQuantity = position.availableQuantity)
    (average : changed.avgEntryPrice = position.avgEntryPrice)
    (notional : changed.totalEntryNotional = position.totalEntryNotional)
    (realized : changed.realizedPnl = position.realizedPnl) (notClosed : changed.status ≠ .closed) :
    SoundBooks settings events changed where
  books := {
    notional := by rw [notional, average, quantity, sound.books.notional]
    realized := by rw [realized, id, sound.books.realized]
    closed := fun closed => absurd closed notClosed }
  available := by rw [available, quantity, sound.available]
  nonneg := by
    rw [quantity]
    exact sound.nonneg
  emptied := fun closed => absurd closed notClosed
  balance := by rw [realized, id, notional, sound.balance]

theorem Booked.mark {change : LiveSimPosition → LiveSimPosition}
    {keeps : ∀ position, Keyed.key (change position) = Keyed.key position}
    (booked : Booked settings positions events)
    (found : positions.find? position.positionId = some position)
    (sound : SoundBooks settings events position → SoundBooks settings events (change position)) :
    Booked settings (positions.update position.positionId change keeps) events := by
  have marked := sound (booked.sound position (Table.mem_of_find? found))
  have unnamed : ∀ event ∈ (none : Option PositionEvent),
      event.positionId = position.positionId := by
    rintro event ⟨⟩
  rw [← List.append_nil events] at marked
  have updated : Booked settings (positions.update position.positionId change keeps)
      (events ++ Option.toList none) := booked.update found unnamed marked
  rwa [Option.toList_none, List.append_nil] at updated

theorem soundBooks_opened {id : String} (none : ∀ event ∈ events, event.positionId ≠ id)
    (ofPosition : event.positionId = id) (delta : event.quantityDelta = report.quantity)
    (price : event.price = report.price) :
    SoundBooks settings (events ++ [event])
      (openedPosition settings order id report.quantity report.price report.executedAtText) := by
  have positive := report.positive
  have bought : event.isSale = false := by
    rw [PositionEvent.isSale]
    simpa using by omega
  have total : ∀ value : PositionEvent → Rat,
      bookedTotal value (events ++ [event]) id = value event := by
    intro value
    rw [bookedTotal_append, if_pos ofPosition, bookedTotal_of_forall_ne none, zero_add]
  refine ⟨⟨?_, ?_, ?_⟩, rfl, ?_, ?_, ?_⟩
  · simp only [openedPosition]
    field_simp
  · simp [openedPosition, total, saleMargin, bought]
  · intro closed
    cases closed
  · simp only [openedPosition]
    omega
  · intro closed
    cases closed
  · simp only [openedPosition, total, purchaseCost, saleProceeds, bought, delta, price]
    simp
    ring

theorem SoundBooks.increased (sound : SoundBooks settings events position)
    (ofPosition : event.positionId = position.positionId)
    (delta : event.quantityDelta = report.quantity) (price : event.price = report.price) :
    SoundBooks settings (events ++ [event])
      (increasedPosition settings report.quantity report.price report.executedAtText
        position) := by
  have positive := report.positive
  have nonneg := sound.nonneg
  have grows : 0 < position.quantity + report.quantity := by omega
  have nonzero : ((position.quantity + report.quantity : Int) : Rat) ≠ 0 := by
    intro zero
    have isZero : position.quantity + report.quantity = 0 := by exact_mod_cast zero
    omega
  have bought : event.isSale = false := by
    rw [PositionEvent.isSale]
    simpa using by omega
  have total : ∀ value : PositionEvent → Rat,
      bookedTotal value (events ++ [event]) position.positionId =
        bookedTotal value events position.positionId + value event := by
    intro value
    rw [bookedTotal_append, if_pos ofPosition]
  refine ⟨⟨?_, ?_, ?_⟩, ?_, ?_, ?_, ?_⟩
  · simp only [increasedPosition, grows, if_true]
    rw [div_mul_cancel₀ _ nonzero]
  · change position.realizedPnl = bookedTotal _ _ position.positionId
    rw [total, sound.books.realized, saleMargin, bought]
    simp
  · intro closed
    cases closed
  · simp only [increasedPosition, sound.available]
  · simp only [increasedPosition]
    omega
  · intro closed
    cases closed
  · change position.realizedPnl + bookedTotal _ _ position.positionId =
      bookedTotal _ _ position.positionId + (position.totalEntryNotional + _)
    rw [total, total, ← add_assoc, sound.balance, purchaseCost, saleProceeds, bought, delta, price]
    simp
    ring

theorem SoundBooks.reduced (sound : SoundBooks settings events position)
    (fits : report.quantity ≤ position.availableQuantity)
    (ofPosition : event.positionId = position.positionId)
    (delta : event.quantityDelta = -report.quantity) (price : event.price = report.price)
    (average : event.avgEntryPrice = position.avgEntryPrice) :
    SoundBooks settings (events ++ [event])
      (reducedPosition settings report.quantity report.price report.executedAtText
        position) := by
  have positive := report.positive
  have available := sound.available
  have notional := sound.books.notional
  have sold : event.isSale = true := by
    rw [PositionEvent.isSale]
    simpa using by omega
  have total : ∀ value : PositionEvent → Rat,
      bookedTotal value (events ++ [event]) position.positionId =
        bookedTotal value events position.positionId + value event := by
    intro value
    rw [bookedTotal_append, if_pos ofPosition]
  have balance : (reducedPosition settings report.quantity report.price report.executedAtText
        position).realizedPnl +
        bookedTotal (purchaseCost settings) (events ++ [event]) position.positionId =
      bookedTotal (saleProceeds settings) (events ++ [event]) position.positionId +
        position.avgEntryPrice * (position.quantity - report.quantity : Int) := by
    have before := sound.balance
    rw [notional] at before
    simp only [reducedPosition, total, purchaseCost, saleProceeds, sold, delta, price, realizedPnl]
    push_cast
    linear_combination before
  have emptied : (reducedPosition settings report.quantity report.price report.executedAtText
      position).status = .closed → position.quantity - report.quantity = 0 := by
    intro closed
    simp only [reducedPosition] at closed
    split at closed
    · next zero => exact zero
    · cases closed
  refine ⟨⟨rfl, ?_, ?_⟩, ?_, ?_, emptied, balance⟩
  · change position.realizedPnl + realizedPnl settings position report.quantity report.price =
      bookedTotal _ _ position.positionId
    rw [total, sound.books.realized, saleMargin, if_pos sold, realizedPnl, delta, price, average]
    push_cast
    ring
  · intro closed
    rw [emptied closed, Int.cast_zero, mul_zero, add_zero] at balance
    exact eq_sub_of_add_eq balance
  · simp only [reducedPosition]
    omega
  · simp only [reducedPosition]
    omega

theorem Booked.fill {after : Table LiveSimPosition} {added : Option PositionEvent}
    (booked : Booked settings positions events)
    (books : BooksFill settings positions order report after added) :
    Booked settings after (events ++ added.toList) := by
  cases books with
  | opens id buys inserted ofPosition delta price realized =>
      next event =>
      have unknown : positions.find? id = none :=
        Table.insert?_isSome_iff.mp (Option.isSome_of_eq_some inserted)
      have unnamed : ∀ event ∈ events, event.positionId ≠ id := by
        intro event present same
        have known := booked.known event present
        rw [same, unknown] at known
        cases known
      constructor
      · intro row isRow
        rw [Table.rows_of_insert? inserted, List.mem_append, List.mem_singleton] at isRow
        rcases isRow with before | rfl
        · apply (booked.sound row before).append_of_ne
          rintro same
          have here : positions.find? row.positionId = some row := Table.find?_of_mem before
          rw [← same, ofPosition, unknown] at here
          cases here
        · exact soundBooks_opened unnamed ofPosition delta price
      · intro other present
        rcases List.mem_append.mp present with before | new
        · rcases Option.isSome_iff_exists.mp (booked.known other before) with ⟨row, found⟩
          rw [Table.find?_of_insert?_of_some inserted found]
          rfl
        · obtain rfl : other = event := by simpa using new
          have opened := Table.find?_of_insert?_self inserted
          rw [ofPosition]
          exact Option.isSome_of_eq_some opened
  | increases position buys found ofPosition delta price realized =>
      apply booked.update found
      · rintro event ⟨⟩
        exact ofPosition
      · exact (booked.sound position (Table.mem_of_find? found)).increased ofPosition delta price
  | misses sells missing =>
      rw [Option.toList_none, List.append_nil]
      exact booked
  | mismatches position sells sold exceeds =>
      rw [Option.toList_none, List.append_nil]
      apply booked.mark (find?_of_positionOfSell sold)
      intro sound
      exact sound.of_same rfl rfl rfl rfl rfl rfl (by simp [mismatchedPosition])
  | reduces position sells sold fits ofPosition delta price realized average execution =>
      have found := find?_of_positionOfSell sold
      apply booked.update found
      · rintro event ⟨⟩
        exact ofPosition
      · exact (booked.sound position (Table.mem_of_find? found)).reduced fits ofPosition delta
          price average

theorem Booked.of_same {after : Table LiveSimPosition} (booked : Booked settings positions events)
    (same : after = positions) :
    Booked settings after events := by
  rw [same]
  exact booked

def BooksAreSound (settings : LiveSimSettings) (booked : BookedStore) : Prop :=
  Booked settings booked.store.live.positions booked.events

/-- The step lemma: every step keeps the books. -/
theorem BooksAreSound.step {host : LiveSimHost} {booked : BookedStore} {op : TradingOp}
    (law : BooksAreSound settings booked) :
    BooksAreSound settings ((bookedSystem host settings).next booked op) := by
  rw [BooksAreSound, next_bookedSystem]
  rw [BooksAreSound] at law
  cases op with
  | deliver delivery =>
      dsimp only [tradingStep, bookedBy]
      have books := booksDelivery host.toHost settings booked.store.live delivery
      generalize (tablesAfterEvent host.toHost settings booked.store.live delivery.event
        delivery.ids delivery.now).positions = after at books ⊢
      generalize positionEventOf host.toHost settings booked.store.live delivery = added
        at books ⊢
      cases books with
      | nothing unsold =>
          rw [Option.toList_none, List.append_nil]
          exact law
      | fill order report reported recordable books => exact law.fill books
  | signal positionId trigger exitSignalId createdAt =>
      dsimp only [tradingStep, bookedBy]
      rcases signalled_frame booked.store.live positionId trigger exitSignalId createdAt
        with ⟨exitSignals, same⟩
      rw [same, List.append_nil]
      exact law
  | createExit positionId exitSignalId exitIntentId =>
      dsimp only [tradingStep, bookedBy, tablesAfterCreateExit]
      rw [List.append_nil]
      split
      · next after success =>
          rcases createsExit success with ⟨position, signal, _, creates⟩
          exact law.of_same creates.positions
      · exact law
  | queueExit exitIntentId readings =>
      dsimp only [tradingStep, bookedBy]
      rw [List.append_nil]
      have effect := exitQueueEffect host settings booked.store exitIntentId readings
      generalize (queueLiveSimExitOrderCommand host settings booked.store exitIntentId
        readings).1.live = after at effect ⊢
      cases effect with
      | nothing => exact law
      | rejects intent found => exact law.of_same rfl
      | queues intent position found held allowed written =>
          have isPosition : position.positionId = intent.positionId := Table.key_of_find? held
          rw [← isPosition] at held
          rw [(writesExit written).positions]
          apply law.mark held
          intro sound
          exact sound.of_same rfl rfl rfl rfl rfl rfl (by simp [closingPosition])

theorem saleKeepsAverage (settings : LiveSimSettings) (booked : BookedStore)
    (op : TradingOp) : SaleKeepsAverage host settings booked op := by
  intro event isBooked sold
  cases op with
  | signal | createExit | queueExit => cases isBooked
  | deliver delivery =>
      dsimp only [tradingStep, bookedBy] at isBooked ⊢
      rw [Option.mem_toList] at isBooked
      have books := booksDelivery host.toHost settings booked.store.live delivery
      rw [isBooked] at books
      generalize (tablesAfterEvent host.toHost settings booked.store.live delivery.event
        delivery.ids delivery.now).positions = after at books ⊢
      cases books with
      | fill order report reported recordable books =>
          have positive := report.positive
          rw [PositionEvent.isSale, decide_eq_true_eq] at sold
          cases books with
          | opens id buys inserted ofPosition delta price realized => omega
          | increases position buys found ofPosition delta price realized => omega
          | reduces position sells sold fits ofPosition delta price realized average execution =>
              have found := find?_of_positionOfSell sold
              rw [ofPosition]
              exact ⟨position, found, _, Table.find?_update_self found, rfl⟩

/-- From a store without positions every run keeps the books of all positions. -/
theorem position_books_kept (settings : LiveSimSettings)
    (store : LiveSimStore) (start : store.live.positions = .empty) (ops : List TradingOp) :
    (bookedSystem host settings).Throughout
        (fun booked => ∀ position ∈ booked.store.live.positions.rows,
          KeepsBooks settings booked.events position) ⟨store, []⟩ ops ∧
      (bookedSystem host settings).Along (SaleKeepsAverage host settings) ⟨store, []⟩ ops := by
  have opening : BooksAreSound settings ⟨store, []⟩ := by
    rw [BooksAreSound, start]
    exact ⟨by simp, by simp⟩
  constructor
  · rintro before after _ position isPosition
    have preserved : ∀ booked op, BooksAreSound settings booked →
        BooksAreSound settings ((bookedSystem host settings).next booked op) :=
      fun _ _ law => law.step
    have law := System.run_invariant (BooksAreSound settings) preserved opening before
    exact (law.sound position isPosition).books
  · have always : ∀ booked op, True → SaleKeepsAverage host settings booked op :=
      fun booked op _ => saleKeepsAverage host settings booked op
    exact System.along_of_invariant (fun _ _ _ => trivial) always trivial ops

theorem sale_books_kept :
    twoBuyOrders.live.positions = .empty ∧
      (bookedSystem sampleLiveSimHost sampleLiveSimSettings).Throughout
        (fun booked => ∀ position ∈ booked.store.live.positions.rows,
          KeepsBooks sampleLiveSimSettings booked.events position)
        ⟨twoBuyOrders, []⟩ soldAfterClosing ∧
      (bookedSystem sampleLiveSimHost sampleLiveSimSettings).Along
        (SaleKeepsAverage sampleLiveSimHost sampleLiveSimSettings)
        ⟨twoBuyOrders, []⟩ soldAfterClosing :=
  ⟨rfl, position_books_kept sampleLiveSimHost sampleLiveSimSettings twoBuyOrders rfl
    soldAfterClosing⟩

end SuseokTrader
