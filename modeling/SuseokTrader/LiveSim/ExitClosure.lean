import SuseokTrader.LiveSim.Positions

/-!
# Closing an exit

A fill of a SELL order closes the exit that the order was queued for unless the
result of the fill says that some of the position is left. A result without
that field counts as nothing left, and a fill that meets no position or too few
shares has such a result.
-/

namespace SuseokTrader

/-! ## The law -/

/-- The exit of the order is closed: its intent, its signal or the order itself says so. -/
inductive ExitClosed (tables after : LiveSimTables) (order : LiveSimOrder) : Prop
  | intent (intent row : ExitIntent)
      (exit : tables.exitIntentByOrderId order.liveSimOrderId = some intent)
      (found : after.exitIntents.find? intent.exitIntentId = some row)
      (closed : row.status = .closed)
  | signal (intent : ExitIntent) (row : ExitSignal)
      (exit : tables.exitIntentByOrderId order.liveSimOrderId = some intent)
      (found : after.exitSignals.find? intent.exitSignalId = some row)
      (closed : row.status = .closed)
  | order (row : LiveSimOrder) (found : after.orders.find? order.liveSimOrderId = some row)
      (filled : row.status = .exitFilled)

def MeetsShares (positions : Table LiveSimPosition) (order : LiveSimOrder)
    (report : ExecutionReport) : Prop :=
  ∃ position ∈ positionOfSell positions order report.positionId,
    report.quantity ≤ position.availableQuantity

instance (positions : Table LiveSimPosition) (order : LiveSimOrder) (report : ExecutionReport) :
    Decidable (MeetsShares positions order report) :=
  inferInstanceAs (Decidable (∃ position ∈ positionOfSell positions order report.positionId, _))

def EmptiesPosition (tables after : LiveSimTables) (order : LiveSimOrder)
    (report : ExecutionReport) : Prop :=
  ∃ position ∈ positionOfSell tables.positions order report.positionId,
    report.quantity ≤ position.availableQuantity ∧
      ∃ left ∈ after.positions.find? position.positionId, left.quantity = 0

/-- A SELL fill closes an exit only if it empties the position it was applied to. -/
def ClosesEmptied (host : Host) (settings : LiveSimSettings) (tables after : LiveSimTables)
    (event : GatewayEvent) : Prop :=
  ∀ fill ∈ fillOf host settings tables event, fill.1.side = .sell →
    ExitClosed tables after fill.1 → EmptiesPosition tables after fill.1 fill.2

/-- A SELL fill of a queued exit meets a position with enough shares. -/
def ExitMeetsShares (host : Host) (settings : LiveSimSettings) (tables : LiveSimTables)
    (event : GatewayEvent) : Prop :=
  ∀ fill ∈ fillOf host settings tables event, fill.1.side = .sell →
    (tables.exitIntentByOrderId fill.1.liveSimOrderId).isSome →
      MeetsShares tables.positions fill.1 fill.2

instance (host : Host) (settings : LiveSimSettings) (tables : LiveSimTables)
    (event : GatewayEvent) : Decidable (ExitMeetsShares host settings tables event) :=
  inferInstanceAs (Decidable (∀ fill ∈ fillOf host settings tables event, _ → _ → _))

/-! ## What a fill closes -/

variable {host : Host} {settings : LiveSimSettings} {tables after : LiveSimTables}
  {order : LiveSimOrder} {report : ExecutionReport}

theorem changed_of_find?_update {Row Key : Type} [DecidableEq Key] [Keyed Row Key]
    {table : Table Row} {key : Key} {row : Row} {change : Row → Row}
    {keeps : ∀ row, Keyed.key (change row) = Keyed.key row}
    (found : (table.update key change keeps).find? key = some row) :
    ∃ before, row = change before := by
  cases isBefore : table.find? key with
  | none =>
      rw [Table.find?_update_of_none isBefore, isBefore] at found
      cases found
  | some before =>
      rw [Table.find?_update_self isBefore, Option.some.injEq] at found
      exact ⟨before, found.symm⟩

variable {event : GatewayEvent} {ids : FreshIds} {now : Instant} {reply : LifecycleReply}

theorem handle_of_fill (reported : fillOf host settings tables event = some (order, report)) :
    tables.orders.find? order.liveSimOrderId = some order ∧
      handleLiveSimGatewayEvent host settings tables event ids now =
        applyExecution settings tables order report ids (datetimeToWire now) := by
  rw [fillOf] at reported
  rw [handleLiveSimGatewayEvent]
  cases kind : liveSimEventOf event.eventType with
  | command | lifecycle | other =>
      rw [kind] at reported
      cases reported
  | execution =>
      simp only [kind] at reported ⊢
      have fresh := fresh_of_fill reported
      rw [fresh]
      exact ⟨present_of_fresh fresh, rfl⟩
  | chejan =>
      simp only [kind] at reported ⊢
      have fresh := fresh_of_fill reported
      rw [fresh]
      exact ⟨present_of_fresh_chejan fresh, rfl⟩

theorem appliesFill_of_handled
    (reported : fillOf host settings tables event = some (order, report))
    (success : handleLiveSimGatewayEvent host settings tables event ids now = .ok (after, reply)) :
    AppliesFill settings tables after order report ids (datetimeToWire now) := by
  rcases handle_of_fill reported with ⟨present, applies⟩
  rw [applies] at success
  exact appliesFill present success

theorem endsExit_of_exitClosed {now : String} (sells : order.side = .sell)
    (applies : AppliesFill settings tables after order report ids now)
    (closed : ExitClosed tables after order) :
    (tables.exitIntentByOrderId order.liveSimOrderId).isSome ∧
      closesPosition tables.positions order report = true := by
  have intents := applies.exitIntents
  have signals := applies.exitSignals
  rw [exitMark, if_pos sells] at intents signals
  cases closed with
  | intent intent row exit found closed =>
      refine ⟨by rw [exit]; rfl, ?_⟩
      rw [intents, exit] at found
      rcases changed_of_find?_update found with ⟨before, rfl⟩
      by_contra keeps
      rw [if_neg keeps] at closed
      cases closed
  | signal intent row exit found closed =>
      refine ⟨by rw [exit]; rfl, ?_⟩
      rw [signals, exit] at found
      rcases changed_of_find?_update found with ⟨before, rfl⟩
      by_contra keeps
      rw [if_neg keeps] at closed
      cases closed
  | order row found filled =>
      rw [applies.written, Option.some.injEq] at found
      subst found
      have status : statusAfterFill tables order report = .exitFilled := filled
      rw [statusAfterFill] at status
      split at status
      · next ends =>
          simp only [endsExit, Bool.and_eq_true] at ends
          exact ⟨ends.1.2, ends.2⟩
      · rw [statusOfRemaining] at status
        split at status <;> cases status

theorem exitClosed_of_endsExit {now : String}
    (applies : AppliesFill settings tables after order report ids now)
    (ends : endsExit tables order report = true) : ExitClosed tables after order := by
  refine .order _ applies.written ?_
  change statusAfterFill tables order report = .exitFilled
  rw [statusAfterFill, if_pos ends]

theorem find?_of_fitting {now : String} {position : LiveSimPosition} (sells : order.side = .sell)
    (applies : AppliesFill settings tables after order report ids now)
    (found : positionOfSell tables.positions order report.positionId = some position)
    (fits : report.quantity ≤ position.availableQuantity) :
    after.positions.find? position.positionId =
      some (reducedPosition settings report.quantity report.price report.executedAtText
        position) := by
  have moves := applies.position
  generalize after.positions = positions at moves ⊢
  cases moves with
  | opens buys | increases _ buys =>
      rw [sells] at buys
      cases buys
  | misses _ missing =>
      rw [found] at missing
      cases missing
  | mismatches other _ isOther exceeds =>
      rw [found] at isOther
      cases isOther
      omega
  | reduces other _ isOther _ =>
      rw [found] at isOther
      cases isOther
      exact Table.find?_update_self (Table.find?_of_mem (mem_of_positionOfSell found))

theorem closesPosition_of_fitting {position : LiveSimPosition}
    (found : positionOfSell tables.positions order report.positionId = some position)
    (fits : report.quantity ≤ position.availableQuantity)
    (closes : closesPosition tables.positions order report = true) :
    position.quantity = report.quantity := by
  rw [closesPosition, found] at closes
  simp only [Bool.or_eq_true, decide_eq_true_eq] at closes
  omega

theorem closesPosition_of_not_meetsShares
    (short : ¬ MeetsShares tables.positions order report) :
    closesPosition tables.positions order report = true := by
  rw [closesPosition]
  split
  · rfl
  · next position found =>
      have exceeds : ¬ report.quantity ≤ position.availableQuantity :=
        fun fits => short ⟨position, found, fits⟩
      simp only [Bool.or_eq_true, decide_eq_true_eq]
      omega

theorem exitMeetsShares_of_closesEmptied
    (success : handleLiveSimGatewayEvent host settings tables event ids now = .ok (after, reply))
    (sound : ClosesEmptied host settings tables after event) :
    ExitMeetsShares host settings tables event := by
  rintro ⟨order, report⟩ reported sells queued
  have applies := appliesFill_of_handled reported success
  by_contra short
  have ends : endsExit tables order report = true := by
    rw [endsExit, closesPosition_of_not_meetsShares short]
    simpa using ⟨sells, queued⟩
  rcases sound (order, report) reported sells (exitClosed_of_endsExit applies ends)
    with ⟨position, found, fits, _⟩
  exact short ⟨position, found, fits⟩

theorem closesEmptied_of_exitMeetsShares
    (success : handleLiveSimGatewayEvent host settings tables event ids now = .ok (after, reply))
    (meets : ExitMeetsShares host settings tables event) :
    ClosesEmptied host settings tables after event := by
  rintro ⟨order, report⟩ reported sells closed
  have applies := appliesFill_of_handled reported success
  rcases endsExit_of_exitClosed sells applies closed with ⟨queued, closes⟩
  rcases meets (order, report) reported sells queued with ⟨position, found, fits⟩
  have emptied : position.quantity = report.quantity :=
    closesPosition_of_fitting found fits closes
  refine ⟨position, found, fits, _, find?_of_fitting sells applies found fits, ?_⟩
  simp only [reducedPosition]
  omega

/-- An exit is closed on an emptied position exactly if its fill meets enough shares. -/
theorem exit_closes_emptied_iff (host : Host) (settings : LiveSimSettings)
    (tables after : LiveSimTables) (event : GatewayEvent) (ids : FreshIds) (now : Instant)
    (reply : LifecycleReply)
    (success : handleLiveSimGatewayEvent host settings tables event ids now =
      .ok (after, reply)) :
    ClosesEmptied host settings tables after event ↔
      ExitMeetsShares host settings tables event :=
  ⟨exitMeetsShares_of_closesEmptied success, closesEmptied_of_exitMeetsShares success⟩

/-! ## A sale of more than there is -/

def exitQueued : LiveSimStore :=
  (tradingSystem sampleLiveSimHost sampleLiveSimSettings).run twoBuyOrders
    (buyFill "1001" "e1" 10 "1" :: exitSteps "signal-1" "exit-1" "command-3")

/-- A fill of the SELL order of the exit. -/
def exitFill (quantity : Int) : GatewayEvent :=
  { commandEventOf "event-2" "execution_event" (fillPayload "" "e2" "SELL" quantity .null)
      stripped_secondExecution with
    commandId := some "command-3", commandId_stripped := strippedOption_thirdCommand }

def handledExitFill (quantity : Int) : Checked (LiveSimTables × LifecycleReply) :=
  handleLiveSimGatewayEvent sampleHost sampleLiveSimSettings exitQueued.live (exitFill quantity)
    ⟨"execution-2", "position-2"⟩ 63900000004000000

def leftBy (handled : Checked (LiveSimTables × LifecycleReply)) :
    Option (List ExitIntentStatus × List Int) :=
  handled.toOption.map fun (after, _) =>
    (after.exitIntents.rows.map ExitIntent.status,
      after.positions.rows.map LiveSimPosition.quantity)

theorem isOk_of_leftBy {handled : Checked (LiveSimTables × LifecycleReply)}
    {statuses : List ExitIntentStatus} {quantities : List Int}
    (left : leftBy handled = some (statuses, quantities)) :
    ∃ after reply, handled = .ok (after, reply) ∧
      after.exitIntents.rows.map ExitIntent.status = statuses ∧
      after.positions.rows.map LiveSimPosition.quantity = quantities := by
  cases handled with
  | error failure => cases left
  | ok handled =>
      rcases handled with ⟨after, reply⟩
      cases left
      exact ⟨after, reply, rfl, rfl, rfl⟩

theorem leftBy_exitFill_ten : leftBy (handledExitFill 10) = some ([.closed], [0]) := by
  decide +kernel

theorem leftBy_exitFill_eleven : leftBy (handledExitFill 11) = some ([.closed], [10]) := by
  decide +kernel

/-- Eleven shares are sold of ten: the exit is closed and the position keeps its ten. -/
theorem oversized_sale_closes_exit :
    ∃ after reply, handledExitFill 11 = .ok (after, reply) ∧
      after.exitIntents.rows.map ExitIntent.status = [.closed] ∧
      after.positions.rows.map LiveSimPosition.quantity = [10] ∧
      ¬ ClosesEmptied sampleHost sampleLiveSimSettings exitQueued.live after (exitFill 11) := by
  rcases isOk_of_leftBy leftBy_exitFill_eleven with ⟨after, reply, success, closed, held⟩
  refine ⟨after, reply, success, closed, held, ?_⟩
  intro sound
  have exceeds : ¬ ExitMeetsShares sampleHost sampleLiveSimSettings exitQueued.live
      (exitFill 11) := by
    decide +kernel
  exact exceeds (exitMeetsShares_of_closesEmptied success sound)

theorem sale_closes_exit :
    ∃ after reply, handledExitFill 10 = .ok (after, reply) ∧
      (ClosesEmptied sampleHost sampleLiveSimSettings exitQueued.live after (exitFill 10) ↔
        ExitMeetsShares sampleHost sampleLiveSimSettings exitQueued.live (exitFill 10)) := by
  rcases isOk_of_leftBy leftBy_exitFill_ten with ⟨after, reply, success, _⟩
  exact ⟨after, reply, success, exit_closes_emptied_iff sampleHost sampleLiveSimSettings
    exitQueued.live after (exitFill 10) ⟨"execution-2", "position-2"⟩ 63900000004000000 reply
    success⟩

end SuseokTrader
