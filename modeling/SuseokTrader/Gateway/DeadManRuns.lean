import SuseokTrader.Gateway.DeadManCancel

/-!
# Runs of the cancels without the core

A cancel asks for all shares of the order, so it asks for what is not filled
only while nothing is. An order whose cancel was refused is never tried again.
Where neither comes up, every open purchase is sent its cancel, once, and waits
no longer than the other orders take up the rounds.
-/

namespace SuseokTrader

/-! ## One round -/

section Round

variable {tag : String → String} {answers : String → CancelAnswer} {allowed : Nat}
  {orders : List (String × PendingOrderRecord)} {cancelled : List String}

theorem of_mem_cancelRound {attempt : CancelAttempt}
    (sent : attempt ∈ cancelRound tag answers allowed orders cancelled) :
    ∃ orderNo record, (orderNo, record) ∈ orders ∧ orderNo ∉ cancelled ∧
      attempt = ⟨deadManCancelRequest (tag orderNo) orderNo record, answers orderNo⟩ := by
  induction orders generalizing allowed cancelled with
  | nil => cases allowed <;> simp [cancelRound] at sent
  | cons order orders ih =>
      rcases order with ⟨orderNo, record⟩
      cases allowed with
      | zero => simp [cancelRound] at sent
      | succ allowed =>
          rw [cancelRound] at sent
          dsimp only at sent
          split_ifs at sent with known answered
          · rcases ih sent with ⟨other, rest, listed, new, isCancel⟩
            exact ⟨other, rest, List.mem_cons_of_mem _ listed, new, isCancel⟩
          · rcases List.mem_cons.mp sent with rfl | later
            · exact ⟨orderNo, record, List.mem_cons_self, known, rfl⟩
            · rcases ih later with ⟨other, rest, listed, new, isCancel⟩
              exact ⟨other, rest, List.mem_cons_of_mem _ listed,
                fun old => new (List.mem_cons_of_mem _ old), isCancel⟩
          · rcases List.mem_cons.mp sent with rfl | later
            · exact ⟨orderNo, record, List.mem_cons_self, known, rfl⟩
            · rcases ih later with ⟨other, rest, listed, new, isCancel⟩
              exact ⟨other, rest, List.mem_cons_of_mem _ listed, new, isCancel⟩

theorem tried_in_cancelRound {orderNo : String} {record : PendingOrderRecord}
    (listed : (orderNo, record) ∈ orders) (new : orderNo ∉ cancelled) :
    (∃ attempt ∈ cancelRound tag answers allowed orders cancelled, attempt.orderNo = orderNo) ∨
      allowed ≤ ((cancelRound tag answers allowed orders cancelled).filter
        CancelAttempt.isAnswered).length := by
  induction orders generalizing allowed cancelled with
  | nil => simp at listed
  | cons order orders ih =>
      rcases order with ⟨first, firstRecord⟩
      cases allowed with
      | zero => exact Or.inr (Nat.zero_le _)
      | succ allowed =>
          rw [cancelRound]
          dsimp only
          by_cases same : orderNo = first
          · subst same
            left
            split_ifs
            · exact ⟨_, List.mem_cons_self, rfl⟩
            · exact ⟨_, List.mem_cons_self, rfl⟩
          have later : (orderNo, record) ∈ orders := by
            simpa [same] using listed
          split_ifs with known answered
          · exact ih later new
          · have stillNew : orderNo ∉ first :: cancelled := by simp [same, new]
            rcases ih later stillNew with ⟨attempt, sent, isIts⟩ | full
            · exact Or.inl ⟨attempt, List.mem_cons_of_mem _ sent, isIts⟩
            · rw [List.filter_cons_of_pos answered, List.length_cons]
              omega
          · rcases ih later new with ⟨attempt, sent, isIts⟩ | full
            · exact Or.inl ⟨attempt, List.mem_cons_of_mem _ sent, isIts⟩
            · right
              rw [List.filter_cons_of_neg answered]
              exact full

theorem nodup_cancelRound (nodup : cancelled.Nodup) :
    (cancelled ++ ((cancelRound tag answers allowed orders cancelled).filter
      CancelAttempt.isAnswered).map CancelAttempt.orderNo).Nodup := by
  induction orders generalizing allowed cancelled with
  | nil => cases allowed <;> simpa [cancelRound] using nodup
  | cons order orders ih =>
      rcases order with ⟨orderNo, record⟩
      cases allowed with
      | zero => simpa [cancelRound] using nodup
      | succ allowed =>
          rw [cancelRound]
          dsimp only
          split_ifs with known answered
          · exact ih nodup
          · rw [List.filter_cons_of_pos answered]
            exact List.perm_middle.nodup_iff.mpr (ih (List.nodup_cons.mpr ⟨known, nodup⟩))
          · rw [List.filter_cons_of_neg answered]
            exact ih nodup

end Round

/-! ## What is promised -/

def DeadManOp.acts (settings : DeadManSettings) : DeadManOp → Bool
  | .round readings _ _ => settings.acts readings
  | _ => false

variable (settings : DeadManSettings)

def DeadManSettings.maxOrders : Nat :=
  settings.deadManCancelMaxOrders.toNat

def DeadManState.Tracks (state : DeadManState) (orderNo : String) (record : PendingOrderRecord) :
    Prop :=
  state.pendingOrders.byBrokerOrderNo orderNo = some record ∧ isBuyOrder record = true

/-- Every cancel is for what is not filled and no order gets one after an accepted one; an order
without one is tried, unless the others take up the round. -/
structure CancelsOpenOrders (settings : DeadManSettings) (state : DeadManState)
    (attempts : List CancelAttempt) : Prop where
  unfilled : ∀ attempt ∈ attempts, ∃ record, state.Tracks attempt.orderNo record ∧
    attempt.request.quantity = state.unfilled attempt.orderNo record
  once : ∀ attempt ∈ attempts, attempt.orderNo ∉ state.accepted
  tried : ∀ orderNo record, state.Tracks orderNo record → orderNo ∉ state.accepted →
    (∃ attempt ∈ attempts, attempt.orderNo = orderNo) ∨
      settings.maxOrders ≤ (attempts.filter CancelAttempt.isAnswered).length

def Waits (orderNo : String) (state : DeadManState) (op : DeadManOp) :
    Prop :=
  (∃ record, state.Tracks orderNo record) ∧ orderNo ∉ state.accepted ∧
    ∀ attempt ∈ op.attempts settings state, attempt.orderNo ≠ orderNo

/-- Every round does what is promised, and an order waits only through as many rounds as all the
orders that were heard of can take up. -/
structure DeadManCovers (host : Host) (settings : DeadManSettings) (ops : List DeadManOp) :
    Prop where
  rounds : (deadManGateway host settings).Along
    (fun state op => op.acts settings = true →
      CancelsOpenOrders settings state (op.attempts settings state)) .empty ops
  waiting : ∀ before during orderNo, before ++ during = ops →
    (deadManGateway host settings).Along (Waits settings orderNo)
      ((deadManGateway host settings).run .empty before) during →
    (during.countP (·.acts settings)) * settings.maxOrders ≤
      ((deadManGateway host settings).run .empty ops).heard.dedup.length

/-- Before a round, the purchases that were not sent a cancel are simulated and of no less than
one share, and nothing of them is filled; and the broker refuses none of their cancels. -/
def Coverable (state : DeadManState) : DeadManOp → Prop
  | .round readings _ answers => settings.acts readings = true →
      ∀ orderNo record, state.Tracks orderNo record → orderNo ∉ state.cancelledOrderNos →
        record.isSimulated = true ∧ 1 ≤ record.quantity ∧
          state.unfilled orderNo record = record.quantity ∧ answers orderNo ≠ .result false
  | _ => True

/-! ## The rounds of a run -/

theorem mem_cancelableBuyOrders {state : DeadManState} {orderNo : String}
    {record : PendingOrderRecord} :
    (orderNo, record) ∈ state.cancelableBuyOrders ↔
      state.Tracks orderNo record ∧ record.isSimulated = true := by
  simp only [DeadManState.cancelableBuyOrders, DeadManState.numberedOrders, List.mem_filter,
    List.mem_filterMap, Option.map_eq_some_iff, Bool.and_eq_true, decide_eq_true_eq,
    List.mem_insertionSort, List.mem_dedup, Prod.mk.injEq]
  constructor
  · rintro ⟨⟨number, -, other, known, rfl, rfl⟩, ⟨-, isBuy⟩, isSimulated⟩
    exact ⟨⟨known, isBuy⟩, isSimulated⟩
  · rintro ⟨⟨known, isBuy⟩, isSimulated⟩
    have listed := state.listed orderNo record known
    exact ⟨⟨orderNo, listed.2, record, known, rfl, rfl⟩, ⟨listed.1, isBuy⟩, isSimulated⟩

structure DeadManInvariant (state : DeadManState) : Prop where
  accepted : state.accepted = state.cancelledOrderNos
  nodup : state.cancelledOrderNos.Nodup
  heard : ∀ orderNo ∈ state.cancelledOrderNos, orderNo ∈ state.heard

theorem deadManInvariant_empty : DeadManInvariant .empty where
  accepted := rfl
  nodup := List.nodup_nil
  heard _ absent := absurd absent List.not_mem_nil

section Steps

variable {host : Host} {settings : DeadManSettings} {state : DeadManState}
  {readings : DeadManReadings} {tag : String → String} {answers : String → CancelAnswer}

theorem of_mem_attempts {attempt : CancelAttempt}
    (sent : attempt ∈ state.attempts settings readings tag answers) :
    settings.acts readings = true ∧ attempt.orderNo ∉ state.cancelledOrderNos ∧
      ∃ record, state.Tracks attempt.orderNo record ∧
        attempt.request.quantity = max record.quantity 1 ∧
        attempt.answer = answers attempt.orderNo := by
  rw [DeadManState.attempts] at sent
  split_ifs at sent with acts
  · rcases of_mem_cancelRound sent with ⟨orderNo, record, listed, new, rfl⟩
    exact ⟨acts, new, record, (mem_cancelableBuyOrders.mp listed).1, rfl, rfl⟩
  · simp at sent

variable {op : DeadManOp} {orderNo : String}

theorem cancelsOpenOrders_of_coverable (holds : DeadManInvariant state)
    (coverable : Coverable settings state op) (acts : op.acts settings = true) :
    CancelsOpenOrders settings state (op.attempts settings state) := by
  cases op with
  | ack command request orderNo => cases acts
  | callback callback => cases acts
  | round readings tag answers =>
      refine ⟨?_, ?_, ?_⟩
      · intro attempt sent
        rcases of_mem_attempts sent with ⟨_, new, record, tracks, quantity, _⟩
        rcases coverable acts _ record tracks new with ⟨_, positive, unfilled, _⟩
        refine ⟨record, tracks, ?_⟩
        rw [quantity, unfilled]
        exact max_eq_left positive
      · intro attempt sent
        rw [holds.accepted]
        exact (of_mem_attempts sent).2.1
      · intro orderNo record tracks new
        rw [holds.accepted] at new
        have isSimulated := (coverable acts orderNo record tracks new).1
        have listed := mem_cancelableBuyOrders.mpr ⟨tracks, isSimulated⟩
        have round : (DeadManOp.round readings tag answers).attempts settings state =
            cancelRound tag answers settings.maxOrders state.cancelableBuyOrders
              state.cancelledOrderNos := if_pos acts
        rw [round]
        exact tried_in_cancelRound listed new

theorem isAccepted_eq_isAnswered
    (coverable : Coverable settings state (.round readings tag answers)) :
    (state.attempts settings readings tag answers).filter CancelAttempt.isAccepted =
      (state.attempts settings readings tag answers).filter CancelAttempt.isAnswered := by
  apply List.filter_congr
  intro attempt sent
  rcases of_mem_attempts sent with ⟨acts, new, record, tracks, _, answer⟩
  have unrefused := (coverable acts _ record tracks new).2.2.2
  rw [← answer] at unrefused
  rw [CancelAttempt.isAccepted, CancelAttempt.isAnswered]
  cases given : attempt.answer with
  | raised => rfl
  | result ok =>
      cases ok with
      | true => rfl
      | false => exact absurd given unrefused

theorem nodup_afterRound (nodup : state.cancelledOrderNos.Nodup) :
    (state.cancelledOrderNos ++ ((state.attempts settings readings tag answers).filter
      CancelAttempt.isAnswered).map CancelAttempt.orderNo).Nodup := by
  rw [DeadManState.attempts]
  split_ifs
  · exact nodup_cancelRound nodup
  · simpa using nodup

theorem DeadManInvariant.withOrders (holds : DeadManInvariant state)
    {after : PendingOrderRegistry}
    (adds : ∀ number record, after.byBrokerOrderNo number = some record →
      (number ≠ "" ∧ number = orderNo) ∨ state.pendingOrders.byBrokerOrderNo number ≠ none) :
    DeadManInvariant (state.withOrders after orderNo adds) where
  accepted := holds.accepted
  nodup := holds.nodup
  heard number sent := List.mem_cons_of_mem _ (holds.heard number sent)

theorem DeadManInvariant.withRecorded (holds : DeadManInvariant state)
    {recorded : Checked PendingOrderRegistry}
    (adds : ∀ after, recorded = .ok after → ∀ number record,
      after.byBrokerOrderNo number = some record →
        (number ≠ "" ∧ number = orderNo) ∨ state.pendingOrders.byBrokerOrderNo number ≠ none) :
    DeadManInvariant (state.withRecorded orderNo recorded adds) := by
  cases recorded with
  | ok after => exact holds.withOrders (adds after rfl)
  | error failure => exact holds

theorem DeadManInvariant.told (holds : DeadManInvariant state) (orderNo : String)
    (remaining : Int) : DeadManInvariant (state.told orderNo remaining) :=
  ⟨holds.accepted, holds.nodup, holds.heard⟩

theorem DeadManInvariant.afterRound (holds : DeadManInvariant state)
    (coverable : Coverable settings state (.round readings tag answers)) :
    DeadManInvariant (state.afterRound (state.attempts settings readings tag answers)) := by
  refine ⟨?_, nodup_afterRound holds.nodup, ?_⟩
  · simp only [DeadManState.afterRound, holds.accepted, isAccepted_eq_isAnswered coverable]
  · intro orderNo sent
    rcases List.mem_append.mp sent with before | now
    · exact holds.heard orderNo before
    · rcases List.mem_map.mp now with ⟨attempt, answered, rfl⟩
      rcases of_mem_attempts (List.mem_of_mem_filter answered) with ⟨_, _, record, tracks, _⟩
      exact (state.listed _ record tracks.1).2

theorem DeadManInvariant.next (holds : DeadManInvariant state)
    (coverable : Coverable settings state op) :
    DeadManInvariant ((deadManGateway host settings).next state op) := by
  cases op with
  | ack command request orderNo =>
      simp only [System.next, deadManGateway]
      exact holds.withRecorded _
  | callback callback =>
      simp only [System.next, deadManGateway, DeadManState.callback]
      split
      · exact (holds.withOrders _).told _ _
      · exact holds
  | round readings tag answers => exact holds.afterRound coverable

@[simp]
theorem cancelledOrderNos_withOrders {after : PendingOrderRegistry}
    {adds : ∀ number record, after.byBrokerOrderNo number = some record →
      (number ≠ "" ∧ number = orderNo) ∨ state.pendingOrders.byBrokerOrderNo number ≠ none} :
    (state.withOrders after orderNo adds).cancelledOrderNos = state.cancelledOrderNos :=
  rfl

@[simp]
theorem cancelledOrderNos_withRecorded {recorded : Checked PendingOrderRegistry}
    {adds : ∀ after, recorded = .ok after → ∀ number record,
      after.byBrokerOrderNo number = some record →
        (number ≠ "" ∧ number = orderNo) ∨ state.pendingOrders.byBrokerOrderNo number ≠ none} :
    (state.withRecorded orderNo recorded adds).cancelledOrderNos = state.cancelledOrderNos := by
  cases recorded <;> rfl

@[simp]
theorem cancelledOrderNos_told {remaining : Int} :
    (state.told orderNo remaining).cancelledOrderNos = state.cancelledOrderNos :=
  rfl

theorem cancelledOrderNos_next :
    ((deadManGateway host settings).next state op).cancelledOrderNos =
      state.cancelledOrderNos ++ ((op.attempts settings state).filter
        CancelAttempt.isAnswered).map CancelAttempt.orderNo := by
  cases op with
  | ack command request orderNo =>
      simp only [System.next, deadManGateway, DeadManState.ack]
      simp [DeadManOp.attempts]
  | callback callback =>
      simp only [System.next, deadManGateway, DeadManState.callback]
      split <;> simp [DeadManState.chejan, DeadManOp.attempts]
  | round readings tag answers => rfl

theorem length_next_of_waits (holds : DeadManInvariant state)
    (coverable : Coverable settings state op) (waits : Waits settings orderNo state op) :
    (if op.acts settings then settings.maxOrders else 0) + state.cancelledOrderNos.length ≤
      ((deadManGateway host settings).next state op).cancelledOrderNos.length := by
  rw [cancelledOrderNos_next, List.length_append, List.length_map]
  split_ifs with acts
  · rcases waits with ⟨⟨record, tracks⟩, unaccepted, untried⟩
    rcases (cancelsOpenOrders_of_coverable holds coverable acts).tried orderNo record tracks
      unaccepted with ⟨attempt, sent, isIts⟩ | full
    · exact absurd isIts (untried attempt sent)
    · omega
  · omega

end Steps

/-! ## Runs -/

section Runs

variable {host : Host} {settings : DeadManSettings} {state : DeadManState}

theorem length_run_of_waits (holds : DeadManInvariant state) {orderNo : String}
    {ops : List DeadManOp}
    (coverable : (deadManGateway host settings).Along (Coverable settings) state ops)
    (waits : (deadManGateway host settings).Along (Waits settings orderNo) state ops) :
    ops.countP (·.acts settings) * settings.maxOrders + state.cancelledOrderNos.length ≤
      ((deadManGateway host settings).run state ops).cancelledOrderNos.length := by
  induction ops generalizing state with
  | nil => simp
  | cons op ops ih =>
      have step := @length_next_of_waits host _ _ _ _ holds coverable.1 waits.1
      have later := ih (holds.next coverable.1) coverable.2 waits.2
      rw [System.run_cons, List.countP_cons]
      split_ifs at step ⊢ with acts
      · rw [Nat.add_mul, Nat.one_mul]
        omega
      · rw [Nat.add_zero]
        omega

/-- While no round finds a purchase that is filled in part or not to be cancelled, and no cancel
is refused, the cancels cover every open purchase. -/
theorem dead_man_cancels_cover {ops : List DeadManOp}
    (coverable : (deadManGateway host settings).Along (Coverable settings) .empty ops) :
    DeadManCovers host settings ops := by
  refine ⟨?_, ?_⟩
  · exact coverable.imp DeadManInvariant (fun _ _ holds covers => holds.next covers)
      (fun _ _ holds covers acts => cancelsOpenOrders_of_coverable holds covers acts)
      deadManInvariant_empty
  · intro before during orderNo isRun waits
    subst isRun
    rw [System.along_append] at coverable
    have holds := System.Along.invariant DeadManInvariant
      (fun _ _ holds covers => holds.next covers) deadManInvariant_empty coverable.1
    have ends := System.Along.invariant DeadManInvariant
      (fun _ _ holds covers => holds.next covers) holds coverable.2
    have sent := length_run_of_waits holds coverable.2 waits
    rw [System.run_append]
    -- the numbers that were sent a cancel are different ones that were heard
    have heard := (List.subperm_of_subset ends.nodup fun number there =>
      List.mem_dedup.mpr (ends.heard number there)).length_le
    omega

end Runs

/-! ## One purchase -/

def deadManPage : DeadManSettings where
  deadManCancelEnabled := true
  coreIoEnabled := true
  commandPollingEnabled := true
  deadManCancelCoreStaleSec := 30
  deadManCancelMaxOrders := 20

def deadManPurchase : DeadManOp :=
  .ack (buyCommand "cmd-1" stripped_firstCommand)
    { buyRequest with metadata := [("live_sim_intent_id", .str "intent-1")] } "1001"

/-- A round that the core has been out of reach for a minute before. -/
def deadManRound (answer : CancelAnswer) : DeadManOp :=
  .round ⟨3, some 0, some 60, 60, "SIMULATION"⟩ (fun _ => "tag-1") fun _ => answer

def deadManRun (ops : List DeadManOp) : DeadManState :=
  (deadManGateway digitHost deadManPage).run .empty ops

theorem deadManPurchase_tracks :
    ((deadManRun [deadManPurchase]).heard, (deadManRun [deadManPurchase]).remaining "1001",
      ((deadManRun [deadManPurchase]).pendingOrders.byBrokerOrderNo "1001").map fun record =>
        (isBuyOrder record, record.isSimulated, record.quantity)) =
      (["1001"], none, some (true, true, 10)) := by
  decide +kernel

theorem dead_man_cancels_cover_purchase :
    DeadManCovers digitHost deadManPage [deadManPurchase, deadManRound (.result true)] := by
  refine dead_man_cancels_cover ⟨trivial, ?_, trivial⟩
  intro _ orderNo record tracks _
  have listed := ((deadManRun [deadManPurchase]).listed orderNo record tracks.1).2
  have facts := deadManPurchase_tracks
  change (deadManRun [deadManPurchase]).Tracks orderNo record at tracks
  change _ ∧ _ ∧ (deadManRun [deadManPurchase]).unfilled orderNo record = _ ∧ _
  generalize deadManRun [deadManPurchase] = state at *
  simp only [Prod.mk.injEq] at facts
  rcases facts with ⟨heard, untold, known⟩
  rw [heard, List.mem_singleton] at listed
  subst listed
  rw [tracks.1, Option.map_some, Option.some.injEq, Prod.mk.injEq, Prod.mk.injEq] at known
  refine ⟨known.2.1, by omega, ?_, by simp⟩
  rw [DeadManState.unfilled, untold]
  rfl

theorem refusal_tracks :
    ((deadManRun [deadManPurchase, deadManRound (.result false)]).accepted,
      ((deadManRound (.result true)).attempts deadManPage
        (deadManRun [deadManPurchase, deadManRound (.result false)])).length,
      ((deadManRun [deadManPurchase, deadManRound (.result false)]).pendingOrders.byBrokerOrderNo
        "1001").map isBuyOrder) = ([], 0, some true) := by
  decide +kernel

/-- The broker refuses the cancel of the only order, which no later round tries again. -/
theorem refused_cancel_is_not_tried_again :
    ¬ DeadManCovers digitHost deadManPage
      [deadManPurchase, deadManRound (.result false), deadManRound (.result true)] := by
  intro covers
  have last := covers.rounds.2.2.1 (by decide +kernel)
  have facts := refusal_tracks
  change CancelsOpenOrders deadManPage (deadManRun [deadManPurchase, deadManRound (.result false)])
    ((deadManRound (.result true)).attempts deadManPage
      (deadManRun [deadManPurchase, deadManRound (.result false)])) at last
  generalize deadManRun [deadManPurchase, deadManRound (.result false)] = state at last facts
  simp only [Prod.mk.injEq, List.length_eq_zero_iff, Option.map_eq_some_iff] at facts
  rcases facts with ⟨unaccepted, unsent, record, known, isBuy⟩
  rw [unsent] at last
  have new : "1001" ∉ state.accepted := by simp [unaccepted]
  rcases last.tried "1001" record ⟨known, isBuy⟩ new with ⟨attempt, sent, _⟩ | full
  · cases sent
  · cases full

end SuseokTrader
