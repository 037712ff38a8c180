import SuseokTrader.Gateway.Lifecycle

/-!
# Status and boundary are coherent

The status of a command and the state of its boundary are merged by different
rules. `Coherent` is what the two nevertheless say about each other after every
move: the boundary belongs to orders, the broker's word is the same on both
sides, and a status of the broker's side is the state of the boundary.
-/

namespace SuseokTrader

open GatewayCommandStatus

namespace Lifecycle

/-- What the status says about the boundary, and the boundary about the status. -/
structure Coherent (life : Lifecycle) : Prop where
  /-- Only orders have a boundary. -/
  noBoundary : life.order = false → life.boundary = none
  /-- Orders have stages of their own. -/
  orderStatus : life.order = true → life.status ≠ dispatched ∧ life.status ≠ acked
  /-- The status follows the broker's word. -/
  mirrors : ∀ boundary, life.boundary = some boundary →
    OrderBrokerBoundaryState.brokerAccepted ≤ boundary.state →
      life.status = boundary.state.toStatus
  /-- A dispatched order has a boundary. -/
  claimed : life.order = true → life.wasDispatched = true → life.boundary ≠ none
  /-- A status that stands for the broker's side is the state of the boundary. -/
  mirrored : life.order = true →
    life.status ∈ [unconfirmed, brokerAccepted, chejanConfirmed] →
      ∃ boundary, life.boundary = some boundary ∧ boundary.state.toStatus = life.status

theorem coherent_fresh (order : Bool) : (fresh order).Coherent where
  noBoundary := fun _ => rfl
  orderStatus := fun _ => by simp [fresh]
  mirrors := by
    intro boundary absent
    cases absent
  claimed := by
    intro _ dispatched
    cases dispatched
  mirrored := by
    intro _ onBrokerSide
    simp [fresh] at onBrokerSide

theorem toStatus_injective {left right : OrderBrokerBoundaryState}
    (same : left.toStatus = right.toStatus) : left = right := by
  cases left <;> cases right <;> first | rfl | cases same

theorem toStatus_of_accepted {state : OrderBrokerBoundaryState}
    (high : OrderBrokerBoundaryState.brokerAccepted ≤ state) :
    state.toStatus = brokerAccepted ∨ state.toStatus = chejanConfirmed := by
  cases state with
  | brokerAccepted => exact Or.inl rfl
  | chejanConfirmed => exact Or.inr rfl
  | claimed | gatewayStarted | preAckRecorded | unconfirmed => exact absurd high (by decide)

theorem le_state_propose (boundary : Option BoundaryView) (proposed : OrderBrokerBoundaryState)
    (preAck : Bool) : proposed ≤ (BoundaryView.propose boundary proposed preAck).state := by
  cases boundary with
  | none => exact le_rfl
  | some boundary => exact le_max_right _ _

variable {boundary : BoundaryView} {proposed : OrderBrokerBoundaryState} {life : Lifecycle}

theorem state_propose_of_le (preAck : Bool) (lower : proposed ≤ boundary.state) :
    (BoundaryView.propose (some boundary) proposed preAck).state = boundary.state :=
  max_eq_left lower

theorem state_propose_of_ge (preAck : Bool) (higher : boundary.state ≤ proposed) :
    (BoundaryView.propose (some boundary) proposed preAck).state = proposed :=
  max_eq_right higher

theorem coherent_of_mirrored (order : life.order = true) (present : life.boundary = some boundary)
    (same : life.status = boundary.state.toStatus) : life.Coherent where
  noBoundary := by
    intro other
    rw [order] at other
    cases other
  orderStatus := by
    rw [same]
    cases boundary.state <;> simp [OrderBrokerBoundaryState.toStatus]
  mirrors := by
    intro other otherPresent _
    rw [present, Option.some.injEq] at otherPresent
    rw [same, otherPresent]
  claimed := by
    intro _ _ absent
    rw [present] at absent
    cases absent
  mirrored := fun _ _ => ⟨boundary, present, same.symm⟩

theorem Coherent.setStatus (coherent : life.Coherent) {status : GatewayCommandStatus}
    (orders : life.order = true → status ∉ [dispatched, acked, unconfirmed, brokerAccepted,
      chejanConfirmed])
    (below : life.order = true → life.status ≠ brokerAccepted ∧ life.status ≠ chejanConfirmed) :
    Coherent { life with status := status } where
  noBoundary := coherent.noBoundary
  orderStatus := by
    intro order
    have allowed := orders order
    simp only [List.mem_cons, not_or] at allowed
    exact ⟨allowed.1, allowed.2.1⟩
  mirrors := by
    intro boundary present high
    cases order : life.order with
    | false =>
        rw [coherent.noBoundary order] at present
        cases present
    | true =>
        have same := coherent.mirrors boundary present high
        rcases below order with ⟨notAccepted, notConfirmed⟩
        rw [same] at notAccepted notConfirmed
        rcases toStatus_of_accepted high with accepted | confirmed
        · exact absurd accepted notAccepted
        · exact absurd confirmed notConfirmed
  claimed := coherent.claimed
  mirrored := by
    intro order onBrokerSide
    have allowed := orders order
    simp only [List.mem_cons, List.not_mem_nil, or_false, not_or] at allowed onBrokerSide
    rcases onBrokerSide with same | same | same
    · exact absurd same allowed.2.2.1
    · exact absurd same allowed.2.2.2.1
    · exact absurd same allowed.2.2.2.2

theorem orderEvent_mirrors (life : Lifecycle) {kind : EventKind}
    (mirrors : kind ∈ [.started, .preAck true, .preAck false, .ack, .execution, .chejan]) :
    ∃ proposed, kind.proposal = some proposed ∧
      (life.orderEvent kind).boundary =
        some (BoundaryView.propose life.boundary proposed kind.isPreAck) ∧
      (life.orderEvent kind).status =
        (BoundaryView.propose life.boundary proposed kind.isPreAck).state.toStatus := by
  simp only [List.mem_cons, List.not_mem_nil, or_false] at mirrors
  rcases mirrors with rfl | rfl | rfl | rfl | rfl | rfl
  all_goals exact ⟨_, rfl, rfl, rfl⟩

theorem early_of_proposal {kind : EventKind}
    (mirrors : kind ∈ [.started, .preAck true, .preAck false, .ack, .execution, .chejan])
    (proposes : kind.proposal = some proposed)
    (low : ¬ OrderBrokerBoundaryState.brokerAccepted ≤ proposed) :
    (kind = .started ∨ kind = .preAck false) ∧ proposed ≤ .preAckRecorded := by
  simp only [List.mem_cons, List.not_mem_nil, or_false] at mirrors
  rcases mirrors with rfl | rfl | rfl | rfl | rfl | rfl
  all_goals cases proposes
  · exact ⟨Or.inl rfl, by decide⟩
  · exact absurd (by decide) low
  · exact ⟨Or.inr rfl, by decide⟩
  · exact absurd (by decide) low
  · exact absurd (by decide) low
  · exact absurd (by decide) low

theorem kind_cases (kind : EventKind) :
    kind ∈ [.started, .preAck true, .preAck false, .ack, .execution, .chejan] ∨
      kind = .unconfirmed ∨ kind = .failed ∨ kind = .rateLimited ∨ kind = .other := by
  cases kind with
  | preAck accepted => cases accepted <;> simp
  | _ => simp

def Answered (life : Lifecycle) : Prop :=
  ∃ boundary, life.boundary = some boundary ∧
    OrderBrokerBoundaryState.brokerAccepted ≤ boundary.state

theorem state_propose_unconfirmed (unanswered : ¬ life.Answered) :
    (BoundaryView.propose life.boundary .unconfirmed false).state = .unconfirmed := by
  cases present : life.boundary with
  | none => rfl
  | some boundary =>
      apply state_propose_of_ge
      cases state : boundary.state with
      | brokerAccepted => exact absurd ⟨boundary, present, state.ge⟩ unanswered
      | chejanConfirmed =>
          refine absurd ⟨boundary, present, ?_⟩ unanswered
          rw [state]
          decide
      | claimed | gatewayStarted | preAckRecorded | unconfirmed => decide

theorem Coherent.status_of_unanswered (coherent : life.Coherent) (order : life.order = true)
    (unanswered : ¬ life.Answered) :
    life.status ≠ brokerAccepted ∧ life.status ≠ chejanConfirmed := by
  constructor
  · intro same
    rcases coherent.mirrored order (by simp [same]) with ⟨boundary, present, mirrored⟩
    rw [same] at mirrored
    have state : boundary.state = .brokerAccepted := toStatus_injective mirrored
    exact unanswered ⟨boundary, present, by rw [state]⟩
  · intro same
    rcases coherent.mirrored order (by simp [same]) with ⟨boundary, present, mirrored⟩
    rw [same] at mirrored
    have state : boundary.state = .chejanConfirmed := toStatus_injective mirrored
    exact unanswered ⟨boundary, present, by rw [state]; decide⟩

/-- A timeout or a report of the gateway that the broker did not answer. -/
theorem coherent_unconfirmed (coherent : life.Coherent) (order : life.order = true) :
    Coherent { life with
      status := statusAfterUnconfirmed life.status
      boundary := some (BoundaryView.propose life.boundary .unconfirmed false) } := by
  by_cases answered : life.Answered
  · rcases answered with ⟨boundary, present, high⟩
    have same := coherent.mirrors boundary present high
    refine coherent_of_mirrored ?_ rfl ?_
    · exact order
    · have lower : OrderBrokerBoundaryState.unconfirmed ≤ boundary.state :=
        le_trans (by decide) high
      rw [present, state_propose_of_le false lower, same]
      rcases toStatus_of_accepted high with accepted | confirmed
      · rw [accepted]
        rfl
      · rw [confirmed]
        rfl
  · have isUnconfirmed := state_propose_unconfirmed answered
    by_cases settled : life.status ∈ [failed, rejected, expired, cancelled]
    · simp only [List.mem_cons, List.not_mem_nil, or_false] at settled
      have kept : statusAfterUnconfirmed life.status = life.status := by
        rcases settled with same | same | same | same <;> rw [same] <;> rfl
      rw [kept]
      refine ⟨?_, ?_, ?_, ?_, ?_⟩
      · intro other
        exact absurd (order.symm.trans other) (by decide)
      · exact coherent.orderStatus
      · rintro boundary present high
        simp only [Option.some.injEq] at present
        rw [← present, isUnconfirmed] at high
        exact absurd high (by decide)
      · intro _ _ absent
        cases absent
      · intro _ onBrokerSide
        rcases settled with same | same | same | same <;> simp [same] at onBrokerSide
    · have becomes : statusAfterUnconfirmed life.status = unconfirmed := by
        rcases coherent.status_of_unanswered order answered with ⟨notAccepted, notConfirmed⟩
        simp only [statusAfterUnconfirmed]
        rw [if_neg]
        simp only [List.mem_cons, not_or] at settled ⊢
        exact ⟨notConfirmed, notAccepted, settled⟩
      refine coherent_of_mirrored ?_ rfl ?_
      · exact order
      · rw [isUnconfirmed]
        exact becomes

theorem Coherent.unanswered_of_queued (coherent : life.Coherent) (isQueued : life.status = queued) :
    ¬ life.Answered := by
  rintro ⟨boundary, present, high⟩
  have same := coherent.mirrors boundary present high
  rw [isQueued] at same
  rcases toStatus_of_accepted high with accepted | confirmed
  · rw [accepted] at same
    cases same
  · rw [confirmed] at same
    cases same

theorem coherent_claimed (coherent : life.Coherent) (isQueued : life.status = queued)
    (order : life.order = true) :
    Coherent { life with
      status := claimed
      wasDispatched := true
      boundary := some (BoundaryView.propose life.boundary .claimed false) } := by
  refine ⟨?_, ?_, ?_, ?_, ?_⟩
  · intro other
    exact absurd (order.symm.trans other) (by decide)
  · simp
  · rintro boundary present high
    exfalso
    simp only [Option.some.injEq] at present
    cases earlier : life.boundary with
    | none =>
        rw [← present, earlier] at high
        exact absurd high (by decide)
    | some view =>
        rw [← present, earlier,
          state_propose_of_le false (OrderBrokerBoundaryState.claimed_le _)] at high
        exact coherent.unanswered_of_queued isQueued ⟨view, earlier, high⟩
  · intro _ _ absent
    cases absent
  · intro _ onBrokerSide
    simp at onBrokerSide

theorem coherent_other (other : life.order = false) (absent : life.boundary = none) :
    life.Coherent where
  noBoundary := fun _ => absent
  orderStatus := fun order => absurd (order.symm.trans other) (by decide)
  mirrors := by
    intro boundary present
    rw [absent] at present
    cases present
  claimed := fun order => absurd (order.symm.trans other) (by decide)
  mirrored := fun order => absurd (order.symm.trans other) (by decide)

theorem orderEvent_failed (life : Lifecycle) :
    life.orderEvent .failed = { life with status := statusAfterFailed life.status } :=
  rfl

theorem orderEvent_rateLimited (life : Lifecycle) :
    life.orderEvent .rateLimited =
      { life with status := if KeepsOnRateLimit life.status then life.status else queued } :=
  rfl

theorem Coherent.orderEvent (coherent : life.Coherent) (order : life.order = true)
    (kind : EventKind) : (life.orderEvent kind).Coherent := by
  rcases kind_cases kind with mirrors | rfl | rfl | rfl | rfl
  · rcases orderEvent_mirrors life mirrors with ⟨proposed, _, boundary, status⟩
    exact coherent_of_mirrored order boundary status
  · exact coherent_unconfirmed coherent order
  · rw [orderEvent_failed, statusAfterFailed]
    split
    · exact coherent
    · next unanswered =>
        simp only [List.mem_cons, List.not_mem_nil, or_false, not_or] at unanswered
        apply coherent.setStatus
        · simp
        · intro _
          exact ⟨unanswered.2, unanswered.1⟩
  · rw [orderEvent_rateLimited]
    split
    · exact coherent
    · next requeues =>
        simp only [KeepsOnRateLimit, List.mem_cons, not_or] at requeues
        apply coherent.setStatus
        · simp
        · intro _
          exact ⟨requeues.2.1, requeues.2.2.1⟩
  · exact coherent

theorem Coherent.after (coherent : life.Coherent) (move : Move) : (life.after move).Coherent := by
  cases move with
  | stay => exact coherent
  | expire =>
      simp only [Lifecycle.after]
      split
      · next isQueued =>
          apply coherent.setStatus
          · simp
          · simp [isQueued]
      · exact coherent
  | claim =>
      simp only [Lifecycle.after, claimedLife]
      split
      · next isQueued =>
          split
          · next order => exact coherent_claimed coherent isQueued order
          · next other =>
              simp only [Bool.not_eq_true] at other
              exact coherent_other other (coherent.noBoundary other)
      · exact coherent
  | timeOut =>
      simp only [Lifecycle.after, timedOut]
      split
      · next order =>
          split
          · next inFlight =>
              have becomes : statusAfterUnconfirmed life.status = unconfirmed := by
                simp only [InFlight, List.mem_cons, List.not_mem_nil, or_false] at inFlight
                rcases inFlight with same | same | same | same <;> rw [same] <;> rfl
              have unconfirms := coherent_unconfirmed coherent order
              rw [becomes] at unconfirms
              exact unconfirms
          · exact coherent
      · next other =>
          simp only [Bool.not_eq_true] at other
          split
          · exact coherent_other other (coherent.noBoundary other)
          · exact coherent
  | event kind =>
      simp only [Lifecycle.after]
      split
      · next order => exact coherent.orderEvent order kind
      · next other =>
          simp only [Bool.not_eq_true] at other
          exact coherent_other other (coherent.noBoundary other)

end Lifecycle

end SuseokTrader
