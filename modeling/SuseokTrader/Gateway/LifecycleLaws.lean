import SuseokTrader.Gateway.Coherence

/-!
# Laws of the lifecycle

What every move keeps except the ones that a condition names. A condition is a
predicate on a lifecycle and a move: it says which moves break the law, and
from which lifecycles.
-/

namespace SuseokTrader

open GatewayCommandStatus

namespace Lifecycle

/-! ## Orders are not sent again -/

def OutOfQueue (life : Lifecycle) : Prop :=
  life.order = true → life.Reached → life.status ≠ queued

def TakesBack (life : Lifecycle) (move : Move) : Prop :=
  move = .event .rateLimited ∧ life.order = true ∧ life.Reached ∧
    ¬ KeepsOnRateLimit life.status

theorem outOfQueue_fresh (order : Bool) : (fresh order).OutOfQueue := by
  rintro _ ⟨boundary, absent, _⟩
  cases absent

theorem toStatus_ne_queued (state : OrderBrokerBoundaryState) : state.toStatus ≠ queued := by
  cases state <;> decide

variable {life : Lifecycle} {move : Move}

theorem OutOfQueue.after (out : life.OutOfQueue) (keeps : ¬ TakesBack life move) :
    (life.after move).OutOfQueue := by
  intro order reached
  rw [order_after] at order
  cases move with
  | stay => exact out order reached
  | expire =>
      simp only [Lifecycle.after] at reached ⊢
      split at reached
      · next isQueued => simp [isQueued]
      · next notQueued => simpa only [if_neg notQueued] using notQueued
  | timeOut =>
      simp only [Lifecycle.after, timedOut, order, if_true] at reached ⊢
      split
      · simp
      · next standing =>
          rw [if_neg standing] at reached
          exact out order reached
  | claim =>
      simp only [Lifecycle.after, claimedLife] at reached ⊢
      split
      · simp
      · next notQueued => exact notQueued
  | event kind =>
      simp only [Lifecycle.after, order, if_true] at reached ⊢
      rcases kind_cases kind with mirrors | rfl | rfl | rfl | rfl
      · rcases orderEvent_mirrors life mirrors with ⟨proposed, _, _, status⟩
        rw [status]
        exact toStatus_ne_queued _
      · simp only [orderEvent, statusAfterUnconfirmed]
        split
        · next kept =>
            intro isQueued
            simp [isQueued] at kept
        · simp
      · rw [orderEvent_failed, statusAfterFailed] at *
        simp only
        split
        · next kept =>
            intro isQueued
            simp [isQueued] at kept
        · simp
      · rw [orderEvent_rateLimited] at *
        split
        · exact out order reached
        · next requeues => exact absurd ⟨rfl, order, reached, requeues⟩ keeps
      · exact out order reached

/-! ## Status and boundary agree -/

/-- A status that names a stage of an order is the state of its boundary. -/
def Agrees (life : Lifecycle) : Prop :=
  life.order = true →
    life.status ∈ [claimed, gatewayStarted, preAckRecorded, brokerAccepted, chejanConfirmed,
      unconfirmed] →
    ∃ boundary, life.boundary = some boundary ∧ boundary.state.toStatus = life.status

def ClaimsBegun (life : Lifecycle) (move : Move) : Prop :=
  move = .claim ∧ life.status = queued ∧ life.order = true ∧
    ∃ boundary, life.boundary = some boundary ∧ boundary.state ≠ .claimed

theorem agrees_fresh (order : Bool) : (fresh order).Agrees := by
  intro _ named
  simp [fresh] at named

theorem agrees_of_not_mem
    (other : life.status ∉ [claimed, gatewayStarted, preAckRecorded, brokerAccepted,
      chejanConfirmed, unconfirmed]) : life.Agrees :=
  fun _ named => absurd named other

theorem agrees_of_mirrored {boundary : BoundaryView} (present : life.boundary = some boundary)
    (same : life.status = boundary.state.toStatus) :
    life.Agrees :=
  fun _ _ => ⟨boundary, present, same.symm⟩

theorem statusAfterUnconfirmed_mem {status : GatewayCommandStatus}
    (named : statusAfterUnconfirmed status ∈ [claimed, gatewayStarted, preAckRecorded,
      brokerAccepted, chejanConfirmed, unconfirmed]) :
    statusAfterUnconfirmed status ∈ [unconfirmed, brokerAccepted, chejanConfirmed] := by
  revert named
  cases status <;> decide

theorem Agrees.after (agrees : life.Agrees) (coherent : life.Coherent)
    (keeps : ¬ ClaimsBegun life move) : (life.after move).Agrees := by
  intro order
  rw [order_after] at order
  have orderAfter := (order_after life move).trans order
  have onBrokerSide := (coherent.after move).mirrored orderAfter
  suffices agreesAfter : (life.after move).Agrees from agreesAfter orderAfter
  cases move with
  | stay => exact agrees
  | expire =>
      simp only [Lifecycle.after]
      split
      · exact agrees_of_not_mem (by simp)
      · exact agrees
  | timeOut =>
      simp only [Lifecycle.after, timedOut, order, if_true] at onBrokerSide ⊢
      split
      · next inFlight =>
          simp only [if_pos inFlight] at onBrokerSide
          exact fun _ _ => onBrokerSide (by simp)
      · exact agrees
  | claim =>
      simp only [Lifecycle.after, claimedLife]
      split
      · next isQueued =>
          refine agrees_of_mirrored rfl ?_
          cases present : life.boundary with
          | none => rfl
          | some boundary =>
              have isClaimed : boundary.state = .claimed := by
                by_contra begun
                exact keeps ⟨rfl, isQueued, order, boundary, present, begun⟩
              rw [state_propose_of_le false (OrderBrokerBoundaryState.claimed_le _), isClaimed]
              rfl
      · exact agrees
  | event kind =>
      simp only [Lifecycle.after, order, if_true] at onBrokerSide ⊢
      rcases kind_cases kind with mirrors | rfl | rfl | rfl | rfl
      · rcases orderEvent_mirrors life mirrors with ⟨proposed, _, boundary, status⟩
        exact agrees_of_mirrored boundary status
      · exact fun _ named => onBrokerSide (statusAfterUnconfirmed_mem named)
      · rw [orderEvent_failed, statusAfterFailed]
        split
        · exact agrees
        · exact agrees_of_not_mem (by simp)
      · rw [orderEvent_rateLimited]
        split
        · exact agrees
        · exact agrees_of_not_mem (by simp)
      · exact agrees

theorem ClaimsBegun.not_agrees (claims : ClaimsBegun life move) : ¬ (life.after move).Agrees := by
  rcases claims with ⟨rfl, isQueued, order, boundary, present, begun⟩
  intro agrees
  simp only [Lifecycle.after, claimedLife, isQueued, order, if_true] at agrees
  rcases agrees rfl (by simp) with ⟨after, same, state⟩
  simp only [Option.some.injEq] at same
  rw [← same, present,
    state_propose_of_le false (OrderBrokerBoundaryState.claimed_le _)] at state
  exact begun (toStatus_injective state)

end Lifecycle

def EventKind.IsEvidence (kind : EventKind) : Prop :=
  kind.proposal = some .brokerAccepted ∨ kind.proposal = some .chejanConfirmed

namespace Lifecycle

/-! ## Settled orders stay settled -/

def Settled (status : GatewayCommandStatus) : Prop :=
  status ∈ [failed, rejected, expired, cancelled]

instance (status : GatewayCommandStatus) : Decidable (Settled status) :=
  inferInstanceAs (Decidable (_ ∈ _))

def PreBroker (status : GatewayCommandStatus) : Prop :=
  status ∈ [queued, claimed, gatewayStarted, preAckRecorded]

instance (status : GatewayCommandStatus) : Decidable (PreBroker status) :=
  inferInstanceAs (Decidable (_ ∈ _))

def Unconfirmed (life : Lifecycle) : Prop :=
  ∃ boundary, life.boundary = some boundary ∧ boundary.state = .unconfirmed

def StaysSettled (life : Lifecycle) (move : Move) : Prop :=
  (life.after move).status = life.status ∨
    (∃ kind, move = .event kind ∧ kind.IsEvidence ∧
      (life.after move).status ∈ [brokerAccepted, chejanConfirmed]) ∨
    ((life.after move).status = unconfirmed ∧ (life.after move).Unconfirmed)

/-- A rate limit, a report of a stage below the broker, or a failure of another kind reopens a
settled order. -/
def Unsettles (life : Lifecycle) (move : Move) : Prop :=
  life.order = true ∧ Settled life.status ∧
    (move = .event .rateLimited ∨
      ((move = .event .started ∨ move = .event (.preAck false)) ∧ ¬ life.Unconfirmed) ∨
      (move = .event .failed ∧ life.status ≠ failed))

theorem not_preBroker_toStatus {state : OrderBrokerBoundaryState}
    (high : OrderBrokerBoundaryState.unconfirmed ≤ state) : ¬ PreBroker state.toStatus := by
  revert high
  cases state <;> decide

variable (status : GatewayCommandStatus)

theorem not_preBroker_statusAfterUnconfirmed :
    ¬ PreBroker (statusAfterUnconfirmed status) := by
  cases status <;> decide

theorem not_preBroker_statusAfterFailed :
    ¬ PreBroker (statusAfterFailed status) := by
  cases status <;> decide

variable {life : Lifecycle} {move : Move}

theorem Coherent.settled_or_high (coherent : life.Coherent) (order : life.order = true)
    (past : ¬ PreBroker life.status) :
    Settled life.status ∨ ∃ boundary, life.boundary = some boundary ∧
      OrderBrokerBoundaryState.unconfirmed ≤ boundary.state := by
  rcases coherent.orderStatus order with ⟨notDispatched, notAcked⟩
  by_cases settled : Settled life.status
  · exact Or.inl settled
  · right
    have onBrokerSide : life.status ∈ [unconfirmed, brokerAccepted, chejanConfirmed] := by
      revert notDispatched notAcked past settled
      cases life.status <;> decide
    rcases coherent.mirrored order onBrokerSide with ⟨boundary, present, same⟩
    refine ⟨boundary, present, ?_⟩
    by_contra low
    rw [← same] at onBrokerSide
    revert onBrokerSide low
    cases boundary.state <;> decide

/-- Once past the pre-broker statuses, only an unsettling event leads back to one. -/
theorem not_preBroker_after (coherent : life.Coherent) (order : life.order = true)
    (past : ¬ PreBroker life.status) (keeps : ¬ Unsettles life move) :
    ¬ PreBroker (life.after move).status := by
  have notQueued : life.status ≠ queued := by
    intro isQueued
    exact past (by simp [PreBroker, isQueued])
  cases move with
  | stay => exact past
  | expire =>
      simp only [Lifecycle.after, if_neg notQueued]
      exact past
  | claim =>
      simp only [Lifecycle.after, claimedLife, if_neg notQueued]
      exact past
  | timeOut =>
      simp only [Lifecycle.after, timedOut, order, if_true]
      split
      · show ¬ PreBroker unconfirmed
        decide
      · exact past
  | event kind =>
      simp only [Lifecycle.after, order, if_true]
      rcases kind_cases kind with mirrors | rfl | rfl | rfl | rfl
      · rcases orderEvent_mirrors life mirrors with
          ⟨proposed, proposes, _, status⟩
        rw [status]
        apply not_preBroker_toStatus
        by_cases high : OrderBrokerBoundaryState.unconfirmed ≤ proposed
        · exact le_trans high (le_state_propose _ _ _)
        · have unconfirms : ∃ boundary, life.boundary = some boundary ∧
              OrderBrokerBoundaryState.unconfirmed ≤ boundary.state := by
            rcases coherent.settled_or_high order past with settled | isHigh
            · have low : ¬ OrderBrokerBoundaryState.brokerAccepted ≤ proposed :=
                fun isHigh => high (le_trans (by decide) isHigh)
              have early := (early_of_proposal mirrors proposes low).1
              have isUnconfirmed : life.Unconfirmed := by
                by_contra otherwise
                refine keeps ⟨order, settled, Or.inr (Or.inl ⟨?_, otherwise⟩)⟩
                rcases early with rfl | rfl
                · exact Or.inl rfl
                · exact Or.inr rfl
              rcases isUnconfirmed with ⟨boundary, present, state⟩
              exact ⟨boundary, present, state.ge⟩
            · exact isHigh
          rcases unconfirms with ⟨boundary, present, isHigh⟩
          rw [present]
          exact le_trans isHigh (le_max_left _ _)
      · exact not_preBroker_statusAfterUnconfirmed life.status
      · exact not_preBroker_statusAfterFailed life.status
      · rw [orderEvent_rateLimited]
        split
        · exact past
        · next requeues =>
            exfalso
            rcases coherent.settled_or_high order past with settled | ⟨boundary, present, high⟩
            · exact keeps ⟨order, settled, Or.inl rfl⟩
            · by_cases settled : Settled life.status
              · exact keeps ⟨order, settled, Or.inl rfl⟩
              · rcases coherent.orderStatus order with ⟨notDispatched, notAcked⟩
                revert past settled requeues notDispatched notAcked
                cases life.status <;> decide
      · exact past

/-- From a settled status an order goes on as a settled order may. -/
theorem staysSettled (order : life.order = true) (settled : Settled life.status)
    (keeps : ¬ Unsettles life move) : StaysSettled life move := by
  have notQueued : life.status ≠ queued := by
    intro isQueued
    rw [isQueued] at settled
    exact absurd settled (by decide)
  have notInFlight : ¬ InFlight life.status := by
    revert settled
    cases life.status <;> decide
  cases move with
  | stay => exact Or.inl rfl
  | expire =>
      left
      simp only [Lifecycle.after, if_neg notQueued]
  | claim =>
      left
      simp only [Lifecycle.after, claimedLife, if_neg notQueued]
  | timeOut =>
      left
      simp only [Lifecycle.after, timedOut, order, if_true, if_neg notInFlight]
  | event kind =>
      simp only [StaysSettled, Lifecycle.after, order, if_true]
      rcases kind_cases kind with mirrors | rfl | rfl | rfl | rfl
      · rcases orderEvent_mirrors life mirrors with
          ⟨proposed, proposes, boundary, status⟩
        by_cases evidence : OrderBrokerBoundaryState.brokerAccepted ≤ proposed
        · right
          left
          refine ⟨kind, rfl, ?_, ?_⟩
          · rw [EventKind.IsEvidence, proposes]
            revert evidence
            cases proposed <;> decide
          · rw [status]
            have high := le_trans evidence
              (le_state_propose life.boundary proposed kind.isPreAck)
            rcases toStatus_of_accepted high with accepted | confirmed
            · simp [accepted]
            · simp [confirmed]
        · right
          right
          rcases early_of_proposal mirrors proposes evidence with ⟨early, low⟩
          have isUnconfirmed : life.Unconfirmed := by
            by_contra otherwise
            refine keeps ⟨order, settled, Or.inr (Or.inl ⟨?_, otherwise⟩)⟩
            rcases early with rfl | rfl
            · exact Or.inl rfl
            · exact Or.inr rfl
          rcases isUnconfirmed with ⟨before, present, state⟩
          have lower : proposed ≤ before.state := by
            rw [state]
            exact le_trans low (by decide)
          have after : (BoundaryView.propose life.boundary proposed kind.isPreAck).state =
              .unconfirmed := by
            rw [present, state_propose_of_le _ lower, state]
          exact ⟨by rw [status, after]; rfl, _, boundary, after⟩
      · left
        simp only [orderEvent]
        revert settled
        cases life.status <;> decide
      · left
        have isFailed : life.status = failed := by
          by_contra otherwise
          exact keeps ⟨order, settled, Or.inr (Or.inr ⟨rfl, otherwise⟩)⟩
        rw [orderEvent_failed]
        simp only [isFailed]
        rfl
      · exact absurd ⟨order, settled, Or.inl rfl⟩ keeps
      · exact Or.inl rfl

/-- An unsettling event breaks the law of settled orders. -/
theorem Unsettles.breaks (coherent : life.Coherent) (unsettles : Unsettles life move) :
    PreBroker (life.after move).status ∨ ¬ StaysSettled life move := by
  rcases unsettles with ⟨order, settled, rfl | ⟨early, otherwise⟩ | ⟨rfl, notFailed⟩⟩
  · left
    have requeues : ¬ KeepsOnRateLimit life.status := by
      revert settled
      cases life.status <;> decide
    simp only [Lifecycle.after, order, if_true, orderEvent_rateLimited, if_neg requeues]
    decide
  · left
    have low : ∀ boundary, life.boundary = some boundary →
        boundary.state ≤ .preAckRecorded := by
      intro boundary present
      by_contra high
      have notUnconfirmed : boundary.state ≠ .unconfirmed :=
        fun state => otherwise ⟨boundary, present, state⟩
      have answered : OrderBrokerBoundaryState.brokerAccepted ≤ boundary.state := by
        revert high notUnconfirmed
        cases boundary.state <;> decide
      have same := coherent.mirrors boundary present answered
      rw [same] at settled
      rcases toStatus_of_accepted answered with accepted | confirmed
      · rw [accepted] at settled
        exact absurd settled (by decide)
      · rw [confirmed] at settled
        exact absurd settled (by decide)
    have preBroker : ∀ proposed : OrderBrokerBoundaryState, ∀ preAck,
        proposed ≤ .preAckRecorded →
        PreBroker (BoundaryView.propose life.boundary proposed preAck).state.toStatus := by
      intro proposed preAck lower
      have state : (BoundaryView.propose life.boundary proposed preAck).state ≤
          .preAckRecorded := by
        cases present : life.boundary with
        | none => exact lower
        | some boundary => exact max_le (low boundary present) lower
      revert state
      cases (BoundaryView.propose life.boundary proposed preAck).state <;> decide
    rcases early with rfl | rfl
    · simp only [Lifecycle.after, order]
      exact preBroker .gatewayStarted false (by decide)
    · simp only [Lifecycle.after, order]
      exact preBroker .preAckRecorded true (by decide)
  · right
    have after : (life.after (.event .failed)).status = failed := by
      simp only [Lifecycle.after, order, if_true, orderEvent_failed]
      revert settled
      cases life.status <;> decide
    rintro (same | ⟨kind, sameMove, _, named⟩ | ⟨isUnconfirmed, _⟩)
    · exact notFailed (same.symm.trans after)
    · rw [after] at named
      simp at named
    · rw [after] at isUnconfirmed
      cases isUnconfirmed

/-! ## Completed commands -/

/-- The statuses in which a command other than an order has come to its end. -/
def Completed : Prop :=
  status ∈ [acked, failed, expired]

instance (status : GatewayCommandStatus) : Decidable (Completed status) :=
  inferInstanceAs (Decidable (_ ∈ _))

def Reopens (life : Lifecycle) (move : Move) : Prop :=
  life.order = false ∧ Completed life.status ∧
    (move = .event .rateLimited ∨ move = .event .started ∨
      ((move = .event .ack ∨ move = .event .execution) ∧ life.status ≠ acked) ∨
      (move = .event .failed ∧ life.status ≠ failed))

theorem status_after_iff (other : life.order = false) (completed : Completed life.status) :
    (life.after move).status = life.status ↔ ¬ Reopens life move := by
  have notQueued : life.status ≠ queued := by
    intro isQueued
    rw [isQueued] at completed
    exact absurd completed (by decide)
  have notDispatched : life.status ≠ dispatched := by
    intro isDispatched
    rw [isDispatched] at completed
    exact absurd completed (by decide)
  cases move with
  | stay => simp [Reopens]
  | expire => simp [Reopens, Lifecycle.after, notQueued]
  | claim => simp [Reopens, Lifecycle.after, claimedLife, notQueued]
  | timeOut => simp [Reopens, Lifecycle.after, timedOut, other, notDispatched]
  | event kind =>
      cases kind with
      | rateLimited =>
          simp [Reopens, Lifecycle.after, other, otherEvent, completed, Ne.symm notQueued]
      | started =>
          simp [Reopens, Lifecycle.after, other, otherEvent, completed, Ne.symm notDispatched]
      | ack => simp [Reopens, Lifecycle.after, other, otherEvent, completed, eq_comm]
      | execution => simp [Reopens, Lifecycle.after, other, otherEvent, completed, eq_comm]
      | failed => simp [Reopens, Lifecycle.after, other, otherEvent, completed, eq_comm]
      | preAck | chejan | unconfirmed | other =>
          simp [Reopens, Lifecycle.after, other, otherEvent]

/-! ## Which moves queue and which expire -/

theorem toStatus_ne_expired (state : OrderBrokerBoundaryState) : state.toStatus ≠ expired := by
  cases state <;> decide

/-- Only a rate limit queues a command, and only an expiry expires one. -/
theorem status_after_cases (life : Lifecycle) (move : Move) :
    (life.after move).status = life.status ∨
      (move = .event .rateLimited ∧ (life.after move).status = queued) ∨
      (move = .expire ∧ life.status = queued ∧ (life.after move).status = expired) ∨
      ((life.after move).status ≠ queued ∧ (life.after move).status ≠ expired) := by
  cases move with
  | stay => exact Or.inl rfl
  | expire =>
      simp only [Lifecycle.after]
      split
      · next isQueued => exact Or.inr (Or.inr (Or.inl ⟨trivial, isQueued, rfl⟩))
      · exact Or.inl rfl
  | timeOut =>
      simp only [Lifecycle.after, timedOut]
      split
      · split
        · exact Or.inr (Or.inr (Or.inr (by simp)))
        · exact Or.inl rfl
      · split
        · exact Or.inr (Or.inr (Or.inr (by simp)))
        · exact Or.inl rfl
  | claim =>
      simp only [Lifecycle.after, claimedLife]
      split
      · split
        · exact Or.inr (Or.inr (Or.inr (by simp)))
        · exact Or.inr (Or.inr (Or.inr (by simp)))
      · exact Or.inl rfl
  | event kind =>
      simp only [Lifecycle.after]
      split
      · rcases kind_cases kind with mirrors | rfl | rfl | rfl | rfl
        · rcases orderEvent_mirrors life mirrors with ⟨proposed, _, _, status⟩
          rw [status]
          exact Or.inr (Or.inr (Or.inr ⟨toStatus_ne_queued _, toStatus_ne_expired _⟩))
        · simp only [orderEvent, statusAfterUnconfirmed]
          split
          · exact Or.inl rfl
          · exact Or.inr (Or.inr (Or.inr (by simp)))
        · simp only [orderEvent_failed, statusAfterFailed]
          split
          · exact Or.inl rfl
          · exact Or.inr (Or.inr (Or.inr (by simp)))
        · simp only [orderEvent_rateLimited]
          split
          · exact Or.inl rfl
          · exact Or.inr (Or.inl ⟨trivial, rfl⟩)
        · exact Or.inl rfl
      · cases kind with
        | rateLimited => exact Or.inr (Or.inl ⟨rfl, rfl⟩)
        | started | ack | execution | failed =>
            exact Or.inr (Or.inr (Or.inr (by simp [otherEvent])))
        | preAck | chejan | unconfirmed | other => exact Or.inl rfl

end Lifecycle

end SuseokTrader
