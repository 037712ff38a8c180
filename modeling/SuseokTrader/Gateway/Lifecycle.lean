import SuseokTrader.Gateway.Boundary
import SuseokTrader.Gateway.CommandStore

/-!
# The lifecycle of one command

What the store keeps for a command comes down to its kind, its status and how
far its boundary got. This file gives the moves a command can make and their
effect, without tables, texts or clocks. The store's operations are shown to
make exactly these moves in `Refinement`; the laws about runs are proved here.
-/

namespace SuseokTrader

open GatewayCommandStatus

inductive EventKind where
  | started
  | preAck (accepted : Bool)
  | ack
  | execution
  | chejan
  | unconfirmed
  | failed
  | rateLimited
  | other
  deriving DecidableEq

namespace EventKind

/-- The boundary state an event proposes. -/
def proposal : EventKind → Option OrderBrokerBoundaryState
  | started => some .gatewayStarted
  | preAck accepted => some (if accepted then .brokerAccepted else .preAckRecorded)
  | ack => some .brokerAccepted
  | execution => some .chejanConfirmed
  | chejan => some .chejanConfirmed
  | unconfirmed => some .unconfirmed
  | failed => none
  | rateLimited => none
  | other => none

def isPreAck : EventKind → Bool
  | preAck _ => true
  | _ => false

end EventKind

structure BoundaryView where
  state : OrderBrokerBoundaryState
  preAck : Bool
  deriving DecidableEq

namespace BoundaryView

def propose (boundary : Option BoundaryView) (proposed : OrderBrokerBoundaryState)
    (preAck : Bool) : BoundaryView :=
  match boundary with
  | none => { state := proposed, preAck := preAck }
  | some boundary =>
      { state := max boundary.state proposed, preAck := boundary.preAck || preAck }

def Reached (boundary : BoundaryView) : Prop :=
  boundary.preAck = true ∨ OrderBrokerBoundaryState.preAckRecorded ≤ boundary.state

instance (boundary : BoundaryView) : Decidable boundary.Reached :=
  inferInstanceAs (Decidable (_ ∨ _))

end BoundaryView

structure Lifecycle where
  order : Bool
  status : GatewayCommandStatus
  wasDispatched : Bool
  boundary : Option BoundaryView
  deriving DecidableEq

inductive Move where
  | stay
  | event (kind : EventKind)
  | expire
  | timeOut
  | claim
  deriving DecidableEq

namespace Lifecycle

/-- A command as it is enqueued. -/
def fresh (order : Bool) : Lifecycle where
  order := order
  status := queued
  wasDispatched := false
  boundary := none

def Reached (life : Lifecycle) : Prop :=
  ∃ boundary, life.boundary = some boundary ∧ boundary.Reached

variable (status : GatewayCommandStatus)

def statusAfterUnconfirmed : GatewayCommandStatus :=
  if status ∈ [chejanConfirmed, brokerAccepted, failed, rejected, expired, cancelled] then status
  else unconfirmed

def statusAfterFailed : GatewayCommandStatus :=
  if status ∈ [chejanConfirmed, brokerAccepted] then status else failed

def KeepsOnRateLimit : Prop :=
  status ∈ [preAckRecorded, brokerAccepted, chejanConfirmed, unconfirmed]

instance (status : GatewayCommandStatus) : Decidable (KeepsOnRateLimit status) :=
  inferInstanceAs (Decidable (_ ∈ _))

variable (life : Lifecycle)

/-- An event of an order command. -/
def orderEvent (kind : EventKind) : Lifecycle :=
  let boundary := match kind.proposal with
    | some proposed => some (BoundaryView.propose life.boundary proposed kind.isPreAck)
    | none => life.boundary
  let mirrored := (boundary.map fun boundary => boundary.state.toStatus).getD life.status
  let status := match kind with
    | .started => mirrored
    | .preAck _ => mirrored
    | .ack => mirrored
    | .execution => mirrored
    | .chejan => mirrored
    | .unconfirmed => statusAfterUnconfirmed life.status
    | .failed => statusAfterFailed life.status
    | .rateLimited => if KeepsOnRateLimit life.status then life.status else queued
    | .other => life.status
  { life with status := status, boundary := boundary }

def otherEvent (kind : EventKind) : Lifecycle :=
  let status := match kind with
    | .started => dispatched
    | .ack => acked
    | .execution => acked
    | .failed => failed
    | .rateLimited => queued
    | _ => life.status
  { life with status := status }

def InFlight : Prop :=
  status ∈ [dispatched, claimed, gatewayStarted, preAckRecorded]

instance (status : GatewayCommandStatus) : Decidable (InFlight status) :=
  inferInstanceAs (Decidable (_ ∈ _))

def timedOut : Lifecycle :=
  if life.order then
    if InFlight life.status then
      { life with
        status := unconfirmed
        boundary := some (BoundaryView.propose life.boundary .unconfirmed false) }
    else life
  else if life.status = dispatched then { life with status := failed }
  else life

def claimedLife : Lifecycle :=
  if life.status = queued then
    if life.order then
      { life with
        status := claimed
        wasDispatched := true
        boundary := some (BoundaryView.propose life.boundary .claimed false) }
    else { life with status := dispatched, wasDispatched := true }
  else life

/-- The command after a move. -/
def after : Move → Lifecycle
  | .stay => life
  | .event kind => if life.order then life.orderEvent kind else life.otherEvent kind
  | .expire => if life.status = queued then { life with status := expired } else life
  | .timeOut => life.timedOut
  | .claim => life.claimedLife

variable (life : Lifecycle)

@[simp]
theorem after_stay : life.after .stay = life :=
  rfl

/-! ## The boundary only moves up -/

def BoundaryLe (before after : Option BoundaryView) : Prop :=
  ∀ boundary, before = some boundary →
    ∃ later, after = some later ∧ boundary.state ≤ later.state ∧
      (boundary.preAck = true → later.preAck = true)

theorem boundaryLe_refl (boundary : Option BoundaryView) : BoundaryLe boundary boundary := by
  intro view same
  exact ⟨view, same, le_rfl, id⟩

theorem boundaryLe_propose (boundary : Option BoundaryView)
    (proposed : OrderBrokerBoundaryState) (preAck : Bool) :
    BoundaryLe boundary (some (BoundaryView.propose boundary proposed preAck)) := by
  rintro view rfl
  refine ⟨_, rfl, le_max_left _ _, ?_⟩
  intro observed
  simp [BoundaryView.propose, observed]

theorem boundaryLe_after (move : Move) :
    BoundaryLe life.boundary (life.after move).boundary := by
  have same := boundaryLe_refl life.boundary
  cases move with
  | stay => exact same
  | event kind =>
      simp only [after]
      split
      · cases proposes : kind.proposal with
        | some proposed =>
            simpa [orderEvent, proposes] using
              boundaryLe_propose life.boundary proposed kind.isPreAck
        | none => simpa [orderEvent, proposes] using same
      · exact same
  | expire =>
      simp only [after]
      split <;> exact same
  | timeOut =>
      simp only [after, timedOut]
      split
      · split
        · exact boundaryLe_propose life.boundary _ _
        · exact same
      · split <;> exact same
  | claim =>
      simp only [after, claimedLife]
      split
      · split
        · exact boundaryLe_propose life.boundary _ _
        · exact same
      · exact same

theorem Reached.after {life : Lifecycle} (reached : life.Reached) (move : Move) :
    (life.after move).Reached := by
  rcases reached with ⟨boundary, same, reached⟩
  rcases boundaryLe_after life move boundary same with ⟨later, laterSame, higher, observed⟩
  refine ⟨later, laterSame, ?_⟩
  rcases reached with preAck | state
  · exact Or.inl (observed preAck)
  · exact Or.inr (le_trans state higher)

@[simp]
theorem order_after (move : Move) : (life.after move).order = life.order := by
  cases move with
  | stay => rfl
  | event kind =>
      simp only [after]
      split <;> rfl
  | expire =>
      simp only [after]
      split <;> rfl
  | timeOut =>
      simp only [after, timedOut]
      split <;> split <;> rfl
  | claim =>
      simp only [after, claimedLife]
      split
      · split <;> rfl
      · rfl

end Lifecycle

end SuseokTrader
