import SuseokTrader.Market.Results
import SuseokTrader.Outbox.Workers

/-!
# Side effects that follow a projection

The side effect of a market data event is left to the worker when the inline
projection was skipped. The worker writes the rows of the event in one
transaction, runs the side effect after it, and marks the job last. An attempt
that ends in between leaves the rows, and the next attempt finds them and takes
the job as applied.
-/

namespace SuseokTrader

/-! ## An attempt in its parts -/

structure EffectOutcome where
  status : String
  errorCount : Int

namespace EffectOutcome

/-- `_tr_response_side_effect_failed`, `_condition_event_side_effect_failed` -/
def failed (outcome : EffectOutcome) : Bool :=
  0 < outcome.errorCount || outcome.status ∈ ["ERROR", "COMPLETED_WITH_ERRORS"]

end EffectOutcome

/-- `gateway_market_data_append_only_…_fail_closed_on_side_effect_error`, by event type. -/
structure FailClosedSettings where
  trResponse : Bool
  conditionEvent : Bool

variable (settings : FailClosedSettings)

variable (eventType : String)

/-- A failed side effect of such an event fails the job. There is no such setting for price
ticks. -/
def FailClosedSettings.covers : Bool :=
  if eventType = "tr_response" then settings.trResponse
  else eventType = "condition_event" && settings.conditionEvent

def wroteRows (result : MarketDataProcessResult) : Bool :=
  result.status = .applied && 0 < result.appliedCount

inductive Begun where
  | done (verification : Verification)
  | projected (result : MarketDataProcessResult)

variable (host : Host) (tables : MarketTables)

def beginProjection (event : GatewayEvent)
    (attempt : Attempt) : MarketTables × Begun :=
  match processGatewayEvent host attempt.enabled tables event true attempt.readings
      attempt.fault with
  | (written, .error failure) =>
      (written, .done (.failed "MARKET_DATA_APPLY_EXCEPTION" failure.message))
  | (written, .ok result) =>
      if result.status = .error then
        (written, .done (.failed "MARKET_DATA_APPLY_FAILED" (result.errorMessage.getD "ERROR")))
      else (written, .projected result)

variable (job : ProjectionJob)

def beginMarketData (event : GatewayEvent) (attempt : Attempt) : MarketTables × Begun :=
  match verifyProjectionOutboxJob host tables job with
  | .applied => (tables, .done .applied)
  | .skipped reason =>
      if reason = olderThanLatest ∧ normalizeEventType job.eventType = "price_tick" ∧
          attempt.skippedInline then
        beginProjection host tables event attempt
      else (tables, .done (.skipped reason))
  | .failed _ _ => beginProjection host tables event attempt

/-- An attempt up to the commit of the projection. -/
def beginAttempt (attempt : Attempt) : MarketTables × Begun :=
  if !attempt.applies then (tables, .done (verifyProjectionOutboxJob host tables job))
  else
    match tables.gatewayEvents.find? (Text.strip job.eventId) with
    | none => (tables, .done (.failed "SOURCE_GATEWAY_EVENT_MISSING"
        ("gateway_event not found: " ++ Text.strip job.eventId)))
    | some stored =>
        if !stored.accepted then (tables, .done (.skipped "SKIPPED_SOURCE_NOT_ACCEPTED"))
        else if normalizeEventType job.eventType ∉ marketDataEventTypes then
          (tables, .done (.skipped "MARKET_DATA_APPLY_EVENT_TYPE_UNSUPPORTED"))
        else beginMarketData host tables job stored.event attempt

def effectFailureReason : String :=
  if eventType = "tr_response" then "TR_RESPONSE_DEFERRED_QUOTE_REFRESH_SIDE_EFFECT_ERROR"
  else "CONDITION_EVENT_DEFERRED_FUSION_REFRESH_SIDE_EFFECT_ERROR"

def effectFailureMessage : String :=
  if eventType = "tr_response" then
    "tr_response deferred candidate quote refresh side-effect failed"
  else "condition_event deferred condition_fusion refresh failed"

def failsAttempt (result : MarketDataProcessResult) (outcome : EffectOutcome) : Bool :=
  wroteRows result && outcome.failed && settings.covers (normalizeEventType job.eventType)

/-- The end of an attempt, after the side effect. -/
def endAttempt (settings : FailClosedSettings) (tables : MarketTables)
    (job : ProjectionJob) (result : MarketDataProcessResult) (outcome : EffectOutcome) :
    Verification :=
  if failsAttempt settings job result outcome then
    .failed (effectFailureReason (normalizeEventType job.eventType))
      (effectFailureMessage (normalizeEventType job.eventType))
  else verifyProjectionOutboxJob host tables job

def Verification.finalMark (attempt : Attempt) (verification : Verification) : Mark :=
  verification.mark { attempt with retryable := false }

/-! ## The system -/

inductive AttemptPhase where
  | claimed
  | projected (attempt : Attempt) (result : MarketDataProcessResult)
  | verified (mark : Mark)
  | marking (pending : PendingMark)

/-- One job, the tables of its projection and the workers on it. `owed` says that rows of the
event were written and that no side effect has run without an error since. -/
structure DeferredState where
  tables : MarketTables
  job : ProjectionJob
  workers : String → Option AttemptPhase
  owed : Bool

inductive DeferredOp where
  | claim (ownerId : String) (minAge : Nat) (now : Instant)
  /-- The first look at the job and the transaction of the projection. -/
  | project (ownerId : String) (attempt : Attempt)
  /-- The side effect and the second look. -/
  | effect (ownerId : String) (outcome : EffectOutcome)
  | beginMark (ownerId : String) (now : Instant)
  | finishMark (ownerId : String) (now : Instant)
  /-- The worker stops for good, or an exception escapes it. -/
  | crash (ownerId : String)
  | reset (staleSec : Int) (now : Instant)
  /-- Other events are stored, projected and purged. -/
  | elsewhere (tables : MarketTables)

namespace DeferredState

variable (state : DeferredState)

def setPhase (ownerId : String) (phase : Option AttemptPhase) :
    DeferredState :=
  { state with workers := Function.update state.workers ownerId phase }

/-- The claim of the job, where it is claimable. A worker has one attempt at a time. -/
def claim (ownerId : String) (minAge : Nat) (now : Instant) :
    DeferredState :=
  if state.workers ownerId = none ∧
      isClaimable (datetimeToWire now) (datetimeToWire (now - minAge)) state.job then
    { state.setPhase ownerId (some .claimed) with
      job := claimJob ownerId (datetimeToWire now) state.job }
  else state

def project (host : Host) (state : DeferredState) (ownerId : String) (attempt : Attempt) :
    DeferredState :=
  match state.workers ownerId with
  | some .claimed =>
      match beginAttempt host state.tables state.job attempt with
      | (written, .done verification) =>
          { state.setPhase ownerId (some (.verified (verification.finalMark attempt))) with
            tables := written }
      | (written, .projected result) =>
          { state.setPhase ownerId (some (.projected attempt result)) with
            tables := written
            owed := state.owed || wroteRows result }
  | _ => state

def effect (host : Host) (settings : FailClosedSettings) (state : DeferredState)
    (ownerId : String) (outcome : EffectOutcome) : DeferredState :=
  match state.workers ownerId with
  | some (.projected attempt result) =>
      { state.setPhase ownerId (some (.verified
          ((endAttempt host settings state.tables state.job result outcome).finalMark
            attempt))) with
        owed := state.owed && !(wroteRows result && !outcome.failed) }
  | _ => state

/-- The first half of a mark call. A call that raises ends the worker. -/
def beginMark (ownerId : String) (now : Instant) : DeferredState :=
  match state.workers ownerId with
  | some (.verified mark) =>
      match mark.normalize with
      | .error _ => state.setPhase ownerId none
      | .ok mark =>
          if state.job.lockedBy = some ownerId then
            state.setPhase ownerId (some (.marking
              { outboxId := state.job.outboxId, mark := mark.val, row := state.job, now := now,
                stated := Mark.stated_of_val mark }))
          else state.setPhase ownerId none
  | _ => state

/-- The write of a mark call. -/
def finishMark (host : Host) (state : DeferredState) (ownerId : String) (now : Instant) :
    DeferredState :=
  match state.workers ownerId with
  | some (.marking pending) =>
      match recordMark state.tables.ledger (pending.mark.report pending.row) now with
      | .error _ => state.setPhase ownerId none
      | .ok ledger =>
          { state.setPhase ownerId none with
            tables := { state.tables with ledger := ledger }
            job :=
              if state.job.lockedBy = some ownerId then
                pending.mark.change host pending.row (datetimeToWire pending.now) state.job
              else state.job }
  | _ => state

def reset (staleSec : Int) (now : Instant) : DeferredState :=
  let cutoff := datetimeToWire (now - (max staleSec 0).toNat * Time.microsPerSecond)
  { state with
    job :=
      if isStaleProcessing cutoff state.job then resetJob (datetimeToWire now) state.job
      else state.job }

end DeferredState

def deferredNext (host : Host) (settings : FailClosedSettings) (state : DeferredState) :
    DeferredOp → DeferredState
  | .claim ownerId minAge now => state.claim ownerId minAge now
  | .project ownerId attempt => state.project host ownerId attempt
  | .effect ownerId outcome => state.effect host settings ownerId outcome
  | .beginMark ownerId now => state.beginMark ownerId now
  | .finishMark ownerId now => state.finishMark host ownerId now
  | .crash ownerId => state.setPhase ownerId none
  | .reset staleSec now => state.reset staleSec now
  | .elsewhere tables => { state with tables := tables }

def deferredSystem (settings : FailClosedSettings) :
    System DeferredState DeferredOp Unit :=
  .ofStep (deferredNext host settings)

/-- The state in which a job waits. -/
def waitingJob : DeferredState where
  tables := tables
  job := { job with status := .pending, lockedBy := none, lockedAt := none }
  workers := fun _ => none
  owed := false

theorem effectFailureMessage_ne : effectFailureMessage eventType ≠ "" := by
  rw [effectFailureMessage]
  split <;> decide

/-! ## The law -/

/-- A job that is applied owes no side effect. -/
def EffectsRun (state : DeferredState) : Prop :=
  state.job.status = .applied → state.owed = false

def DeferredState.HoldsDebt (state : DeferredState) : Prop :=
  state.owed = true ∧ state.job.lockedBy.isSome = true

/-- A worker projects only while the job is its own, the side effect fails only where that fails
the job, and from the rows to the side effect, or to the mark of its failure, the worker neither
stops nor loses the job. -/
def KeepsEffect (settings : FailClosedSettings) (state : DeferredState) : DeferredOp → Prop
  | .project ownerId _ => state.workers ownerId = some .claimed →
      state.job.lockedBy = some ownerId
  | .effect ownerId outcome => ∀ attempt result,
      state.workers ownerId = some (.projected attempt result) → wroteRows result = true →
      outcome.failed = true → settings.covers (normalizeEventType state.job.eventType) = true
  | .finishMark ownerId now => ∀ pending, state.workers ownerId = some (.marking pending) →
      state.job.lockedBy = some ownerId → state.owed = true →
      ∃ ledger, recordMark state.tables.ledger (pending.mark.report pending.row) now = .ok ledger
  | .crash ownerId => state.HoldsDebt → state.job.lockedBy ≠ some ownerId
  | .reset staleSec now => state.HoldsDebt →
      isStaleProcessing (datetimeToWire (now - (max staleSec 0).toNat * Time.microsPerSecond))
        state.job = false
  | _ => True

/-! ## The invariant -/

def Mark.IsFinalError : Mark → Prop
  | .error _ _ _ => True
  | _ => False

def AttemptPhase.Owes : AttemptPhase → Prop
  | .claimed => False
  | .projected _ result => wroteRows result = true
  | .verified mark => ∃ checked, mark.normalize = .ok checked ∧ checked.val.IsFinalError
  | .marking pending => pending.mark.IsFinalError

structure DebtsHeld (state : DeferredState) : Prop where
  locked : state.job.lockedBy.isSome = true ↔ state.job.status = .processing
  /-- A debt is on the worker that has the job, or the job ended in an error. -/
  held : state.owed = true →
    (∃ ownerId phase, state.job.lockedBy = some ownerId ∧
      state.workers ownerId = some phase ∧ phase.Owes) ∨
    state.job.status = .error ∨ state.job.status = .deadLetter
  /-- Who is about to run the side effect of its rows has the job. -/
  running : ∀ ownerId attempt result,
    state.workers ownerId = some (.projected attempt result) → wroteRows result = true →
    state.job.lockedBy = some ownerId ∧ state.owed = true

theorem debtsHeld_waitingJob :
    DebtsHeld (waitingJob tables job) where
  locked := by simp [waitingJob]
  held := by rintro ⟨⟩
  running := by rintro ownerId attempt result ⟨⟩

theorem effectsRun_of_debtsHeld {state : DeferredState} (debts : DebtsHeld state) :
    EffectsRun state := by
  intro applied
  by_contra notPaid
  rw [Bool.not_eq_false] at notPaid
  rcases debts.held notPaid with ⟨ownerId, phase, locked, _⟩ | error | deadLetter
  · have processing := debts.locked.mp (by rw [locked]; rfl)
    rw [applied] at processing
    cases processing
  · rw [applied] at error
    cases error
  · rw [applied] at deadLetter
    cases deadLetter

theorem strippedText_of_strip {text : String} (hasText : Text.strip text ≠ "")
    (fieldName : String) : ∃ stripped, strippedText text fieldName = .ok stripped := by
  rw [strippedText]
  split
  · exact ⟨_, rfl⟩
  · next refused =>
      rw [requireNonEmptyStr, if_neg hasText] at refused
      cases refused

theorem owes_effectFailure (attempt : Attempt) (eventType : String) :
    (AttemptPhase.verified ((Verification.failed (effectFailureReason eventType)
      (effectFailureMessage eventType)).finalMark attempt)).Owes := by
  have message : ((Verification.failed (effectFailureReason eventType)
      (effectFailureMessage eventType)).finalMark attempt) =
      .error (effectFailureMessage eventType) attempt.retryLimit [] := by
    simp [Verification.finalMark, Verification.mark, effectFailureMessage_ne]
  have stated : Text.strip (effectFailureMessage eventType) ≠ "" := by
    rw [effectFailureMessage]
    split <;> decide +kernel
  rcases strippedText_of_strip stated "error_message" with ⟨text, isText⟩
  rw [message, AttemptPhase.Owes]
  simp only [Mark.normalize, isText]
  exact ⟨_, rfl, trivial⟩

section Steps

variable {host : Host} {settings : FailClosedSettings} {state : DeferredState}

theorem DebtsHeld.holder (debts : DebtsHeld state) {ownerId other : String} {attempt : Attempt}
    {result : MarketDataProcessResult} (locked : state.job.lockedBy = some ownerId)
    (phase : state.workers other = some (.projected attempt result))
    (wrote : wroteRows result = true) : other = ownerId := by
  have same := (debts.running other attempt result phase wrote).1
  rw [locked, Option.some.injEq] at same
  exact same.symm

theorem debtsHeld_claim (debts : DebtsHeld state) (ownerId : String) (minAge : Nat)
    (now : Instant) : DebtsHeld (state.claim ownerId minAge now) := by
  rw [DeferredState.claim]
  split
  · next claims =>
      have pending : state.job.status = .pending := by
        have claimable := claims.2
        simp only [isClaimable, Bool.and_eq_true, decide_eq_true_eq] at claimable
        exact claimable.1.1
      have free : state.job.lockedBy.isSome = false := by
        by_contra locked
        rw [Bool.not_eq_false] at locked
        have processing := debts.locked.mp locked
        rw [pending] at processing
        cases processing
      have paid : state.owed = false := by
        by_contra owed
        rw [Bool.not_eq_false] at owed
        rcases debts.held owed with ⟨_, _, locked, _⟩ | error | deadLetter
        · rw [locked] at free
          cases free
        · rw [pending] at error
          cases error
        · rw [pending] at deadLetter
          cases deadLetter
      constructor
      · simp [claimJob]
      · intro owed
        exact absurd owed (by simp [DeferredState.setPhase, paid])
      · intro other attempt result phase wrote
        simp only [DeferredState.setPhase, Function.update_apply] at phase
        split at phase
        · cases phase
        · have held := (debts.running other attempt result phase wrote).1
          rw [held] at free
          cases free
  · exact debts

theorem DebtsHeld.paid (debts : DebtsHeld state) {ownerId : String} {phase : AttemptPhase}
    (locked : state.job.lockedBy = some ownerId) (isPhase : state.workers ownerId = some phase)
    (owesNot : ¬ phase.Owes) : state.owed = false := by
  by_contra owed
  rw [Bool.not_eq_false] at owed
  have processing := debts.locked.mp (by rw [locked]; rfl)
  rcases debts.held owed with ⟨other, otherPhase, held, isOther, owes⟩ | error | deadLetter
  · rw [locked, Option.some.injEq] at held
    subst held
    rw [isPhase, Option.some.injEq] at isOther
    exact owesNot (isOther ▸ owes)
  · rw [processing] at error
    cases error
  · rw [processing] at deadLetter
    cases deadLetter

theorem debtsHeld_project (debts : DebtsHeld state) (ownerId : String) (attempt : Attempt)
    (keeps : KeepsEffect settings state (.project ownerId attempt)) :
    DebtsHeld (state.project host ownerId attempt) := by
  rw [DeferredState.project]
  split
  · next phase =>
      have locked : state.job.lockedBy = some ownerId := keeps phase
      have paid : state.owed = false := debts.paid locked phase id
      have nobody : ∀ other attempt result, other ≠ ownerId →
          state.workers other = some (.projected attempt result) →
          wroteRows result = true → False := by
        intro other attempt result different isPhase wrote
        exact different (debts.holder locked isPhase wrote)
      split
      · constructor
        · exact debts.locked
        · intro owed
          exact absurd owed (by simp [DeferredState.setPhase, paid])
        · intro other otherAttempt result isPhase wrote
          simp only [DeferredState.setPhase, Function.update_apply] at isPhase
          split at isPhase
          · cases isPhase
          · next different => exact (nobody other _ _ different isPhase wrote).elim
      · next written result _ =>
          constructor
          · exact debts.locked
          · intro owed
            left
            refine ⟨ownerId, .projected attempt result, locked, ?_, ?_⟩
            · simp [DeferredState.setPhase]
            · simpa [paid, AttemptPhase.Owes] using owed
          · intro other otherAttempt otherResult isPhase wrote
            simp only [DeferredState.setPhase, Function.update_apply] at isPhase
            split at isPhase
            · next same =>
                cases isPhase
                refine ⟨same ▸ locked, ?_⟩
                simp [wrote]
            · next different => exact (nobody other _ _ different isPhase wrote).elim
  · exact debts

theorem debtsHeld_effect (debts : DebtsHeld state) (ownerId : String) (outcome : EffectOutcome)
    (keeps : KeepsEffect settings state (.effect ownerId outcome)) :
    DebtsHeld (state.effect host settings ownerId outcome) := by
  rw [DeferredState.effect]
  split
  · next attempt result phase =>
      by_cases wrote : wroteRows result = true
      · rcases debts.running ownerId attempt result phase wrote with ⟨locked, owed⟩
        have alone : ∀ other otherAttempt otherResult, other ≠ ownerId →
            state.workers other = some (.projected otherAttempt otherResult) →
            wroteRows otherResult = true → False := by
          intro other otherAttempt otherResult different isPhase otherWrote
          exact different (debts.holder locked isPhase otherWrote)
        constructor
        · exact debts.locked
        · intro stillOwed
          have failed : outcome.failed = true := by
            simpa [owed, wrote] using stillOwed
          have fails : failsAttempt settings state.job result outcome = true := by
            simp [failsAttempt, wrote, failed, keeps attempt result phase wrote failed]
          left
          refine ⟨ownerId, _, locked, Function.update_self .., ?_⟩
          rw [endAttempt, if_pos fails]
          exact owes_effectFailure attempt _
        · intro other otherAttempt otherResult isPhase otherWrote
          simp only [DeferredState.setPhase, Function.update_apply] at isPhase
          split at isPhase
          · cases isPhase
          · next different => exact (alone other _ _ different isPhase otherWrote).elim
      · have unchanged : (state.owed && !(wroteRows result && !outcome.failed)) = state.owed := by
          simp [wrote]
        constructor
        · exact debts.locked
        · intro owed
          rcases debts.held (unchanged ▸ owed) with
            ⟨other, otherPhase, locked, isOther, owes⟩ | ended
          · left
            refine ⟨other, otherPhase, locked, ?_, owes⟩
            have different : other ≠ ownerId := by
              rintro rfl
              rw [phase, Option.some.injEq] at isOther
              subst isOther
              exact wrote owes
            simp [DeferredState.setPhase, Function.update_of_ne different, isOther]
          · exact .inr ended
        · intro other otherAttempt otherResult isPhase otherWrote
          simp only [DeferredState.setPhase, Function.update_apply] at isPhase
          split at isPhase
          · cases isPhase
          · rcases debts.running other otherAttempt otherResult isPhase otherWrote with
              ⟨locked, owed⟩
            exact ⟨locked, unchanged.trans owed⟩
  · exact debts

theorem DebtsHeld.leave (debts : DebtsHeld state) (ownerId : String)
    (free : state.HoldsDebt → state.job.lockedBy ≠ some ownerId) :
    DebtsHeld (state.setPhase ownerId none) := by
  constructor
  · exact debts.locked
  · intro owed
    rcases debts.held owed with ⟨other, phase, locked, isOther, owes⟩ | ended
    · left
      refine ⟨other, phase, locked, ?_, owes⟩
      have different : other ≠ ownerId := by
        rintro rfl
        exact free ⟨owed, by rw [locked]; rfl⟩ locked
      simp [DeferredState.setPhase, Function.update_of_ne different, isOther]
    · exact .inr ended
  · intro other attempt result isPhase wrote
    simp only [DeferredState.setPhase, Function.update_apply] at isPhase
    split at isPhase
    · cases isPhase
    · exact debts.running other attempt result isPhase wrote

theorem debtsHeld_beginMark (debts : DebtsHeld state) (ownerId : String) (now : Instant) :
    DebtsHeld (state.beginMark ownerId now) := by
  rw [DeferredState.beginMark]
  split
  · next mark phase =>
      split
      · next refused =>
          apply debts.leave
          rintro ⟨owed, _⟩ locked
          have paid := debts.paid locked phase (by
            rintro ⟨checked, accepted, _⟩
            rw [refused] at accepted
            cases accepted)
          rw [owed] at paid
          cases paid
      · next checked accepted =>
          split
          · next locked =>
              constructor
              · exact debts.locked
              · intro owed
                left
                refine ⟨ownerId, _, locked, Function.update_self .., ?_⟩
                by_contra isOther
                have paid := debts.paid locked phase (by
                  rintro ⟨again, alsoAccepted, final⟩
                  rw [accepted] at alsoAccepted
                  cases alsoAccepted
                  exact isOther final)
                exact absurd owed (by simp [DeferredState.setPhase, paid])
              · intro other attempt result isPhase wrote
                simp only [DeferredState.setPhase, Function.update_apply] at isPhase
                split at isPhase
                · cases isPhase
                · exact debts.running other attempt result isPhase wrote
          · next lost =>
              apply debts.leave
              rintro _ locked
              exact lost locked
  · exact debts

theorem status_of_finalError {mark : Mark} (final : mark.IsFinalError) (row : ProjectionJob)
    (now : String) (job : ProjectionJob) :
    (mark.change host row now job).status = .error ∨
      (mark.change host row now job).status = .deadLetter := by
  cases mark with
  | error message retryLimit evidence =>
      have status : ((Mark.error message retryLimit evidence).change host row now job).status =
          statusAfterError row.attempts retryLimit .error := rfl
      rw [status, statusAfterError]
      split
      · exact .inr rfl
      · exact .inl rfl
  | applied | skipped | retryableError => exact final.elim

theorem debtsHeld_finishMark (debts : DebtsHeld state) (ownerId : String) (now : Instant)
    (keeps : KeepsEffect settings state (.finishMark ownerId now)) :
    DebtsHeld (state.finishMark host ownerId now) := by
  rw [DeferredState.finishMark]
  split
  · next pending phase =>
      split
      · next refused =>
          apply debts.leave
          rintro ⟨owed, _⟩ locked
          rcases keeps pending phase locked owed with ⟨ledger, recorded⟩
          rw [refused] at recorded
          cases recorded
      · by_cases locked : state.job.lockedBy = some ownerId
        · simp only [if_pos locked]
          have released := released_markChange host pending.row (datetimeToWire pending.now)
            pending.mark state.job
          constructor
          · simp [released.1, released.2]
          · intro owed
            right
            apply status_of_finalError
            by_contra isOther
            have paid := debts.paid locked phase isOther
            exact absurd owed (by simp [DeferredState.setPhase, paid])
          · intro other attempt result isPhase wrote
            simp only [DeferredState.setPhase, Function.update_apply] at isPhase
            split at isPhase
            · cases isPhase
            · next different => exact absurd (debts.holder locked isPhase wrote) different
        · simp only [if_neg locked]
          have left := debts.leave ownerId fun _ => locked
          exact ⟨left.locked, left.held, left.running⟩
  · exact debts

theorem debtsHeld_reset (debts : DebtsHeld state) (staleSec : Int) (now : Instant)
    (keeps : KeepsEffect settings state (.reset staleSec now)) :
    DebtsHeld (state.reset staleSec now) := by
  rw [DeferredState.reset]
  split
  · next stale =>
      have processing : state.job.status = .processing := by
        rw [isStaleProcessing, Bool.and_eq_true, decide_eq_true_eq] at stale
        exact stale.1
      have paid : state.owed = false := by
        by_contra owed
        rw [Bool.not_eq_false] at owed
        have fresh := keeps ⟨owed, debts.locked.mpr processing⟩
        rw [fresh] at stale
        cases stale
      constructor
      · simp [resetJob]
      · intro owed
        rw [paid] at owed
        cases owed
      · intro other attempt result isPhase wrote
        have owed := (debts.running other attempt result isPhase wrote).2
        rw [paid] at owed
        cases owed
  · exact debts

theorem debtsHeld_next (debts : DebtsHeld state) (op : DeferredOp)
    (keeps : KeepsEffect settings state op) :
    DebtsHeld ((deferredSystem host settings).next state op) := by
  cases op with
  | claim ownerId minAge now => exact debtsHeld_claim debts ownerId minAge now
  | project ownerId attempt => exact debtsHeld_project debts ownerId attempt keeps
  | effect ownerId outcome => exact debtsHeld_effect debts ownerId outcome keeps
  | beginMark ownerId now => exact debtsHeld_beginMark debts ownerId now
  | finishMark ownerId now => exact debtsHeld_finishMark debts ownerId now keeps
  | crash ownerId => exact debts.leave ownerId keeps
  | reset staleSec now => exact debtsHeld_reset debts staleSec now keeps
  | elsewhere tables => exact ⟨debts.locked, debts.held, debts.running⟩

end Steps

/-- In a run whose steps keep the side effect, a job is not applied before the side effect of its
rows has run without an error. -/
theorem deferred_effects_run (settings : FailClosedSettings) (tables : MarketTables)
    (job : ProjectionJob) (ops : List DeferredOp)
    (along : (deferredSystem host settings).Along (KeepsEffect settings)
      (waitingJob tables job) ops) :
    (deferredSystem host settings).Throughout EffectsRun (waitingJob tables job) ops := by
  have start := debtsHeld_waitingJob tables job
  rw [System.throughout_iff]
  refine ⟨effectsRun_of_debtsHeld start, ?_⟩
  refine System.Along.imp DebtsHeld ?_ ?_ start along
  · intro state op debts keeps
    exact debtsHeld_next debts op keeps
  · intro state op debts keeps
    exact effectsRun_of_debtsHeld (debtsHeld_next debts op keeps)

/-! ## A worker that stops after its rows -/

/-- A stock comes into a condition. -/
def enteredCondition : GatewayEvent where
  eventId := "event-1"
  eventType := "condition_event"
  source := "kiwoom"
  ts := 63900000000000000
  payload := [("condition_id", .str "001"), ("condition_name", .str "volume"),
    ("code", .str "005930"), ("name", .str "Samsung"), ("action", .str "ENTER")]
  commandId := none
  idempotencyKey := none
  eventId_stripped := stripped_firstEvent
  eventType_stripped := by decide
  source_stripped := stripped_kiwoom
  commandId_stripped := strippedOption_none
  idempotencyKey_stripped := strippedOption_none

/-- Its inline projection was skipped, and its job waits. -/
def waitingCondition : DeferredState :=
  waitingJob
    (storeEvent emptyHistory.tables { event := enteredCondition, accepted := true }
      { eventId := "event-1", eventRowid := 1, eventType := "condition_event",
        receivedAt := "2025-11-29T08:00:00Z" })
    (pendingJob enteredCondition (some 1) "2025-11-29T08:00:00Z" (jobSpec "market_data"))

def applyingAttempt : Attempt where
  applies := true
  enabled := true
  readings := { noReadings with now := 63900000002000000 }
  fault := none
  skippedInline := true
  sideEffectFailure := none
  retryable := false
  retryLimit := 3

def failsClosed : FailClosedSettings where
  trResponse := true
  conditionEvent := true

/-- The first worker stops between the rows and the side effect, and a second one takes over. -/
def stoppedAfterRows : List DeferredOp :=
  [.claim "worker-1" 0 63900000001000000, .project "worker-1" applyingAttempt,
    .crash "worker-1", .reset 60 63900000100000000,
    .claim "worker-2" 0 63900000101000000, .project "worker-2" applyingAttempt,
    .beginMark "worker-2" 63900000102000000, .finishMark "worker-2" 63900000102000000]

def servedInOneAttempt : List DeferredOp :=
  [.claim "worker-1" 0 63900000001000000, .project "worker-1" applyingAttempt,
    .effect "worker-1" { status := "APPLIED", errorCount := 0 },
    .beginMark "worker-1" 63900000003000000, .finishMark "worker-1" 63900000003000000]

theorem stoppedAfterRows_end :
    let reached := (deferredSystem wholeNumberHost failsClosed).run waitingCondition
      stoppedAfterRows
    reached.job.status = .applied ∧ reached.owed = true := by
  decide +kernel

/-- The job is applied, and the fusion of the condition was never refreshed. -/
theorem stopped_worker_loses_effect :
    ¬ (deferredSystem wholeNumberHost failsClosed).Throughout EffectsRun waitingCondition
      stoppedAfterRows := by
  intro law
  rcases stoppedAfterRows_end with ⟨applied, owed⟩
  have paid := law stoppedAfterRows [] (List.append_nil _).symm applied
  rw [owed] at paid
  cases paid

theorem served_job_owes_nothing :
    (deferredSystem wholeNumberHost failsClosed).Throughout EffectsRun waitingCondition
      servedInOneAttempt := by
  apply deferred_effects_run wholeNumberHost failsClosed
  refine ⟨trivial, ?_, ?_, trivial, ?_, trivial⟩
  · intro _
    decide +kernel
  · intro _ _ _ _ failed
    exact absurd failed (by decide)
  · intro _ _ _ owed
    exact absurd owed (by decide +kernel)

end SuseokTrader
