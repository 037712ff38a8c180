import SuseokTrader.Runtime.IncrementalQueue

/-!
# What the backfill reaches

The backfill cuts its ranking at the limit and drops the stale ticks only then,
so a stale candidate of a better state holds a slot that a fresh one waits for.
It then asks for the codes of the rows that are left, and a code brings every
open candidate it has. Whether a candidate can be queued at all depends on its
dead letters and on its row in the queue, and no other candidate changes that.
-/

namespace SuseokTrader

structure FailsOrReturns {Value : Type} (call : Checked Value) (mustFail : Prop)
    (returns : Value → Prop) : Prop where
  fails : mustFail → ∃ failure, call = .error failure
  returns : ¬ mustFail → ∃ value, call = .ok value ∧ returns value

theorem FailsOrReturns.bind {First Second : Type} {call : Checked First} {mustFail laterFail : Prop}
    {middle : First → Prop} {rest : First → Checked Second} {returns : Second → Prop}
    (first : FailsOrReturns call mustFail middle)
    (later : ∀ value, middle value → FailsOrReturns (rest value) laterFail returns) :
    FailsOrReturns (call >>= rest) (mustFail ∨ laterFail) returns := by
  by_cases fails : mustFail
  · rcases first.fails fails with ⟨failure, isError⟩
    exact ⟨fun _ => ⟨failure, by rw [isError]; rfl⟩, fun free => absurd (Or.inl fails) free⟩
  · rcases first.returns fails with ⟨value, isOk, holds⟩
    have same : call >>= rest = rest value := by rw [isOk]; rfl
    rw [same]
    constructor
    · intro either
      exact (later value holds).fails (either.resolve_left fails)
    · intro free
      exact (later value holds).returns fun late => free (Or.inr late)

theorem FailsOrReturns.map {First Second : Type} {call : Checked First} {mustFail : Prop}
    {returns : First → Prop} {weaker : Second → Prop} (holds : FailsOrReturns call mustFail returns)
    (change : First → Second) (entails : ∀ value, returns value → weaker (change value)) :
    FailsOrReturns (call >>= fun value => pure (change value)) mustFail weaker where
  fails := fun fails => by
    rcases holds.fails fails with ⟨failure, isError⟩
    exact ⟨failure, by rw [isError]; rfl⟩
  returns := fun free => by
    rcases holds.returns free with ⟨value, isOk, known⟩
    exact ⟨change value, by rw [isOk]; rfl, entails value known⟩

theorem FailsOrReturns.imp {Value : Type} {call : Checked Value} {mustFail other : Prop}
    {returns weaker : Value → Prop} (holds : FailsOrReturns call mustFail returns)
    (same : other ↔ mustFail) (entails : ∀ value, returns value → weaker value) :
    FailsOrReturns call other weaker where
  fails := fun fails => holds.fails (same.mp fails)
  returns := fun free => by
    rcases holds.returns (fun fails => free (same.mpr fails)) with ⟨value, isOk, known⟩
    exact ⟨value, isOk, entails value known⟩

variable {settings : EvaluationSettings} {tables after : EvaluationTables}
  (candidate : EvaluatedCandidate) (reason : String) (sourceEventId : Option String)
  (priority : Int) (now : String)

namespace EvaluationTables

/-! ## One candidate -/

def canQueue (settings : EvaluationSettings) (tables : EvaluationTables)
    (candidateId : String) : Bool :=
  !tables.isExhausted settings candidateId && !tables.isBlocked candidateId

def isStuck (settings : EvaluationSettings) (tables : EvaluationTables)
    (candidateId : String) : Bool :=
  tables.isExhausted settings candidateId && !tables.canAppendGeneration candidateId

structure StandsAs (settings : EvaluationSettings) (before after : EvaluationTables) : Prop where
  candidates : after.candidates = before.candidates
  canQueue : ∀ id, after.canQueue settings id = before.canQueue settings id
  isStuck : ∀ id, after.isStuck settings id = before.isStuck settings id

theorem StandsAs.refl (settings : EvaluationSettings) (tables : EvaluationTables) :
    StandsAs settings tables tables where
  candidates := rfl
  canQueue := fun _ => rfl
  isStuck := fun _ => rfl

theorem StandsAs.trans {middle : EvaluationTables} (first : StandsAs settings tables middle)
    (second : StandsAs settings middle after) : StandsAs settings tables after where
  candidates := second.candidates.trans first.candidates
  canQueue := fun id => (second.canQueue id).trans (first.canQueue id)
  isStuck := fun id => (second.isStuck id).trans (first.isStuck id)

theorem StandsAs.stuck_iff (stands : StandsAs settings tables after)
    (asked : EvaluatedCandidate → Prop) :
    (∃ row, asked row ∧ tables.isStuck settings row.candidateInstanceId = true) ↔
      ∃ row, asked row ∧ after.isStuck settings row.candidateInstanceId = true := by
  simp only [stands.isStuck]

theorem candidateInstanceId_queuedRow :
    (tables.queuedRow candidate reason sourceEventId priority now).candidateInstanceId =
      candidate.candidateInstanceId := by
  unfold queuedRow
  split <;> rfl

theorem find?_upsertQueuedRow (tables : EvaluationTables) :
    (tables.upsertQueueRow (tables.queuedRow candidate reason sourceEventId priority
      now)).queue.find? candidate.candidateInstanceId =
        some (tables.queuedRow candidate reason sourceEventId priority now) := by
  have stored := Table.find?_upsert_self tables.queue
    (tables.queuedRow candidate reason sourceEventId priority now)
  have isKey : Keyed.key (tables.queuedRow candidate reason sourceEventId priority now) =
      candidate.candidateInstanceId := candidateInstanceId_queuedRow ..
  rw [isKey] at stored
  exact stored

theorem isExhausted_upsert (id : String) :
    isExhausted settings (tables.upsertQueueRow
      (tables.queuedRow candidate reason sourceEventId priority now)) id =
      tables.isExhausted settings id := by
  have isKey : Keyed.key (tables.queuedRow candidate reason sourceEventId priority now) =
      candidate.candidateInstanceId := candidateInstanceId_queuedRow ..
  unfold isExhausted
  by_cases same : candidate.candidateInstanceId = id
  · subst same
    rw [find?_upsertQueuedRow, Option.any_some, queuedRow]
    cases tables.queue.find? candidate.candidateInstanceId with
    | none =>
        simp only [Option.any_none, decide_eq_false_iff_not]
        omega
    | some row => rfl
  · rw [upsertQueueRow, Table.find?_upsert_of_ne tables.queue (isKey.trans_ne same)]

theorem standsAs_moved {id : String} (exhausted : tables.isExhausted settings id = true)
    (moved : tables.moveQueueRowToDeadLetter id = .ok after) :
    StandsAs settings tables after ∧ after.isBlocked id = true := by
  unfold moveQueueRowToDeadLetter at moved
  split at moved
  · next fits =>
      cases moved
      have blocked : ∀ other, blockers { tables.deleteQueueRow id with
          deadLetters := ⟨id, .activeUnresolved⟩ :: tables.deadLetters } other =
            (if id = other then [.activeUnresolved] else []) ++ tables.blockers other := by
        intro other
        by_cases same : id = other
        · simp [blockers, same, DeadLetterBucket.isBlocking]
        · simp [blockers, same]
      have rows : ∀ other, isExhausted settings { tables.deleteQueueRow id with
          deadLetters := ⟨id, .activeUnresolved⟩ :: tables.deadLetters } other =
            (tables.isExhausted settings other && id ≠ other) := by
        intro other
        have deleted := Table.find?_deleteWhere tables.queue
        simp only [isExhausted, deleteQueueRow, deleted]
        cases found : tables.queue.find? other with
        | none => rfl
        | some row =>
            have isKey : row.candidateInstanceId = other := Table.key_of_find? found
            by_cases same : id = other
            · simp [isKey, same]
            · simp [isKey, same, Ne.symm same]
      refine ⟨⟨rfl, ?_, ?_⟩, by simp [isBlocked, blocked]⟩
      · intro other
        by_cases same : id = other
        · subst same
          simp [canQueue, isBlocked, blocked, exhausted]
        · simp [canQueue, rows, isBlocked, blocked, same]
      · intro other
        by_cases same : id = other
        · subst same
          simp [isStuck, rows, fits]
        · simp [isStuck, rows, canAppendGeneration, blocked, same]
  · cases moved

/-- A turn of the loop queues exactly the candidates that are fit for it. -/
theorem enqueueCandidate_spec (settings : EvaluationSettings) (tables : EvaluationTables) :
    FailsOrReturns
      (tables.enqueueCandidate settings candidate reason sourceEventId priority now)
      (tables.isStuck settings candidate.candidateInstanceId = true)
      fun result => result.2 = tables.canQueue settings candidate.candidateInstanceId ∧
        StandsAs settings tables result.1 := by
  cases exhausted : tables.isExhausted settings candidate.candidateInstanceId with
  | true =>
      cases fits : tables.canAppendGeneration candidate.candidateInstanceId with
      | true =>
          have moves : ∃ moved, tables.moveQueueRowToDeadLetter candidate.candidateInstanceId =
              .ok moved := ⟨_, if_pos fits⟩
          rcases moves with ⟨moved, moves⟩
          rcases standsAs_moved exhausted moves with ⟨stands, blocked⟩
          constructor
          · simp [isStuck, fits]
          · intro _
            refine ⟨(moved, false), ?_, by simp [canQueue, exhausted], stands⟩
            simp [enqueueCandidate, exhausted, moves, blocked, bind, Except.bind, pure, Except.pure]
      | false =>
          constructor
          · intro _
            refine ⟨.crash
              "incremental evaluation candidate already has an unresolved dead-letter generation",
              ?_⟩
            simp [enqueueCandidate, moveQueueRowToDeadLetter, exhausted, fits, bind, Except.bind]
          · intro free
            simp [isStuck, exhausted, fits] at free
  | false =>
      refine ⟨by simp [isStuck, exhausted], fun _ => ?_⟩
      cases blocked : tables.isBlocked candidate.candidateInstanceId with
      | true =>
          refine ⟨(tables, false), ?_, by simp [canQueue, blocked], StandsAs.refl settings tables⟩
          simp [enqueueCandidate, exhausted, blocked, bind, Except.bind, pure, Except.pure]
      | false =>
          refine ⟨(tables.upsertQueueRow
            (tables.queuedRow candidate reason sourceEventId priority now), true), ?_, ?_,
            rfl, ?_, ?_⟩
          · simp [enqueueCandidate, exhausted, blocked, bind, Except.bind, pure, Except.pure]
          · simp [canQueue, exhausted, blocked]
          · intro id
            rw [canQueue, isExhausted_upsert]
            rfl
          · intro id
            rw [isStuck, isExhausted_upsert]
            rfl

end EvaluationTables

open EvaluationTables

/-! ## The candidates of a code -/

theorem enqueueCandidates_spec (settings : EvaluationSettings) (rows : List EvaluatedCandidate)
    (tables : EvaluationTables) :
    FailsOrReturns (enqueueCandidates settings reason sourceEventId priority now tables rows)
      (∃ row, row ∈ rows ∧ tables.isStuck settings row.candidateInstanceId = true)
      fun result => (∀ id, id ∈ result.2.1 ↔ ∃ row ∈ rows,
          tables.canQueue settings row.candidateInstanceId = true ∧
            row.candidateInstanceId = id) ∧
        StandsAs settings tables result.1 := by
  induction rows generalizing tables with
  | nil => exact ⟨by simp, fun _ => ⟨_, rfl, by simp, StandsAs.refl settings tables⟩⟩
  | cons row rows ih =>
      have first := enqueueCandidate_spec row reason sourceEventId priority now settings tables
      have later : ∀ value : EvaluationTables × Bool,
          (value.2 = tables.canQueue settings row.candidateInstanceId ∧
            StandsAs settings tables value.1) →
          FailsOrReturns
            (enqueueCandidates settings reason sourceEventId priority now value.1 rows >>=
              fun result => pure (if value.2 then
                (result.1, row.candidateInstanceId :: result.2.1, result.2.2)
              else (result.1, result.2.1, row.candidateInstanceId :: result.2.2)))
            (∃ other, other ∈ rows ∧ tables.isStuck settings other.candidateInstanceId = true)
            fun result => (∀ id, id ∈ result.2.1 ↔ ∃ other ∈ row :: rows,
                tables.canQueue settings other.candidateInstanceId = true ∧
                  other.candidateInstanceId = id) ∧
              StandsAs settings tables result.1 := by
        rintro ⟨middle, queued⟩ ⟨isQueued, stands⟩
        refine ((ih middle).imp (stands.stuck_iff (· ∈ rows)) fun _ holds => holds).map _ ?_
        rintro ⟨last, enqueued, blocked⟩ ⟨listed, since⟩
        simp only [stands.canQueue] at listed
        cases queued with
        | true =>
            refine ⟨fun id => ?_, stands.trans since⟩
            simp only [if_true, List.mem_cons, exists_eq_or_imp, ← isQueued, true_and, listed,
              @eq_comm _ id]
        | false =>
            refine ⟨fun id => ?_, stands.trans since⟩
            simp [listed, ← isQueued]
      exact (first.bind later).imp (by simp) fun _ holds => holds

/-! ## The codes of the rows -/

def BackfillRow.AsksFor (row : BackfillRow) (tables : EvaluationTables)
    (candidate : EvaluatedCandidate) : Prop :=
  candidate ∈ tables.candidates ∧ candidate.state ≠ .closed ∧
    validateStockCode (.str row.candidate.code) = .ok candidate.code

theorem mem_activeCandidateRowsForCode {code : String} :
    candidate ∈ tables.activeCandidateRowsForCode code ↔
      candidate ∈ tables.candidates ∧ candidate.code = code ∧ candidate.state ≠ .closed := by
  simp [activeCandidateRowsForCode]

theorem enqueueForCode_spec (enabled : settings.incrementalEvaluationEnabled = true)
    (row : BackfillRow) (tables : EvaluationTables) (now : Instant) :
    FailsOrReturns (enqueueIncrementalEvaluationForCode settings tables row.candidate.code reason
        sourceEventId priority now)
      (∃ candidate, row.AsksFor tables candidate ∧
        tables.isStuck settings candidate.candidateInstanceId = true)
      fun result => (∀ id, id ∈ result.2.candidateIds ↔ ∃ candidate, row.AsksFor tables candidate ∧
          tables.canQueue settings candidate.candidateInstanceId = true ∧
            candidate.candidateInstanceId = id) ∧
        StandsAs settings tables result.1 := by
  unfold enqueueIncrementalEvaluationForCode BackfillRow.AsksFor
  simp only [enabled]
  cases validateStockCode (.str row.candidate.code) with
  | error failure =>
      exact ⟨by simp, fun _ => ⟨_, rfl, by simp, StandsAs.refl settings tables⟩⟩
  | ok code =>
      have listed : ∀ candidate, candidate ∈ tables.activeCandidateRowsForCode code ↔
          candidate ∈ tables.candidates ∧ candidate.state ≠ .closed ∧
            (Except.ok code : Checked String) = .ok candidate.code := by
        intro candidate
        rw [mem_activeCandidateRowsForCode, Except.ok.injEq]
        tauto
      simp only [← listed]
      cases rows : tables.activeCandidateRowsForCode code with
      | nil => exact ⟨by simp, fun _ => ⟨_, rfl, by simp, StandsAs.refl settings tables⟩⟩
      | cons first rest =>
          have spec := enqueueCandidates_spec (Text.upper (Text.strip reason)) sourceEventId
            priority (datetimeToWire now) settings (first :: rest) tables
          exact spec.map (fun result : EvaluationTables × List String × List String =>
            (result.1, (⟨enqueueStatus result.2.1 result.2.2, result.2.1, result.2.2⟩ :
              EvaluationEnqueueResult))) fun _ holds => holds

theorem enqueueRows_spec (enabled : settings.incrementalEvaluationEnabled = true)
    (rows : List BackfillRow) (tables : EvaluationTables) (now : Instant) :
    FailsOrReturns (enqueueRows settings now tables rows)
      (∃ candidate, (∃ row ∈ rows, row.AsksFor tables candidate) ∧
        tables.isStuck settings candidate.candidateInstanceId = true)
      fun result => (∀ id, (∃ answer ∈ result.2, id ∈ answer.candidateIds) ↔
          ∃ candidate, (∃ row ∈ rows, row.AsksFor tables candidate) ∧
            tables.canQueue settings candidate.candidateInstanceId = true ∧
              candidate.candidateInstanceId = id) ∧
        StandsAs settings tables result.1 := by
  induction rows generalizing tables with
  | nil => exact ⟨by simp, fun _ => ⟨_, rfl, by simp, StandsAs.refl settings tables⟩⟩
  | cons row rows ih =>
      have first := enqueueForCode_spec "CANDIDATE_EVALUATION_BACKFILL" (some row.tick.eventId) 85
        enabled row tables now
      have later : ∀ value : EvaluationTables × EvaluationEnqueueResult,
          ((∀ id, id ∈ value.2.candidateIds ↔ ∃ candidate, row.AsksFor tables candidate ∧
              tables.canQueue settings candidate.candidateInstanceId = true ∧
                candidate.candidateInstanceId = id) ∧
            StandsAs settings tables value.1) →
          FailsOrReturns
            (enqueueRows settings now value.1 rows >>= fun result =>
              pure (result.1, value.2 :: result.2))
            (∃ candidate, (∃ other ∈ rows, other.AsksFor tables candidate) ∧
              tables.isStuck settings candidate.candidateInstanceId = true)
            fun result => (∀ id, (∃ answer ∈ result.2, id ∈ answer.candidateIds) ↔
                ∃ candidate, (∃ other ∈ row :: rows, other.AsksFor tables candidate) ∧
                  tables.canQueue settings candidate.candidateInstanceId = true ∧
                    candidate.candidateInstanceId = id) ∧
              StandsAs settings tables result.1 := by
        rintro ⟨middle, answer⟩ ⟨queued, stands⟩
        have asksFor : ∀ other candidate, BackfillRow.AsksFor other middle candidate ↔
            other.AsksFor tables candidate := by
          intro other candidate
          rw [BackfillRow.AsksFor, stands.candidates, BackfillRow.AsksFor]
        have rest := ih middle
        simp only [asksFor, stands.canQueue, stands.isStuck] at rest
        refine rest.map _ ?_
        rintro ⟨last, answers⟩ ⟨isQueued, since⟩
        refine ⟨fun id => ?_, stands.trans since⟩
        simp only [List.mem_cons, or_and_right, exists_or, exists_eq_left, isQueued, queued]
      refine (first.bind later).imp ?_ fun _ holds => holds
      simp only [List.mem_cons, or_and_right, exists_or, exists_eq_left]

/-! ## The backfill -/

/-- The first candidates of the ranking whose tick is fresh and not yet evaluated. -/
def firstFreshCandidates (settings : EvaluationSettings) (tables : EvaluationTables)
    (tradeDate : Option String) (limit : Int) (now : Instant) : List BackfillRow :=
  ((candidatesMissingEvaluation tables tradeDate).filter
    (BackfillRow.isFresh settings now)).take limit.toNat

/-- The backfill queues those candidates and no others. -/
def BackfillsFirstFresh (settings : EvaluationSettings) (tables : EvaluationTables)
    (tradeDate : Option String) (limit : Int) (now : Instant) : Prop :=
  ∃ after results, enqueueIncrementalEvaluationForFreshCandidates settings tables tradeDate limit
      now = .ok (after, results) ∧
    ∀ id, (∃ result ∈ results, id ∈ result.candidateIds) ↔
      ∃ row ∈ firstFreshCandidates settings tables tradeDate limit now,
        row.candidate.candidateInstanceId = id

def Brought (settings : EvaluationSettings) (tables : EvaluationTables)
    (tradeDate : Option String) (limit : Int) (now : Instant)
    (candidate : EvaluatedCandidate) : Prop :=
  ∃ row ∈ freshCandidateRowsMissingEvaluation settings tables tradeDate limit now,
    row.AsksFor tables candidate

/-- The slots bring every one of the first fresh candidates, all of them fit for the queue, and
nobody else who is. -/
structure SlotsSuffice (settings : EvaluationSettings) (tables : EvaluationTables)
    (tradeDate : Option String) (limit : Int) (now : Instant) : Prop where
  noneStuck : ∀ candidate, Brought settings tables tradeDate limit now candidate →
    tables.isStuck settings candidate.candidateInstanceId = false
  reached : ∀ row ∈ firstFreshCandidates settings tables tradeDate limit now,
    tables.canQueue settings row.candidate.candidateInstanceId = true ∧
      ∃ candidate, Brought settings tables tradeDate limit now candidate ∧
        candidate.candidateInstanceId = row.candidate.candidateInstanceId
  noOther : ∀ candidate, Brought settings tables tradeDate limit now candidate →
    tables.canQueue settings candidate.candidateInstanceId = true →
      ∃ row ∈ firstFreshCandidates settings tables tradeDate limit now,
        row.candidate.candidateInstanceId = candidate.candidateInstanceId

theorem enqueueRows_disabled (disabled : settings.incrementalEvaluationEnabled = false)
    (tables : EvaluationTables) (rows : List BackfillRow) (now : Instant) :
    enqueueRows settings now tables rows =
      .ok (tables, rows.map fun _ => { status := "DISABLED" }) := by
  induction rows with
  | nil => rfl
  | cons row rows ih =>
      simp [enqueueRows, enqueueIncrementalEvaluationForCode, disabled, ih, bind, Except.bind, pure,
        Except.pure]

/-- The backfill queues exactly the first fresh candidates when the stale ones leave them their
slots and their codes bring nobody else. -/
theorem backfills_first_fresh_iff (settings : EvaluationSettings) (tables : EvaluationTables)
    (tradeDate : Option String) (limit : Int) (now : Instant) :
    BackfillsFirstFresh settings tables tradeDate limit now ↔
      if settings.incrementalEvaluationEnabled then
        SlotsSuffice settings tables tradeDate limit now
      else firstFreshCandidates settings tables tradeDate limit now = [] := by
  unfold BackfillsFirstFresh enqueueIncrementalEvaluationForFreshCandidates
  cases enabled : settings.incrementalEvaluationEnabled with
  | false =>
      rw [if_neg Bool.false_ne_true]
      simp only [enqueueRows_disabled enabled, Except.ok.injEq, Prod.mk.injEq]
      constructor
      · rintro ⟨after, results, ⟨rfl, rfl⟩, queues⟩
        apply List.eq_nil_iff_forall_not_mem.mpr
        intro row wanted
        rcases (queues row.candidate.candidateInstanceId).mpr ⟨row, wanted, rfl⟩ with
          ⟨result, answered, queued⟩
        rcases List.mem_map.mp answered with ⟨_, _, rfl⟩
        cases queued
      · intro none
        simp [none]
  | true =>
      have spec := enqueueRows_spec enabled
        (freshCandidateRowsMissingEvaluation settings tables tradeDate limit now) tables now
      constructor
      · rintro ⟨after, results, isOk, queues⟩
        have free : ¬ ∃ candidate, Brought settings tables tradeDate limit now candidate ∧
            tables.isStuck settings candidate.candidateInstanceId = true := by
          intro stuck
          rcases spec.fails stuck with ⟨failure, isError⟩
          rw [isOk] at isError
          cases isError
        rcases spec.returns free with ⟨value, same, answers, _⟩
        rw [isOk, Except.ok.injEq] at same
        subst same
        simp only [queues] at answers
        constructor
        · intro candidate brought
          by_contra stuck
          exact free ⟨candidate, brought, by simpa using stuck⟩
        · intro row wanted
          rcases (answers _).mp ⟨row, wanted, rfl⟩ with ⟨candidate, brought, fit, same⟩
          exact ⟨same ▸ fit, candidate, brought, same⟩
        · intro candidate brought fit
          exact (answers _).mpr ⟨candidate, brought, fit, rfl⟩
      · intro suffice
        have free : ¬ ∃ candidate, Brought settings tables tradeDate limit now candidate ∧
            tables.isStuck settings candidate.candidateInstanceId = true := by
          rintro ⟨candidate, brought, stuck⟩
          rw [suffice.noneStuck candidate brought] at stuck
          cases stuck
        rcases spec.returns free with ⟨⟨after, results⟩, isOk, answers, _⟩
        refine ⟨after, results, isOk, fun id => (answers id).trans ⟨?_, ?_⟩⟩
        · rintro ⟨candidate, brought, fit, rfl⟩
          exact suffice.noOther candidate brought fit
        · rintro ⟨row, wanted, rfl⟩
          rcases suffice.reached row wanted with ⟨fit, candidate, brought, same⟩
          exact ⟨candidate, brought, same ▸ fit, same⟩

/-! ## A stale candidate in the slot -/

def backfillSettings : EvaluationSettings where
  incrementalEvaluationEnabled := true
  incrementalEvaluationRetryLimit := 3
  entryTimingStaleMaxSeconds := 60

/-- The tick of the first candidate is an hour old, that of the second has just come. -/
def staleBeforeFresh : EvaluationTables where
  candidates := [
    ⟨"candidate-1", "2026-07-17", "005930", .contextReady, "2026-07-17T00:00:00Z"⟩,
    ⟨"candidate-2", "2026-07-17", "000660", .watching, "2026-07-17T01:00:00Z"⟩]
  krxTick code :=
    if code = "005930" then some ⟨"2026-07-17T00:00:00Z", "event-1"⟩
    else some ⟨"2026-07-17T01:00:00Z", "event-2"⟩
  strategyEvaluatedAt _ := none
  riskEvaluatedAt _ := none
  deadLetters := []
  queue := .empty

/-- The stale candidate holds the only slot, so nothing is queued and the next call finds the same
tables. -/
theorem stale_candidate_holds_the_slot :
    enqueueIncrementalEvaluationForFreshCandidates backfillSettings staleBeforeFresh none 1
        63919846800000000 = .ok (staleBeforeFresh, []) ∧
      ¬ BackfillsFirstFresh backfillSettings staleBeforeFresh none 1 63919846800000000 := by
  have noRows : freshCandidateRowsMissingEvaluation backfillSettings staleBeforeFresh none 1
      63919846800000000 = [] := List.eq_nil_of_length_eq_zero (by decide +kernel)
  have wanted : (firstFreshCandidates backfillSettings staleBeforeFresh none 1
      63919846800000000).map (·.candidate.candidateInstanceId) = ["candidate-2"] := by
    decide +kernel
  have queuesNothing : enqueueIncrementalEvaluationForFreshCandidates backfillSettings
      staleBeforeFresh none 1 63919846800000000 = .ok (staleBeforeFresh, []) := by
    rw [enqueueIncrementalEvaluationForFreshCandidates, noRows, enqueueRows]
  refine ⟨queuesNothing, ?_⟩
  rintro ⟨after, results, isOk, queues⟩
  rw [queuesNothing, Except.ok.injEq, Prod.mk.injEq] at isOk
  rcases isOk with ⟨rfl, rfl⟩
  have isWanted : "candidate-2" ∈ (firstFreshCandidates backfillSettings staleBeforeFresh none 1
      63919846800000000).map (·.candidate.candidateInstanceId) := by
    rw [wanted]
    exact List.mem_singleton_self _
  rcases (queues "candidate-2").mpr (List.mem_map.mp isWanted) with ⟨_, none, _⟩
  cases none

end SuseokTrader
