import SuseokTrader.Gateway.KiwoomTr

/-!
# TR responses and their requests

A key is free again as soon as its request is answered, and its timer is not
stopped. A run in which no request is put over another, and every response and
every timer that finds a request finds the one it is for, calls each
submission back once.
-/

namespace SuseokTrader

/-! ## What is promised -/

namespace TrSubmission

def accepted (submission : TrSubmission) : Bool :=
  submission.requestCode.any (0 ≤ ·)

def standing (submission : TrSubmission) : Bool :=
  !submission.cancelled && submission.requestCode.all (0 ≤ ·)

def IsDue (timeoutSec : ℚ) (id : Nat) (submission : TrSubmission) (call : TrCompletion) : Prop :=
  match call.cause with
  | .response answers _ => answers = some id
  | .timeout => timeoutSec * 1000 ≤ ((call.completedAt - submission.submittedAt : ℕ) : ℚ)

end TrSubmission

def TrRunner.Awaits (runner : TrRunner) (id : Nat) (submission : TrSubmission) : Prop :=
  (runner.pending.find? submission.key).map PendingTr.submission = some id ∧
    (submission.scheduleTimeout = true → ∃ timer ∈ runner.timers, timer.submission = id)

/-- Every submission that is accepted and not cancelled is still awaited, or was called back once,
for what is due. -/
def TrRunner.Matched (timeoutSec : ℚ) (runner : TrRunner) : Prop :=
  ∀ id submission, runner.submissions id = some submission → submission.accepted = true →
    submission.cancelled = false →
    submission.completions = [] ∧ runner.Awaits id submission ∨
      ∃ call, submission.completions = [call] ∧ submission.IsDue timeoutSec id call

/-! ## Steps that meet their own request -/

def TrRunner.isOwn (runner : TrRunner) (key : String) (id : Nat) : Bool :=
  (runner.pending.find? key).all fun pending => pending.submission = id

def TrRequest.key (request : TrRequest) : String :=
  let trCode := Text.upper request.trCode
  pendingKey (orDefault request.screenNo "8700")
    (orDefault request.requestName (orDefault trCode "KIWOOM_TR")) trCode

/-- No request waits under the key of a new one; and a refusal, a cancel, a response and a timer
meet no request but their own. -/
def TrRunner.meetsItsOwn (runner : TrRunner) : TrOp → Bool
  | .submit request => (runner.pending.find? request.key).isNone
  | .returned id requestCode =>
      0 ≤ requestCode || (runner.submissions id).all fun submission =>
        submission.requestCode.isSome || runner.isOwn submission.key id
  | .cancel id => (runner.submissions id).all fun submission => runner.isOwn submission.key id
  | .respond answers header _ =>
      (runner.findPending header).all fun pending => answers = some pending.submission
  | .fire index =>
      (runner.timers[index]?).all fun timer =>
        runner.now < timer.dueAt || runner.isOwn timer.key timer.submission
  | .wait _ => true

/-! ## The invariant -/

/-- What holds of one submission. -/
structure TrKept (timeoutSec : ℚ) (runner : TrRunner) (id : Nat) (submission : TrSubmission) :
    Prop where
  past : submission.submittedAt ≤ runner.now
  awaited : submission.standing = true → submission.completions = [] →
    (runner.pending.find? submission.key).map PendingTr.submission = some id
  timed : submission.accepted = true → submission.cancelled = false →
    submission.completions = [] → submission.scheduleTimeout = true →
    ∃ timer ∈ runner.timers, timer.submission = id
  called : submission.completions = [] ∨
    ∃ call, submission.completions = [call] ∧ submission.IsDue timeoutSec id call

structure TrInvariant (timeoutSec : ℚ) (runner : TrRunner) : Prop where
  fresh : ∀ id, runner.count ≤ id → runner.submissions id = none
  entries : ∀ key pending, runner.pending.find? key = some pending →
    ∃ submission, runner.submissions pending.submission = some submission ∧
      submission.key = key ∧ submission.standing = true ∧ submission.completions = []
  timers : ∀ timer ∈ runner.timers, ∃ submission,
    runner.submissions timer.submission = some submission ∧ submission.key = timer.key ∧
      submission.submittedAt + TrRunner.timeoutMs timeoutSec ≤ timer.dueAt
  kept : ∀ id submission, runner.submissions id = some submission →
    TrKept timeoutSec runner id submission

variable {timeoutSec : ℚ} {runner : TrRunner} {id : Nat} {submission : TrSubmission}

theorem standing_of_accepted (accepted : submission.accepted = true)
    (notCancelled : submission.cancelled = false) : submission.standing = true := by
  unfold TrSubmission.accepted at accepted
  unfold TrSubmission.standing
  cases code : submission.requestCode with
  | none => simp [code] at accepted
  | some code =>
      simp_all

theorem TrInvariant.matched (invariant : TrInvariant timeoutSec runner) :
    runner.Matched timeoutSec := by
  intro id submission present accepted notCancelled
  have kept := invariant.kept id submission present
  rcases kept.called with waiting | called
  · left
    have standing := standing_of_accepted accepted notCancelled
    exact ⟨waiting, kept.awaited standing waiting, kept.timed accepted notCancelled waiting⟩
  · right
    exact called

theorem invariant_initial : TrInvariant timeoutSec TrRunner.initial where
  fresh _ _ := rfl
  entries _ _ found := by cases found
  timers _ isMember := by cases isMember
  kept _ _ present := by cases present

theorem TrRunner.find?_pop_self (runner : TrRunner) (key : String) :
    (runner.pop key).pending.find? key = none := by
  simp only [pop, Table.find?_deleteWhere]
  cases found : runner.pending.find? key with
  | none => rfl
  | some pending =>
      have isKey : pending.key = key := Table.key_of_find? found
      simp [isKey]

theorem TrRunner.find?_pop_of_ne (runner : TrRunner) {key other : String}
    (different : other ≠ key) :
    (runner.pop key).pending.find? other = runner.pending.find? other := by
  simp only [pop, Table.find?_deleteWhere]
  cases found : runner.pending.find? other with
  | none => rfl
  | some pending =>
      have isOther : pending.key = other := Table.key_of_find? found
      simp [isOther, different]

theorem TrRunner.find?_of_pop {key other : String} {pending : PendingTr}
    (found : (runner.pop key).pending.find? other = some pending) :
    other ≠ key ∧ runner.pending.find? other = some pending := by
  by_cases same : other = key
  · rw [same, find?_pop_self] at found
    cases found
  · rw [find?_pop_of_ne runner same] at found
    exact ⟨same, found⟩

theorem TrKept.after (kept : TrKept timeoutSec runner id submission) (next : TrRunner)
    (later : runner.now ≤ next.now)
    (pending : submission.standing = true → submission.completions = [] →
      (runner.pending.find? submission.key).map PendingTr.submission = some id →
      next.pending.find? submission.key = runner.pending.find? submission.key)
    (timers : ∀ timer ∈ runner.timers, timer.submission = id → timer ∈ next.timers) :
    TrKept timeoutSec next id submission where
  past := kept.past.trans later
  awaited standing waiting := by
    have before := kept.awaited standing waiting
    rw [pending standing waiting before]
    exact before
  timed accepted notCancelled waiting scheduled := by
    rcases kept.timed accepted notCancelled waiting scheduled with ⟨timer, isMember, isOwn⟩
    exact ⟨timer, timers timer isMember isOwn, isOwn⟩
  called := kept.called

/-- The submission that a request is waiting for is ended: its request is gone, and what is written
into it says why. -/
theorem TrInvariant.ended (invariant : TrInvariant timeoutSec runner)
    (present : runner.submissions id = some submission)
    (own : runner.isOwn submission.key id = true) {ended : TrSubmission}
    (sameKey : ended.key = submission.key) (sameTime : ended.submittedAt = submission.submittedAt)
    (isOver : ended.standing = true → ended.completions ≠ [])
    (called : ended.completions = [] ∨
      ∃ call, ended.completions = [call] ∧ ended.IsDue timeoutSec id call) :
    TrInvariant timeoutSec ((runner.setSubmission id ended).pop submission.key) := by
  have owner : ∀ pending, runner.pending.find? submission.key = some pending →
      pending.submission = id := by
    intro pending found
    simpa [TrRunner.isOwn, found] using own
  refine ⟨?_, ?_, ?_, ?_⟩
  · intro other bound
    have absent := invariant.fresh other bound
    have different : other ≠ id := by
      rintro rfl
      rw [present] at absent
      cases absent
    exact (Function.update_of_ne different _ _).trans absent
  · intro key pending found
    rcases TrRunner.find?_of_pop found with ⟨differentKey, before⟩
    rcases invariant.entries key pending before with ⟨waiting, isPresent, isKey, rest⟩
    have different : pending.submission ≠ id := by
      intro same
      rw [same, present, Option.some.injEq] at isPresent
      rw [← isPresent] at isKey
      exact differentKey isKey.symm
    exact ⟨waiting, (Function.update_of_ne different _ _).trans isPresent, isKey, rest⟩
  · intro timer isMember
    rcases invariant.timers timer isMember with ⟨set, isPresent, isKey, due⟩
    by_cases same : timer.submission = id
    · rw [same, present, Option.some.injEq] at isPresent
      subst isPresent
      refine ⟨ended, ?_, sameKey.trans isKey, ?_⟩
      · rw [same]
        exact Function.update_self ..
      · rw [sameTime]
        exact due
    · exact ⟨set, (Function.update_of_ne same _ _).trans isPresent, isKey, due⟩
  · intro other state isPresent
    by_cases same : other = id
    · subst same
      have isEnded := (Function.update_self _ _ _).symm.trans isPresent
      rw [Option.some.injEq] at isEnded
      subst isEnded
      refine ⟨?_, ?_, ?_, called⟩
      · rw [sameTime]
        exact (invariant.kept other submission present).past
      · intro standing waiting
        exact absurd waiting (isOver standing)
      · intro accepted notCancelled waiting
        exact absurd waiting (isOver (standing_of_accepted accepted notCancelled))
    · have before := (Function.update_of_ne same _ _).symm.trans isPresent
      apply (invariant.kept other state before).after
      · exact Nat.le_refl _
      · intro standing waiting isOwn
        apply TrRunner.find?_pop_of_ne
        intro sameKey
        rcases Option.map_eq_some_iff.mp isOwn with ⟨pending, found, isOther⟩
        rw [sameKey] at found
        exact same (isOther.symm.trans (owner pending found))
      · intro timer isMember _
        exact isMember

/-! ## Steps -/

theorem TrInvariant.submit (invariant : TrInvariant timeoutSec runner) (request : TrRequest)
    (free : runner.meetsItsOwn (.submit request) = true) :
    TrInvariant timeoutSec (runner.submit request).1 := by
  have notPending : runner.pending.find? request.key = none := by
    simpa [TrRunner.meetsItsOwn] using free
  have isFresh := invariant.fresh runner.count (Nat.le_refl _)
  have others : ∀ (fresh : TrSubmission) id submission, runner.submissions id = some submission →
      Function.update runner.submissions runner.count (some fresh) id = some submission := by
    intro fresh id submission present
    have different : id ≠ runner.count := by
      rintro rfl
      rw [isFresh] at present
      cases present
    rw [Function.update_of_ne different]
    exact present
  have later : ∀ (fresh : TrSubmission) id, runner.count + 1 ≤ id →
      Function.update runner.submissions runner.count (some fresh) id = none := by
    intro fresh id bound
    rw [Function.update_of_ne (by omega)]
    exact invariant.fresh id (by omega)
  unfold TrRunner.submit
  dsimp only
  split
  · refine ⟨later _, ?_, ?_, ?_⟩
    · intro key pending found
      rcases invariant.entries key pending found with ⟨submission, present, rest⟩
      exact ⟨submission, others _ _ _ present, rest⟩
    · intro timer isMember
      rcases invariant.timers timer isMember with ⟨submission, present, rest⟩
      exact ⟨submission, others _ _ _ present, rest⟩
    · intro id submission present
      by_cases same : id = runner.count
      · subst same
        have isNew := (Function.update_self _ _ _).symm.trans present
        rw [Option.some.injEq] at isNew
        subst isNew
        refine ⟨Nat.le_refl _, ?_, ?_, .inl rfl⟩
        · intro standing
          cases standing
        · intro accepted
          cases accepted
      · have before := (Function.update_of_ne same _ _).symm.trans present
        apply (invariant.kept id submission before).after
        · exact Nat.le_refl _
        · intro _ _ _
          rfl
        · intro timer isMember _
          exact isMember
  · refine ⟨later _, ?_, ?_, ?_⟩
    · intro key pending found
      by_cases same : request.key = key
      · subst same
        have own := (Table.find?_upsert_self runner.pending _).symm.trans found
        rw [Option.some.injEq] at own
        subst own
        exact ⟨_, Function.update_self .., rfl, rfl, rfl⟩
      · have before := (Table.find?_upsert_of_ne runner.pending same).symm.trans found
        rcases invariant.entries key pending before with ⟨submission, present, rest⟩
        exact ⟨submission, others _ _ _ present, rest⟩
    · intro timer isMember
      rcases invariant.timers timer isMember with ⟨submission, present, rest⟩
      exact ⟨submission, others _ _ _ present, rest⟩
    · intro id submission present
      by_cases same : id = runner.count
      · subst same
        have isNew := (Function.update_self _ _ _).symm.trans present
        rw [Option.some.injEq] at isNew
        subst isNew
        refine ⟨Nat.le_refl _, ?_, ?_, .inl rfl⟩
        · intro _ _
          exact congrArg (Option.map PendingTr.submission)
            (Table.find?_upsert_self runner.pending _)
        · intro accepted
          cases accepted
      · have before := (Function.update_of_ne same _ _).symm.trans present
        apply (invariant.kept id submission before).after
        · exact Nat.le_refl _
        · intro _ _ isOwn
          apply Table.find?_upsert_of_ne runner.pending
          intro sameKey
          change request.key = submission.key at sameKey
          rw [← sameKey, notPending] at isOwn
          cases isOwn
        · intro timer isMember _
          exact isMember

/-- A submission gets its code, or a timer, and goes on waiting. -/
theorem TrInvariant.replaced (invariant : TrInvariant timeoutSec runner)
    (present : runner.submissions id = some submission) {replaced : TrSubmission}
    (sameKey : replaced.key = submission.key)
    (sameTime : replaced.submittedAt = submission.submittedAt)
    (sameStanding : replaced.standing = submission.standing)
    (sameCalls : replaced.completions = submission.completions) {timers : List TrTimer}
    (keeps : ∀ timer ∈ runner.timers, timer ∈ timers)
    (sets : ∀ timer ∈ timers, timer ∈ runner.timers ∨ timer.submission = id ∧
      timer.key = submission.key ∧
      submission.submittedAt + TrRunner.timeoutMs timeoutSec ≤ timer.dueAt)
    (timed : replaced.accepted = true → replaced.cancelled = false → replaced.completions = [] →
      replaced.scheduleTimeout = true → ∃ timer ∈ timers, timer.submission = id) :
    TrInvariant timeoutSec { runner.setSubmission id replaced with timers := timers } := by
  refine ⟨?_, ?_, ?_, ?_⟩
  · intro other bound
    have absent := invariant.fresh other bound
    have different : other ≠ id := by
      rintro rfl
      rw [present] at absent
      cases absent
    exact (Function.update_of_ne different _ _).trans absent
  · intro key pending found
    rcases invariant.entries key pending found with ⟨waiting, isPresent, isKey, standing, calls⟩
    by_cases same : pending.submission = id
    · rw [same, present, Option.some.injEq] at isPresent
      subst isPresent
      refine ⟨replaced, ?_, sameKey.trans isKey, sameStanding.trans standing,
        sameCalls.trans calls⟩
      rw [same]
      exact Function.update_self ..
    · exact ⟨waiting, (Function.update_of_ne same _ _).trans isPresent, isKey, standing, calls⟩
  · intro timer isMember
    have known : ∃ set, runner.submissions timer.submission = some set ∧ set.key = timer.key ∧
        set.submittedAt + TrRunner.timeoutMs timeoutSec ≤ timer.dueAt := by
      rcases sets timer isMember with before | ⟨isOwn, isKey, due⟩
      · exact invariant.timers timer before
      · rw [isOwn]
        exact ⟨submission, present, isKey.symm, due⟩
    rcases known with ⟨set, isPresent, isKey, due⟩
    by_cases same : timer.submission = id
    · rw [same, present, Option.some.injEq] at isPresent
      subst isPresent
      refine ⟨replaced, ?_, sameKey.trans isKey, ?_⟩
      · rw [same]
        exact Function.update_self ..
      · rw [sameTime]
        exact due
    · exact ⟨set, (Function.update_of_ne same _ _).trans isPresent, isKey, due⟩
  · intro other state isPresent
    by_cases same : other = id
    · subst same
      have isNew := (Function.update_self _ _ _).symm.trans isPresent
      rw [Option.some.injEq] at isNew
      subst isNew
      have kept := invariant.kept other submission present
      refine ⟨?_, ?_, timed, ?_⟩
      · rw [sameTime]
        exact kept.past
      · intro standing waiting
        rw [sameKey]
        exact kept.awaited (sameStanding.symm.trans standing) (sameCalls.symm.trans waiting)
      · rcases kept.called with waiting | ⟨call, isCall, due⟩
        · left
          exact sameCalls.trans waiting
        · right
          refine ⟨call, sameCalls.trans isCall, ?_⟩
          unfold TrSubmission.IsDue at due ⊢
          rw [sameTime]
          exact due
    · have before := (Function.update_of_ne same _ _).symm.trans isPresent
      apply (invariant.kept other state before).after
      · exact Nat.le_refl _
      · intro _ _ _
        rfl
      · intro timer isMember _
        exact keeps timer isMember

theorem TrInvariant.cancel (invariant : TrInvariant timeoutSec runner)
    (own : runner.meetsItsOwn (.cancel id) = true) :
    TrInvariant timeoutSec (runner.cancel id) := by
  unfold TrRunner.cancel
  cases present : runner.submissions id with
  | none => exact invariant
  | some submission =>
      simp only [TrRunner.meetsItsOwn, present] at own
      apply invariant.ended present own
      · rfl
      · rfl
      · intro standing
        cases standing
      · exact (invariant.kept id submission present).called

theorem TrInvariant.returned (invariant : TrInvariant timeoutSec runner) {requestCode : Int}
    (own : runner.meetsItsOwn (.returned id requestCode) = true) :
    TrInvariant timeoutSec (TrRunner.returned timeoutSec runner id requestCode) := by
  unfold TrRunner.returned
  cases present : runner.submissions id with
  | none => exact invariant
  | some submission =>
      have kept := invariant.kept id submission present
      dsimp only
      cases code : submission.requestCode with
      | some code => simpa using invariant
      | none =>
          simp only [Option.isSome_none, Bool.false_eq_true, if_false]
          split
          · next refused =>
              have isOwn : runner.isOwn submission.key id = true := by
                simpa [TrRunner.meetsItsOwn, present, code, Int.not_le.mpr refused] using own
              apply invariant.ended present isOwn
              · rfl
              · rfl
              · intro standing
                simp [TrSubmission.standing, Int.not_le.mpr refused] at standing
              · exact kept.called
          · next taken =>
              have standing : ∀ result, TrSubmission.standing { submission with
                  requestCode := some requestCode, result := result } = submission.standing := by
                simp [TrSubmission.standing, code, Int.not_lt.mp taken]
              split
              · apply invariant.replaced present
                · rfl
                · rfl
                · exact standing _
                · rfl
                · intro timer isMember
                  exact List.mem_cons_of_mem _ isMember
                · intro timer isMember
                  rcases List.mem_cons.mp isMember with rfl | before
                  · right
                    exact ⟨rfl, rfl, Nat.add_le_add_right kept.past _⟩
                  · left
                    exact before
                · intro _ _ _ _
                  exact ⟨_, List.mem_cons_self, rfl⟩
              · next notScheduled =>
                  apply invariant.replaced present
                  · rfl
                  · rfl
                  · exact standing _
                  · rfl
                  · intro timer isMember
                    exact isMember
                  · intro timer isMember
                    left
                    exact isMember
                  · intro _ notCancelled waiting scheduled
                    exfalso
                    apply notScheduled
                    have isStanding : submission.standing = true := by
                      simpa [TrSubmission.standing, code] using notCancelled
                    have awaited := kept.awaited isStanding waiting
                    rcases Option.map_eq_some_iff.mp awaited with ⟨pending, found, _⟩
                    have isScheduled : submission.scheduleTimeout = true := scheduled
                    simp [found, isScheduled]

theorem TrInvariant.complete (invariant : TrInvariant timeoutSec runner) {key : String}
    {pending : PendingTr} (found : runner.pending.find? key = some pending)
    (change : TrRequestResult → TrRequestResult) {cause : TrCause}
    (due : ∀ submission, runner.submissions pending.submission = some submission →
      submission.IsDue timeoutSec pending.submission ⟨runner.now, cause⟩) :
    TrInvariant timeoutSec ((runner.pop key).complete pending.submission change cause) := by
  rcases invariant.entries key pending found with ⟨submission, present, rfl, _, waiting⟩
  have own : runner.isOwn submission.key pending.submission = true := by
    simp [TrRunner.isOwn, found]
  have presentAfter : (runner.pop submission.key).submissions pending.submission =
      some submission := present
  simp only [TrRunner.complete, presentAfter]
  apply invariant.ended present own
  · rfl
  · rfl
  · intro _ isEmpty
    cases isEmpty
  · right
    refine ⟨_, congrArg (List.cons _) waiting, ?_⟩
    exact due submission present

theorem TrRunner.find?_of_findPending {header : TrResponseMeta} {pending : PendingTr}
    (found : runner.findPending header = some pending) :
    runner.pending.find? pending.key = some pending := by
  unfold findPending at found
  split at found
  · next own =>
      cases found
      have isKey : pending.key = _ := Table.key_of_find? own
      rw [isKey]
      exact own
  · exact Table.find?_of_mem (List.mem_of_find?_eq_some found)

theorem TrInvariant.handleTrData (invariant : TrInvariant timeoutSec runner)
    {answers : Option Nat} {header : TrResponseMeta} {data : TrData}
    (own : runner.meetsItsOwn (.respond answers header data) = true) :
    TrInvariant timeoutSec (runner.handleTrData answers header data) := by
  unfold TrRunner.handleTrData
  cases found : runner.findPending header with
  | none => exact invariant
  | some pending =>
      simp only [TrRunner.meetsItsOwn, found, Option.all_some, decide_eq_true_eq] at own
      dsimp only
      split
      · exact invariant
      · apply invariant.complete (TrRunner.find?_of_findPending found)
        intro _ _
        exact own

theorem le_timeoutMs (timeoutSec : ℚ) (whole : (timeoutSec * 1000).isInt = true) :
    timeoutSec * 1000 ≤ (TrRunner.timeoutMs timeoutSec : ℚ) := by
  have floor : ((timeoutSec * 1000).floor : ℚ) = timeoutSec * 1000 := by
    have one : (timeoutSec * 1000).den = 1 := by simpa [Rat.isInt] using whole
    rw [Rat.floor_def, one]
    simpa using Rat.coe_int_num_of_den_eq_one one
  have bound : (timeoutSec * 1000).floor ≤ (TrRunner.timeoutMs timeoutSec : ℤ) := by
    unfold TrRunner.timeoutMs
    omega
  rw [← floor]
  exact_mod_cast bound

theorem TrInvariant.timeoutRequest (invariant : TrInvariant timeoutSec runner)
    (whole : (timeoutSec * 1000).isInt = true) {timer : TrTimer}
    (isTimer : timer ∈ runner.timers) (due : timer.dueAt ≤ runner.now)
    (own : runner.isOwn timer.key timer.submission = true) :
    TrInvariant timeoutSec (runner.timeoutRequest timer.key) := by
  unfold TrRunner.timeoutRequest
  split
  · exact invariant
  · next pending found =>
      apply invariant.complete found
      intro submission present
      have isOwn : pending.submission = timer.submission := by
        simpa [TrRunner.isOwn, found] using own
      rcases invariant.timers timer isTimer with ⟨set, isPresent, _, set_due⟩
      rw [isOwn, isPresent, Option.some.injEq] at present
      subst present
      have elapsed : TrRunner.timeoutMs timeoutSec ≤ runner.now - set.submittedAt := by
        omega
      have enough : (TrRunner.timeoutMs timeoutSec : ℚ) ≤
          ((runner.now - set.submittedAt : ℕ) : ℚ) := by
        exact_mod_cast elapsed
      exact (le_timeoutMs timeoutSec whole).trans enough

theorem TrRunner.timeoutRequest_cases (runner : TrRunner) (key : String) :
    (runner.timeoutRequest key).pending.find? key = none ∧
      (runner.timeoutRequest key).timers = runner.timers ∧
      ∀ timers, ({ runner with timers := timers }).timeoutRequest key =
        { runner.timeoutRequest key with timers := timers } := by
  have popped := runner.find?_pop_self key
  cases found : runner.pending.find? key with
  | none => simp [timeoutRequest, found]
  | some pending =>
      cases present : runner.submissions pending.submission with
      | none =>
          simp only [pop] at popped
          simp [timeoutRequest, found, complete, pop, present, popped]
      | some submission =>
          simp only [pop] at popped
          simp [timeoutRequest, found, complete, pop, present, setSubmission, popped]

theorem TrInvariant.eraseTimer (invariant : TrInvariant timeoutSec runner) {index : Nat}
    {timer : TrTimer} (isTimer : runner.timers[index]? = some timer)
    (answered : runner.pending.find? timer.key = none) :
    TrInvariant timeoutSec { runner with timers := runner.timers.eraseIdx index } := by
  refine ⟨invariant.fresh, invariant.entries, ?_, ?_⟩
  · intro other isMember
    exact invariant.timers other (List.mem_of_mem_eraseIdx isMember)
  · intro id submission present
    have kept := invariant.kept id submission present
    refine ⟨kept.past, kept.awaited, ?_, kept.called⟩
    intro accepted notCancelled waiting scheduled
    rcases kept.timed accepted notCancelled waiting scheduled with ⟨own, isMember, isOwn⟩
    refine ⟨own, ?_, isOwn⟩
    rcases List.mem_iff_getElem?.mp isMember with ⟨position, atPosition⟩
    apply List.mem_eraseIdx_iff_getElem?.mpr
    refine ⟨position, ?_, atPosition⟩
    rintro rfl
    rw [isTimer, Option.some.injEq] at atPosition
    subst atPosition
    rcases invariant.timers timer isMember with ⟨set, isPresent, isKey, _⟩
    rw [isOwn, present, Option.some.injEq] at isPresent
    subst isPresent
    have awaited := kept.awaited (standing_of_accepted accepted notCancelled) waiting
    rw [isKey, answered] at awaited
    cases awaited

theorem TrInvariant.fire (invariant : TrInvariant timeoutSec runner)
    (whole : (timeoutSec * 1000).isInt = true) {index : Nat}
    (own : runner.meetsItsOwn (.fire index) = true) :
    TrInvariant timeoutSec (runner.fire index) := by
  unfold TrRunner.fire
  cases isTimer : runner.timers[index]? with
  | none => exact invariant
  | some timer =>
      dsimp only
      split
      · next due =>
          have isOwn : runner.isOwn timer.key timer.submission = true := by
            simpa [TrRunner.meetsItsOwn, isTimer, Nat.not_lt.mpr due] using own
          have after := invariant.timeoutRequest whole (List.mem_of_getElem? isTimer) due isOwn
          rcases runner.timeoutRequest_cases timer.key with ⟨answered, sameTimers, commutes⟩
          rw [commutes, ← sameTimers]
          apply after.eraseTimer
          · rw [sameTimers]
            exact isTimer
          · exact answered
      · exact invariant

theorem TrInvariant.wait (invariant : TrInvariant timeoutSec runner) (milliseconds : Nat) :
    TrInvariant timeoutSec { runner with now := runner.now + milliseconds } := by
  refine ⟨invariant.fresh, invariant.entries, invariant.timers, ?_⟩
  intro id submission present
  apply (invariant.kept id submission present).after
  · exact Nat.le_add_right ..
  · intro _ _ _
    rfl
  · intro timer isMember _
    exact isMember

theorem TrInvariant.next (whole : (timeoutSec * 1000).isInt = true) (op : TrOp)
    (invariant : TrInvariant timeoutSec runner) (own : runner.meetsItsOwn op = true) :
    TrInvariant timeoutSec ((trSystem timeoutSec).next runner op) := by
  cases op with
  | submit request => exact invariant.submit request own
  | returned id requestCode => exact invariant.returned own
  | cancel id => exact invariant.cancel own
  | respond answers header data => exact invariant.handleTrData own
  | fire index => exact invariant.fire whole own
  | wait milliseconds => exact invariant.wait milliseconds

/-! ## Runs -/

/-- In a run whose steps meet no request but their own, each submission that is accepted and not
cancelled is called back once: with the rows of a response to it, or with a timeout in its time. -/
theorem tr_matched (timeoutSec : ℚ) (whole : (timeoutSec * 1000).isInt = true) (ops : List TrOp)
    (own : (trSystem timeoutSec).Along (fun runner op => runner.meetsItsOwn op = true)
      TrRunner.initial ops) :
    (trSystem timeoutSec).Throughout (TrRunner.Matched timeoutSec) TrRunner.initial ops := by
  rintro before after rfl
  rcases (System.along_append _ _ before after).mp own with ⟨earlier, _⟩
  have reached := System.Along.invariant (TrInvariant timeoutSec)
    (fun _ op invariant own => invariant.next whole op own) invariant_initial earlier
  exact reached.matched

/-- A page of the open orders of a snapshot, on the screen and under the name of all its pages. -/
def pageRequest (page : String) : TrRequest where
  requestId := "snapshot:open_orders:page-" ++ page
  trCode := "OPT10075"
  requestName := "live_sim_broker_snapshot_open_orders"
  params := [("계좌번호", "1234567890")]
  continuationKey := if page = "1" then "" else "2"
  fields := ["주문번호"]
  screenNo := "8751"
  rowMode := "multi"
  outputRecordName := "미체결"
  scheduleTimeout := true

def pageHeader : TrResponseMeta where
  screenNo := "8751"
  rqName := "live_sim_broker_snapshot_open_orders"
  trCode := "OPT10075"
  recordName := "미체결"
  prevNext := "2"
  errorCode := ""
  message := ""
  splmMsg := ""

def pageData : TrData where
  repeatCount _ _ := some 1
  commData _ _ _ _ := some "0012345"

/-- A page that is answered at once, and the page after it. -/
def pagesInTime : List TrOp :=
  [.submit (pageRequest "1"), .returned 0 0, .respond (some 0) pageHeader pageData,
    .submit (pageRequest "2"), .returned 1 0, .wait 1000, .respond (some 1) pageHeader pageData]

theorem tr_pages_matched :
    (trSystem 20).Throughout (TrRunner.Matched 20) TrRunner.initial pagesInTime :=
  tr_matched 20 (by decide +kernel) pagesInTime (by decide +kernel)

def lateSecondPage : List TrOp :=
  [.submit (pageRequest "1"), .returned 0 0, .wait 19000,
    .respond (some 0) pageHeader pageData, .submit (pageRequest "2"), .returned 1 0, .wait 1000,
    .fire 1]

/-- The timer of the first page times the second one out after a second. -/
theorem stale_timer_times_out :
    ¬ ∀ ops : List TrOp, (trSystem 20).Throughout (TrRunner.Matched 20) TrRunner.initial ops := by
  intro matched
  have reached := matched lateSecondPage lateSecondPage [] rfl
  have second : ((trSystem 20).run TrRunner.initial lateSecondPage).submissions 1 =
      some
        { key := "8751|live_sim_broker_snapshot_open_orders|OPT10075"
          result := ⟨"snapshot:open_orders:page-2", "OPT10075",
            "live_sim_broker_snapshot_open_orders", [], 1, [], ["TR_TIMEOUT:OPT10075:live_sim_broker_snapshot_open_orders"]⟩
          submittedAt := 19000
          requestCode := some 0
          scheduleTimeout := true
          cancelled := false
          completions := [⟨20000, .timeout⟩] } := by
    decide +kernel
  rcases reached 1 _ second rfl rfl with ⟨waiting, _⟩ | ⟨call, isCall, due⟩
  · cases waiting
  · rw [List.cons.injEq] at isCall
    rcases isCall with ⟨rfl, _⟩
    norm_num [TrSubmission.IsDue] at due

end SuseokTrader
