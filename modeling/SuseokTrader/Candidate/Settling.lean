import SuseokTrader.Candidate.SourceLaws

/-!
# Refreshing settles, or never does

On inputs that stay the same a refresh takes a candidate to a next state that
depends on its state alone. Market data that counts as ready although a bar, a
weighted price or a theme that is required is missing sends a watched candidate
to wait for data and a waiting one back to be watched, for ever. Everywhere else
three refreshes are enough, and a rebuild of what a rebuild has just built changes
nothing unless it left a candidate between two moves.
-/

namespace SuseokTrader

/-! ## The state machine on one context -/

variable (context : CandidateContext)

def stateAfter (state : CandidateState) : CandidateState :=
  (determineNextState state context).nextState

def CandidateContext.decided : Prop :=
  shouldCloseCandidate context ≠ [] ∨ shouldMarkStale context ≠ [] ∨
    context.observationBlocked = true

/-- The market data counts as ready although something that is required is missing. -/
def CandidateContext.readyButMissing : Prop :=
  ¬ context.decided ∧ hydrationReady context = true ∧ dataWaitReasons context ≠ []

variable {context : CandidateContext}

theorem dataWaitReasons_of_contextReady (ready : contextReady context = true) :
    dataWaitReasons context = [] := by
  simp only [contextReady, Bool.and_eq_true, decide_eq_true_eq, Bool.or_eq_true,
    Bool.not_eq_eq_eq_not, List.mem_cons, not_or] at ready
  rcases ready with ⟨⟨⟨⟨⟨⟨⟨_, notMissing, _⟩, tick⟩, bar⟩, vwap⟩, theme⟩, _⟩, sources⟩
  rw [dataWaitReasons, mergeReasonCodes_eq_nil]
  have noBar : (context.require1mBar && !context.bar1mReady) = false := by
    rcases bar with bar | bar <;> simp [bar]
  have noVwap : (context.requireVwap && !context.vwapReady) = false := by
    rcases vwap with vwap | vwap <;> simp [vwap]
  have noTheme : (context.themeSource && !context.themeContextPresent) = false := by
    rcases theme with theme | theme <;> simp [theme]
  simp [tick, notMissing, noBar, noVwap, noTheme, sources]

theorem hydrationReady_of_contextReady (ready : contextReady context = true) :
    hydrationReady context = true := by
  simp only [contextReady, Bool.and_eq_true, decide_eq_true_eq, List.mem_cons, not_or] at ready
  rcases ready with ⟨⟨⟨⟨⟨⟨⟨notBlank, notMissing, _, notInvalid⟩, tick⟩, _⟩, _⟩, _⟩, _⟩, sources⟩
  simp [hydrationReady, tick, notBlank, notMissing, notInvalid, sources]

theorem stateAfter_undecided (undecided : ¬ context.decided) (state : CandidateState) :
    stateAfter context state =
      if state = .closed then .closed
      else if state = .detected then .hydrating
      else if state = .hydrating ∧ dataWaitReasons context ≠ [] then .dataWait
      else if (state = .hydrating ∨ state = .dataWait ∨ state = .stale) ∧
          hydrationReady context = true then .watching
      else if contextReady context = true then .contextReady
      else if dataWaitReasons context ≠ [] then .dataWait
      else if hydrationReady context = true then .watching
      else state := by
  simp only [CandidateContext.decided, not_or, not_not] at undecided
  rcases undecided with ⟨stays, fresh, unblocked⟩
  simp only [stateAfter, determineNextState, stays, fresh, ne_eq, not_true_eq_false, if_false]
  repeat' split
  all_goals rfl

theorem stateAfter_closed (context : CandidateContext) : stateAfter context .closed = .closed :=
  determineNextState_closed context

theorem stateAfter_decided (decided : context.decided) (state : CandidateState) :
    stateAfter context (stateAfter context state) = stateAfter context state := by
  unfold CandidateContext.decided at decided
  by_cases closed : state = .closed
  · simp [closed, stateAfter_closed]
  · by_cases closes : shouldCloseCandidate context = []
    · by_cases stale : shouldMarkStale context = []
      · have blocked : context.observationBlocked = true := by simpa [closes, stale] using decided
        simp [stateAfter, determineNextState, closed, closes, stale, blocked]
      · simp [stateAfter, determineNextState, closed, closes, stale]
    · simp [stateAfter, determineNextState, closed, closes]

theorem dataWaitReasons_eq_nil (quiet : ¬ context.readyButMissing) (undecided : ¬ context.decided)
    (ready : hydrationReady context = true) :
    dataWaitReasons context = [] := by
  by_contra missing
  exact quiet ⟨undecided, ready, missing⟩

section Quiet

variable {context : CandidateContext} (quiet : ¬ context.readyButMissing)
include quiet

/-- Three refreshes settle a candidate: the longest way leads from its detection over the
hydration and the watch to the ready context. -/
theorem stateAfter_settled (state : CandidateState) :
    stateAfter context (stateAfter context (stateAfter context (stateAfter context state))) =
      stateAfter context (stateAfter context (stateAfter context state)) := by
  by_cases decided : context.decided
  · rw [stateAfter_decided decided]
  · by_cases hydrated : hydrationReady context = true
    · have complete := dataWaitReasons_eq_nil quiet decided hydrated
      by_cases ready : contextReady context = true <;> cases state <;>
        simp [stateAfter_undecided decided, hydrated, complete, ready]
    · have notReady : ¬ contextReady context = true := fun ready =>
        hydrated (hydrationReady_of_contextReady ready)
      by_cases complete : dataWaitReasons context = [] <;> cases state <;>
        simp [stateAfter_undecided decided, hydrated, complete, notReady]

theorem stateAfter_not_alternating {state : CandidateState}
    (returns : stateAfter context (stateAfter context state) = state) :
    stateAfter context state = state := by
  have settled := stateAfter_settled quiet state
  rw [returns, returns] at settled
  exact settled.symm

end Quiet

theorem stateAfter_restless (missing : context.readyButMissing) {state : CandidateState}
    (isOpen : state ≠ .closed) :
    stateAfter context (stateAfter context (stateAfter context (stateAfter context state))) ≠
      stateAfter context (stateAfter context (stateAfter context state)) := by
  rcases missing with ⟨undecided, hydrated, misses⟩
  have notReady : ¬ contextReady context = true := fun ready =>
    misses (dataWaitReasons_of_contextReady ready)
  cases state <;> simp [stateAfter_undecided undecided, hydrated, misses, notReady] at isOpen ⊢

/-! ## Refreshing again and again -/

section Refresh

variable (settings : CandidateSettings) (tables : CandidateTables)
  (candidateInstanceId : CandidateInstanceId)

theorem stateOf_refresh_of_ne (readings : RefreshReadings) {other : CandidateInstanceId}
    (different : other ≠ candidateInstanceId) :
    (refreshCandidateContext settings tables candidateInstanceId readings).2.stateOf other =
      tables.stateOf other := by
  simp only [CandidateTables.stateOf_eq, episodes_refresh, List.find?_map]
  have sameTest : ((fun episode : Episode => decide (episode.candidateInstanceId = other)) ∘
      fun episode =>
        if episode.candidateInstanceId = candidateInstanceId
        then episode.refreshed
          (tables.contextOf settings candidateInstanceId readings.toRefreshInputs) readings
        else episode) = fun episode => decide (episode.candidateInstanceId = other) := by
    funext episode
    simp only [Function.comp_apply]
    split <;> simp
  rw [sameTest]
  cases found : tables.episodes.find? fun episode => episode.candidateInstanceId = other with
  | none => rfl
  | some episode =>
      have isOther : episode.candidateInstanceId = other := by
        simpa using List.find?_some found
      simp [isOther, different]

theorem stateOf_refresh (readings : RefreshReadings) :
    (refreshCandidateContext settings tables candidateInstanceId readings).2.stateOf
        candidateInstanceId =
      (tables.stateOf candidateInstanceId).map fun state =>
        if readings.raises then state
        else stateAfter
          (tables.contextOf settings candidateInstanceId readings.toRefreshInputs) state := by
  simp only [CandidateTables.stateOf_eq, episodes_refresh, List.find?_map]
  have sameTest : ((fun episode : Episode =>
      decide (episode.candidateInstanceId = candidateInstanceId)) ∘ fun episode =>
        if episode.candidateInstanceId = candidateInstanceId
        then episode.refreshed
          (tables.contextOf settings candidateInstanceId readings.toRefreshInputs) readings
        else episode) =
      fun episode => decide (episode.candidateInstanceId = candidateInstanceId) := by
    funext episode
    simp only [Function.comp_apply]
    split <;> simp
  rw [sameTest]
  cases found : tables.episodes.find? fun episode =>
      episode.candidateInstanceId = candidateInstanceId with
  | none => rfl
  | some episode =>
      have isRow : episode.candidateInstanceId = candidateInstanceId := by
        simpa using List.find?_some found
      by_cases raises : readings.raises = true <;>
        simp [isRow, Episode.refreshed, raises, stateAfter]

theorem contextOf_congr {tables other : CandidateTables}
    (same : other.latestSources = tables.latestSources) (inputs : RefreshInputs) :
    other.contextOf settings candidateInstanceId inputs =
      tables.contextOf settings candidateInstanceId inputs := by
  simp [CandidateTables.contextOf, CandidateTables.listLatestSourceRows, same]

def refreshTimes (readings : Nat → RefreshReadings) : Nat → CandidateTables
  | 0 => tables
  | count + 1 =>
      (refreshCandidateContext settings (refreshTimes readings count) candidateInstanceId
        (readings count)).2

variable {readings : Nat → RefreshReadings} {inputs : RefreshInputs}

theorem latestSources_refreshTimes (count : Nat) :
    (refreshTimes settings tables candidateInstanceId readings count).latestSources =
      tables.latestSources := by
  induction count with
  | zero => rfl
  | succ count ih =>
      rw [refreshTimes, latestSources_refresh]
      exact ih

theorem stateOf_refreshTimes (unchanging : ∀ count, (readings count).toRefreshInputs = inputs)
    (count : Nat) :
    (refreshTimes settings tables candidateInstanceId readings count).stateOf
        candidateInstanceId =
      (tables.stateOf candidateInstanceId).map fun state =>
        if inputs.raises then state
        else (stateAfter (tables.contextOf settings candidateInstanceId inputs))^[count] state := by
  induction count with
  | zero => simp [refreshTimes]
  | succ count ih =>
      have sameContext := contextOf_congr settings candidateInstanceId
        (@latestSources_refreshTimes settings tables candidateInstanceId readings count) inputs
      rw [refreshTimes, stateOf_refresh, ih, unchanging count, sameContext, Option.map_map]
      congr 1
      funext state
      by_cases raises : inputs.raises = true <;>
        simp [raises, Function.iterate_succ_apply']

/-- Refreshing reaches a state that stays in three refreshes and never goes back and forth. -/
def RefreshingSettles (inputs : RefreshInputs) : Prop :=
  ∀ readings : Nat → RefreshReadings, (∀ count, (readings count).toRefreshInputs = inputs) →
    let stateAt := fun count =>
      (refreshTimes settings tables candidateInstanceId readings count).stateOf candidateInstanceId
    (∀ count, 3 ≤ count → stateAt count = stateAt 3) ∧
      ∀ count, stateAt (count + 2) = stateAt count → stateAt (count + 1) = stateAt count

theorem refreshingSettles_iff (inputs : RefreshInputs) :
    RefreshingSettles settings tables candidateInstanceId inputs ↔
      ∀ state, tables.stateOf candidateInstanceId = some state → state ≠ .closed →
        inputs.raises = false →
        ¬ (tables.contextOf settings candidateInstanceId inputs).readyButMissing := by
  constructor
  · intro settles state isState isOpen reads missing
    rcases settles (fun _ => { inputs with now := "" }) (fun _ => rfl) with ⟨rests, _⟩
    have later := rests 4 (by omega)
    simp only [@stateOf_refreshTimes settings tables candidateInstanceId
      (fun _ => { inputs with now := "" }) inputs fun _ => rfl,
      isState, reads, Option.map_some, Option.some.injEq, Bool.false_eq_true, if_false] at later
    exact stateAfter_restless missing isOpen later
  · intro quiet readings unchanging
    simp only [stateOf_refreshTimes settings tables candidateInstanceId unchanging]
    cases isState : tables.stateOf candidateInstanceId with
    | none => simp
    | some state =>
        by_cases raises : inputs.raises = true
        · simp [raises]
        · simp only [raises, Option.map_some, Option.some.injEq]
          by_cases closed : state = .closed
          · subst closed
            have stays (count : Nat) := Function.iterate_fixed
              (stateAfter_closed (tables.contextOf settings candidateInstanceId inputs)) count
            simp [stays]
          · have quiet := quiet state isState closed (by simpa using raises)
            constructor
            · intro count enough
              rcases Nat.exists_eq_add_of_le' enough with ⟨more, rfl⟩
              exact Function.iterate_fixed (stateAfter_settled quiet state) more
            · intro count returns
              rw [Function.iterate_succ_apply'] at returns ⊢
              rw [Function.iterate_succ_apply'] at returns
              exact stateAfter_not_alternating quiet returns

end Refresh

end SuseokTrader
