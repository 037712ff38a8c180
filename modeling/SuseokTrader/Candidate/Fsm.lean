import SuseokTrader.Lib.Text

/-!
# The candidate state machine

A refresh reads what is known about a candidate and decides its next state from
its current one. Closing comes before everything else, then going stale, then
the observation block; a candidate that is none of these waits for its market
data, is watched, or has its context ready.
-/

namespace SuseokTrader

inductive CandidateState where
  | detected
  | hydrating
  | watching
  | contextReady
  | dataWait
  | blockedObservation
  | stale
  | cooldown
  | closed
deriving DecidableEq

/-- `merge_reason_codes` -/
def mergeReasonCodes (groups : List (List String)) : List String :=
  groups.flatten.foldl (fun merged item =>
    let value := Text.upper (Text.strip item)
    if value = "" ∨ value ∈ merged then merged else merged ++ [value]) []

/-- What a refresh knows about a candidate. -/
structure CandidateContext where
  explicitClose : Bool
  onlyConditionExitSources : Bool
  activeSourceCount : Nat
  hasLatestTick : Bool
  marketReadinessStatus : String
  tickStale : Bool
  sourceStale : Bool
  candidateStaleRequiresTickStale : Bool
  ttlExpired : Bool
  vwapReady : Bool
  bar1mReady : Bool
  require1mBar : Bool
  requireVwap : Bool
  themeSource : Bool
  themeContextPresent : Bool
  themeState : String
  conditionSource : Bool
  conditionSignalPresent : Bool
  observationBlocked : Bool
  reasonCodes : List String

structure CandidateStateDecision where
  nextState : CandidateState
  reasonCodes : List String := []
  closeCandidate : Bool := false
  staleCandidate : Bool := false

variable (context : CandidateContext)

def shouldCloseCandidate : List String :=
  mergeReasonCodes
    [if context.explicitClose then ["SOURCE_EXITED"] else [],
      if context.activeSourceCount = 0 then ["SOURCE_EXITED"] else [],
      if context.ttlExpired then ["EPISODE_TTL_EXPIRED"] else [],
      if Text.upper context.themeState = "ROTATED_OUT" then ["THEME_ROTATED_OUT"] else [],
      if context.onlyConditionExitSources then ["CONDITION_EXITED"] else []]

def shouldMarkStale : List String :=
  mergeReasonCodes
    [if context.sourceStale && (context.tickStale || !context.candidateStaleRequiresTickStale)
        then ["SOURCE_STALE"] else [],
      if context.tickStale then ["TICK_STALE"] else []]

def hydrationReady : Bool :=
  context.hasLatestTick &&
    Text.upper context.marketReadinessStatus ∉ ["", "MISSING", "INVALID"] &&
    context.activeSourceCount ≠ 0

def contextReady : Bool :=
  Text.upper context.marketReadinessStatus ∉ ["", "MISSING", "STALE", "INVALID"] &&
    context.hasLatestTick &&
    (!context.require1mBar || context.bar1mReady) &&
    (!context.requireVwap || context.vwapReady) &&
    (!context.themeSource || context.themeContextPresent) &&
    (!context.conditionSource || context.conditionSignalPresent) &&
    context.activeSourceCount ≠ 0

def dataWaitReasons : List String :=
  mergeReasonCodes
    [if !context.hasLatestTick || Text.upper context.marketReadinessStatus = "MISSING"
        then ["MARKET_READINESS_MISSING"] else [],
      if context.require1mBar && !context.bar1mReady then ["BAR_MISSING"] else [],
      if context.requireVwap && !context.vwapReady then ["VWAP_MISSING"] else [],
      if context.themeSource && !context.themeContextPresent then ["THEME_MISSING"] else [],
      if context.activeSourceCount = 0 then ["SOURCE_MISSING"] else []]

def CandidateContext.decides (nextState : CandidateState)
    (reasons : List String) : CandidateStateDecision where
  nextState := nextState
  reasonCodes := mergeReasonCodes [context.reasonCodes, reasons]

def determineNextState (currentState : CandidateState) (context : CandidateContext) :
    CandidateStateDecision :=
  if currentState = .closed then { nextState := .closed }
  else if shouldCloseCandidate context ≠ [] then
    { nextState := .closed
      reasonCodes := shouldCloseCandidate context
      closeCandidate := true }
  else if shouldMarkStale context ≠ [] then
    { nextState := .stale
      reasonCodes := shouldMarkStale context
      staleCandidate := true }
  else if context.observationBlocked then
    { nextState := .blockedObservation
      reasonCodes := ["OBSERVATION_BLOCKED"] }
  else if currentState = .detected then
    { nextState := .hydrating
      reasonCodes := ["SOURCE_DETECTED"] }
  else if currentState = .hydrating ∧ dataWaitReasons context ≠ [] then
    context.decides .dataWait (dataWaitReasons context)
  else if (currentState = .hydrating ∨ currentState = .dataWait ∨ currentState = .stale) ∧
      hydrationReady context then
    context.decides .watching ["MARKET_READINESS_READY"]
  else if contextReady context then
    context.decides .contextReady ["CONTEXT_READY", "MARKET_READINESS_READY"]
  else if dataWaitReasons context ≠ [] then
    context.decides .dataWait (dataWaitReasons context)
  else if hydrationReady context then
    context.decides .watching ["MARKET_READINESS_READY"]
  else context.decides currentState []

/-! ## Merged reasons -/

theorem mem_mergeReasonCodes {groups : List (List String)} {reason : String} :
    reason ∈ mergeReasonCodes groups ↔
      reason ≠ "" ∧ ∃ item ∈ groups.flatten, Text.upper (Text.strip item) = reason := by
  have folded : ∀ (items merged : List String),
      reason ∈ items.foldl (fun merged item =>
        let value := Text.upper (Text.strip item)
        if value = "" ∨ value ∈ merged then merged else merged ++ [value]) merged ↔
      reason ∈ merged ∨
        reason ≠ "" ∧ ∃ item ∈ items, Text.upper (Text.strip item) = reason := by
    intro items
    induction items with
    | nil => simp
    | cons item items ih =>
        intro merged
        rw [List.foldl_cons, ih]
        by_cases same : Text.upper (Text.strip item) = reason
        · by_cases blank : reason = ""
          · simp [same, blank]
          · by_cases present : reason ∈ merged <;> simp [same, blank, present]
        · by_cases skipped : Text.upper (Text.strip item) = "" ∨
            Text.upper (Text.strip item) ∈ merged
          · simp [skipped, same]
          · simp [skipped, same, Ne.symm same]
  rw [mergeReasonCodes, folded]
  simp

theorem mergeReasonCodes_eq_nil {groups : List (List String)} :
    mergeReasonCodes groups = [] ↔
      ∀ item ∈ groups.flatten, Text.upper (Text.strip item) = "" := by
  rw [List.eq_nil_iff_forall_not_mem]
  simp only [mem_mergeReasonCodes]
  constructor
  · intro none item listed
    by_contra filled
    exact none _ ⟨filled, item, listed, rfl⟩
  · rintro blank _ ⟨filled, item, listed, rfl⟩
    exact filled (blank item listed)

end SuseokTrader
