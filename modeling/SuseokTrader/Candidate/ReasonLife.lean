import SuseokTrader.Candidate.Sources

/-!
# How long a reason stays

A refresh merges the reasons it finds with those in the row, and only a source
event writes its own over them. So a reason outlives its cause, and the stages
behind the candidate, which read the row, go on blocking for it.
-/

namespace SuseokTrader

/-! ## The reasons of a refresh -/

structure ReadinessReading where
  qualityStatus : String
  reasonCodes : List String

def readinessReasonCodes (readiness : ReadinessReading) : List String :=
  let status := Text.upper readiness.qualityStatus
  mergeReasonCodes [
    (if status = "FRESH" then ["MARKET_TICK_FRESH", "MARKET_READINESS_READY"] else []) ++
    (if status = "MISSING" then ["MARKET_READINESS_MISSING"] else []) ++
    (readiness.reasonCodes.map Text.upper).flatMap fun value =>
      if "BAR_MISSING".toList.isPrefixOf value.toList then ["BAR_MISSING"]
      else if value = "VWAP_MISSING" then ["VWAP_MISSING"]
      else if value = "TICK_STALE" then ["TICK_STALE"]
      else if value = "TICK_MISSING" then ["MARKET_READINESS_MISSING"]
      else []]

structure ThemeReading where
  hasSources : Bool
  themeState : String
  themeRole : String

def themeReasonCodes (theme : ThemeReading) : List String :=
  if !theme.hasSources then []
  else
    (if Text.upper theme.themeState = "LEADING" then ["THEME_STATE_LEADING"]
      else if Text.upper theme.themeState = "SPREADING" then ["THEME_STATE_SPREADING"]
      else []) ++
    if Text.upper theme.themeRole = "LEADER_CANDIDATE" then ["THEME_LEADING_MEMBER"]
    else if Text.upper theme.themeRole = "CO_LEADER_CANDIDATE" then ["THEME_CO_LEADER_MEMBER"]
    else if Text.upper theme.themeRole = "FOLLOWER_CANDIDATE" then ["THEME_FOLLOWER_MEMBER"]
    else []

structure ReasonedSource where
  sourceType : CandidateSourceType
  reasonCodes : List String

def activeConditionFusionReasonCodes (activeSources : List ReasonedSource) : List String :=
  mergeReasonCodes
    ((activeSources.filter fun row => row.sourceType.isCondition).map ReasonedSource.reasonCodes)

/-- What a refresh reads; `facts` is its context but for the reasons. -/
structure ReasonReading where
  readiness : ReadinessReading
  theme : ThemeReading
  activeSources : List ReasonedSource
  facts : CandidateContext

def ReasonReading.context (reading : ReasonReading) : CandidateContext :=
  { reading.facts with
    reasonCodes := mergeReasonCodes [readinessReasonCodes reading.readiness,
      activeConditionFusionReasonCodes reading.activeSources,
      if reading.facts.sourceStale then ["SOURCE_STALE"] else []] }

/-- The columns of a candidate that its reasons depend on. -/
structure ReasonedCandidate where
  state : CandidateState
  reasonCodes : List String

namespace ReasonedCandidate

variable (candidate : ReasonedCandidate) (reading : ReasonReading)

def decision : CandidateStateDecision :=
  determineNextState candidate.state reading.context

/-- The groups of reasons that a refresh finds itself. -/
def found : List (List String) :=
  [readinessReasonCodes reading.readiness, themeReasonCodes reading.theme,
    reading.context.reasonCodes, (candidate.decision reading).reasonCodes]

def refresh : ReasonedCandidate :=
  if candidate.state = .closed then candidate
  else
    { state := (candidate.decision reading).nextState
      reasonCodes := mergeReasonCodes (candidate.reasonCodes :: candidate.found reading) }

end ReasonedCandidate

inductive ReasonOp where
  /-- A source event writes its reasons over those of the row. -/
  | source (reasonCodes : List String)
  | refresh (reading : ReasonReading)

def reasonSystem : System ReasonedCandidate ReasonOp Unit where
  step candidate op :=
    match op with
    | .source reasonCodes => ({ candidate with reasonCodes := reasonCodes }, ())
    | .refresh reading => (candidate.refresh reading, ())

/-! ## The stages that read the reasons -/

/-- Reasons in upper case, blank ones and repetitions left out. -/
def upperReasons (reasons : List String) : List String :=
  ((reasons.filter fun reason => Text.strip reason ≠ "").map Text.upper).eraseDups

variable (reasonCodes : List String)

/-- The branches of `_context_precheck` that ask for a reason. -/
def contextPrecheckReason : Option String :=
  if "CONDITION_RISK_BLOCKED" ∈ reasonCodes then some "CONDITION_RISK_BLOCKED"
  else if "DISCOVERY_OBSERVATION_ONLY" ∈ reasonCodes then some "DISCOVERY_OBSERVATION_ONLY"
  else none

def viActive : Bool :=
  reasonCodes.contains "VI_ACTIVE"

def upperLimitNear (changeRatePct : Option Rat) : Bool :=
  reasonCodes.contains "UPPER_LIMIT_NEAR" || 28 ≤ changeRatePct.getD 0

/-! ## The law -/

variable (candidate : ReasonedCandidate)

def ReasonedCandidate.causes (reading : ReasonReading) :
    List String :=
  mergeReasonCodes (candidate.found reading ++
    reading.activeSources.map ReasonedSource.reasonCodes)

/-- After the refresh every reason has its cause, and no stage blocks for one that has none, here
or among the `others` that it reads elsewhere. -/
structure ReasonsCaused (candidate : ReasonedCandidate) (reading : ReasonReading) : Prop where
  stored : ∀ reason, reason ∉ candidate.causes reading →
    reason ∉ (candidate.refresh reading).reasonCodes
  precheck : ∀ others reason,
    contextPrecheckReason (upperReasons ((candidate.refresh reading).reasonCodes ++ others)) =
      some reason → reason ∈ candidate.causes reading ∨ reason ∈ upperReasons others
  viActive : ∀ others,
    viActive (upperReasons (others ++ (candidate.refresh reading).reasonCodes)) = true →
      "VI_ACTIVE" ∈ candidate.causes reading ∨ "VI_ACTIVE" ∈ upperReasons others
  upperLimitNear : ∀ others changeRatePct,
    upperLimitNear (upperReasons (others ++ (candidate.refresh reading).reasonCodes))
      changeRatePct = true →
        "UPPER_LIMIT_NEAR" ∈ candidate.causes reading ∨
          "UPPER_LIMIT_NEAR" ∈ upperReasons others ∨ 28 ≤ changeRatePct.getD 0

/-- A refresh of a candidate that is not closed leaves only caused reasons. -/
def LeavesCaused : ReasonOp → Prop
  | .source _ => True
  | .refresh reading => candidate.state ≠ .closed → ReasonsCaused candidate reading

/-- Every reason in the row is found again. -/
def FoundAgain : ReasonOp → Prop
  | .source _ => True
  | .refresh reading => candidate.state ≠ .closed → ∀ item ∈ candidate.reasonCodes,
      Text.upper (Text.strip item) = "" ∨
        Text.upper (Text.strip item) ∈ candidate.causes reading

theorem mem_upperReasons {reasons : List String} {reason : String} :
    reason ∈ upperReasons reasons ↔
      ∃ item ∈ reasons, Text.strip item ≠ "" ∧ Text.upper item = reason := by
  simp [upperReasons, and_assoc]

theorem mem_upperReasons_append {groups : List (List String)} {others : List String}
    {reason : String} (isReason : reason ∈ upperReasons (mergeReasonCodes groups ++ others)) :
    reason ∈ mergeReasonCodes groups ∨ reason ∈ upperReasons others := by
  rcases mem_upperReasons.mp isReason with ⟨item, listed, filled, rfl⟩
  rcases List.mem_append.mp listed with stored | other
  · rcases mem_mergeReasonCodes.mp stored with ⟨_, _, _, rfl⟩
    rw [Text.upper_upper]
    exact Or.inl stored
  · exact Or.inr (mem_upperReasons.mpr ⟨item, other, filled, rfl⟩)

theorem upperReasons_append_comm {first second : List String} {reason : String} :
    reason ∈ upperReasons (first ++ second) ↔ reason ∈ upperReasons (second ++ first) := by
  simp only [mem_upperReasons, List.mem_append, or_comm]

variable {candidate : ReasonedCandidate} {reading : ReasonReading}

theorem reasonsCaused_iff (isOpen : candidate.state ≠ .closed) :
    ReasonsCaused candidate reading ↔ ∀ item ∈ candidate.reasonCodes,
      Text.upper (Text.strip item) = "" ∨
        Text.upper (Text.strip item) ∈ candidate.causes reading := by
  have refreshed : (candidate.refresh reading).reasonCodes =
      mergeReasonCodes (candidate.reasonCodes :: candidate.found reading) := by
    rw [ReasonedCandidate.refresh, if_neg isOpen]
  constructor
  · intro caused item stored
    by_contra uncaused
    push Not at uncaused
    apply caused.stored _ uncaused.2
    rw [refreshed]
    exact mem_mergeReasonCodes.mpr
      ⟨uncaused.1, item, List.mem_append_left _ stored, rfl⟩
  · intro again
    have kept : ∀ reason ∈ (candidate.refresh reading).reasonCodes,
        reason ∈ candidate.causes reading := by
      intro reason stored
      rw [refreshed] at stored
      rcases mem_mergeReasonCodes.mp stored with ⟨filled, item, listed, rfl⟩
      rcases List.mem_append.mp listed with before | isFound
      · exact (again item before).resolve_left filled
      · refine mem_mergeReasonCodes.mpr ⟨filled, item, ?_, rfl⟩
        rw [List.flatten_append]
        exact List.mem_append_left _ isFound
    have read : ∀ others reason,
        reason ∈ upperReasons ((candidate.refresh reading).reasonCodes ++ others) →
          reason ∈ candidate.causes reading ∨ reason ∈ upperReasons others := by
      intro others reason isReason
      rw [refreshed] at isReason kept
      exact (mem_upperReasons_append isReason).imp_left (kept reason)
    refine ⟨fun reason uncaused stored => uncaused (kept reason stored), ?_, ?_, ?_⟩
    · intro others reason blocks
      rw [contextPrecheckReason] at blocks
      split at blocks
      · next blocked =>
          cases blocks
          exact read others _ blocked
      · split at blocks
        · next observed =>
            cases blocks
            exact read others _ observed
        · cases blocks
    · intro others active
      exact read others _ (upperReasons_append_comm.mp (List.contains_iff_mem.mp active))
    · intro others changeRatePct near
      rcases Bool.or_eq_true_iff.mp near with listed | high
      · exact (read others _ (upperReasons_append_comm.mp
          (List.contains_iff_mem.mp listed))).imp_right Or.inl
      · exact Or.inr (Or.inr (of_decide_eq_true high))

/-- A candidate with fresh market data and a theme, whose condition has left it. -/
def afterBlock : ReasonReading where
  readiness := ⟨"FRESH", []⟩
  theme := ⟨true, "LEADING", "LEADER_CANDIDATE"⟩
  activeSources := [⟨.themeLeader, []⟩]
  facts :=
    { explicitClose := false
      onlyConditionExitSources := false
      activeSourceCount := 1
      hasLatestTick := true
      marketReadinessStatus := "FRESH"
      tickStale := false
      sourceStale := false
      candidateStaleRequiresTickStale := true
      ttlExpired := false
      vwapReady := true
      bar1mReady := true
      require1mBar := true
      requireVwap := true
      themeSource := true
      themeContextPresent := true
      themeState := "LEADING"
      conditionSource := false
      conditionSignalPresent := false
      observationBlocked := false
      reasonCodes := [] }

def blockedCandidate : ReasonedCandidate where
  state := .watching
  reasonCodes := []

end SuseokTrader
