import SuseokTrader.Candidate.Fusion
import SuseokTrader.Lib.Run
import SuseokTrader.Lib.Windows

/-!
# Admission of condition events

A condition event asks for the realtime prices of a code. Its profile limits
how many events are admitted at first and in a minute, and a budget limits how
many codes are registered at all.
-/

namespace SuseokTrader

/-! ## Profiles and budgets -/

inductive PriceSubscribePolicy where
  | none
  | batch
  | immediate
  | realOnly
deriving DecidableEq

inductive ConditionSessionProfile where
  | preopenNxt
  | opening
  | morningTrend
  | midday
  | afternoon
  | closing
deriving DecidableEq

structure ConditionProfile where
  profileId : String
  role : ConditionRole
  priceSubscribePolicy : PriceSubscribePolicy
  priority : Int
  maxInitial : Nat
  maxRealtimePerMin : Nat
deriving DecidableEq

structure RealtimeMetrics where
  realtimeSubscriptionHealth : String
  parsedPriceTickCount : Int
  realtimeParseErrorCount : Int
  realtimeCallbackCount : Int
  registeredRealtimeCodeCount : Int

inductive RealtimeQuality where
  | callbackTimeout
  | degraded
  | warmup
  | good
deriving DecidableEq

def quality (metrics : RealtimeMetrics) : RealtimeQuality × List String :=
  let health := Text.upper metrics.realtimeSubscriptionHealth
  let errors := metrics.realtimeParseErrorCount
  if health ∈ ["CALLBACK_TIMEOUT", "ACTIVE_X_CALLBACK_SUSPECTED", "CORE_IO_BLOCKING_SUSPECTED"] then
    (.callbackTimeout, [health])
  else if health = "PARSE_ERROR" ∨
      3 ≤ errors ∧ max metrics.parsedPriceTickCount 1 < 2 * errors then
    (.degraded, ["REALTIME_PARSE_ERRORS_HIGH"])
  else if 0 < metrics.registeredRealtimeCodeCount ∧ metrics.realtimeCallbackCount = 0 ∧
      metrics.parsedPriceTickCount = 0 then
    (.warmup, ["WAITING_FOR_FIRST_REALTIME_CALLBACK"])
  else
    (.good, ["REALTIME_QUALITY_OK"])

def ConditionRole.isStrong : ConditionRole → Bool
  | leader | pullback | breakout | manual => true
  | discovery | themeSpread | riskBlock => false

def discoverySessionCap : ConditionSessionProfile → Int
  | .preopenNxt => 0
  | .opening => 80
  | .morningTrend => 40
  | .midday => 12
  | .afternoon => 10
  | .closing => 5

structure AdaptiveBudget where
  qualityStatus : RealtimeQuality
  reasonCodes : List String
  cap : Int
  registeredRealtimeCodeCount : Int
  sessionProfile : ConditionSessionProfile
  role : ConditionRole

def adaptiveBudget (profile : ConditionProfile) (registeredRealtimeCount : Int)
    (metrics : RealtimeMetrics) (sessionProfile : ConditionSessionProfile) (maxTotal : Int) :
    AdaptiveBudget :=
  let strong := profile.role.isStrong
  let cap :=
    if strong then 100
    else if profile.role = .riskBlock then 0
    else discoverySessionCap sessionProfile
  let cap := match (quality metrics).1 with
    | .degraded => min cap (if strong then 30 else 5)
    | .callbackTimeout => min cap (if strong then 10 else 0)
    | .warmup => min cap (if strong then 20 else 8)
    | .good => cap
  { qualityStatus := (quality metrics).1
    reasonCodes := (quality metrics).2
    cap := max (min cap (max maxTotal 0)) 0
    registeredRealtimeCodeCount := registeredRealtimeCount
    sessionProfile := sessionProfile
    role := profile.role }

/-! ## Decisions -/

structure AdmissionRequest where
  profile : ConditionProfile
  action : String
  source : String
  registeredRealtimeCount : Int
  metrics : RealtimeMetrics
  sessionProfile : ConditionSessionProfile
  maxTotal : Int
  batchAllowed : Bool
  plannedBatchCount : Int
  now : Instant

namespace AdmissionRequest

variable (request : AdmissionRequest)

def normalizedAction : String :=
  Text.upper request.action

def normalizedSource : String :=
  Text.lower (Text.strip request.source)

def effectiveRegisteredCount : Int :=
  request.registeredRealtimeCount + max request.plannedBatchCount 0

def budget : AdaptiveBudget :=
  adaptiveBudget request.profile request.effectiveRegisteredCount request.metrics
    request.sessionProfile request.maxTotal

end AdmissionRequest

structure Placement where
  registerImmediate : Bool
  registerBatch : Bool
  reason : String

def Placement.subscribed (placement : Placement) : Bool :=
  placement.registerImmediate || placement.registerBatch

def refusedPlacement (reason : String) : Placement :=
  ⟨false, false, reason⟩

/-- Where a request that no limit refuses is placed. -/
def AdmissionRequest.placement (request : AdmissionRequest) : Placement :=
  if request.sessionProfile ∈ [.midday, .afternoon, .closing] ∧
      request.profile.role = .discovery then
    ⟨false,
      decide (request.effectiveRegisteredCount < request.budget.cap) &&
        (request.normalizedSource == "tr_condition" && request.batchAllowed),
      "SESSION_DISCOVERY_LIMITED"⟩
  else
    match request.profile.priceSubscribePolicy with
    | .immediate => ⟨true, false, "PRICE_SUBSCRIBE_IMMEDIATE"⟩
    | .realOnly =>
        if request.normalizedSource = "real_condition" then
          ⟨true, false, "PRICE_SUBSCRIBE_REAL_ONLY"⟩
        else refusedPlacement "PRICE_SUBSCRIBE_REAL_ONLY_SKIPPED_INITIAL"
    | .batch =>
        if request.normalizedSource = "tr_condition" ∧ request.batchAllowed = true then
          ⟨false, true, "PRICE_SUBSCRIBE_BATCH_INITIAL"⟩
        else if request.normalizedSource = "real_condition" then
          ⟨true, false, "PRICE_SUBSCRIBE_BATCH_REALTIME_IMMEDIATE"⟩
        else refusedPlacement "PRICE_SUBSCRIBE_BATCH_DEFERRED"
    | .none => refusedPlacement "PRICE_SUBSCRIBE_POLICY_NONE"

structure AdmissionDecision where
  profileId : String
  role : ConditionRole
  action : String
  source : String
  subscribed : Bool
  registerImmediate : Bool
  registerBatch : Bool
  reasonCodes : List String
  priority : Int
  adaptiveBudget : AdaptiveBudget
  decidedAt : Instant

structure AdmissionController where
  realtimeEnterAt : String → List Instant
  initialEnterCounts : String → Nat

namespace AdmissionController

def initial : AdmissionController :=
  ⟨fun _ => [], fun _ => 0⟩

/-- A minute, in microseconds. -/
@[irreducible]
def minute : Nat :=
  60000000

theorem minute_pos : 0 < minute := by
  unfold minute
  exact Nat.succ_pos _

variable (controller : AdmissionController)

def withinRealtimeRate (profile : ConditionProfile) (now : Instant) :
    Bool × AdmissionController :=
  if profile.maxRealtimePerMin ≤ 0 then (false, controller)
  else
    let entries := Window.expire (fun entered => entered + minute) now
      (controller.realtimeEnterAt profile.profileId)
    (decide (entries.length < profile.maxRealtimePerMin),
      { controller with
        realtimeEnterAt := Function.update controller.realtimeEnterAt profile.profileId entries })

def recordRealtimeEnter (profileId : String) (now : Instant) : AdmissionController :=
  { controller with
    realtimeEnterAt := Function.update controller.realtimeEnterAt profileId
      (controller.realtimeEnterAt profileId ++ [now]) }

variable (request : AdmissionRequest)

/-- An admission counts for the rate of its profile, whatever its source. -/
def recordAdmission : AdmissionController :=
  let recorded := controller.recordRealtimeEnter request.profile.profileId request.now
  if request.normalizedSource = "tr_condition" then
    { recorded with
      initialEnterCounts := Function.update recorded.initialEnterCounts request.profile.profileId
        (recorded.initialEnterCounts request.profile.profileId + 1) }
  else recorded

/-- The reason to refuse a request before its rate is looked at. -/
def refusal : Option String :=
  if request.normalizedAction ≠ "ENTER" then some "EXIT_EVENT_NO_IMMEDIATE_REMOVE"
  else if request.profile.role = .riskBlock then some "RISK_BLOCK_NO_PRICE_SUBSCRIBE"
  else if request.profile.priceSubscribePolicy = .none then some "PRICE_SUBSCRIBE_POLICY_NONE"
  else if request.normalizedSource = "tr_condition" ∧
      request.profile.maxInitial ≤ controller.initialEnterCounts request.profile.profileId then
    some "PROFILE_MAX_INITIAL_REACHED"
  else if request.budget.cap ≤ request.effectiveRegisteredCount then
    some "ADAPTIVE_REALTIME_BUDGET_EXHAUSTED"
  else none

/-- Where a request is placed, and the times that are left of its profile. -/
def place : Placement × AdmissionController :=
  match controller.refusal request with
  | some reason => (refusedPlacement reason, controller)
  | none =>
      if request.normalizedSource = "real_condition" then
        match controller.withinRealtimeRate request.profile request.now with
        | (true, controller) => (request.placement, controller)
        | (false, controller) => (refusedPlacement "PROFILE_REALTIME_RATE_LIMIT", controller)
      else (request.placement, controller)

def decide : AdmissionDecision × AdmissionController :=
  let (placement, controller) := controller.place request
  ({ profileId := request.profile.profileId
     role := request.profile.role
     action := request.normalizedAction
     source := request.normalizedSource
     subscribed := placement.subscribed
     registerImmediate := placement.registerImmediate
     registerBatch := placement.registerBatch
     reasonCodes := ["CONDITION_SENSOR_EVIDENCE", "MARKET_SENSOR_NOT_BUY_SIGNAL", placement.reason]
     priority := request.profile.priority
     adaptiveBudget := request.budget
     decidedAt := request.now },
    if placement.subscribed then controller.recordAdmission request else controller)

end AdmissionController

end SuseokTrader
