import SuseokTrader.Market.Projection

/-!
# Condition fusion

The conditions with a profile play roles: discovery, leader, pullback and so on,
down to the block of risky codes. For each code of a trade date the latest event
of every profile counts while it is an entry that has not expired, and the roles
of these events make up one fusion row, which is written over at every rebuild.
-/

namespace SuseokTrader

inductive ConditionRole where
  | discovery
  | leader
  | pullback
  | breakout
  | themeSpread
  | riskBlock
  | manual
deriving DecidableEq

namespace ConditionRole

def value : ConditionRole → String
  | discovery => "DISCOVERY"
  | leader => "LEADER"
  | pullback => "PULLBACK"
  | breakout => "BREAKOUT"
  | themeSpread => "THEME_SPREAD"
  | riskBlock => "RISK_BLOCK"
  | manual => "MANUAL"

/-- The roles in the order of their texts. -/
def all : List ConditionRole :=
  [breakout, discovery, leader, manual, pullback, riskBlock, themeSpread]

def weight : ConditionRole → Int
  | discovery => 1
  | themeSpread => 2
  | manual => 3
  | pullback => 4
  | breakout => 4
  | leader => 5
  | riskBlock => 0

def defaultTtlSec : ConditionRole → Int
  | discovery => 180
  | themeSpread => 300
  | manual => 600
  | pullback => 600
  | breakout => 600
  | leader => 600
  | riskBlock => 1800

end ConditionRole

variable (host : Host)

def parseConditionRole (value : Json) : Checked ConditionRole :=
  let text := Text.upper (Text.strip ((value.orElse (.str "DISCOVERY")).text host))
  let normalized :=
    if text = "DISCOVER" then "DISCOVERY"
    else if text = "THEME_SPREADING" then "THEME_SPREAD"
    else if text = "RISK" ∨ text = "BLOCK" then "RISK_BLOCK"
    else text
  match ConditionRole.all.find? fun role => role.value = normalized with
  | some role => .ok role
  | none => Checked.invalid (host.reprText normalized ++ " is not a valid ConditionRole")

/-- `int(value)` -/
def builtinInt : Json → Checked Int
  | .int value => .ok value
  | .bool value => .ok (if value then 1 else 0)
  | .float repr =>
      match host.float repr with
      | some (.finite value) => .ok (value.num.tdiv value.den)
      | _ => .error (.crash "cannot convert float to integer")
  | .str text =>
      match integerText (Text.strip text) with
      | some value => .ok value
      | none =>
          Checked.invalid ("invalid literal for int() with base 10: " ++ host.reprText text)
  | _ => .error (.crash "int() argument must be a string, a bytes-like object or a real number")

/-! ## Events of a profile -/

deriving instance DecidableEq for ConditionEventAction

def profilePayload (metadata : Payload) : Payload :=
  metadata.mapping "condition_profile"

def admissionPayload (metadata : Payload) : Payload :=
  (((metadata.get "condition_admission").orElse (metadata.get "admission")).asObject).getD []

def isProfileConditionMetadata (metadata : Payload) : Bool :=
  let profile := profilePayload metadata
  (metadata.get "sensor_evidence").isTrue ||
    (metadata.get "condition_role").truthy ||
    (metadata.get "condition_profile_id").truthy ||
    (profile.get "role").truthy ||
    (profile.get "profile_id").truthy

def ConditionSignal.metadata (row : ConditionSignal) : Payload :=
  loadsJsonObject host row.metadataJson

structure ConditionProfileEvent where
  eventId : String
  conditionName : String
  code : String
  name : String
  action : ConditionEventAction
  role : ConditionRole
  profileId : String
  priority : Int
  ttlSec : Int
  eventTs : String
  subscribed : Bool

def profileEventFromRow (row : ConditionSignal) (metadata : Payload) :
    Checked ConditionProfileEvent := do
  let profile := profilePayload metadata
  let role ← parseConditionRole host
    (((metadata.get "condition_role").orElse (profile.get "role")).orElse (.str "DISCOVERY"))
  let priority ← builtinInt host
    (((profile.get "priority").orElse (metadata.get "condition_priority")).orElse (.int 0))
  let ttlSec ← builtinInt host ((profile.get "ttl_sec").orElse (.int role.defaultTtlSec))
  return {
    eventId := row.eventId
    conditionName := row.conditionName
    code := row.code
    name := row.name
    action := row.action
    role := role
    profileId := (((metadata.get "condition_profile_id").orElse
      (profile.get "profile_id")).orElse (.str row.conditionId)).text host
    priority := priority
    ttlSec := ttlSec
    eventTs := row.eventTs
    subscribed := ((admissionPayload metadata).get "subscribed").isTrue }

def ConditionProfileEvent.isExpired (event : ConditionProfileEvent) (now : Instant) :
    Checked Bool :=
  if event.ttlSec ≤ 0 then .ok false
  else do
    let eventAt ← parseTimestamp (.str event.eventTs) "event_ts"
    return (now : Int) - eventAt > event.ttlSec * Time.microsPerSecond

/-! ## Fusing the events of a code -/

structure ConditionFusion where
  tradeDate : String
  code : String
  name : String
  activeRoles : List ConditionRole
  hitCount : Nat
  latestHitAt : Option String
  conditionNames : List String
  positiveScore : Int
  riskBlocked : Bool
  priorityScore : Int
  reasonCodes : List String
  subscribed : Bool
  latestEventId : String
  notBuySignal : Bool
  candidatePromotionAllowed : Bool
  discoveryPromotionPending : Bool
  updatedAt : String

instance : Keyed ConditionFusion (String × String) := ⟨fun row => (row.tradeDate, row.code)⟩

/-- `latest_by_profile[event.profile_id] = event`, the profiles in the order they came. -/
def setLatestByProfile (latest : List ConditionProfileEvent) (event : ConditionProfileEvent) :
    List ConditionProfileEvent :=
  if latest.any fun other => other.profileId = event.profileId then
    latest.map fun other => if other.profileId = event.profileId then event else other
  else latest ++ [event]

def latestByProfile (events : List ConditionProfileEvent) : List ConditionProfileEvent :=
  events.foldl setLatestByProfile []

def activeEvents (events : List ConditionProfileEvent) (now : Instant) :
    Checked (List ConditionProfileEvent) :=
  (latestByProfile events).filterMapM fun event =>
    if event.action = .enter then do
      let expired ← event.isExpired now
      return if expired then none else some event
    else return none

def latestEvent (first : ConditionProfileEvent) (events : List ConditionProfileEvent) :
    ConditionProfileEvent :=
  events.foldl (fun latest event => if latest.eventTs < event.eventTs then event else latest) first

def latestHitAt (enterEvents : List ConditionProfileEvent) : Option String :=
  (enterEvents.map ConditionProfileEvent.eventTs).max?

def sortedTexts (texts : List String) : List String :=
  (texts.dedup).insertionSort (· ≤ ·)

def fusionPriority (activeEvents : List ConditionProfileEvent) (roles : List ConditionRole)
    (positiveScore : Int) : Int :=
  let rolePriority :=
    ((activeEvents.filter fun event => event.role ≠ .riskBlock).map fun event =>
      max event.priority 0).sum
  let score := positiveScore * 10 + rolePriority
  let score := if roles = [.discovery] then min score 25 else score
  let score := if .leader ∈ roles ∧ .pullback ∈ roles then score + 500 else score
  let score := if .leader ∈ roles ∧ .breakout ∈ roles then score + 500 else score
  if .riskBlock ∈ roles ∨ roles = [] then 0 else score

def fusionReasons (roles : List ConditionRole) : List String :=
  let discoveryOnly := roles = [.discovery]
  let riskBlocked := .riskBlock ∈ roles
  (["CONDITION_SENSOR_EVIDENCE"] ++
    (if discoveryOnly then ["DISCOVERY_OBSERVATION_ONLY", "DISCOVERY_PROMOTION_PENDING"] else []) ++
    (if .leader ∈ roles ∧ .pullback ∈ roles then ["LEADER_PULLBACK_FUSION_PRIORITY"] else []) ++
    (if .leader ∈ roles ∧ .breakout ∈ roles then ["LEADER_BREAKOUT_FUSION_PRIORITY"] else []) ++
    (if riskBlocked then ["RISK_BLOCKED_BY_CONDITION", "MARKET_SENSOR_NOT_BUY_SIGNAL"] else []) ++
    (if roles ≠ [] ∧ ¬ discoveryOnly ∧ ¬ riskBlocked then ["CONDITION_FUSION_PRIORITY_READY"]
      else []) ++
    (if roles = [] then ["CONDITION_FUSION_NO_ACTIVE_ROLE", "MARKET_SENSOR_NOT_BUY_SIGNAL"]
      else [])).dedup

def activeRoles (activeEvents : List ConditionProfileEvent) : List ConditionRole :=
  ConditionRole.all.filter fun role => activeEvents.any fun event => event.role = role

def fuseCodeEvents (tradeDate : String) (first : ConditionProfileEvent)
    (rest : List ConditionProfileEvent) (now : Instant) (updatedAt : String) :
    Checked ConditionFusion := do
  let events := first :: rest
  let active ← activeEvents events now
  let enterEvents := events.filter fun event => event.action = .enter
  let roles := activeRoles active
  let positiveScore := ((roles.filter (· ≠ .riskBlock)).map ConditionRole.weight).sum
  let latest := latestEvent first rest
  return {
    tradeDate := tradeDate
    code := first.code
    name := latest.name
    activeRoles := roles
    hitCount := enterEvents.length
    latestHitAt := latestHitAt enterEvents
    conditionNames := sortedTexts (enterEvents.map ConditionProfileEvent.conditionName)
    positiveScore := positiveScore
    riskBlocked := .riskBlock ∈ roles
    priorityScore := fusionPriority active roles positiveScore
    reasonCodes := fusionReasons roles
    subscribed := active.any ConditionProfileEvent.subscribed
    latestEventId := latest.eventId
    notBuySignal := .riskBlock ∈ roles ∨ roles = []
    candidatePromotionAllowed := roles ≠ [] ∧ .riskBlock ∉ roles
    discoveryPromotionPending := roles = [.discovery]
    updatedAt := updatedAt }

/-! ## Rebuilding and listing -/

def signalsOfDate (tradeDateOf : String → String) (signals : Table ConditionSignal)
    (tradeDate : String) : List ConditionSignal :=
  (signals.rows.filter fun row => tradeDateOf row.eventTs = tradeDate).insertionSort
    fun left right => left.eventTs ≤ right.eventTs

def profileEvents (rows : List ConditionSignal) :
    Checked (List ConditionProfileEvent) :=
  (rows.filter fun row => isProfileConditionMetadata (row.metadata host)).mapM fun row =>
    profileEventFromRow host row (row.metadata host)

def fuseCode (tradeDate : String) (events : List ConditionProfileEvent) (now : Instant)
    (code : String) : Checked (List ConditionFusion) :=
  match events.filter fun event => event.code = code with
  | [] => .ok []
  | first :: rest => do
      let fusion ← fuseCodeEvents tradeDate first rest now (datetimeToWire now)
      return [fusion]

def conditionFusions (tradeDateOf : String → String)
    (signals : Table ConditionSignal) (tradeDate : String) (now : Instant) :
    Checked (List ConditionFusion) := do
  let events ← profileEvents host (signalsOfDate tradeDateOf signals tradeDate)
  let fusions ← (sortedTexts (events.map ConditionProfileEvent.code)).mapM
    (fuseCode tradeDate events now)
  return fusions.flatten

/-- The fusion rows of a trade date, those of the highest priority first, at most 500. -/
def listConditionFusion (fusions : Table ConditionFusion) (tradeDate : String) (limit : Nat) :
    List ConditionFusion :=
  ((fusions.rows.filter fun row => row.tradeDate = tradeDate).insertionSort fun left right =>
    right.priorityScore < left.priorityScore ∨
      right.priorityScore = left.priorityScore ∧
        (right.latestHitAt.getD "" < left.latestHitAt.getD "" ∨
          right.latestHitAt.getD "" = left.latestHitAt.getD "" ∧ left.code ≤ right.code)).take
    (min (max limit 1) 500)

end SuseokTrader
