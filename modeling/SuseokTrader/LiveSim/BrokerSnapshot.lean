import SuseokTrader.Lib.Doubles
import SuseokTrader.LiveSim.Executions

/-!
# Broker snapshots

A reconciliation may come with a snapshot of the account at the broker. Its
rows come under several names and types and are brought to one form, in which
the snapshot is compared with the tables and stored.
-/

namespace SuseokTrader

/-- What a reconciliation takes from the machine besides: the number nearest to an exact result,
the text of a number, and the letters and digits of all scripts. -/
structure ReconcileHost extends Host where
  round : Rat → Float64
  print : Float64 → String
  print_floatText : ∀ value, Json.FloatText floatRepr (print value)
  floatRepr_floatText : ∀ text, Json.FloatText floatRepr (floatRepr text)
  isAlphanumeric : Char → Bool

namespace ReconcileHost

def number (host : ReconcileHost) (value : Float64) : Json :=
  .float (host.print value)

def optionalNumber (host : ReconcileHost) : Option Float64 → Json
  | none => .null
  | some value => host.number value

end ReconcileHost

/-! ## Readings -/

def firstPresent (row : Payload) (keys : List String) : Json :=
  ((keys.map row.get).find? fun value => !value.isNull).getD .null

namespace Json

def mappingList : Json → List Payload
  | .arr items => items.filterMap asObject
  | _ => []

def sequenceValues : Json → List Json
  | .arr items => items
  | _ => []

variable (host : Host)

/-- The integer that a printed form denotes after its fraction is cut off. -/
def optionalIntValue (value : Json) : Checked (Option Int) :=
  if value.isNull || Text.strip (value.text host) = "" then .ok none
  else
    match host.float (removeCommas (value.text host)) with
    | some (.finite parsed) => .ok (some (truncate parsed))
    | some .posInf | some .negInf => .error (.crash "cannot convert float infinity to integer")
    | some .nan | none => .ok none

def optionalFloatValue (value : Json) : Option Float64 :=
  if value.isNull || Text.strip (value.text host) = "" then none
  else host.float (removeCommas (value.text host))

def optionalStockCode (value : Json) : Option String :=
  if value.isNull || Text.strip (value.text host) = "" then none
  else
    match validateStockCode (.str (value.text host)) with
    | .ok code => some code
    | .error _ => none

def boolLike : Json → Bool
  | .bool value => value
  | value =>
      Text.lower (Text.strip (value.text host)) ∉ ["0", "false", "no", "n", "off"]

def ofOptionalText : Option String → Json
  | none => .null
  | some value => .str value

def ofOptionalInt : Option Int → Json
  | none => .null
  | some value => .int value

end Json

variable (host : ReconcileHost)

/-- The last letters and digits of an account number. -/
def maskAccountId (value : Json) : String :=
  let normalized :=
    (Text.strip (value.textOrEmpty host.toHost)).toList.filter host.isAlphanumeric
  if normalized = [] then "UNCONFIGURED"
  else if normalized.length ≤ 4 then String.ofList (List.replicate normalized.length '*')
  else String.ofList ("***".toList ++ normalized.drop (normalized.length - 4))

def accountKeys : List String :=
  ["account", "account_id", "account_no", "계좌번호"]

def maskedBrokerRow (row : Payload) : Payload :=
  row.map fun (key, value) =>
    if Text.lower (Text.strip key) ∈ accountKeys then (key, .str (maskAccountId host value))
    else (key, value)

/-! ## Rows -/

structure BrokerOpenOrder where
  brokerOrderNo : Option String
  code : Option String
  side : String
  orderStatus : String
  quantity : Int
  filledQuantity : Int
  remainingQuantity : Int
  price : Option Float64
  raw : Payload

structure BrokerHolding where
  code : String
  name : String
  quantity : Int
  availableQuantity : Option Int
  avgEntryPrice : Option Float64
  raw : Payload

structure BrokerTrade where
  brokerExecutionId : Option String
  brokerOrderNo : Option String
  code : Option String
  side : String
  quantity : Int
  price : Option Float64
  executedAt : String
  raw : Payload

def normalizeBrokerOpenOrder (row : Payload) :
    Checked (Option BrokerOpenOrder) := do
  let code := (firstPresent row ["code", "stock_code", "symbol"]).optionalStockCode host.toHost
  let brokerOrderNo :=
    (firstPresent row ["broker_order_no", "order_no", "broker_order_id"]).optionalText host.toHost
  let quantity ←
    (firstPresent row ["quantity", "order_quantity", "qty"]).optionalIntValue host.toHost
  let remaining ← (firstPresent row
    ["remaining_quantity", "unfilled_quantity", "open_quantity"]).optionalIntValue host.toHost
  let remaining := remaining.or quantity
  if code = none ∧ brokerOrderNo = none then return none
  else
    let filled ←
      (firstPresent row ["filled_quantity", "executed_quantity"]).optionalIntValue host.toHost
    return some {
      brokerOrderNo, code
      side := Text.upper ((firstPresent row ["side", "order_side"]).textOrEmpty host.toHost)
      orderStatus :=
        Text.upper ((firstPresent row ["order_status", "status"]).textOrEmpty host.toHost)
      quantity := quantity.getD (remaining.getD 0)
      filledQuantity := filled.getD 0
      remainingQuantity := remaining.getD (quantity.getD 0)
      price := (firstPresent row ["price", "order_price"]).optionalFloatValue host.toHost
      raw := maskedBrokerRow host row }

def normalizeBrokerExecution (row : Payload) :
    Checked (Option BrokerTrade) := do
  let brokerOrderNo :=
    (firstPresent row ["broker_order_no", "order_no", "broker_order_id"]).optionalText host.toHost
  let executionId := (firstPresent row
    ["broker_execution_id", "execution_id", "fill_id"]).optionalText host.toHost
  let code := (firstPresent row ["code", "stock_code", "symbol"]).optionalStockCode host.toHost
  let quantity ← (firstPresent row
    ["quantity", "execution_quantity", "fill_quantity"]).optionalIntValue host.toHost
  if brokerOrderNo = none ∧ executionId = none ∧ code = none then return none
  else return some {
    brokerExecutionId := executionId
    brokerOrderNo, code
    side := Text.upper ((firstPresent row ["side", "order_side"]).textOrEmpty host.toHost)
    quantity := quantity.getD 0
    price := (firstPresent row
      ["price", "execution_price", "fill_price"]).optionalFloatValue host.toHost
    executedAt := (firstPresent row
      ["executed_at", "execution_time", "fill_time"]).textOrEmpty host.toHost
    raw := maskedBrokerRow host row }

def normalizeBrokerPosition (row : Payload) :
    Checked (Option BrokerHolding) := do
  match (firstPresent row ["code", "stock_code", "symbol"]).optionalStockCode host.toHost with
  | none => return none
  | some code =>
      let quantity ← (firstPresent row
        ["quantity", "position_quantity", "holding_quantity"]).optionalIntValue host.toHost
      let available ← (firstPresent row
        ["available_quantity", "sellable_quantity", "available_qty"]).optionalIntValue host.toHost
      return some {
        code
        name := (Json.orElse (row.get "name")
          (Json.orElse (row.get "stock_name") (.str code))).text host.toHost
        quantity := quantity.getD 0
        availableQuantity := available.or quantity
        avgEntryPrice := (firstPresent row
          ["avg_entry_price", "average_buy_price", "avg_price"]).optionalFloatValue host.toHost
        raw := maskedBrokerRow host row }

def BrokerOpenOrder.toDict (row : BrokerOpenOrder) : Payload :=
  [("broker_order_no", .ofOptionalText row.brokerOrderNo),
    ("code", .ofOptionalText row.code),
    ("side", .str row.side),
    ("order_status", .str row.orderStatus),
    ("quantity", .int row.quantity),
    ("filled_quantity", .int row.filledQuantity),
    ("remaining_quantity", .int row.remainingQuantity),
    ("price", host.optionalNumber row.price),
    ("raw", .obj row.raw)]

def BrokerTrade.toDict (row : BrokerTrade) : Payload :=
  [("broker_execution_id", .ofOptionalText row.brokerExecutionId),
    ("broker_order_no", .ofOptionalText row.brokerOrderNo),
    ("code", .ofOptionalText row.code),
    ("side", .str row.side),
    ("quantity", .int row.quantity),
    ("price", host.optionalNumber row.price),
    ("executed_at", .str row.executedAt),
    ("raw", .obj row.raw)]

def BrokerHolding.toDict (row : BrokerHolding) : Payload :=
  [("code", .str row.code),
    ("name", .str row.name),
    ("quantity", .int row.quantity),
    ("available_quantity", .ofOptionalInt row.availableQuantity),
    ("avg_entry_price", host.optionalNumber row.avgEntryPrice),
    ("raw", .obj row.raw)]

/-! ## The snapshot -/

inductive BrokerSnapshotStatus where
  | requested
  | collecting
  | complete
  | incomplete
  | failed
  | stale
deriving DecidableEq

namespace BrokerSnapshotStatus

def value : BrokerSnapshotStatus → String
  | requested => "REQUESTED"
  | collecting => "COLLECTING"
  | complete => "COMPLETE"
  | incomplete => "INCOMPLETE"
  | failed => "FAILED"
  | stale => "STALE"

def all : List BrokerSnapshotStatus :=
  [requested, collecting, complete, incomplete, failed, stale]

/-- `canonical_snapshot_status` of a text -/
def canonical (text : String) : BrokerSnapshotStatus :=
  (all.find? fun status => status.value = Text.upper (Text.strip text)).getD incomplete

end BrokerSnapshotStatus

structure BrokerSnapshot where
  snapshotId : String
  snapshotStatus : BrokerSnapshotStatus
  accountIdMasked : String
  tradeDate : String
  snapshotAt : String
  snapshotAge : Option Float64
  staleAfterSec : Int
  fresh : Bool
  openOrders : List BrokerOpenOrder
  positions : List BrokerHolding
  executions : List BrokerTrade
  pageLineage : List Payload
  requestedSections : List String
  completedSections : List String
  errors : List String
  source : String
  complete : Bool

def BrokerSnapshot.toDict (host : ReconcileHost) (snapshot : BrokerSnapshot) : Payload :=
  [("snapshot_id", .str snapshot.snapshotId),
    ("snapshot_status", .str snapshot.snapshotStatus.value),
    ("account_id_masked", .str snapshot.accountIdMasked),
    ("trade_date", .str snapshot.tradeDate),
    ("snapshot_at", .str snapshot.snapshotAt),
    ("snapshot_age_sec", host.optionalNumber snapshot.snapshotAge),
    ("stale_after_sec", .int snapshot.staleAfterSec),
    ("fresh", .bool snapshot.fresh),
    ("open_orders", .arr (snapshot.openOrders.map fun row => .obj (row.toDict host))),
    ("positions", .arr (snapshot.positions.map fun row => .obj (row.toDict host))),
    ("executions", .arr (snapshot.executions.map fun row => .obj (row.toDict host))),
    ("page_lineage", .arr (snapshot.pageLineage.map .obj)),
    ("requested_sections", .arr (snapshot.requestedSections.map .str)),
    ("completed_sections", .arr (snapshot.completedSections.map .str)),
    ("errors", .arr (snapshot.errors.map .str)),
    ("source", .str snapshot.source),
    ("complete", .bool snapshot.complete),
    ("live_sim_only", .bool true),
    ("live_real_allowed", .bool false),
    ("broker_order_path", .str "LIVE_SIM_ONLY"),
    ("automatic_local_repair", .bool false)]

def roundedSeconds (seconds : Float64) : Float64 :=
  match seconds with
  | .finite value => host.round (roundHalfEven (value * 1000) / 1000)
  | seconds => seconds

/-- The readings of the clock during a reconciliation, in their order. -/
structure ReconcileClocks where
  today : Instant
  staleCutoff : Instant
  stated : Instant
  aged : Instant
  snapshotToday : Instant
  created : Instant

/-- Whether the snapshot is young enough, and its age. -/
def brokerSnapshotFreshness (snapshotAt : String) (staleAfterSec : Int)
    (now : Instant) : Bool × Option Float64 :=
  match parseTimestamp (.str snapshotAt) "broker_snapshot_at" with
  | .error _ => (false, none)
  | .ok parsed =>
      match host.round (((now : Int) - (parsed : Int) : Int) / 1000000) with
      | .finite age =>
          if age < -5 then (false, some (roundedSeconds host (.finite age)))
          else (age ≤ staleAfterSec, some (roundedSeconds host (.finite (max age 0))))
      | other => (false, some other)

structure ReconcileSettings where
  liveSimAccountId : Option String
  notionalTolerance : Rat
  blockNewBuyOnMismatch : Bool
  allowExitOnMismatch : Bool
  staleOrderSec : Nat
  brokerSnapshotStaleSec : Int

namespace ReconcileSettings

def accountId (settings : ReconcileSettings) : Json :=
  .ofOptionalText settings.liveSimAccountId

end ReconcileSettings

def snapshotKeys : List String :=
  ["snapshot_id", "snapshot_status", "open_orders", "unfilled_orders", "orders",
    "open_order_snapshots", "positions", "holdings", "position_snapshots", "balances",
    "executions", "fills", "execution_snapshots"]

def brokerSnapshotRoot (snapshot : Payload) : Checked Payload := do
  let wrapped ← (snapshot.get "broker_snapshot").toObject host.toHost
  return if wrapped = [] then snapshot else wrapped

variable (root : Payload)

def explicitStatus : Option String :=
  (Json.orElse (root.get "snapshot_status") (root.get "status")).optionalText host.toHost

def saysComplete : Bool :=
  (root.getOr "complete" (root.getOr "snapshot_complete" (.bool true))).boolLike host.toHost

def statedStatus : BrokerSnapshotStatus :=
  match explicitStatus host root with
  | some text => .canonical text
  | none => if saysComplete host root then .complete else .incomplete

def snapshotTime (clocks : ReconcileClocks) : String :=
  let stated :=
    (Json.orElse (root.get "snapshot_at") (root.get "created_at")).textOrEmpty host.toHost
  if stated = "" ∧ explicitStatus host root = none then datetimeToWire clocks.stated else stated

variable (settings : ReconcileSettings)

def staleAfterSec (root : Payload) :
    Checked Int := do
  let given ← (root.get "stale_after_sec").optionalIntValue host.toHost
  return (given.filter (1 ≤ ·)).getD settings.brokerSnapshotStaleSec

def snapshotStatus (fresh : Bool) :
    BrokerSnapshotStatus :=
  if statedStatus host root = .complete ∧ fresh = false then .stale else statedStatus host root

def normalizeRoot (root : Payload)
    (clocks : ReconcileClocks) : Checked (Option BrokerSnapshot) := do
  let openOrdersRaw := (firstPresent root
    ["open_orders", "unfilled_orders", "orders", "open_order_snapshots"]).mappingList
  let positionsRaw := (firstPresent root
    ["positions", "holdings", "position_snapshots", "balances"]).mappingList
  let executionsRaw :=
    (firstPresent root ["executions", "fills", "execution_snapshots"]).mappingList
  if !(snapshotKeys.any root.has) && openOrdersRaw.isEmpty && positionsRaw.isEmpty then
    return none
  else
    let snapshotAt := snapshotTime host root clocks
    let staleAfterSec ← staleAfterSec host settings root
    let freshness := brokerSnapshotFreshness host snapshotAt staleAfterSec clocks.aged
    let status := snapshotStatus host root freshness.1
    let openOrders ← openOrdersRaw.mapM (normalizeBrokerOpenOrder host)
    let positions ← positionsRaw.mapM (normalizeBrokerPosition host)
    let executions ← executionsRaw.mapM (normalizeBrokerExecution host)
    return some {
      snapshotId := (root.get "snapshot_id").textOrEmpty host.toHost
      snapshotStatus := status
      accountIdMasked := (Json.orElse (root.get "account_id_masked")
        (.str (maskAccountId host
          (Json.orElse (root.get "account_id") settings.accountId)))).text host.toHost
      tradeDate := (Json.orElse (root.get "trade_date")
        (.str (marketToday clocks.snapshotToday))).text host.toHost
      snapshotAt
      snapshotAge := freshness.2
      staleAfterSec
      fresh := freshness.1 && status = .complete
      openOrders := openOrders.filterMap id
      positions := positions.filterMap id
      executions := executions.filterMap id
      pageLineage := (root.get "page_lineage").mappingList
      requestedSections :=
        (root.get "requested_sections").sequenceValues.map (Json.text host.toHost)
      completedSections :=
        (root.get "completed_sections").sequenceValues.map (Json.text host.toHost)
      errors := (root.get "errors").sequenceValues.map (Json.text host.toHost)
      source := (Json.orElse (root.get "source") (.str "broker_snapshot")).text host.toHost
      complete := saysComplete host root && status = .complete }

def normalizeBrokerSnapshot
    (snapshot : Option Payload) (clocks : ReconcileClocks) : Checked (Option BrokerSnapshot) :=
  match snapshot with
  | none => .ok none
  | some snapshot => do
      let root ← brokerSnapshotRoot host snapshot
      normalizeRoot host settings root clocks

end SuseokTrader
