import SuseokTrader.Gateway.KiwoomChejan
import SuseokTrader.Gateway.KiwoomTr
import SuseokTrader.LiveSim.BrokerSnapshot

/-!
# The collector of broker snapshots

Three lists are read from the broker page by page, each page by a request that
the callback of the one before makes. A callback that comes before its request
returns runs inside of it, with all that it starts, and the return comes after.
-/

namespace SuseokTrader

/-! ## Rows -/

inductive BrokerSnapshotSection where
  | openOrders
  | executions
  | positions
deriving DecidableEq

namespace BrokerSnapshotSection

def value : BrokerSnapshotSection → String
  | openOrders => "OPEN_ORDERS"
  | executions => "EXECUTIONS"
  | positions => "POSITIONS"

/-- The sections of `KIWOOM_LIVE_SIM_SNAPSHOT_TR_SPECS` -/
def requested : List BrokerSnapshotSection :=
  [openOrders, executions, positions]

end BrokerSnapshotSection

inductive SnapshotRow where
  | openOrder (brokerOrderNo originalOrderNo code name side orderStatus : String)
      (quantity filledQuantity remainingQuantity price : Int) (orderTime : String)
  | execution (brokerExecutionId brokerOrderNo code name side : String) (quantity price : Int)
      (executedAt : String)
  | position (code name : String) (quantity availableQuantity : Int)
      (avgEntryPrice currentPrice entryNotional marketValue : Float64)

def firstText (row : TrRow) : List String → String
  | [] => ""
  | key :: keys =>
      match Text.strip ((row.lookup key).getD "") with
      | "" => firstText row keys
      | text => text

def snapshotCode (value : String) : String :=
  let text := match value.toList with
    | 'A' :: rest | 'a' :: rest => if rest.length = 6 then String.ofList rest else value
    | _ => value
  match normalizeCode text with
  | .ok code => code
  | .error _ => text

def magnitude : Float64 → Float64
  | .nan => .nan
  | .negInf | .posInf => .posInf
  | .finite value => .finite |value|

variable (host : Host)

def snapshotNumber (value : String) : Float64 :=
  let text := String.ofList (value.toList.filter fun c => c ≠ ',' && c ≠ '%')
  if text = "" then .finite 0
  else match host.float text with
    | none => .finite 0
    | some number => magnitude number

def snapshotInt (value : String) : Checked Int :=
  match snapshotNumber host value with
  | .finite number => .ok (Json.truncate number)
  | .nan => .error (.crash "cannot convert float NaN to integer")
  | .posInf | .negInf => .error (.crash "cannot convert float infinity to integer")

def snapshotSide (value : String) : String :=
  let normalized := Text.upper (Text.strip
    (String.ofList (value.toList.filter fun c => c ≠ '+' && c ≠ '-')))
  if Text.contains normalized "매수" ∨ normalized = "BUY" then "BUY"
  else if Text.contains normalized "매도" ∨ normalized = "SELL" then "SELL"
  else normalized

def normalizeOpenOrder (row : TrRow) : Checked SnapshotRow := do
  let quantity ← snapshotInt host (firstText row ["주문수량", "quantity"])
  let remaining ← snapshotInt host (firstText row ["미체결수량", "remaining_quantity"])
  let filled ← snapshotInt host (firstText row ["체결량", "filled_quantity"])
  let price ← snapshotInt host (firstText row ["주문가격", "price"])
  return .openOrder (firstText row ["주문번호", "broker_order_no"])
    (firstText row ["원주문번호", "original_order_no"])
    (snapshotCode (firstText row ["종목코드", "code"])) (firstText row ["종목명", "name"])
    (snapshotSide (firstText row ["주문구분", "매매구분", "side"]))
    (Text.upper (firstText row ["주문상태", "order_status", "status"]))
    quantity (if filled = 0 ∧ remaining ≤ quantity then quantity - remaining else filled)
    remaining price (firstText row ["시간", "주문시간", "order_time"])

def normalizeExecution (row : TrRow) : Checked SnapshotRow := do
  let quantity ← snapshotInt host (firstText row ["체결량", "quantity"])
  let price ← snapshotInt host (firstText row ["체결가", "price"])
  return .execution (firstText row ["체결번호", "broker_execution_id", "execution_id"])
    (firstText row ["주문번호", "broker_order_no"])
    (snapshotCode (firstText row ["종목코드", "code"])) (firstText row ["종목명", "name"])
    (snapshotSide (firstText row ["주문구분", "매매구분", "side"])) quantity price
    (firstText row ["체결시간", "주문시간", "executed_at"])

def normalizePosition (row : TrRow) : Checked SnapshotRow := do
  let quantity ← snapshotInt host (firstText row ["보유수량", "quantity"])
  let available ← snapshotInt host (firstText row ["매매가능수량", "available_quantity"])
  let number := fun keys => snapshotNumber host (firstText row keys)
  return .position (snapshotCode (firstText row ["종목번호", "종목코드", "code"]))
    (firstText row ["종목명", "name"]) quantity available (number ["매입가", "avg_entry_price"])
    (number ["현재가", "current_price"]) (number ["매입금액", "entry_notional"])
    (number ["평가금액", "market_value"])

def snapshotRow : BrokerSnapshotSection → TrRow → Checked SnapshotRow
  | .openOrders => normalizeOpenOrder host
  | .executions => normalizeExecution host
  | .positions => normalizePosition host

/-- The rows up to the first one that raises, and what it raises. -/
def snapshotRows (host : Host) (part : BrokerSnapshotSection) :
    List TrRow → List SnapshotRow × Option Failure
  | [] => ([], none)
  | row :: rows =>
      match snapshotRow host part row with
      | .error failure => ([], some failure)
      | .ok normalized =>
          let later := snapshotRows host part rows
          (normalized :: later.1, later.2)

/-! ## Collections -/

structure SnapshotState where
  rows : BrokerSnapshotSection → List SnapshotRow
  completedSections : List BrokerSnapshotSection
  errors : List String

inductive SnapshotEvent where
  | submitted (requestId : String) (continuationKey : Option String)
  | progress (state : SnapshotState)
  | completed (status : BrokerSnapshotStatus) (state : SnapshotState)
  | escaped (failure : Failure)

structure SnapshotCollection where
  state : SnapshotState
  events : List SnapshotEvent

inductive TrRefusal where
  | rejected (errors : List String)
  | raised (error : String)

inductive TrTiming where
  | afterReturn
  | beforeReturn (refusal : Option TrRefusal)

/-- What becomes of a request, and of the one that its callback makes. -/
inductive TrBehaviour where
  | refused (refusal : TrRefusal)
  | calledBack (timing : TrTiming) (result : TrRequestResult) (next : TrBehaviour)

abbrev TrReturns := List (BrokerSnapshotSection × Option TrRefusal)

/-- `(continuation_key or "").strip()` -/
def TrRequestResult.continuation (result : TrRequestResult) : String :=
  match result.pages.getLast? with
  | none => ""
  | some page => Text.strip page.header.prevNext

def TrRequestResult.rows (result : TrRequestResult) : List TrRow :=
  result.pages.flatMap TrPage.rows

def TrRequestResult.reportedErrors (result : TrRequestResult) : List String :=
  result.errors.filter (· ≠ "")

inductive PageOutcome where
  | raised (failure : Failure)
  | failed
  | overLimit
  | more
  | last

def pageOutcome (maxPages : Nat) (part : BrokerSnapshotSection) (page : Nat)
    (result : TrRequestResult) : PageOutcome :=
  match (snapshotRows host part result.rows).2 with
  | some failure => .raised failure
  | none =>
      if result.reportedErrors ≠ [] then .failed
      else if result.continuation ≠ "2" then .last
      else if maxPages ≤ page then .overLimit
      else .more

namespace SnapshotCollection

variable (collection : SnapshotCollection)

def emit (event : SnapshotEvent) : SnapshotCollection :=
  { collection with events := collection.events ++ [event] }

def complete (status : BrokerSnapshotStatus) (errors : List String) : SnapshotCollection :=
  let state := { collection.state with errors := collection.state.errors ++ errors }
  ⟨state, collection.events ++ [.completed status state]⟩

def submitted (snapshotId : String) (part : BrokerSnapshotSection) (page : Nat) :
    SnapshotCollection :=
  collection.emit (.submitted
    (snapshotId ++ ":" ++ Text.lower part.value ++ ":page-" ++ toString page)
    (if page = 1 then none else some "2"))

variable (part : BrokerSnapshotSection)

def addRows (rows : List SnapshotRow) : SnapshotCollection :=
  { collection with state := { collection.state with
      rows := Function.update collection.state.rows part
        (collection.state.rows part ++ rows) } }

def progress : SnapshotCollection :=
  collection.emit (.progress collection.state)

def completeSection : SnapshotCollection :=
  { collection with state := { collection.state with
      completedSections := collection.state.completedSections ++ [part] } }

def refuse : TrRefusal → SnapshotCollection
  | .raised error =>
      collection.complete .failed ["SNAPSHOT_TR_SUBMIT_FAILED:" ++ part.value ++ ":" ++ error]
  | .rejected errors => collection.complete .failed
      (match errors.filter (· ≠ "") with
        | [] => ["SNAPSHOT_TR_REQUEST_REJECTED:" ++ part.value]
        | reported => reported)

end SnapshotCollection

def returnAll : TrReturns → SnapshotCollection → SnapshotCollection
  | [], collection => collection
  | (_, none) :: returns, collection => returnAll returns collection
  | (part, some refusal) :: returns, collection =>
      returnAll returns (collection.refuse part refusal)

def raiseIn (failure : Failure) : TrReturns → SnapshotCollection → SnapshotCollection
  | [], collection => collection.emit (.escaped failure)
  | (part, _) :: returns, collection =>
      returnAll returns (collection.refuse part (.raised failure.text))

def TrTiming.enter (timing : TrTiming) (part : BrokerSnapshotSection) (returns : TrReturns)
    (collection : SnapshotCollection) : SnapshotCollection × TrReturns :=
  match timing with
  | .afterReturn => (returnAll returns collection, [])
  | .beforeReturn refusal => (collection, (part, refusal) :: returns)

def submitPage (host : Host) (snapshotId : String) (maxPages : Nat) : TrBehaviour →
    List BrokerSnapshotSection → Nat → TrReturns → SnapshotCollection → SnapshotCollection
  | _, [], _, returns, collection => returnAll returns (collection.complete .complete [])
  | .refused refusal, part :: _, page, returns, collection =>
      returnAll returns ((collection.submitted snapshotId part page).refuse part refusal)
  | .calledBack timing result next, part :: parts, page, returns, collection =>
      let entered := timing.enter part returns (collection.submitted snapshotId part page)
      let collection := entered.1.addRows part (snapshotRows host part result.rows).1
      match pageOutcome host maxPages part page result with
      | .raised failure => raiseIn failure entered.2 collection
      | .failed => returnAll entered.2 (collection.complete .failed result.reportedErrors)
      | .overLimit => returnAll entered.2 (collection.progress.complete .incomplete
          ["SNAPSHOT_PAGE_LIMIT:" ++ part.value ++ ":" ++ toString page])
      | .more => submitPage host snapshotId maxPages next (part :: parts) (page + 1)
          entered.2 collection.progress
      | .last => submitPage host snapshotId maxPages next parts 1 entered.2
          (collection.progress.completeSection part)

/-- `min(max(int(max_pages_per_section), 1), 50)` -/
def clampPages (maxPagesPerSection : Int) : Nat :=
  (min (max maxPagesPerSection 1) 50).toNat

def startCollection (snapshotId : String) (maxPagesPerSection : Int)
    (behaviour : TrBehaviour) : SnapshotCollection :=
  submitPage host snapshotId (clampPages maxPagesPerSection) behaviour
    BrokerSnapshotSection.requested 1 [] ⟨⟨fun _ => [], [], []⟩, []⟩

end SuseokTrader
