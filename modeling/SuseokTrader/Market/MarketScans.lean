import SuseokTrader.Market.Memberships

/-!
# Market scans

A TR response that answers a market scan writes a snapshot row for each of its
valid rows, and offers the row as the latest one of its stock, which gives way
unless it is later. An invalid row is recorded as an error and left out. A
response is passed over when a snapshot of its event or of its request is
there, or when the last error of its event is not that of a lock.
-/

namespace SuseokTrader

/-! ## Responses -/

structure ScanSettings where
  /-- The TR code of each scan type. -/
  trCodes : List (String × String)
  markets : List String
  parserStatus : String

structure ScanResponse extends BrokerTrResponse where
  success : Bool
  message : Option String

def ScanResponse.fromDict (payload : Payload) : Checked ScanResponse := do
  let response ← BrokerTrResponse.fromDict payload
  let success ← parseBool (payload.get "success") "success"
  let message ← optionalNonEmptyStr (payload.get "message") "message"
  return { response with success := success, message := message }

def splitChars (separator : Char) : List Char → List (List Char)
  | [] => [[]]
  | c :: cs =>
      if c = separator then [] :: splitChars separator cs
      else
        match splitChars separator cs with
        | [] => [[c]]
        | part :: parts => (c :: part) :: parts

def splitText (separator : Char) (s : String) : List String :=
  (splitChars separator s.toList).map String.ofList

def supportedScanTypes : List String :=
  ["TRADE_VALUE", "CHANGE_RATE"]

def scanTypeOfTrCode (settings : ScanSettings) (trCode : String) : Option String :=
  (settings.trCodes.reverse.find? fun entry => Text.upper entry.2 = Text.upper trCode).map Prod.fst

/-- The scan type and the market that a request identifier names. -/
def requestContext (settings : ScanSettings) (response : BrokerTrResponse) :
    Option String × Option String :=
  match splitText ':' response.requestId with
  | head :: scanType :: market :: _ :: _ =>
      if head = "market_scan" then (some (Text.upper scanType), some (Text.upper market))
      else (scanTypeOfTrCode settings response.trCode, none)
  | _ => (scanTypeOfTrCode settings response.trCode, none)

/-- What a request name adds. -/
def nameContext (response : BrokerTrResponse) (context : Option String × Option String) :
    Option String × Option String :=
  let name := Text.lower response.requestName
  let parts := splitText '_' name
  if startsWith name "market_scan_" && 4 ≤ parts.length then
    (context.1.or (some (Text.upper (String.intercalate "_" (parts.drop 2).dropLast))),
      (context.2.filter (· ≠ "")).or (parts.getLast?.map Text.upper))
  else context

variable (host : Host)

def firstRowText (response : BrokerTrResponse) (name korean : String) :
    Option String :=
  let row := response.rows.headD []
  let value := (row.get name).orElse (row.get korean)
  if value.truthy then some (Text.upper (Text.strip (value.text host))) else none

variable (settings : ScanSettings)

def scanContext (response : BrokerTrResponse) :
    Option (String × String) :=
  let (scanType, market) := nameContext response (requestContext settings response)
  match scanType.or (firstRowText host response "scan_type" "스캔유형"),
      market.or (firstRowText host response "market" "시장") with
  | some scanType, some market =>
      if scanType ∈ supportedScanTypes ∧ market ∈ settings.markets then some (scanType, market)
      else none
  | _, _ => none

def eventParserStatus (payload : Payload) : String :=
  let status := (payload.mapping "metadata").get "parser_status"
  Text.upper (Text.strip ((status.orElse (.str settings.parserStatus)).text host))

/-! ## Rows -/

def Json.isFilled : Json → Bool
  | .null => false
  | .str text => text ≠ ""
  | _ => true

def filledField (row : Payload) (key : String) : Json :=
  if (row.get key).isFilled then row.get key
  else
    match row.reverse.find? fun field => Text.lower field.1 = Text.lower key with
    | some (_, value) => if value.isFilled then value else .null
    | none => .null

def firstValue (row : Payload) (keys : List String) : Json :=
  ((keys.map (filledField row)).find? Json.isFilled).getD .null

def isScanCodeChar (c : Char) : Bool :=
  ('0' ≤ c && c ≤ '9') || ('A' ≤ c && c ≤ 'Z')

def normalizeMarketScanCode (value : Json) : Checked String := do
  let code ← requireNonEmptyStr value "code"
  let code := Text.upper code
  let code := match code.toList with
    | 'A' :: rest => if rest.length = 6 then String.ofList rest else code
    | _ => code
  if code.toList.length = 6 ∧ code.toList.all isScanCodeChar then .ok code
  else Checked.invalid "code must be a 6-character KRX short code"

def stringOrDefault (value : Json) (default : String) : String :=
  let text := Text.strip (value.textOrEmpty host)
  if text = "" then default else text

namespace Float64

def abs : Float64 → Float64
  | finite value => finite |value|
  | negInf => posInf
  | other => other

/-- `max(value, 0.0)` -/
def atLeastZero : Float64 → Float64
  | finite value => finite (max value 0)
  | negInf => finite 0
  | other => other

end Float64

def numberInText (text : String) : Option Float64 :=
  let text := Text.strip text
  let kept := String.ofList (text.toList.filter fun c => c.isDigit || c = '+' || c = '-' || c = '.')
  if kept ∈ ["", "+", "-", ".", "+.", "-."] then none else host.float kept

def floatOrNone : Json → Checked (Option Float64)
  | .null => .ok none
  | .bool value => .ok (some (.finite value.toNat))
  | .int value =>
      match host.floatOfInt value with
      | some parsed => .ok (some parsed)
      | none => .error (.crash "int too large to convert to float")
  | .float repr => .ok (host.float repr)
  | value => .ok (numberInText host (value.text host))

def intOrNone (value : Json) : Checked (Option Int) := do
  match ← floatOrNone host value with
  | some (.finite number) => return some (Json.truncate number)
  | _ => return none

structure ScanId where
  eventId : String
  requestId : String
  trCode : String
  scanType : String
  market : String
  scannedAt : String
deriving DecidableEq

structure ScanSnapshot where
  scanId : ScanId
  scanType : String
  market : String
  code : String
  name : String
  rank : Int
  price : Option Float64
  changeRate : Option Float64
  tradeValue : Option Float64
  volume : Option Int
  scannedAt : String
  source : String
  sourceEventId : String
  requestId : String
  parserStatus : String
  generatedBy : String
  metadata : Payload

instance : Keyed ScanSnapshot (ScanId × String × String × String) :=
  ⟨fun row => (row.scanId, row.scanType, row.market, row.code)⟩

structure ScanLatest where
  snapshot : ScanSnapshot
  updatedAt : String

instance : Keyed ScanLatest String := ⟨fun row => row.snapshot.code⟩

structure ScanError where
  eventId : String
  requestId : Option String
  trCode : Option String
  scanType : Option String
  market : Option String
  reasonCode : String
  errorMessage : String
  payloadJson : String

structure ScanTables where
  snapshots : Table ScanSnapshot
  latest : Table ScanLatest
  errors : List ScanError

structure ScanContext where
  event : GatewayEvent
  response : ScanResponse
  scanType : String
  market : String
  scannedAt : String
  generatedBy : String
  parserStatus : String

variable (context : ScanContext)

def ScanContext.scanId : ScanId where
  eventId := context.event.eventId
  requestId := context.response.requestId
  trCode := context.response.trCode
  scanType := context.scanType
  market := context.market
  scannedAt := context.scannedAt

def scanMetadata (row : Payload) : Payload :=
  [("raw", .obj row), ("source_event_id", .str context.event.eventId),
    ("request_id", .str context.response.requestId), ("tr_code", .str context.response.trCode),
    ("request_name", .str context.response.requestName),
    ("parser_status", .str context.parserStatus), ("generated_by", .str context.generatedBy),
    ("observe_only", .bool true), ("no_order_side_effects", .bool true)]

def scanRowCode (row : Payload) : Checked String :=
  normalizeMarketScanCode (firstValue row ["code", "stock_code", "종목코드"])

def parseScanRow (fallbackRank : Nat) (row : Payload) :
    Checked ScanSnapshot := do
  let code ← scanRowCode row
  let rank ← intOrNone host (firstValue row ["rank", "순위", "현재순위"])
  let price ← floatOrNone host (firstValue row ["price", "current_price", "현재가"])
  let changeRate ← floatOrNone host
    (firstValue row ["change_rate", "change_rate_pct", "등락률", "전일대비등락률"])
  let tradeValue ← floatOrNone host
    (firstValue row ["trade_value", "turnover", "trade_value_krw", "거래대금", "누적거래대금"])
  let volume ← intOrNone host (firstValue row ["volume", "cum_volume", "거래량", "현재거래량"])
  return {
    scanId := context.scanId
    scanType := context.scanType
    market := context.market
    code := code
    name := stringOrDefault host (firstValue row ["name", "stock_name", "종목명"]) code
    rank := rank.getD fallbackRank
    price := price.map Float64.abs
    changeRate := changeRate
    tradeValue := tradeValue.map Float64.atLeastZero
    volume := volume.map (max · 0)
    scannedAt := context.scannedAt
    source := context.event.source
    sourceEventId := context.event.eventId
    requestId := context.response.requestId
    parserStatus := context.parserStatus
    generatedBy := context.generatedBy
    metadata := scanMetadata context row }

/-! ## Writing rows -/

def fitsColumn (value : Int) : Bool :=
  -(2 ^ 63) ≤ value && value < 2 ^ 63

def insertScanSnapshot (snapshots : Table ScanSnapshot) (item : ScanSnapshot) :
    Checked (Table ScanSnapshot) :=
  if fitsColumn item.rank && item.volume.all fitsColumn then .ok (snapshots.upsert item)
  else .error (.crash "Python int too large to convert to SQLite INTEGER")

def upsertScanLatest (latest : Table ScanLatest) (item : ScanSnapshot) (updatedAt : String) :
    Table ScanLatest :=
  match latest.find? item.code with
  | none => latest.upsert { snapshot := item, updatedAt := updatedAt }
  | some row =>
      if notAfter row.snapshot.scannedAt item.scannedAt then
        latest.upsert { snapshot := item, updatedAt := updatedAt }
      else latest

def recordScanError (errors : List ScanError) (event : GatewayEvent)
    (response : Option BrokerTrResponse) (context : Option (String × String))
    (reasonCode errorMessage : String) (payload : Payload) : List ScanError :=
  errors ++ [
    { eventId := event.eventId
      requestId := response.map BrokerTrResponse.requestId
      trCode := response.map BrokerTrResponse.trCode
      scanType := context.map Prod.fst
      market := context.map Prod.snd
      reasonCode := reasonCode
      errorMessage := errorMessage
      payloadJson := canonicalJson payload }]

structure ScanProgress where
  tables : ScanTables
  appliedCount : Nat
  errorCount : Nat

structure ScanFailure where
  message : String
  errorCount : Nat

def projectScanRow (now : String) (progress : ScanProgress)
    (row : Payload × Nat) : Except ScanFailure ScanProgress :=
  match parseScanRow host context row.2 row.1 with
  | .error (.crash message) =>
      .error { message := message, errorCount := progress.errorCount }
  | .error (.invalid message) =>
      .ok
        { progress with
          tables := { progress.tables with
            errors := recordScanError progress.tables.errors context.event
              (some context.response.toBrokerTrResponse) (some (context.scanType, context.market))
              "MARKET_SCAN_CODE_PARSE_FAILED" message row.1 }
          errorCount := progress.errorCount + 1 }
  | .ok item =>
      match insertScanSnapshot progress.tables.snapshots item with
      | .error failure => .error { message := failure.text, errorCount := progress.errorCount }
      | .ok snapshots =>
          .ok
            { tables := { progress.tables with
                snapshots := snapshots
                latest := upsertScanLatest progress.tables.latest item now }
              appliedCount := progress.appliedCount + 1
              errorCount := progress.errorCount }

def projectScanRows (now : String) (tables : ScanTables) :
    Except ScanFailure ScanProgress :=
  (context.response.rows.zipIdx 1).foldlM (projectScanRow host context now)
    { tables := tables, appliedCount := 0, errorCount := 0 }

/-! ## Processing an event -/

inductive ScanStatus where
  | ignored
  | duplicate
  | applied
  | partly
  | error
deriving DecidableEq

structure MarketScanProcessResult where
  status : ScanStatus
  appliedCount : Nat
  ignoredCount : Nat
  errorCount : Nat
  context : Option (String × String)
  errorMessage : Option String

namespace MarketScanProcessResult

def passedOver (status : ScanStatus) (context : Option (String × String)) :
    MarketScanProcessResult where
  status := status
  appliedCount := 0
  ignoredCount := 1
  errorCount := 0
  context := context
  errorMessage := none

def erroneous (errorCount : Nat) (context : Option (String × String)) (message : String) :
    MarketScanProcessResult where
  status := .error
  appliedCount := 0
  ignoredCount := 0
  errorCount := errorCount
  context := context
  errorMessage := some message

def ofProgress (progress : ScanProgress) (context : String × String) :
    MarketScanProcessResult where
  status :=
    if progress.appliedCount = 0 ∧ progress.errorCount ≠ 0 then .error
    else if progress.errorCount ≠ 0 then .partly
    else .applied
  appliedCount := progress.appliedCount
  ignoredCount := 0
  errorCount := progress.errorCount
  context := some context
  errorMessage := none

end MarketScanProcessResult

def isLockedMessage (message : String) : Bool :=
  ["database is locked", "database table is locked", "database is busy"].any
    (Text.contains (Text.lower message))

def snapshotExists (snapshots : Table ScanSnapshot) (eventId requestId : String) : Bool :=
  snapshots.rows.any fun row =>
    row.sourceEventId = eventId || row.requestId = requestId ||
      (match row.metadata.get "request_id" with
        | .str text => text = requestId
        | _ => false)

def lastScanError (errors : List ScanError) (eventId : String) : Option ScanError :=
  (errors.filter fun row => row.eventId = eventId).getLast?

variable (tables : ScanTables)

def eventAlreadyProjected (eventId requestId : String) : Bool :=
  snapshotExists tables.snapshots eventId requestId ||
    (lastScanError tables.errors eventId).any fun row => !isLockedMessage row.errorMessage

structure ScanCall where
  now : Instant
  generatedBy : String
  fault : Option DatabaseFault

/-- The transaction of a call that is not passed over. -/
def projectScan (context : ScanContext) (call : ScanCall) :
    ScanTables × Checked MarketScanProcessResult :=
  let failed (failure : ScanFailure) :=
    ({ tables with
        errors := recordScanError tables.errors context.event
          (some context.response.toBrokerTrResponse) (some (context.scanType, context.market))
          "MARKET_SCAN_PROJECTION_FAILED" failure.message context.event.payload },
      Except.ok (MarketScanProcessResult.erroneous (failure.errorCount + 1)
        (some (context.scanType, context.market)) failure.message))
  match call.fault with
  | some .locked => (tables, .error (.crash "database is locked"))
  | some (.failed message) => failed { message := message, errorCount := 0 }
  | none =>
      match projectScanRows host context (datetimeToWire call.now) tables with
      | .error failure => failed failure
      | .ok progress =>
          (progress.tables, .ok (.ofProgress progress (context.scanType, context.market)))

variable (events : Table ReceivedEvent)

def processMarketScanEvent (tables : ScanTables) (event : GatewayEvent) (call : ScanCall) :
    ScanTables × Checked MarketScanProcessResult :=
  if normalizeEventType event.eventType ≠ "tr_response" then
    (tables, .ok (.passedOver .ignored none))
  else
    match ScanResponse.fromDict event.payload with
    | .error failure =>
        ({ tables with
            errors := recordScanError tables.errors event none none "TR_RESPONSE_PARSE_FAILED"
              failure.text event.payload },
          .ok (.erroneous 1 none failure.text))
    | .ok response =>
        match scanContext host settings response.toBrokerTrResponse with
        | none => (tables, .ok (.passedOver .ignored none))
        | some (scanType, market) =>
            if eventAlreadyProjected tables event.eventId response.requestId then
              (tables, .ok (.passedOver .duplicate (some (scanType, market))))
            else if !response.success then
              let message := response.message.getD "TR_RESPONSE_FAILED"
              ({ tables with
                  errors := recordScanError tables.errors event
                    (some response.toBrokerTrResponse) (some (scanType, market))
                    "TR_RESPONSE_FAILED" message event.payload },
                .ok (.erroneous 1 (some (scanType, market)) message))
            else
              projectScan host tables
                { event := event
                  response := response
                  scanType := scanType
                  market := market
                  scannedAt := (receivedTimes events event call.now).1
                  generatedBy := call.generatedBy
                  parserStatus := eventParserStatus host settings event.payload } call

/-! ## The worker -/

structure ScanVerification where
  verification : Verification
  retryable : Bool

def verifyMarketScan (event : GatewayEvent) :
    ScanVerification :=
  let requestId := Text.strip ((event.payload.get "request_id").textOrEmpty host)
  if requestId ≠ "" ∧ snapshotExists tables.snapshots event.eventId requestId then
    { verification := .applied, retryable := false }
  else
    match lastScanError tables.errors event.eventId with
    | some row =>
        let message :=
          if row.errorMessage = "" then "market_scan inline error" else row.errorMessage
        { verification := .failed "MARKET_SCAN_INLINE_ERROR" message
          retryable := isLockedMessage message }
    | none =>
        { verification := .skipped "MARKET_SCAN_ARTIFACT_NOT_YET_APPLIED", retryable := false }

/-- What an attempt of the worker comes to, with the result of the projection where it came so
far. -/
structure ScanAttempt where
  tables : ScanTables
  verification : Verification
  projection : Option MarketScanProcessResult

def ScanVerification.settles (verified : ScanVerification) : Bool :=
  match verified.verification with
  | .applied => true
  | .failed _ _ => !verified.retryable
  | .skipped _ => false

/-- The projection of an event by the worker. -/
def projectScanJob (tables : ScanTables) (event : GatewayEvent) (call : ScanCall) : ScanAttempt :=
  match processMarketScanEvent host settings events tables event call with
  | (written, .error failure) =>
      { tables := written
        verification := .failed "MARKET_SCAN_APPLY_EXCEPTION" failure.text
        projection := none }
  | (written, .ok result) =>
      let verification : Verification :=
        if result.status = .error ∨ result.status = .partly then
          .failed "MARKET_SCAN_APPLY_FAILED"
            (result.errorMessage.getD (if result.status = .error then "ERROR" else "PARTIAL"))
        else if result.status = .ignored then .skipped "MARKET_SCAN_EVENT_NOT_RECOGNIZED"
        else
          match (verifyMarketScan host written event).verification with
          | .applied => .applied
          | .skipped reason => .failed reason reason
          | .failed reason message => .failed reason message
      { tables := written, verification := verification, projection := some result }

def applyMarketScanProjection (tables : ScanTables) (event : GatewayEvent)
    (marketDataReady : Bool) (call : ScanCall) : ScanAttempt :=
  let verified := verifyMarketScan host tables event
  if verified.settles then
    { tables := tables, verification := verified.verification, projection := none }
  else if !marketDataReady then
    { tables := tables
      verification := .failed "MARKET_SCAN_MARKET_DATA_DEPENDENCY_NOT_APPLIED"
        "market_data sibling projection must complete before market_scan apply"
      projection := none }
  else projectScanJob host settings events tables event call

/-- An attempt of the worker at a job of this projection. -/
def workOnMarketScan (tables : ScanTables) (job : ProjectionJob) (applies marketDataReady : Bool)
    (call : ScanCall) : ScanAttempt :=
  let stopped (verification : Verification) : ScanAttempt :=
    { tables := tables, verification := verification, projection := none }
  match events.find? (Text.strip job.eventId) with
  | none => stopped (.failed "SOURCE_GATEWAY_EVENT_MISSING"
      ("gateway_event not found: " ++ Text.strip job.eventId))
  | some received =>
      if !received.accepted then stopped (.skipped "SKIPPED_SOURCE_NOT_ACCEPTED")
      else if !applies then stopped (verifyMarketScan host tables received.event).verification
      else if normalizeEventType job.eventType ≠ "tr_response" then
        stopped (.skipped "MARKET_SCAN_APPLY_EVENT_TYPE_UNSUPPORTED")
      else
        applyMarketScanProjection host settings events tables received.event marketDataReady call

end SuseokTrader
