import SuseokTrader.LiveSim.Executions
import SuseokTrader.Outbox.Jobs

/-!
# Market data events

The market data projection reads three kinds of gateway events: a price tick, a
condition event, and the answer to a TR request. The rows of an answer that was
asked for to refresh a candidate's quote become price ticks of their own.
-/

namespace SuseokTrader

/-! ## Price ticks -/

theorem le_of_bounded {number : Checked Int} {bound parsed : Int} {refusal : String}
    (success : (do
      let value ← number
      if value < bound then Checked.invalid refusal else Except.ok value) = .ok parsed) :
    bound ≤ parsed := by
  rcases Checked.bind_eq_ok.mp success with ⟨value, _, bounded⟩
  split at bounded
  · cases bounded
  · rw [Except.ok.injEq] at bounded
    omega

theorem le_of_parseInt {host : Host} {value : Json} {fieldName : String} {bound parsed : Int}
    (success : parseInt host value fieldName (some bound) = .ok parsed) : bound ≤ parsed := by
  simp only [parseInt] at success
  split at success
  · exact le_of_bounded success
  · split at success
    · split at success <;> exact le_of_bounded success
    · exact le_of_bounded success
  · split at success <;> exact le_of_bounded success
  · exact le_of_bounded success

variable (host : Host)

def parseAtLeast (value : Json) (fieldName : String) (bound : Int) :
    Checked {parsed : Int // bound ≤ parsed} :=
  match accepted : parseInt host value fieldName (some bound) with
  | .ok parsed => .ok ⟨parsed, le_of_parseInt accepted⟩
  | .error failure => .error failure

/-- A price tick of the broker. -/
structure BrokerPriceTick where
  code : String
  name : String
  price : Int
  changeRate : Rat
  volume : Int
  tradeValue : Int
  executionStrength : Rat
  bestBid : Int
  bestAsk : Int
  spreadTicks : Int
  dayHigh : Int
  dayLow : Int
  tradeTime : Instant
  price_pos : 1 ≤ price
  volume_nonneg : 0 ≤ volume
  tradeValue_nonneg : 0 ≤ tradeValue
  quoted : bestBid ≠ 0 → bestAsk ≠ 0 → bestBid ≤ bestAsk
  ranged : dayLow ≤ dayHigh

variable (payload : Payload)

def checkTs : Checked Unit := do
  if payload.has "ts" then
    let _ ← parseTimestamp (payload.get "ts") "ts"
  return ()

namespace BrokerPriceTick

def requiredFields : List String :=
  ["code", "name", "price", "change_rate", "volume", "trade_value", "execution_strength",
    "best_bid", "best_ask", "spread_ticks", "day_high", "day_low", "trade_time"]

def fromDict : Checked BrokerPriceTick := do
  requireFields payload requiredFields "BrokerPriceTick"
  let tradeTime ← parseTimestamp (payload.get "trade_time") "trade_time"
  checkTs payload
  let code ← validateStockCode (payload.get "code")
  let name ← requireNonEmptyStr (payload.get "name") "name"
  let price ← parseAtLeast host (payload.get "price") "price" 1
  let changeRate ← parseFloat host (payload.get "change_rate") "change_rate" false
  let volume ← parseAtLeast host (payload.get "volume") "volume" 0
  let tradeValue ← parseAtLeast host (payload.get "trade_value") "trade_value" 0
  let executionStrength ←
    parseFloat host (payload.get "execution_strength") "execution_strength" true
  let bestBid ← parseAtLeast host (payload.get "best_bid") "best_bid" 0
  let bestAsk ← parseAtLeast host (payload.get "best_ask") "best_ask" 0
  let spreadTicks ← parseAtLeast host (payload.get "spread_ticks") "spread_ticks" 0
  let dayHigh ← parseAtLeast host (payload.get "day_high") "day_high" 1
  let dayLow ← parseAtLeast host (payload.get "day_low") "day_low" 1
  if quoted : bestBid.val ≠ 0 → bestAsk.val ≠ 0 → bestBid.val ≤ bestAsk.val then
    if ranged : dayLow.val ≤ dayHigh.val then
      return {
        code := code
        name := name
        price := price.val
        changeRate := changeRate
        volume := volume.val
        tradeValue := tradeValue.val
        executionStrength := executionStrength
        bestBid := bestBid.val
        bestAsk := bestAsk.val
        spreadTicks := spreadTicks.val
        dayHigh := dayHigh.val
        dayLow := dayLow.val
        tradeTime := tradeTime
        price_pos := one_le_val price
        volume_nonneg := volume.property
        tradeValue_nonneg := tradeValue.property
        quoted := quoted
        ranged := ranged }
    else Checked.invalid "day_high must be >= day_low"
  else Checked.invalid "best_ask must be >= best_bid when both are present"

end BrokerPriceTick

inductive MarketDataQualityStatus where
  | fresh
  | degraded
  | invalid
deriving DecidableEq

def MarketDataQualityStatus.value : MarketDataQualityStatus → String
  | fresh => "FRESH"
  | degraded => "DEGRADED"
  | invalid => "INVALID"

def assessPriceTickQuality (tick : BrokerPriceTick) : MarketDataQualityStatus :=
  if tick.price ≤ 1 ∨ tick.volume < 0 ∨ tick.tradeValue < 0 then .invalid
  else if tick.bestBid ≠ 0 ∧ tick.bestAsk ≠ 0 ∧ tick.bestAsk < tick.bestBid then .invalid
  else if tick.dayHigh < tick.dayLow then .invalid
  else if tick.spreadTicks = 0 ∧ tick.bestBid ≠ 0 ∧ tick.bestAsk ≠ 0 ∧
      tick.bestBid < tick.bestAsk then .degraded
  else .fresh

theorem assessPriceTickQuality_eq_invalid (tick : BrokerPriceTick) :
    assessPriceTickQuality tick = .invalid ↔ tick.price = 1 := by
  have price := tick.price_pos
  have volume := tick.volume_nonneg
  have tradeValue := tick.tradeValue_nonneg
  have ranged := tick.ranged
  rw [assessPriceTickQuality]
  split
  · refine iff_of_true rfl ?_
    omega
  · next high =>
      split
      · next crossed =>
          have quoted := tick.quoted crossed.1 crossed.2.1
          omega
      · split
        · omega
        · refine iff_of_false ?_ fun one => high (Or.inl (by omega))
          split <;> exact nofun

/-! ## Fields of a price tick payload -/

def exchangeAliases : List (String × String) :=
  [("", "KRX"), ("K", "KRX"), ("KR", "KRX"), ("KRX", "KRX"), ("N", "NXT"), ("NX", "NXT"),
    ("NXT", "NXT"), ("A", "ALL"), ("AL", "ALL"), ("ALL", "ALL"), ("SOR", "ALL"),
    ("INTEGRATED", "ALL")]

def normalizeMarketDataExchangeFilter (value : Json) : Checked String :=
  match exchangeAliases.lookup
      (Text.upper (Text.strip ((value.orElse (.str "KRX")).text host))) with
  | some exchange => .ok exchange
  | none => Checked.invalid ("unsupported market data exchange: " ++ value.text host)

def normalizeMarketDataExchange (value : Json) : Checked String := do
  let exchange ← normalizeMarketDataExchangeFilter host value
  return if exchange = "ALL" then "KRX" else exchange

def priceTickPayloadExchange : Checked String :=
  let exchange := (payload.mapping "metadata").get "exchange"
  if !exchange.isNull then normalizeMarketDataExchange host exchange
  else if !(payload.get "exchange").isNull then
    normalizeMarketDataExchange host (payload.get "exchange")
  else .ok "KRX"

def priceTickPayloadReasonCodes : List String :=
  match (payload.mapping "metadata").get "reason_codes" with
  | .arr codes =>
      ((codes.map fun code => Text.strip (code.text host)).filter (· ≠ "")).map Text.upper
  | _ => []

def priceTickPayloadRealType : String :=
  Text.strip (((payload.mapping "metadata").get "real_type").textOrEmpty host)

def isQuoteOnly : Bool :=
  priceTickPayloadRealType host payload = "주식우선호가"

/-- The trading session of a time, on the clock of the market. -/
def marketSessionForTick (tradeTime : Instant) (exchange : String) : String :=
  let minute := (tradeTime + 9 * 3600 * Time.microsPerSecond) % Time.microsPerDay /
    (60 * Time.microsPerSecond)
  if 540 ≤ minute ∧ minute < 930 then "REGULAR"
  else if exchange = "NXT" ∧ 480 ≤ minute ∧ minute < 530 then "PREMARKET_NXT"
  else if exchange = "NXT" ∧ 930 ≤ minute ∧ minute < 1200 then "AFTERMARKET_NXT"
  else "OFF_HOURS"

/-! ## Condition events -/

inductive ConditionEventAction where
  | enter
  | exit

def ConditionEventAction.value : ConditionEventAction → String
  | enter => "ENTER"
  | exit => "EXIT"

structure BrokerConditionEvent where
  conditionId : String
  conditionName : String
  code : String
  name : String
  action : ConditionEventAction
  price : Option Int
  metadata : Payload

def BrokerConditionEvent.fromDict :
    Checked BrokerConditionEvent := do
  requireFields payload ["condition_id", "condition_name", "code", "name", "action"]
    "BrokerConditionEvent"
  let action ← parseStrEnum (payload.get "action") ["ENTER", "EXIT"] "action"
  let metadata ← normalizePayload (payload.getOr "metadata" (.obj []))
  checkTs payload
  let conditionId ← requireNonEmptyStr (payload.get "condition_id") "condition_id"
  let conditionName ← requireNonEmptyStr (payload.get "condition_name") "condition_name"
  let code ← validateStockCode (payload.get "code")
  let name ← requireNonEmptyStr (payload.get "name") "name"
  let price ←
    if (payload.get "price").isNull then .ok none
    else (parseInt host (payload.get "price") "price" (some 1)).map some
  return {
    conditionId := conditionId
    conditionName := conditionName
    code := code
    name := name
    action := if action = "ENTER" then .enter else .exit
    price := price
    metadata := metadata }

/-! ## TR responses -/

structure BrokerTrResponse where
  requestId : String
  trCode : String
  requestName : String
  rows : List Payload

def normalizeRow : Json → Checked Payload
  | .obj fields => .ok fields
  | _ => Checked.invalid "each row must be an object"

def normalizeRows : Json → Checked (List Payload)
  | .arr rows => rows.mapM normalizeRow
  | _ => Checked.invalid "rows must be a list of objects"

def BrokerTrResponse.fromDict : Checked BrokerTrResponse := do
  requireFields payload ["request_id", "tr_code", "request_name", "success", "rows"]
    "BrokerTrResponse"
  let rows ← normalizeRows (payload.get "rows")
  let _ ← normalizePayload (payload.getOr "metadata" (.obj []))
  checkTs payload
  let requestId ← requireNonEmptyStr (payload.get "request_id") "request_id"
  let trCode ← requireNonEmptyStr (payload.get "tr_code") "tr_code"
  let requestName ← requireNonEmptyStr (payload.get "request_name") "request_name"
  let _ ← parseBool (payload.get "success") "success"
  let _ ← optionalNonEmptyStr (payload.get "message") "message"
  let _ ← optionalNonEmptyStr (payload.get "continuation_key") "continuation_key"
  return {
    requestId := requestId
    trCode := Text.upper trCode
    requestName := requestName
    rows := rows }

variable (row : Payload)

def extractRowCode : Option String :=
  match (["code", "stock_code", "종목코드"].map row.get).find? fun value => !value.isNull with
  | some value => (validateStockCode value).toOption
  | none => none

/-! ## Quotes of candidates -/

def candidateQuoteRefreshSource : String := "candidate_quote_refresh"

def isCandidateQuoteRefreshPayload : Bool :=
  startsWith ((payload.get "request_id").textOrEmpty host) (candidateQuoteRefreshSource ++ ":") ||
    match (payload.mapping "metadata").get "source" with
    | .str source => source = candidateQuoteRefreshSource
    | _ => false

def rowText (keys : List String) : String :=
  (Json.firstText host (keys.map row.get)).getD ""

def bareNumber (text : String) : String :=
  Text.strip (String.ofList (text.toList.filter fun c => c ≠ ',' ∧ c ≠ '%' ∧ c ≠ '+'))

def rowInt (keys : List String) : Checked Int :=
  match rowText host row keys with
  | "" => .ok 0
  | text =>
      match host.float (bareNumber text) with
      | some (.finite value) => .ok (Json.truncate value).natAbs
      | some .posInf | some .negInf =>
          .error (.crash "cannot convert float infinity to integer")
      | some .nan | none => .ok 0

def rowFloat (keys : List String) : Json :=
  match rowText host row keys with
  | "" => .float "0.0"
  | text =>
      match host.float (bareNumber text) with
      | some _ => .float (host.floatRepr (bareNumber text))
      | none => .float "0.0"

def rowCode : Option String :=
  match (rowText host row ["종목코드", "code", "stock_code"]).toList with
  | [] => none
  | 'A' :: rest =>
      (validateStockCode (.str (String.ofList
        (if 6 ≤ rest.length then rest else 'A' :: rest)))).toOption
  | code => (validateStockCode (.str (String.ofList code))).toOption

def intOr (value other : Int) : Int :=
  if value = 0 then other else value

def tickPayloadFromRow (eventTs : String) :
    Checked (Option Payload) :=
  match rowCode host row with
  | none => .ok none
  | some code => do
      let price ← rowInt host row ["현재가", "price", "current_price"]
      if price ≤ 0 then return none
      let name := rowText host row ["종목명", "name", "stock_name"]
      let volume ← rowInt host row ["거래량", "volume", "accumulated_volume"]
      let tradeValue ← rowInt host row ["거래대금", "trade_value", "accumulated_trade_value"]
      let dayHigh ← rowInt host row ["고가", "high", "day_high"]
      let dayLow ← rowInt host row ["저가", "low", "day_low"]
      let bestBid ← rowInt host row ["매수호가", "best_bid"]
      let bestAsk ← rowInt host row ["매도호가", "best_ask"]
      let spreadTicks ← rowInt host row ["spread_ticks"]
      let tradeTime ← parseTimestamp (.str eventTs) "event_ts"
      let dayHigh := intOr dayHigh price
      let dayLow := intOr dayLow price
      return some
        [("code", .str code), ("name", .str (if name = "" then code else name)),
          ("price", .int price),
          ("change_rate", rowFloat host row ["등락율", "등락률", "change_rate"]),
          ("volume", .int (max volume 0)), ("trade_value", .int (max tradeValue 0)),
          ("execution_strength",
            (rowFloat host row ["체결강도", "execution_strength"]).orElse (.float "100.0")),
          ("best_bid", .int (intOr bestBid price)), ("best_ask", .int (intOr bestAsk price)),
          ("spread_ticks", .int spreadTicks),
          ("day_high", .int (max (max dayHigh dayLow) price)),
          ("day_low", .int (min (min dayHigh dayLow) price)),
          ("trade_time", .str (datetimeToWire tradeTime)),
          ("ts", .str (datetimeToWire tradeTime)),
          ("metadata", .obj [("source", .str candidateQuoteRefreshSource),
            ("snapshot_only", .bool true),
            ("reason_codes", .arr [.str "CANDIDATE_QUOTE_REFRESH_TR_RESPONSE"])])]

def sourceRows : List (Nat × Payload) :=
  let rows := match payload.get "rows" with
    | .arr rows => rows
    | _ => match payload.get "row" with
      | .obj fields => [.obj fields]
      | _ => []
  rows.zipIdx.filterMap fun (row, index) => row.asObject.map fun fields => (index, fields)

/-- The price ticks of an answer, with the place of their rows. -/
def candidateQuoteRefreshTickPayloadsWithRowIndex
    (eventTs : String) : Checked (List (Nat × Payload)) := do
  if isCandidateQuoteRefreshPayload host payload then
    let ticks ← (sourceRows payload).mapM fun (index, row) => do
      let tick ← tickPayloadFromRow host row eventTs
      return tick.map fun tick => (index, tick)
    return ticks.filterMap id
  else return []

end SuseokTrader
