import SuseokTrader.Lib.Doubles
import SuseokTrader.Market.Projection

/-!
# Minute bars

A price tick that is not older than the latest one is added to the bar of its
bucket, for each interval that is configured. The buckets are those of the
epoch second, so that a bucket of several minutes is made of whole minutes.
-/

namespace SuseokTrader

/-! ## Buckets -/

def unixEpochSeconds : Int := 62135596800

/-- `timestamp()`: the microseconds since the epoch, divided by a million as doubles. -/
def timestampSeconds (timestamp : Instant) : Rat :=
  let micros : Int := timestamp - unixEpochSeconds * 1000000
  if 0 ≤ micros then toDouble (micros / 1000000) else -toDouble (-micros / 1000000)

/-- `int(...)` drops the fraction. -/
def epochSecond (timestamp : Instant) : Int :=
  let seconds := timestampSeconds timestamp
  if 0 ≤ seconds then ⌊seconds⌋ else -⌊-seconds⌋

def fromTimestamp (epoch : Int) : Option Instant :=
  let second := unixEpochSeconds + epoch
  if 0 ≤ second ∧ second < 3652059 * 86400 then some (second.toNat * Time.microsPerSecond)
  else none

def bucketEpoch (epoch intervalSec : Int) : Int :=
  epoch - epoch % intervalSec

def bucketStartFor (timestamp : Instant) (intervalSec : Int) : Checked Instant :=
  if intervalSec ≤ 0 then Checked.invalid "interval_sec must be positive"
  else
    match fromTimestamp (bucketEpoch (epochSecond timestamp) intervalSec) with
    | some start => .ok start
    | none => Checked.invalid "year is out of range"

def normalizeIntervalList (intervals : List Int) : Checked (List Int) :=
  let normalized := intervals.eraseDups.insertionSort (· ≤ ·)
  if normalized = [] then
    Checked.invalid "MARKET_DATA_BAR_INTERVALS_SEC must contain at least one interval"
  else if normalized.any fun interval => interval ≤ 0 then
    Checked.invalid "MARKET_DATA_BAR_INTERVALS_SEC values must be positive"
  else if normalized.any fun interval => interval % 60 ≠ 0 then
    Checked.invalid "MARKET_DATA_BAR_INTERVALS_SEC values must be minute-aligned"
  else .ok normalized

/-! ## Bars -/

structure MinuteBar where
  code : String
  exchange : String
  session : String
  intervalSec : Int
  bucketStart : String
  openPrice : Int
  high : Int
  low : Int
  close : Int
  volumeDelta : Int
  tradeValueDelta : Rat
  tickCount : Int
  vwap : Option Rat
  updatedAt : String

structure BarKey where
  code : String
  exchange : String
  session : String
  intervalSec : Int
  bucketStart : String
deriving DecidableEq

def MinuteBar.key (bar : MinuteBar) : BarKey where
  code := bar.code
  exchange := bar.exchange
  session := bar.session
  intervalSec := bar.intervalSec
  bucketStart := bar.bucketStart

instance : Keyed MinuteBar BarKey := ⟨MinuteBar.key⟩

structure BarTick where
  tick : BrokerPriceTick
  exchange : String
  session : String
  volumeDelta : Int
  tradeValueDelta : Rat

def BarTick.key (added : BarTick) (intervalSec : Int) (bucketStart : String) : BarKey where
  code := added.tick.code
  exchange := added.exchange
  session := added.session
  intervalSec := intervalSec
  bucketStart := bucketStart

def calculateVwap (cumulativeTradeValue : Rat) (cumulativeVolume : Int)
    (barTradeValueDelta : Rat) (barVolumeDelta : Int) : Option Rat :=
  if 0 < cumulativeVolume ∧ 0 < cumulativeTradeValue then
    some (cumulativeTradeValue / cumulativeVolume)
  else if 0 < barVolumeDelta ∧ 0 < barTradeValueDelta then
    some (barTradeValueDelta / barVolumeDelta)
  else none

/-- The bar of a bucket with one more tick. -/
def barWithTick (existing : Option MinuteBar) (added : BarTick) (intervalSec : Int)
    (bucketStart : String) (now : Instant) : MinuteBar :=
  let volumeDelta := existing.elim 0 MinuteBar.volumeDelta + added.volumeDelta
  let tradeValueDelta := existing.elim 0 MinuteBar.tradeValueDelta + added.tradeValueDelta
  { code := added.tick.code
    exchange := added.exchange
    session := added.session
    intervalSec := intervalSec
    bucketStart := bucketStart
    openPrice := existing.elim added.tick.price MinuteBar.openPrice
    high := existing.elim added.tick.price fun bar => max bar.high added.tick.price
    low := existing.elim added.tick.price fun bar => min bar.low added.tick.price
    close := added.tick.price
    volumeDelta := volumeDelta
    tradeValueDelta := tradeValueDelta
    tickCount := existing.elim 0 MinuteBar.tickCount + 1
    vwap := calculateVwap added.tick.tradeValue added.tick.volume tradeValueDelta volumeDelta
    updatedAt := datetimeToWire now }

def upsertMinuteBar (added : BarTick) (now : Instant) (bars : Table MinuteBar)
    (intervalSec : Int) : Checked (Table MinuteBar) := do
  let start ← bucketStartFor added.tick.tradeTime intervalSec
  let bucketStart := datetimeToWire start
  let existing := bars.find? (added.key intervalSec bucketStart)
  return bars.upsert (barWithTick existing added intervalSec bucketStart now)

/-! ## Processing a price tick -/

structure BarTables where
  market : MarketTables
  bars : Table MinuteBar

def barTick (tick : BrokerPriceTick) (sample : TickSample) : BarTick where
  tick := tick
  exchange := sample.exchange
  session := sample.session
  volumeDelta := sample.volumeDelta
  tradeValueDelta := sample.tradeValueDelta

/-- The rows of a tick that is valid. Premarket snapshots and cross-exchange observations are
what the readings say. -/
def writePriceTickRows (host : Host) (intervals : List Int) (state : BarTables)
    (event : ProjectedEvent) (tick : BrokerPriceTick) (exchange : String)
    (readings : ProjectionReadings) : Checked (BarTables × Nat) :=
  let market := state.market
  let times := eventStoreTimes host market event readings.now
  let previous := market.latest.find? (tick.code, exchange)
  let sample := tickSample tick event exchange previous times
  match market.samples.insert? sample with
  | none => .error (.crash "UNIQUE constraint failed: market_tick_samples.event_id")
  | some samples =>
      let market := { market with samples := samples }
      if previous.any fun row => timestampIsBefore times.1 row.eventTs then
        .ok ({ state with market := market }, 1)
      else do
        let bars ← intervals.foldlM (upsertMinuteBar (barTick tick sample) readings.now) state.bars
        let others ← readings.derivedRows event.eventId
        return ({ market := { market with
                    latest := upsertLatest market.latest (latestTick tick event exchange times.1) }
                  bars := bars }, 1 + (intervals.length + others))

def processPriceTickRows (host : Host) (intervals : List Int) (state : BarTables)
    (event : ProjectedEvent) (readings : ProjectionReadings) : Checked (BarTables × Nat) :=
  if isQuoteOnly host event.payload then .ok (state, 0)
  else do
    let tick ← BrokerPriceTick.fromDict host event.payload
    let exchange ← priceTickPayloadExchange host event.payload
    let reasons := invalidReasons host event.payload
    if reasons ≠ [] ∨ assessPriceTickQuality tick = .invalid then
      return ({ state with
        market := recordProjectionError host state.market event (invalidTickMessage reasons) }, 0)
    else writePriceTickRows host intervals state event tick exchange readings

end SuseokTrader
