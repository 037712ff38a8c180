import SuseokTrader.Broker.TimeOrder
import SuseokTrader.Lib.Groups
import SuseokTrader.Market.Bars

/-!
# Bars over a run of ticks

The bar of a bucket tells of the ticks whose epoch second lies in it. The
buckets of an interval of whole minutes are made of the buckets of the minutes,
and so are its bars.
-/

namespace SuseokTrader

/-! ## Ticks of a bucket -/

def BarTick.epoch (added : BarTick) : Int :=
  epochSecond added.tick.tradeTime

/-- The text of a bucket start that is in the calendar. -/
def bucketStartText (epoch : Int) : Option String :=
  (fromTimestamp epoch).map datetimeToWire

def barAt (bars : Table MinuteBar) (code exchange session : String) (intervalSec start : Int) :
    Option MinuteBar :=
  (bucketStartText start).bind fun bucketStart =>
    bars.find? { code := code, exchange := exchange, session := session,
                 intervalSec := intervalSec, bucketStart := bucketStart }

def BarTick.IsIn (key : BarKey) (added : BarTick) : Prop :=
  added.tick.code = key.code ∧ added.exchange = key.exchange ∧ added.session = key.session ∧
    bucketStartText (bucketEpoch added.epoch key.intervalSec) = some key.bucketStart

instance (key : BarKey) (added : BarTick) : Decidable (added.IsIn key) :=
  inferInstanceAs (Decidable (_ ∧ _))

def ticksIn (key : BarKey) (ticks : List BarTick) : List BarTick :=
  ticks.filter fun added => added.IsIn key

/-- The bar of some ticks. -/
structure BarTells (ticks : List BarTick) (bar : MinuteBar) : Prop where
  high : IsGreatest {price | ∃ added ∈ ticks, added.tick.price = price} bar.high
  low : IsLeast {price | ∃ added ∈ ticks, added.tick.price = price} bar.low
  volumeDelta : bar.volumeDelta = (ticks.map BarTick.volumeDelta).sum
  tradeValueDelta : bar.tradeValueDelta = (ticks.map BarTick.tradeValueDelta).sum
  tickCount : bar.tickCount = ticks.length

def KeyTells (ticks : List BarTick) : Option MinuteBar → Prop
  | none => ticks = []
  | some bar => BarTells ticks bar

theorem BarTells.singleton (added : BarTick) (intervalSec : Int) (bucketStart : String)
    (now : Instant) : BarTells [added] (barWithTick none added intervalSec bucketStart now) where
  high := by simp [barWithTick]
  low := by simp [barWithTick]
  volumeDelta := by simp [barWithTick]
  tradeValueDelta := by simp [barWithTick]
  tickCount := by simp [barWithTick]

theorem BarTells.append {ticks : List BarTick} {bar : MinuteBar} (tells : BarTells ticks bar)
    (added : BarTick) (intervalSec : Int) (bucketStart : String) (now : Instant) :
    BarTells (ticks ++ [added]) (barWithTick (some bar) added intervalSec bucketStart now) where
  high := by
    have prices : {price | ∃ other ∈ ticks ++ [added], other.tick.price = price} =
        {price | ∃ other ∈ ticks, other.tick.price = price} ∪ {added.tick.price} := by
      ext price
      simp [or_comm, eq_comm]
    rw [prices]
    exact tells.high.union isGreatest_singleton
  low := by
    have prices : {price | ∃ other ∈ ticks ++ [added], other.tick.price = price} =
        {price | ∃ other ∈ ticks, other.tick.price = price} ∪ {added.tick.price} := by
      ext price
      simp [or_comm, eq_comm]
    rw [prices]
    exact tells.low.union isLeast_singleton
  volumeDelta := by simp [barWithTick, tells.volumeDelta]
  tradeValueDelta := by simp [barWithTick, tells.tradeValueDelta]
  tickCount := by simp [barWithTick, tells.tickCount]

/-! ## Taking in a tick -/

section TakesIn

variable {added : BarTick} {now : Instant} {bars after : Table MinuteBar}

theorem bucketStartFor_eq_ok {timestamp start : Instant} {intervalSec : Int}
    (success : bucketStartFor timestamp intervalSec = .ok start) :
    0 < intervalSec ∧ fromTimestamp (bucketEpoch (epochSecond timestamp) intervalSec) =
      some start := by
  rw [bucketStartFor] at success
  split at success
  · cases success
  · next positive =>
      refine ⟨not_le.mp positive, ?_⟩
      split at success
      · next found isStart =>
          rw [Except.ok.injEq] at success
          rw [isStart, success]
      · cases success

theorem upsertMinuteBar_eq_ok {intervalSec : Int}
    (success : upsertMinuteBar added now bars intervalSec = .ok after) :
    (∃ start, fromTimestamp (bucketEpoch added.epoch intervalSec) = some start) ∧
      ∀ key, after.find? key =
        if key.intervalSec = intervalSec ∧ added.IsIn key then
          some (barWithTick (bars.find? key) added intervalSec key.bucketStart now)
        else bars.find? key := by
  rcases Checked.bind_eq_ok.mp success with ⟨start, isStart, success⟩
  simp only [pure, Except.pure, Except.ok.injEq] at success
  subst success
  have found := (bucketStartFor_eq_ok isStart).2
  refine ⟨⟨start, found⟩, ?_⟩
  have text : bucketStartText (bucketEpoch added.epoch intervalSec) =
      some (datetimeToWire start) := by
    rw [bucketStartText, BarTick.epoch, found]
    rfl
  intro key
  by_cases own : key.intervalSec = intervalSec ∧ added.IsIn key
  · rcases own with ⟨isInterval, isCode, isExchange, isSession, isStart⟩
    rw [isInterval, text, Option.some.injEq] at isStart
    have isKey : key = added.key intervalSec (datetimeToWire start) := by
      cases key
      simp only [BarTick.key, BarKey.mk.injEq]
      exact ⟨isCode.symm, isExchange.symm, isSession.symm, isInterval, isStart.symm⟩
    rw [if_pos ⟨isInterval, isCode, isExchange, isSession, by rw [isInterval, text, isStart]⟩,
      isKey]
    exact Table.find?_upsert_self bars (barWithTick _ added intervalSec _ now)
  · rw [if_neg own]
    apply Table.find?_upsert_of_ne
    intro same
    apply own
    rw [← same]
    exact ⟨rfl, rfl, rfl, rfl, text⟩

theorem foldlM_upsertMinuteBar {intervals : List Int} (distinct : intervals.Nodup)
    (success : intervals.foldlM (upsertMinuteBar added now) bars = .ok after) :
    (∀ interval ∈ intervals, ∃ start,
      fromTimestamp (bucketEpoch added.epoch interval) = some start) ∧
      ∀ key, after.find? key =
        if key.intervalSec ∈ intervals ∧ added.IsIn key then
          some (barWithTick (bars.find? key) added key.intervalSec key.bucketStart now)
        else bars.find? key := by
  induction intervals generalizing bars with
  | nil =>
      simp only [List.foldlM_nil, pure, Except.pure, Except.ok.injEq] at success
      subst success
      simp
  | cons interval intervals ih =>
      rcases Checked.bind_eq_ok.mp success with ⟨middle, first, rest⟩
      rw [List.nodup_cons] at distinct
      rcases upsertMinuteBar_eq_ok first with ⟨start, own⟩
      rcases ih distinct.2 rest with ⟨starts, others⟩
      refine ⟨?_, ?_⟩
      · intro other isOther
        rcases List.mem_cons.mp isOther with rfl | isOther
        · exact start
        · exact starts other isOther
      · intro key
        rw [others key, own key]
        by_cases isIn : added.IsIn key
        · by_cases isFirst : key.intervalSec = interval
          · have notLater : key.intervalSec ∉ intervals := by
              rw [isFirst]
              exact distinct.1
            simp [isFirst, distinct.1]
          · simp [isFirst]
        · simp [isIn]

end TakesIn

/-! ## Runs -/

variable (host : Host)

/-- The tick of an event as the bars would take it in: one that is valid and not older than the
latest tick of its stock. -/
def readTick (market : MarketTables) (event : ProjectedEvent) (now : Instant) :
    Option BarTick :=
  if isQuoteOnly host event.payload then none
  else
    match BrokerPriceTick.fromDict host event.payload,
        priceTickPayloadExchange host event.payload with
    | .ok tick, .ok exchange =>
        let times := eventStoreTimes host market event now
        let previous := market.latest.find? (tick.code, exchange)
        if invalidReasons host event.payload ≠ [] ∨ assessPriceTickQuality tick = .invalid then none
        else if previous.any fun row => timestampIsBefore times.1 row.eventTs then none
        else some (barTick tick (tickSample tick event exchange previous times))
    | _, _ => none

/-- A tick is processed, or others change the samples, the event store and the event results. -/
inductive BarOp where
  | tick (event : ProjectedEvent) (readings : ProjectionReadings)
  | others (samples : Table TickSample) (gatewayEvents : Table StoredEvent) (ledger : ResultLedger)

variable (intervals : List Int)

/-- A tick that fails is taken back. -/
def barNext (state : BarTables) : BarOp → BarTables
  | .tick event readings =>
      match processPriceTickRows host intervals state event readings with
      | .ok (written, _) => written
      | .error _ => state
  | .others samples gatewayEvents ledger =>
      { state with
        market := { state.market with
          samples := samples
          gatewayEvents := gatewayEvents
          ledger := ledger } }

def takenTick (state : BarTables) : BarOp → Option BarTick
  | .tick event readings =>
      match processPriceTickRows host intervals state event readings with
      | .ok _ => readTick host state.market event readings.now
      | .error _ => none
  | .others _ _ _ => none

def takenTicks (host : Host) (intervals : List Int) (state : BarTables) : List BarOp → List BarTick
  | [] => []
  | op :: ops =>
      (takenTick host intervals state op).toList ++
        takenTicks host intervals (barNext host intervals state op) ops

def barsAfter (state : BarTables) (ops : List BarOp) :
    BarTables :=
  ops.foldl (barNext host intervals) state

def volumeDeltaAfter (previous : Option LatestTick) (volume : Int) : Int :=
  previous.elim volume fun row => max (volume - row.cumulativeVolume) 0

/-- What a step does to the bars and the latest ticks. -/
inductive BarEffect (intervals : List Int) (before after : BarTables) : Option BarTick → Prop where
  | kept (bars : after.bars = before.bars) (latest : after.market.latest = before.market.latest) :
      BarEffect intervals before after none
  | taken (added : BarTick) (now : Instant) (row : LatestTick)
      (bars : intervals.foldlM (upsertMinuteBar added now) before.bars = .ok after.bars)
      (delta : added.volumeDelta = volumeDeltaAfter
        (before.market.latest.find? (added.tick.code, added.exchange)) added.tick.volume)
      (isRow : Keyed.key row = (added.tick.code, added.exchange))
      (volume : row.cumulativeVolume = added.tick.volume)
      (latest : after.market.latest = upsertLatest before.market.latest row)
      (isSession : added.session = marketSessionForTick added.tick.tradeTime added.exchange) :
      BarEffect intervals before after (some added)

section Effects

variable {host : Host} {intervals : List Int} {state : BarTables}

theorem processPriceTickRows_effect {event : ProjectedEvent} {readings : ProjectionReadings}
    {written : BarTables} {count : Nat}
    (success : processPriceTickRows host intervals state event readings = .ok (written, count)) :
    BarEffect intervals state written (readTick host state.market event readings.now) := by
  rw [processPriceTickRows] at success
  rw [readTick]
  split at success
  · next quote =>
      rcases success with ⟨rfl, _⟩
      rw [if_pos quote]
      exact .kept rfl rfl
  · next trade =>
      rcases Checked.bind_eq_ok.mp success with ⟨tick, isTick, success⟩
      rcases Checked.bind_eq_ok.mp success with ⟨exchange, isExchange, success⟩
      rw [if_neg trade, isTick, isExchange]
      dsimp only at success ⊢
      split at success
      · next invalid =>
          rcases success with ⟨rfl, _⟩
          rw [if_pos invalid]
          exact .kept rfl rfl
      · next valid =>
          rw [if_neg valid]
          simp only [writePriceTickRows] at success
          split at success
          · cases success
          · split at success
            · next older =>
                rcases success with ⟨rfl, _⟩
                rw [if_pos older]
                exact .kept rfl rfl
            · next newest =>
                rw [if_neg newest]
                rcases Checked.bind_eq_ok.mp success with ⟨bars, takesIn, success⟩
                rcases Checked.bind_eq_ok.mp success with ⟨others, _, success⟩
                rcases success with ⟨rfl, _⟩
                exact .taken _ readings.now _ takesIn rfl rfl rfl rfl rfl

theorem barNext_effect (op : BarOp) :
    BarEffect intervals state (barNext host intervals state op)
      (takenTick host intervals state op) := by
  cases op with
  | others samples gatewayEvents ledger => exact .kept rfl rfl
  | tick event readings =>
      simp only [barNext, takenTick]
      cases success : processPriceTickRows host intervals state event readings with
      | error failure => exact .kept rfl rfl
      | ok result => exact processPriceTickRows_effect success

end Effects

/-- The bars tell of the ticks: each tick lies in a bucket of each interval, and each bucket has
the bar of its ticks. -/
structure BarsTell (intervals : List Int) (ticks : List BarTick) (bars : Table MinuteBar) :
    Prop where
  placed : ∀ added ∈ ticks, ∀ interval ∈ intervals,
    ∃ start, fromTimestamp (bucketEpoch added.epoch interval) = some start
  tells : ∀ key, key.intervalSec ∈ intervals → KeyTells (ticksIn key ticks) (bars.find? key)
  configured : ∀ key bar, bars.find? key = some bar → key.intervalSec ∈ intervals

theorem barsTell_empty : BarsTell intervals [] .empty where
  placed _ isTick := absurd isTick List.not_mem_nil
  tells _ _ := rfl
  configured _ _ found := by cases found

theorem BarsTell.append {intervals : List Int} {ticks : List BarTick}
    {bars after : Table MinuteBar} (tell : BarsTell intervals ticks bars)
    (distinct : intervals.Nodup) {added : BarTick} {now : Instant}
    (takesIn : intervals.foldlM (upsertMinuteBar added now) bars = .ok after) :
    BarsTell intervals (ticks ++ [added]) after := by
  rcases foldlM_upsertMinuteBar distinct takesIn with ⟨starts, found⟩
  refine ⟨?_, ?_, ?_⟩
  · intro other isOther
    rw [List.mem_append, List.mem_singleton] at isOther
    rcases isOther with isOther | rfl
    · exact tell.placed other isOther
    · exact starts
  · intro key isInterval
    have former := tell.tells key isInterval
    rw [found key]
    by_cases isIn : added.IsIn key
    · have whole : ticksIn key (ticks ++ [added]) = ticksIn key ticks ++ [added] := by
        simp [ticksIn, isIn]
      rw [if_pos ⟨isInterval, isIn⟩, whole]
      cases existing : bars.find? key with
      | none =>
          rw [existing] at former
          have noTicks : ticksIn key ticks = [] := former
          rw [noTicks]
          exact BarTells.singleton added _ _ now
      | some bar =>
          rw [existing] at former
          exact BarTells.append former added _ _ now
    · have same : ticksIn key (ticks ++ [added]) = ticksIn key ticks := by
        simp [ticksIn, isIn]
      rw [if_neg (fun both => isIn both.2), same]
      exact former
  · intro key bar isBar
    rw [found key] at isBar
    split at isBar
    · next own => exact own.1
    · exact tell.configured key bar isBar

theorem BarsTell.run {intervals : List Int} {ticks : List BarTick} {state : BarTables}
    (tell : BarsTell intervals ticks state.bars) (distinct : intervals.Nodup) (host : Host)
    (ops : List BarOp) :
    BarsTell intervals (ticks ++ takenTicks host intervals state ops)
      (barsAfter host intervals state ops).bars := by
  induction ops generalizing state ticks with
  | nil => simpa [takenTicks, barsAfter] using tell
  | cons op ops ih =>
      have effect := @barNext_effect host intervals state op
      rw [takenTicks, ← List.append_assoc]
      apply ih
      generalize takenTick host intervals state op = taken at effect ⊢
      cases effect with
      | kept bars latest =>
          rw [bars]
          simpa using tell
      | taken added now row bars delta isRow volume latest isSession =>
          exact tell.append distinct bars

end SuseokTrader
