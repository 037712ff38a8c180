import SuseokTrader.Lib.Counters
import SuseokTrader.Market.BarNesting

/-!
# The volume of a day

The broker's volume counts from the start of the day. A tick adds what the
count has moved since the latest tick of its stock, whatever the day of that
tick. The volume of the bars of a day so is the last count of the day exactly
where the count of the day before ended at nothing or the day's own starts
there.
-/

namespace SuseokTrader

/-! ## Days -/

def tradeDay (epoch : Int) : Int :=
  (epoch + 32400) / 86400

def dayStart (day : Int) : Int :=
  day * 86400 - 32400

def marketSessions : List String :=
  ["REGULAR", "PREMARKET_NXT", "AFTERMARKET_NXT", "OFF_HOURS"]

variable (bars : Table MinuteBar) (code exchange : String)

def dayBars (day : Int) : List MinuteBar :=
  (List.range 1440).flatMap fun minute : ℕ =>
    marketSessions.filterMap fun session =>
      barAt bars code exchange session 60 (dayStart day + 60 * minute)

def dayVolume (day : Int) : Int :=
  ((dayBars bars code exchange day).map MinuteBar.volumeDelta).sum

def stockTicks (ticks : List BarTick) : List BarTick :=
  ticks.filter fun added => added.tick.code = code ∧ added.exchange = exchange

def BarTick.day (added : BarTick) : Int :=
  tradeDay added.epoch

def BarTick.volume (added : BarTick) : Int :=
  added.tick.volume

theorem marketSessionForTick_mem (tradeTime : Instant) (exchange : String) :
    marketSessionForTick tradeTime exchange ∈ marketSessions := by
  rw [marketSessionForTick]
  split_ifs
  all_goals decide

/-! ## The volume of the bars is that of the ticks -/

section Volumes

variable {intervals : List Int} {ticks : List BarTick} {bars : Table MinuteBar}

theorem day_eq_iff {added : BarTick} {day : Int} :
    added.day = day ↔ dayStart day ≤ added.epoch ∧ added.epoch < dayStart day + 86400 := by
  simp only [BarTick.day, tradeDay, dayStart]
  omega

theorem minuteOf_day_lt {added : BarTick} {day : Int} (isDay : added.day = day) :
    minuteOf (dayStart day) added < 1440 := by
  rw [day_eq_iff] at isDay
  have bounds := (@bucketEpoch_eq_iff added.epoch 60 _ (by decide)).mp rfl
  rw [minuteOf]
  omega

theorem ticks_of_minute (code exchange session : String) (day : Int) {minute : ℕ}
    (within : minute < 1440) :
    ((((stockTicks code exchange ticks).filter fun added => added.day = day).filter
      fun added => minuteOf (dayStart day) added = minute).filter
        fun added => added.session = session) =
      ticksAt ticks code exchange session 60 (dayStart day + 60 * minute) := by
  rw [stockTicks, List.filter_filter, List.filter_filter, List.filter_filter]
  apply List.filter_congr
  intro added _
  simp only [← Bool.decide_and]
  apply decide_eq_decide.mpr
  rw [@bucketEpoch_eq_iff _ 60 _ (by decide), day_eq_iff, minuteOf]
  have bounds := (@bucketEpoch_eq_iff added.epoch 60 _ (by decide)).mp rfl
  simp only [dayStart]
  constructor
  · rintro ⟨⟨⟨isSession, isMinute⟩, after, before⟩, isCode, isExchange⟩
    exact ⟨isCode, isExchange, isSession, by omega, by omega, by omega⟩
  · rintro ⟨isCode, isExchange, isSession, aligned, after, before⟩
    exact ⟨⟨⟨isSession, by omega⟩, by omega, by omega⟩, isCode, isExchange⟩

/-- The volume of the bars of a date is what its ticks add. -/
theorem BarsTell.dayVolume_eq (tell : BarsTell intervals ticks bars)
    (minute : (60 : Int) ∈ intervals) (sessions : ∀ added ∈ ticks, added.session ∈ marketSessions)
    (code exchange : String) (day : Int) :
    dayVolume bars code exchange day =
      (((stockTicks code exchange ticks).filter fun added => added.day = day).map
        BarTick.volumeDelta).sum := by
  have distinct : marketSessions.Nodup := by decide
  have ofSession : ∀ session : String, ∀ place : ℕ, place < 1440 →
      (barAt bars code exchange session 60 (dayStart day + 60 * place)).elim 0
          MinuteBar.volumeDelta =
        (((((stockTicks code exchange ticks).filter fun added => added.day = day).filter
          fun added => minuteOf (dayStart day) added = place).filter
            fun added => added.session = session).map BarTick.volumeDelta).sum := by
    intro session place within
    rw [ticks_of_minute code exchange session day within]
    have tells := tell.at minute code exchange session (dayStart day + 60 * place)
    cases found : barAt bars code exchange session 60 (dayStart day + 60 * place) with
    | none =>
        rw [found] at tells
        have noTicks : _ = [] := tells
        rw [noTicks]
        rfl
    | some bar =>
        rw [found] at tells
        exact BarTells.volumeDelta tells
  have minutes : ∀ added ∈ (stockTicks code exchange ticks).filter fun added => added.day = day,
      minuteOf (dayStart day) added ∈ List.range 1440 := by
    intro added isTick
    rw [List.mem_range]
    exact minuteOf_day_lt (by simpa using (List.mem_filter.mp isTick).2)
  have places : ∀ place ∈ List.range 1440, place < 1440 := fun place isPlace =>
    List.mem_range.mp isPlace
  have distinctMinutes : (List.range 1440).Nodup := List.nodup_range
  rw [dayVolume, dayBars]
  rw [sum_flatMap, ← sum_groups BarTick.volumeDelta (minuteOf (dayStart day)) distinctMinutes _
    minutes]
  refine congrArg List.sum (List.map_congr_left fun place isPlace => ?_)
  rw [sum_filterMap, ← sum_groups BarTick.volumeDelta BarTick.session distinct]
  · refine congrArg List.sum (List.map_congr_left fun session _ => ?_)
    exact ofSession session place (places place isPlace)
  · intro added isTick
    apply sessions
    exact (List.mem_filter.mp (List.mem_filter.mp (List.mem_filter.mp isTick).1).1).1

end Volumes

/-! ## The ticks of a stock over a run -/

/-- The latest tick of the stock is the last that was taken in, and each has added what the count
moved since the one before. -/
structure FollowsStock (code exchange : String) (ticks : List BarTick) (state : BarTables) :
    Prop where
  latest : (state.market.latest.find? (code, exchange)).map LatestTick.cumulativeVolume =
    (stockTicks code exchange ticks).getLast?.map BarTick.volume
  gains : Gains BarTick.volume BarTick.volumeDelta (stockTicks code exchange ticks)
  sessions : ∀ added ∈ ticks, added.session ∈ marketSessions

theorem find?_upsertLatest_self (latest : Table LatestTick) (row : LatestTick) :
    ((upsertLatest latest row).find? (Keyed.key row)).map LatestTick.cumulativeVolume =
      some row.cumulativeVolume := by
  rw [upsertLatest]
  cases inserts : latest.insert? row with
  | some inserted => simp [Table.find?_of_insert?_self inserts]
  | none =>
      cases found : latest.find? (Keyed.key row) with
      | none =>
          have fresh := Table.insert?_isSome_iff.mpr found
          rw [inserts] at fresh
          cases fresh
      | some old =>
          rw [Table.find?_update_self found]
          rfl

theorem find?_upsertLatest_of_ne (latest : Table LatestTick) {row : LatestTick}
    {key : String × String} (different : key ≠ Keyed.key row) :
    (upsertLatest latest row).find? key = latest.find? key := by
  rw [upsertLatest]
  cases inserts : latest.insert? row with
  | some inserted => exact Table.find?_of_insert?_of_ne inserts different.symm
  | none => exact Table.find?_update_of_ne different

theorem FollowsStock.next {code exchange : String} {ticks : List BarTick} {state : BarTables}
    (follows : FollowsStock code exchange ticks state) (host : Host) (intervals : List Int)
    (op : BarOp) :
    FollowsStock code exchange (ticks ++ (takenTick host intervals state op).toList)
      (barNext host intervals state op) := by
  have effect := @barNext_effect host intervals state op
  generalize takenTick host intervals state op = taken at effect ⊢
  cases effect with
  | kept bars latest =>
      refine ⟨?_, ?_, ?_⟩
      · rw [latest]
        simpa using follows.latest
      · simpa using follows.gains
      · simpa using follows.sessions
  | taken added now row bars delta isRow volume latest isSession =>
      have sessions : ∀ other ∈ ticks ++ [added], other.session ∈ marketSessions := by
        intro other isOther
        rw [List.mem_append, List.mem_singleton] at isOther
        rcases isOther with isOther | rfl
        · exact follows.sessions other isOther
        · rw [isSession]
          exact marketSessionForTick_mem _ _
      by_cases own : added.tick.code = code ∧ added.exchange = exchange
      · have whole : stockTicks code exchange (ticks ++ [added]) =
            stockTicks code exchange ticks ++ [added] := by
          simp [stockTicks, own]
        refine ⟨?_, ?_, sessions⟩
        · rw [Option.toList_some, whole, latest, List.getLast?_concat, ← own.1, ← own.2, ← isRow,
            find?_upsertLatest_self, volume]
          rfl
        · rw [Option.toList_some, whole]
          refine .append follows.gains ?_
          rw [delta, own.1, own.2, volumeDeltaAfter]
          have former := follows.latest
          cases found : state.market.latest.find? (code, exchange) with
          | none =>
              rw [found, Option.map_none, eq_comm, Option.map_eq_none_iff] at former
              rw [former]
              rfl
          | some previous =>
              rw [found, Option.map_some, eq_comm, Option.map_eq_some_iff] at former
              rcases former with ⟨last, isLast, sameVolume⟩
              rw [isLast, Option.elim_some, Option.elim_some, sameVolume]
              rfl
      · have same : stockTicks code exchange (ticks ++ [added]) =
            stockTicks code exchange ticks := by
          simp [stockTicks, own]
        refine ⟨?_, ?_, sessions⟩
        · rw [Option.toList_some, same, latest, find?_upsertLatest_of_ne]
          · exact follows.latest
          · rw [isRow]
            intro sameKey
            rw [Prod.mk.injEq] at sameKey
            exact own ⟨sameKey.1.symm, sameKey.2.symm⟩
        · rw [Option.toList_some, same]
          exact follows.gains

theorem FollowsStock.run {code exchange : String} {ticks : List BarTick} {state : BarTables}
    (follows : FollowsStock code exchange ticks state) (host : Host) (intervals : List Int)
    (ops : List BarOp) :
    FollowsStock code exchange (ticks ++ takenTicks host intervals state ops)
      (barsAfter host intervals state ops) := by
  induction ops generalizing state ticks with
  | nil => simpa [takenTicks, barsAfter] using follows
  | cons op ops ih =>
      rw [takenTicks, ← List.append_assoc]
      exact ih (follows.next host intervals op)

theorem followsStock_empty :
    FollowsStock code exchange [] (emptyBarTables emptyMarketTables) where
  latest := rfl
  gains := .nil
  sessions _ isTick := absurd isTick List.not_mem_nil

/-! ## Where the volume of each day is its own -/

/-- The ticks of a stock that a run from empty tables takes in. -/
def seenTicks (host : Host) (intervals : List Int) (code exchange : String) (ops : List BarOp) :
    List BarTick :=
  stockTicks code exchange (takenTicks host intervals (emptyBarTables emptyMarketTables) ops)

/-- The bars of each date with ticks have the volume that was counted last on it. -/
def DaysHaveTheirVolume (seen : List BarTick) :
    Prop :=
  ∀ day last, (seen.filter fun added => added.day = day).getLast? = some last →
    dayVolume bars code exchange day = last.volume

theorem daysHaveTheirVolume_iff (host : Host) {intervals : List Int} (distinct : intervals.Nodup)
    (minute : (60 : Int) ∈ intervals) (code exchange : String) (ops : List BarOp)
    (ordered : InDayOrder BarTick.day BarTick.volume
      (seenTicks host intervals code exchange ops)) :
    DaysHaveTheirVolume
        (barsAfter host intervals (emptyBarTables emptyMarketTables) ops).bars code exchange
        (seenTicks host intervals code exchange ops) ↔
      RestartsAtNothing BarTick.day BarTick.volume
        (seenTicks host intervals code exchange ops) := by
  have start : BarsTell intervals [] (emptyBarTables emptyMarketTables).bars :=
    barsTell_empty intervals
  have tell := start.run distinct host ops
  have follows := (followsStock_empty code exchange).run host intervals ops
  have nonneg : ∀ added ∈ seenTicks host intervals code exchange ops, 0 ≤ added.volume :=
    fun added _ => added.tick.volume_nonneg
  have gains : Gains BarTick.volume BarTick.volumeDelta
      (seenTicks host intervals code exchange ops) := follows.gains
  rw [← daysAddUp_iff gains ordered nonneg, DaysHaveTheirVolume]
  simp only [tell.dayVolume_eq minute follows.sessions]
  rfl

theorem day_volume_attributed_iff (host : Host) (raw intervals : List Int)
    (isList : normalizeIntervalList raw = .ok intervals) (minute : (60 : Int) ∈ intervals)
    (code exchange : String) (ops : List BarOp)
    (ordered : InDayOrder BarTick.day BarTick.volume
      (seenTicks host intervals code exchange ops)) :
    DaysHaveTheirVolume
        (barsAfter host intervals (emptyBarTables emptyMarketTables) ops).bars code exchange
        (seenTicks host intervals code exchange ops) ↔
      RestartsAtNothing BarTick.day BarTick.volume
        (seenTicks host intervals code exchange ops) :=
  daysHaveTheirVolume_iff host (normalizeIntervalList_eq_ok isList).1 minute code exchange ops
    ordered

/-! ## Two days of trading -/

/-- A tick at so many seconds into the calendar, after so many shares. -/
def tickOfVolume (eventId : String) (second volume : Nat) : ProjectedEvent where
  eventId := eventId
  eventType := "price_tick"
  source := "kiwoom"
  ts := second * Time.microsPerSecond
  payload := [("code", .str "005930"), ("name", .str "Samsung"), ("price", .int 70000),
    ("change_rate", .int 0), ("volume", .int volume), ("trade_value", .int 100),
    ("execution_strength", .int 100), ("best_bid", .int 70000), ("best_ask", .int 70000),
    ("spread_ticks", .int 0), ("day_high", .int 70000), ("day_low", .int 70000),
    ("trade_time", .str (datetimeToWire (second * Time.microsPerSecond)))]

/-- Two ticks of a day and the first of the next. -/
def twoDays (opening : Nat) : List BarOp :=
  [.tick (tickOfVolume "tick-1" 63900000000 4) noReadings,
    .tick (tickOfVolume "tick-2" 63900000090 10) noReadings,
    .tick (tickOfVolume "tick-3" 63900086400 opening) noReadings]

variable (opening : Nat)

theorem twoDays_counts (isOpening : opening ∈ [0, 15]) :
    (seenTicks wholeNumberHost [60] "005930" "KRX" (twoDays opening)).map
      (fun added => (added.day, added.volume)) =
        [(20421, 4), (20421, 10), (20422, (opening : Int))] := by
  revert opening
  decide +kernel

theorem twoDays_ordered (isOpening : opening ∈ [0, 15]) :
    InDayOrder BarTick.day BarTick.volume
      (seenTicks wholeNumberHost [60] "005930" "KRX" (twoDays opening)) := by
  have ordered : (((seenTicks wholeNumberHost [60] "005930" "KRX" (twoDays opening)).map
      fun added => (added.day, added.volume)).Pairwise fun earlier later =>
        earlier.1 ≤ later.1 ∧ (earlier.1 = later.1 → earlier.2 ≤ later.2)) := by
    rw [twoDays_counts opening isOpening]
    simp
  exact List.pairwise_map.mp ordered

theorem twoDays_restarts_iff (isOpening : opening ∈ [0, 15]) :
    RestartsAtNothing BarTick.day BarTick.volume
        (seenTicks wholeNumberHost [60] "005930" "KRX" (twoDays opening)) ↔ opening = 0 := by
  have counts := twoDays_counts opening isOpening
  have restarts := List.isChain_map (R := fun earlier later : Int × Int =>
    earlier.1 < later.1 → earlier.2 = 0 ∨ later.2 = 0)
      (fun added : BarTick => (added.day, added.volume))
      (l := seenTicks wholeNumberHost [60] "005930" "KRX" (twoDays opening))
  rw [counts] at restarts
  refine restarts.symm.trans ?_
  simp

theorem opening_at_nothing_attributed :
    DaysHaveTheirVolume
      (barsAfter wholeNumberHost [60] (emptyBarTables emptyMarketTables) (twoDays 0)).bars
      "005930" "KRX" (seenTicks wholeNumberHost [60] "005930" "KRX" (twoDays 0)) :=
  (day_volume_attributed_iff wholeNumberHost [60] [60] rfl (by decide) "005930" "KRX" (twoDays 0)
    (twoDays_ordered 0 (by decide))).mpr ((twoDays_restarts_iff 0 (by decide)).mpr rfl)

/-- The bars of the second day lack what the first day ended with. -/
theorem opening_above_close_misattributed :
    InDayOrder BarTick.day BarTick.volume
        (seenTicks wholeNumberHost [60] "005930" "KRX" (twoDays 15)) ∧
      ¬DaysHaveTheirVolume
        (barsAfter wholeNumberHost [60] (emptyBarTables emptyMarketTables) (twoDays 15)).bars
        "005930" "KRX" (seenTicks wholeNumberHost [60] "005930" "KRX" (twoDays 15)) := by
  have ordered := twoDays_ordered 15 (by decide)
  refine ⟨ordered, ?_⟩
  rw [daysHaveTheirVolume_iff wholeNumberHost (by decide) (by decide) "005930" "KRX" (twoDays 15)
    ordered, twoDays_restarts_iff 15 (by decide)]
  decide

end SuseokTrader
