import SuseokTrader.Lib.Batch
import SuseokTrader.Market.BarRuns
import SuseokTrader.Market.RebuildRuns

/-!
# Bars of several minutes

A bar of an interval of whole minutes is made of the bars of its minutes: its
high is the greatest of their highs, its low the least of their lows, and its
volume, value and number of ticks are the sums of theirs. Every bar of a minute
is part of exactly one bar of the interval.
-/

namespace SuseokTrader

/-! ## Buckets in buckets -/

theorem fromTimestamp_eq_some {epoch : Int} {start : Instant}
    (isStart : fromTimestamp epoch = some start) :
    0 ≤ unixEpochSeconds + epoch ∧ unixEpochSeconds + epoch < 3652059 * 86400 ∧
      start = (unixEpochSeconds + epoch).toNat * Time.microsPerSecond := by
  rw [fromTimestamp] at isStart
  split at isStart
  · next within => exact ⟨within.1, within.2, (Option.some.inj isStart).symm⟩
  · cases isStart

theorem bucketStartText_injective {left right : Int} {text : String}
    (isLeft : bucketStartText left = some text) (isRight : bucketStartText right = some text) :
    left = right := by
  rcases Option.map_eq_some_iff.mp isLeft with ⟨first, isFirst, firstText⟩
  rcases Option.map_eq_some_iff.mp isRight with ⟨second, isSecond, secondText⟩
  rcases fromTimestamp_eq_some isFirst with ⟨leftPos, leftBound, rfl⟩
  rcases fromTimestamp_eq_some isSecond with ⟨rightPos, rightBound, rfl⟩
  have bounded : ∀ second : Int, 0 ≤ second → second < 3652059 * 86400 →
      Time.InCalendar (second.toNat * Time.microsPerSecond) := by
    intro second positive below
    change (second.toNat * 1000000 : ℕ) < 3652059 * (86400 * 1000000)
    omega
  have same := datetimeToWire_injective (bounded _ leftPos leftBound)
    (bounded _ rightPos rightBound) (firstText.trans secondText.symm)
  simp only [Time.microsPerSecond] at same
  omega

theorem bucketEpoch_eq_iff {epoch interval start : Int} (positive : 0 < interval) :
    bucketEpoch epoch interval = start ↔
      interval ∣ start ∧ start ≤ epoch ∧ epoch < start + interval := by
  have nonneg := Int.emod_nonneg epoch positive.ne'
  have below := Int.emod_lt_of_pos epoch positive
  rw [bucketEpoch]
  constructor
  · rintro rfl
    exact ⟨Int.dvd_self_sub_emod, by omega, by omega⟩
  · rintro ⟨⟨quotient, rfl⟩, atLeast, before⟩
    have isRest : epoch % interval = epoch - interval * quotient := by
      have rest : (epoch - interval * quotient) % interval = epoch - interval * quotient :=
        Int.emod_eq_of_lt (by omega) (by omega)
      rw [← rest, Int.sub_mul_emod_self_left]
    omega

/-! ## Bars by their epoch seconds -/

def ticksAt (ticks : List BarTick) (code exchange session : String) (interval start : Int) :
    List BarTick :=
  ticks.filter fun added => added.tick.code = code ∧ added.exchange = exchange ∧
    added.session = session ∧ bucketEpoch added.epoch interval = start

theorem mem_ticksAt {ticks : List BarTick} {code exchange session : String}
    {interval start : Int} {added : BarTick} :
    added ∈ ticksAt ticks code exchange session interval start ↔
      added ∈ ticks ∧ added.tick.code = code ∧ added.exchange = exchange ∧
        added.session = session ∧ bucketEpoch added.epoch interval = start := by
  simp [ticksAt]

section Nesting

variable {intervals : List Int} {ticks : List BarTick} {bars : Table MinuteBar}
  {interval : Int}

theorem BarsTell.at (tell : BarsTell intervals ticks bars) (configured : interval ∈ intervals)
    (code exchange session : String) (start : Int) :
    KeyTells (ticksAt ticks code exchange session interval start)
      (barAt bars code exchange session interval start) := by
  rw [barAt]
  cases isText : bucketStartText start with
  | none =>
      change ticksAt ticks code exchange session interval start = []
      rw [List.eq_nil_iff_forall_not_mem]
      intro added isTick
      rw [mem_ticksAt] at isTick
      rcases isTick with ⟨isTick, _, _, _, isBucket⟩
      rcases tell.placed added isTick interval configured with ⟨instant, placed⟩
      rw [isBucket] at placed
      simp [bucketStartText, placed] at isText
  | some text =>
      have same : ticksAt ticks code exchange session interval start =
          ticksIn { code := code, exchange := exchange, session := session,
                    intervalSec := interval, bucketStart := text } ticks := by
        apply List.filter_congr
        intro added _
        have sameStart : bucketEpoch added.epoch interval = start ↔
            bucketStartText (bucketEpoch added.epoch interval) = some text := by
          constructor
          · intro isBucket
            rw [isBucket, isText]
          · intro isBucket
            exact bucketStartText_injective isBucket isText
        exact decide_eq_decide.mpr (and_congr_right fun _ => and_congr_right fun _ =>
          and_congr_right fun _ => sameStart)
      rw [same]
      exact tell.tells _ configured

variable {bar : MinuteBar} {start : Int}

theorem BarTells.exists_tick (tells : BarTells ticks bar) : ∃ added, added ∈ ticks := by
  rcases tells.high.1 with ⟨added, isTick, _⟩
  exact ⟨added, isTick⟩

theorem BarsTell.start_of_mem (tell : BarsTell intervals ticks bars) (isBar : bar ∈ bars.rows) :
    ∃ start, bucketStartText start = some bar.bucketStart ∧
      barAt bars bar.code bar.exchange bar.session bar.intervalSec start = some bar := by
  have found : bars.find? bar.key = some bar := Table.find?_of_mem isBar
  have configured := tell.configured _ _ found
  have tells := tell.tells bar.key configured
  rw [found] at tells
  rcases BarTells.exists_tick tells with ⟨added, isTick⟩
  have isIn : added.IsIn bar.key := by
    simpa using (List.mem_filter.mp isTick).2
  refine ⟨bucketEpoch added.epoch bar.intervalSec, isIn.2.2.2, ?_⟩
  have isText : bucketStartText (bucketEpoch added.epoch bar.intervalSec) =
      some bar.bucketStart := isIn.2.2.2
  rw [barAt, isText]
  exact found

/-- The bars of the minutes of a bucket. -/
def minuteBarsIn (bars : Table MinuteBar) (bar : MinuteBar) (start : Int) : List MinuteBar :=
  (List.range (bar.intervalSec / 60).toNat).filterMap fun minute : ℕ =>
    barAt bars bar.code bar.exchange bar.session 60 (start + 60 * minute)

theorem mem_minuteBarsIn {sub : MinuteBar} :
    sub ∈ minuteBarsIn bars bar start ↔ ∃ minute : ℕ, minute < (bar.intervalSec / 60).toNat ∧
      barAt bars bar.code bar.exchange bar.session 60 (start + 60 * minute) = some sub := by
  simp only [minuteBarsIn, List.mem_filterMap, List.mem_range]

theorem barAt_eq_some {code exchange session : String}
    (isBar : barAt bars code exchange session interval start = some bar) :
    bar ∈ bars.rows ∧ bar.code = code ∧ bar.exchange = exchange ∧ bar.session = session ∧
      bar.intervalSec = interval ∧ bucketStartText start = some bar.bucketStart := by
  rcases Option.bind_eq_some_iff.mp isBar with ⟨text, isText, found⟩
  have isKey : bar.key = _ := Table.key_of_find? found
  simp only [MinuteBar.key, BarKey.mk.injEq] at isKey
  rcases isKey with ⟨isCode, isExchange, isSession, isInterval, isStart⟩
  exact ⟨Table.mem_of_find? found, isCode, isExchange, isSession, isInterval,
    by rw [isText, isStart]⟩

/-! ## A bar and the bars of its minutes -/

def minuteOf (start : Int) (added : BarTick) : ℕ :=
  ((bucketEpoch added.epoch 60 - start) / 60).toNat

theorem ticksAt_minute (positive : 0 < interval) (whole : 60 ∣ interval)
    (aligned : interval ∣ start) (code exchange session : String) {minute : ℕ}
    (within : minute < (interval / 60).toNat) :
    (ticksAt ticks code exchange session interval start).filter
        (fun added => minuteOf start added = minute) =
      ticksAt ticks code exchange session 60 (start + 60 * minute) := by
  have alignedMinute : (60 : Int) ∣ start := whole.trans aligned
  rw [ticksAt, List.filter_filter]
  apply List.filter_congr
  intro added _
  rw [Bool.and_comm, ← Bool.decide_and]
  apply decide_eq_decide.mpr
  rw [and_assoc, and_assoc, and_assoc]
  refine and_congr_right fun _ => and_congr_right fun _ => and_congr_right fun _ => ?_
  rw [bucketEpoch_eq_iff positive, minuteOf, @bucketEpoch_eq_iff _ 60 (start + 60 * minute)
    (by decide)]
  have bounds := (@bucketEpoch_eq_iff added.epoch 60 _ (by decide)).mp rfl
  generalize bucketEpoch added.epoch 60 = first at bounds ⊢
  rcases whole with ⟨minutes, rfl⟩
  rcases alignedMinute with ⟨before, rfl⟩
  rcases bounds with ⟨⟨place, rfl⟩, atLeast, below⟩
  constructor
  · rintro ⟨⟨_, after, before'⟩, isMinute⟩
    exact ⟨by omega, by omega, by omega⟩
  · rintro ⟨_, after, before'⟩
    exact ⟨⟨aligned, by omega, by omega⟩, by omega⟩

theorem minuteOf_lt (positive : 0 < interval) (whole : 60 ∣ interval)
    {code exchange session : String} {added : BarTick}
    (isTick : added ∈ ticksAt ticks code exchange session interval start) :
    minuteOf start added < (interval / 60).toNat := by
  have isBucket := (mem_ticksAt.mp isTick).2.2.2.2
  rw [bucketEpoch_eq_iff positive] at isBucket
  have alignedMinute : (60 : Int) ∣ start := whole.trans isBucket.1
  have bounds := (@bucketEpoch_eq_iff added.epoch 60 _ (by decide)).mp rfl
  rw [minuteOf]
  generalize bucketEpoch added.epoch 60 = first at bounds ⊢
  rcases whole with ⟨minutes, rfl⟩
  rcases alignedMinute with ⟨before, rfl⟩
  rcases bounds with ⟨⟨place, rfl⟩, atLeast, below⟩
  omega

/-- The bar is that of its minutes: the epoch second where it starts, the greatest high and the
least low of them, the sums, and that they are the bars of a minute inside it, each once. -/
structure MadeOfMinutes (bars : Table MinuteBar) (bar : MinuteBar) (start : Int) : Prop where
  isStart : bucketStartText start = some bar.bucketStart
  high : IsGreatest {price | ∃ sub ∈ minuteBarsIn bars bar start, sub.high = price} bar.high
  low : IsLeast {price | ∃ sub ∈ minuteBarsIn bars bar start, sub.low = price} bar.low
  volumeDelta : ((minuteBarsIn bars bar start).map MinuteBar.volumeDelta).sum = bar.volumeDelta
  tradeValueDelta :
    ((minuteBarsIn bars bar start).map MinuteBar.tradeValueDelta).sum = bar.tradeValueDelta
  tickCount : ((minuteBarsIn bars bar start).map MinuteBar.tickCount).sum = bar.tickCount
  inside : ∀ sub, sub ∈ minuteBarsIn bars bar start ↔ sub ∈ bars.rows ∧ sub.intervalSec = 60 ∧
    sub.code = bar.code ∧ sub.exchange = bar.exchange ∧ sub.session = bar.session ∧
    ∃ place, bucketStartText place = some sub.bucketStart ∧ start ≤ place ∧
      place < start + bar.intervalSec
  once : (minuteBarsIn bars bar start).Nodup

theorem BarsTell.sum_minutes (tell : BarsTell intervals ticks bars)
    (minute : (60 : Int) ∈ intervals) (positive : 0 < interval) (whole : 60 ∣ interval)
    (isInterval : bar.intervalSec = interval) (aligned : interval ∣ start) {Value : Type}
    [AddCommMonoid Value] (value : BarTick → Value) (total : MinuteBar → Value)
    (totals : ∀ ticks bar, BarTells ticks bar → total bar = (ticks.map value).sum) :
    ((minuteBarsIn bars bar start).map total).sum =
      ((ticksAt ticks bar.code bar.exchange bar.session interval start).map value).sum := by
  rw [minuteBarsIn, sum_filterMap, isInterval,
    ← sum_groups value (minuteOf start) List.nodup_range _ fun added isTick =>
      List.mem_range.mpr (minuteOf_lt positive whole isTick)]
  congr 1
  apply List.map_congr_left
  intro place isPlace
  rw [ticksAt_minute positive whole aligned _ _ _ (List.mem_range.mp isPlace)]
  have tells := tell.at minute bar.code bar.exchange bar.session (start + 60 * place)
  cases found : barAt bars bar.code bar.exchange bar.session 60 (start + 60 * place) with
  | none =>
      rw [found] at tells
      have noTicks : ticksAt ticks bar.code bar.exchange bar.session 60 (start + 60 * place) = [] :=
        tells
      simp [noTicks]
  | some sub =>
      rw [found] at tells
      exact totals _ _ tells

/-- A bar of the minutes inside tells of ticks of the bar, and each tick of the bar is among those
of one of them. -/
theorem BarsTell.minutes_cover (tell : BarsTell intervals ticks bars)
    (minute : (60 : Int) ∈ intervals) (positive : 0 < interval) (whole : 60 ∣ interval)
    (isInterval : bar.intervalSec = interval) (aligned : interval ∣ start) :
    (∀ sub ∈ minuteBarsIn bars bar start, BarTells (ticksIn sub.key ticks) sub) ∧
      (∀ sub ∈ minuteBarsIn bars bar start, ∀ added ∈ ticksIn sub.key ticks,
        added ∈ ticksAt ticks bar.code bar.exchange bar.session interval start) ∧
      ∀ added ∈ ticksAt ticks bar.code bar.exchange bar.session interval start,
        ∃ sub ∈ minuteBarsIn bars bar start, added ∈ ticksIn sub.key ticks := by
  have same : ∀ place : ℕ, ∀ sub,
      barAt bars bar.code bar.exchange bar.session 60 (start + 60 * place) = some sub →
        ticksIn sub.key ticks =
          ticksAt ticks bar.code bar.exchange bar.session 60 (start + 60 * place) := by
    intro place sub foundSub
    rcases barAt_eq_some foundSub with ⟨_, isCode, isExchange, isSession, isMinute, isText⟩
    apply List.filter_congr
    intro added _
    apply decide_eq_decide.mpr
    simp only [MinuteBar.key, isCode, isExchange, isSession, isMinute]
    refine and_congr_right fun _ => and_congr_right fun _ => and_congr_right fun _ => ?_
    constructor
    · intro isBucket
      exact bucketStartText_injective isBucket isText
    · intro isBucket
      rw [isBucket, isText]
  refine ⟨?_, ?_, ?_⟩
  · intro sub isSub
    rcases mem_minuteBarsIn.mp isSub with ⟨place, _, foundSub⟩
    rcases barAt_eq_some foundSub with ⟨isRow, _, _, _, isMinute, _⟩
    have tells := tell.tells sub.key (by
      change sub.intervalSec ∈ intervals
      rw [isMinute]
      exact minute)
    have found : bars.find? sub.key = some sub := Table.find?_of_mem isRow
    rw [found] at tells
    exact tells
  · intro sub isSub added isTick
    rcases mem_minuteBarsIn.mp isSub with ⟨place, within, foundSub⟩
    rw [isInterval] at within
    rw [same place sub foundSub, ← ticksAt_minute positive whole aligned _ _ _ within] at isTick
    exact (List.mem_filter.mp isTick).1
  · intro added isTick
    have within := minuteOf_lt positive whole isTick
    have ofMinute := tell.at minute bar.code bar.exchange bar.session
      (start + 60 * (minuteOf start added : ℕ))
    have own : added ∈ ticksAt ticks bar.code bar.exchange bar.session 60
        (start + 60 * (minuteOf start added : ℕ)) := by
      rw [← ticksAt_minute positive whole aligned _ _ _ within]
      simp [isTick]
    cases foundSub : barAt bars bar.code bar.exchange bar.session 60
        (start + 60 * (minuteOf start added : ℕ)) with
    | none =>
        rw [foundSub] at ofMinute
        have noTicks : _ = [] := ofMinute
        rw [noTicks] at own
        exact absurd own List.not_mem_nil
    | some sub =>
        refine ⟨sub, mem_minuteBarsIn.mpr ⟨minuteOf start added, ?_, foundSub⟩, ?_⟩
        · rw [isInterval]
          exact within
        · rw [same _ sub foundSub]
          exact own

theorem BarsTell.mem_minuteBarsIn_iff (tell : BarsTell intervals ticks bars)
    (positive : 0 < interval) (whole : 60 ∣ interval) (isInterval : bar.intervalSec = interval)
    (aligned : interval ∣ start) (sub : MinuteBar) :
    sub ∈ minuteBarsIn bars bar start ↔ sub ∈ bars.rows ∧ sub.intervalSec = 60 ∧
      sub.code = bar.code ∧ sub.exchange = bar.exchange ∧ sub.session = bar.session ∧
      ∃ place, bucketStartText place = some sub.bucketStart ∧ start ≤ place ∧
        place < start + bar.intervalSec := by
  rw [mem_minuteBarsIn]
  have alignedMinute : (60 : Int) ∣ start := whole.trans aligned
  rcases whole with ⟨minutes, rfl⟩
  constructor
  · rintro ⟨place, within, foundSub⟩
    rcases barAt_eq_some foundSub with ⟨isRow, isCode, isExchange, isSession, isMinute, isText⟩
    exact ⟨isRow, isMinute, isCode, isExchange, isSession, _, isText, by omega, by omega⟩
  · rintro ⟨isRow, isMinute, isCode, isExchange, isSession, place, isText, atLeast, below⟩
    rcases tell.start_of_mem isRow with ⟨own, ownText, found⟩
    have isOwn := bucketStartText_injective isText ownText
    subst isOwn
    have configured : sub.intervalSec ∈ intervals :=
      tell.configured _ _ (Table.find?_of_mem isRow)
    have tells := tell.at configured sub.code sub.exchange sub.session place
    rw [found] at tells
    have tellsSub : BarTells _ sub := tells
    rcases tellsSub.exists_tick with ⟨added, isTick⟩
    have isBucket := (mem_ticksAt.mp isTick).2.2.2.2
    rw [isMinute, bucketEpoch_eq_iff (by decide)] at isBucket
    rcases isBucket with ⟨⟨before, rfl⟩, _, _⟩
    rcases alignedMinute with ⟨first, rfl⟩
    refine ⟨((60 * before - 60 * first) / 60).toNat, by omega, ?_⟩
    have isPlace : 60 * first + 60 * (((60 * before - 60 * first) / 60).toNat : Int) =
        60 * before := by omega
    rw [isPlace, ← isCode, ← isExchange, ← isSession]
    rw [isMinute] at found
    exact found

theorem nodup_minuteBarsIn (bar : MinuteBar) (start : Int) :
    (minuteBarsIn bars bar start).Nodup := by
  apply List.Nodup.filterMap _ List.nodup_range
  intro place other sub isFirst isSecond
  have first := (barAt_eq_some isFirst).2.2.2.2.2
  have second := (barAt_eq_some isSecond).2.2.2.2.2
  have same := bucketStartText_injective first second
  omega

theorem BarsTell.madeOfMinutes (tell : BarsTell intervals ticks bars)
    (minute : (60 : Int) ∈ intervals) (configured : interval ∈ intervals)
    (positive : 0 < interval) (whole : 60 ∣ interval) (isBar : bar ∈ bars.rows)
    (isInterval : bar.intervalSec = interval) :
    ∃ start, interval ∣ start ∧ MadeOfMinutes bars bar start := by
  rcases tell.start_of_mem isBar with ⟨start, isStart, found⟩
  rw [isInterval] at found
  have tells := tell.at configured bar.code bar.exchange bar.session start
  rw [found] at tells
  have tellsBar : BarTells (ticksAt ticks bar.code bar.exchange bar.session interval start) bar :=
    tells
  have aligned : interval ∣ start := by
    rcases tellsBar.exists_tick with ⟨added, isTick⟩
    exact ((bucketEpoch_eq_iff positive).mp (mem_ticksAt.mp isTick).2.2.2.2).1
  rcases tell.minutes_cover minute positive whole isInterval aligned with ⟨parts, within, covers⟩
  refine ⟨start, aligned, isStart, ?_, ?_, ?_, ?_, ?_, ?_, ?_⟩
  · exact isGreatest_parts (fun sub isSub => (parts sub isSub).high) covers within tellsBar.high
  · exact @isGreatest_parts _ ℤᵒᵈ _ _ _ _ _ _ _ (fun sub isSub => (parts sub isSub).low) covers
      within _ tellsBar.low
  · rw [tellsBar.volumeDelta]
    exact tell.sum_minutes minute positive whole isInterval aligned _ _
      fun _ _ tells => tells.volumeDelta
  · rw [tellsBar.tradeValueDelta]
    exact tell.sum_minutes minute positive whole isInterval aligned _ _
      fun _ _ tells => tells.tradeValueDelta
  · rw [tellsBar.tickCount]
    have counts := tell.sum_minutes minute positive whole isInterval aligned (fun _ => (1 : Int))
      MinuteBar.tickCount fun _ _ tells => by simp [tells.tickCount]
    simpa using counts
  · exact tell.mem_minuteBarsIn_iff positive whole isInterval aligned
  · exact nodup_minuteBarsIn bar start

/-- A bar of the minutes lies in exactly one bar of the interval. -/
theorem BarsTell.minute_in_one (tell : BarsTell intervals ticks bars)
    (minute : (60 : Int) ∈ intervals) (configured : interval ∈ intervals) (positive : 0 < interval)
    (whole : 60 ∣ interval) {sub : MinuteBar} (isSub : sub ∈ bars.rows)
    (isMinute : sub.intervalSec = 60) :
    ∃! bar, bar ∈ bars.rows ∧ bar.intervalSec = interval ∧
      ∃ start, bucketStartText start = some bar.bucketStart ∧
        sub ∈ minuteBarsIn bars bar start := by
  rcases tell.start_of_mem isSub with ⟨place, isText, found⟩
  rw [isMinute] at found
  have tells := tell.at minute sub.code sub.exchange sub.session place
  rw [found] at tells
  have tellsSub : BarTells _ sub := tells
  rcases tellsSub.exists_tick with ⟨added, isTick⟩
  rcases mem_ticksAt.mp isTick with ⟨isTaken, isCode, isExchange, isSession, isPlace⟩
  rw [bucketEpoch_eq_iff (by decide)] at isPlace
  generalize isStart : bucketEpoch added.epoch interval = start
  have ofStart := (bucketEpoch_eq_iff positive).mp isStart
  have around : start ≤ place ∧ place < start + interval := by
    have alignedMinute : (60 : Int) ∣ start := whole.trans ofStart.1
    omega
  have ofBar := tell.at configured sub.code sub.exchange sub.session start
  have own : added ∈ ticksAt ticks sub.code sub.exchange sub.session interval start :=
    mem_ticksAt.mpr ⟨isTaken, isCode, isExchange, isSession, isStart⟩
  cases foundBar : barAt bars sub.code sub.exchange sub.session interval start with
  | none =>
      rw [foundBar] at ofBar
      have noTicks : _ = [] := ofBar
      rw [noTicks] at own
      exact absurd own List.not_mem_nil
  | some bar =>
      rcases barAt_eq_some foundBar with
        ⟨isRow, barCode, barExchange, barSession, barInterval, barText⟩
      refine ⟨bar, ⟨isRow, barInterval, start, barText, ?_⟩, ?_⟩
      · rw [tell.mem_minuteBarsIn_iff positive whole barInterval ofStart.1]
        refine ⟨isSub, isMinute, barCode.symm, barExchange.symm, barSession.symm, place, isText,
          around.1, ?_⟩
        rw [barInterval]
        exact around.2
      · rintro other ⟨isOther, otherInterval, begins, otherText, isIn⟩
        rcases tell.madeOfMinutes minute configured positive whole isOther otherInterval with
          ⟨first, aligned, made⟩
        have sameStart := bucketStartText_injective made.isStart otherText
        subst sameStart
        rw [made.inside] at isIn
        rcases isIn with ⟨_, _, sameCode, sameExchange, sameSession, inPlace, inText, low, high⟩
        have samePlace := bucketStartText_injective inText isText
        subst samePlace
        rw [otherInterval] at high
        have ofOther := (@bucketEpoch_eq_iff inPlace interval first positive).mpr
          ⟨aligned, low, high⟩
        have ofOwn := (@bucketEpoch_eq_iff inPlace interval start positive).mpr
          ⟨ofStart.1, around.1, around.2⟩
        have sameFirst : first = start := ofOther.symm.trans ofOwn
        rcases tell.start_of_mem isOther with ⟨again, againText, foundOther⟩
        have sameAgain := bucketStartText_injective againText otherText
        rw [sameAgain, sameFirst, otherInterval, ← sameCode, ← sameExchange, ← sameSession,
          foundBar, Option.some.injEq] at foundOther
        exact foundOther.symm

end Nesting

/-! ## The intervals of the settings -/

theorem normalizeIntervalList_eq_ok {raw intervals : List Int}
    (success : normalizeIntervalList raw = .ok intervals) :
    intervals.Nodup ∧ ∀ interval ∈ intervals, 0 < interval ∧ (60 : Int) ∣ interval := by
  simp only [normalizeIntervalList] at success
  split at success
  · cases success
  · split at success
    · cases success
    · next positive =>
        split at success
        · cases success
        · next aligned =>
            rw [Except.ok.injEq] at success
            rw [success] at positive aligned
            refine ⟨?_, ?_⟩
            · rw [← success]
              exact (List.perm_insertionSort _ _).nodup_iff.mpr (nodup_eraseDups raw)
            · intro interval configured
              simp only [List.any_eq_true, decide_eq_true_eq, not_exists, not_and] at positive
              simp only [List.any_eq_true, decide_eq_true_eq, not_exists, not_and, ne_eq,
                not_not] at aligned
              exact ⟨not_le.mp (positive interval configured),
                Int.dvd_of_emod_eq_zero (aligned interval configured)⟩

def emptyBarTables (market : MarketTables) : BarTables where
  market := market
  bars := .empty

theorem interval_bars_made_of_minutes (host : Host) (raw intervals : List Int)
    (isList : normalizeIntervalList raw = .ok intervals) (minute : (60 : Int) ∈ intervals)
    (interval : Int) (configured : interval ∈ intervals) (market : MarketTables)
    (ops : List BarOp) :
    let bars := (barsAfter host intervals (emptyBarTables market) ops).bars
    (∀ bar ∈ bars.rows, bar.intervalSec = interval → ∃ start, MadeOfMinutes bars bar start) ∧
      ∀ sub ∈ bars.rows, sub.intervalSec = 60 → ∃! bar, bar ∈ bars.rows ∧
        bar.intervalSec = interval ∧
          ∃ start, bucketStartText start = some bar.bucketStart ∧
            sub ∈ minuteBarsIn bars bar start := by
  rcases normalizeIntervalList_eq_ok isList with ⟨distinct, whole⟩
  have start : BarsTell intervals [] (emptyBarTables market).bars := barsTell_empty intervals
  have tell := start.run distinct host ops
  rcases whole interval configured with ⟨positive, aligned⟩
  refine ⟨?_, ?_⟩
  · intro bar isBar isInterval
    rcases tell.madeOfMinutes minute configured positive aligned isBar isInterval with
      ⟨start, _, made⟩
    exact ⟨start, made⟩
  · intro sub isSub isMinute
    exact tell.minute_in_one minute configured positive aligned isSub isMinute

/-! ## Two minutes of three -/

/-- A tick of ten shares, so many seconds into the calendar. -/
def tickOfSecond (eventId : String) (second : Nat) : ProjectedEvent where
  eventId := eventId
  eventType := "price_tick"
  source := "kiwoom"
  ts := second * Time.microsPerSecond
  payload := [("code", .str "005930"), ("name", .str "Samsung"), ("price", .int 70000),
    ("change_rate", .int 0), ("volume", .int 10), ("trade_value", .int 100),
    ("execution_strength", .int 100), ("best_bid", .int 70000), ("best_ask", .int 70000),
    ("spread_ticks", .int 0), ("day_high", .int 70000), ("day_low", .int 70000),
    ("trade_time", .str (datetimeToWire (second * Time.microsPerSecond)))]

def twoMinutes : List BarOp :=
  [.tick (tickOfSecond "tick-1" 63900000000) noReadings,
    .tick (tickOfSecond "tick-2" 63900000090) noReadings]

theorem twoMinutes_bars :
    (barsAfter wholeNumberHost [60, 180] (emptyBarTables emptyMarketTables)
      twoMinutes).bars.rows.map (fun bar => (bar.intervalSec, bar.tickCount)) =
        [(60, 1), (180, 2), (60, 1)] := by
  decide +kernel

theorem twoMinutes_nested :
    let bars :=
      (barsAfter wholeNumberHost [60, 180] (emptyBarTables emptyMarketTables) twoMinutes).bars
    ∃ bar ∈ bars.rows, bar.tickCount = 2 ∧ ∃ start, MadeOfMinutes bars bar start := by
  have isList : normalizeIntervalList [180, 60] = .ok [60, 180] := by
    rfl
  have nested := (interval_bars_made_of_minutes wholeNumberHost [180, 60] [60, 180] isList
    (by decide) 180 (by decide) emptyMarketTables twoMinutes).1
  have listed : ((180 : Int), (2 : Int)) ∈
      (barsAfter wholeNumberHost [60, 180] (emptyBarTables emptyMarketTables)
        twoMinutes).bars.rows.map fun bar => (bar.intervalSec, bar.tickCount) := by
    rw [twoMinutes_bars]
    decide
  rcases List.mem_map.mp listed with ⟨bar, isBar, same⟩
  rw [Prod.mk.injEq] at same
  exact ⟨bar, isBar, same.2, nested bar isBar same.1⟩

end SuseokTrader
