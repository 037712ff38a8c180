import SuseokTrader.LiveSim.ExitPolicy
import SuseokTrader.LiveSim.OrderStatus

/-!
# One position after the other

An evaluation that raises ends the loop, and the signals of the positions
before it are lost as well. The others are evaluated as if a bad position were
absent exactly when no bad position is among those the request selects.
-/

namespace SuseokTrader

/-! ## Bad positions -/

variable (readings : ExitReadings)

/-- The position is one that the evaluation fails for. -/
def raises (tables : LiveSimTables) (position : LiveSimPosition) : Bool :=
  !(evaluatePosition readings (tables, []) position).isOk

def withoutRaising (tables : LiveSimTables) : LiveSimTables :=
  { tables with positions := tables.positions.deleteWhere (raises readings tables) }

/-- The signals are those without the bad positions, and the others are marked as without them. -/
structure EvaluatesOthers (readings : ExitReadings) (tables : LiveSimTables)
    (request : ExitEvaluationRequest) : Prop where
  signals : (evaluateLiveSimExitSignals readings tables request).map Prod.snd =
    (evaluateLiveSimExitSignals readings (withoutRaising readings tables) request).map Prod.snd
  marks : ∀ position ∈ tables.positions.rows, raises readings tables position = false →
    (evaluateLiveSimExitSignals readings tables request).map
        (fun result => result.1.positions.find? position.positionId) =
      (evaluateLiveSimExitSignals readings (withoutRaising readings tables) request).map
        (fun result => result.1.positions.find? position.positionId)

/-- The policy can be asked at the tick: prices are positive, and the position is not opened after
the time it is looked at. -/
structure Askable (readings : ExitReadings) (position : LiveSimPosition) (tick : ExitTick) :
    Prop where
  entry : 0 < position.avgEntryPrice
  current : 0 < tick.price
  shares : 0 < position.quantity
  opened : ∃ openedAt, openedInstant position (readings.clock position.positionId) = .ok openedAt ∧
    openedAt ≤ readings.clock position.positionId
  policy : readings.policy.Valid

/-- The code is one, the time of its tick can be read, and the policy can be asked while the tick
is fresh. -/
def Evaluable (position : LiveSimPosition) : Prop :=
  ∃ code, validateStockCode (.str position.code) = .ok code ∧
    ∀ tick, readings.latestTick code = some tick →
      ∃ eventAt, parseTimestamp (.str tick.eventTs) "event_ts" = .ok eventAt ∧
        (readings.clock position.positionId - eventAt ≤
            readings.policy.staleTickSec * Time.microsPerSecond →
          Askable readings position tick)

/-! ## One position -/

variable {readings : ExitReadings} {tables : LiveSimTables} {request : ExitEvaluationRequest}
  {position : LiveSimPosition} {state : LiveSimTables × List ExitSignalDraft}

theorem exitPolicyConfig_ok {settings : ExitPolicySettings} :
    (∃ config, exitPolicyConfig settings = .ok config) ↔ settings.Valid := by
  constructor
  · rintro ⟨config, made⟩
    unfold exitPolicyConfig at made
    split_ifs at made with stopLoss takeProfit trailing activation maximum holds
    any_goals cases made
    exact ⟨not_le.mp stopLoss, not_le.mp takeProfit, not_le.mp trailing, not_lt.mp activation,
      not_lt.mp maximum, not_lt.mp holds⟩
  · rintro ⟨stopLoss, takeProfit, trailing, activation, maximum, holds⟩
    simp [exitPolicyConfig, not_le.mpr stopLoss, not_le.mpr takeProfit, not_le.mpr trailing,
      not_lt.mpr activation, Nat.ne_of_gt maximum, not_lt.mpr holds]

theorem longPositionSnapshot_ok {entryPrice currentPrice highestPrice : Rat} {quantity : Int}
    {openedAt : Checked Instant} {observedAt : Instant} :
    (∃ snapshot, longPositionSnapshot entryPrice currentPrice highestPrice quantity openedAt
        observedAt = .ok snapshot) ↔
      (0 < entryPrice ∧ 0 < currentPrice ∧ 0 < highestPrice) ∧ 0 < quantity ∧
        ∃ opened, openedAt = .ok opened ∧ opened ≤ observedAt := by
  unfold longPositionSnapshot
  constructor
  · rintro ⟨snapshot, made⟩
    split_ifs at made with prices noShares
    · cases made
    · cases made
    · simp only [not_or, not_le] at prices
      cases openedAt with
      | error failure => cases made
      | ok opened =>
          dsimp only at made
          split_ifs at made with early
          · cases made
          · exact ⟨prices, not_le.mp noShares, opened, rfl, not_lt.mp early⟩
  · rintro ⟨⟨entry, current, highest⟩, shares, opened, rfl, late⟩
    have prices : ¬ (entryPrice ≤ 0 ∨ currentPrice ≤ 0 ∨ highestPrice ≤ 0) := by
      simp [entry, current, highest]
    simp [prices, not_le.mpr shares, not_lt.mpr late]

variable {tick : ExitTick} {positions selected : List LiveSimPosition}

theorem askPolicy_ok {eventAt now : Instant} :
    (∃ result, askPolicy readings state position tick eventAt now = .ok result) ↔
      (now - eventAt ≤ readings.policy.staleTickSec * Time.microsPerSecond →
        (0 < position.avgEntryPrice ∧ 0 < tick.price ∧
          0 < priceOr position.highestPrice tick.price) ∧ 0 < position.quantity ∧
        (∃ opened, openedInstant position now = .ok opened ∧ opened ≤ now) ∧
        readings.policy.Valid) := by
  unfold askPolicy
  split
  · next stale =>
      simp only [not_le.mpr stale, false_implies, iff_true]
      exact ⟨_, rfl⟩
  · next fresh =>
      simp only [not_lt.mp fresh, true_implies]
      constructor
      · rintro ⟨result, done⟩
        rcases Checked.bind_eq_ok.mp done with ⟨snapshot, made, done⟩
        rcases Checked.bind_eq_ok.mp done with ⟨config, isConfig, -⟩
        rcases longPositionSnapshot_ok.mp ⟨snapshot, made⟩ with ⟨prices, shares, opened⟩
        exact ⟨prices, shares, opened, exitPolicyConfig_ok.mp ⟨config, isConfig⟩⟩
      · rintro ⟨prices, shares, opened, valid⟩
        rcases longPositionSnapshot_ok.mpr ⟨prices, shares, opened⟩ with ⟨snapshot, made⟩
        rcases exitPolicyConfig_ok.mpr valid with ⟨config, isConfig⟩
        rw [made, isConfig]
        exact ⟨_, rfl⟩

/-- What the policy reads of a row is as it was, but for the highest price, which is positive once
the row is marked. -/
structure SameTerms (row position : LiveSimPosition) : Prop where
  entry : row.avgEntryPrice = position.avgEntryPrice
  shares : row.quantity = position.quantity
  opened : row.openedAt = position.openedAt

def Holds (tables : LiveSimTables) (positions : List LiveSimPosition) : Prop :=
  ∀ position ∈ positions, Stripped position.positionId ∧
    ∃ row, tables.positions.find? position.positionId = some row ∧ SameTerms row position

theorem find?_markRow (positionId : String) (tick : ExitTick) (now : Instant) (other : String) :
    (markRow readings tables positionId tick now).positions.find? other =
      (tables.positions.find? other).map fun row =>
        if row.positionId = positionId then markPositionToMarket readings tick now row
        else row := by
  have updated := tables.positions.find?_updateWhere
    (fun row => decide (Keyed.key row = positionId)) (markPositionToMarket readings tick now)
    (fun _ => rfl) other
  simp only [decide_eq_true_eq] at updated
  exact updated

theorem Holds.marked (holds : Holds tables positions) (positionId : String) (tick : ExitTick)
    (now : Instant) :
    Holds (markRow readings tables positionId tick now) positions := by
  intro position present
  rcases holds position present with ⟨plain, row, found, same⟩
  refine ⟨plain, ?_⟩
  rw [find?_markRow, found]
  refine ⟨_, rfl, ?_⟩
  beta_reduce
  split
  · exact ⟨same.entry, same.shares, same.opened⟩
  · exact same

theorem requireNonEmptyStr_of_stripped {text : String} (plain : Stripped text)
    (fieldName : String) : requireNonEmptyStr (.str text) fieldName = .ok text := by
  rw [requireNonEmptyStr, plain.strip_eq, if_neg plain.ne_empty]

theorem highest_of_markRow {row : LiveSimPosition} {now : Instant}
    (found : (markRow readings tables position.positionId tick now).positions.find?
      position.positionId = some row) :
    row.highestPrice = some (max (priceOr (tables.positions.find? position.positionId >>=
      LiveSimPosition.highestPrice) tick.price) tick.price) := by
  rw [find?_markRow, Option.map_eq_some_iff] at found
  rcases found with ⟨before, isBefore, rfl⟩
  have isKey : before.positionId = position.positionId := Table.key_of_find? isBefore
  rw [if_pos isKey, isBefore]
  rfl

theorem evaluatePosition_of_tick {code : String} {eventAt : Instant}
    (coded : validateStockCode (.str position.code) = .ok code)
    (ticked : readings.latestTick code = some tick)
    (read : parseTimestamp (.str tick.eventTs) "event_ts" = .ok eventAt)
    (plain : Stripped position.positionId) :
    evaluatePosition readings state position =
      askPolicy readings
        (markRow readings state.1 position.positionId tick (readings.clock position.positionId),
          state.2)
        (((markRow readings state.1 position.positionId tick
          (readings.clock position.positionId)).positions.find? position.positionId).getD position)
        tick eventAt (readings.clock position.positionId) := by
  rw [evaluatePosition, coded]
  simp only [bind, Except.bind, ticked, read, requireNonEmptyStr_of_stripped plain]

theorem askPolicy_marked (holds : Holds state.1 positions) (present : position ∈ positions)
    (tick : ExitTick) (eventAt : Instant) :
    (∃ result, askPolicy readings
        (markRow readings state.1 position.positionId tick (readings.clock position.positionId),
          state.2)
        (((markRow readings state.1 position.positionId tick
          (readings.clock position.positionId)).positions.find? position.positionId).getD position)
        tick eventAt (readings.clock position.positionId) = .ok result) ↔
      (readings.clock position.positionId - eventAt ≤
        readings.policy.staleTickSec * Time.microsPerSecond →
          Askable readings position tick) := by
  have marked := @Holds.marked readings _ _ holds position.positionId tick
    (readings.clock position.positionId)
  rcases marked position present with ⟨_, row, found, same⟩
  have highest := highest_of_markRow found
  rw [found, Option.getD_some, askPolicy_ok]
  apply imp_congr_right
  intro _
  rw [highest, same.entry, same.shares]
  have sameOpened : openedInstant row (readings.clock position.positionId) =
      openedInstant position (readings.clock position.positionId) := by
    rw [openedInstant, openedInstant, same.opened]
  rw [sameOpened]
  constructor
  · rintro ⟨⟨entry, current, -⟩, shares, opened, valid⟩
    exact ⟨entry, current, shares, opened, valid⟩
  · rintro ⟨entry, current, shares, opened, valid⟩
    refine ⟨⟨entry, current, ?_⟩, shares, opened, valid⟩
    have positive := lt_of_lt_of_le current (le_max_right (priceOr
      (state.1.positions.find? position.positionId >>= LiveSimPosition.highestPrice) tick.price)
      tick.price)
    rw [priceOr, if_neg (ne_of_gt positive)]
    exact positive

theorem evaluatePosition_ok (holds : Holds state.1 positions) (present : position ∈ positions) :
    (∃ result, evaluatePosition readings state position = .ok result) ↔
      Evaluable readings position := by
  have plain := (holds position present).1
  constructor
  · rintro ⟨result, done⟩
    rcases Checked.bind_eq_ok.mp done with ⟨code, coded, looked⟩
    refine ⟨code, coded, ?_⟩
    intro tick ticked
    rw [ticked] at looked
    rcases Checked.bind_eq_ok.mp looked with ⟨eventAt, read, _⟩
    rw [evaluatePosition_of_tick coded ticked read plain] at done
    exact ⟨eventAt, read, (askPolicy_marked holds present tick eventAt).mp ⟨result, done⟩⟩
  · rintro ⟨code, coded, evaluable⟩
    cases ticked : readings.latestTick code with
    | none =>
        rw [evaluatePosition, coded]
        exact ⟨state, by simp [bind, Except.bind, ticked, pure, Except.pure]⟩
    | some tick =>
        rcases evaluable tick ticked with ⟨eventAt, read, askable⟩
        rcases (askPolicy_marked holds present tick eventAt).mpr askable with ⟨result, done⟩
        exact ⟨result, (evaluatePosition_of_tick coded ticked read plain).trans done⟩

/-! ## Loops -/

theorem Holds.evaluated (holds : Holds state.1 positions)
    {result : LiveSimTables × List ExitSignalDraft}
    (done : evaluatePosition readings state position = .ok result) : Holds result.1 positions := by
  rcases Checked.bind_eq_ok.mp done with ⟨code, _, done⟩
  cases ticked : readings.latestTick code with
  | none =>
      rw [ticked] at done
      cases done
      exact holds
  | some tick =>
      rw [ticked] at done
      rcases Checked.bind_eq_ok.mp done with ⟨eventAt, _, done⟩
      rcases Checked.bind_eq_ok.mp done with ⟨positionId, _, done⟩
      have marked := @Holds.marked readings _ _ holds position.positionId tick
        (readings.clock position.positionId)
      unfold askPolicy at done
      split at done
      · cases done
        exact marked
      · rcases Checked.bind_eq_ok.mp done with ⟨snapshot, _, done⟩
        rcases Checked.bind_eq_ok.mp done with ⟨config, _, done⟩
        cases done
        exact marked

theorem evaluations_ok (holds : Holds state.1 positions)
    (inside : ∀ position ∈ selected, position ∈ positions) :
    (∃ result, selected.foldlM (evaluatePosition readings) state = .ok result) ↔
      ∀ position ∈ selected, Evaluable readings position := by
  induction selected generalizing state with
  | nil => exact ⟨fun _ _ present => absurd present List.not_mem_nil, fun _ => ⟨state, rfl⟩⟩
  | cons position selected ih =>
      rcases List.forall_mem_cons.mp inside with ⟨first, rest⟩
      have here := @evaluatePosition_ok readings position state positions holds first
      rw [List.forall_mem_cons]
      constructor
      · rintro ⟨result, done⟩
        rcases Checked.bind_eq_ok.mp done with ⟨next, isNext, later⟩
        exact ⟨here.mp ⟨next, isNext⟩, (ih (holds.evaluated isNext) rest).mp ⟨result, later⟩⟩
      · rintro ⟨evaluable, later⟩
        rcases here.mpr evaluable with ⟨next, isNext⟩
        rcases (ih (holds.evaluated isNext) rest).mpr later with ⟨result, done⟩
        exact ⟨result, Checked.bind_eq_ok.mpr ⟨next, isNext, done⟩⟩

structure Agree (ids : Set String) (first second : LiveSimTables) : Prop where
  signals : first.exitSignals = second.exitSignals
  intents : first.exitIntents = second.exitIntents
  positions : ∀ positionId ∈ ids,
    first.positions.find? positionId = second.positions.find? positionId

def Alike (ids : Set String) : Checked (LiveSimTables × List ExitSignalDraft) →
    Checked (LiveSimTables × List ExitSignalDraft) → Prop
  | .ok first, .ok second => Agree ids first.1 second.1 ∧ first.2 = second.2
  | .error first, .error second => first = second
  | _, _ => False

variable {ids : Set String} {first second : LiveSimTables} {drafts : List ExitSignalDraft}

theorem Agree.asked (agree : Agree ids first second) (tick : ExitTick)
    (eventAt now : Instant) :
    Alike ids (askPolicy readings (first, drafts) position tick eventAt now)
      (askPolicy readings (second, drafts) position tick eventAt now) := by
  have active : first.activeExitForPosition position.positionId =
      second.activeExitForPosition position.positionId := by
    rw [LiveSimTables.activeExitForPosition, LiveSimTables.activeExitIntentForPosition,
      agree.signals, agree.intents]
    rfl
  have sameDraft : exitSignalDraft first position = exitSignalDraft second position := by
    funext trigger
    rw [exitSignalDraft, exitSignalDraft, active]
  unfold askPolicy
  split
  · exact ⟨agree, rfl⟩
  · cases longPositionSnapshot position.avgEntryPrice tick.price
        (priceOr position.highestPrice tick.price) position.quantity
        (openedInstant position now) now with
    | error failure => exact rfl
    | ok snapshot =>
        cases exitPolicyConfig readings.policy with
        | error failure => exact rfl
        | ok config =>
            refine ⟨agree, ?_⟩
            simp only [sameDraft]

theorem Agree.evaluated (agree : Agree ids first second)
    (isOne : position.positionId ∈ ids) (plain : Stripped position.positionId) :
    Alike ids (evaluatePosition readings (first, drafts) position)
      (evaluatePosition readings (second, drafts) position) := by
  unfold evaluatePosition
  cases validateStockCode (.str position.code) with
  | error failure => exact rfl
  | ok code =>
      simp only [bind, Except.bind]
      cases readings.latestTick code with
      | none => exact ⟨agree, rfl⟩
      | some tick =>
          dsimp only
          cases parseTimestamp (.str tick.eventTs) "event_ts" with
          | error failure => exact rfl
          | ok eventAt =>
              have moved : Agree ids
                  (markRow readings first position.positionId tick
                    (readings.clock position.positionId))
                  (markRow readings second position.positionId tick
                    (readings.clock position.positionId)) := by
                refine ⟨agree.signals, agree.intents, ?_⟩
                intro other isOther
                rw [find?_markRow, find?_markRow, agree.positions other isOther]
              rw [requireNonEmptyStr_of_stripped plain]
              simp only [moved.positions _ isOne]
              exact moved.asked tick eventAt _

theorem Agree.evaluations (agree : Agree ids first second)
    (inside : ∀ position ∈ selected, position.positionId ∈ ids ∧ Stripped position.positionId) :
    Alike ids (selected.foldlM (evaluatePosition readings) (first, drafts))
      (selected.foldlM (evaluatePosition readings) (second, drafts)) := by
  induction selected generalizing first second drafts with
  | nil => exact ⟨agree, rfl⟩
  | cons position selected ih =>
      rcases List.forall_mem_cons.mp inside with ⟨here, rest⟩
      have alike := @Agree.evaluated readings position ids first second drafts agree here.1
        here.2
      rw [List.foldlM_cons, List.foldlM_cons]
      cases isFirst : evaluatePosition readings (first, drafts) position with
      | error failure =>
          cases isSecond : evaluatePosition readings (second, drafts) position with
          | error other =>
              rw [isFirst, isSecond] at alike
              exact alike
          | ok result =>
              rw [isFirst, isSecond] at alike
              exact alike.elim
      | ok result =>
          cases isSecond : evaluatePosition readings (second, drafts) position with
          | error other =>
              rw [isFirst, isSecond] at alike
              exact alike.elim
          | ok other =>
              rw [isFirst, isSecond] at alike
              rcases result with ⟨tables, signals⟩
              rcases other with ⟨others, otherSignals⟩
              rcases alike with ⟨agrees, same⟩
              cases same
              exact ih agrees rest

section Alike

variable {whole rest : Checked (LiveSimTables × List ExitSignalDraft)}

theorem Alike.signals (alike : Alike ids whole rest) :
    whole.map Prod.snd = rest.map Prod.snd := by
  cases whole with
  | error failure =>
      cases rest with
      | error other => exact congrArg Except.error alike
      | ok other => exact alike.elim
  | ok result =>
      cases rest with
      | error other => exact alike.elim
      | ok other => exact congrArg Except.ok alike.2

theorem Alike.marks (alike : Alike ids whole rest) {positionId : String}
    (isOne : positionId ∈ ids) :
    whole.map (fun result => result.1.positions.find? positionId) =
      rest.map fun result => result.1.positions.find? positionId := by
  cases whole with
  | error failure =>
      cases rest with
      | error other => exact congrArg Except.error alike
      | ok other => exact alike.elim
  | ok result =>
      cases rest with
      | error other => exact alike.elim
      | ok other => exact congrArg Except.ok (alike.1.positions positionId isOne)

end Alike

/-! ## Evaluations -/

theorem selectedPositions_cases (request : ExitEvaluationRequest) :
    (∃ failure, ∀ tables, selectedPositions tables request = .error failure) ∨
    ∃ isAsked : LiveSimPosition → Bool, ∀ tables, selectedPositions tables request =
      .ok (((tables.positions.rows.filter isAsked).insertionSort fun left right =>
        (openedOrder left right).isLE).take (selectionLimit request.limit)) := by
  unfold selectedPositions
  cases request.positionId.mapM fun text => requireNonEmptyStr (.str text) "position_id" with
  | error failure => exact Or.inl ⟨failure, fun _ => rfl⟩
  | ok positionId =>
      cases request.code.mapM fun text => validateStockCode (.str text) with
      | error failure => exact Or.inl ⟨failure, fun _ => rfl⟩
      | ok code => exact Or.inr ⟨_, fun _ => rfl⟩

theorem mem_of_selectedPositions (selects : selectedPositions tables request = .ok selected)
    (present : position ∈ selected) :
    position ∈ tables.positions.rows := by
  rcases selectedPositions_cases request with ⟨failure, fails⟩ | ⟨isAsked, all⟩
  · rw [fails] at selects
    cases selects
  · rw [all, Except.ok.injEq] at selects
    subst selects
    have sorted := List.mem_of_mem_take present
    rw [List.mem_insertionSort] at sorted
    exact List.mem_of_mem_filter sorted

theorem openedOrder_eq : openedOrder =
    compareLex (compareOn LiveSimPosition.openedAt) (compareOn LiveSimPosition.positionId) :=
  rfl

theorem openedOrder_total (left right : LiveSimPosition) :
    (openedOrder left right).isLE = true ∨ (openedOrder right left).isLE = true := by
  have swap : openedOrder right left = (openedOrder left right).swap := by
    rw [openedOrder_eq]
    exact Std.OrientedCmp.eq_swap
  rw [swap]
  cases openedOrder left right <;> simp

theorem openedOrder_trans (left middle right : LiveSimPosition)
    (before : (openedOrder left middle).isLE = true)
    (after : (openedOrder middle right).isLE = true) : (openedOrder left right).isLE = true := by
  rw [openedOrder_eq] at *
  exact Std.TransCmp.isLE_trans before after

theorem selection_without {isAsked isGood : LiveSimPosition → Bool} {rows : List LiveSimPosition}
    {limit : Nat}
    (good : ∀ position ∈ ((rows.filter isAsked).insertionSort fun left right =>
      (openedOrder left right).isLE).take limit, isGood position = true) :
    (((rows.filter isGood).filter isAsked).insertionSort fun left right =>
        (openedOrder left right).isLE).take limit =
      ((rows.filter isAsked).insertionSort fun left right =>
        (openedOrder left right).isLE).take limit := by
  have swapped : (rows.filter isGood).filter isAsked = (rows.filter isAsked).filter isGood := by
    rw [List.filter_filter, List.filter_filter]
    exact List.filter_congr fun _ _ => Bool.and_comm _ _
  rw [swapped, ← filter_insertionSort openedOrder_total openedOrder_trans]
  exact take_filter_of_forall good

theorem holds_of_plain (plain : ∀ position ∈ tables.positions.rows, Stripped position.positionId) :
    Holds tables tables.positions.rows := fun position present =>
  ⟨plain position present, position, Table.find?_of_mem present, rfl, rfl, rfl⟩

theorem raises_eq_false
    (plain : ∀ position ∈ tables.positions.rows, Stripped position.positionId)
    (present : position ∈ tables.positions.rows) :
    raises readings tables position = false ↔ Evaluable readings position := by
  have here := @evaluatePosition_ok readings position (tables, []) _ (holds_of_plain plain) present
  rw [← here, raises]
  cases evaluatePosition readings (tables, []) position with
  | error failure => simp [Except.toBool]
  | ok result => simp [Except.toBool]

theorem agree_without : Agree {positionId | ∃ position ∈ tables.positions.rows,
      position.positionId = positionId ∧ raises readings tables position = false} tables
    (withoutRaising readings tables) := by
  refine ⟨rfl, rfl, ?_⟩
  rintro _ ⟨position, present, rfl, good⟩
  have found : tables.positions.find? position.positionId = some position :=
    Table.find?_of_mem present
  refine found.trans (Eq.symm ((Table.find?_deleteWhere _ _ _).trans ?_))
  rw [found, Option.filter_some, good]
  rfl

/-- The other positions are evaluated as without the bad ones exactly when the request selects
none of the bad ones. -/
theorem evaluates_others_iff
    (plain : ∀ position ∈ tables.positions.rows, Stripped position.positionId) :
    EvaluatesOthers readings tables request ↔
      ∀ selected, selectedPositions tables request = .ok selected →
        ∀ position ∈ selected, Evaluable readings position := by
  have holds := holds_of_plain plain
  rcases selectedPositions_cases request with ⟨failure, fails⟩ | ⟨isAsked, selects⟩
  · have same : ∀ tables, evaluateLiveSimExitSignals readings tables request = .error failure := by
      intro tables
      rw [evaluateLiveSimExitSignals, fails]
      rfl
    constructor
    · intro _ selected isSelected
      rw [fails] at isSelected
      cases isSelected
    · intro _
      constructor
      · rw [same, same]
      · intro position _ _
        rw [same, same]
  · have evaluation : ∀ tables, evaluateLiveSimExitSignals readings tables request =
        (((tables.positions.rows.filter isAsked).insertionSort fun left right =>
          (openedOrder left right).isLE).take (selectionLimit request.limit)).foldlM
            (evaluatePosition readings) (tables, []) := by
      intro tables
      rw [evaluateLiveSimExitSignals, selects]
      rfl
    have inside : ∀ tables : LiveSimTables, ∀ position ∈ ((tables.positions.rows.filter
        isAsked).insertionSort fun left right => (openedOrder left right).isLE).take
          (selectionLimit request.limit), position ∈ tables.positions.rows :=
      fun tables _ present => mem_of_selectedPositions (selects tables) present
    constructor
    · intro others selected isSelected
      rw [selects, Except.ok.injEq] at isSelected
      subst isSelected
      have clean : ∀ position ∈ (withoutRaising readings tables).positions.rows,
          position ∈ tables.positions.rows ∧ Evaluable readings position := by
        intro position present
        rw [withoutRaising, Table.deleteWhere, List.mem_filter] at present
        exact ⟨present.1, (raises_eq_false plain present.1).mp (by simpa using present.2)⟩
      have cleanHolds := holds_of_plain fun position present =>
        plain position (clean position present).1
      rcases (@evaluations_ok _ (withoutRaising readings tables, []) _ _ cleanHolds
        (inside _)).mpr fun position present => (clean position (inside _ position present)).2 with
        ⟨result, done⟩
      have signals := others.signals
      rw [evaluation (withoutRaising readings tables), done, evaluation tables] at signals
      apply (@evaluations_ok _ (tables, []) _ _ holds (inside tables)).mp
      cases ended : (((tables.positions.rows.filter isAsked).insertionSort fun left right =>
          (openedOrder left right).isLE).take (selectionLimit request.limit)).foldlM
            (evaluatePosition readings) (tables, []) with
      | error failure =>
          rw [ended] at signals
          cases signals
      | ok result => exact ⟨result, rfl⟩
    · intro evaluable
      have good : ∀ position ∈ ((tables.positions.rows.filter isAsked).insertionSort
          fun left right => (openedOrder left right).isLE).take (selectionLimit request.limit),
            raises readings tables position = false := fun position present =>
        (raises_eq_false plain (inside tables position present)).mpr
          (evaluable _ (selects tables) position present)
      have same : (((withoutRaising readings tables).positions.rows.filter isAsked).insertionSort
          fun left right => (openedOrder left right).isLE).take (selectionLimit request.limit) =
            ((tables.positions.rows.filter isAsked).insertionSort fun left right =>
              (openedOrder left right).isLE).take (selectionLimit request.limit) := by
        apply selection_without
        intro position present
        rw [good position present]
        rfl
      have alike := @Agree.evaluations readings _ _ _ _ [] agree_without
        fun position present => ⟨⟨position, inside tables position present, rfl,
          good position present⟩, plain position (inside tables position present)⟩
      rw [← evaluation tables] at alike
      rw [← same, ← evaluation (withoutRaising readings tables)] at alike
      exact ⟨alike.signals, fun position present isGood =>
        alike.marks ⟨position, present, rfl, isGood⟩⟩

/-! ## Two positions -/

/-- Ten shares at a price of 1000, opened at the time. -/
def heldSince (positionId code openedAt : String) : LiveSimPosition where
  positionId := positionId
  accountId := "1"
  tradeDate := "2026-07-17"
  code := code
  name := code
  quantity := 10
  availableQuantity := 10
  avgEntryPrice := 1000
  totalEntryNotional := 10000
  realizedPnl := 0
  unrealizedPnl := 0
  highestPrice := some 1000
  lowestPrice := some 1000
  openedAt := openedAt
  closedAt := none
  lastPrice := some 1000
  lastPriceAt := some openedAt
  status := .opened
  sourceLiveSimOrderId := "o"
  sourceLiveSimIntentId := "i"
  updatedAt := openedAt

def heldPositions (openedAt : String) : LiveSimTables :=
  { LiveSimTables.empty with
    positions := ⟨[heldSince "p1" "000001" "2026-07-17T00:59:00Z",
      heldSince "p2" "000002" openedAt], by simp [heldSince, Keyed.key]⟩ }

/-- At one in the morning every code has fallen by a tenth. -/
def fallenMarket : ExitReadings where
  settings := sampleLiveSimSettings
  policy := ⟨15, 3, 5, 2, 5 / 2, 30, 1800, true, 54900000000⟩
  latestTick := fun _ => some ⟨900, "2026-07-17T01:00:00Z"⟩
  clock := fun _ => 63919846800000000

theorem evaluates_others_earlier :
    EvaluatesOthers fallenMarket (heldPositions "2026-07-17T00:59:30Z") ⟨none, none, none⟩ := by
  have plain : ∀ position ∈ (heldPositions "2026-07-17T00:59:30Z").positions.rows,
      Stripped position.positionId := by decide +kernel
  have good : ∀ position ∈ (heldPositions "2026-07-17T00:59:30Z").positions.rows,
      raises fallenMarket (heldPositions "2026-07-17T00:59:30Z") position = false := by
    decide +kernel
  refine (evaluates_others_iff plain).mpr ?_
  intro selected isSelected position present
  have inside := mem_of_selectedPositions isSelected present
  exact (raises_eq_false plain inside).mp (good position inside)

/-- The broker's clock is a second ahead for one position, so the other is not sold at its stop. -/
theorem position_from_the_future_stops_the_others :
    ¬ EvaluatesOthers fallenMarket (heldPositions "2026-07-17T01:00:01Z") ⟨none, none, none⟩ := by
  intro others
  have same := congrArg (fun signals => signals.toOption.map List.length) others.signals
  revert same
  decide +kernel

end SuseokTrader
