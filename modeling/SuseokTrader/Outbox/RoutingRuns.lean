import SuseokTrader.Lib.Counting
import SuseokTrader.Outbox.Routing

/-!
# Skips over a run

Decisions of any number of threads run beside the workers on the outbox. Four
things should hold of the skips: each is stored while a worker can still take
the job, no minute has more of them than configured, none is taken back before
the projection has its rows, and no two scans are skipped at once.

They hold along every run in which what a decision read still holds where it is
stored, the job it read is not done with, and its minute is the one it counted.
-/

namespace SuseokTrader

/-! ## What should hold of the skips -/

variable (state : RoutingState)

def RoutingState.decisionsOf (projectionName : String) :
    Table RoutingRow :=
  if projectionName = "market_scan" then state.scanDecisions else state.decisions

def RoutingState.Covered (projectionName eventId : String) : Prop :=
  state.jobStatus projectionName eventId ∈ [some .pending, some .processing] ∨
    state.hasArtifact projectionName eventId = true

/-- The step stores the decision of a projection. -/
inductive Persists (settings : RoutingSettings) (state : RoutingState) :
    RoutingOp → String → RoutingRow → Prop where
  | marketData {caller : String} {hand : MarketHand}
      (found : state.marketHands.find? caller = some hand) (ready : hand.ready settings = true) :
      Persists settings state (.persistMarketData caller) "market_data" (hand.row settings)
  | marketScan {caller : String} {hand : ScanHand}
      (found : state.scanHands.find? caller = some hand) (ready : hand.ready settings = true) :
      Persists settings state (.persistMarketScan caller) "market_scan" hand.row

variable (settings : RoutingSettings)

def SkipsCovered (state : RoutingState) (op : RoutingOp) : Prop :=
  ∀ projectionName row, Persists settings state op projectionName row →
    row.effectiveSkipInline = true → state.Covered projectionName row.eventId

def SkipsStay (state : RoutingState) (op : RoutingOp) : Prop :=
  ∀ projectionName row old, Persists settings state op projectionName row →
    (state.decisionsOf projectionName).find? row.eventId = some old →
    old.effectiveSkipInline = true → state.hasArtifact projectionName row.eventId = false →
    row.effectiveSkipInline = true

def isSkipIn (minute : Nat) (row : RoutingRow) : Bool :=
  row.effectiveSkipInline && minuteOfClock row.decidedAt = minute

def isSkipOfTypeIn (eventType : String) (minute : Nat) (row : RoutingRow) : Bool :=
  row.eventType = eventType && isSkipIn minute row

/-- No minute has more skips than configured. -/
structure WithinBudget (settings : RoutingSettings) (state : RoutingState) : Prop where
  marketData : ∀ eventType minute,
    state.decisions.rows.countP (isSkipOfTypeIn eventType minute) ≤
      settings.maxSkipPerMinute eventType
  marketScan : ∀ minute, state.scanDecisions.rows.countP (isSkipIn minute) ≤
    settings.marketScanMaxSkipPerMinute

def ScanInFlight (eventId : String) : Prop :=
  (state.scanDecisions.find? eventId).any RoutingRow.effectiveSkipInline = true ∧
    state.hasArtifact "market_scan" eventId = false

def OneScanInFlight : Prop :=
  ∀ first second, ScanInFlight state first → ScanInFlight state second → first = second

/-- The skips along a run are safe and bounded. -/
structure SkipsSafe (host : Host) (settings : RoutingSettings) (ops : List RoutingOp) : Prop where
  covered : (routing host settings).Along (SkipsCovered settings) emptyRouting ops
  bounded : (routing host settings).Throughout (WithinBudget settings) emptyRouting ops
  stay : (routing host settings).Along (SkipsStay settings) emptyRouting ops
  single : (routing host settings).Throughout OneScanInFlight emptyRouting ops

/-! ## Decisions that nothing disturbs -/

def MarketHand.otherSkips (hand : MarketHand) (minute : Nat) : Nat :=
  state.decisions.countOthers hand.eventId fun row =>
    row.eventType = hand.eventType && row.effectiveSkipInline &&
      notBefore row.decidedAt (minute * microsPerMinute)

/-- What a decision that skips read of the outbox and of the budget still holds, the job was not
done with, and the minute is the one that was counted. -/
structure MarketHand.Undisturbed (state : RoutingState) (hand : MarketHand) : Prop where
  open_job : hand.job ∈ [some (some .pending), some (some .processing)] ∧
      hand.job = some (state.jobStatus "market_data" hand.eventId) ∨
    state.hasArtifact "market_data" hand.eventId = true
  counted : ∀ minute used, hand.counted = some (minute, used) →
    minute = minuteOfClock hand.decidedAt ∧ hand.otherSkips state minute ≤ used

def ScanHand.Reserved (hand : ScanHand) : Prop :=
  match hand.reservation with
  | .made minute => minute = minuteOfClock hand.decidedAt
  | .already => (state.scanDecisions.find? hand.eventId).any
      (isSkipIn (minuteOfClock hand.decidedAt)) = true
  | _ => True

structure ScanHand.Undisturbed (state : RoutingState) (hand : ScanHand) : Prop where
  job : hand.job = some (state.jobStatus "market_scan" hand.eventId) ∨
    state.hasArtifact "market_scan" hand.eventId = true
  health : ∀ health, hand.health = some health →
    state.countOtherSkips hand.eventId state.artifactMissing ≤ health.artifactMissingCount
  reserved : hand.Reserved state

def NothingSkipped (projectionName eventId : String) : Prop :=
  ((state.decisionsOf projectionName).find? eventId).any RoutingRow.effectiveSkipInline = true →
    state.hasArtifact projectionName eventId = true

def Reservation.minuteWanted : Reservation → Option Nat
  | .wanted minute => some minute
  | .notAsked | .already | .made _ | .refused => none

/-- No decision is overtaken: neither by a worker, nor by another decision, nor by the clock. -/
def Undisturbed (settings : RoutingSettings) (state : RoutingState) : RoutingOp → Prop
  | .persistMarketData caller => ∀ hand, state.marketHands.find? caller = some hand →
      hand.ready settings = true →
        if hand.skips settings then hand.Undisturbed state
        else NothingSkipped state "market_data" hand.eventId
  | .persistMarketScan caller => ∀ hand, state.scanHands.find? caller = some hand →
      hand.ready settings = true →
        if hand.skips then hand.Undisturbed state
        else NothingSkipped state "market_scan" hand.eventId
  | .reserveSkipBudget caller => ∀ hand, state.scanHands.find? caller = some hand →
      ∀ minute, hand.reservation.minuteWanted = some minute →
        ∀ budget, state.budget = some budget → budget.minuteBucket ≤ minute
  | _ => True

section Decidability

instance decidableForallSome {α : Type} (found : Option α) (property : α → Prop)
    [∀ value, Decidable (property value)] :
    Decidable (∀ value, found = some value → property value) :=
  match found with
  | none => isTrue fun _ isSome => by cases isSome
  | some value => decidable_of_iff (property value) (by simp)

variable (settings : RoutingSettings) (state : RoutingState)

instance (hand : MarketHand) : Decidable (hand.Undisturbed state) :=
  decidable_of_iff
    ((hand.job ∈ [some (some .pending), some (some .processing)] ∧
        hand.job = some (state.jobStatus "market_data" hand.eventId) ∨
      state.hasArtifact "market_data" hand.eventId = true) ∧
      ∀ counted, hand.counted = some counted →
        counted.1 = minuteOfClock hand.decidedAt ∧ hand.otherSkips state counted.1 ≤ counted.2)
    ⟨fun met => ⟨met.1, fun minute used => met.2 (minute, used)⟩,
      fun met => ⟨met.open_job, fun counted => met.counted counted.1 counted.2⟩⟩

instance (hand : ScanHand) : Decidable (hand.Reserved state) :=
  match hand with
  | { decidedAt, reservation := .made minute, .. } =>
      inferInstanceAs (Decidable (minute = minuteOfClock decidedAt))
  | { eventId, decidedAt, reservation := .already, .. } =>
      inferInstanceAs (Decidable ((state.scanDecisions.find? eventId).any
        (isSkipIn (minuteOfClock decidedAt)) = true))
  | { reservation := .notAsked, .. } | { reservation := .wanted _, .. }
  | { reservation := .refused, .. } => isTrue trivial

instance (hand : ScanHand) : Decidable (hand.Undisturbed state) :=
  decidable_of_iff
    ((hand.job = some (state.jobStatus "market_scan" hand.eventId) ∨
        state.hasArtifact "market_scan" hand.eventId = true) ∧
      (∀ health, hand.health = some health →
        state.countOtherSkips hand.eventId state.artifactMissing ≤ health.artifactMissingCount) ∧
      hand.Reserved state)
    ⟨fun met => ⟨met.1, met.2.1, met.2.2⟩, fun met => ⟨met.job, met.health, met.reserved⟩⟩

instance (projectionName eventId : String) :
    Decidable (NothingSkipped state projectionName eventId) :=
  inferInstanceAs (Decidable (_ → _))

instance : (op : RoutingOp) → Decidable (Undisturbed settings state op)
  | .persistMarketData caller => inferInstanceAs (Decidable (∀ hand,
      state.marketHands.find? caller = some hand → hand.ready settings = true →
        if hand.skips settings then hand.Undisturbed state
        else NothingSkipped state "market_data" hand.eventId))
  | .persistMarketScan caller => inferInstanceAs (Decidable (∀ hand,
      state.scanHands.find? caller = some hand → hand.ready settings = true →
        if hand.skips then hand.Undisturbed state
        else NothingSkipped state "market_scan" hand.eventId))
  | .reserveSkipBudget caller => inferInstanceAs (Decidable (∀ hand,
      state.scanHands.find? caller = some hand →
        ∀ minute, hand.reservation.minuteWanted = some minute →
          ∀ budget, state.budget = some budget → budget.minuteBucket ≤ minute))
  | .outbox _ | .project _ _ | .decideMarketData _ _ _ _ _ | .readJob _ | .countSkips _ _
  | .decideMarketScan _ _ _ _ _ | .readScanJob _ | .countScanJobs _ | .readSkipHealth _ _ _
  | .lookForSkip _ _ | .abandon _ => isTrue trivial

end Decidability

/-! ## What a decision has read -/

section Guards

variable {settings : RoutingSettings}

/-- A skip of a market data event leaves room for itself in what it counted. -/
theorem MarketHand.used_lt {hand : MarketHand} (skips : hand.skips settings = true) :
    ∃ job minute used, hand.job = some job ∧ hand.counted = some (minute, used) ∧
      used < settings.maxSkipPerMinute hand.eventType := by
  rw [MarketHand.skips] at skips
  cases isJob : hand.job with
  | none => simp [isJob] at skips
  | some job =>
      cases isCounted : hand.counted with
      | none => simp [isCounted] at skips
      | some counted =>
          rcases counted with ⟨minute, used⟩
          refine ⟨job, minute, used, rfl, rfl, ?_⟩
          simp only [isJob, isCounted, decide_eq_true_eq] at skips
          -- one guard of each cutover is that of its budget
          have room : ∀ (limit : Nat) (reason : String),
              (decide (limit = 0) || decide (skipBudgetRemaining limit used = 0), reason) ∈
                cutoverGuards settings hand.readings job hand.eventType used → used < limit := by
            intro limit reason isGuard
            have allowed := firstReason_eq_none skips
              (List.mem_append_left _ (List.mem_append_right _ isGuard))
            by_cases isZero : limit = 0
            · simp [isZero] at allowed
            · have left : skipBudgetRemaining limit used = limit - used := if_neg isZero
              simp only [isZero, decide_false, Bool.false_or, decide_eq_false_iff_not]
                at allowed
              omega
          rw [RoutingSettings.maxSkipPerMinute]
          by_cases isTick : hand.eventType = "price_tick"
          · apply room _ "PRICE_TICK_SKIP_BUDGET_EXHAUSTED"
            simp [cutoverGuards, isTick, priceTickGuards]
          · by_cases isTr : hand.eventType = "tr_response"
            · apply room _ "TR_RESPONSE_SKIP_BUDGET_EXHAUSTED"
              simp [cutoverGuards, isTr, trResponseGuards]
            · by_cases isCondition : hand.eventType = "condition_event"
              · apply room _ "CONDITION_EVENT_SKIP_BUDGET_EXHAUSTED"
                simp [cutoverGuards, isCondition, conditionEventGuards]
              · have isGuard : (true, "EVENT_TYPE_NOT_ENABLED_FOR_PR7_CUTOVER") ∈
                    cutoverGuards settings hand.readings job hand.eventType used := by
                  simp [cutoverGuards, isTick, isTr, isCondition]
                have never := firstReason_eq_none skips
                  (List.mem_append_left _ (List.mem_append_right _ isGuard))
                cases never

/-- A scan that asks for its place has an open job, no scan in flight, and a budget. -/
theorem ScanHand.asks_spec {hand : ScanHand} (asks : hand.asks settings = true) :
    ∃ job health, hand.job = some job ∧ job ∈ [some .pending, some .processing] ∧
      hand.health = some health ∧ health.artifactMissingCount = 0 ∧
        0 < settings.marketScanMaxSkipPerMinute := by
  rw [ScanHand.asks] at asks
  cases isJob : hand.job with
  | none => simp [isJob] at asks
  | some job =>
      cases isCounts : hand.counts with
      | none => simp [isCounts] at asks
      | some counts =>
          cases isHealth : hand.health with
          | none => simp [isHealth] at asks
          | some health =>
              simp only [isJob, isCounts, isHealth, asksForBudget, scanReasons, Bool.and_eq_true,
                decide_eq_true_eq, List.append_eq_nil_iff] at asks
              rcases asks with ⟨⟨noReason, noRollback⟩, noCutover⟩
              have noRollbackGuard : allReasons (rollbackGuards settings counts health) = [] := by
                simp only [rollbackReasonCodes, rollbackReasonCodes.sortedCodes] at noRollback
                have sameLength := congrArg List.length noRollback
                rw [List.length_insertionSort] at sameLength
                cases codes : allReasons (rollbackGuards settings counts health) with
                | nil => rfl
                | cons code rest =>
                    rw [codes, List.eraseDups_cons] at sameLength
                    cases sameLength
              refine ⟨job, health, rfl, ?_, rfl, ?_, ?_⟩
              · have isPresent : (job.isNone, "MARKET_SCAN_OUTBOX_JOB_MISSING") ∈
                    scanGuards settings hand.eventType hand.readings job counts health := by
                  simp [scanGuards]
                have isEnqueued : (job.any fun status =>
                    decide (status ∉ [OutboxStatus.pending, .processing]),
                      "MARKET_SCAN_OUTBOX_NOT_ENQUEUED") ∈
                    scanGuards settings hand.eventType hand.readings job counts health := by
                  simp [scanGuards]
                have present := allReasons_eq_nil noReason isPresent
                have enqueued := allReasons_eq_nil noReason isEnqueued
                cases job with
                | none => cases present
                | some status => cases status <;> simp at enqueued ⊢
              · have isGuard : (decide (0 < health.artifactMissingCount),
                    "MARKET_SCAN_EFFECTIVE_SKIP_ARTIFACT_MISSING") ∈
                    rollbackGuards settings counts health := by
                  simp [rollbackGuards]
                simpa using allReasons_eq_nil noRollbackGuard isGuard
              · have isGuard : (decide (settings.marketScanMaxSkipPerMinute = 0),
                    "MARKET_SCAN_SKIP_BUDGET_EXHAUSTED") ∈ scanCutoverGuards settings := by
                  simp [scanCutoverGuards]
                have limited := allReasons_eq_nil noCutover isGuard
                simp only [decide_eq_false_iff_not] at limited
                omega

end Guards

/-! ## What a step does -/

def RoutingState.reservedIn (minute : Nat) : Nat :=
  state.scanHands.rows.countP fun hand => hand.reservation = .made minute

def AskedRightly (state : RoutingState) : Prop :=
  ∀ hand ∈ state.scanHands.rows, hand.reservation ≠ .notAsked → hand.asks settings = true

def KeepsArtifacts (state next : RoutingState) : Prop :=
  ∀ projectionName eventId, state.hasArtifact projectionName eventId = true →
    next.hasArtifact projectionName eventId = true

inductive RoutingEffect (settings : RoutingSettings) (state next : RoutingState) :
    RoutingOp → Prop where
  | quiet (op : RoutingOp) (decisions : next.decisions = state.decisions)
      (scanDecisions : next.scanDecisions = state.scanDecisions)
      (budget : next.budget = state.budget) (artifacts : KeepsArtifacts state next)
      (reserved : ∀ minute, next.reservedIn minute ≤ state.reservedIn minute)
      (asked : AskedRightly settings state → AskedRightly settings next) :
      RoutingEffect settings state next op
  | marketData {caller : String} {hand : MarketHand}
      (found : state.marketHands.find? caller = some hand) (ready : hand.ready settings = true)
      (decisions : next.decisions = state.decisions.upsert (hand.row settings))
      (scanDecisions : next.scanDecisions = state.scanDecisions)
      (budget : next.budget = state.budget) (artifacts : next.artifacts = state.artifacts)
      (scanHands : next.scanHands = state.scanHands) :
      RoutingEffect settings state next (.persistMarketData caller)
  | marketScan {caller : String} {hand : ScanHand}
      (found : state.scanHands.find? caller = some hand) (ready : hand.ready settings = true)
      (decisions : next.decisions = state.decisions)
      (scanDecisions : next.scanDecisions = state.scanDecisions.upsert hand.row)
      (budget : next.budget = state.budget) (artifacts : next.artifacts = state.artifacts)
      (scanHands : next.scanHands = state.scanHands.deleteWhere fun other =>
        Keyed.key other = caller) :
      RoutingEffect settings state next (.persistMarketScan caller)
  | reserve {caller : String} {hand : ScanHand} {minute : Nat} {budget : SkipBudget}
      (found : state.scanHands.find? caller = some hand) (wants : hand.reservation = .wanted minute)
      (reserves : reserveSkip state.budget minute settings.marketScanMaxSkipPerMinute =
        some budget)
      (decisions : next.decisions = state.decisions)
      (scanDecisions : next.scanDecisions = state.scanDecisions)
      (isBudget : next.budget = some budget) (artifacts : next.artifacts = state.artifacts)
      (scanHands : next.scanHands =
        state.scanHands.upsert { hand with reservation := .made minute }) :
      RoutingEffect settings state next (.reserveSkipBudget caller)

section Effects

variable {settings : RoutingSettings} {state next : RoutingState}

theorem askedRightly_congr (same : next.scanHands = state.scanHands)
    (asked : AskedRightly settings state) : AskedRightly settings next := by
  rw [AskedRightly, same]
  exact asked

theorem askedRightly_upsert {hand : ScanHand}
    (same : next.scanHands = state.scanHands.upsert hand) (asked : AskedRightly settings state)
    (isAsked : hand.reservation ≠ .notAsked → hand.asks settings = true) :
    AskedRightly settings next := by
  intro other isOther hasAsked
  rw [same] at isOther
  have found := Table.find?_of_mem isOther
  by_cases isHand : Keyed.key hand = Keyed.key other
  · rw [← isHand, Table.find?_upsert_self, Option.some.injEq] at found
    rw [← found] at hasAsked ⊢
    exact isAsked hasAsked
  · rw [Table.find?_upsert_of_ne _ isHand] at found
    exact asked other (Table.mem_of_find? found) hasAsked

theorem askedRightly_delete {condition : ScanHand → Bool}
    (same : next.scanHands = state.scanHands.deleteWhere condition)
    (asked : AskedRightly settings state) : AskedRightly settings next := by
  intro other isOther
  rw [same] at isOther
  exact asked other (List.mem_filter.mp isOther).1

variable (op : RoutingOp)

theorem RoutingEffect.still (decisions : next.decisions = state.decisions)
    (scanDecisions : next.scanDecisions = state.scanDecisions)
    (budget : next.budget = state.budget) (artifacts : KeepsArtifacts state next)
    (scanHands : next.scanHands = state.scanHands) : RoutingEffect settings state next op := by
  refine .quiet op decisions scanDecisions budget artifacts ?_ (askedRightly_congr scanHands)
  intro minute
  rw [RoutingState.reservedIn, scanHands, RoutingState.reservedIn]

theorem RoutingEffect.setScanHand {hand : ScanHand}
    (notMade : ∀ minute, hand.reservation ≠ .made minute)
    (isAsked : AskedRightly settings state → hand.reservation ≠ .notAsked →
      hand.asks settings = true) :
    RoutingEffect settings state (state.setScanHand hand) op := by
  refine .quiet op rfl rfl rfl (fun _ _ has => has) ?_ ?_
  · intro minute
    have upserted : (state.setScanHand hand).reservedIn minute =
        (state.scanHands.upsert hand).rows.countP fun other =>
          other.reservation = .made minute := rfl
    rw [upserted, Table.countP_upsert]
    simp only [notMade minute]
    exact Table.countOthers_le _ _ _
  · exact fun asked => askedRightly_upsert rfl asked (isAsked asked)

theorem effect_abandon (caller : String) : RoutingEffect settings state
    ((state.dropMarketHand caller).dropScanHand caller) (.abandon caller) := by
  refine .quiet _ rfl rfl rfl (fun _ _ has => has) ?_ (askedRightly_delete rfl)
  intro minute
  exact List.Sublist.countP_le List.filter_sublist

theorem RoutingEffect.refl : RoutingEffect settings state state op :=
  .still op rfl rfl rfl (fun _ _ has => has) rfl

theorem effect_withMarketHand {caller : String}
    {change : MarketHand → RoutingState}
    (effect : ∀ hand, state.marketHands.find? caller = some hand →
      RoutingEffect settings state (change hand) op) :
    RoutingEffect settings state (state.withMarketHand caller change) op := by
  rw [RoutingState.withMarketHand]
  cases found : state.marketHands.find? caller with
  | none => exact .refl op
  | some hand => exact effect hand found

theorem effect_withScanHand {caller : String} {change : ScanHand → RoutingState}
    (effect : ∀ hand, state.scanHands.find? caller = some hand →
      RoutingEffect settings state (change hand) op) :
    RoutingEffect settings state (state.withScanHand caller change) op := by
  rw [RoutingState.withScanHand]
  cases found : state.scanHands.find? caller with
  | none => exact .refl op
  | some hand => exact effect hand found

theorem effect_read {hand read : ScanHand}
    (same : read.reservation = hand.reservation) :
    RoutingEffect settings state
      (if hand.reservation = .notAsked then state.setScanHand read else state) op := by
  split
  · next notAsked =>
      rw [← same] at notAsked
      apply RoutingEffect.setScanHand
      · intro minute
        rw [notAsked]
        exact Reservation.noConfusion
      · exact fun _ asked => absurd notAsked asked
  · exact .refl op

theorem routingNext_effect (host : Host) (settings : RoutingSettings) (state : RoutingState)
    (op : RoutingOp) :
    RoutingEffect settings state (routingNext host settings state op) op := by
  cases op with
  | outbox op => exact .still _ rfl rfl rfl (fun _ _ has => has) rfl
  | project projectionName eventId =>
      refine .still _ rfl rfl rfl ?_ rfl
      intro other otherEvent has
      simp only [RoutingState.hasArtifact, decide_eq_true_eq] at has ⊢
      exact List.mem_cons_of_mem _ has
  | decideMarketData caller eventId eventType readings now =>
      simp only [routingNext]
      split
      · exact .refl _
      · exact .still _ rfl rfl rfl (fun _ _ has => has) rfl
  | readJob caller | countSkips caller now =>
      apply effect_withMarketHand
      intro hand _
      exact .still _ rfl rfl rfl (fun _ _ has => has) rfl
  | persistMarketData caller =>
      apply effect_withMarketHand
      intro hand found
      rw [RoutingState.persistMarketData]
      split
      · next ready => exact .marketData found ready rfl rfl rfl rfl rfl
      · exact .refl _
  | decideMarketScan caller eventId eventType readings now =>
      simp only [routingNext]
      split
      · exact .refl _
      · apply RoutingEffect.setScanHand
        · exact fun minute => Reservation.noConfusion
        · exact fun _ asked => absurd rfl asked
  | readScanJob caller | countScanJobs caller | readSkipHealth caller evidence lineage =>
      apply effect_withScanHand
      intro hand _
      exact effect_read _ rfl
  | lookForSkip caller now =>
      apply effect_withScanHand
      intro hand _
      rw [RoutingState.lookForSkip]
      split
      · next asks =>
          apply RoutingEffect.setScanHand
          · intro minute
            split <;> exact Reservation.noConfusion
          · exact fun _ _ => asks.1
      · exact .refl _
  | reserveSkipBudget caller =>
      apply effect_withScanHand
      intro hand found
      rw [RoutingState.reserveSkipBudget]
      split
      · next minute wants =>
          split
          · next budget reserves => exact .reserve found wants reserves rfl rfl rfl rfl rfl
          · apply RoutingEffect.setScanHand
            · exact fun minute => Reservation.noConfusion
            · intro asked _
              apply asked hand (Table.mem_of_find? found)
              rw [wants]
              exact Reservation.noConfusion
      · exact .refl _
  | persistMarketScan caller =>
      apply effect_withScanHand
      intro hand found
      rw [RoutingState.persistMarketScan]
      split
      · next ready =>
          have isCaller : hand.caller = caller := Table.key_of_find? found
          subst isCaller
          exact .marketScan found ready rfl rfl rfl rfl rfl
      · exact .refl _
  | abandon caller => exact effect_abandon caller

end Effects

/-! ## The invariant of a run -/

def allowance (budget : Option SkipBudget) (limit minute : Nat) : Nat :=
  match budget with
  | none => 0
  | some stored =>
      if minute < stored.minuteBucket then limit
      else if minute = stored.minuteBucket then stored.usedCount
      else 0

/-- The skips are bounded, and every scan that is skipped or has its place was let through. -/
structure RoutingSound (settings : RoutingSettings) (state : RoutingState) : Prop where
  asked : AskedRightly settings state
  marketData : ∀ eventType minute,
    state.decisions.rows.countP (isSkipOfTypeIn eventType minute) ≤
      settings.maxSkipPerMinute eventType
  usedCount : ∀ budget, state.budget = some budget →
    budget.usedCount ≤ settings.marketScanMaxSkipPerMinute
  marketScan : ∀ minute,
    state.scanDecisions.rows.countP (isSkipIn minute) + state.reservedIn minute ≤
      allowance state.budget settings.marketScanMaxSkipPerMinute minute
  single : OneScanInFlight state

theorem allowance_le {budget : Option SkipBudget} {limit : Nat}
    (used : ∀ stored, budget = some stored → stored.usedCount ≤ limit) (minute : Nat) :
    allowance budget limit minute ≤ limit := by
  cases budget with
  | none => exact Nat.zero_le limit
  | some stored =>
      have bound := used stored rfl
      simp only [allowance]
      split_ifs <;> omega

theorem allowance_reserveSkip {budget : Option SkipBudget} {reserved : SkipBudget}
    {minute limit : Nat} (positive : 0 < limit)
    (used : ∀ stored, budget = some stored → stored.usedCount ≤ limit)
    (notLater : ∀ stored, budget = some stored → stored.minuteBucket ≤ minute)
    (reserves : reserveSkip budget minute limit = some reserved) :
    reserved.usedCount ≤ limit ∧ ∀ other,
      allowance budget limit other + (if other = minute then 1 else 0) ≤
        allowance (some reserved) limit other := by
  rw [reserveSkip.eq_def] at reserves
  cases budget with
  | none =>
      obtain rfl : SkipBudget.mk minute 1 = reserved := by simpa using reserves
      refine ⟨positive, ?_⟩
      intro other
      simp only [allowance]
      split_ifs <;> omega
  | some stored =>
      have before := notLater stored rfl
      have bound := used stored rfl
      dsimp only at reserves
      split at reserves
      · obtain rfl : SkipBudget.mk minute 1 = reserved := by simpa using reserves
        refine ⟨positive, ?_⟩
        intro other
        simp only [allowance]
        split_ifs <;> omega
      · split at reserves
        · next room =>
            obtain rfl : SkipBudget.mk minute (stored.usedCount + 1) = reserved := by
              simpa using reserves
            refine ⟨room, ?_⟩
            intro other
            simp only [allowance]
            split_ifs <;> omega
        · cases reserves

theorem isSkipIn_iff {minute : Nat} {row : RoutingRow} : isSkipIn minute row = true ↔
    row.effectiveSkipInline = true ∧ minuteOfClock row.decidedAt = minute := by
  simp [isSkipIn]

theorem isSkipOfTypeIn_iff {eventType : String} {minute : Nat} {row : RoutingRow} :
    isSkipOfTypeIn eventType minute row = true ↔ row.eventType = eventType ∧
      row.effectiveSkipInline = true ∧ minuteOfClock row.decidedAt = minute := by
  simp [isSkipOfTypeIn, isSkipIn_iff]

theorem minuteOfClock_notBefore {time : Nat} {minute : Nat} (same : minuteOfClock time = minute) :
    notBefore time (minute * microsPerMinute) = true := by
  have bound := Nat.div_mul_le_self time microsPerMinute
  subst same
  exact decide_eq_true (Nat.div_le_div_right (Nat.add_le_add_right bound 500))

section Steps

variable {settings : RoutingSettings} {state next : RoutingState}

theorem scanInFlight_of_next (scanDecisions : next.scanDecisions = state.scanDecisions)
    (artifacts : KeepsArtifacts state next) {eventId : String}
    (inFlight : ScanInFlight next eventId) : ScanInFlight state eventId := by
  rcases inFlight with ⟨skipped, missing⟩
  rw [scanDecisions] at skipped
  refine ⟨skipped, ?_⟩
  cases has : state.hasArtifact "market_scan" eventId with
  | false => rfl
  | true =>
      rw [artifacts _ _ has] at missing
      cases missing

theorem WithinBudget.marketData_step {hand : MarketHand}
    (within : ∀ eventType minute, state.decisions.rows.countP (isSkipOfTypeIn eventType minute) ≤
      settings.maxSkipPerMinute eventType)
    (undisturbed : hand.skips settings = true → hand.Undisturbed state) (eventType : String)
    (minute : Nat) :
    (state.decisions.upsert (hand.row settings)).rows.countP
      (isSkipOfTypeIn eventType minute) ≤ settings.maxSkipPerMinute eventType := by
  have key : Keyed.key (hand.row settings) = hand.eventId := rfl
  rw [Table.countP_upsert, key]
  by_cases counts : isSkipOfTypeIn eventType minute (hand.row settings) = true
  · rw [if_pos counts]
    rcases isSkipOfTypeIn_iff.mp counts with ⟨isType, skips, isMinute⟩
    rcases hand.used_lt skips with ⟨_, counted, used, _, isCounted, room⟩
    rcases (undisturbed skips).counted counted used isCounted with ⟨sameMinute, others⟩
    have fewer : state.decisions.countOthers hand.eventId (isSkipOfTypeIn eventType minute) ≤
        hand.otherSkips state counted := by
      apply Table.countOthers_mono
      intro row isSkip
      rcases isSkipOfTypeIn_iff.mp isSkip with ⟨rowType, rowSkips, rowMinute⟩
      have sameType : row.eventType = hand.eventType := rowType.trans isType.symm
      have counted := minuteOfClock_notBefore (rowMinute.trans (sameMinute.trans isMinute).symm)
      simp [sameType, rowSkips, counted]
    have sameType : hand.eventType = eventType := isType
    rw [sameType] at room
    omega
  · rw [if_neg counts]
    exact le_trans (Table.countOthers_le _ _ _) (within eventType minute)

theorem marketScan_step {caller : String} {hand : ScanHand}
    (found : state.scanHands.find? caller = some hand)
    (undisturbed : hand.skips = true → hand.Undisturbed state) (minute : Nat) :
    (state.scanDecisions.upsert hand.row).rows.countP (isSkipIn minute) +
        state.scanHands.countOthers caller (fun other => other.reservation = .made minute) ≤
      state.scanDecisions.rows.countP (isSkipIn minute) + state.reservedIn minute := by
  have key : Keyed.key hand.row = hand.eventId := rfl
  have others := Table.countOthers_le state.scanDecisions hand.eventId (isSkipIn minute)
  have held : state.reservedIn minute =
      state.scanHands.countOthers caller (fun other => other.reservation = .made minute) +
        if decide (hand.reservation = .made minute) = true then 1 else 0 :=
    Table.countP_eq_countOthers _ found
  rw [Table.countP_upsert, key, held]
  by_cases counts : isSkipIn minute hand.row = true
  · rw [if_pos counts]
    have isSkip : hand.skips = true ∧ minuteOfClock hand.decidedAt = minute :=
      isSkipIn_iff.mp counts
    have reserved := (undisturbed isSkip.1).reserved
    rw [ScanHand.Reserved] at reserved
    cases isReservation : hand.reservation with
    | made place =>
        rw [isReservation] at reserved
        have samePlace : place = minute := reserved.trans isSkip.2
        simp only [samePlace, decide_true, if_true]
        omega
    | already =>
        rw [isReservation, isSkip.2] at reserved
        -- the row of the event is a skip of the minute already, and is replaced
        rcases (Option.any_eq_true _ _).mp reserved with ⟨old, isOld, oldSkips⟩
        have former := Table.countP_eq_countOthers (isSkipIn minute) isOld
        rw [if_pos oldSkips] at former
        omega
    | notAsked | wanted | refused => simp [ScanHand.skips, isReservation] at isSkip
  · rw [if_neg counts]
    omega

theorem find?_upsert_scanRow (decisions : Table RoutingRow) (hand : ScanHand)
    (eventId : String) : (decisions.upsert hand.row).find? eventId =
      if hand.eventId = eventId then some hand.row else decisions.find? eventId := by
  split
  · next same =>
      subst same
      exact Table.find?_upsert_self _ hand.row
  · next different => exact Table.find?_upsert_of_ne _ different

/-- A scan is skipped only where no other is in flight. -/
theorem oneScanInFlight_step {caller : String} {hand : ScanHand}
    (found : state.scanHands.find? caller = some hand) (asked : AskedRightly settings state)
    (single : OneScanInFlight state)
    (undisturbed : hand.skips = true → hand.Undisturbed state)
    (scanDecisions : next.scanDecisions = state.scanDecisions.upsert hand.row)
    (artifacts : next.artifacts = state.artifacts) : OneScanInFlight next := by
  have same : ∀ eventId, next.hasArtifact "market_scan" eventId =
      state.hasArtifact "market_scan" eventId := by
    intro eventId
    rw [RoutingState.hasArtifact, artifacts, RoutingState.hasArtifact]
  have former : ∀ eventId, eventId ≠ hand.eventId → ScanInFlight next eventId →
      ScanInFlight state eventId := by
    rintro eventId other ⟨skipped, missing⟩
    rw [scanDecisions, find?_upsert_scanRow, if_neg other.symm] at skipped
    rw [same] at missing
    exact ⟨skipped, missing⟩
  -- where the decision skips, the others that are skipped have their rows
  have alone : ScanInFlight next hand.eventId → ∀ eventId, ScanInFlight next eventId →
      eventId = hand.eventId := by
    rintro ⟨skipped, _⟩ eventId inFlight
    by_contra other
    rw [scanDecisions, find?_upsert_scanRow, if_pos rfl] at skipped
    have skips : hand.skips = true := skipped
    have asks : hand.asks settings = true := by
      apply asked hand (Table.mem_of_find? found)
      intro notAsked
      simp [ScanHand.skips, notAsked] at skips
    rcases hand.asks_spec asks with ⟨_, health, _, _, isHealth, none, _⟩
    have noOther := (undisturbed skips).health health isHealth
    rw [none, Nat.le_zero, RoutingState.countOtherSkips, List.countP_eq_zero] at noOther
    rcases former eventId other inFlight with ⟨isSkip, missing⟩
    rcases (Option.any_eq_true _ _).mp isSkip with ⟨row, isRow, rowSkips⟩
    have isEvent : row.eventId = eventId := Table.key_of_find? isRow
    have counted := noOther row (Table.mem_of_find? isRow)
    simp [rowSkips, isEvent, other, RoutingState.artifactMissing, missing] at counted
  intro first second firstInFlight secondInFlight
  by_cases firstIs : first = hand.eventId
  · rw [firstIs] at firstInFlight ⊢
    exact (alone firstInFlight second secondInFlight).symm
  · by_cases secondIs : second = hand.eventId
    · rw [secondIs] at secondInFlight ⊢
      exact alone secondInFlight first firstInFlight
    · exact single first second (former first firstIs firstInFlight)
        (former second secondIs secondInFlight)

theorem RoutingSound.step (host : Host) (sound : RoutingSound settings state) (op : RoutingOp)
    (undisturbed : Undisturbed settings state op) :
    RoutingSound settings (routingNext host settings state op) := by
  have effect := routingNext_effect host settings state op
  generalize routingNext host settings state op = after at effect ⊢
  cases effect with
  | quiet _ decisions scanDecisions budget artifacts reserved asked =>
      refine ⟨asked sound.asked, ?_, ?_, ?_, ?_⟩
      · rw [decisions]
        exact sound.marketData
      · rw [budget]
        exact sound.usedCount
      · intro minute
        rw [scanDecisions, budget]
        exact le_trans (Nat.add_le_add_left (reserved minute) _) (sound.marketScan minute)
      · intro first second firstInFlight secondInFlight
        exact sound.single first second (scanInFlight_of_next scanDecisions artifacts firstInFlight)
          (scanInFlight_of_next scanDecisions artifacts secondInFlight)
  | @marketData caller hand found ready decisions scanDecisions budget artifacts scanHands =>
      have keeps : KeepsArtifacts state after := by
        intro projectionName eventId has
        rwa [RoutingState.hasArtifact, artifacts]
      have here := undisturbed hand found ready
      refine ⟨askedRightly_congr scanHands sound.asked, ?_, ?_, ?_, ?_⟩
      · rw [decisions]
        apply WithinBudget.marketData_step sound.marketData
        intro skips
        rwa [if_pos skips] at here
      · rw [budget]
        exact sound.usedCount
      · intro minute
        rw [scanDecisions, budget, RoutingState.reservedIn, scanHands]
        exact sound.marketScan minute
      · intro first second firstInFlight secondInFlight
        exact sound.single first second (scanInFlight_of_next scanDecisions keeps firstInFlight)
          (scanInFlight_of_next scanDecisions keeps secondInFlight)
  | @marketScan caller hand found ready decisions scanDecisions budget artifacts scanHands =>
      have here : hand.skips = true → hand.Undisturbed state := by
        intro skips
        have met := undisturbed hand found ready
        rwa [if_pos skips] at met
      refine ⟨askedRightly_delete scanHands sound.asked, ?_, ?_, ?_, ?_⟩
      · rw [decisions]
        exact sound.marketData
      · rw [budget]
        exact sound.usedCount
      · intro minute
        rw [scanDecisions, budget, RoutingState.reservedIn, scanHands,
          Table.countP_deleteWhere_key]
        exact le_trans (marketScan_step found here minute) (sound.marketScan minute)
      · exact oneScanInFlight_step found sound.asked sound.single here scanDecisions artifacts
  | @reserve caller hand minute budget found wants reserves decisions scanDecisions isBudget
      artifacts scanHands =>
      have keeps : KeepsArtifacts state after := by
        intro projectionName eventId has
        rwa [RoutingState.hasArtifact, artifacts]
      have asks : hand.asks settings = true := by
        apply sound.asked hand (Table.mem_of_find? found)
        rw [wants]
        exact Reservation.noConfusion
      rcases hand.asks_spec asks with ⟨_, _, _, _, _, _, positive⟩
      rcases allowance_reserveSkip positive sound.usedCount
        (undisturbed hand found minute (by rw [wants]; rfl)) reserves with ⟨bounded, grows⟩
      refine ⟨askedRightly_upsert scanHands sound.asked fun _ => asks, ?_, ?_, ?_, ?_⟩
      · rw [decisions]
        exact sound.marketData
      · intro stored isStored
        rw [isBudget, Option.some.injEq] at isStored
        rw [← isStored]
        exact bounded
      · intro other
        have before := sound.marketScan other
        have room := grows other
        have key : Keyed.key { hand with reservation := .made minute } = hand.caller := rfl
        have fewer := Table.countOthers_le state.scanHands hand.caller
          (fun reserved => reserved.reservation = .made other)
        rw [RoutingState.reservedIn] at before
        rw [scanDecisions, isBudget, RoutingState.reservedIn, scanHands, Table.countP_upsert, key]
        by_cases same : other = minute
        · simp only [same, decide_true] at room before fewer ⊢
          omega
        · have apart : Reservation.made minute ≠ .made other := by
            intro equal
            exact same (Reservation.made.inj equal).symm
          simp only [same, apart, decide_false, Bool.false_eq_true] at room ⊢
          omega
      · intro first second firstInFlight secondInFlight
        exact sound.single first second (scanInFlight_of_next scanDecisions keeps firstInFlight)
          (scanInFlight_of_next scanDecisions keeps secondInFlight)

theorem RoutingSound.skipsCovered (sound : RoutingSound settings state) {op : RoutingOp}
    (undisturbed : Undisturbed settings state op) : SkipsCovered settings state op := by
  intro projectionName row persists skips
  cases persists with
  | @marketData caller hand found ready =>
      have here := undisturbed hand found ready
      have handSkips : hand.skips settings = true := skips
      rw [if_pos handSkips] at here
      rcases here.open_job with ⟨isOpen, same⟩ | has
      · left
        have statusOpen : state.jobStatus "market_data" hand.eventId ∈
            [some .pending, some .processing] := by
          rw [same] at isOpen
          simpa using isOpen
        exact statusOpen
      · exact Or.inr has
  | @marketScan caller hand found ready =>
      have here := undisturbed hand found ready
      have handSkips : hand.skips = true := skips
      rw [if_pos handSkips] at here
      have asks : hand.asks settings = true := by
        apply sound.asked hand (Table.mem_of_find? found)
        intro notAsked
        simp [ScanHand.skips, notAsked] at handSkips
      rcases hand.asks_spec asks with ⟨job, _, isJob, isOpen, _⟩
      rcases here.job with same | has
      · left
        rw [isJob, Option.some.injEq] at same
        rwa [same] at isOpen
      · exact Or.inr has

theorem skipsStay_of_undisturbed {op : RoutingOp} (undisturbed : Undisturbed settings state op) :
    SkipsStay settings state op := by
  intro projectionName row old persists isOld oldSkips missing
  by_contra clears
  have skipped : ((state.decisionsOf projectionName).find? row.eventId).any
      RoutingRow.effectiveSkipInline = true := by
    rw [isOld]
    exact oldSkips
  cases persists with
  | @marketData caller hand found ready =>
      have here := undisturbed hand found ready
      have handClears : ¬hand.skips settings = true := clears
      rw [if_neg handClears] at here
      have has := here skipped
      rw [← Bool.not_eq_true] at missing
      exact missing has
  | @marketScan caller hand found ready =>
      have here := undisturbed hand found ready
      have handClears : ¬hand.skips = true := clears
      rw [if_neg handClears] at here
      have has := here skipped
      rw [← Bool.not_eq_true] at missing
      exact missing has

theorem RoutingSound.withinBudget (sound : RoutingSound settings state) :
    WithinBudget settings state where
  marketData := sound.marketData
  marketScan := by
    intro minute
    have bound := allowance_le sound.usedCount minute
    have counted := sound.marketScan minute
    omega

end Steps

theorem routingSound_empty :
    RoutingSound settings emptyRouting where
  asked hand isHand := absurd isHand List.not_mem_nil
  marketData _ _ := Nat.zero_le _
  usedCount budget isBudget := by cases isBudget
  marketScan _ := Nat.zero_le _
  single first second firstInFlight := by
    rcases firstInFlight with ⟨skipped, _⟩
    cases skipped

/-- Price ticks may skip the inline projection, one in a minute. -/
def tickCutover : RoutingSettings where
  projectionOutboxApplyProjectionEnabled := true
  projectionOutboxMarketDataApplyEnabled := true
  projectionOutboxMarketScanApplyEnabled := false
  conditionFusionEventIncrementalEnabled := false
  dryRunEnabled := true
  cutoverEnabled := true
  requireReconcilePass := true
  requireLatestReconcilePass := true
  requireWorkerApplyEnabled := true
  reconcileMaxAgeSec := 300
  eventTypes := ["price_tick", "condition_event", "tr_response"]
  cutoverEventTypes := ["price_tick"]
  minOutboxStatus := "ENQUEUED"
  priceTickCutoverEnabled := true
  priceTickMaxSkipPerMinute := 1
  trResponseDryRunEnabled := false
  trResponseCutoverEnabled := false
  trResponseMaxSkipPerMinute := 0
  trResponseMaxRowsPerEvent := 1
  trResponseRequireSyntheticChildGuard := true
  trResponseRequireWorkerSideEffects := true
  conditionEventDryRunEnabled := false
  conditionEventCutoverEnabled := false
  conditionEventMaxSkipPerMinute := 0
  conditionEventMaxPayloadAgeSec := 1
  conditionEventRequireFusionEnabled := true
  conditionEventRequireBacklogReady := true
  conditionEventRequireWorkerSideEffects := true
  conditionEventAllowCandidateIngestInWorker := false
  marketScanEnabled := false
  marketScanDryRunEnabled := false
  marketScanCutoverEnabled := false
  marketScanGlobalKillSwitch := true
  marketScanEffectiveSkipDisabledInPr20 := true
  marketScanMaxSkipPerMinute := 0
  marketScanMaxPendingWithinSla := 1
  marketScanMaxEventAgeSec := 1
  marketScanMaxFutureSkewSec := 1
  marketScanReconcileMaxAgeSec := 1
  marketScanRequireReconcilePass := true
  marketScanRequirePriorEventReconcile := true
  marketScanRequireParserVerified := true
  marketScanRequireMarketDataDependency := true
  marketScanRequireWorkerClosure := true
  marketScanFailClosedOnWorkerError := true

def readyForSkip : MarketReadings where
  outboxStatus := some "ENQUEUED"
  latestRun := some ⟨some "PASS", true, some 0, 0⟩
  sourceEventStatus := some "ACCEPTED"
  trResponseRowsCount := 0
  conditionEventPayloadAge := none
  conditionEventBacklogReady := false
  priceTickIdentified := true
  controllerAllows := true

def enqueueTick : RoutingOp :=
  .outbox (.enqueue sampleTick none 63900000000000000)

def routeTick : List RoutingOp :=
  [.decideMarketData "request" "tick-1" "price_tick" readyForSkip 63900000004000000,
    .readJob "request", .countSkips "request" 63900000004000000, .persistMarketData "request"]

/-- A worker takes the job of the tick and skips it. -/
def skipTickJob : List RoutingOp :=
  [.outbox (.claim "worker-a" 1 0 none 63900000001000000),
    .outbox (.beginMark "worker-a" "market_data:tick-1"
      (.skipped "MARKET_DATA_PRICE_TICK_OLDER_THAN_LATEST" []) 63900000002000000),
    .outbox (.finishMark "worker-a" 63900000003000000)]

theorem skipped_job_is_routed :
    let before := (routing sampleHost tickCutover).run emptyRouting
      (enqueueTick :: (skipTickJob ++ routeTick.take 3))
    before.jobStatus "market_data" "tick-1" = some .skipped ∧
      before.hasArtifact "market_data" "tick-1" = false ∧
      (before.marketHands.find? "request").any (fun hand =>
        hand.eventId = "tick-1" && hand.ready tickCutover && hand.skips tickCutover) = true := by
  decide +kernel

end SuseokTrader
