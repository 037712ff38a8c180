import SuseokTrader.Candidate.SourceActivity

/-!
# Sources and the schedule of the rebuilds

Which plain conditions are active for an open candidate should not depend on when
the rebuilds came: the last signal of the condition should decide. It does in every
run in which a signal that a rebuild finds late says what the latest one says.
-/

namespace SuseokTrader

/-! ## Signals of a condition -/

def ConditionSignal.isOf (code conditionId : String) (row : ConditionSignal) : Bool :=
  row.code = code && row.conditionId = conditionId

def lastAction (rows : List ConditionSignal) (code conditionId : String) :
    Option ConditionEventAction :=
  (rows.filter (ConditionSignal.isOf code conditionId)).getLast?.map ConditionSignal.action

theorem lastAction_cons (row : ConditionSignal) (rows : List ConditionSignal)
    (code conditionId : String) :
    lastAction (row :: rows) code conditionId =
      if row.isOf code conditionId then
        some ((lastAction rows code conditionId).getD row.action)
      else lastAction rows code conditionId := by
  unfold lastAction
  by_cases isOf : row.isOf code conditionId = true
  · rw [List.filter_cons_of_pos isOf, List.getLast?_cons, if_pos isOf]
    cases (rows.filter (ConditionSignal.isOf code conditionId)).getLast? <;> rfl
  · rw [List.filter_cons_of_neg isOf, if_neg isOf]

theorem lastAction_filter_of_none {rows : List ConditionSignal} {selected : ConditionSignal → Bool}
    {code conditionId : String}
    (noneElse : lastAction (rows.filter fun row => !selected row) code conditionId = none) :
    lastAction (rows.filter selected) code conditionId = lastAction rows code conditionId := by
  induction rows with
  | nil => rfl
  | cons row rows ih =>
      by_cases isSelected : selected row = true
      · rw [List.filter_cons_of_neg (by simp [isSelected])] at noneElse
        rw [List.filter_cons_of_pos isSelected, lastAction_cons, lastAction_cons, ih noneElse]
      · rw [List.filter_cons_of_pos (by simpa using isSelected), lastAction_cons] at noneElse
        rw [List.filter_cons_of_neg isSelected, lastAction_cons]
        split at noneElse
        · cases noneElse
        · next notOf =>
            rw [if_neg notOf]
            exact ih noneElse

def enterKey (tradeDate code conditionId : String) : SourceKey where
  tradeDate := tradeDate
  code := code
  sourceType := .conditionEnter
  sourceId := conditionId

/-! ## Events of signals -/

variable (settings : CandidateSettings)

/-- The actions are configured as the signals spell them. -/
def CandidateSettings.SpellsActions : Prop :=
  settings.candidateConditionActionEnter = "ENTER" ∧ settings.candidateConditionActionExit = "EXIT"

/-- The source event of a signal. -/
structure SignalEvent (tradeDate : String) (row : ConditionSignal)
    (event : CandidateSourceEvent) : Prop where
  sourceEventId : event.sourceEventId = signalSourceEventId tradeDate row
  tradeDate : event.tradeDate = tradeDate
  code : event.code = row.code
  sourceId : event.sourceId = row.conditionId
  sourceType : event.sourceType =
    if row.action = .enter then .conditionEnter else .conditionExit

theorem conditionRowToSourceEvent_eq (host : Host) {settings : CandidateSettings}
    (spells : settings.SpellsActions) (tradeDate : String) (row : ConditionSignal) :
    ∃ event, conditionRowToSourceEvent host settings tradeDate row = some event ∧
      SignalEvent tradeDate row event := by
  rcases spells with ⟨enters, exits⟩
  simp only [conditionRowToSourceEvent, enters, exits]
  cases isAction : row.action with
  | enter =>
      refine ⟨_, if_pos rfl, rfl, rfl, rfl, rfl, ?_⟩
      rw [isAction, if_pos rfl]
  | exit =>
      refine ⟨_, (if_neg (by decide)).trans (if_pos rfl), rfl, rfl, rfl, rfl, ?_⟩
      rw [isAction]
      rfl

/-- Every exit that is applied can be read, and closes only a candidate without active source. -/
def ExitRead (readings : String → SourceReadings)
    (tables : CandidateTables) (event : CandidateSourceEvent) : Prop :=
  tables.takes settings event → event.sourceType = .conditionExit →
    ∀ row, tables.findActiveCandidate event.tradeDate event.code = some row →
      ((readings event.sourceEventId).refresh row.candidateInstanceId).raises = false ∧
        CandidateTables.ClosesExited settings (tables.exited event row.candidateInstanceId)
          row.candidateInstanceId ((readings event.sourceEventId).refresh row.candidateInstanceId)

namespace CandidateTables

section Apply

variable {settings : CandidateSettings} {readings : String → SourceReadings}
  {tables : CandidateTables} {event : CandidateSourceEvent}

theorem SourcesOpen.apply (isOpen : tables.SourcesOpen)
    (read : ExitRead settings readings tables event) :
    (applySourceEvent settings readings tables event).SourcesOpen := by
  have isApplied := applied settings readings tables event
  generalize applySourceEvent settings readings tables event = after at isApplied ⊢
  cases isApplied with
  | skipped => exact isOpen
  | failed => exact isOpen
  | merged taken notExit => exact isOpen.merge
  | unlinked => exact isOpen.congr rfl rfl
  | exited taken isExit row found reads =>
      exact (isOpen.exited row.candidateInstanceId).refresh (read taken isExit row found).2

theorem isActive_apply_other (notEnter : event.sourceType ≠ .conditionEnter)
    (notExit : event.sourceType ≠ .conditionExit) (tradeDate code conditionId : String) :
    (applySourceEvent settings readings tables event).isActive
        (enterKey tradeDate code conditionId) =
      tables.isActive (enterKey tradeDate code conditionId) := by
  have isApplied := applied settings readings tables event
  generalize applySourceEvent settings readings tables event = after at isApplied ⊢
  cases isApplied with
  | skipped => rfl
  | failed => rfl
  | merged taken _ =>
      rw [isActive_merge taken, if_neg]
      intro sameKey
      exact notEnter (congrArg SourceKey.sourceType sameKey).symm
  | unlinked _ isExit => exact absurd isExit notExit
  | exited _ isExit => exact absurd isExit notExit

theorem isActive_congr {other : CandidateTables}
    (same : other.latestSources = tables.latestSources) (key : SourceKey) :
    other.isActive key = tables.isActive key := by
  rw [isActive, isActive, same]

/-- The event of a signal that is applied sets the source of its condition. -/
theorem SourcesOpen.isActive_apply_signal (isOpen : tables.SourcesOpen) {tradeDate : String}
    {row : ConditionSignal} (isSignal : SignalEvent tradeDate row event)
    (taken : tables.takes settings event) (read : ExitRead settings readings tables event)
    (date code conditionId : String) :
    (applySourceEvent settings readings tables event).isActive (enterKey date code conditionId) =
      if date = tradeDate ∧ row.isOf code conditionId = true then decide (row.action = .enter)
      else tables.isActive (enterKey date code conditionId) := by
  have sameKey : (date = tradeDate ∧ row.isOf code conditionId = true) ↔
      enterKey date code conditionId = event.enteredKey := by
    simp only [ConditionSignal.isOf, Bool.and_eq_true, decide_eq_true_eq, enterKey,
      CandidateSourceEvent.enteredKey, SourceKey.mk.injEq, isSignal.tradeDate, isSignal.code,
      isSignal.sourceId, true_and]
    constructor
    · rintro ⟨rfl, rfl, rfl⟩
      exact ⟨rfl, rfl, rfl⟩
    · rintro ⟨rfl, rfl, rfl⟩
      exact ⟨rfl, rfl, rfl⟩
  have isApplied := applied settings readings tables event
  generalize applySourceEvent settings readings tables event = after at isApplied ⊢
  cases isAction : row.action with
  | enter =>
      have isEnter : event.sourceType = .conditionEnter := by
        rw [isSignal.sourceType, isAction, if_pos rfl]
      have isKey : event.key = event.enteredKey := by
        rw [CandidateSourceEvent.key, isEnter]
        rfl
      cases isApplied with
      | skipped notTaken => exact absurd taken notTaken
      | failed _ isExit => simp [isEnter] at isExit
      | merged _ _ =>
          rw [isActive_merge taken, isKey]
          simp [sameKey]
      | unlinked _ isExit => simp [isEnter] at isExit
      | exited _ isExit => simp [isEnter] at isExit
  | exit =>
      have isExit : event.sourceType = .conditionExit := by
        rw [isSignal.sourceType, isAction]
        rfl
      cases isApplied with
      | skipped notTaken => exact absurd taken notTaken
      | failed _ _ found isFound raises => simp [(read taken isExit found isFound).1] at raises
      | merged _ notExit => exact absurd isExit notExit
      | unlinked _ _ noneOpen =>
          simp only [sameKey]
          split
          · next isKey =>
              rw [isKey]
              exact isOpen.isActive_unlinked noneOpen
          · rfl
      | exited _ _ found isFound reads =>
          rw [isActive_congr (latestSources_refresh _ _ _ _), isOpen.isActive_exited isFound]
          simp [sameKey]

end Apply

/-! ## Which events are stored -/

def isStored (tables : CandidateTables) (sourceEventId : String) : Bool :=
  (tables.sourceEvents.find? sourceEventId).isSome

section Stored

variable {settings : CandidateSettings} {readings : String → SourceReadings}
  {tables : CandidateTables} {event : CandidateSourceEvent}

theorem isStored_insert {after : CandidateTables} {linked : Option CandidateInstanceId}
    {active : Bool}
    (inserted : tables.sourceEvents.insert? ⟨event, linked, active⟩ = some after.sourceEvents)
    (sourceEventId : String) :
    after.isStored sourceEventId =
      (tables.isStored sourceEventId || decide (sourceEventId = event.sourceEventId)) := by
  unfold isStored
  by_cases isOwn : sourceEventId = event.sourceEventId
  · have found := Table.find?_of_insert?_self inserted
    change Table.find? _ event.sourceEventId = _ at found
    rw [isOwn, found]
    simp
  · rw [Table.find?_of_insert?_of_ne inserted]
    · simp [isOwn]
    · exact Ne.symm isOwn

theorem takes_iff (enabled : settings.candidateFsmEnabled = true) :
    tables.takes settings event ↔ tables.isStored event.sourceEventId = false := by
  simp [takes, enabled, isStored]

theorem isStored_apply (enabled : settings.candidateFsmEnabled = true)
    (read : ExitRead settings readings tables event) (sourceEventId : String) :
    (applySourceEvent settings readings tables event).isStored sourceEventId =
      (tables.isStored sourceEventId || decide (sourceEventId = event.sourceEventId)) := by
  have isApplied := applied settings readings tables event
  generalize applySourceEvent settings readings tables event = after at isApplied ⊢
  rcases isApplied.sourceEvents with ⟨_, linked, active, inserted⟩ | ⟨rfl, failed⟩
  · exact isStored_insert inserted sourceEventId
  · by_cases taken : after.takes settings event
    · rcases failed taken with ⟨isExit, row, found, raises⟩
      simp [(read taken isExit row found).1] at raises
    · rw [takes_iff enabled] at taken
      by_cases isOwn : sourceEventId = event.sourceEventId
      · simp [isOwn, taken]
      · simp [isOwn]

theorem isStored_foldl (enabled : settings.candidateFsmEnabled = true) (sourceEventId : String) :
    ∀ (events : List CandidateSourceEvent) (tables : CandidateTables),
      (System.ofStep (applySourceEvent settings readings)).Along (ExitRead settings readings)
        tables events →
      (events.foldl (applySourceEvent settings readings) tables).isStored sourceEventId =
        (tables.isStored sourceEventId ||
          decide (sourceEventId ∈ events.map CandidateSourceEvent.sourceEventId)) := by
  intro events
  induction events with
  | nil =>
      simp
  | cons event events ih =>
      intro tables along
      rw [List.foldl_cons, ih (applySourceEvent settings readings tables event) along.2,
        isStored_apply enabled along.1]
      by_cases isOwn : sourceEventId = event.sourceEventId <;> simp [isOwn]

theorem sourcesOpen_foldl {events : List CandidateSourceEvent} (isOpen : tables.SourcesOpen)
    (along : (System.ofStep (applySourceEvent settings readings)).Along
      (ExitRead settings readings) tables events) :
    (events.foldl (applySourceEvent settings readings) tables).SourcesOpen := by
  rw [← System.run_ofStep]
  exact @System.Along.invariant _ _ _ (System.ofStep (applySourceEvent settings readings))
    SourcesOpen _ (fun _ _ isOpen read => isOpen.apply read) _ _ isOpen along

theorem isActive_foldl_others (tradeDate code conditionId : String) :
    ∀ (events : List CandidateSourceEvent) (tables : CandidateTables),
      (∀ event ∈ events, event.sourceType ≠ .conditionEnter ∧
        event.sourceType ≠ .conditionExit) →
      (events.foldl (applySourceEvent settings readings) tables).isActive
          (enterKey tradeDate code conditionId) =
        tables.isActive (enterKey tradeDate code conditionId) := by
  intro events
  induction events with
  | nil =>
      intro tables _
      rfl
  | cons event events ih =>
      intro tables others
      rcases others event List.mem_cons_self with ⟨notEnter, notExit⟩
      rw [List.foldl_cons, ih _ fun other listed => others other (List.mem_cons_of_mem _ listed),
        isActive_apply_other notEnter notExit]

/-- Applying the signals of a date sets each source to what the last of the new ones says. -/
theorem isActive_foldl_signals {host : Host} (spells : settings.SpellsActions)
    (enabled : settings.candidateFsmEnabled = true) (tradeDate date code conditionId : String) :
    ∀ (rows : List ConditionSignal) (tables : CandidateTables), tables.SourcesOpen →
      (rows.map (signalSourceEventId tradeDate)).Nodup →
      (System.ofStep (applySourceEvent settings readings)).Along (ExitRead settings readings)
        tables (rows.filterMap (conditionRowToSourceEvent host settings tradeDate)) →
      ((rows.filterMap (conditionRowToSourceEvent host settings tradeDate)).foldl
          (applySourceEvent settings readings) tables).isActive (enterKey date code conditionId) =
        if date = tradeDate then
          ((lastAction (rows.filter fun row =>
            !tables.isStored (signalSourceEventId tradeDate row)) code conditionId).map
              fun action => decide (action = .enter)).getD
                (tables.isActive (enterKey date code conditionId))
        else tables.isActive (enterKey date code conditionId) := by
  intro rows
  induction rows with
  | nil =>
      simp [lastAction]
  | cons row rows ih =>
      intro tables isOpen distinct along
      rcases conditionRowToSourceEvent_eq host spells tradeDate row with ⟨event, isEvent, isSignal⟩
      rw [List.map_cons, List.nodup_cons] at distinct
      rw [List.filterMap_cons_some isEvent] at along ⊢
      rw [List.foldl_cons]
      rcases along with ⟨read, later⟩
      rw [ih _ (isOpen.apply read) distinct.2 later]
      -- the rows that follow have other identifiers
      have sameRest : (rows.filter fun other =>
          !(applySourceEvent settings readings tables event).isStored
            (signalSourceEventId tradeDate other)) =
          rows.filter fun other => !tables.isStored (signalSourceEventId tradeDate other) := by
        apply List.filter_congr
        intro other listed
        rw [isStored_apply enabled read]
        have different : signalSourceEventId tradeDate other ≠ event.sourceEventId := by
          rw [isSignal.sourceEventId]
          intro same
          exact distinct.1 (same ▸ List.mem_map_of_mem listed)
        simp [different]
      rw [sameRest]
      by_cases stored : tables.isStored (signalSourceEventId tradeDate row) = true
      · have skipped : applySourceEvent settings readings tables event = tables := by
          have alone := @foldl_skipped settings readings tables [event] (by
            intro other listed
            rw [List.mem_singleton.mp listed, isSignal.sourceEventId]
            exact stored)
          exact alone
        rw [skipped, List.filter_cons_of_neg (by simp [stored])]
      · have taken : tables.takes settings event := by
          rw [takes_iff enabled, isSignal.sourceEventId]
          simpa using stored
        rw [isOpen.isActive_apply_signal isSignal taken read,
          List.filter_cons_of_pos (by simpa using stored), lastAction_cons]
        by_cases sameDate : date = tradeDate
        · by_cases isOf : row.isOf code conditionId = true
          · simp only [sameDate, isOf]
            cases lastAction (rows.filter fun other =>
              !tables.isStored (signalSourceEventId tradeDate other)) code conditionId <;> rfl
          · simp [isOf]
        · simp [sameDate]

end Stored

end CandidateTables

/-! ## Stored signals -/

def ConditionSignal.isPlain (host : Host) (row : ConditionSignal) : Bool :=
  !isProfileConditionMetadata (row.metadata host)

def ConditionSignal.isOn (tradeDate : String)
    (row : ConditionSignal) : Bool :=
  settings.tradeDateOf row.eventTs = tradeDate

def ownSourceEventId (row : ConditionSignal) : String :=
  signalSourceEventId (settings.tradeDateOf row.eventTs) row

section Signals

variable (host : Host) (settings : CandidateSettings) (tables : CandidateTables)

def plainIds : List String :=
  (tables.signals.rows.filter (ConditionSignal.isPlain host)).map (ownSourceEventId settings)

def storedSignals (tradeDate : String) : List ConditionSignal :=
  (plainSignals host settings tables tradeDate).filter fun row =>
    tables.isStored (signalSourceEventId tradeDate row)

def newSignals (tradeDate : String) : List ConditionSignal :=
  (plainSignals host settings tables tradeDate).filter fun row =>
    !tables.isStored (signalSourceEventId tradeDate row)

theorem filter_sortedByTime (selected : ConditionSignal → Bool) (rows : List ConditionSignal) :
    (rows.insertionSort fun left right => left.eventTs ≤ right.eventTs).filter selected =
      (rows.filter selected).insertionSort fun left right => left.eventTs ≤ right.eventTs :=
  @filter_insertionSort ConditionSignal (fun left right => left.eventTs ≤ right.eventTs) _
    (fun first second => le_total first.eventTs second.eventTs) (fun _ _ _ => le_trans) selected
    rows

variable {host settings tables} {tradeDate : String}

theorem plainSignals_eq :
    plainSignals host settings tables tradeDate =
      ((tables.signals.rows.filter (ConditionSignal.isOn settings tradeDate)).filter
        (ConditionSignal.isPlain host)).insertionSort
          fun left right => left.eventTs ≤ right.eventTs :=
  filter_sortedByTime _ _

variable {row : ConditionSignal}

theorem mem_plainSignals :
    row ∈ plainSignals host settings tables tradeDate ↔
      row ∈ tables.signals.rows ∧ settings.tradeDateOf row.eventTs = tradeDate ∧
        row.isPlain host = true := by
  rw [plainSignals_eq, List.mem_insertionSort, List.mem_filter, List.mem_filter,
    ConditionSignal.isOn, decide_eq_true_eq, and_assoc]

theorem ownSourceEventId_of_mem (listed : row ∈ plainSignals host settings tables tradeDate) :
    signalSourceEventId tradeDate row = ownSourceEventId settings row := by
  rw [ownSourceEventId, (mem_plainSignals.mp listed).2.1]

theorem mem_plainIds (listed : row ∈ plainSignals host settings tables tradeDate) :
    signalSourceEventId tradeDate row ∈ plainIds host settings tables := by
  rcases mem_plainSignals.mp listed with ⟨present, _, plain⟩
  rw [ownSourceEventId_of_mem listed]
  exact List.mem_map_of_mem (List.mem_filter.mpr ⟨present, plain⟩)

theorem nodup_plainSignals (distinct : (plainIds host settings tables).Nodup)
    (tradeDate : String) :
    ((plainSignals host settings tables tradeDate).map
      (signalSourceEventId tradeDate)).Nodup := by
  have own : (plainSignals host settings tables tradeDate).map (signalSourceEventId tradeDate) =
      (plainSignals host settings tables tradeDate).map (ownSourceEventId settings) :=
    List.map_congr_left fun row listed => ownSourceEventId_of_mem listed
  rw [own, plainSignals_eq]
  refine ((List.perm_insertionSort _ _).map _).nodup_iff.mpr (distinct.sublist ?_)
  rw [List.filter_comm]
  exact List.filter_sublist.map _

theorem sourceEventId_ne (distinct : (plainIds host settings tables).Nodup)
    {row other : ConditionSignal} {date : String} (different : date ≠ tradeDate)
    (listed : row ∈ plainSignals host settings tables date)
    (otherListed : other ∈ plainSignals host settings tables tradeDate) :
    signalSourceEventId date row ≠ signalSourceEventId tradeDate other := by
  intro same
  rw [ownSourceEventId_of_mem listed, ownSourceEventId_of_mem otherListed] at same
  rcases mem_plainSignals.mp listed with ⟨present, isDate, plain⟩
  rcases mem_plainSignals.mp otherListed with ⟨otherPresent, isTradeDate, otherPlain⟩
  have isOther := List.inj_on_of_nodup_map distinct (List.mem_filter.mpr ⟨present, plain⟩)
    (List.mem_filter.mpr ⟨otherPresent, otherPlain⟩) same
  rw [isOther, isTradeDate] at isDate
  exact different isDate.symm

theorem storedSignals_congr {after : CandidateTables} (sameSignals : after.signals = tables.signals)
    (sameStored : ∀ row ∈ plainSignals host settings tables tradeDate,
      after.isStored (signalSourceEventId tradeDate row) =
        tables.isStored (signalSourceEventId tradeDate row)) :
    storedSignals host settings after tradeDate = storedSignals host settings tables tradeDate := by
  have sameRows : plainSignals host settings after tradeDate =
      plainSignals host settings tables tradeDate := by
    rw [plainSignals, plainSignals, sameSignals]
  rw [storedSignals, sameRows]
  exact List.filter_congr sameStored

end Signals

/-! ## The invariant -/

/-- A source of a plain condition is active just when the last of its stored signals enters. -/
structure ActivityKept (host : Host) (settings : CandidateSettings) (tables : CandidateTables) :
    Prop where
  sourcesOpen : tables.SourcesOpen
  distinct : (plainIds host settings tables).Nodup
  agrees : ∀ tradeDate code conditionId,
    tables.isActive (enterKey tradeDate code conditionId) =
      decide (lastAction (storedSignals host settings tables tradeDate) code conditionId =
        some .enter)
  disabled : settings.candidateFsmEnabled = false → tables.episodes = []

theorem activityKept_initial (host : Host) (settings : CandidateSettings) :
    ActivityKept host settings .initial where
  sourcesOpen := CandidateTables.sourcesOpen_initial
  distinct := List.nodup_nil
  agrees _ _ _ := rfl
  disabled _ := rfl

section Keep

variable {host : Host} {settings : CandidateSettings} {tables after : CandidateTables}

theorem ActivityKept.congr (kept : ActivityKept host settings tables)
    (sourcesOpen : after.SourcesOpen) (sameSignals : after.signals = tables.signals)
    (sameStored : ∀ id ∈ plainIds host settings tables, after.isStored id = tables.isStored id)
    (sameActive : ∀ tradeDate code conditionId,
      after.isActive (enterKey tradeDate code conditionId) =
        tables.isActive (enterKey tradeDate code conditionId))
    (disabled : settings.candidateFsmEnabled = false → after.episodes = []) :
    ActivityKept host settings after where
  sourcesOpen := sourcesOpen
  distinct := by
    rw [plainIds, sameSignals]
    exact kept.distinct
  agrees := by
    intro tradeDate code conditionId
    rw [sameActive, kept.agrees, storedSignals_congr sameSignals]
    intro row listed
    exact sameStored _ (mem_plainIds listed)
  disabled := disabled

theorem ActivityKept.refresh (kept : ActivityKept host settings tables)
    {candidateInstanceId : CandidateInstanceId} {readings : RefreshReadings}
    (closes : CandidateTables.ClosesExited settings tables candidateInstanceId readings) :
    ActivityKept host settings
      (refreshCandidateContext settings tables candidateInstanceId readings).2 := by
  apply kept.congr (kept.sourcesOpen.refresh closes) (signals_refresh _ _ _ _)
  · intro id _
    rw [CandidateTables.isStored, sourceEvents_refresh]
    rfl
  · intro tradeDate code conditionId
    exact CandidateTables.isActive_congr (latestSources_refresh _ _ _ _) _
  · intro disabled
    rw [episodes_refresh, kept.disabled disabled]
    rfl

/-- The two refreshes of a rebuild close only a candidate without active source. -/
def PassExited (settings : CandidateSettings)
    (readings : CandidateInstanceId → Nat → RefreshReadings) (tables : CandidateTables)
    (candidateInstanceId : CandidateInstanceId) : Prop :=
  let once := (refreshCandidateContext settings tables candidateInstanceId
    (readings candidateInstanceId 0)).2
  CandidateTables.ClosesExited settings tables candidateInstanceId
      (readings candidateInstanceId 0) ∧
    (refreshTwice settings readings tables candidateInstanceId = once ∨
      CandidateTables.ClosesExited settings once candidateInstanceId
        (readings candidateInstanceId 1))

theorem ActivityKept.refreshTwice (kept : ActivityKept host settings tables)
    {readings : CandidateInstanceId → Nat → RefreshReadings}
    {candidateInstanceId : CandidateInstanceId}
    (closes : PassExited settings readings tables candidateInstanceId) :
    ActivityKept host settings (refreshTwice settings readings tables candidateInstanceId) := by
  rcases closes with ⟨first, second⟩
  have once := kept.refresh first
  rcases second with same | second
  · rw [same]
    exact once
  · rcases refreshTwice_cases settings readings tables candidateInstanceId with same | same
    · rw [same]
      exact once
    · rw [same]
      exact once.refresh second

theorem ActivityKept.merge (kept : ActivityKept host settings tables)
    {event : CandidateSourceEvent} {now : String} (notEnter : event.sourceType ≠ .conditionEnter)
    (fresh : event.sourceEventId ∉ plainIds host settings tables) :
    ActivityKept host settings (mergeSourceEvent settings tables event now) := by
  by_cases taken : tables.takes settings event
  · apply kept.congr kept.sourcesOpen.merge (signals_merge now taken)
    · intro id isPlain
      have different : id ≠ event.sourceEventId := by
        rintro rfl
        exact fresh isPlain
      have inserted : (tables.sourceEvents.insert?
          ⟨event, some (tables.candidateFor event now).2, true⟩).isSome = true :=
        Table.insert?_isSome_iff.mpr taken.2
      rcases Option.isSome_iff_exists.mp inserted with ⟨stored, isInserted⟩
      have sameEvents : tables.sourceEvents.insert?
          ⟨event, some (tables.candidateFor event now).2, true⟩ =
            some (mergeSourceEvent settings tables event now).sourceEvents := by
        rw [sourceEvents_merge now taken, CandidateTables.insertSourceEvent, isInserted]
        rfl
      rw [CandidateTables.isStored_insert sameEvents]
      simp [different]
    · intro tradeDate code conditionId
      rw [CandidateTables.isActive_merge taken, if_neg]
      intro sameKey
      exact notEnter (congrArg SourceKey.sourceType sameKey).symm
    · intro disabled
      rw [taken.1] at disabled
      cases disabled
  · rw [mergeSourceEvent_of_not_takes settings tables event now taken]
    exact kept

end Keep

end SuseokTrader
