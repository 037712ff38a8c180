import SuseokTrader.Candidate.SourceSchedule

/-!
# Rebuilds on any schedule

Signals arrive in any order and rebuilds come at any time. After each rebuild the
open candidates of its date have as active conditions those whose last signal is
an entry, in every run in which late signals agree with the latest ones.
-/

namespace SuseokTrader

variable (host : Host) (settings : CandidateSettings) (tables : CandidateTables)

def LateAgrees (tradeDate : String) : Prop :=
  ∀ code conditionId action,
    lastAction (newSignals host settings tables tradeDate) code conditionId = some action →
      lastAction (plainSignals host settings tables tradeDate) code conditionId = some action

/-- No two source events share an identifier, exits can be read, refreshes close only candidates
without active source, and late signals agree. -/
def ScheduleAgrees :
    CandidateOp → Prop
  | .signal row =>
      (tables.signals.insert? row).isSome = true → row.isPlain host = true →
        ownSourceEventId settings row ∉ plainIds host settings tables ∧
          tables.isStored (ownSourceEventId settings row) = false
  | .source other _ => other.event.sourceEventId ∉ plainIds host settings tables
  | .refresh candidateInstanceId readings =>
      CandidateTables.ClosesExited settings tables candidateInstanceId readings
  | .fuseCode _ _ _ => True
  | .rebuild tradeDate readings =>
      settings.candidateFsmEnabled = true → ∀ fusions,
        conditionFusions host settings.tradeDateOf tables.signals tradeDate readings.now =
            .ok fusions →
          let fused := tables.withFusions fusions
          let events := ingestedEvents host settings fused tradeDate readings
          let ingested := events.foldl (applySourceEvent settings readings.sources) fused
          (∀ event ∈ fusionSources fused tradeDate ++ readings.themeSources,
              event.sourceEventId ∉ plainIds host settings tables) ∧
            (System.ofStep (applySourceEvent settings readings.sources)).Along
              (ExitRead settings readings.sources) fused events ∧
            (System.ofStep (refreshTwice settings readings.refreshes)).Along
              (PassExited settings readings.refreshes) ingested
              (ingested.listActiveCandidates tradeDate) ∧
            LateAgrees host settings tables tradeDate

/-- The active conditions of every open candidate of the date are those whose last signal is an
entry. -/
def SourcesTellSignals (tradeDate : String) : Prop :=
  ∀ id state, id.tradeDate = tradeDate → tables.stateOf id = some state → state ≠ .closed →
    ∀ conditionId,
      (∃ row ∈ tables.listLatestSourceRows id true,
        row.key.sourceType = .conditionEnter ∧ row.key.sourceId = conditionId) ↔
      lastAction (plainSignals host settings tables tradeDate) id.code conditionId = some .enter

section Tell

variable {host : Host} {settings : CandidateSettings} {tables : CandidateTables}

/-- An open candidate has the source of a condition just when the source is active. -/
theorem SourcesOpen.hasSource_iff (isOpen : tables.SourcesOpen) {id : CandidateInstanceId}
    {state : CandidateState} (isState : tables.stateOf id = some state)
    (stillOpen : state ≠ .closed) (conditionId : String) :
    (∃ row ∈ tables.listLatestSourceRows id true,
        row.key.sourceType = .conditionEnter ∧ row.key.sourceId = conditionId) ↔
      tables.isActive (enterKey id.tradeDate id.code conditionId) = true := by
  constructor
  · rintro ⟨row, listed, isEnter, rfl⟩
    simp only [CandidateTables.listLatestSourceRows, List.mem_filter, Bool.and_eq_true,
      decide_eq_true_eq] at listed
    rcases listed with ⟨present, isOwn, active⟩
    have isKey : row.key = enterKey id.tradeDate id.code row.key.sourceId := by
      rw [enterKey, ← isEnter, ← isOwn]
      rfl
    have found : tables.latestSources.find? row.key = some row := Table.find?_of_mem present
    rw [CandidateTables.isActive, ← isKey, found]
    exact active
  · intro isActive
    unfold CandidateTables.isActive at isActive
    cases found : tables.latestSources.find? (enterKey id.tradeDate id.code conditionId) with
    | none => simp [found] at isActive
    | some row =>
        have isKey : row.key = enterKey id.tradeDate id.code conditionId :=
          Table.key_of_find? found
        have present := Table.mem_of_find? found
        have active : row.active = true := by simpa [found] using isActive
        rcases isOpen.activeOpen row present active with ⟨other, isOther, otherOpen⟩
        rcases CandidateTables.mem_episodes_of_stateOf isState with ⟨own, isOwn, ownId, rfl⟩
        rcases CandidateTables.mem_episodes_of_stateOf isOther with
          ⟨linked, isLinked, linkedId, rfl⟩
        have sameId := isOpen.single linked isLinked own isOwn otherOpen stillOpen
          (by rw [linkedId, ownId]; simp [LatestSource.candidateInstanceId, isKey, enterKey])
          (by rw [linkedId, ownId]; simp [LatestSource.candidateInstanceId, isKey, enterKey])
        rw [linkedId, ownId] at sameId
        refine ⟨row, ?_, by rw [isKey]; rfl, by rw [isKey]; rfl⟩
        simp [CandidateTables.listLatestSourceRows, present, sameId, active]

theorem ActivityKept.tells (kept : ActivityKept host settings tables) {tradeDate : String}
    (allStored : ∀ row ∈ plainSignals host settings tables tradeDate,
      tables.isStored (signalSourceEventId tradeDate row) = true) :
    SourcesTellSignals host settings tables tradeDate := by
  intro id state sameDate isState stillOpen conditionId
  rw [SourcesOpen.hasSource_iff kept.sourcesOpen isState stillOpen, kept.agrees, sameDate,
    storedSignals, List.filter_eq_self.mpr allStored, decide_eq_true_eq]

end Tell

/-! ## Steps -/

section Steps

variable {host : Host} {settings : CandidateSettings} {tables : CandidateTables}

theorem ActivityKept.signal (kept : ActivityKept host settings tables) {row : ConditionSignal}
    (fresh : (tables.signals.insert? row).isSome = true → row.isPlain host = true →
      ownSourceEventId settings row ∉ plainIds host settings tables ∧
        tables.isStored (ownSourceEventId settings row) = false) :
    ActivityKept host settings (tables.next host settings (.signal row)) := by
  change ActivityKept host settings
    { tables with signals := (tables.signals.insert? row).getD tables.signals }
  cases inserted : tables.signals.insert? row with
  | none => exact kept
  | some signals =>
      have rows := Table.rows_of_insert? inserted
      have isFresh := fresh (by rw [inserted]; rfl)
      refine ⟨kept.sourcesOpen.congr rfl rfl, ?_, ?_, kept.disabled⟩
      · simp only [plainIds, Option.getD_some, rows]
        by_cases plain : row.isPlain host = true
        · have extended := kept.distinct.concat (isFresh plain).1
          simpa [plain, plainIds] using extended
        · simpa [plain, plainIds] using kept.distinct
      · intro tradeDate code conditionId
        have sameStored : storedSignals host settings
            { tables with signals := (some signals).getD tables.signals } tradeDate =
              storedSignals host settings tables tradeDate := by
          have dropped : (((([row].filter (ConditionSignal.isOn settings tradeDate)).filter
              (ConditionSignal.isPlain host)).filter fun row =>
                tables.isStored (signalSourceEventId tradeDate row))) = [] := by
            rw [List.filter_eq_nil_iff]
            intro other listed
            rw [List.mem_filter, List.mem_filter, List.mem_singleton] at listed
            rcases listed with ⟨⟨rfl, isOn⟩, plain⟩
            have isDate : settings.tradeDateOf other.eventTs = tradeDate := by
              simpa [ConditionSignal.isOn] using isOn
            have notStored := (isFresh plain).2
            rw [ownSourceEventId, isDate] at notStored
            simp [notStored]
          simp only [storedSignals, plainSignals_eq, filter_sortedByTime, Option.getD_some, rows,
            List.filter_append]
          change (_ ++ List.filter (fun row => tables.isStored (signalSourceEventId tradeDate row))
            _ : List ConditionSignal).insertionSort _ = _
          rw [dropped, List.append_nil]
          rfl
        rw [sameStored]
        exact kept.agrees tradeDate code conditionId

theorem fusionSources_others {tradeDate : String} {event : CandidateSourceEvent}
    (listed : event ∈ fusionSources tables tradeDate) :
    event.sourceType ≠ .conditionEnter ∧ event.sourceType ≠ .conditionExit := by
  rcases List.mem_map.mp listed with ⟨fusion, _, rfl⟩
  simp only [fusionRowToSourceEvent, fusionSourceType]
  repeat' split
  all_goals exact ⟨by decide, by decide⟩

theorem themeSources_others {readings : RebuildReadings} {event : CandidateSourceEvent}
    (listed : event ∈ readings.themeSources) :
    event.sourceType ≠ .conditionEnter ∧ event.sourceType ≠ .conditionExit := by
  have isTheme := readings.themesOnly event listed
  constructor
  · intro isEnter
    simp [isEnter, CandidateSourceType.isTheme] at isTheme
  · intro isExit
    simp [isExit, CandidateSourceType.isTheme] at isTheme

section Ingest

variable {tradeDate : String} {readings : RebuildReadings} {fused : CandidateTables}
  (spells : settings.SpellsActions) (enabled : settings.candidateFsmEnabled = true)
  (distinct : (plainIds host settings fused).Nodup)
  (apart : ∀ event ∈ fusionSources fused tradeDate ++ readings.themeSources,
    event.sourceEventId ∉ plainIds host settings fused)
  (read : (System.ofStep (applySourceEvent settings readings.sources)).Along
    (ExitRead settings readings.sources) fused
    (ingestedEvents host settings fused tradeDate readings))
include spells enabled distinct apart read

theorem isStored_ingest {date : String} {row : ConditionSignal}
    (listed : row ∈ plainSignals host settings fused date) :
    ((ingestedEvents host settings fused tradeDate readings).foldl
        (applySourceEvent settings readings.sources) fused).isStored
          (signalSourceEventId date row) =
      (fused.isStored (signalSourceEventId date row) || decide (date = tradeDate)) := by
  rw [CandidateTables.isStored_foldl enabled _ _ _ read]
  congr 1
  rw [decide_eq_decide]
  constructor
  · intro named
    rcases List.mem_map.mp named with ⟨event, isEvent, sameId⟩
    rcases List.mem_append.mp isEvent with isEvent | isTheme
    · rcases List.mem_append.mp isEvent with isFusion | isSignal
      · refine absurd (mem_plainIds listed) ?_
        rw [← sameId]
        exact apart event (List.mem_append_left _ isFusion)
      · rcases List.mem_filterMap.mp isSignal with ⟨other, otherListed, isOther⟩
        rcases conditionRowToSourceEvent_eq host spells tradeDate other with
          ⟨otherEvent, isOtherEvent, signals⟩
        rw [isOther, Option.some.injEq] at isOtherEvent
        subst isOtherEvent
        by_contra different
        exact sourceEventId_ne distinct different listed otherListed
          (sameId.symm.trans signals.sourceEventId)
    · refine absurd (mem_plainIds listed) ?_
      rw [← sameId]
      exact apart event (List.mem_append_right _ isTheme)
  · rintro rfl
    rcases conditionRowToSourceEvent_eq host spells date row with ⟨event, isEvent, isSignal⟩
    refine List.mem_map.mpr ⟨event, ?_, isSignal.sourceEventId⟩
    refine List.mem_append_left _ (List.mem_append_right _ ?_)
    exact List.mem_filterMap.mpr ⟨row, listed, isEvent⟩

/-- It sets each source of the date to what the last of the new signals says. -/
theorem isActive_ingest (isOpen : fused.SourcesOpen) (date code conditionId : String) :
    ((ingestedEvents host settings fused tradeDate readings).foldl
        (applySourceEvent settings readings.sources) fused).isActive
          (enterKey date code conditionId) =
      if date = tradeDate then
        ((lastAction (newSignals host settings fused tradeDate) code conditionId).map
          fun action => decide (action = .enter)).getD
            (fused.isActive (enterKey date code conditionId))
      else fused.isActive (enterKey date code conditionId) := by
  rw [ingestedEvents, System.along_append, System.along_append, System.run_ofStep] at read
  rcases read with ⟨⟨readFusions, readSignals⟩, _⟩
  have sameNew : ((plainSignals host settings fused tradeDate).filter fun row =>
      !((fusionSources fused tradeDate).foldl (applySourceEvent settings readings.sources)
        fused).isStored (signalSourceEventId tradeDate row)) =
      newSignals host settings fused tradeDate := by
    apply List.filter_congr
    intro row listed
    have notFusion : signalSourceEventId tradeDate row ∉
        (fusionSources fused tradeDate).map CandidateSourceEvent.sourceEventId := by
      intro named
      rcases List.mem_map.mp named with ⟨event, isEvent, sameId⟩
      refine apart event (List.mem_append_left _ isEvent) ?_
      rw [sameId]
      exact mem_plainIds listed
    rw [CandidateTables.isStored_foldl enabled _ _ _ readFusions]
    simp [notFusion]
  have fusionOpen := CandidateTables.sourcesOpen_foldl isOpen readFusions
  rw [ingestedEvents, List.foldl_append, List.foldl_append,
    CandidateTables.isActive_foldl_others date code conditionId _ _ fun event listed =>
      themeSources_others listed,
    CandidateTables.isActive_foldl_signals spells enabled tradeDate date code conditionId _ _
      fusionOpen (nodup_plainSignals distinct tradeDate) readSignals, sameNew,
    CandidateTables.isActive_foldl_others date code conditionId _ _ fun event listed =>
      fusionSources_others listed]

end Ingest

/-- After a rebuild every signal of its date is stored and every source tells its last one. -/
theorem ActivityKept.ingest (kept : ActivityKept host settings tables) {tradeDate : String}
    {readings : RebuildReadings} {fusions : List ConditionFusion} (spells : settings.SpellsActions)
    (enabled : settings.candidateFsmEnabled = true)
    (apart : ∀ event ∈ fusionSources (tables.withFusions fusions) tradeDate ++
      readings.themeSources, event.sourceEventId ∉ plainIds host settings tables)
    (read : (System.ofStep (applySourceEvent settings readings.sources)).Along
      (ExitRead settings readings.sources) (tables.withFusions fusions)
      (ingestedEvents host settings (tables.withFusions fusions) tradeDate readings))
    (late : LateAgrees host settings tables tradeDate) :
    let ingested := (ingestedEvents host settings (tables.withFusions fusions) tradeDate
      readings).foldl (applySourceEvent settings readings.sources) (tables.withFusions fusions)
    ActivityKept host settings ingested ∧
      ∀ row ∈ plainSignals host settings ingested tradeDate,
        ingested.isStored (signalSourceEventId tradeDate row) = true := by
  intro ingested
  let fused := tables.withFusions fusions
  have fusedOpen : fused.SourcesOpen := kept.sourcesOpen.congr rfl rfl
  have distinct : (plainIds host settings fused).Nodup := kept.distinct
  have sameSignals : ingested.signals = fused.signals := signals_foldl settings _ _ _
  have sameRows (date : String) : plainSignals host settings ingested date =
      plainSignals host settings fused date := by
    rw [plainSignals, plainSignals, sameSignals]
  have stored {date : String} {row : ConditionSignal}
      (listed : row ∈ plainSignals host settings fused date) :=
    isStored_ingest spells enabled distinct apart read listed
  have active := isActive_ingest spells enabled distinct apart read fusedOpen
  have allStored : ∀ row ∈ plainSignals host settings ingested tradeDate,
      ingested.isStored (signalSourceEventId tradeDate row) = true := by
    intro row listed
    rw [sameRows] at listed
    rw [stored listed]
    simp
  refine ⟨⟨CandidateTables.sourcesOpen_foldl fusedOpen read, ?_, ?_, ?_⟩, allStored⟩
  · rw [plainIds, sameSignals]
    exact kept.distinct
  · intro date code conditionId
    rw [active]
    by_cases sameDate : date = tradeDate
    · subst sameDate
      rw [if_pos rfl, storedSignals, List.filter_eq_self.mpr allStored, sameRows]
      cases isNew : lastAction (newSignals host settings fused date) code conditionId with
      | none =>
          have older := lastAction_filter_of_none isNew
          rw [← older]
          exact kept.agrees date code conditionId
      | some action =>
          have latest := late code conditionId action isNew
          change lastAction (plainSignals host settings fused date) code conditionId = _ at latest
          rw [latest]
          simp
    · rw [if_neg sameDate, storedSignals_congr sameSignals]
      · exact kept.agrees date code conditionId
      · intro row listed
        rw [stored listed]
        simp [sameDate]
  · intro disabled
    rw [enabled] at disabled
    cases disabled

theorem ActivityKept.next (kept : ActivityKept host settings tables) (op : CandidateOp)
    (spells : settings.SpellsActions) (agrees : ScheduleAgrees host settings tables op) :
    ActivityKept host settings (tables.next host settings op) ∧
      ∀ tradeDate readings, op = .rebuild tradeDate readings →
        (conditionFusions host settings.tradeDateOf tables.signals tradeDate
          readings.now).toOption.isSome = true →
        SourcesTellSignals host settings (tables.next host settings op) tradeDate := by
  cases op with
  | signal row => exact ⟨kept.signal agrees, by simp⟩
  | source other now =>
      refine ⟨kept.merge ?_ agrees, by simp⟩
      intro isEnter
      have notCondition := other.notCondition
      simp [isEnter, CandidateSourceType.isCondition] at notCondition
  | refresh candidateInstanceId readings => exact ⟨kept.refresh agrees, by simp⟩
  | fuseCode code tradeDate now =>
      refine ⟨?_, by simp⟩
      unfold CandidateTables.next rebuildConditionFusionForCode
      simp only
      split
      · next fused isFused =>
          rcases Checked.bind_eq_ok.mp isFused with ⟨events, _, rest⟩
          rcases Checked.bind_eq_ok.mp rest with ⟨fusions, _, isTables⟩
          cases isTables
          exact kept.congr (kept.sourcesOpen.congr rfl rfl) rfl (fun _ _ => rfl)
            (fun _ _ _ => rfl) kept.disabled
      · exact kept
  | rebuild tradeDate readings =>
      rw [next_rebuild, ingestSources_eq]
      by_cases enabled : settings.candidateFsmEnabled = true
      · cases fused : conditionFusions host settings.tradeDateOf tables.signals tradeDate
            readings.now with
        | error failure =>
            simp only [enabled, if_true, Except.map]
            refine ⟨kept, ?_⟩
            rintro date other same fuses
            cases same
            rw [fused] at fuses
            cases fuses
        | ok fusions =>
            rcases agrees enabled fusions fused with ⟨apart, read, passes, late⟩
            rcases kept.ingest spells enabled apart read late with ⟨ingested, stored⟩
            have passed := @System.Along.invariant _ _ _
              (System.ofStep (SuseokTrader.refreshTwice settings readings.refreshes))
              (ActivityKept host settings) _
              (fun _ _ kept closes => ActivityKept.refreshTwice kept closes) _ _ ingested passes
            rw [System.run_ofStep] at passed
            simp only [enabled, if_true, Except.map]
            refine ⟨passed, ?_⟩
            rintro date other same _
            cases same
            apply passed.tells
            intro row listed
            rw [plainSignals, signals_refreshAll] at listed
            rw [CandidateTables.isStored, sourceEvents_refreshAll]
            exact stored row listed
      · rw [if_neg enabled]
        refine ⟨kept, ?_⟩
        intro date other _ _ id state _ isState stillOpen
        rcases CandidateTables.mem_episodes_of_stateOf isState with ⟨episode, present, _⟩
        rw [kept.disabled (by simpa using enabled)] at present
        cases present

end Steps

def plainSignal (eventId eventTs : String) (action : ConditionEventAction) : ConditionSignal where
  eventId := eventId
  conditionId := "C1"
  conditionName := "Breakout"
  code := "005930"
  name := "SAMSUNG"
  action := action
  price := none
  eventTs := eventTs
  receivedAt := eventTs
  source := "kiwoom"
  metadataJson := "\x7b\x7d"

def rebuildReadings : RebuildReadings where
  now := 0
  themeSources := []
  themesOnly := noThemes
  sources := fun _ =>
    { now := "2025-01-02T00:10:00Z"
      refresh := fun _ => { freshTick true with now := "2025-01-02T00:10:00Z" } }
  refreshes := fun _ _ => { freshTick true with now := "2025-01-02T00:10:00Z" }

/-- An entry at the first minute, an exit at the third, a rebuild; then an entry at the second
minute comes in, and a rebuild follows. -/
def lateEntryOps : List CandidateOp :=
  [.signal (plainSignal "E1" "2025-01-02T00:01:00Z" .enter),
    .signal (plainSignal "E3" "2025-01-02T00:03:00Z" .exit),
    .rebuild "2025-01-02" rebuildReadings,
    .signal (plainSignal "E2" "2025-01-02T00:02:00Z" .enter),
    .rebuild "2025-01-02" rebuildReadings]

def entryOps : List CandidateOp :=
  [.signal (plainSignal "E1" "2025-01-02T00:01:00Z" .enter),
    .rebuild "2025-01-02" rebuildReadings]

def enteredTables : CandidateTables :=
  (candidateSystem textHost defaultSettings).run .initial
    [.signal (plainSignal "E1" "2025-01-02T00:01:00Z" .enter)]

theorem conditionFusions_entered (now : Instant) :
    conditionFusions textHost defaultSettings.tradeDateOf enteredTables.signals "2025-01-02" now =
      .ok [] := by
  have noProfile : (signalsOfDate defaultSettings.tradeDateOf enteredTables.signals
      "2025-01-02").filter (fun row => isProfileConditionMetadata (row.metadata textHost)) = []
    := by
    decide +kernel
  rw [conditionFusions, profileEvents, noProfile]
  rfl

theorem exitRead_of_noExit {settings : CandidateSettings} {readings : String → SourceReadings} :
    ∀ {events : List CandidateSourceEvent} (tables : CandidateTables),
      (events.all fun event => event.sourceType ≠ .conditionExit) = true →
      (System.ofStep (applySourceEvent settings readings)).Along (ExitRead settings readings)
        tables events := by
  intro events
  induction events with
  | nil =>
      intro tables _
      trivial
  | cons event events ih =>
      intro tables noExit
      rw [List.all_cons, Bool.and_eq_true, decide_eq_true_eq] at noExit
      exact ⟨fun _ isExit => absurd isExit noExit.1, ih _ noExit.2⟩

end SuseokTrader
