import SuseokTrader.Candidate.Episodes
import SuseokTrader.Lib.Sorting

/-!
# Which sources are active

An entry into a plain condition begins the source of the condition, an exit ends
it, and a candidate without active sources closes. A rebuild applies the signals
it has not applied yet in the order of their times, after those of the rebuilds
before it. So the source tells the last signal of its condition as long as a
signal that comes late says what the latest one says.
-/

namespace SuseokTrader

/-! ## Open candidates and their sources -/

namespace CandidateTables

def isActive (tables : CandidateTables) (key : SourceKey) : Bool :=
  (tables.latestSources.find? key).any LatestSource.active

/-- A code has one open candidate at most, and every active source belongs to an open one. -/
structure SourcesOpen (tables : CandidateTables) : Prop where
  single : ∀ first ∈ tables.episodes, ∀ second ∈ tables.episodes,
    first.state ≠ .closed → second.state ≠ .closed →
    first.candidateInstanceId.tradeDate = second.candidateInstanceId.tradeDate →
    first.candidateInstanceId.code = second.candidateInstanceId.code →
      first.candidateInstanceId = second.candidateInstanceId
  activeOpen : ∀ row ∈ tables.latestSources.rows, row.active = true →
    ∃ state, tables.stateOf row.candidateInstanceId = some state ∧ state ≠ .closed

/-- A refresh closes the candidate only if it has no active source. -/
def ClosesExited (settings : CandidateSettings) (tables : CandidateTables)
    (candidateInstanceId : CandidateInstanceId) (readings : RefreshReadings) : Prop :=
  (refreshCandidateContext settings tables candidateInstanceId readings).2.stateOf
      candidateInstanceId = some .closed →
    tables.stateOf candidateInstanceId ≠ some .closed →
      tables.listLatestSourceRows candidateInstanceId true = []

theorem sourcesOpen_initial : SourcesOpen CandidateTables.initial where
  single := by simp [initial, episodes]
  activeOpen := by simp [initial]

theorem SourcesOpen.congr {before after : CandidateTables} (isOpen : before.SourcesOpen)
    (episodes : after.episodes = before.episodes)
    (latestSources : after.latestSources = before.latestSources) : after.SourcesOpen where
  single := by
    rw [episodes]
    exact isOpen.single
  activeOpen := by
    rw [latestSources]
    intro row present isActive
    rw [stateOf_of_episodes episodes]
    exact isOpen.activeOpen row present isActive

section Open

variable {settings : CandidateSettings} {tables : CandidateTables}

variable {candidateInstanceId : CandidateInstanceId} {event : CandidateSourceEvent} {now : String}

theorem mem_episodes_of_stateOf {state : CandidateState}
    (isState : tables.stateOf candidateInstanceId = some state) :
    ∃ episode ∈ tables.episodes, episode.candidateInstanceId = candidateInstanceId ∧
      episode.state = state := by
  rcases Option.map_eq_some_iff.mp isState with ⟨row, found, isRow⟩
  exact ⟨row.episode, List.mem_map_of_mem (Table.mem_of_find? found),
    Table.key_of_find? found, isRow⟩

theorem SourcesOpen.eq_found (isOpen : tables.SourcesOpen) {tradeDate code : String}
    {row : CandidateRow} (found : tables.findActiveCandidate tradeDate code = some row)
    {state : CandidateState} (isState : tables.stateOf candidateInstanceId = some state)
    (stillOpen : state ≠ .closed) (sameDate : candidateInstanceId.tradeDate = tradeDate)
    (sameCode : candidateInstanceId.code = code) :
    candidateInstanceId = row.candidateInstanceId := by
  rcases findActiveCandidate_mem found with ⟨present, rowDate, rowCode, rowOpen⟩
  rcases mem_episodes_of_stateOf isState with ⟨episode, isEpisode, rfl, rfl⟩
  exact isOpen.single episode isEpisode row.episode (List.mem_map_of_mem present) stillOpen rowOpen
    (sameDate.trans rowDate.symm) (sameCode.trans rowCode.symm)

theorem SourcesOpen.refresh {readings : RefreshReadings} (isOpen : tables.SourcesOpen)
    (closes : ClosesExited settings tables candidateInstanceId readings) :
    (refreshCandidateContext settings tables candidateInstanceId readings).2.SourcesOpen where
  single := by
    have earlier : ∀ episode ∈ (refreshCandidateContext settings tables candidateInstanceId
        readings).2.episodes, episode.state ≠ .closed →
          ∃ before ∈ tables.episodes, before.state ≠ .closed ∧
            before.candidateInstanceId = episode.candidateInstanceId := by
      intro episode present stillOpen
      rcases mem_episodes_refresh present with ⟨before, wasThere, sameId, rfl | ⟨wasOpen, _⟩⟩
      · exact ⟨episode, wasThere, stillOpen, rfl⟩
      · exact ⟨before, wasThere, wasOpen, sameId.symm⟩
    intro first isFirst second isSecond firstOpen secondOpen sameDate sameCode
    rcases earlier first isFirst firstOpen with ⟨one, wasOne, oneOpen, oneId⟩
    rcases earlier second isSecond secondOpen with ⟨two, wasTwo, twoOpen, twoId⟩
    rw [← oneId, ← twoId] at sameDate sameCode ⊢
    exact isOpen.single one wasOne two wasTwo oneOpen twoOpen sameDate sameCode
  activeOpen := by
    rw [latestSources_refresh]
    intro row present isActive
    rcases isOpen.activeOpen row present isActive with ⟨state, isState, stillOpen⟩
    by_cases isOwn : row.candidateInstanceId = candidateInstanceId
    · rw [isOwn] at isState ⊢
      rcases Option.ne_none_iff_exists'.mp (show (refreshCandidateContext settings tables
          candidateInstanceId readings).2.stateOf candidateInstanceId ≠ none by
            rw [stateOf_refresh, isState]; simp) with ⟨after, isAfter⟩
      refine ⟨after, isAfter, ?_⟩
      rintro rfl
      have none := closes isAfter (by rw [isState]; simpa using stillOpen)
      have listed : row ∈ tables.listLatestSourceRows candidateInstanceId true := by
        simp [listLatestSourceRows, present, isOwn, isActive]
      rw [none] at listed
      cases listed
    · rw [stateOf_refresh_of_ne settings tables candidateInstanceId readings isOwn]
      exact ⟨state, isState, stillOpen⟩

theorem SourcesOpen.create (isOpen : tables.SourcesOpen)
    (noneOpen : tables.findActiveCandidate event.tradeDate event.code = none) :
    (tables.createCandidate event now).1.SourcesOpen where
  single := by
    have closed : ∀ episode ∈ tables.episodes,
        episode.candidateInstanceId.tradeDate = event.tradeDate →
          episode.candidateInstanceId.code = event.code → episode.state = .closed := by
      intro episode present sameDate sameCode
      rcases List.mem_map.mp present with ⟨row, rowPresent, rfl⟩
      exact findActiveCandidate_eq_none.mp noneOpen row rowPresent sameDate sameCode
    rw [episodes_createCandidate]
    intro first isFirst second isSecond firstOpen secondOpen sameDate sameCode
    simp only [List.mem_append, List.mem_singleton] at isFirst isSecond
    rcases isFirst with isFirst | rfl
    · rcases isSecond with isSecond | rfl
      · exact isOpen.single first isFirst second isSecond firstOpen secondOpen sameDate sameCode
      · exact absurd (closed first isFirst sameDate sameCode) firstOpen
    · rcases isSecond with isSecond | rfl
      · exact absurd (closed second isSecond sameDate.symm sameCode.symm) secondOpen
      · rfl
  activeOpen := by
    intro row present isActive
    rcases isOpen.activeOpen row present isActive with ⟨state, isState, stillOpen⟩
    have isAfter := @stateOf_create tables event now row.candidateInstanceId
    split at isAfter
    · exact ⟨.hydrating, isAfter, by simp⟩
    · exact ⟨state, isAfter.trans isState, stillOpen⟩

theorem stateOf_candidateFor (event : CandidateSourceEvent) (now : String) :
    ∃ state, (tables.candidateFor event now).1.stateOf (tables.candidateFor event now).2 =
      some state ∧ state ≠ .closed := by
  rcases candidateFor_cases tables event now with ⟨row, found, linked⟩ | ⟨_, linked⟩
  · rw [linked]
    exact ⟨row.state, stateOf_active found⟩
  · rw [linked, stateOf_create, if_pos rfl]
    exact ⟨.hydrating, rfl, by simp⟩

theorem mem_upsert {Row Key : Type} [Keyed Row Key] [DecidableEq Key] {table : Table Row}
    {row other : Row} (present : other ∈ (table.upsert row).rows) :
    other = row ∨ other ∈ table.rows := by
  unfold Table.upsert at present
  split at present
  · rcases List.mem_map.mp present with ⟨earlier, wasThere, isOther⟩
    split at isOther
    · exact Or.inl isOther.symm
    · exact Or.inr (isOther ▸ wasThere)
  · rcases List.mem_append.mp present with wasThere | isRow
    · exact Or.inr wasThere
    · exact Or.inl (List.mem_singleton.mp isRow)

theorem SourcesOpen.merge (isOpen : tables.SourcesOpen) :
    (mergeSourceEvent settings tables event now).SourcesOpen := by
  by_cases taken : tables.takes settings event
  · have linked : (tables.candidateFor event now).1.SourcesOpen := by
      rcases candidateFor_cases tables event now with ⟨row, _, same⟩ | ⟨noneOpen, same⟩
      · rw [same]
        exact isOpen
      · rw [same]
        exact isOpen.create noneOpen
    refine ⟨?_, ?_⟩
    · rw [episodes_merge now taken]
      exact linked.single
    · rw [latestSources_merge now taken]
      intro row present isActive
      rw [stateOf_of_episodes (episodes_merge now taken)]
      rcases mem_upsert present with rfl | wasThere
      · have isLinked : (event.latest (tables.candidateFor event now).2.generation
            (tables.latestSources.find? event.key)).candidateInstanceId =
              (tables.candidateFor event now).2 := by
          rcases candidateFor_code tables event now with ⟨sameDate, sameCode⟩
          simp only [LatestSource.candidateInstanceId, CandidateSourceEvent.latest,
            CandidateSourceEvent.key, ← sameDate, ← sameCode]
        rw [isLinked]
        exact stateOf_candidateFor event now
      · refine linked.activeOpen row ?_ isActive
        rw [candidateFor_frame]
        exact wasThere
  · rw [mergeSourceEvent_of_not_takes settings tables event now taken]
    exact isOpen

theorem SourcesOpen.exited (isOpen : tables.SourcesOpen)
    (candidateInstanceId : CandidateInstanceId) :
    (tables.exited event candidateInstanceId).SourcesOpen where
  single := by
    rw [episodes_exited]
    exact isOpen.single
  activeOpen := by
    intro row present isActive
    rw [stateOf_of_episodes (tables.episodes_exited event candidateInstanceId)]
    rcases List.mem_map.mp present with ⟨earlier, wasThere, rfl⟩
    split at isActive
    · cases isActive
    · next kept =>
        rw [if_neg kept]
        exact isOpen.activeOpen earlier wasThere isActive

/-! ## What an event makes active -/

theorem isActive_merge (taken : tables.takes settings event) (key : SourceKey) :
    (mergeSourceEvent settings tables event now).isActive key =
      if key = event.key then true else tables.isActive key := by
  unfold isActive
  rw [latestSources_merge now taken]
  split
  · next same =>
      rw [same]
      have found := Table.find?_upsert_self tables.latestSources (event.latest
        (tables.candidateFor event now).2.generation (tables.latestSources.find? event.key))
      change Table.find? _ event.key = _ at found
      rw [found]
      rfl
  · next different =>
      rw [Table.find?_upsert_of_ne]
      exact Ne.symm different

/-- The exit from a condition ends its source, which is active for the open candidate only. -/
theorem SourcesOpen.isActive_exited {row : CandidateRow} (isOpen : tables.SourcesOpen)
    (found : tables.findActiveCandidate event.tradeDate event.code = some row) (key : SourceKey) :
    (tables.exited event row.candidateInstanceId).isActive key =
      if key = event.enteredKey then false else tables.isActive key := by
  rcases findActiveCandidate_mem found with ⟨_, rowDate, rowCode, _⟩
  have ended : (tables.exited event row.candidateInstanceId).latestSources.find? key =
      (tables.latestSources.find? key).map fun source =>
        if source.candidateInstanceId = row.candidateInstanceId &&
            source.key.sourceType = .conditionEnter && source.key.sourceId = event.sourceId
        then { source with
          active := false
          lastSeenAt := event.observedAt
          lastEventId := event.sourceEventId
          payload := event.payload }
        else source :=
    Table.find?_updateWhere tables.latestSources _ (fun source =>
      { source with
        active := false
        lastSeenAt := event.observedAt
        lastEventId := event.sourceEventId
        payload := event.payload }) (fun _ => rfl) key
  unfold isActive
  rw [ended]
  cases isSource : tables.latestSources.find? key with
  | none => simp
  | some source =>
      have isKey : source.key = key := Table.key_of_find? isSource
      have present := Table.mem_of_find? isSource
      simp only [Option.map_some]
      by_cases entered : key = event.enteredKey
      · split
        · rfl
        · next kept =>
            by_contra isActive
            have isActive : source.active = true := by simpa using isActive
            rcases isOpen.activeOpen source present isActive with ⟨state, isState, stillOpen⟩
            have isRow := isOpen.eq_found found isState stillOpen
              (by simp [LatestSource.candidateInstanceId, isKey, entered,
                CandidateSourceEvent.enteredKey])
              (by simp [LatestSource.candidateInstanceId, isKey, entered,
                CandidateSourceEvent.enteredKey])
            simp [isRow, isKey, entered, CandidateSourceEvent.enteredKey] at kept
      · split
        · next matched =>
            simp only [Bool.and_eq_true, decide_eq_true_eq] at matched
            rcases matched with ⟨⟨isRow, isEnter⟩, sameSource⟩
            have sameDate : source.key.tradeDate = event.tradeDate := by
              rw [← rowDate, ← isRow]
              rfl
            have sameCode : source.key.code = event.code := by
              rw [← rowCode, ← isRow]
              rfl
            refine absurd ?_ entered
            rw [← isKey, CandidateSourceEvent.enteredKey, ← sameDate, ← sameCode, ← isEnter,
              ← sameSource]
        · rfl

theorem SourcesOpen.isActive_unlinked (isOpen : tables.SourcesOpen)
    (noneOpen : tables.findActiveCandidate event.tradeDate event.code = none) :
    tables.isActive event.enteredKey = false := by
  by_contra wasActive
  unfold isActive at wasActive
  cases isSource : tables.latestSources.find? event.enteredKey with
  | none => simp [isSource] at wasActive
  | some source =>
      have isKey : source.key = event.enteredKey := Table.key_of_find? isSource
      have active : source.active = true := by simpa [isSource] using wasActive
      rcases isOpen.activeOpen source (Table.mem_of_find? isSource) active with
        ⟨state, isState, stillOpen⟩
      rcases mem_episodes_of_stateOf isState with ⟨episode, isEpisode, sameId, rfl⟩
      rcases List.mem_map.mp isEpisode with ⟨row, present, rfl⟩
      apply stillOpen
      have rowId : row.candidateInstanceId = source.candidateInstanceId := sameId
      apply findActiveCandidate_eq_none.mp noneOpen row present
      · simp [rowId, LatestSource.candidateInstanceId, isKey, CandidateSourceEvent.enteredKey]
      · simp [rowId, LatestSource.candidateInstanceId, isKey, CandidateSourceEvent.enteredKey]

end Open

end CandidateTables

end SuseokTrader
