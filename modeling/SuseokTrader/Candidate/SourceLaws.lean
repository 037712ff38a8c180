import SuseokTrader.Lib.Totals
import SuseokTrader.Candidate.Sources

/-!
# What refreshes and source events do

The tables change in few ways. A refresh moves one candidate and logs the move.
A source event that is not an exit is stored, links its source to the open
candidate of its code and creates that candidate where there is none. An exit is
stored, ends the source of its condition, and refreshes the open candidate.
-/

namespace SuseokTrader

/-! ## Episodes -/

structure Episode where
  candidateInstanceId : CandidateInstanceId
  state : CandidateState
  closedAt : Option String

namespace Episode

def moved (episode : Episode) (nextState : CandidateState) (now : String) : Episode :=
  if episode.state = nextState then episode
  else
    { episode with
      state := nextState
      closedAt := if nextState = .closed then some now else episode.closedAt }

def refreshed (episode : Episode) (context : CandidateContext) (readings : RefreshReadings) :
    Episode :=
  if readings.raises then episode
  else episode.moved (determineNextState episode.state context).nextState readings.now

variable (episode : Episode)

@[simp]
theorem moved_candidateInstanceId (nextState : CandidateState)
    (now : String) :
    (episode.moved nextState now).candidateInstanceId = episode.candidateInstanceId := by
  unfold moved
  split <;> rfl

@[simp]
theorem moved_state (nextState : CandidateState) (now : String) :
    (episode.moved nextState now).state = nextState := by
  unfold moved
  split
  · next same => exact same
  · rfl

@[simp]
theorem moved_self (now : String) :
    episode.moved episode.state now = episode := by
  simp [moved]

@[simp]
theorem refreshed_candidateInstanceId (context : CandidateContext)
    (readings : RefreshReadings) :
    (episode.refreshed context readings).candidateInstanceId = episode.candidateInstanceId := by
  unfold refreshed
  split <;> simp

end Episode

def CandidateRow.episode (row : CandidateRow) : Episode where
  candidateInstanceId := row.candidateInstanceId
  state := row.state
  closedAt := row.closedAt

theorem determineNextState_closed (context : CandidateContext) :
    (determineNextState .closed context).nextState = .closed := by
  simp [determineNextState]

namespace CandidateTables

variable (tables : CandidateTables)

def episodes : List Episode :=
  tables.candidates.rows.map CandidateRow.episode

def stateOf (candidateInstanceId : CandidateInstanceId) :
    Option CandidateState :=
  (tables.candidates.find? candidateInstanceId).map CandidateRow.state

variable (candidateInstanceId : CandidateInstanceId)

theorem stateOf_eq :
    tables.stateOf candidateInstanceId =
      (tables.episodes.find? fun episode =>
        episode.candidateInstanceId = candidateInstanceId).map Episode.state := by
  rw [episodes, List.find?_map, Option.map_map]
  rfl

theorem episodes_update {tables : CandidateTables} {candidateInstanceId : CandidateInstanceId}
    {change : CandidateRow → CandidateRow}
    {keeps : ∀ row, Keyed.key (change row) = Keyed.key row} {changed : Episode → Episode}
    (changes : ∀ row ∈ tables.candidates.rows, row.candidateInstanceId = candidateInstanceId →
      (change row).episode = changed row.episode) :
    ({ tables with candidates := tables.candidates.update candidateInstanceId change keeps } :
      CandidateTables).episodes =
        tables.episodes.map fun episode =>
          if episode.candidateInstanceId = candidateInstanceId then changed episode
          else episode := by
  simp only [episodes, Table.update, Table.rows_updateWhere, List.map_map]
  apply List.map_congr_left
  intro row present
  by_cases isRow : row.candidateInstanceId = candidateInstanceId
  · have isEpisode : row.episode.candidateInstanceId = candidateInstanceId := isRow
    simp [Keyed.key, isRow, isEpisode, changes row present isRow]
  · have notEpisode : row.episode.candidateInstanceId ≠ candidateInstanceId := isRow
    simp [Keyed.key, isRow, notEpisode]

theorem episodes_update_same {tables : CandidateTables}
    {candidateInstanceId : CandidateInstanceId} {change : CandidateRow → CandidateRow}
    {keeps : ∀ row, Keyed.key (change row) = Keyed.key row}
    (same : ∀ row, (change row).episode = row.episode) :
    ({ tables with candidates := tables.candidates.update candidateInstanceId change keeps } :
      CandidateTables).episodes = tables.episodes := by
  have updated := @episodes_update tables candidateInstanceId change keeps id
    fun row _ _ => same row
  simpa using updated

@[simp]
theorem episodes_syncCandidateSourceCounts :
    (tables.syncCandidateSourceCounts candidateInstanceId).episodes = tables.episodes :=
  episodes_update_same fun _ => rfl

@[simp]
theorem episodes_updateCandidateFromSource (event : CandidateSourceEvent) :
    (tables.updateCandidateFromSource candidateInstanceId event).episodes = tables.episodes :=
  episodes_update_same fun _ => rfl

@[simp]
theorem episodes_updateContextColumns :
    (tables.updateContextColumns candidateInstanceId).episodes = tables.episodes :=
  episodes_update_same fun _ => rfl

/-! ## Moving a candidate -/

section Move

variable (tables : CandidateTables) (row : CandidateRow) (nextState : CandidateState)
  (eventType : CandidateEventType) (sourceEventId : Option String) (now : String)

theorem applyStateTransition_frame :
    tables.applyStateTransition row nextState eventType sourceEventId now =
      { tables with
        candidates :=
          (tables.applyStateTransition row nextState eventType sourceEventId now).candidates
        transitions :=
          (tables.applyStateTransition row nextState eventType sourceEventId now).transitions }
    := by
  unfold applyStateTransition
  split <;> rfl

theorem episodes_applyStateTransition
    (stored : ∀ episode ∈ tables.episodes,
      episode.candidateInstanceId = row.candidateInstanceId → episode.state = row.state) :
    (tables.applyStateTransition row nextState eventType sourceEventId now).episodes =
      tables.episodes.map fun episode =>
        if episode.candidateInstanceId = row.candidateInstanceId
        then episode.moved nextState now else episode := by
  unfold applyStateTransition
  split
  · next same =>
      conv_lhs => rw [← List.map_id tables.episodes]
      apply List.map_congr_left
      intro episode present
      split
      · next isRow =>
          have unmoved := stored episode present isRow
          rw [same] at unmoved
          simp [← unmoved]
      · rfl
  · next different =>
      refine @episodes_update tables row.candidateInstanceId
        (fun stored => stored.moved nextState now) (fun _ => rfl) _ ?_
      intro other present isRow
      have sameState : other.state = row.state :=
        stored other.episode (List.mem_map_of_mem present) isRow
      have unmoved : other.state ≠ nextState := by
        rw [sameState]
        exact different
      simp [CandidateRow.episode, CandidateRow.moved, Episode.moved, unmoved]

theorem transitions_applyStateTransition :
    (tables.applyStateTransition row nextState eventType sourceEventId now).transitions =
      if row.state = nextState then tables.transitions
      else
        (tables.transitions.insert? (transition row.candidateInstanceId (some row.state) nextState
          eventType sourceEventId now)).getD tables.transitions := by
  unfold applyStateTransition
  split <;> rfl

end Move

end CandidateTables

/-! ## Refreshing -/

section Refresh

variable (settings : CandidateSettings) (tables : CandidateTables)
  (candidateInstanceId : CandidateInstanceId) (readings : RefreshReadings)

/-- The move that a refresh makes, which the log takes unless it holds it already. -/
def refreshMove : Option TransitionRow :=
  match tables.candidates.find? candidateInstanceId with
  | none => none
  | some row =>
      let decision := tables.decision settings row readings.toRefreshInputs
      if row.state = .closed ∨ readings.raises ∨ row.state = decision.nextState then none
      else
        some (transition candidateInstanceId (some row.state) decision.nextState
          decision.eventType none readings.now)

theorem refresh_frame :
    (refreshCandidateContext settings tables candidateInstanceId readings).2 =
      { tables with
        candidates :=
          (refreshCandidateContext settings tables candidateInstanceId readings).2.candidates
        transitions :=
          (refreshCandidateContext settings tables candidateInstanceId readings).2.transitions }
    := by
  unfold refreshCandidateContext
  split
  · rfl
  · split
    · rfl
    · split
      · rfl
      · exact CandidateTables.applyStateTransition_frame
          (tables.updateContextColumns candidateInstanceId) _ _ _ _ _

theorem transitions_refresh :
    (refreshCandidateContext settings tables candidateInstanceId readings).2.transitions =
      match refreshMove settings tables candidateInstanceId readings with
      | none => tables.transitions
      | some row => (tables.transitions.insert? row).getD tables.transitions := by
  unfold refreshCandidateContext refreshMove
  cases found : tables.candidates.find? candidateInstanceId with
  | none => rfl
  | some row =>
      by_cases closed : row.state = .closed
      · simp [closed]
      · by_cases raises : readings.raises = true
        · simp [closed, raises]
        · have isRow : row.candidateInstanceId = candidateInstanceId := Table.key_of_find? found
          simp only [closed, raises, if_false, false_or, Bool.false_eq_true,
            CandidateTables.transitions_applyStateTransition]
          split
          · rfl
          · rw [isRow]
            rfl

theorem episodes_refresh :
    (refreshCandidateContext settings tables candidateInstanceId readings).2.episodes =
      tables.episodes.map fun episode =>
        if episode.candidateInstanceId = candidateInstanceId
        then episode.refreshed
          (tables.contextOf settings candidateInstanceId readings.toRefreshInputs) readings
        else episode := by
  have unchanged (same : ∀ row ∈ tables.candidates.rows,
      row.candidateInstanceId = candidateInstanceId →
        row.episode.refreshed
          (tables.contextOf settings candidateInstanceId readings.toRefreshInputs) readings =
            row.episode) :
      tables.episodes = tables.episodes.map fun episode =>
        if episode.candidateInstanceId = candidateInstanceId
        then episode.refreshed
          (tables.contextOf settings candidateInstanceId readings.toRefreshInputs) readings
        else episode := by
    rw [CandidateTables.episodes, List.map_map]
    apply List.map_congr_left
    intro row present
    by_cases isRow : row.candidateInstanceId = candidateInstanceId
    · have unmoved := same row present isRow
      simp [unmoved]
    · simp [CandidateRow.episode, isRow]
  unfold refreshCandidateContext
  cases found : tables.candidates.find? candidateInstanceId with
  | none =>
      apply unchanged
      intro row present isRow
      exact absurd isRow (Table.find?_eq_none.mp found row present)
  | some row =>
      have isRow : row.candidateInstanceId = candidateInstanceId := Table.key_of_find? found
      have only : ∀ other ∈ tables.candidates.rows,
          other.candidateInstanceId = candidateInstanceId → other = row := by
        intro other present isOther
        have foundOther := Table.find?_of_mem present
        rw [show Keyed.key other = candidateInstanceId from isOther, found] at foundOther
        exact (Option.some.inj foundOther).symm
      by_cases closed : row.state = .closed
      · simp only [closed]
        apply unchanged
        intro other present isOther
        rw [only other present isOther]
        have stays := determineNextState_closed
        simp [Episode.refreshed, CandidateRow.episode, closed, stays, Episode.moved]
      · by_cases raises : readings.raises = true
        · simp only [closed]
          simp [Episode.refreshed, raises]
        · simp only [closed, raises, if_false, Bool.false_eq_true]
          rw [CandidateTables.episodes_applyStateTransition]
          · simp only [CandidateTables.episodes_updateContextColumns]
            apply List.map_congr_left
            intro episode present
            rcases List.mem_map.mp present with ⟨other, otherPresent, rfl⟩
            by_cases isOther : other.candidateInstanceId = candidateInstanceId
            · have same := only other otherPresent isOther
              subst same
              simp [CandidateRow.episode, Episode.refreshed, raises, isOther,
                CandidateTables.decision]
            · simp [CandidateRow.episode, isRow, isOther]
          · rw [CandidateTables.episodes_updateContextColumns]
            intro episode present isEpisode
            rcases List.mem_map.mp present with ⟨other, otherPresent, rfl⟩
            rw [only other otherPresent (isEpisode.trans isRow)]
            rfl

end Refresh

section Frames

variable (settings : CandidateSettings) (tables : CandidateTables)
  (candidateInstanceId : CandidateInstanceId) (readings : RefreshReadings)

@[simp]
theorem signals_refresh :
    (refreshCandidateContext settings tables candidateInstanceId readings).2.signals =
      tables.signals := by
  rw [refresh_frame]

@[simp]
theorem fusions_refresh :
    (refreshCandidateContext settings tables candidateInstanceId readings).2.fusions =
      tables.fusions := by
  rw [refresh_frame]

@[simp]
theorem sourceEvents_refresh :
    (refreshCandidateContext settings tables candidateInstanceId readings).2.sourceEvents =
      tables.sourceEvents := by
  rw [refresh_frame]

@[simp]
theorem latestSources_refresh :
    (refreshCandidateContext settings tables candidateInstanceId readings).2.latestSources =
      tables.latestSources := by
  rw [refresh_frame]

end Frames

/-! ## Finding and creating a candidate -/

namespace CandidateTables

variable {tables : CandidateTables} {tradeDate code : String}

theorem findActiveCandidate_mem {row : CandidateRow}
    (found : tables.findActiveCandidate tradeDate code = some row) :
    row ∈ tables.candidates.rows ∧ row.candidateInstanceId.tradeDate = tradeDate ∧
      row.candidateInstanceId.code = code ∧ row.state ≠ .closed := by
  have member : ∀ (rows : List CandidateRow) (best : Option CandidateRow),
      rows.foldl (fun found row =>
        match found with
        | none => some row
        | some best =>
            if best.candidateInstanceId.generation < row.candidateInstanceId.generation
            then some row else some best) best = some row → row ∈ rows ∨ best = some row := by
    intro rows
    induction rows with
    | nil =>
        intro best isBest
        exact Or.inr isBest
    | cons first rows ih =>
        intro best isBest
        rcases ih _ isBest with present | isFirst
        · exact Or.inl (List.mem_cons_of_mem first present)
        · cases best with
          | none =>
              cases isFirst
              exact Or.inl List.mem_cons_self
          | some other =>
              simp only at isFirst
              split at isFirst
              · cases isFirst
                exact Or.inl List.mem_cons_self
              · exact Or.inr isFirst
  rcases member _ _ found with present | isNone
  · simp only [List.mem_filter, CandidateRow.isOpen, Bool.and_eq_true, decide_eq_true_eq] at present
    rcases present with ⟨present, ⟨sameDate, sameCode⟩, isOpen⟩
    exact ⟨present, sameDate, sameCode, isOpen⟩
  · cases isNone

theorem findActiveCandidate_eq_none :
    tables.findActiveCandidate tradeDate code = none ↔
      ∀ row ∈ tables.candidates.rows, row.candidateInstanceId.tradeDate = tradeDate →
        row.candidateInstanceId.code = code → row.state = .closed := by
  have isSome : ∀ (rows : List CandidateRow) (best : CandidateRow),
      rows.foldl (fun found row =>
        match found with
        | none => some row
        | some best =>
            if best.candidateInstanceId.generation < row.candidateInstanceId.generation
            then some row else some best) (some best) ≠ none := by
    intro rows
    induction rows with
    | nil => simp
    | cons first rows ih =>
        intro best
        simp only [List.foldl_cons]
        split
        · exact ih first
        · exact ih best
  rw [findActiveCandidate]
  cases listed : tables.candidates.rows.filter fun row =>
      row.candidateInstanceId.tradeDate = tradeDate && row.candidateInstanceId.code = code &&
        row.isOpen with
  | nil =>
      rw [List.filter_eq_nil_iff] at listed
      simp only [List.foldl_nil, true_iff]
      intro row present sameDate sameCode
      have notOpen := listed row present
      simpa [sameDate, sameCode, CandidateRow.isOpen] using notOpen
  | cons first rest =>
      have member : first ∈ tables.candidates.rows.filter fun row =>
          row.candidateInstanceId.tradeDate = tradeDate && row.candidateInstanceId.code = code &&
            row.isOpen := by
        rw [listed]
        exact List.mem_cons_self
      simp only [List.mem_filter, CandidateRow.isOpen, Bool.and_eq_true,
        decide_eq_true_eq] at member
      rcases member with ⟨present, ⟨sameDate, sameCode⟩, isOpen⟩
      constructor
      · intro isNone
        exact absurd isNone (isSome rest first)
      · intro allClosed
        exact absurd (allClosed first present sameDate sameCode) isOpen

theorem generation_lt_nextGeneration {row : CandidateRow}
    (present : row ∈ tables.candidates.rows) :
    row.candidateInstanceId.generation <
      tables.nextGeneration row.candidateInstanceId.tradeDate row.candidateInstanceId.code := by
  have listed : row.candidateInstanceId.generation ∈
      (tables.candidates.rows.filter fun other =>
        other.candidateInstanceId.tradeDate = row.candidateInstanceId.tradeDate &&
          other.candidateInstanceId.code = row.candidateInstanceId.code).map
        fun other => other.candidateInstanceId.generation :=
    List.mem_map.mpr ⟨row, by simp [present], rfl⟩
  have bound := (le_foldl_max _ 0).2 _ listed
  unfold nextGeneration
  omega

theorem find?_newId (tables : CandidateTables) (tradeDate code : String) :
    tables.candidates.find?
      { tradeDate := tradeDate
        code := code
        generation := tables.nextGeneration tradeDate code } = none := by
  rw [Table.find?_eq_none]
  intro row present isNew
  have earlier := generation_lt_nextGeneration present
  have isKey : row.candidateInstanceId = ⟨tradeDate, code, tables.nextGeneration tradeDate code⟩ :=
    isNew
  rw [isKey] at earlier
  exact lt_irrefl _ earlier

section Create

variable (tables : CandidateTables) (event : CandidateSourceEvent) (now : String)

theorem createCandidate_snd :
    (tables.createCandidate event now).2 =
      ⟨event.tradeDate, event.code, tables.nextGeneration event.tradeDate event.code⟩ :=
  rfl

theorem createCandidate_frame :
    (tables.createCandidate event now).1 =
      { tables with
        candidates := (tables.createCandidate event now).1.candidates
        transitions := (tables.createCandidate event now).1.transitions } := by
  let row := newCandidate event (tables.nextGeneration event.tradeDate event.code) now
  exact applyStateTransition_frame
    (recordTransition
      { tables with candidates := (tables.candidates.insert? row).getD tables.candidates }
      (transition row.candidateInstanceId none .detected .candidateCreated
        (some event.sourceEventId) now)) row .hydrating .stateChanged (some event.sourceEventId) now

theorem inserted_newCandidate :
    ∃ inserted, tables.candidates.insert?
        (newCandidate event (tables.nextGeneration event.tradeDate event.code) now) =
          some inserted ∧
      inserted.rows = tables.candidates.rows ++
        [newCandidate event (tables.nextGeneration event.tradeDate event.code) now] := by
  have fresh : (tables.candidates.insert? (newCandidate event
      (tables.nextGeneration event.tradeDate event.code) now)).isSome = true := by
    apply Table.insert?_isSome_iff.mpr
    exact find?_newId tables event.tradeDate event.code
  rcases Option.isSome_iff_exists.mp fresh with ⟨inserted, isInserted⟩
  exact ⟨inserted, isInserted, Table.rows_of_insert? isInserted⟩

theorem episodes_createCandidate :
    (tables.createCandidate event now).1.episodes =
      tables.episodes ++ [⟨(tables.createCandidate event now).2, .hydrating, none⟩] := by
  rcases inserted_newCandidate tables event now with ⟨inserted, isInserted, rows⟩
  have others : ∀ episode ∈ tables.episodes,
      episode.candidateInstanceId ≠ (tables.createCandidate event now).2 := by
    intro episode present isNew
    rcases List.mem_map.mp present with ⟨row, rowPresent, rfl⟩
    exact Table.find?_eq_none.mp (find?_newId tables event.tradeDate event.code) row rowPresent
      isNew
  unfold createCandidate
  simp only [isInserted, Option.getD_some]
  rw [episodes_applyStateTransition]
  · simp only [recordTransition, episodes, rows, List.map_append]
    congr 1
    · conv_rhs => rw [← List.map_id (tables.candidates.rows.map CandidateRow.episode)]
      apply List.map_congr_left
      intro episode present
      have different := others episode present
      simp only [createCandidate] at different
      simp [different]
    · simp [CandidateRow.episode, newCandidate, Episode.moved]
  · simp only [recordTransition, episodes, rows, List.map_append, List.map_cons, List.map_nil,
      List.mem_append, List.mem_singleton]
    rintro episode (present | rfl) isNew
    · exact absurd isNew (others episode present)
    · rfl

theorem transitions_createCandidate :
    (tables.createCandidate event now).1.transitions =
      let created := transition (tables.createCandidate event now).2 none .detected
        .candidateCreated (some event.sourceEventId) now
      let hydrating := transition (tables.createCandidate event now).2 (some .detected)
        .hydrating .stateChanged (some event.sourceEventId) now
      let logged := (tables.transitions.insert? created).getD tables.transitions
      (logged.insert? hydrating).getD logged := by
  unfold createCandidate
  rw [transitions_applyStateTransition]
  rfl

end Create

section Link

variable (tables : CandidateTables) (event : CandidateSourceEvent) (now : String)

theorem candidateFor_cases :
    (∃ row, tables.findActiveCandidate event.tradeDate event.code = some row ∧
        tables.candidateFor event now = (tables, row.candidateInstanceId)) ∨
      tables.findActiveCandidate event.tradeDate event.code = none ∧
        tables.candidateFor event now = tables.createCandidate event now := by
  unfold candidateFor
  cases found : tables.findActiveCandidate event.tradeDate event.code with
  | none => exact Or.inr ⟨rfl, rfl⟩
  | some row => exact Or.inl ⟨row, rfl, rfl⟩

theorem candidateFor_frame :
    (tables.candidateFor event now).1 =
      { tables with
        candidates := (tables.candidateFor event now).1.candidates
        transitions := (tables.candidateFor event now).1.transitions } := by
  rcases candidateFor_cases tables event now with ⟨row, _, linked⟩ | ⟨_, linked⟩
  · rw [linked]
  · rw [linked]
    exact createCandidate_frame tables event now

theorem candidateFor_code :
    (tables.candidateFor event now).2.tradeDate = event.tradeDate ∧
      (tables.candidateFor event now).2.code = event.code := by
  rcases candidateFor_cases tables event now with ⟨row, found, linked⟩ | ⟨_, linked⟩
  · rw [linked]
    rcases findActiveCandidate_mem found with ⟨_, sameDate, sameCode, _⟩
    exact ⟨sameDate, sameCode⟩
  · rw [linked]
    exact ⟨rfl, rfl⟩

end Link

end CandidateTables

/-! ## Merging an event -/

section Merge

variable (settings : CandidateSettings) (tables : CandidateTables) (event : CandidateSourceEvent)
  (now : String)

def CandidateTables.takes (settings : CandidateSettings)
    (event : CandidateSourceEvent) : Prop :=
  settings.candidateFsmEnabled = true ∧ tables.sourceEvents.find? event.sourceEventId = none

theorem mergeSourceEvent_of_not_takes (notTaken : ¬ tables.takes settings event) :
    mergeSourceEvent settings tables event now = tables := by
  unfold mergeSourceEvent
  by_cases enabled : settings.candidateFsmEnabled = true
  · have stored : (tables.sourceEvents.find? event.sourceEventId).isSome = true := by
      rw [← Option.ne_none_iff_isSome]
      intro isNone
      exact notTaken ⟨enabled, isNone⟩
    simp [stored]
  · simp [enabled]

variable {settings tables event}

theorem mergeSourceEvent_of_takes (taken : tables.takes settings event) :
    mergeSourceEvent settings tables event now =
      (((((tables.candidateFor event now).1.insertSourceEvent event
        (some (tables.candidateFor event now).2) true).upsertLatestSource event
          (tables.candidateFor event now).2.generation).syncCandidateSourceCounts
            (tables.candidateFor event now).2).updateCandidateFromSource
              (tables.candidateFor event now).2 event) := by
  rcases taken with ⟨enabled, notStored⟩
  simp [mergeSourceEvent, enabled, notStored]

theorem episodes_merge (taken : tables.takes settings event) :
    (mergeSourceEvent settings tables event now).episodes =
      (tables.candidateFor event now).1.episodes := by
  rw [mergeSourceEvent_of_takes now taken]
  simp only [CandidateTables.episodes_updateCandidateFromSource,
    CandidateTables.episodes_syncCandidateSourceCounts]
  rfl

theorem transitions_merge (taken : tables.takes settings event) :
    (mergeSourceEvent settings tables event now).transitions =
      (tables.candidateFor event now).1.transitions := by
  rw [mergeSourceEvent_of_takes now taken]
  rfl

theorem signals_merge (taken : tables.takes settings event) :
    (mergeSourceEvent settings tables event now).signals = tables.signals := by
  rw [mergeSourceEvent_of_takes now taken]
  simp only [CandidateTables.updateCandidateFromSource, CandidateTables.syncCandidateSourceCounts,
    CandidateTables.upsertLatestSource, CandidateTables.insertSourceEvent]
  rw [CandidateTables.candidateFor_frame]

theorem fusions_merge (taken : tables.takes settings event) :
    (mergeSourceEvent settings tables event now).fusions = tables.fusions := by
  rw [mergeSourceEvent_of_takes now taken]
  simp only [CandidateTables.updateCandidateFromSource, CandidateTables.syncCandidateSourceCounts,
    CandidateTables.upsertLatestSource, CandidateTables.insertSourceEvent]
  rw [CandidateTables.candidateFor_frame]

theorem sourceEvents_merge (taken : tables.takes settings event) :
    (mergeSourceEvent settings tables event now).sourceEvents =
      (tables.insertSourceEvent event (some (tables.candidateFor event now).2) true).sourceEvents
    := by
  rw [mergeSourceEvent_of_takes now taken]
  simp only [CandidateTables.updateCandidateFromSource, CandidateTables.syncCandidateSourceCounts,
    CandidateTables.upsertLatestSource, CandidateTables.insertSourceEvent]
  rw [CandidateTables.candidateFor_frame]

theorem latestSources_merge (taken : tables.takes settings event) :
    (mergeSourceEvent settings tables event now).latestSources =
      tables.latestSources.upsert (event.latest (tables.candidateFor event now).2.generation
        (tables.latestSources.find? event.key)) := by
  rw [mergeSourceEvent_of_takes now taken]
  simp only [CandidateTables.updateCandidateFromSource, CandidateTables.syncCandidateSourceCounts,
    CandidateTables.upsertLatestSource, CandidateTables.insertSourceEvent]
  rw [CandidateTables.candidateFor_frame]

end Merge

/-! ## Applying an exit -/

def CandidateTables.exited (tables : CandidateTables) (event : CandidateSourceEvent)
    (candidateInstanceId : CandidateInstanceId) : CandidateTables :=
  ((tables.insertSourceEvent event (some candidateInstanceId) false).endSource
    candidateInstanceId event).syncCandidateSourceCounts candidateInstanceId

@[simp]
theorem CandidateTables.episodes_exited (tables : CandidateTables) (event : CandidateSourceEvent)
    (candidateInstanceId : CandidateInstanceId) :
    (tables.exited event candidateInstanceId).episodes = tables.episodes :=
  CandidateTables.episodes_syncCandidateSourceCounts _ candidateInstanceId

theorem errorCount_refresh {settings : CandidateSettings} {tables : CandidateTables}
    {candidateInstanceId : CandidateInstanceId} {readings : RefreshReadings}
    {state : CandidateState} (isState : tables.stateOf candidateInstanceId = some state)
    (isOpen : state ≠ .closed) :
    (refreshCandidateContext settings tables candidateInstanceId readings).1.errorCount =
      if readings.raises then 1 else 0 := by
  unfold CandidateTables.stateOf at isState
  unfold refreshCandidateContext
  cases found : tables.candidates.find? candidateInstanceId with
  | none => simp [found] at isState
  | some row =>
      simp only [found, Option.map_some, Option.some.injEq] at isState
      subst isState
      by_cases raises : readings.raises = true <;> simp [isOpen, raises]

theorem CandidateTables.stateOf_of_episodes {tables other : CandidateTables}
    (same : other.episodes = tables.episodes) (candidateInstanceId : CandidateInstanceId) :
    other.stateOf candidateInstanceId = tables.stateOf candidateInstanceId := by
  rw [CandidateTables.stateOf_eq, CandidateTables.stateOf_eq, same]

theorem CandidateTables.stateOf_active {tables : CandidateTables} {tradeDate code : String}
    {row : CandidateRow} (found : tables.findActiveCandidate tradeDate code = some row) :
    tables.stateOf row.candidateInstanceId = some row.state ∧ row.state ≠ .closed := by
  rcases CandidateTables.findActiveCandidate_mem found with ⟨present, _, _, isOpen⟩
  have isRow : tables.candidates.find? row.candidateInstanceId = some row :=
    Table.find?_of_mem present
  exact ⟨by simp [CandidateTables.stateOf, isRow], isOpen⟩

section Exit

variable {settings : CandidateSettings} {tables : CandidateTables} {event : CandidateSourceEvent}
  {readings : CandidateInstanceId → RefreshReadings}

theorem applyExit_of_none
    (noCandidate : tables.findActiveCandidate event.tradeDate event.code = none) :
    applyExitSourceEvent settings tables event readings =
      some (tables.insertSourceEvent event none false) := by
  simp [applyExitSourceEvent, noCandidate]

theorem applyExit_of_some {row : CandidateRow}
    (found : tables.findActiveCandidate event.tradeDate event.code = some row) :
    applyExitSourceEvent settings tables event readings =
      if (readings row.candidateInstanceId).raises then none
      else
        some (refreshCandidateContext settings (tables.exited event row.candidateInstanceId)
          row.candidateInstanceId (readings row.candidateInstanceId)).2 := by
  rcases CandidateTables.stateOf_active found with ⟨isState, isOpen⟩
  have isExited : (tables.exited event row.candidateInstanceId).stateOf
      row.candidateInstanceId = some row.state := by
    rw [CandidateTables.stateOf_of_episodes (tables.episodes_exited event _)]
    exact isState
  have errors := @errorCount_refresh settings _ _ (readings row.candidateInstanceId) _ isExited
    isOpen
  unfold applyExitSourceEvent
  rw [found]
  by_cases raises : (readings row.candidateInstanceId).raises = true
  · simp only [CandidateTables.exited] at errors
    simp [errors, raises]
  · simp only [CandidateTables.exited] at errors
    simp [errors, raises, CandidateTables.exited]

end Exit

/-! ## Applying an event -/

/-- What applying an event does: nothing, a merge, or an exit with or without a candidate. -/
inductive Applied (settings : CandidateSettings) (readings : String → SourceReadings)
    (tables : CandidateTables) (event : CandidateSourceEvent) : CandidateTables → Prop where
  | skipped (notTaken : ¬ tables.takes settings event) :
      Applied settings readings tables event tables
  | failed (taken : tables.takes settings event) (isExit : event.sourceType = .conditionExit)
      (row : CandidateRow)
      (found : tables.findActiveCandidate event.tradeDate event.code = some row)
      (raises : ((readings event.sourceEventId).refresh row.candidateInstanceId).raises = true) :
      Applied settings readings tables event tables
  | merged (taken : tables.takes settings event) (notExit : event.sourceType ≠ .conditionExit) :
      Applied settings readings tables event
        (mergeSourceEvent settings tables event (readings event.sourceEventId).now)
  | unlinked (taken : tables.takes settings event) (isExit : event.sourceType = .conditionExit)
      (noCandidate : tables.findActiveCandidate event.tradeDate event.code = none) :
      Applied settings readings tables event (tables.insertSourceEvent event none false)
  | exited (taken : tables.takes settings event) (isExit : event.sourceType = .conditionExit)
      (row : CandidateRow)
      (found : tables.findActiveCandidate event.tradeDate event.code = some row)
      (reads : ((readings event.sourceEventId).refresh row.candidateInstanceId).raises = false) :
      Applied settings readings tables event
        (refreshCandidateContext settings (tables.exited event row.candidateInstanceId)
          row.candidateInstanceId
          ((readings event.sourceEventId).refresh row.candidateInstanceId)).2

theorem applied (settings : CandidateSettings) (readings : String → SourceReadings)
    (tables : CandidateTables) (event : CandidateSourceEvent) :
    Applied settings readings tables event (applySourceEvent settings readings tables event) := by
  by_cases taken : tables.takes settings event
  · rcases taken with ⟨enabled, notStored⟩
    by_cases isExit : event.sourceType = .conditionExit
    · have applies : applySourceEvent settings readings tables event =
          (applyExitSourceEvent settings tables event
            (readings event.sourceEventId).refresh).getD tables := by
        simp [applySourceEvent, createOrMergeCandidateFromSource, enabled, notStored, isExit]
      cases found : tables.findActiveCandidate event.tradeDate event.code with
      | none =>
          rw [applies, applyExit_of_none found]
          exact .unlinked ⟨enabled, notStored⟩ isExit found
      | some row =>
          rw [applies, applyExit_of_some found]
          cases raises :
              ((readings event.sourceEventId).refresh row.candidateInstanceId).raises with
          | true => exact .failed ⟨enabled, notStored⟩ isExit row found raises
          | false => exact .exited ⟨enabled, notStored⟩ isExit row found raises
    · have applies : applySourceEvent settings readings tables event =
          mergeSourceEvent settings tables event (readings event.sourceEventId).now := by
        simp [applySourceEvent, createOrMergeCandidateFromSource, enabled, notStored, isExit]
      rw [applies]
      exact .merged ⟨enabled, notStored⟩ isExit
  · have applies : applySourceEvent settings readings tables event = tables := by
      by_cases enabled : settings.candidateFsmEnabled = true
      · have stored : (tables.sourceEvents.find? event.sourceEventId).isSome = true := by
          rw [← Option.ne_none_iff_isSome]
          intro isNone
          exact taken ⟨enabled, isNone⟩
        simp [applySourceEvent, createOrMergeCandidateFromSource, stored]
      · simp [applySourceEvent, createOrMergeCandidateFromSource, enabled]
    rw [applies]
    exact .skipped taken

/-! ## What applying keeps -/

section Keeps

variable {settings : CandidateSettings} {readings : String → SourceReadings}
  {tables after : CandidateTables} {event : CandidateSourceEvent}

theorem Applied.signals (isApplied : Applied settings readings tables event after) :
    after.signals = tables.signals := by
  cases isApplied with
  | skipped => rfl
  | failed => rfl
  | merged taken notExit => exact signals_merge _ taken
  | unlinked => rfl
  | exited => exact signals_refresh _ _ _ _

theorem Applied.fusions (isApplied : Applied settings readings tables event after) :
    after.fusions = tables.fusions := by
  cases isApplied with
  | skipped => rfl
  | failed => rfl
  | merged taken notExit => exact fusions_merge _ taken
  | unlinked => rfl
  | exited => exact fusions_refresh _ _ _ _

theorem Applied.sourceEvents (isApplied : Applied settings readings tables event after) :
    (tables.takes settings event ∧
        ∃ linked active, tables.sourceEvents.insert? ⟨event, linked, active⟩ =
          some after.sourceEvents) ∨
      after = tables ∧ (tables.takes settings event → event.sourceType = .conditionExit ∧
        ∃ row, tables.findActiveCandidate event.tradeDate event.code = some row ∧
          ((readings event.sourceEventId).refresh row.candidateInstanceId).raises = true) := by
  have inserts (taken : tables.takes settings event) (linked : Option CandidateInstanceId)
      (active : Bool) : tables.sourceEvents.insert? ⟨event, linked, active⟩ =
        some (tables.insertSourceEvent event linked active).sourceEvents := by
    have fresh : (tables.sourceEvents.insert? ⟨event, linked, active⟩).isSome = true :=
      Table.insert?_isSome_iff.mpr taken.2
    rcases Option.isSome_iff_exists.mp fresh with ⟨inserted, isInserted⟩
    simp [CandidateTables.insertSourceEvent, isInserted]
  cases isApplied with
  | skipped notTaken => exact Or.inr ⟨rfl, fun taken => absurd taken notTaken⟩
  | failed taken isExit row found raises => exact Or.inr ⟨rfl, fun _ => ⟨isExit, row, found, raises⟩⟩
  | merged taken notExit =>
      rw [sourceEvents_merge _ taken]
      exact Or.inl ⟨taken, _, _, inserts taken _ _⟩
  | unlinked taken isExit noCandidate => exact Or.inl ⟨taken, _, _, inserts taken _ _⟩
  | exited taken isExit row found reads =>
      rw [sourceEvents_refresh]
      exact Or.inl ⟨taken, _, _, inserts taken _ _⟩

theorem Applied.stays (isApplied : Applied settings readings tables event after)
    {sourceEventId : String} {row : SourceEventRow}
    (stored : tables.sourceEvents.find? sourceEventId = some row) :
    after.sourceEvents.find? sourceEventId = some row := by
  rcases isApplied.sourceEvents with ⟨_, linked, active, inserted⟩ | ⟨same, _⟩
  · exact Table.find?_of_insert?_of_some inserted stored
  · rw [same]
    exact stored

end Keeps

end SuseokTrader
