import SuseokTrader.Candidate.Settling

/-!
# A rebuild of what a rebuild built

A rebuild refreshes each open candidate at most twice, the second time after a
move that the log took. On inputs that stay the same the next rebuild finds every
source event stored, so all it can change is a candidate that the two refreshes
left between two moves.
-/

namespace SuseokTrader

/-! ## The two refreshes of a candidate -/

/-- Where the two refreshes of a rebuild leave a candidate: there is no second one after a move
that was in the log already. -/
def restedState (next : CandidateState → CandidateState) (recorded : Bool)
    (state : CandidateState) : CandidateState :=
  if next state = state ∨ recorded = true ∨ next state = .stale ∨ next state = .closed
  then next state
  else next (next state)

/-- The two refreshes reach the state that the context leads to. A detected candidate has too far
to go to a ready context; a move that the log holds already costs the second refresh. -/
def LeftAtRest (context : CandidateContext) (recorded : Bool) (state : CandidateState) : Prop :=
  context.decided ∨
    (hydrationReady context = true → dataWaitReasons context = []) ∧
      (state = .detected → contextReady context = false ∧
        (recorded = true → hydrationReady context = false ∧ dataWaitReasons context = [])) ∧
      (state = .hydrating ∨ state = .dataWait ∨ state = .stale → contextReady context = true →
        recorded = false)

theorem leftAtRest_iff (context : CandidateContext) (recorded : Bool) {state : CandidateState}
    (isOpen : state ≠ .closed) :
    stateAfter context (restedState (stateAfter context) recorded state) =
        restedState (stateAfter context) recorded state ↔
      LeftAtRest context recorded state := by
  by_cases decided : context.decided
  · have settles : stateAfter context (restedState (stateAfter context) recorded state) =
        restedState (stateAfter context) recorded state := by
      unfold restedState
      split
      · exact stateAfter_decided decided state
      · rw [stateAfter_decided decided]
    exact ⟨fun _ => Or.inl decided, fun _ => settles⟩
  · by_cases hydrated : hydrationReady context = true
    · by_cases complete : dataWaitReasons context = []
      · by_cases ready : contextReady context = true <;> cases recorded <;> cases state <;>
          simp [restedState, LeftAtRest, stateAfter_undecided decided, decided, hydrated, complete,
            ready] at isOpen ⊢
      · have notReady : ¬ contextReady context = true := fun ready =>
          complete (dataWaitReasons_of_contextReady ready)
        cases recorded <;> cases state <;>
          simp [restedState, LeftAtRest, stateAfter_undecided decided, decided, hydrated, complete,
            notReady] at isOpen ⊢
    · have notReady : ¬ contextReady context = true := fun ready =>
        hydrated (hydrationReady_of_contextReady ready)
      by_cases complete : dataWaitReasons context = [] <;> cases recorded <;> cases state <;>
        simp [restedState, LeftAtRest, stateAfter_undecided decided, decided, hydrated, complete,
          notReady] at isOpen ⊢

def moveRecorded (settings : CandidateSettings) (tables : CandidateTables)
    (candidateInstanceId : CandidateInstanceId) (readings : RefreshReadings) : Bool :=
  match refreshMove settings tables candidateInstanceId readings with
  | none => false
  | some row => (tables.transitions.find? row.key).isSome

section Counts

variable {settings : CandidateSettings} {tables : CandidateTables}
  {candidateInstanceId : CandidateInstanceId} {readings : RefreshReadings}

theorem refreshMove_eq :
    refreshMove settings tables candidateInstanceId readings =
      match tables.stateOf candidateInstanceId with
      | none => none
      | some state =>
          let decision := determineNextState state
            (tables.contextOf settings candidateInstanceId readings.toRefreshInputs)
          if state = .closed ∨ readings.raises ∨ state = decision.nextState then none
          else
            some (transition candidateInstanceId (some state) decision.nextState
              decision.eventType none readings.now) := by
  unfold refreshMove CandidateTables.stateOf
  cases found : tables.candidates.find? candidateInstanceId with
  | none => rfl
  | some row =>
      have isRow : row.candidateInstanceId = candidateInstanceId := Table.key_of_find? found
      simp only [CandidateTables.decision, isRow, Option.map_some]

variable {state : CandidateState}

theorem refreshMove_eq_none (isState : tables.stateOf candidateInstanceId = some state)
    (isOpen : state ≠ .closed) (reads : readings.raises = false) :
    refreshMove settings tables candidateInstanceId readings = none ↔
      stateAfter (tables.contextOf settings candidateInstanceId readings.toRefreshInputs) state =
        state := by
  rw [refreshMove_eq, isState]
  simp only [isOpen, reads, stateAfter, false_or, Bool.false_eq_true]
  constructor
  · intro unmoved
    by_contra moves
    rw [if_neg fun same => moves same.symm] at unmoved
    cases unmoved
  · intro same
    rw [if_pos same.symm]

theorem refreshMove_key {row : TransitionRow}
    (moves : refreshMove settings tables candidateInstanceId readings = some row) :
    row.key.candidateInstanceId = candidateInstanceId := by
  rw [refreshMove_eq] at moves
  cases isState : tables.stateOf candidateInstanceId with
  | none => simp [isState] at moves
  | some state =>
      simp only [isState] at moves
      split at moves
      · cases moves
      · cases moves
        rfl

theorem transitionCount_refresh :
    (refreshCandidateContext settings tables candidateInstanceId readings).1.transitionCount =
      (refreshCandidateContext settings tables candidateInstanceId
          readings).2.transitions.rows.length - tables.transitions.rows.length := by
  unfold refreshCandidateContext
  cases found : tables.candidates.find? candidateInstanceId with
  | none => simp
  | some row =>
      by_cases closed : row.state = .closed
      · simp [closed]
      · by_cases raises : readings.raises = true <;> simp [closed, raises]

theorem transitionCount_eq_zero (isState : tables.stateOf candidateInstanceId = some state)
    (isOpen : state ≠ .closed) (reads : readings.raises = false) :
    (refreshCandidateContext settings tables candidateInstanceId readings).1.transitionCount = 0 ↔
      stateAfter (tables.contextOf settings candidateInstanceId readings.toRefreshInputs) state =
        state ∨ moveRecorded settings tables candidateInstanceId readings = true := by
  rw [transitionCount_refresh, transitions_refresh, ← refreshMove_eq_none isState isOpen reads]
  unfold moveRecorded
  cases moves : refreshMove settings tables candidateInstanceId readings with
  | none => simp
  | some row =>
      cases inserted : tables.transitions.insert? row with
      | none =>
          have recorded : (tables.transitions.find? row.key).isSome = true := by
            rw [← Option.ne_none_iff_isSome]
            intro fresh
            have isSome := Table.insert?_isSome_iff.mpr (show tables.transitions.find?
              (Keyed.key row) = none from fresh)
            rw [inserted] at isSome
            cases isSome
          simp [inserted, recorded]
      | some transitions =>
          have fresh : tables.transitions.find? row.key = none :=
            Table.insert?_isSome_iff.mp (by rw [inserted]; rfl)
          simp [inserted, fresh, Table.rows_of_insert? inserted]

theorem otherCounts_refresh (isState : tables.stateOf candidateInstanceId = some state)
    (isOpen : state ≠ .closed) (reads : readings.raises = false) :
    let next := stateAfter
      (tables.contextOf settings candidateInstanceId readings.toRefreshInputs) state
    let result := (refreshCandidateContext settings tables candidateInstanceId readings).1
    result.staleCount = (if next = .stale then 1 else 0) ∧
      result.closedCount = if next = .closed then 1 else 0 := by
  unfold CandidateTables.stateOf at isState
  unfold refreshCandidateContext
  cases found : tables.candidates.find? candidateInstanceId with
  | none => simp [found] at isState
  | some row =>
      have isRow : row.candidateInstanceId = candidateInstanceId := Table.key_of_find? found
      simp only [found, Option.map_some, Option.some.injEq] at isState
      subst isState
      simp only [isOpen, reads, CandidateTables.decision, isRow, if_false, Bool.false_eq_true]
      exact ⟨rfl, rfl⟩

end Counts

section RefreshTwice

variable {settings : CandidateSettings} {tables : CandidateTables}
  {candidateInstanceId : CandidateInstanceId}
  {readings : CandidateInstanceId → Nat → RefreshReadings} {inputs : RefreshInputs}

theorem refreshTwice_cases (settings : CandidateSettings)
    (readings : CandidateInstanceId → Nat → RefreshReadings) (tables : CandidateTables)
    (candidateInstanceId : CandidateInstanceId) :
    let once := (refreshCandidateContext settings tables candidateInstanceId
      (readings candidateInstanceId 0)).2
    refreshTwice settings readings tables candidateInstanceId = once ∨
      refreshTwice settings readings tables candidateInstanceId =
        (refreshCandidateContext settings once candidateInstanceId
          (readings candidateInstanceId 1)).2 := by
  unfold refreshTwice
  simp only
  split
  · exact Or.inl rfl
  · exact Or.inr rfl

theorem stateOf_refreshTwice
    (unchanging : ∀ count, (readings candidateInstanceId count).toRefreshInputs = inputs) :
    (refreshTwice settings readings tables candidateInstanceId).stateOf candidateInstanceId =
      (tables.stateOf candidateInstanceId).map fun state =>
        if inputs.raises then state
        else restedState (stateAfter (tables.contextOf settings candidateInstanceId inputs))
          (moveRecorded settings tables candidateInstanceId (readings candidateInstanceId 0))
          state := by
  let context := tables.contextOf settings candidateInstanceId inputs
  let once := (refreshCandidateContext settings tables candidateInstanceId
    (readings candidateInstanceId 0)).2
  have sameContext : once.contextOf settings candidateInstanceId inputs = context :=
    contextOf_congr settings candidateInstanceId (latestSources_refresh _ _ _ _) inputs
  have first : once.stateOf candidateInstanceId = (tables.stateOf candidateInstanceId).map
      fun state => if inputs.raises then state else stateAfter context state := by
    rw [stateOf_refresh, unchanging]
  have second : (refreshCandidateContext settings once candidateInstanceId
      (readings candidateInstanceId 1)).2.stateOf candidateInstanceId =
        (once.stateOf candidateInstanceId).map
          fun state => if inputs.raises then state else stateAfter context state := by
    rw [stateOf_refresh, unchanging, sameContext]
  cases isState : tables.stateOf candidateInstanceId with
  | none =>
      rw [isState, Option.map_none] at first
      rcases refreshTwice_cases settings readings tables candidateInstanceId with same | same
      · rw [same]
        exact first
      · rw [same, second, first]
        rfl
  | some state =>
      rw [isState] at first
      rw [first] at second
      by_cases raises : inputs.raises = true
      · simp only [raises] at first second ⊢
        rcases refreshTwice_cases settings readings tables candidateInstanceId with same | same
        · rw [same]
          exact first
        · rw [same]
          exact second
      · simp only [raises] at first second ⊢
        by_cases closed : state = .closed
        · subst closed
          rcases refreshTwice_cases settings readings tables candidateInstanceId with same | same
          · rw [same]
            exact first
          · rw [same]
            exact second
        · have reads : (readings candidateInstanceId 0).raises = false := by
            rw [unchanging]
            simpa using raises
          have moves := @transitionCount_eq_zero settings _ _ _ _ isState closed reads
          rcases @otherCounts_refresh settings _ _ _ _ isState closed reads with
            ⟨stale, closes⟩
          have errors := @errorCount_refresh settings _ _ (readings candidateInstanceId 0) _
            isState closed
          rw [unchanging] at moves stale closes
          simp only [reads] at errors
          simp only [refreshTwice, Option.map_some, restedState]
          by_cases ends : stateAfter context state = state ∨
              moveRecorded settings tables candidateInstanceId
                (readings candidateInstanceId 0) = true ∨
              stateAfter context state = .stale ∨ stateAfter context state = .closed
          · rw [if_pos ends, if_pos]
            · exact first
            · rcases ends with same | recorded | isStale | isClosed
              · exact Or.inl (moves.mpr (Or.inl same))
              · exact Or.inl (moves.mpr (Or.inr recorded))
              · rw [stale, if_pos isStale]
                simp
              · rw [closes, if_pos isClosed]
                simp
          · rw [if_neg ends, if_neg]
            · exact second
            · simp only [not_or] at ends
              rcases ends with ⟨different, notRecorded, notStale, notClosed⟩
              rw [moves, stale, closes, errors, if_neg notStale, if_neg notClosed]
              simp [context, different, notRecorded]

end RefreshTwice

/-! ## The other candidates -/

/-- Nothing that the refreshes of a candidate read has changed. -/
structure SameFor (candidateInstanceId : CandidateInstanceId)
    (before after : CandidateTables) : Prop where
  stateOf : after.stateOf candidateInstanceId = before.stateOf candidateInstanceId
  latestSources : after.latestSources = before.latestSources
  logged : ∀ key : TransitionKey, key.candidateInstanceId = candidateInstanceId →
    after.transitions.find? key = before.transitions.find? key

namespace SameFor

variable {settings : CandidateSettings} {candidateInstanceId other : CandidateInstanceId}
  {before between after : CandidateTables}

theorem refl (tables : CandidateTables) : SameFor candidateInstanceId tables tables :=
  ⟨rfl, rfl, fun _ _ => rfl⟩

theorem trans (first : SameFor candidateInstanceId before between)
    (second : SameFor candidateInstanceId between after) :
    SameFor candidateInstanceId before after where
  stateOf := second.stateOf.trans first.stateOf
  latestSources := second.latestSources.trans first.latestSources
  logged key isOwn := (second.logged key isOwn).trans (first.logged key isOwn)

theorem refresh (tables : CandidateTables) (readings : RefreshReadings)
    (different : candidateInstanceId ≠ other) :
    SameFor candidateInstanceId tables
      (refreshCandidateContext settings tables other readings).2 where
  stateOf := stateOf_refresh_of_ne settings tables other readings different
  latestSources := latestSources_refresh settings tables other readings
  logged := by
    intro key isOwn
    rw [transitions_refresh]
    cases moves : refreshMove settings tables other readings with
    | none => rfl
    | some row =>
        have isOther := refreshMove_key moves
        cases inserted : tables.transitions.insert? row with
        | none => simp [inserted]
        | some transitions =>
            simp only [inserted]
            apply Table.find?_of_insert?_of_ne inserted
            intro sameKey
            have sameId : row.key = key := sameKey
            rw [sameId, isOwn] at isOther
            exact different isOther

theorem refreshTwice (tables : CandidateTables)
    (readings : CandidateInstanceId → Nat → RefreshReadings)
    (different : candidateInstanceId ≠ other) :
    SameFor candidateInstanceId tables (refreshTwice settings readings tables other) := by
  have once := @refresh settings candidateInstanceId other tables (readings other 0) different
  rcases refreshTwice_cases settings readings tables other with same | same
  · rw [same]
    exact once
  · rw [same]
    exact once.trans (refresh _ (readings other 1) different)

theorem moveRecorded (same : SameFor candidateInstanceId before after)
    (readings : RefreshReadings) :
    moveRecorded settings after candidateInstanceId readings =
      moveRecorded settings before candidateInstanceId readings := by
  have sameMove : refreshMove settings after candidateInstanceId readings =
      refreshMove settings before candidateInstanceId readings := by
    rw [refreshMove_eq, refreshMove_eq, same.stateOf,
      contextOf_congr settings candidateInstanceId same.latestSources]
  unfold SuseokTrader.moveRecorded
  rw [sameMove]
  cases moves : refreshMove settings before candidateInstanceId readings with
  | none => rfl
  | some row => simp only [same.logged row.key (refreshMove_key moves)]

theorem stateOf_refreshTwice (same : SameFor candidateInstanceId before after)
    {readings : CandidateInstanceId → Nat → RefreshReadings} {inputs : RefreshInputs}
    (unchanging : ∀ count, (readings candidateInstanceId count).toRefreshInputs = inputs) :
    (SuseokTrader.refreshTwice settings readings after candidateInstanceId).stateOf
        candidateInstanceId =
      (SuseokTrader.refreshTwice settings readings before candidateInstanceId).stateOf
        candidateInstanceId := by
  rw [SuseokTrader.stateOf_refreshTwice unchanging, SuseokTrader.stateOf_refreshTwice unchanging,
    same.stateOf, same.moveRecorded, contextOf_congr settings candidateInstanceId
      same.latestSources]

end SameFor

theorem stateOf_refreshAll {settings : CandidateSettings}
    {readings : CandidateInstanceId → Nat → RefreshReadings}
    {inputs : CandidateInstanceId → RefreshInputs}
    (unchanging : ∀ id count, (readings id count).toRefreshInputs = inputs id)
    (candidateInstanceId : CandidateInstanceId) :
    ∀ (ids : List CandidateInstanceId) (tables : CandidateTables), ids.Nodup →
      (ids.foldl (refreshTwice settings readings) tables).stateOf candidateInstanceId =
        if candidateInstanceId ∈ ids
        then (refreshTwice settings readings tables candidateInstanceId).stateOf
          candidateInstanceId
        else tables.stateOf candidateInstanceId := by
  intro ids
  induction ids with
  | nil => simp
  | cons first rest ih =>
      intro tables distinct
      rcases List.nodup_cons.mp distinct with ⟨notLater, distinct⟩
      rw [List.foldl_cons, ih _ distinct]
      by_cases isFirst : candidateInstanceId = first
      · subst isFirst
        simp [notLater]
      · have same : SameFor candidateInstanceId tables
            (refreshTwice settings readings tables first) :=
          SameFor.refreshTwice tables readings isFirst
        simp only [List.mem_cons, isFirst, false_or,
          same.stateOf_refreshTwice (unchanging candidateInstanceId), same.stateOf]

/-! ## What the refreshes of a rebuild keep -/

section RefreshAll

variable {settings : CandidateSettings}
  {readings : CandidateInstanceId → Nat → RefreshReadings}

theorem refreshAll_keeps (property : CandidateTables → Prop)
    (keeps : ∀ tables id readings, property tables →
      property (refreshCandidateContext settings tables id readings).2)
    {tables : CandidateTables} (holds : property tables) (ids : List CandidateInstanceId) :
    property (ids.foldl (refreshTwice settings readings) tables) := by
  apply System.foldl_invariant property _ holds
  intro tables id holds
  rcases refreshTwice_cases settings readings tables id with same | same
  · rw [same]
    exact keeps _ _ _ holds
  · rw [same]
    exact keeps _ _ _ (keeps _ _ _ holds)

variable (tables : CandidateTables) (ids : List CandidateInstanceId)

theorem signals_refreshAll :
    (ids.foldl (refreshTwice settings readings) tables).signals = tables.signals := by
  apply refreshAll_keeps fun after => after.signals = tables.signals
  · intro after id readings same
    rw [signals_refresh, same]
  · rfl

theorem fusions_refreshAll :
    (ids.foldl (refreshTwice settings readings) tables).fusions = tables.fusions := by
  apply refreshAll_keeps fun after => after.fusions = tables.fusions
  · intro after id readings same
    rw [fusions_refresh, same]
  · rfl

theorem sourceEvents_refreshAll :
    (ids.foldl (refreshTwice settings readings) tables).sourceEvents = tables.sourceEvents := by
  apply refreshAll_keeps fun after => after.sourceEvents = tables.sourceEvents
  · intro after id readings same
    rw [sourceEvents_refresh, same]
  · rfl

theorem latestSources_refreshAll :
    (ids.foldl (refreshTwice settings readings) tables).latestSources = tables.latestSources := by
  apply refreshAll_keeps fun after => after.latestSources = tables.latestSources
  · intro after id readings same
    rw [latestSources_refresh, same]
  · rfl

theorem transitions_grow_refresh
    (candidateInstanceId : CandidateInstanceId) (readings : RefreshReadings) :
    tables.transitions.rows <+:
      (refreshCandidateContext settings tables candidateInstanceId
        readings).2.transitions.rows := by
  rw [transitions_refresh]
  cases refreshMove settings tables candidateInstanceId readings with
  | none => exact List.prefix_rfl
  | some row =>
      cases inserted : tables.transitions.insert? row with
      | none => simp [inserted]
      | some transitions =>
          simp only [inserted, Option.getD_some, Table.rows_of_insert? inserted]
          exact List.prefix_append _ _

theorem transitions_grow_refreshAll :
    tables.transitions.rows <+:
      (ids.foldl (refreshTwice settings readings) tables).transitions.rows := by
  apply refreshAll_keeps fun after =>
    tables.transitions.rows <+: after.transitions.rows
  · intro after id readings grown
    exact grown.trans (transitions_grow_refresh after id readings)
  · exact List.prefix_rfl

end RefreshAll

/-! ## Passes that change nothing -/

theorem stateOf_of_mem {tables : CandidateTables} {episode : Episode}
    (present : episode ∈ tables.episodes) :
    tables.stateOf episode.candidateInstanceId = some episode.state := by
  rcases List.mem_map.mp present with ⟨row, rowPresent, rfl⟩
  have found : tables.candidates.find? row.episode.candidateInstanceId = some row :=
    Table.find?_of_mem rowPresent
  rw [CandidateTables.stateOf, found]
  rfl

structure SameEpisodes (before after : CandidateTables) : Prop where
  episodes : after.episodes = before.episodes
  transitions : after.transitions = before.transitions
  latestSources : after.latestSources = before.latestSources

namespace SameEpisodes

variable {settings : CandidateSettings} {before between after : CandidateTables}

theorem refl (tables : CandidateTables) : SameEpisodes tables tables :=
  ⟨rfl, rfl, rfl⟩

theorem trans (first : SameEpisodes before between) (second : SameEpisodes between after) :
    SameEpisodes before after where
  episodes := second.episodes.trans first.episodes
  transitions := second.transitions.trans first.transitions
  latestSources := second.latestSources.trans first.latestSources

theorem refresh {tables : CandidateTables} {candidateInstanceId : CandidateInstanceId}
    {readings : RefreshReadings}
    (rests : ∀ state, tables.stateOf candidateInstanceId = some state → readings.raises = false →
      stateAfter (tables.contextOf settings candidateInstanceId readings.toRefreshInputs) state =
        state) :
    SameEpisodes tables
      (refreshCandidateContext settings tables candidateInstanceId readings).2 where
  episodes := by
    rw [episodes_refresh]
    conv_rhs => rw [← List.map_id tables.episodes]
    apply List.map_congr_left
    intro episode present
    by_cases isRow : episode.candidateInstanceId = candidateInstanceId
    · have isState := stateOf_of_mem present
      rw [isRow] at isState
      by_cases raises : readings.raises = true
      · simp [Episode.refreshed, raises]
      · have same : (determineNextState episode.state (tables.contextOf settings
            candidateInstanceId readings.toRefreshInputs)).nextState = episode.state :=
          rests episode.state isState (by simpa using raises)
        simp [Episode.refreshed, same]
    · simp [isRow]
  transitions := by
    have unmoved : refreshMove settings tables candidateInstanceId readings = none := by
      rw [refreshMove_eq]
      cases isState : tables.stateOf candidateInstanceId with
      | none => rfl
      | some state =>
          by_cases raises : readings.raises = true
          · simp [raises]
          · have same := rests state isState (by simpa using raises)
            unfold stateAfter at same
            simp [same]
    rw [transitions_refresh, unmoved]
  latestSources := latestSources_refresh settings tables candidateInstanceId readings

end SameEpisodes

/-- A refresh of the candidate on the inputs leaves it in its state. -/
def AtRest (settings : CandidateSettings) (tables : CandidateTables)
    (inputs : CandidateInstanceId → RefreshInputs) (candidateInstanceId : CandidateInstanceId) :
    Prop :=
  ∀ state, tables.stateOf candidateInstanceId = some state →
    (inputs candidateInstanceId).raises = false →
      stateAfter (tables.contextOf settings candidateInstanceId (inputs candidateInstanceId))
        state = state

section Passes

variable {settings : CandidateSettings} {readings : CandidateInstanceId → Nat → RefreshReadings}
  {inputs : CandidateInstanceId → RefreshInputs}
  (unchanging : ∀ id count, (readings id count).toRefreshInputs = inputs id)
include unchanging

variable {candidateInstanceId : CandidateInstanceId}

theorem SameEpisodes.refreshTwice {tables : CandidateTables}
    (rests : AtRest settings tables inputs candidateInstanceId) :
    SameEpisodes tables (refreshTwice settings readings tables candidateInstanceId) := by
  have once : SameEpisodes tables (refreshCandidateContext settings tables candidateInstanceId
      (readings candidateInstanceId 0)).2 := by
    apply SameEpisodes.refresh
    rw [unchanging]
    exact rests
  rcases refreshTwice_cases settings readings tables candidateInstanceId with same | same
  · rw [same]
    exact once
  · rw [same]
    refine once.trans (SameEpisodes.refresh ?_)
    intro state isState reads
    rw [CandidateTables.stateOf_of_episodes once.episodes] at isState
    rw [unchanging] at reads ⊢
    rw [contextOf_congr settings candidateInstanceId once.latestSources]
    exact rests state isState reads

theorem SameEpisodes.refreshAll :
    ∀ (ids : List CandidateInstanceId) (tables : CandidateTables),
      (∀ id ∈ ids, AtRest settings tables inputs id) →
        SameEpisodes tables (ids.foldl (SuseokTrader.refreshTwice settings readings) tables) := by
  intro ids
  induction ids with
  | nil =>
      intro tables _
      exact SameEpisodes.refl tables
  | cons first rest ih =>
      intro tables rests
      have once := SameEpisodes.refreshTwice unchanging (rests first List.mem_cons_self)
      refine once.trans (ih _ ?_)
      intro id listed state isState reads
      rw [CandidateTables.stateOf_of_episodes once.episodes] at isState
      rw [contextOf_congr settings id once.latestSources]
      exact rests id (List.mem_cons_of_mem first listed) state isState reads

omit unchanging in
theorem SameFor.refreshAll :
    ∀ (ids : List CandidateInstanceId) (tables : CandidateTables), candidateInstanceId ∉ ids →
      SameFor candidateInstanceId tables
        (ids.foldl (SuseokTrader.refreshTwice settings readings) tables) := by
  intro ids
  induction ids with
  | nil =>
      intro tables _
      exact SameFor.refl tables
  | cons first rest ih =>
      intro tables notListed
      simp only [List.mem_cons, not_or] at notListed
      exact (SameFor.refreshTwice tables readings notListed.1).trans (ih _ notListed.2)

/-- A pass over a candidate that does not rest shows, in the log or in its state. -/
theorem atRest_of_refreshAll {ids : List CandidateInstanceId} {tables : CandidateTables}
    (distinct : ids.Nodup) (listed : candidateInstanceId ∈ ids)
    (sameLog : (ids.foldl (SuseokTrader.refreshTwice settings readings) tables).transitions.rows =
      tables.transitions.rows)
    (sameState : (ids.foldl (SuseokTrader.refreshTwice settings readings) tables).stateOf
      candidateInstanceId = tables.stateOf candidateInstanceId) :
    AtRest settings tables inputs candidateInstanceId := by
  rintro state isState reads
  by_cases closed : state = .closed
  · rw [closed, stateAfter_closed]
  · by_contra moves
    rcases List.append_of_mem listed with ⟨before, after, rfl⟩
    have notBefore : candidateInstanceId ∉ before := by
      intro earlier
      rw [List.nodup_append] at distinct
      exact distinct.2.2 candidateInstanceId earlier candidateInstanceId List.mem_cons_self rfl
    rw [List.foldl_append] at sameLog
    have final := @stateOf_refreshAll settings readings inputs unchanging candidateInstanceId _
      tables distinct
    rw [if_pos listed, sameState, stateOf_refreshTwice (unchanging candidateInstanceId), isState,
      reads] at final
    simp only [Option.map_some, Option.some.injEq] at final
    -- the tables in which the pass comes to the candidate
    let reached := before.foldl (SuseokTrader.refreshTwice settings readings) tables
    have same : SameFor candidateInstanceId tables reached :=
      SameFor.refreshAll before tables notBefore
    have isReached : reached.stateOf candidateInstanceId = some state := same.stateOf.trans isState
    have isReading : (readings candidateInstanceId 0).raises = false := by
      rw [unchanging]
      exact reads
    have counted := @transitionCount_eq_zero settings _ _ _ _ isReached closed isReading
    rw [unchanging, contextOf_congr settings candidateInstanceId same.latestSources,
      same.moveRecorded, transitionCount_refresh] at counted
    have grown : (refreshCandidateContext settings reached candidateInstanceId
        (readings candidateInstanceId 0)).2.transitions.rows.length ≤
          tables.transitions.rows.length := by
      rw [← sameLog]
      apply List.IsPrefix.length_le
      refine List.IsPrefix.trans ?_ (transitions_grow_refreshAll _ after)
      rcases refreshTwice_cases settings readings reached candidateInstanceId with once | twice
      · rw [once]
      · rw [twice]
        exact transitions_grow_refresh _ _ _
    have start : tables.transitions.rows.length ≤ reached.transitions.rows.length :=
      (transitions_grow_refreshAll tables before).length_le
    have recorded : moveRecorded settings tables candidateInstanceId
        (readings candidateInstanceId 0) = true := by
      rcases counted.mp (by omega) with same | recorded
      · exact absurd same moves
      · exact recorded
    rw [restedState, if_pos (Or.inr (Or.inl recorded))] at final
    exact moves final.symm

end Passes

/-! ## The candidates a rebuild refreshes -/

theorem mem_listActiveCandidates {tables : CandidateTables} {tradeDate : String}
    {candidateInstanceId : CandidateInstanceId} :
    candidateInstanceId ∈ tables.listActiveCandidates tradeDate ↔
      candidateInstanceId.tradeDate = tradeDate ∧
        ∃ state, tables.stateOf candidateInstanceId = some state ∧ state ≠ .closed := by
  simp only [CandidateTables.listActiveCandidates, List.mem_map, List.mem_insertionSort,
    List.mem_filter, CandidateRow.isOpen, Bool.and_eq_true, decide_eq_true_eq]
  constructor
  · rintro ⟨row, ⟨present, sameDate, isOpen⟩, rfl⟩
    have isState := stateOf_of_mem
      (List.mem_map_of_mem present : row.episode ∈ tables.episodes)
    exact ⟨sameDate, row.state, isState, isOpen⟩
  · rintro ⟨sameDate, state, isState, isOpen⟩
    rcases Option.map_eq_some_iff.mp isState with ⟨row, found, rfl⟩
    have isRow : row.candidateInstanceId = candidateInstanceId := Table.key_of_find? found
    refine ⟨row, ⟨Table.mem_of_find? found, ?_, isOpen⟩, isRow⟩
    rw [isRow]
    exact sameDate

theorem nodup_listActiveCandidates (tables : CandidateTables) (tradeDate : String) :
    (tables.listActiveCandidates tradeDate).Nodup := by
  have sorted := List.perm_insertionSort (fun left right : CandidateRow =>
    left.lastSeenAt < right.lastSeenAt ∨
      left.lastSeenAt = right.lastSeenAt ∧
        left.candidateInstanceId.text ≤ right.candidateInstanceId.text)
    (tables.candidates.rows.filter fun row =>
      row.candidateInstanceId.tradeDate = tradeDate && row.isOpen)
  refine (sorted.map CandidateRow.candidateInstanceId).nodup_iff.mpr ?_
  exact tables.candidates.nodup.sublist (List.filter_sublist.map _)

end SuseokTrader
