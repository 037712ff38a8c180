import SuseokTrader.Candidate.RebuildTwice

/-!
# Episodes and their log

A code has one candidate after the other on a trade date: the generations count
up from one, only the last may be open, and a closed candidate stays closed. The
log of a candidate leads from its creation to its state, each transition starting
where the one before it ended, as long as the log takes every move: the identity
of a move that a refresh makes is its ends and the time of the clock, so the same
move made again at the same reading of the clock is lost.
-/

namespace SuseokTrader

/-! ## Chains of transitions -/

def ChainsTo : Option CandidateState → List TransitionRow → Option CandidateState → Prop
  | start, [], finish => start = finish
  | start, row :: rows, finish =>
      row.key.fromState = start ∧ ChainsTo (some row.key.toState) rows finish

instance ChainsTo.decidable : (start : Option CandidateState) → (rows : List TransitionRow) →
    (finish : Option CandidateState) → Decidable (ChainsTo start rows finish)
  | start, [], finish => inferInstanceAs (Decidable (start = finish))
  | start, row :: rows, finish =>
      have _ := ChainsTo.decidable (some row.key.toState) rows finish
      inferInstanceAs (Decidable (row.key.fromState = start ∧ _))

theorem ChainsTo.append {start finish : Option CandidateState} {rows : List TransitionRow}
    (chain : ChainsTo start rows finish) {row : TransitionRow}
    (starts : row.key.fromState = finish) :
    ChainsTo start (rows ++ [row]) (some row.key.toState) := by
  induction rows generalizing start with
  | nil =>
      cases chain
      exact ⟨starts, rfl⟩
  | cons first rows ih => exact ⟨chain.1, ih chain.2⟩

theorem ChainsTo.eq_nil {start : Option CandidateState} {rows : List TransitionRow}
    (chain : ChainsTo start rows none) : rows = [] := by
  induction rows generalizing start with
  | nil => rfl
  | cons first rows ih =>
      have rest : rows = [] := ih chain.2
      subst rest
      cases chain.2

/-! ## The invariant -/

namespace CandidateTables

def generationsOf (tables : CandidateTables) (tradeDate code : String) : List Nat :=
  ((tables.episodes.map Episode.candidateInstanceId).filter fun id =>
    id.tradeDate = tradeDate && id.code = code).map CandidateInstanceId.generation

def logOf (tables : CandidateTables) (candidateInstanceId : CandidateInstanceId) :
    List TransitionRow :=
  tables.transitions.rows.filter fun row => row.key.candidateInstanceId = candidateInstanceId

/-- What holds of the candidates and their log. -/
structure EpisodesKept (tables : CandidateTables) : Prop where
  generations : ∀ tradeDate code, ∃ count,
    tables.generationsOf tradeDate code = List.range' 1 count
  onlyLastOpen : ∀ episode ∈ tables.episodes, episode.state ≠ .closed →
    ∀ other ∈ tables.episodes,
      other.candidateInstanceId.tradeDate = episode.candidateInstanceId.tradeDate →
      other.candidateInstanceId.code = episode.candidateInstanceId.code →
        other.candidateInstanceId.generation ≤ episode.candidateInstanceId.generation
  closedAt : ∀ episode ∈ tables.episodes,
    episode.closedAt.isSome = true ↔ episode.state = .closed
  chain : ∀ candidateInstanceId, ChainsTo none (tables.logOf candidateInstanceId)
    (tables.stateOf candidateInstanceId)
  created : ∀ row ∈ tables.transitions.rows, row.key.fromState = none →
    row.key.toState = .detected ∧ row.key.eventType = .candidateCreated

theorem episodesKept_initial : EpisodesKept CandidateTables.initial where
  generations _ _ := ⟨0, rfl⟩
  onlyLastOpen := by simp [initial, episodes]
  closedAt := by simp [initial, episodes]
  chain _ := rfl
  created := by simp [initial]

theorem EpisodesKept.congr {before after : CandidateTables} (kept : before.EpisodesKept)
    (episodes : after.episodes = before.episodes)
    (transitions : after.transitions = before.transitions) : after.EpisodesKept where
  generations := by
    simp only [generationsOf, episodes]
    exact kept.generations
  onlyLastOpen := by
    rw [episodes]
    exact kept.onlyLastOpen
  closedAt := by
    rw [episodes]
    exact kept.closedAt
  chain := by
    intro id
    rw [logOf, transitions, stateOf_of_episodes episodes]
    exact kept.chain id
  created := by
    rw [transitions]
    exact kept.created

/-! ## Refreshes -/

section Refresh

variable {settings : CandidateSettings} {tables : CandidateTables}
  {candidateInstanceId : CandidateInstanceId} {readings : RefreshReadings}

theorem ids_refresh :
    (refreshCandidateContext settings tables candidateInstanceId readings).2.episodes.map
        Episode.candidateInstanceId = tables.episodes.map Episode.candidateInstanceId := by
  rw [episodes_refresh, List.map_map]
  apply List.map_congr_left
  intro episode _
  simp only [Function.comp_apply]
  split <;> simp

theorem mem_episodes_refresh {episode : Episode}
    (present : episode ∈
      (refreshCandidateContext settings tables candidateInstanceId readings).2.episodes) :
    ∃ earlier ∈ tables.episodes,
      episode.candidateInstanceId = earlier.candidateInstanceId ∧
        (episode = earlier ∨ earlier.state ≠ .closed ∧
          ∃ nextState, episode = earlier.moved nextState readings.now) := by
  rw [episodes_refresh] at present
  rcases List.mem_map.mp present with ⟨earlier, isEarlier, rfl⟩
  refine ⟨earlier, isEarlier, by split <;> simp, ?_⟩
  split
  · unfold Episode.refreshed
    split
    · exact Or.inl rfl
    · by_cases closed : earlier.state = .closed
      · left
        have stays : (determineNextState earlier.state (tables.contextOf settings
            candidateInstanceId readings.toRefreshInputs)).nextState = earlier.state := by
          rw [closed, determineNextState_closed]
        rw [stays, Episode.moved_self]
      · exact Or.inr ⟨closed, _, rfl⟩
  · exact Or.inl rfl

theorem closedAt_moved {episode : Episode} (nextState : CandidateState) (now : String)
    (isOpen : episode.state ≠ .closed)
    (kept : episode.closedAt.isSome = true ↔ episode.state = .closed) :
    (episode.moved nextState now).closedAt.isSome = true ↔
      (episode.moved nextState now).state = .closed := by
  unfold Episode.moved
  split
  · exact kept
  · by_cases closes : nextState = .closed
    · simp [closes]
    · simpa [closes, isOpen] using kept

theorem logOf_insert_of_ne {other : CandidateInstanceId} {row : TransitionRow}
    {transitions : Table TransitionRow} (inserted : tables.transitions.insert? row =
      some transitions) (different : row.key.candidateInstanceId ≠ other) :
    (transitions.rows.filter fun row => row.key.candidateInstanceId = other) =
      tables.logOf other := by
  simp [Table.rows_of_insert? inserted, logOf, different]

theorem EpisodesKept.refresh (kept : tables.EpisodesKept)
    (logged : moveRecorded settings tables candidateInstanceId readings = false) :
    (refreshCandidateContext settings tables candidateInstanceId
      readings).2.EpisodesKept where
  generations := by
    simp only [generationsOf, ids_refresh]
    exact kept.generations
  onlyLastOpen := by
    intro episode present isOpen other otherPresent sameDate sameCode
    rcases mem_episodes_refresh present with ⟨earlier, isEarlier, sameId, wasOpen⟩
    rcases mem_episodes_refresh otherPresent with ⟨otherEarlier, isOther, otherId, _⟩
    rw [sameId, otherId] at sameDate sameCode ⊢
    refine kept.onlyLastOpen earlier isEarlier ?_ otherEarlier isOther sameDate sameCode
    rcases wasOpen with rfl | ⟨wasOpen, _⟩
    · exact isOpen
    · exact wasOpen
  closedAt := by
    intro episode present
    rcases mem_episodes_refresh present with ⟨earlier, isEarlier, _, rfl | ⟨wasOpen, next, rfl⟩⟩
    · exact kept.closedAt episode isEarlier
    · exact closedAt_moved next readings.now wasOpen (kept.closedAt earlier isEarlier)
  chain := by
    intro id
    have before := kept.chain id
    rw [logOf, transitions_refresh]
    by_cases isOwn : id = candidateInstanceId
    · subst isOwn
      rw [stateOf_refresh]
      cases moves : refreshMove settings tables id readings with
      | none =>
          rw [refreshMove_eq] at moves
          cases isState : tables.stateOf id with
          | none =>
              rw [isState] at before
              exact before
          | some state =>
              rw [isState] at before moves
              simp only [ite_eq_left_iff, reduceCtorEq, imp_false, not_not] at moves
              have unmoved : (if readings.raises = true then state
                  else stateAfter (tables.contextOf settings id readings.toRefreshInputs) state) =
                    state := by
                rcases moves with closed | raises | same
                · rw [closed, stateAfter_closed, ite_self]
                · rw [if_pos raises]
                · unfold stateAfter
                  rw [← same, ite_self]
              rw [Option.map_some, unmoved]
              exact before
      | some row =>
          unfold moveRecorded at logged
          rw [moves] at logged
          have fresh : tables.transitions.find? row.key = none := by simpa using logged
          rcases Option.isSome_iff_exists.mp (Table.insert?_isSome_iff.mpr fresh) with
            ⟨transitions, inserted⟩
          simp only [inserted, Option.getD_some, Table.rows_of_insert? inserted]
          rw [refreshMove_eq] at moves
          cases isState : tables.stateOf id with
          | none => simp [isState] at moves
          | some state =>
              rw [isState] at before moves
              simp only at moves
              split at moves
              · cases moves
              · next moving =>
                  simp only [not_or] at moving
                  cases moves
                  let decision := determineNextState state
                    (tables.contextOf settings id readings.toRefreshInputs)
                  have next := @ChainsTo.append _ _ _ before (transition id (some state)
                    decision.nextState decision.eventType none readings.now) rfl
                  simpa [moving.2.1, stateAfter, logOf, transition] using next
    · rw [stateOf_refresh_of_ne settings tables candidateInstanceId readings isOwn]
      cases moves : refreshMove settings tables candidateInstanceId readings with
      | none => exact before
      | some row =>
          have isOther := refreshMove_key moves
          cases inserted : tables.transitions.insert? row with
          | none =>
              simp only [inserted]
              exact before
          | some transitions =>
              simp only [inserted, Option.getD_some]
              rw [logOf_insert_of_ne inserted (isOther ▸ Ne.symm isOwn)]
              exact before
  created := by
    rw [transitions_refresh]
    cases moves : refreshMove settings tables candidateInstanceId readings with
    | none => exact kept.created
    | some row =>
        cases inserted : tables.transitions.insert? row with
        | none => simpa [inserted] using kept.created
        | some transitions =>
            simp only [inserted, Option.getD_some, Table.rows_of_insert? inserted,
              List.mem_append, List.mem_singleton]
            rintro other (present | rfl) starts
            · exact kept.created other present starts
            · rw [refreshMove_eq] at moves
              cases isState : tables.stateOf candidateInstanceId with
              | none => simp [isState] at moves
              | some state =>
                  simp only [isState] at moves
                  split at moves
                  · cases moves
                  · cases moves
                    cases starts

end Refresh

/-! ## Creations and merges -/

theorem foldl_max_range' (count : Nat) : (List.range' 1 count).foldl max 0 = count := by
  induction count with
  | zero => rfl
  | succ count ih =>
      rw [List.range'_concat, List.foldl_append, ih]
      simp [Nat.add_comm]

section Create

variable {tables : CandidateTables} {event : CandidateSourceEvent} {now : String}

theorem nextGeneration_eq {tradeDate code : String} :
    tables.nextGeneration tradeDate code =
      (tables.generationsOf tradeDate code).foldl max 0 + 1 := by
  simp only [generationsOf, episodes, List.map_map, List.filter_map]
  rfl

theorem stateOf_newId (tables : CandidateTables) (tradeDate code : String) :
    tables.stateOf ⟨tradeDate, code, tables.nextGeneration tradeDate code⟩ = none := by
  rw [stateOf, find?_newId]
  rfl

theorem EpisodesKept.logOf_newId (kept : tables.EpisodesKept) (tradeDate code : String) :
    tables.logOf ⟨tradeDate, code, tables.nextGeneration tradeDate code⟩ = [] := by
  have chain := kept.chain ⟨tradeDate, code, tables.nextGeneration tradeDate code⟩
  rw [stateOf_newId] at chain
  exact chain.eq_nil

theorem EpisodesKept.transitions_create (kept : tables.EpisodesKept) :
    (tables.createCandidate event now).1.transitions.rows =
      tables.transitions.rows ++
        [transition (tables.createCandidate event now).2 none .detected .candidateCreated
            (some event.sourceEventId) now,
          transition (tables.createCandidate event now).2 (some .detected) .hydrating
            .stateChanged (some event.sourceEventId) now] := by
  have absent := kept.logOf_newId event.tradeDate event.code
  have notLogged : ∀ row ∈ tables.transitions.rows,
      row.key.candidateInstanceId ≠ (tables.createCandidate event now).2 := by
    intro row present isNew
    have listed : row ∈ tables.logOf (tables.createCandidate event now).2 :=
      List.mem_filter.mpr ⟨present, by simpa using isNew⟩
    rw [createCandidate_snd, absent] at listed
    cases listed
  rw [transitions_createCandidate]
  generalize (tables.createCandidate event now).2 = id at notLogged ⊢
  have freshCreated : tables.transitions.find? (Keyed.key (transition id none .detected
      .candidateCreated (some event.sourceEventId) now)) = none := by
    rw [Table.find?_eq_none]
    intro row present sameKey
    exact notLogged row present (congrArg TransitionKey.candidateInstanceId sameKey)
  rcases Option.isSome_iff_exists.mp (Table.insert?_isSome_iff.mpr freshCreated) with
    ⟨logged, isLogged⟩
  have freshHydrating : logged.find? (Keyed.key (transition id (some .detected) .hydrating
      .stateChanged (some event.sourceEventId) now)) = none := by
    rw [Table.find?_eq_none]
    intro row present sameKey
    rw [Table.rows_of_insert? isLogged] at present
    rcases List.mem_append.mp present with present | isCreated
    · exact notLogged row present (congrArg TransitionKey.candidateInstanceId sameKey)
    · rw [List.mem_singleton.mp isCreated] at sameKey
      have sameFrom := congrArg TransitionKey.fromState sameKey
      cases sameFrom
  rcases Option.isSome_iff_exists.mp (Table.insert?_isSome_iff.mpr freshHydrating) with
    ⟨both, isBoth⟩
  simp only [isLogged, Option.getD_some, isBoth, Table.rows_of_insert? isBoth,
    Table.rows_of_insert? isLogged, List.append_assoc, List.cons_append, List.nil_append]

theorem stateOf_create (id : CandidateInstanceId) :
    (tables.createCandidate event now).1.stateOf id =
      if id = (tables.createCandidate event now).2 then some .hydrating
      else tables.stateOf id := by
  rw [stateOf_eq, stateOf_eq, episodes_createCandidate]
  by_cases isNew : id = (tables.createCandidate event now).2
  · have absent : tables.stateOf id = none := by
      rw [isNew]
      exact stateOf_newId tables event.tradeDate event.code
    rw [stateOf_eq, Option.map_eq_none_iff] at absent
    simp [absent, ← isNew]
  · have notNew : ((tables.createCandidate event now).2 = id) = False := by
      simpa using Ne.symm isNew
    simp [isNew, notNew]

theorem EpisodesKept.create (kept : tables.EpisodesKept)
    (noneOpen : tables.findActiveCandidate event.tradeDate event.code = none) :
    (tables.createCandidate event now).1.EpisodesKept where
  generations := by
    intro tradeDate code
    rcases kept.generations tradeDate code with ⟨count, isCount⟩
    have appended : (tables.createCandidate event now).1.generationsOf tradeDate code =
        tables.generationsOf tradeDate code ++
          if event.tradeDate = tradeDate ∧ event.code = code then
            [tables.nextGeneration event.tradeDate event.code] else [] := by
      simp only [generationsOf, episodes_createCandidate, createCandidate_snd]
      split
      · simp_all
      · simp_all
    rw [appended]
    by_cases isCode : event.tradeDate = tradeDate ∧ event.code = code
    · refine ⟨count + 1, ?_⟩
      rw [nextGeneration_eq, isCode.1, isCode.2, isCount, foldl_max_range', List.range'_concat]
      simp [Nat.add_comm]
    · refine ⟨count, ?_⟩
      rw [if_neg isCode, isCount, List.append_nil]
  onlyLastOpen := by
    intro episode present isOpen other otherPresent sameDate sameCode
    rw [episodes_createCandidate] at present otherPresent
    rcases List.mem_append.mp otherPresent with wasThere | isNew
    · rcases List.mem_map.mp wasThere with ⟨row, rowPresent, rfl⟩
      rcases List.mem_append.mp present with wasOpen | isNew
      · exact kept.onlyLastOpen episode wasOpen isOpen row.episode wasThere sameDate sameCode
      · rw [List.mem_singleton.mp isNew] at sameDate sameCode ⊢
        have earlier := generation_lt_nextGeneration rowPresent
        simp only [CandidateRow.episode] at sameDate sameCode
        rw [sameDate, sameCode] at earlier
        exact Nat.le_of_lt earlier
    · rcases List.mem_append.mp present with wasOpen | isAlsoNew
      · rw [List.mem_singleton.mp isNew] at sameDate sameCode
        rcases List.mem_map.mp wasOpen with ⟨row, rowPresent, rfl⟩
        have closed := findActiveCandidate_eq_none.mp noneOpen row rowPresent sameDate.symm
          sameCode.symm
        exact absurd closed isOpen
      · rw [List.mem_singleton.mp isNew, List.mem_singleton.mp isAlsoNew]
  closedAt := by
    intro episode present
    rw [episodes_createCandidate] at present
    rcases List.mem_append.mp present with wasThere | isNew
    · exact kept.closedAt episode wasThere
    · rw [List.mem_singleton.mp isNew]
      simp
  chain := by
    intro id
    rw [logOf, kept.transitions_create, List.filter_append, stateOf_create]
    by_cases isNew : id = (tables.createCandidate event now).2
    · have absent := kept.logOf_newId event.tradeDate event.code
      rw [← createCandidate_snd tables event now, ← isNew, logOf] at absent
      rw [absent, ← isNew]
      simp [transition, ChainsTo]
    · have notNew : ((tables.createCandidate event now).2 = id) = False := by
        simpa using Ne.symm isNew
      rw [if_neg isNew]
      simpa [transition, notNew, logOf] using kept.chain id
  created := by
    intro row present starts
    rw [kept.transitions_create] at present
    rcases List.mem_append.mp present with wasThere | isNew
    · exact kept.created row wasThere starts
    · simp only [List.mem_cons, List.not_mem_nil, or_false] at isNew
      rcases isNew with rfl | rfl
      · exact ⟨rfl, rfl⟩
      · cases starts

theorem EpisodesKept.candidateFor (kept : tables.EpisodesKept) :
    (tables.candidateFor event now).1.EpisodesKept := by
  rcases candidateFor_cases tables event now with ⟨row, _, linked⟩ | ⟨noneOpen, linked⟩
  · rw [linked]
    exact kept
  · rw [linked]
    exact kept.create noneOpen

theorem EpisodesKept.merge {settings : CandidateSettings} (kept : tables.EpisodesKept) :
    (mergeSourceEvent settings tables event now).EpisodesKept := by
  by_cases taken : tables.takes settings event
  · have linked : (tables.candidateFor event now).1.EpisodesKept := kept.candidateFor
    exact linked.congr (episodes_merge now taken) (transitions_merge now taken)
  · rw [mergeSourceEvent_of_not_takes settings tables event now taken]
    exact kept

end Create

end CandidateTables

/-! ## Steps that the log takes -/

/-- The log takes the move of the refresh after an exit. -/
def ExitLogged (settings : CandidateSettings) (readings : String → SourceReadings)
    (tables : CandidateTables) (event : CandidateSourceEvent) : Prop :=
  tables.takes settings event → event.sourceType = .conditionExit →
    ∀ row, tables.findActiveCandidate event.tradeDate event.code = some row →
      moveRecorded settings (tables.exited event row.candidateInstanceId) row.candidateInstanceId
        ((readings event.sourceEventId).refresh row.candidateInstanceId) = false

/-- The log takes the moves of the two refreshes of a rebuild. -/
def PassLogged (settings : CandidateSettings)
    (readings : CandidateInstanceId → Nat → RefreshReadings) (tables : CandidateTables)
    (candidateInstanceId : CandidateInstanceId) : Prop :=
  let once := (refreshCandidateContext settings tables candidateInstanceId
    (readings candidateInstanceId 0)).2
  moveRecorded settings tables candidateInstanceId (readings candidateInstanceId 0) = false ∧
    (refreshTwice settings readings tables candidateInstanceId = once ∨
      moveRecorded settings once candidateInstanceId (readings candidateInstanceId 1) = false)

/-- No refresh of the step makes a move that the log holds already under the same time. -/
def MovesLogged (host : Host) (settings : CandidateSettings) (tables : CandidateTables) :
    CandidateOp → Prop
  | .refresh candidateInstanceId readings =>
      moveRecorded settings tables candidateInstanceId readings = false
  | .rebuild tradeDate readings =>
      ∀ fusions, conditionFusions host settings.tradeDateOf tables.signals tradeDate
          readings.now = .ok fusions →
        let fused := tables.withFusions fusions
        let events := ingestedEvents host settings fused tradeDate readings
        let ingested := events.foldl (applySourceEvent settings readings.sources) fused
        (System.ofStep (applySourceEvent settings readings.sources)).Along
            (ExitLogged settings readings.sources) fused events ∧
          (System.ofStep (refreshTwice settings readings.refreshes)).Along
            (PassLogged settings readings.refreshes) ingested
            (ingested.listActiveCandidates tradeDate)
  | _ => True

namespace CandidateTables

section Steps

variable {settings : CandidateSettings} {tables : CandidateTables}

theorem EpisodesKept.apply {readings : String → SourceReadings} {event : CandidateSourceEvent}
    (kept : tables.EpisodesKept) (logged : ExitLogged settings readings tables event) :
    (applySourceEvent settings readings tables event).EpisodesKept := by
  have isApplied := applied settings readings tables event
  generalize applySourceEvent settings readings tables event = after at isApplied ⊢
  cases isApplied with
  | skipped => exact kept
  | failed => exact kept
  | merged taken notExit => exact kept.merge
  | unlinked => exact kept.congr rfl rfl
  | exited taken isExit row found reads =>
      have ended : (tables.exited event row.candidateInstanceId).EpisodesKept :=
        kept.congr (tables.episodes_exited event _) rfl
      exact ended.refresh (logged taken isExit row found)

theorem EpisodesKept.refreshTwice
    {readings : CandidateInstanceId → Nat → RefreshReadings}
    {candidateInstanceId : CandidateInstanceId} (kept : tables.EpisodesKept)
    (logged : PassLogged settings readings tables candidateInstanceId) :
    (refreshTwice settings readings tables candidateInstanceId).EpisodesKept := by
  rcases logged with ⟨first, second⟩
  have once := kept.refresh first
  rcases second with same | second
  · rw [same]
    exact once
  · rcases refreshTwice_cases settings readings tables candidateInstanceId with same | same
    · rw [same]
      exact once
    · rw [same]
      exact once.refresh second

theorem EpisodesKept.next {host : Host} (kept : tables.EpisodesKept) (op : CandidateOp)
    (logged : MovesLogged host settings tables op) :
    (tables.next host settings op).EpisodesKept := by
  cases op with
  | signal row => exact kept.congr rfl rfl
  | source other now => exact kept.merge
  | refresh candidateInstanceId readings => exact kept.refresh logged
  | fuseCode code tradeDate now =>
      unfold CandidateTables.next rebuildConditionFusionForCode
      simp only
      split
      · next fused isFused =>
          rcases Checked.bind_eq_ok.mp isFused with ⟨events, _, rest⟩
          rcases Checked.bind_eq_ok.mp rest with ⟨fusions, _, isTables⟩
          cases isTables
          exact kept.congr rfl rfl
      · exact kept
  | rebuild tradeDate readings =>
      rw [next_rebuild, ingestSources_eq]
      by_cases enabled : settings.candidateFsmEnabled = true
      · cases fused : conditionFusions host settings.tradeDateOf tables.signals tradeDate
            readings.now with
        | error failure =>
            simp only [enabled]
            exact kept
        | ok fusions =>
            rcases logged fusions fused with ⟨exits, passes⟩
            have start : (tables.withFusions fusions).EpisodesKept := kept.congr rfl rfl
            have ingested := @System.Along.invariant _ _ _
              (System.ofStep (applySourceEvent settings readings.sources)) EpisodesKept _
              (fun _ _ kept logged => EpisodesKept.apply kept logged) _ _ start exits
            rw [System.run_ofStep] at ingested
            have passed := @System.Along.invariant _ _ _
              (System.ofStep (SuseokTrader.refreshTwice settings readings.refreshes)) EpisodesKept _
              (fun _ _ kept logged => EpisodesKept.refreshTwice kept logged) _ _ ingested passes
            rw [System.run_ofStep] at passed
            simpa only [enabled, if_true, Except.map] using passed
      · rw [if_neg enabled]
        exact kept

/-! ## Closed candidates -/

/-- A closed candidate is still closed. -/
def ClosedStay (before after : CandidateTables) : Prop :=
  ∀ candidateInstanceId, before.stateOf candidateInstanceId = some .closed →
    after.stateOf candidateInstanceId = some .closed

theorem ClosedStay.of_episodes {before after : CandidateTables}
    (same : after.episodes = before.episodes) : ClosedStay before after := by
  intro id closed
  rw [stateOf_of_episodes same]
  exact closed

theorem closedStay_refresh (tables : CandidateTables) (candidateInstanceId : CandidateInstanceId)
    (readings : RefreshReadings) :
    ClosedStay tables (refreshCandidateContext settings tables candidateInstanceId readings).2 := by
  intro id closed
  by_cases isOwn : id = candidateInstanceId
  · subst isOwn
    rw [stateOf_refresh, closed]
    simp [stateAfter_closed]
  · rw [stateOf_refresh_of_ne settings tables candidateInstanceId readings isOwn]
    exact closed

theorem closedStay_merge (tables : CandidateTables) (event : CandidateSourceEvent)
    (now : String) : ClosedStay tables (mergeSourceEvent settings tables event now) := by
  by_cases taken : tables.takes settings event
  · intro id closed
    rw [stateOf_of_episodes (episodes_merge now taken)]
    rcases candidateFor_cases tables event now with ⟨row, _, linked⟩ | ⟨_, linked⟩
    · rw [linked]
      exact closed
    · rw [linked, stateOf_create]
      have notNew : id ≠ (tables.createCandidate event now).2 := by
        rintro rfl
        rw [createCandidate_snd, stateOf_newId] at closed
        cases closed
      rw [if_neg notNew]
      exact closed
  · rw [mergeSourceEvent_of_not_takes settings tables event now taken]
    exact ClosedStay.of_episodes rfl

theorem closedStay_apply (readings : String → SourceReadings) (tables : CandidateTables)
    (event : CandidateSourceEvent) :
    ClosedStay tables (applySourceEvent settings readings tables event) := by
  have isApplied := applied settings readings tables event
  generalize applySourceEvent settings readings tables event = after at isApplied ⊢
  cases isApplied with
  | skipped => exact ClosedStay.of_episodes rfl
  | failed => exact ClosedStay.of_episodes rfl
  | merged taken notExit => exact closedStay_merge tables event _
  | unlinked => exact ClosedStay.of_episodes rfl
  | exited taken isExit row found reads =>
      intro id closed
      apply closedStay_refresh
      exact ClosedStay.of_episodes (tables.episodes_exited event _) id closed

theorem closedStay_next (host : Host) (tables : CandidateTables) (op : CandidateOp) :
    ClosedStay tables (tables.next host settings op) := by
  cases op with
  | signal row => exact ClosedStay.of_episodes rfl
  | source other now => exact closedStay_merge tables other.event now
  | refresh candidateInstanceId readings => exact closedStay_refresh tables _ _
  | fuseCode code tradeDate now =>
      unfold CandidateTables.next rebuildConditionFusionForCode
      simp only
      split
      · next fused isFused =>
          rcases Checked.bind_eq_ok.mp isFused with ⟨events, _, rest⟩
          rcases Checked.bind_eq_ok.mp rest with ⟨fusions, _, isTables⟩
          cases isTables
          exact ClosedStay.of_episodes rfl
      · exact ClosedStay.of_episodes rfl
  | rebuild tradeDate readings =>
      intro id closed
      rw [next_rebuild, ingestSources_eq]
      by_cases enabled : settings.candidateFsmEnabled = true
      · cases fused : conditionFusions host settings.tradeDateOf tables.signals tradeDate
            readings.now with
        | error failure => simpa [Except.map] using closed
        | ok fusions =>
            simp only [enabled]
            apply refreshAll_keeps fun after => after.stateOf id = some .closed
            · intro before other readings stillClosed
              exact closedStay_refresh before other readings id stillClosed
            · apply System.foldl_invariant fun after : CandidateTables =>
                after.stateOf id = some .closed
              · intro before event stillClosed
                exact closedStay_apply _ before event id stillClosed
              · exact closed
      · rw [if_neg enabled]
        exact closed

end Steps

end CandidateTables

/-- In every run in which the log takes every move, the episodes of each code and their log are
kept throughout; and no step of any run moves a closed candidate. -/
theorem episodes_kept (host : Host) (settings : CandidateSettings) (ops : List CandidateOp) :
    ((candidateSystem host settings).Along (MovesLogged host settings) .initial ops →
      (candidateSystem host settings).Throughout CandidateTables.EpisodesKept .initial ops) ∧
    (candidateSystem host settings).Along
      (fun tables op => CandidateTables.ClosedStay tables (tables.next host settings op))
      .initial ops := by
  constructor
  · intro logged
    rw [System.throughout_iff]
    refine ⟨CandidateTables.episodesKept_initial, ?_⟩
    refine System.Along.imp CandidateTables.EpisodesKept ?_ ?_
      CandidateTables.episodesKept_initial logged
    · intro tables op kept isLogged
      exact kept.next op isLogged
    · intro tables op kept isLogged
      exact kept.next op isLogged
  · refine @System.along_of_invariant _ _ _ _ (fun _ => True) _ (fun _ _ _ => trivial) ?_ _ trivial
      ops
    intro tables op _
    exact CandidateTables.closedStay_next host tables op

/-! ## A move that the log does not take -/

def watchOp : CandidateOp :=
  .source ⟨manualWatch, rfl, by decide⟩ "2025-01-02T00:00:00Z"

/-- A refresh with a fresh tick whose bar of one minute is missing. -/
def refreshOp (now : String) : CandidateOp :=
  .refresh watchedId { freshTick false with now := now }

theorem watched_episodes_kept :
    (candidateSystem textHost defaultSettings).Throughout CandidateTables.EpisodesKept .initial
      [watchOp, refreshOp "2025-01-02T00:01:00Z", refreshOp "2025-01-02T00:02:00Z"] := by
  refine (episodes_kept textHost defaultSettings
    [watchOp, refreshOp "2025-01-02T00:01:00Z", refreshOp "2025-01-02T00:02:00Z"]).1 ?_
  refine ⟨trivial, ?_, ?_, trivial⟩
  · show moveRecorded _ _ _ _ = false
    decide +kernel
  · show moveRecorded _ _ _ _ = false
    decide +kernel

/-- Waiting again at one reading of the clock: the second move back to the watch is lost, and the
log of a watched candidate ends with its wait for data. -/
theorem repeated_move_is_lost :
    ¬ (candidateSystem textHost defaultSettings).Throughout CandidateTables.EpisodesKept .initial
      [watchOp, refreshOp "2025-01-02T00:01:00Z", refreshOp "2025-01-02T00:01:00Z",
        refreshOp "2025-01-02T00:01:00Z", refreshOp "2025-01-02T00:01:00Z"] := by
  intro kept
  have chain := (kept _ [] (List.append_nil _).symm).chain watchedId
  exact absurd chain (by decide +kernel)

end SuseokTrader
