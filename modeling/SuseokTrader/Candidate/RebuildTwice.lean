import SuseokTrader.Candidate.Rebuilds

/-!
# Two rebuilds on the same inputs

The second of two rebuilds reads the same signals, so it fuses the same rows but
for the time they carry, and every source event it makes is stored already.
-/

namespace SuseokTrader

/-! ## Source events that are stored already -/

variable {settings : CandidateSettings} {readings : String → SourceReadings}
  {tables : CandidateTables} {events : List ConditionProfileEvent}

theorem foldl_skipped {events : List CandidateSourceEvent}
    (stored : ∀ event ∈ events, (tables.sourceEvents.find? event.sourceEventId).isSome = true) :
    events.foldl (applySourceEvent settings readings) tables = tables := by
  induction events with
  | nil => rfl
  | cons event events ih =>
      have skips : applySourceEvent settings readings tables event = tables := by
        have isStored := stored event List.mem_cons_self
        unfold applySourceEvent createOrMergeCandidateFromSource
        by_cases enabled : settings.candidateFsmEnabled = true <;> simp [isStored]
      rw [List.foldl_cons, skips]
      exact ih fun other listed => stored other (List.mem_cons_of_mem event listed)

theorem foldl_applied_keeps (property : CandidateTables → Prop)
    (keeps : ∀ tables event after, Applied settings readings tables event after →
      property tables → property after) (holds : property tables)
    (events : List CandidateSourceEvent) :
    property (events.foldl (applySourceEvent settings readings) tables) := by
  apply System.foldl_invariant property _ holds
  intro tables event holds
  exact keeps tables event _ (applied settings readings tables event) holds

theorem signals_foldl (settings : CandidateSettings) (readings : String → SourceReadings)
    (tables : CandidateTables) (events : List CandidateSourceEvent) :
    (events.foldl (applySourceEvent settings readings) tables).signals = tables.signals := by
  apply foldl_applied_keeps fun after => after.signals = tables.signals
  · intro before event after isApplied same
    rw [isApplied.signals, same]
  · rfl

theorem fusions_foldl (settings : CandidateSettings) (readings : String → SourceReadings)
    (tables : CandidateTables) (events : List CandidateSourceEvent) :
    (events.foldl (applySourceEvent settings readings) tables).fusions = tables.fusions := by
  apply foldl_applied_keeps fun after => after.fusions = tables.fusions
  · intro before event after isApplied same
    rw [isApplied.fusions, same]
  · rfl

theorem stays_foldl {sourceEventId : String}
    (stored : (tables.sourceEvents.find? sourceEventId).isSome = true)
    (events : List CandidateSourceEvent) :
    ((events.foldl (applySourceEvent settings readings) tables).sourceEvents.find?
      sourceEventId).isSome = true := by
  apply foldl_applied_keeps fun after => (after.sourceEvents.find? sourceEventId).isSome = true
  · intro before event after isApplied isStored
    rcases Option.isSome_iff_exists.mp isStored with ⟨row, found⟩
    rw [isApplied.stays found]
    rfl
  · exact stored

theorem Applied.stored {after : CandidateTables} {event : CandidateSourceEvent}
    (enabled : settings.candidateFsmEnabled = true)
    (reads : ∀ eventId id, ((readings eventId).refresh id).raises = false)
    (isApplied : Applied settings readings tables event after) :
    (after.sourceEvents.find? event.sourceEventId).isSome = true := by
  by_cases taken : tables.takes settings event
  · rcases isApplied.sourceEvents with ⟨_, linked, active, inserted⟩ | ⟨_, failed⟩
    · have found := Table.find?_of_insert?_self inserted
      exact Option.isSome_iff_exists.mpr ⟨_, found⟩
    · rcases failed taken with ⟨_, row, _, raises⟩
      simp [reads] at raises
  · have isStored : tables.sourceEvents.find? event.sourceEventId ≠ none := by
      intro missing
      exact taken ⟨enabled, missing⟩
    rcases Option.ne_none_iff_exists'.mp isStored with ⟨row, found⟩
    rw [isApplied.stays found]
    rfl

theorem stored_foldl (enabled : settings.candidateFsmEnabled = true)
    (reads : ∀ eventId id, ((readings eventId).refresh id).raises = false)
    {event : CandidateSourceEvent} {events : List CandidateSourceEvent} (tables : CandidateTables)
    (listed : event ∈ events) :
    ((events.foldl (applySourceEvent settings readings) tables).sourceEvents.find?
      event.sourceEventId).isSome = true := by
  rcases List.append_of_mem listed with ⟨before, after, rfl⟩
  rw [List.foldl_append]
  exact stays_foldl ((applied settings readings _ event).stored enabled reads) after

/-! ## Fusions but for their time -/

structure FusionStamp where
  key : String × String
  priorityScore : Int
  hitAt : String
  sourceEventId : Option String

def ConditionFusion.stamp (tradeDate : String) (fusion : ConditionFusion) : FusionStamp where
  key := (fusion.tradeDate, fusion.code)
  priorityScore := fusion.priorityScore
  hitAt := fusion.latestHitAt.getD ""
  sourceEventId :=
    if fusion.activeRoles = [] then none
    else some (fusionRowToSourceEvent fusion tradeDate).sourceEventId

def FusionStamp.precedes (left right : FusionStamp) : Prop :=
  right.priorityScore < left.priorityScore ∨
    right.priorityScore = left.priorityScore ∧
      (right.hitAt < left.hitAt ∨ right.hitAt = left.hitAt ∧ left.key.2 ≤ right.key.2)

instance : DecidableRel FusionStamp.precedes :=
  fun _ _ => inferInstanceAs (Decidable (_ ∨ _))

def listStamps (stamps : List FusionStamp) (tradeDate : String) (limit : Nat) :
    List FusionStamp :=
  ((stamps.filter fun stamp => stamp.key.1 = tradeDate).insertionSort
    FusionStamp.precedes).take (min (max limit 1) 500)

theorem map_listConditionFusion (fusions : Table ConditionFusion) (tradeDate date : String)
    (limit : Nat) :
    (listConditionFusion fusions tradeDate limit).map (ConditionFusion.stamp date) =
      listStamps (fusions.rows.map (ConditionFusion.stamp date)) tradeDate limit := by
  rw [listConditionFusion, listStamps, List.map_take, List.filter_map]
  congr 1
  exact List.map_insertionSort _ _ (ConditionFusion.stamp date) _ fun _ _ _ _ => Iff.rfl

theorem sourceEventIds_fusionSources (tables : CandidateTables) (tradeDate : String) :
    (fusionSources tables tradeDate).map CandidateSourceEvent.sourceEventId =
      (listStamps (tables.fusions.rows.map (ConditionFusion.stamp tradeDate)) tradeDate
        500).filterMap FusionStamp.sourceEventId := by
  rw [← map_listConditionFusion, fusionSources]
  generalize listConditionFusion tables.fusions tradeDate 500 = fusions
  induction fusions with
  | nil => rfl
  | cons fusion fusions ih =>
      by_cases noRole : fusion.activeRoles = []
      · simpa [noRole, ConditionFusion.stamp] using ih
      · simpa [noRole, ConditionFusion.stamp] using ih

theorem map_foldl_upsert (tradeDate : String) :
    ∀ (fusions : List ConditionFusion) (table : Table ConditionFusion),
      (∀ fusion ∈ fusions, fusion.stamp tradeDate ∈
        table.rows.map (ConditionFusion.stamp tradeDate)) →
      (fusions.foldl Table.upsert table).rows.map (ConditionFusion.stamp tradeDate) =
        table.rows.map (ConditionFusion.stamp tradeDate) := by
  intro fusions
  induction fusions with
  | nil =>
      intro table _
      rfl
  | cons fusion fusions ih =>
      intro table shown
      have same : (table.upsert fusion).rows.map (ConditionFusion.stamp tradeDate) =
          table.rows.map (ConditionFusion.stamp tradeDate) := by
        rcases List.mem_map.mp (shown fusion List.mem_cons_self) with ⟨row, present, sameStamp⟩
        have sameKey : Keyed.key row = Keyed.key fusion := congrArg FusionStamp.key sameStamp
        have taken : Keyed.key fusion ∈ table.rows.map Keyed.key :=
          List.mem_map.mpr ⟨row, present, sameKey⟩
        simp only [Table.upsert, taken, dif_pos, List.map_map]
        apply List.map_congr_left
        intro other otherPresent
        simp only [Function.comp_apply]
        split
        · next isKey =>
            have isRow := List.inj_on_of_nodup_map table.nodup otherPresent present
              (isKey.trans sameKey.symm)
            rw [isRow, sameStamp]
        · rfl
      rw [List.foldl_cons, ih, same]
      intro other listed
      rw [same]
      exact shown other (List.mem_cons_of_mem fusion listed)

/-! ## Fusing at two times -/

theorem mem_setLatestByProfile {latest : List ConditionProfileEvent}
    {event other : ConditionProfileEvent} :
    other ∈ setLatestByProfile latest event ↔
      other = event ∨ other ∈ latest ∧ other.profileId ≠ event.profileId := by
  unfold setLatestByProfile
  split
  · next known =>
      simp only [List.any_eq_true, decide_eq_true_eq] at known
      rcases known with ⟨former, listed, same⟩
      rw [List.mem_map]
      constructor
      · rintro ⟨one, present, rfl⟩
        split
        · exact Or.inl rfl
        · next differs => exact Or.inr ⟨present, differs⟩
      · rintro (rfl | ⟨present, differs⟩)
        · exact ⟨former, listed, if_pos same⟩
        · exact ⟨other, present, if_neg differs⟩
  · next unknown =>
      simp only [List.any_eq_true, decide_eq_true_eq, not_exists, not_and] at unknown
      rw [List.mem_append, List.mem_singleton, or_comm]
      apply or_congr_right
      constructor
      · intro present
        exact ⟨present, unknown other present⟩
      · exact And.left

theorem mem_latestByProfile {event : ConditionProfileEvent}
    (listed : event ∈ latestByProfile events) : event ∈ events := by
  unfold latestByProfile at listed
  induction events using List.reverseRecOn with
  | nil => cases listed
  | append_singleton events last ih =>
      rw [List.foldl_append, List.foldl_cons, List.foldl_nil, mem_setLatestByProfile] at listed
      rw [List.mem_append, List.mem_singleton]
      rcases listed with isLast | ⟨before, _⟩
      · exact Or.inr isLast
      · exact Or.inl (ih before)

def SameAges (events : List ConditionProfileEvent) (now later : Instant) : Prop :=
  ∀ event ∈ events, event.isExpired later = event.isExpired now

theorem activeEvents_congr {now later : Instant} (same : SameAges events now later) :
    activeEvents events later = activeEvents events now := by
  have listed : ∀ event ∈ latestByProfile events, event ∈ events :=
    fun event present => mem_latestByProfile present
  unfold activeEvents
  generalize latestByProfile events = latest at listed ⊢
  induction latest with
  | nil => rfl
  | cons event latest ih =>
      rw [List.filterMapM_cons, List.filterMapM_cons,
        ih fun other present => listed other (List.mem_cons_of_mem event present),
        same event (listed event List.mem_cons_self)]

theorem mem_activeEvents {active : List ConditionProfileEvent} {event : ConditionProfileEvent}
    {now : Instant} (isActive : activeEvents events now = .ok active) :
    event ∈ active ↔ event ∈ latestByProfile events ∧ event.action = .enter ∧
      event.isExpired now = .ok false := by
  rw [Checked.mem_filterMapM isActive]
  constructor
  · rintro ⟨one, listed, kept⟩
    split at kept
    · next enters =>
        rcases Checked.bind_eq_ok.mp kept with ⟨expired, isExpired, isOne⟩
        cases expired with
        | true => cases isOne
        | false =>
            cases isOne
            exact ⟨listed, enters, isExpired⟩
    · cases kept
  · rintro ⟨listed, enters, notExpired⟩
    refine ⟨event, listed, ?_⟩
    rw [if_pos enters, notExpired]
    rfl

def ConditionFusion.restamped (updatedAt : String) (fusion : ConditionFusion) : ConditionFusion :=
  { fusion with updatedAt := updatedAt }

section TwoTimes

variable {tradeDate : String} {now later : Instant}

theorem fuseCodeEvents_later {first : ConditionProfileEvent} {rest : List ConditionProfileEvent}
    {updatedAt : String} (same : SameAges (first :: rest) now later) (laterAt : String) :
    fuseCodeEvents tradeDate first rest later laterAt =
      (fuseCodeEvents tradeDate first rest now updatedAt).map
        (ConditionFusion.restamped laterAt) := by
  simp only [fuseCodeEvents, activeEvents_congr same]
  cases activeEvents (first :: rest) now <;> rfl

theorem fuseCodeEvents_hit {first : ConditionProfileEvent} {rest : List ConditionProfileEvent}
    {updatedAt : String} {fusion : ConditionFusion}
    (fused : fuseCodeEvents tradeDate first rest now updatedAt = .ok fusion)
    (roles : fusion.activeRoles ≠ []) : fusion.latestHitAt.isSome = true := by
  rcases Checked.bind_eq_ok.mp fused with ⟨active, isActive, isFusion⟩
  cases isFusion
  have someActive : active ≠ [] := by
    rintro rfl
    simp [SuseokTrader.activeRoles] at roles
  rcases List.exists_mem_of_ne_nil active someActive with ⟨event, present⟩
  rcases (mem_activeEvents isActive).mp present with ⟨latest, enters, _⟩
  have listed := mem_latestByProfile latest
  have entered : event ∈ (first :: rest).filter fun event => event.action = .enter := by
    simp [listed, enters]
  simp only [SuseokTrader.latestHitAt]
  rw [List.isSome_max?_iff]
  intro empty
  rw [List.map_eq_nil_iff] at empty
  rw [empty] at entered
  cases entered

end TwoTimes

section TwoRebuilds

variable {host : Host} {tradeDateOf : String → String} {signals : Table ConditionSignal}
  {tradeDate : String} {now later : Instant}

variable {events : List ConditionProfileEvent}

theorem fuseCode_later (same : SameAges events now later) (code : String) :
    fuseCode tradeDate events later code =
      (fuseCode tradeDate events now code).map
        (List.map (ConditionFusion.restamped (datetimeToWire later))) := by
  have sameOfCode : SameAges (events.filter fun event => event.code = code) now later :=
    fun event listed => same event (List.mem_of_mem_filter listed)
  unfold fuseCode
  cases listed : events.filter fun event => event.code = code with
  | nil => rfl
  | cons first rest =>
      rw [listed] at sameOfCode
      simp only [@fuseCodeEvents_later tradeDate now later first rest (datetimeToWire now)
        sameOfCode (datetimeToWire later)]
      cases fuseCodeEvents tradeDate first rest now (datetimeToWire now) <;> rfl

theorem mapM_fuseCode_later (same : SameAges events now later) (codes : List String) :
    codes.mapM (fuseCode tradeDate events later) =
      (codes.mapM (fuseCode tradeDate events now)).map
        (List.map (List.map (ConditionFusion.restamped (datetimeToWire later)))) := by
  induction codes with
  | nil => rfl
  | cons code codes ih =>
      rw [List.mapM_cons, List.mapM_cons, fuseCode_later same, ih]
      cases fuseCode tradeDate events now code with
      | error failure => rfl
      | ok fusions => cases codes.mapM (fuseCode tradeDate events now) <;> rfl

theorem conditionFusions_later
    (same : ∀ events, profileEvents host (signalsOfDate tradeDateOf signals tradeDate) =
      .ok events → SameAges events now later) :
    conditionFusions host tradeDateOf signals tradeDate later =
      (conditionFusions host tradeDateOf signals tradeDate now).map
        (List.map (ConditionFusion.restamped (datetimeToWire later))) := by
  unfold conditionFusions
  cases listed : profileEvents host (signalsOfDate tradeDateOf signals tradeDate) with
  | error failure => rfl
  | ok events =>
      simp only [Except.bind, bind, mapM_fuseCode_later (same events listed)]
      cases (sortedTexts (events.map ConditionProfileEvent.code)).mapM
        (fuseCode tradeDate events now) with
      | error failure => rfl
      | ok fusions => simp [Except.map, pure, Except.pure]

/-- The rows that a rebuild writes: one for each code, which tells its last hit. -/
theorem mapM_fuseCode_rows :
    ∀ {codes : List String} {fusions : List (List ConditionFusion)},
      codes.mapM (fuseCode tradeDate events now) = .ok fusions →
      (fusions.flatten.map ConditionFusion.code).Sublist codes ∧
        ∀ fusion ∈ fusions.flatten, fusion.tradeDate = tradeDate ∧
          (fusion.activeRoles ≠ [] → fusion.latestHitAt.isSome = true) := by
  intro codes
  induction codes with
  | nil =>
      intro fusions fused
      cases fused
      simp
  | cons code codes ih =>
      intro fusions fused
      rw [List.mapM_cons] at fused
      rcases Checked.bind_eq_ok.mp fused with ⟨own, isOwn, rest⟩
      rcases Checked.bind_eq_ok.mp rest with ⟨others, isOthers, isAll⟩
      cases isAll
      rcases ih isOthers with ⟨codesOfOthers, rowsOfOthers⟩
      unfold fuseCode at isOwn
      cases listed : events.filter fun event => event.code = code with
      | nil =>
          rw [listed] at isOwn
          cases isOwn
          exact ⟨codesOfOthers.cons code, rowsOfOthers⟩
      | cons first later =>
          have sameCode : first.code = code := by
            have present : first ∈ events.filter fun event => event.code = code := by
              rw [listed]
              exact List.mem_cons_self
            simpa using (List.mem_filter.mp present).2
          rw [listed] at isOwn
          rcases Checked.bind_eq_ok.mp isOwn with ⟨fusion, isFusion, isSingle⟩
          cases isSingle
          have hit := fuseCodeEvents_hit isFusion
          have shape : fusion.tradeDate = tradeDate ∧ fusion.code = code := by
            rcases Checked.bind_eq_ok.mp isFusion with ⟨active, _, isRow⟩
            cases isRow
            exact ⟨rfl, sameCode⟩
          refine ⟨?_, ?_⟩
          · simpa [shape.2] using codesOfOthers.cons_cons code
          · intro other present
            rcases List.mem_append.mp present with isOwn | present
            · rw [List.mem_singleton.mp isOwn]
              exact ⟨shape.1, hit⟩
            · exact rowsOfOthers other present

theorem conditionFusions_rows {fusions : List ConditionFusion}
    (fused : conditionFusions host tradeDateOf signals tradeDate now = .ok fusions) :
    (fusions.map (Keyed.key : ConditionFusion → String × String)).Nodup ∧
      ∀ fusion ∈ fusions, fusion.activeRoles ≠ [] → fusion.latestHitAt.isSome = true := by
  rcases Checked.bind_eq_ok.mp fused with ⟨events, _, rest⟩
  rcases Checked.bind_eq_ok.mp rest with ⟨rows, isRows, isAll⟩
  cases isAll
  rcases mapM_fuseCode_rows isRows with ⟨codes, each⟩
  have distinct : (sortedTexts (events.map ConditionProfileEvent.code)).Nodup := by
    have sorted := List.perm_insertionSort (· ≤ ·) (events.map ConditionProfileEvent.code).dedup
    exact sorted.nodup_iff.mpr (List.nodup_dedup _)
  constructor
  · have codesDistinct := distinct.sublist codes
    apply List.Nodup.of_map Prod.snd
    rw [List.map_map]
    exact codesDistinct
  · intro fusion present
    exact (each fusion present).2

theorem stamp_restamped {fusion : ConditionFusion} (date updatedAt : String)
    (hit : fusion.activeRoles ≠ [] → fusion.latestHitAt.isSome = true) :
    (fusion.restamped updatedAt).stamp date = fusion.stamp date := by
  by_cases roles : fusion.activeRoles = []
  · simp [ConditionFusion.stamp, ConditionFusion.restamped, roles]
  · rcases Option.isSome_iff_exists.mp (hit roles) with ⟨hitAt, isHit⟩
    simp [ConditionFusion.stamp, ConditionFusion.restamped, isHit, fusionRowToSourceEvent]

end TwoRebuilds

/-! ## One rebuild -/

def CandidateTables.withFusions (tables : CandidateTables) (fusions : List ConditionFusion) :
    CandidateTables :=
  { tables with fusions := fusions.foldl Table.upsert tables.fusions }

/-- The source events of a rebuild in the order they are applied. -/
def ingestedEvents (host : Host) (settings : CandidateSettings) (fused : CandidateTables)
    (tradeDate : String) (readings : RebuildReadings) : List CandidateSourceEvent :=
  fusionSources fused tradeDate ++
    (plainSignals host settings fused tradeDate).filterMap
      (conditionRowToSourceEvent host settings tradeDate) ++ readings.themeSources

theorem ingestSources_eq (host : Host) (settings : CandidateSettings) (tables : CandidateTables)
    (tradeDate : String) (readings : RebuildReadings) :
    ingestSources host settings tables tradeDate readings =
      (conditionFusions host settings.tradeDateOf tables.signals tradeDate readings.now).map
        fun fusions =>
          (ingestedEvents host settings (tables.withFusions fusions) tradeDate readings).foldl
            (applySourceEvent settings readings.sources) (tables.withFusions fusions) := by
  unfold ingestSources ingestConditionSources rebuildConditionFusion
  cases conditionFusions host settings.tradeDateOf tables.signals tradeDate readings.now with
  | error failure => rfl
  | ok fusions =>
      simp only [ingestedEvents, List.foldl_append]
      rfl

theorem next_rebuild (host : Host) (settings : CandidateSettings) (tables : CandidateTables)
    (tradeDate : String) (readings : RebuildReadings) :
    tables.next host settings (.rebuild tradeDate readings) =
      if settings.candidateFsmEnabled then
        match ingestSources host settings tables tradeDate readings with
        | .ok ingested =>
            (ingested.listActiveCandidates tradeDate).foldl
              (refreshTwice settings readings.refreshes) ingested
        | .error _ => tables
      else tables := by
  unfold CandidateTables.next rebuildCandidates
  by_cases enabled : settings.candidateFsmEnabled = true
  · simp only [enabled]
    cases ingestSources host settings tables tradeDate readings <;> rfl
  · simp [enabled, pure, Except.pure]

/-! ## Two rebuilds -/

/-- The two rebuilds read the same: the refreshes of a candidate the same inputs, the themes the
same source events, no event of the date another age, and nothing fails to be read. -/
structure Unchanging (host : Host) (settings : CandidateSettings) (tables : CandidateTables)
    (tradeDate : String) (first second : RebuildReadings)
    (inputs : CandidateInstanceId → RefreshInputs) : Prop where
  themes : second.themeSources = first.themeSources
  ages : ∀ events, profileEvents host (signalsOfDate settings.tradeDateOf tables.signals
    tradeDate) = .ok events → SameAges events first.now second.now
  firstInputs : ∀ id count, (first.refreshes id count).toRefreshInputs = inputs id
  secondInputs : ∀ id count, (second.refreshes id count).toRefreshInputs = inputs id
  reads : ∀ eventId id, ((first.sources eventId).refresh id).raises = false

/-- No source event, no transition and no other state. -/
structure ChangesNothing (before after : CandidateTables) : Prop where
  sourceEvents : after.sourceEvents.rows = before.sourceEvents.rows
  transitions : after.transitions.rows = before.transitions.rows
  states : ∀ candidateInstanceId, after.stateOf candidateInstanceId =
    before.stateOf candidateInstanceId

theorem ChangesNothing.refl (tables : CandidateTables) : ChangesNothing tables tables :=
  ⟨rfl, rfl, fun _ => rfl⟩

/-- Every candidate that is open when the sources are taken in is left at rest. -/
def LeavesAtRest (settings : CandidateSettings) (ingested : CandidateTables) (tradeDate : String)
    (readings : RebuildReadings) (inputs : CandidateInstanceId → RefreshInputs) : Prop :=
  ∀ id state, id.tradeDate = tradeDate → ingested.stateOf id = some state → state ≠ .closed →
    (inputs id).raises = false →
      LeftAtRest (ingested.contextOf settings id (inputs id))
        (moveRecorded settings ingested id (readings.refreshes id 0)) state

section Pass

variable {host : Host} {settings : CandidateSettings} {tables : CandidateTables}
  {tradeDate : String} {first second : RebuildReadings}
  {inputs : CandidateInstanceId → RefreshInputs}

/-- The candidates that the pass over the open ones leaves open are at rest. -/
theorem leavesAtRest_iff {ingested : CandidateTables}
    (unchanging : ∀ id count, (first.refreshes id count).toRefreshInputs = inputs id) :
    (∀ id ∈ CandidateTables.listActiveCandidates ((ingested.listActiveCandidates tradeDate).foldl
        (refreshTwice settings first.refreshes) ingested) tradeDate,
      AtRest settings ((ingested.listActiveCandidates tradeDate).foldl
        (refreshTwice settings first.refreshes) ingested) inputs id) ↔
      LeavesAtRest settings ingested tradeDate first inputs := by
  let once := (ingested.listActiveCandidates tradeDate).foldl
    (refreshTwice settings first.refreshes) ingested
  have sameContext (id : CandidateInstanceId) : once.contextOf settings id (inputs id) =
      ingested.contextOf settings id (inputs id) :=
    contextOf_congr settings id (latestSources_refreshAll ingested _) (inputs id)
  have stateOf (id : CandidateInstanceId) :=
    @stateOf_refreshAll settings first.refreshes inputs unchanging id
      (ingested.listActiveCandidates tradeDate) ingested (nodup_listActiveCandidates _ _)
  have rested {id : CandidateInstanceId} {state : CandidateState}
      (sameDate : id.tradeDate = tradeDate) (isState : ingested.stateOf id = some state)
      (isOpen : state ≠ .closed) : once.stateOf id = some (if (inputs id).raises then state
        else restedState (stateAfter (ingested.contextOf settings id (inputs id)))
          (moveRecorded settings ingested id (first.refreshes id 0)) state) := by
    have listed := mem_listActiveCandidates.mpr ⟨sameDate, state, isState, isOpen⟩
    have final := stateOf id
    rw [if_pos listed, stateOf_refreshTwice (unchanging id), isState] at final
    exact final
  constructor
  · intro atRest id state sameDate isState isOpen reads
    rw [← leftAtRest_iff _ _ isOpen]
    have final := rested sameDate isState isOpen
    rw [reads] at final
    simp only [Bool.false_eq_true, if_false] at final
    by_cases closes : restedState (stateAfter (ingested.contextOf settings id (inputs id)))
        (moveRecorded settings ingested id (first.refreshes id 0)) state = .closed
    · rw [closes, stateAfter_closed]
    · have listed := mem_listActiveCandidates.mpr ⟨sameDate, _, final, closes⟩
      have settled := atRest id listed _ final reads
      rw [sameContext] at settled
      exact settled
  · intro leaves id listed state isState reads
    rcases mem_listActiveCandidates.mp listed with ⟨sameDate, _, isOpenState, isOpen⟩
    rw [isOpenState] at isState
    cases isState
    have wasOpen : id ∈ ingested.listActiveCandidates tradeDate := by
      by_contra notListed
      have final := stateOf id
      rw [if_neg notListed, isOpenState] at final
      exact notListed (mem_listActiveCandidates.mpr ⟨sameDate, state, final.symm, isOpen⟩)
    rcases mem_listActiveCandidates.mp wasOpen with ⟨_, before, isBefore, beforeOpen⟩
    have final := rested sameDate isBefore beforeOpen
    rw [isOpenState, reads] at final
    simp only [Option.some.injEq, Bool.false_eq_true, if_false] at final
    rw [sameContext, final]
    exact (leftAtRest_iff _ _ beforeOpen).mpr
      (leaves id before sameDate isBefore beforeOpen reads)

theorem changesNothing_iff {once : CandidateTables}
    (unchanging : ∀ id count, (second.refreshes id count).toRefreshInputs = inputs id) :
    ChangesNothing once ((once.listActiveCandidates tradeDate).foldl
        (refreshTwice settings second.refreshes) once) ↔
      ∀ id ∈ once.listActiveCandidates tradeDate, AtRest settings once inputs id := by
  constructor
  · intro nothing id listed
    exact atRest_of_refreshAll unchanging (nodup_listActiveCandidates _ _) listed
      nothing.transitions (nothing.states id)
  · intro atRest
    have same := SameEpisodes.refreshAll unchanging _ once atRest
    exact ⟨by rw [sourceEvents_refreshAll], by rw [same.transitions],
      CandidateTables.stateOf_of_episodes same.episodes⟩

/-- The second rebuild takes in nothing new. -/
theorem ingestSources_again {ingested : CandidateTables}
    (enabled : settings.candidateFsmEnabled = true)
    (unchanging : Unchanging host settings tables tradeDate first second inputs)
    (ingests : ingestSources host settings tables tradeDate first = .ok ingested)
    (ids : List CandidateInstanceId) :
    ∃ fusions, ingestSources host settings
        (ids.foldl (refreshTwice settings first.refreshes) ingested) tradeDate second =
      .ok { ids.foldl (refreshTwice settings first.refreshes) ingested with
        fusions := fusions } := by
  let once := ids.foldl (refreshTwice settings first.refreshes) ingested
  rw [ingestSources_eq] at ingests
  cases fused : conditionFusions host settings.tradeDateOf tables.signals tradeDate first.now with
  | error failure =>
      rw [fused] at ingests
      cases ingests
  | ok fusions =>
      rw [fused] at ingests
      have isIngested := Except.ok.inj ingests
      have signals : once.signals = tables.signals := by
        rw [signals_refreshAll, ← isIngested, signals_foldl]
        rfl
      have rows : once.fusions = (tables.withFusions fusions).fusions := by
        rw [fusions_refreshAll, ← isIngested, fusions_foldl]
      have stored (event : CandidateSourceEvent)
          (listed : event ∈ ingestedEvents host settings (tables.withFusions fusions) tradeDate
            first) : (once.sourceEvents.find? event.sourceEventId).isSome = true := by
        rw [sourceEvents_refreshAll, ← isIngested]
        exact stored_foldl enabled unchanging.reads _ listed
      rcases conditionFusions_rows fused with ⟨distinct, hits⟩
      let again := fusions.map (ConditionFusion.restamped (datetimeToWire second.now))
      have fusedAgain : conditionFusions host settings.tradeDateOf once.signals tradeDate
          second.now = .ok again := by
        rw [signals, conditionFusions_later unchanging.ages, fused]
        rfl
      have sameStamps : ((once.withFusions again).fusions.rows.map
          (ConditionFusion.stamp tradeDate)) =
            (tables.withFusions fusions).fusions.rows.map (ConditionFusion.stamp tradeDate) := by
        rw [CandidateTables.withFusions, rows]
        apply map_foldl_upsert
        intro fusion listed
        rcases List.mem_map.mp listed with ⟨earlier, isEarlier, rfl⟩
        rw [stamp_restamped tradeDate _ (hits earlier isEarlier)]
        exact List.mem_map_of_mem
          (Table.mem_of_find? (Table.find?_upsertAll_of_mem tables.fusions distinct isEarlier))
      have sameIds : (fusionSources (once.withFusions again) tradeDate).map
          CandidateSourceEvent.sourceEventId =
            (fusionSources (tables.withFusions fusions) tradeDate).map
              CandidateSourceEvent.sourceEventId := by
        rw [sourceEventIds_fusionSources, sourceEventIds_fusionSources, sameStamps]
      have sameSignals : plainSignals host settings (once.withFusions again) tradeDate =
          plainSignals host settings (tables.withFusions fusions) tradeDate := by
        have isSame : (once.withFusions again).signals = (tables.withFusions fusions).signals :=
          signals
        rw [plainSignals, plainSignals, isSame]
      refine ⟨(once.withFusions again).fusions, ?_⟩
      rw [ingestSources_eq, fusedAgain]
      refine congrArg Except.ok (foldl_skipped ?_)
      intro event listed
      change event ∈ ingestedEvents host settings (once.withFusions again) tradeDate second
        at listed
      simp only [ingestedEvents, sameSignals, unchanging.themes, List.mem_append] at listed
      rcases listed with (isFusion | isSignal) | isTheme
      · have isId : event.sourceEventId ∈ (fusionSources (tables.withFusions fusions)
            tradeDate).map CandidateSourceEvent.sourceEventId := by
          rw [← sameIds]
          exact List.mem_map_of_mem isFusion
        rcases List.mem_map.mp isId with ⟨earlier, isEarlier, sameId⟩
        rw [← sameId]
        exact stored earlier (by simp [ingestedEvents, isEarlier])
      · exact stored event (by simp only [ingestedEvents]; simp [isSignal])
      · exact stored event (by simp [ingestedEvents, isTheme])

end Pass

/-! ## A candidate that is never at rest -/

/-- A host that reads only texts. -/
def textHost : Host where
  floatRepr := id
  float := fun _ => none
  floatOfInt := fun _ => none
  reprText := id
  database := none

def defaultSettings : CandidateSettings where
  tradeDateOf := fun text => String.ofList (text.toList.take 10)

def manualWatch : CandidateSourceEvent where
  sourceEventId := "CSE-1"
  tradeDate := "2025-01-02"
  code := "005930"
  name := "SAMSUNG"
  sourceType := .manualWatch
  sourceId := "manual:005930"
  action := "WATCH"
  eventTs := "2025-01-02T00:00:00Z"
  observedAt := "2025-01-02T00:00:00Z"
  payload :=
    { riskBlocked := false
      candidatePromotionAllowed := .null
      discoveryPromotionPending := .null }

def watchedTables : CandidateTables :=
  mergeSourceEvent defaultSettings .initial manualWatch "2025-01-02T00:00:00Z"

def watchedId : CandidateInstanceId where
  tradeDate := "2025-01-02"
  code := "005930"
  generation := 1

/-- A fresh tick, with a bar of one minute or without. -/
def freshTick (bar1mReady : Bool) : RefreshInputs where
  raises := false
  hasLatestTick := true
  marketReadinessStatus := "FRESH"
  tickStale := false
  sourceStale := false
  ttlExpired := false
  vwapReady := true
  bar1mReady := bar1mReady
  themeContextPresent := false
  themeState := ""

theorem stateOf_watchedTables (candidateInstanceId : CandidateInstanceId) :
    watchedTables.stateOf candidateInstanceId =
      if candidateInstanceId = watchedId then some .hydrating else none := by
  have rows : watchedTables.episodes = [⟨watchedId, .hydrating, none⟩] := by
    rfl
  rw [CandidateTables.stateOf_eq, rows]
  by_cases isWatched : candidateInstanceId = watchedId
  · simp [isWatched]
  · simp [isWatched, Ne.symm isWatched]

/-- A second rebuild on the same inputs changes nothing just when the first one leaves every
candidate at rest, and refreshing a candidate settles unless its market data is ready although it
misses something. -/
theorem rebuilds_settle_iff (settings : CandidateSettings) :
    (∀ (host : Host) (tables : CandidateTables) (tradeDate : String)
        (first second : RebuildReadings) (inputs : CandidateInstanceId → RefreshInputs),
      Unchanging host settings tables tradeDate first second inputs →
      let once := tables.next host settings (.rebuild tradeDate first)
      ChangesNothing once (once.next host settings (.rebuild tradeDate second)) ↔
        ∀ ingested, settings.candidateFsmEnabled = true →
          ingestSources host settings tables tradeDate first = .ok ingested →
            LeavesAtRest settings ingested tradeDate first inputs) ∧
      ∀ (tables : CandidateTables) (candidateInstanceId : CandidateInstanceId)
        (inputs : RefreshInputs),
        RefreshingSettles settings tables candidateInstanceId inputs ↔
          ∀ state, tables.stateOf candidateInstanceId = some state → state ≠ .closed →
            inputs.raises = false →
              ¬ (tables.contextOf settings candidateInstanceId inputs).readyButMissing := by
  refine ⟨?_, refreshingSettles_iff settings⟩
  intro host tables tradeDate first second inputs unchanging once
  by_cases enabled : settings.candidateFsmEnabled = true
  · have isOnce : once = _ := next_rebuild host settings tables tradeDate first
    rw [if_pos enabled] at isOnce
    rw [next_rebuild host settings once tradeDate second, if_pos enabled]
    cases ingests : ingestSources host settings tables tradeDate first with
    | error failure =>
        have unread : once = tables := by rw [isOnce, ingests]
        have again : ∃ failure, ingestSources host settings once tradeDate second =
            .error failure := by
          rw [unread, ingestSources_eq, conditionFusions_later unchanging.ages]
          rw [ingestSources_eq] at ingests
          cases fused : conditionFusions host settings.tradeDateOf tables.signals tradeDate
              first.now with
          | error failure => exact ⟨failure, rfl⟩
          | ok fusions =>
              rw [fused] at ingests
              cases ingests
        rcases again with ⟨failure, again⟩
        rw [again]
        simp [ChangesNothing.refl]
    | ok ingested =>
        rw [ingests] at isOnce
        rcases ingestSources_again enabled unchanging ingests
          (ingested.listActiveCandidates tradeDate) with ⟨fusions, again⟩
        simp only at isOnce
        rw [← isOnce] at again
        rw [again]
        have pass := @changesNothing_iff settings tradeDate second inputs
          { once with fusions := fusions } unchanging.secondInputs
        have leaves := @leavesAtRest_iff settings tradeDate first inputs ingested
          unchanging.firstInputs
        rw [← isOnce] at leaves
        have same : ChangesNothing once ((CandidateTables.listActiveCandidates
            { once with fusions := fusions } tradeDate).foldl
              (refreshTwice settings second.refreshes) { once with fusions := fusions }) ↔
            LeavesAtRest settings ingested tradeDate first inputs :=
          Iff.trans ⟨fun nothing => ⟨nothing.1, nothing.2, nothing.3⟩,
            fun nothing => ⟨nothing.1, nothing.2, nothing.3⟩⟩ (pass.trans leaves)
        rw [same]
        constructor
        · intro leaves other _ isIngested
          cases isIngested
          exact leaves
        · intro leaves
          exact leaves ingested enabled rfl
  · have isOnce : once = tables := by
      rw [show once = _ from next_rebuild host settings tables tradeDate first, if_neg enabled]
    rw [next_rebuild host settings once tradeDate second]
    simp [enabled, ChangesNothing.refl]

/-- The bar of one minute is required by default; without it the candidate alternates between
waiting for data and being watched. -/
theorem missing_bar_alternates :
    ¬ RefreshingSettles defaultSettings watchedTables watchedId (freshTick false) := by
  intro settles
  rw [refreshingSettles_iff] at settles
  refine settles .hydrating (by simp [stateOf_watchedTables]) (by decide) rfl ⟨?_, ?_, ?_⟩
  · rw [CandidateContext.decided]
    decide +kernel
  · decide +kernel
  · decide +kernel

theorem noThemes : ∀ event ∈ ([] : List CandidateSourceEvent),
    event.sourceType.isTheme = true := by
  simp

def watchReadings (now : Instant) : RebuildReadings where
  now := now
  themeSources := []
  themesOnly := noThemes
  sources := fun _ =>
    { now := ""
      refresh := fun _ => { freshTick true with now := "" } }
  refreshes := fun _ _ => { freshTick true with now := "2025-01-02T00:01:00Z" }

theorem watched_rebuild_settles :
    ChangesNothing
      (watchedTables.next textHost defaultSettings (.rebuild "2025-01-02" (watchReadings 60000000)))
      ((watchedTables.next textHost defaultSettings
        (.rebuild "2025-01-02" (watchReadings 60000000))).next textHost defaultSettings
          (.rebuild "2025-01-02" (watchReadings 61000000))) := by
  refine ((rebuilds_settle_iff defaultSettings).1 textHost watchedTables "2025-01-02"
    (watchReadings 60000000) (watchReadings 61000000) (fun _ => freshTick true) ?_).mpr ?_
  · refine ⟨rfl, ?_, fun _ _ => rfl, fun _ _ => rfl, fun _ _ => rfl⟩
    intro events isEvents
    cases isEvents
    intro event listed
    cases listed
  · intro ingested _ isIngested id state _ isState isOpen _
    have same : ingested = watchedTables := (Except.ok.inj isIngested).symm
    rw [same, stateOf_watchedTables] at isState
    by_cases isWatched : id = watchedId
    · rw [if_pos isWatched] at isState
      cases isState
      subst isWatched
      rw [same]
      refine Or.inr ⟨fun _ => ?_, fun isDetected => ?_, fun _ _ => ?_⟩
      · decide +kernel
      · cases isDetected
      · decide +kernel
    · rw [if_neg isWatched] at isState
      cases isState

end SuseokTrader
