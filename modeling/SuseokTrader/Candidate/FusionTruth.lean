import SuseokTrader.Candidate.ScheduleRuns

/-!
# The truth of a fusion row

The signals of a profile are ordered by the texts of their times and then by
arrival, and a signal that cannot be read ends the rebuild of its date. Where
all can be read and the texts are ordered as the instants are, the row of a code
is the same for both rebuilds and any order of arrival, and tells its roles.
-/

namespace SuseokTrader

/-! ## The latest event of a profile -/

section Latest

variable {events : List ConditionProfileEvent} {event : ConditionProfileEvent}

theorem mem_latestByProfile_iff {time : ConditionProfileEvent → Instant}
    (ordered : events.Pairwise fun first second => time first < time second) :
    event ∈ latestByProfile events ↔ event ∈ events ∧
      ∀ other ∈ events, other.profileId = event.profileId → time other ≤ time event := by
  unfold latestByProfile
  induction events using List.reverseRecOn with
  | nil => simp
  | append_singleton events last ih =>
      rw [List.pairwise_append] at ordered
      rcases ordered with ⟨ordered, _, before⟩
      have beforeLast : ∀ other ∈ events, time other < time last :=
        fun other listed => before other listed last (List.mem_singleton_self last)
      rw [List.foldl_append, List.foldl_cons, List.foldl_nil, mem_setLatestByProfile, ih ordered]
      simp only [List.mem_append, List.mem_singleton]
      constructor
      · rintro (rfl | ⟨⟨listed, greatest⟩, differs⟩)
        · refine ⟨Or.inr rfl, ?_⟩
          rintro other (listed | rfl) _
          · exact (beforeLast other listed).le
          · exact le_rfl
        · refine ⟨Or.inl listed, ?_⟩
          rintro other (present | rfl) same
          · exact greatest other present same
          · exact absurd same.symm differs
      · rintro ⟨listed | rfl, greatest⟩
        · by_cases same : event.profileId = last.profileId
          · have later := greatest last (Or.inr rfl) same.symm
            exact absurd (beforeLast event listed) (not_lt.mpr later)
          · exact Or.inr ⟨⟨listed, fun other present => greatest other (Or.inl present)⟩, same⟩
        · exact Or.inl rfl

end Latest

/-! ## The fusion of a code -/

def signalTime (eventTs : String) : Option Instant :=
  (parseTimestamp (.str eventTs) "event_ts").toOption

section Fused

variable {events all active : List ConditionProfileEvent} {tradeDate code : String} {now : Instant}

/-- A role counts while the signal of a profile with the latest instant is an entry of that role
that has not expired. -/
def RoleIsActive (events : List ConditionProfileEvent) (now : Instant) (role : ConditionRole) :
    Prop :=
  ∃ event ∈ events, event.role = role ∧ event.action = .enter ∧
    event.isExpired now = .ok false ∧
    ∀ other ∈ events, other.profileId = event.profileId →
      ∀ time ∈ signalTime event.eventTs, ∀ later ∈ signalTime other.eventTs, later ≤ time

theorem exists_activeEvents (now : Instant)
    (timed : ∀ event ∈ events, (signalTime event.eventTs).isSome = true) :
    ∃ active, activeEvents events now = .ok active := by
  apply Checked.exists_filterMapM
  intro event listed
  rcases Checked.toOption_isSome.mp (timed event (mem_latestByProfile listed)) with ⟨time, parsed⟩
  rw [ConditionProfileEvent.isExpired, parsed]
  split
  · split
    · exact ⟨_, rfl⟩
    · exact ⟨_, rfl⟩
  · exact ⟨_, rfl⟩

theorem fuseCode_congr
    (same : (all.filter fun event => event.code = code) =
      events.filter fun event => event.code = code) :
    fuseCode tradeDate all now code = fuseCode tradeDate events now code := by
  rw [fuseCode, fuseCode, same]

theorem fuseCodeEvents_ok {first : ConditionProfileEvent} {rest : List ConditionProfileEvent}
    (isActive : activeEvents (first :: rest) now = .ok active) (updatedAt : String) :
    ∃ fusion, fuseCodeEvents tradeDate first rest now updatedAt = .ok fusion ∧
      Keyed.key fusion = (tradeDate, first.code) ∧ fusion.activeRoles = activeRoles active ∧
      (fusion.riskBlocked = true ↔ .riskBlock ∈ activeRoles active) := by
  refine ⟨_, Checked.bind_eq_ok.mpr ⟨active, isActive, rfl⟩, rfl, rfl, ?_⟩
  rw [decide_eq_true_eq]

theorem fuseCode_ok (tradeDate : String) (isActive : activeEvents events now = .ok active)
    (someEvents : events ≠ []) (ofCode : ∀ event ∈ events, event.code = code) :
    ∃ fusion, fuseCode tradeDate events now code = .ok [fusion] ∧
      Keyed.key fusion = (tradeDate, code) ∧ fusion.activeRoles = activeRoles active ∧
      (fusion.riskBlocked = true ↔ .riskBlock ∈ activeRoles active) := by
  have allOfCode : (events.filter fun event => event.code = code) = events := by
    rw [List.filter_eq_self]
    intro event listed
    simpa using ofCode event listed
  rw [fuseCode, allOfCode]
  cases events with
  | nil => exact absurd rfl someEvents
  | cons first rest =>
      rcases fuseCodeEvents_ok isActive (datetimeToWire now) with ⟨fusion, isFusion, shape⟩
      rw [ofCode first List.mem_cons_self] at shape
      exact ⟨fusion, Checked.bind_eq_ok.mpr ⟨fusion, isFusion, rfl⟩, shape⟩

theorem exists_fuseCode (tradeDate : String) (now : Instant)
    (timed : ∀ event ∈ events, (signalTime event.eventTs).isSome = true) (code : String) :
    ∃ fusions, fuseCode tradeDate events now code = .ok fusions := by
  unfold fuseCode
  split
  · exact ⟨[], rfl⟩
  · next first rest listed =>
      have timedOfCode : ∀ event ∈ first :: rest, (signalTime event.eventTs).isSome = true := by
        rw [← listed]
        exact fun event present => timed event (List.mem_of_mem_filter present)
      rcases exists_activeEvents now timedOfCode with ⟨active, isActive⟩
      rcases fuseCodeEvents_ok isActive (datetimeToWire now) with ⟨fusion, isFusion, _⟩
      exact ⟨[fusion], Checked.bind_eq_ok.mpr ⟨fusion, isFusion, rfl⟩⟩

theorem mem_activeRoles_iff (isActive : activeEvents events now = .ok active)
    (timed : ∀ event ∈ events, (signalTime event.eventTs).isSome = true)
    (ordered : events.Pairwise fun first second =>
      (signalTime first.eventTs).getD 0 < (signalTime second.eventTs).getD 0)
    {role : ConditionRole} : role ∈ activeRoles active ↔ RoleIsActive events now role := by
  have known : role ∈ ConditionRole.all := by
    cases role <;> decide
  have latest : ∀ {event other : ConditionProfileEvent}, event ∈ events → other ∈ events →
      ((signalTime other.eventTs).getD 0 ≤ (signalTime event.eventTs).getD 0 ↔
        ∀ time ∈ signalTime event.eventTs, ∀ later ∈ signalTime other.eventTs, later ≤ time) := by
    intro event other listed present
    rcases Option.isSome_iff_exists.mp (timed event listed) with ⟨time, isTime⟩
    rcases Option.isSome_iff_exists.mp (timed other present) with ⟨later, isLater⟩
    simp [isTime, isLater]
  simp only [activeRoles, List.mem_filter, known, true_and, List.any_eq_true, decide_eq_true_eq,
    mem_activeEvents isActive, mem_latestByProfile_iff ordered]
  constructor
  · rintro ⟨event, ⟨⟨listed, greatest⟩, enters, fresh⟩, isRole⟩
    refine ⟨event, listed, isRole, enters, fresh, ?_⟩
    intro other present same
    exact (latest listed present).mp (greatest other present same)
  · rintro ⟨event, listed, isRole, enters, fresh, greatest⟩
    refine ⟨event, ⟨⟨listed, ?_⟩, enters, fresh⟩, isRole⟩
    intro other present same
    exact (latest listed present).mpr (greatest other present same)

end Fused

/-! ## The rows that both rebuilds read -/

section Rows

variable {host : Host} {tradeDateOf : String → String} {signals other : Table ConditionSignal}
  {tradeDate code : String}

def profileSignals (host : Host) (tradeDateOf : String → String) (signals : Table ConditionSignal)
    (tradeDate : String) : List ConditionSignal :=
  (signalsOfDate tradeDateOf signals tradeDate).filter fun row =>
    isProfileConditionMetadata (row.metadata host)

/-- The profile signals of a date can be read, and the signals of a code have instants of their
own, in the order of their texts. -/
structure SignalsInOrder (host : Host) (tradeDateOf : String → String)
    (signals : Table ConditionSignal) (tradeDate : String) : Prop where
  read : ∀ row ∈ profileSignals host tradeDateOf signals tradeDate,
    (profileEventFromRow host row (row.metadata host)).toOption.isSome = true
  timed : ∀ row ∈ profileSignals host tradeDateOf signals tradeDate,
    (signalTime row.eventTs).isSome = true
  ordered : ∀ first ∈ profileSignals host tradeDateOf signals tradeDate,
    ∀ second ∈ profileSignals host tradeDateOf signals tradeDate,
      first.code = second.code → first.eventId ≠ second.eventId →
        ∀ time ∈ signalTime first.eventTs, ∀ later ∈ signalTime second.eventTs,
          time ≠ later ∧ (first.eventTs < second.eventTs ↔ time < later)

theorem profileSignals_perm (same : other.rows.Perm signals.rows) :
    (profileSignals host tradeDateOf other tradeDate).Perm
      (profileSignals host tradeDateOf signals tradeDate) := by
  apply List.Perm.filter
  have sorted := List.perm_insertionSort (fun left right : ConditionSignal =>
    left.eventTs ≤ right.eventTs)
  exact (sorted _).trans ((same.filter _).trans (sorted _).symm)

theorem SignalsInOrder.perm (inOrder : SignalsInOrder host tradeDateOf signals tradeDate)
    (same : other.rows.Perm signals.rows) : SignalsInOrder host tradeDateOf other tradeDate := by
  have listed : ∀ {row}, row ∈ profileSignals host tradeDateOf other tradeDate →
      row ∈ profileSignals host tradeDateOf signals tradeDate :=
    fun present => (profileSignals_perm same).mem_iff.mp present
  constructor
  · exact fun row present => inOrder.read row (listed present)
  · exact fun row present => inOrder.timed row (listed present)
  · exact fun first isFirst second isSecond =>
      inOrder.ordered first (listed isFirst) second (listed isSecond)

theorem SignalsInOrder.pairwise (inOrder : SignalsInOrder host tradeDateOf signals tradeDate)
    (code : String) :
    ((profileSignals host tradeDateOf signals tradeDate).filter fun row =>
      row.code = code).Pairwise fun first second =>
        (signalTime first.eventTs).getD 0 < (signalTime second.eventTs).getD 0 := by
  have distinct : ((signalsOfDate tradeDateOf signals tradeDate).map
      ConditionSignal.eventId).Nodup := by
    rw [signalsOfDate, ((List.perm_insertionSort _ _).map _).nodup_iff]
    exact signals.nodup.sublist (List.filter_sublist.map _)
  have sorted : (signalsOfDate tradeDateOf signals tradeDate).Pairwise fun first second =>
      first.eventTs ≤ second.eventTs ∧ first.eventId ≠ second.eventId :=
    (List.pairwise_insertionSort _ _).and (List.pairwise_map.mp distinct)
  apply ((sorted.filter _).filter _).imp_of_mem
  rintro first second isFirst isSecond ⟨before, different⟩
  rcases List.mem_filter.mp isFirst with ⟨isFirst, firstCode⟩
  rcases List.mem_filter.mp isSecond with ⟨isSecond, secondCode⟩
  rw [decide_eq_true_eq] at firstCode secondCode
  rcases Option.isSome_iff_exists.mp (inOrder.timed first isFirst) with ⟨time, isTime⟩
  rcases Option.isSome_iff_exists.mp (inOrder.timed second isSecond) with ⟨later, isLater⟩
  have agree := inOrder.ordered second isSecond first isFirst (secondCode.trans firstCode.symm)
    different.symm later isLater time isTime
  rw [isTime, isLater]
  have notLater : ¬ later < time := fun less => not_lt.mpr before (agree.2.mpr less)
  exact lt_of_le_of_ne (not_lt.mp notLater) agree.1.symm

theorem SignalsInOrder.codeRows_eq (inOrder : SignalsInOrder host tradeDateOf signals tradeDate)
    (same : other.rows.Perm signals.rows) (code : String) :
    ((profileSignals host tradeDateOf other tradeDate).filter fun row => row.code = code) =
      (profileSignals host tradeDateOf signals tradeDate).filter fun row => row.code = code := by
  apply List.Perm.eq_of_pairwise _ ((inOrder.perm same).pairwise code) (inOrder.pairwise code)
    ((profileSignals_perm same).filter _)
  intro first second _ _ before after
  exact absurd (before.trans after) (lt_irrefl _)

end Rows

/-! ## What both rebuilds write -/

section Rebuilds

variable {host : Host} {settings : CandidateSettings} {tables : CandidateTables}
  {tradeDateOf : String → String} {signals : Table ConditionSignal} {tradeDate : String}
  {now : Instant}

theorem profileEventFromRow_reads {row : ConditionSignal} {metadata : Payload}
    {event : ConditionProfileEvent} (reads : profileEventFromRow host row metadata = .ok event) :
    event.code = row.code ∧ event.eventTs = row.eventTs := by
  rcases Checked.bind_eq_ok.mp reads with ⟨role, _, reads⟩
  rcases Checked.bind_eq_ok.mp reads with ⟨priority, _, reads⟩
  rcases Checked.bind_eq_ok.mp reads with ⟨ttlSec, _, reads⟩
  cases reads
  exact ⟨rfl, rfl⟩

theorem profileEvents_code {all : List ConditionProfileEvent}
    (read : profileEvents host (signalsOfDate tradeDateOf signals tradeDate) = .ok all)
    (code : String) :
    profileEvents host ((signalsOfDate tradeDateOf signals tradeDate).filter fun row =>
      row.code = code) = .ok (all.filter fun event => event.code = code) := by
  rw [profileEvents, List.filter_comm]
  apply Checked.mapM_filter read
  intro row event reads
  rw [(profileEventFromRow_reads reads).1]

theorem SignalsInOrder.events (inOrder : SignalsInOrder host tradeDateOf signals tradeDate) :
    ∃ all, profileEvents host (signalsOfDate tradeDateOf signals tradeDate) = .ok all ∧
      (∀ event ∈ all, (signalTime event.eventTs).isSome = true) ∧
      ∀ code, (all.filter fun event => event.code = code).Pairwise fun first second =>
        (signalTime first.eventTs).getD 0 < (signalTime second.eventTs).getD 0 := by
  have each : ∀ row ∈ profileSignals host tradeDateOf signals tradeDate,
      ∃ event, profileEventFromRow host row (row.metadata host) = .ok event := by
    intro row present
    exact Checked.toOption_isSome.mp (inOrder.read row present)
  rcases Checked.exists_mapM each with ⟨all, read⟩
  refine ⟨all, read, ?_, ?_⟩
  · intro event listed
    rcases (Checked.mem_mapM read).mp listed with ⟨row, present, reads⟩
    rw [(profileEventFromRow_reads reads).2]
    exact inOrder.timed row present
  · intro code
    have ofCode := profileEvents_code read code
    rw [profileEvents, List.filter_comm] at ofCode
    have times := Checked.map_of_mapM ofCode fun row event reads =>
      (profileEventFromRow_reads reads).2
    have ordered := inOrder.pairwise code
    rw [← List.pairwise_map (f := ConditionSignal.eventTs)
      (R := fun first second => (signalTime first).getD 0 < (signalTime second).getD 0)] at ordered
    rw [profileSignals, ← times] at ordered
    rw [List.pairwise_map] at ordered
    exact ordered

/-- Both rebuilds succeed and write the row. -/
structure WrittenByBoth (host : Host) (settings : CandidateSettings) (tables : CandidateTables)
    (tradeDate code : String) (now : Instant) (fusion : ConditionFusion) : Prop where
  ofDate : ∃ after, rebuildConditionFusion host settings tables tradeDate now = .ok after ∧
    after.fusions.find? (tradeDate, code) = some fusion
  ofCode : ∃ after,
    rebuildConditionFusionForCode host settings tables code tradeDate now = .ok after ∧
      after.fusions.find? (tradeDate, code) = some fusion

/-- Every code whose profile signals can be read gets one row: both rebuilds write it, in whatever
order the signals came, and its active roles are those that count. -/
def FusesTruly (host : Host) (settings : CandidateSettings) (tables : CandidateTables)
    (tradeDate : String) (now : Instant) : Prop :=
  ∀ code events,
    profileEvents host ((signalsOfDate settings.tradeDateOf tables.signals tradeDate).filter
      fun row => row.code = code) = .ok events → events ≠ [] →
      ∃ fusion : ConditionFusion,
        (∀ signals : Table ConditionSignal, signals.rows.Perm tables.signals.rows →
          WrittenByBoth host settings { tables with signals := signals } tradeDate code now
            fusion) ∧
        (∀ role, role ∈ fusion.activeRoles ↔ RoleIsActive events now role) ∧
        (fusion.riskBlocked = true ↔ RoleIsActive events now .riskBlock)

theorem writtenByBoth {all : List ConditionProfileEvent} {code : String} {fusion : ConditionFusion}
    (read : profileEvents host (signalsOfDate settings.tradeDateOf tables.signals tradeDate) =
      .ok all)
    (timed : ∀ event ∈ all, (signalTime event.eventTs).isSome = true)
    (listed : code ∈ all.map ConditionProfileEvent.code)
    (fused : fuseCode tradeDate all now code = .ok [fusion])
    (isKey : Keyed.key fusion = (tradeDate, code)) :
    WrittenByBoth host settings tables tradeDate code now fusion := by
  constructor
  · have each : ∀ other ∈ sortedTexts (all.map ConditionProfileEvent.code),
        ∃ fusions, fuseCode tradeDate all now other = .ok fusions :=
      fun other _ => exists_fuseCode tradeDate now timed other
    rcases Checked.exists_mapM each with ⟨fusions, areFusions⟩
    have rows : conditionFusions host settings.tradeDateOf tables.signals tradeDate now =
        .ok fusions.flatten :=
      Checked.bind_eq_ok.mpr ⟨all, read, Checked.bind_eq_ok.mpr ⟨fusions, areFusions, rfl⟩⟩
    have isListed : code ∈ sortedTexts (all.map ConditionProfileEvent.code) := by
      rw [sortedTexts, (List.perm_insertionSort _ _).mem_iff, List.mem_dedup]
      exact listed
    have present : fusion ∈ fusions.flatten := by
      rw [List.mem_flatten]
      exact ⟨[fusion], (Checked.mem_mapM areFusions).mpr ⟨code, isListed, fused⟩,
        List.mem_singleton_self fusion⟩
    refine ⟨_, Checked.bind_eq_ok.mpr ⟨_, rows, rfl⟩, ?_⟩
    rw [← isKey]
    exact Table.find?_upsertAll_of_mem tables.fusions (conditionFusions_rows rows).1 present
  · have again : fuseCode tradeDate (all.filter fun event => event.code = code) now code =
        .ok [fusion] := by
      rw [← fused]
      apply fuseCode_congr
      rw [List.filter_filter]
      simp only [Bool.and_self]
    refine ⟨_, Checked.bind_eq_ok.mpr ⟨_, profileEvents_code read code,
      Checked.bind_eq_ok.mpr ⟨_, again, rfl⟩⟩, ?_⟩
    rw [← isKey]
    exact Table.find?_upsert_self tables.fusions fusion

theorem fuses_truly_of_signalsInOrder
    (inOrder : SignalsInOrder host settings.tradeDateOf tables.signals tradeDate) :
    FusesTruly host settings tables tradeDate now := by
  intro code events read someEvents
  rcases inOrder.events with ⟨all, readAll, timed, ordered⟩
  have isOwn := profileEvents_code readAll code
  rw [read, Except.ok.injEq] at isOwn
  subst isOwn
  have timedOfCode : ∀ event ∈ all.filter fun event => event.code = code,
      (signalTime event.eventTs).isSome = true :=
    fun event present => timed event (List.mem_of_mem_filter present)
  have ofCode : ∀ event ∈ all.filter fun event => event.code = code, event.code = code := by
    intro event present
    simpa using (List.mem_filter.mp present).2
  rcases exists_activeEvents now timedOfCode with ⟨active, isActive⟩
  rcases fuseCode_ok tradeDate isActive someEvents ofCode with
    ⟨fusion, fused, isKey, roles, blocks⟩
  have counts : ∀ role, role ∈ activeRoles active ↔
      RoleIsActive (all.filter fun event => event.code = code) now role :=
    fun role => mem_activeRoles_iff isActive timedOfCode (ordered code)
  refine ⟨fusion, ?_, ?_, blocks.trans (counts .riskBlock)⟩
  · intro signals same
    rcases (inOrder.perm same).events with ⟨others, readOthers, timedOthers, _⟩
    have sameOfCode : (others.filter fun event => event.code = code) =
        all.filter fun event => event.code = code := by
      have ofOthers := profileEvents_code readOthers code
      rw [profileEvents, List.filter_comm, ← profileSignals, inOrder.codeRows_eq same,
        profileSignals, List.filter_comm, ← profileEvents, profileEvents_code readAll,
        Except.ok.injEq] at ofOthers
      exact ofOthers.symm
    apply writtenByBoth readOthers timedOthers _ _ isKey
    · rcases List.exists_mem_of_ne_nil _ someEvents with ⟨event, present⟩
      have isCode := ofCode event present
      rw [← sameOfCode] at present
      exact List.mem_map.mpr ⟨event, List.mem_of_mem_filter present, isCode⟩
    · rw [← fused]
      apply fuseCode_congr
      rw [sameOfCode, List.filter_filter]
      simp only [Bool.and_self]
  · intro role
    rw [roles]
    exact counts role

end Rebuilds

/-! ## Half a second -/

def leaderSignal (eventId eventTs : String) (action : ConditionEventAction) : ConditionSignal :=
  { plainSignal eventId eventTs action with
    metadataJson :=
      "\x7b\"condition_role\":\"LEADER\",\"condition_profile_id\":\"P1\"\x7d" }

/-- An entry and, half a second or a second later, the exit. -/
def leftTables (exitTs : String) : CandidateTables :=
  (candidateSystem textHost defaultSettings).run .initial
    [.signal (leaderSignal "E1" "2026-07-17T01:00:00Z" .enter),
      .signal (leaderSignal "E2" exitTs .exit)]

def leftEvents (exitTs : String) : List ConditionProfileEvent :=
  ((profileEvents textHost ((signalsOfDate defaultSettings.tradeDateOf
    (leftTables exitTs).signals "2026-07-17").filter fun row =>
      row.code = "005930")).toOption).getD []

theorem fuses_truly_after_a_second :
    FusesTruly textHost defaultSettings (leftTables "2026-07-17T01:00:01Z") "2026-07-17"
      63919846802000000 := by
  apply fuses_truly_of_signalsInOrder
  constructor
  · decide +kernel
  · decide +kernel
  · decide +kernel

/-- The text of the exit is before that of the entry, so the role stays. -/
theorem half_a_second_keeps_the_role :
    ¬ FusesTruly textHost defaultSettings (leftTables "2026-07-17T01:00:00.500000Z")
      "2026-07-17" 63919846802000000 := by
  intro truly
  have isRead : (profileEvents textHost ((signalsOfDate defaultSettings.tradeDateOf
      (leftTables "2026-07-17T01:00:00.500000Z").signals "2026-07-17").filter fun row =>
        row.code = "005930")).toOption.isSome = true := by
    decide +kernel
  rcases Checked.toOption_isSome.mp isRead with ⟨events, read⟩
  have areEvents : leftEvents "2026-07-17T01:00:00.500000Z" = events := by
    rw [leftEvents, read]
    rfl
  subst areEvents
  rcases truly "005930" _ read (by decide +kernel) with ⟨fusion, written, roles, _⟩
  rcases (written (leftTables "2026-07-17T01:00:00.500000Z").signals (.refl _)).ofDate with
    ⟨after, rebuilt, found⟩
  have stays : (rebuildConditionFusion textHost defaultSettings
      (leftTables "2026-07-17T01:00:00.500000Z") "2026-07-17" 63919846802000000).toOption.any
        (fun after => (after.fusions.find? ("2026-07-17", "005930")).any fun fusion =>
          .leader ∈ fusion.activeRoles) = true := by
    decide +kernel
  have isLeader : ConditionRole.leader ∈ fusion.activeRoles := by
    simpa [rebuilt, Except.toOption, found] using stays
  rcases (roles .leader).mp isLeader with ⟨event, listed, _, enters, _, latest⟩
  have left : ∀ event ∈ leftEvents "2026-07-17T01:00:00.500000Z", event.action = .enter →
      ∃ other ∈ leftEvents "2026-07-17T01:00:00.500000Z", other.profileId = event.profileId ∧
        (signalTime event.eventTs).getD 0 < (signalTime other.eventTs).getD 0 ∧
        (signalTime event.eventTs).isSome ∧ (signalTime other.eventTs).isSome := by
    decide +kernel
  rcases left event listed enters with ⟨other, present, same, before, isTimed, isLater⟩
  rcases Option.isSome_iff_exists.mp isTimed with ⟨time, isTime⟩
  rcases Option.isSome_iff_exists.mp isLater with ⟨later, isLast⟩
  have bounded := latest other present same time isTime later isLast
  rw [isTime, isLast] at before
  exact absurd before (not_lt.mpr bounded)

end SuseokTrader
