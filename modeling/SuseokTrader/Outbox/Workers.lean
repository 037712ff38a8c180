import SuseokTrader.Lib.Run
import SuseokTrader.Gateway.OrderRuns
import SuseokTrader.Outbox.Jobs

/-!
# Workers on one outbox

Any number of workers claim, mark and reset jobs on one database, while events
leave new jobs and the inline projection retires some. A mark call reads the
job in one statement and writes in a later transaction, and other workers may
come in between.

`JobMove` says what a single statement can do to a stored job. All laws of the
lifecycle follow from it; only the result ledger, which a mark writes before
it looks at the lock again, is not covered.
-/

namespace SuseokTrader

/-! ## The system -/

/-- The database, and for every caller the call it is in the middle of. Worker ids are distinct,
and a worker does one thing at a time. -/
structure OutboxState where
  tables : OutboxTables
  marks : String → Option PendingMark
  retires : String → Option PendingRetire

inductive OutboxOp where
  | enqueue (event : GatewayEvent) (eventRowid : Option Int) (now : Instant)
  | claim (ownerId : String) (limit : Int) (minAge : Nat) (projectionName : Option String)
      (now : Instant)
  | beginMark (ownerId outboxId : String) (mark : Mark) (now : Instant)
  | finishMark (ownerId : String) (now : Instant)
  | reset (staleSec : Int) (now : Instant)
  | beginRetire (caller eventId projectionName terminalStatus : String) (evidence : Payload)
      (now : Instant)
  | finishRetire (caller : String)
  /-- A call fails between its statements, and its transaction rolls back. -/
  | abandon (caller : String)
  /-- Other programs record results, store events and decide on routing. -/
  | elsewhere (ledger : ResultLedger) (routingDecisions : List RoutingDecision)

def OutboxState.setJobs (state : OutboxState) (jobs : Table ProjectionJob) : OutboxState :=
  { state with tables := { state.tables with jobs := jobs } }

def OutboxState.setMark (state : OutboxState) (ownerId : String) (pending : Option PendingMark) :
    OutboxState :=
  { state with marks := Function.update state.marks ownerId pending }

def OutboxState.setRetire (state : OutboxState) (caller : String)
    (pending : Option PendingRetire) : OutboxState :=
  { state with retires := Function.update state.retires caller pending }

def outboxNext (host : Host) (state : OutboxState) : OutboxOp → OutboxState
  | .enqueue event eventRowid now =>
      match enqueueProjectionJobsForGatewayEvent host state.tables event eventRowid now with
      | some (_, tables) => { state with tables := tables }
      | none => state
  | .claim ownerId limit minAge projectionName now =>
      match claimProjectionOutboxJobs state.tables.jobs ownerId limit minAge projectionName
          now with
      | .ok (_, jobs) => state.setJobs jobs
      | .error _ => state
  | .beginMark ownerId outboxId mark now =>
      if (state.marks (Text.strip ownerId)).isSome then state
      else
        match beginMark state.tables.jobs outboxId ownerId mark now with
        | .ok pending => state.setMark (Text.strip ownerId) pending
        | .error _ => state
  | .finishMark ownerId now =>
      match state.marks ownerId with
      | none => state
      | some pending =>
          match finishMark host state.tables ownerId pending now with
          | .ok tables => { state.setMark ownerId none with tables := tables }
          | .error _ => state.setMark ownerId none
  | .reset staleSec now =>
      state.setJobs (resetStaleProjectionOutboxProcessing state.tables.jobs staleSec now)
  | .beginRetire caller eventId projectionName terminalStatus evidence now =>
      match beginRetire state.tables.jobs eventId projectionName terminalStatus evidence now with
      | .ok pending => state.setRetire caller pending
      | .error _ => state
  | .finishRetire caller =>
      match state.retires caller with
      | none => state
      | some pending =>
          { state.setRetire caller none with tables := finishRetire host state.tables pending }
  | .abandon caller => (state.setMark caller none).setRetire caller none
  | .elsewhere ledger routingDecisions =>
      { state with tables :=
          { state.tables with ledger := ledger, routingDecisions := routingDecisions } }

/-- The outbox under any number of workers. -/
def outbox (host : Host) : System OutboxState OutboxOp Unit where
  step state op := (outboxNext host state op, ())

def emptyOutbox : OutboxState where
  tables := { jobs := .empty, ledger := ⟨.empty, .empty, .empty⟩, routingDecisions := [] }
  marks := fun _ => none
  retires := fun _ => none

@[simp]
theorem next_outbox (host : Host) (state : OutboxState) (op : OutboxOp) :
    (outbox host).next state op = outboxNext host state op :=
  rfl

/-! ## What a statement does to a job -/

/-- The changes that a statement can make to a stored job. -/
inductive JobMove (host : Host) : ProjectionJob → ProjectionJob → Prop
  | stay (job) : JobMove host job job
  | claim {job} (ownerId now : String) (pending : job.status = .pending) :
      JobMove host job (claimJob ownerId now job)
  | reset {job} (now : String) (processing : job.status = .processing) :
      JobMove host job (resetJob now job)
  | mark {job} (ownerId : String) (row : ProjectionJob) (now : String) (mark : Mark)
      (locked : job.lockedBy = some ownerId) : JobMove host job (mark.change host row now job)
  | retire {job} (retire : PendingRetire) (pending : job.status = .pending) :
      JobMove host job (retireJob host retire job)

def ProjectionJob.LockedInHand (job : ProjectionJob) : Prop :=
  job.lockedBy.isSome = true ↔ job.status = .processing

variable {host : Host}

theorem statusAfterError_ne_processing {attempts retryLimit : Int} {otherwise : OutboxStatus}
    (different : otherwise ≠ .processing) :
    statusAfterError attempts retryLimit otherwise ≠ .processing := by
  rw [statusAfterError]
  split
  · intro same
    cases same
  · exact different

theorem released_markChange (host : Host) (row : ProjectionJob) (now : String) (mark : Mark)
    (job : ProjectionJob) : (mark.change host row now job).lockedBy = none ∧
      (mark.change host row now job).status ≠ .processing := by
  cases mark with
  | applied evidence => exact ⟨rfl, fun same => by cases same⟩
  | skipped reason evidence => exact ⟨rfl, fun same => by cases same⟩
  | error errorMessage retryLimit evidence =>
      refine ⟨rfl, ?_⟩
      exact statusAfterError_ne_processing fun same => by cases same
  | retryableError errorMessage retryLimit evidence =>
      refine ⟨rfl, ?_⟩
      exact statusAfterError_ne_processing fun same => by cases same

namespace JobMove

variable {before after : ProjectionJob}

theorem identity (move : JobMove host before after) :
    after.outboxId = before.outboxId ∧ after.projectionName = before.projectionName ∧
      after.eventId = before.eventId := by
  cases move with
  | stay | claim | reset | retire => exact ⟨rfl, rfl, rfl⟩
  | mark ownerId row now mark locked => cases mark <;> exact ⟨rfl, rfl, rfl⟩

theorem lockedInHand (move : JobMove host before after) (inHand : before.LockedInHand) :
    after.LockedInHand := by
  cases move with
  | stay => exact inHand
  | claim ownerId now pending => simp [ProjectionJob.LockedInHand, claimJob]
  | reset now processing => simp [ProjectionJob.LockedInHand, resetJob]
  | mark ownerId row now mark locked =>
      rcases released_markChange host row now mark before with ⟨free, notProcessing⟩
      simp [ProjectionJob.LockedInHand, free, notProcessing]
  | retire retire pending =>
      rcases retire.terminal with same | same <;>
        simp [ProjectionJob.LockedInHand, retireJob, same]

theorem terminal (move : JobMove host before after) (inHand : before.LockedInHand)
    (isTerminal : before.status.isTerminal = true) : after = before := by
  cases move with
  | stay => rfl
  | claim ownerId now pending => simp [pending, OutboxStatus.isTerminal] at isTerminal
  | reset now processing => simp [processing, OutboxStatus.isTerminal] at isTerminal
  | mark ownerId row now mark locked =>
      have processing := inHand.mp (by rw [locked]; rfl)
      simp [processing, OutboxStatus.isTerminal] at isTerminal
  | retire retire pending => simp [pending, OutboxStatus.isTerminal] at isTerminal

end JobMove

/-! ## What a statement does to the table -/

structure MovesJobs (host : Host) (jobs next : Table ProjectionJob) : Prop where
  stored : ∀ id job, jobs.find? id = some job →
    ∃ after, next.find? id = some after ∧ JobMove host job after
  absent : ∀ id, jobs.find? id = none → next.find? id = none

theorem MovesJobs.refl (host : Host) (jobs : Table ProjectionJob) : MovesJobs host jobs jobs where
  stored := fun _ job found => ⟨job, found, .stay job⟩
  absent := fun _ missing => missing

variable {change : ProjectionJob → ProjectionJob} {ownerId projectionName eventId id : String}
  {jobs : Table ProjectionJob} {now : Instant} {job : ProjectionJob}
  {arrivals : List ProjectionJob} {tables : OutboxTables} {state : OutboxState}
  {pending : PendingMark}

theorem movesJobs_updateWhere (jobs : Table ProjectionJob) {condition : ProjectionJob → Bool}
    {keeps : ∀ job, Keyed.key (change job) = Keyed.key job}
    (moves : ∀ job, condition job = true → JobMove host job (change job)) :
    MovesJobs host jobs (jobs.updateWhere condition change keeps) where
  stored := by
    intro id job found
    rw [Table.find?_updateWhere, found, Option.map_some]
    refine ⟨_, rfl, ?_⟩
    split
    · next holds => exact moves job holds
    · exact .stay job
  absent := by
    intro id missing
    rw [Table.find?_updateWhere, missing]
    rfl

theorem movesJobs_reset (jobs : Table ProjectionJob) (staleSec : Int) (now : Instant) :
    MovesJobs host jobs (resetStaleProjectionOutboxProcessing jobs staleSec now) := by
  simp only [resetStaleProjectionOutboxProcessing]
  apply movesJobs_updateWhere
  intro job stale
  simp only [isStaleProcessing, Bool.and_eq_true, decide_eq_true_eq] at stale
  exact .reset _ stale.1

theorem movesJobs_updateLocked (jobs : Table ProjectionJob) (id ownerId : String)
    (row : ProjectionJob) (now : String) (mark : Mark) :
    MovesJobs host jobs (updateLocked jobs id ownerId (mark.change host row now)
      (outboxId_markChange host row now mark)) := by
  apply movesJobs_updateWhere
  intro job locked
  simp only [Bool.and_eq_true, decide_eq_true_eq] at locked
  exact .mark ownerId row now mark locked.2

theorem movesJobs_finishRetire (tables : OutboxTables) (pending : PendingRetire) :
    MovesJobs host tables.jobs (finishRetire host tables pending).jobs := by
  simp only [finishRetire]
  apply movesJobs_updateWhere
  intro job waits
  simp only [Bool.and_eq_true, decide_eq_true_eq] at waits
  exact .retire pending waits.1.2

def ClaimsJobs (ownerId now : String) (jobs next : Table ProjectionJob) : Prop :=
  ∀ id, (∀ job, jobs.find? id = some job →
      next.find? id = some job ∨
        job.status = .pending ∧ next.find? id = some (claimJob ownerId now job)) ∧
    (jobs.find? id = none → next.find? id = none)

theorem claimsJobs_claimCandidate (ownerId now minCreatedAt : String)
    (state : Table ProjectionJob × List ProjectionJob) (candidate : ProjectionJob) :
    ClaimsJobs ownerId now state.1 (claimCandidate ownerId now minCreatedAt state candidate).1 := by
  rw [claimCandidate]
  split
  · exact fun id => ⟨fun job found => Or.inl found, fun missing => missing⟩
  · next stored found =>
      split
      · next claimable =>
          intro id
          by_cases same : id = candidate.outboxId
          · subst same
            constructor
            · intro job jobFound
              rw [found, Option.some.injEq] at jobFound
              subst jobFound
              simp only [isClaimable, Bool.and_eq_true, decide_eq_true_eq] at claimable
              rw [Table.find?_update_self found]
              exact Or.inr ⟨claimable.1.1, rfl⟩
            · intro missing
              rw [found] at missing
              cases missing
          · rw [Table.find?_update_of_ne same]
            exact ⟨fun job jobFound => Or.inl jobFound, fun missing => missing⟩
      · exact fun id => ⟨fun job found => Or.inl found, fun missing => missing⟩

theorem ClaimsJobs.trans {now : String} {first second third : Table ProjectionJob}
    (here : ClaimsJobs ownerId now first second) (later : ClaimsJobs ownerId now second third) :
    ClaimsJobs ownerId now first third := by
  intro id
  constructor
  · intro job found
    rcases (here id).1 job found with same | ⟨pending, claimed⟩
    · exact (later id).1 job same
    · rcases (later id).1 _ claimed with same | ⟨stillPending, _⟩
      · exact Or.inr ⟨pending, same⟩
      · cases stillPending
  · intro missing
    exact (later id).2 ((here id).2 missing)

theorem movesJobs_claim {limit : Int} {minAge : Nat} {projectionName : Option String}
    {claimed : List ProjectionJob} {next : Table ProjectionJob}
    (success : claimProjectionOutboxJobs jobs ownerId limit minAge projectionName now =
      .ok (claimed, next)) : MovesJobs host jobs next := by
  simp only [claimProjectionOutboxJobs, Checked.bind_eq_ok, pure, Except.pure, Except.ok.injEq,
    Prod.mk.injEq] at success
  rcases success with ⟨owner, _, projection, _, _, rfl⟩
  generalize claimCandidates _ _ _ _ _ = candidates
  generalize datetimeToWire now = time
  generalize datetimeToWire (now - minAge) = minCreatedAt
  have claims : ∀ (candidates : List ProjectionJob)
      (state : Table ProjectionJob × List ProjectionJob),
      ClaimsJobs owner time state.1
        (candidates.foldl (claimCandidate owner time minCreatedAt) state).1 := by
    intro candidates
    induction candidates with
    | nil => exact fun state id => ⟨fun job found => Or.inl found, fun missing => missing⟩
    | cons candidate candidates ih =>
        intro state
        exact (claimsJobs_claimCandidate owner time minCreatedAt state candidate).trans
          (ih (claimCandidate owner time minCreatedAt state candidate))
  have all := claims candidates (jobs, [])
  constructor
  · intro id job found
    rcases (all id).1 job found with same | ⟨pending, taken⟩
    · exact ⟨job, same, .stay job⟩
    · exact ⟨_, taken, .claim owner time pending⟩
  · intro id missing
    exact (all id).2 missing

/-! ## Job identifiers -/

def projectionNames : List String :=
  ["market_data", "condition_fusion", "market_reference", "market_index", "market_regime",
    "market_scan"]

theorem mem_projectionNames_direct {eventType : String} {names : List String}
    (direct : directEventProjections eventType = some names) {name : String}
    (present : name ∈ names) : name ∈ projectionNames := by
  simp only [directEventProjections] at direct
  split at direct
  · cases direct
    simp_all [projectionNames]
  · split at direct
    · cases direct
      simp only [List.mem_cons, List.not_mem_nil, or_false] at present
      rcases present with rfl | rfl <;> simp [projectionNames]
    · split at direct
      · cases direct
        simp_all [projectionNames]
      · split at direct
        · cases direct
          simp_all [projectionNames]
        · split at direct
          · cases direct
            simp only [List.mem_cons, List.not_mem_nil, or_false] at present
            rcases present with rfl | rfl <;> simp [projectionNames]
          · cases direct

theorem mem_projectionNames_event {eventType : String} {spec : ProjectionJobSpec}
    (present : spec ∈ projectionJobsForGatewayEvent eventType) :
    spec.projectionName ∈ projectionNames := by
  simp only [projectionJobsForGatewayEvent] at present
  split at present
  · cases present
  · rcases List.mem_map.mp present with ⟨name, isName, rfl⟩
    cases direct : directEventProjections (normalizeEventType eventType) with
    | some names =>
        rw [direct] at isName
        exact mem_projectionNames_direct direct isName
    | none =>
        rw [direct, Option.none_or] at isName
        split at isName
        · rw [Option.getD_some] at isName
          simp [isName, jobSpec, projectionNames]
        · cases isName

theorem mem_projectionNames_append {specs : List ProjectionJobSpec}
    (known : ∀ spec ∈ specs, spec.projectionName ∈ projectionNames)
    (added : projectionName ∈ projectionNames) :
    ∀ spec ∈ appendProjectionJob specs projectionName, spec.projectionName ∈ projectionNames := by
  intro spec present
  rw [appendProjectionJob] at present
  split at present
  · exact known spec present
  · rcases List.mem_append.mp present with old | new
    · exact known spec old
    · rw [List.mem_singleton] at new
      rw [new]
      exact added

theorem mem_projectionNames (host : Host) (event : GatewayEvent) :
    ∀ spec ∈ projectionJobsForEvent host event, spec.projectionName ∈ projectionNames := by
  have direct : ∀ spec ∈ projectionJobsForGatewayEvent event.eventType,
      spec.projectionName ∈ projectionNames := fun spec => mem_projectionNames_event
  have scanned : ∀ spec ∈ (if isScanRelatedTrResponse host event then
      appendProjectionJob (projectionJobsForGatewayEvent event.eventType) "market_scan"
      else projectionJobsForGatewayEvent event.eventType),
      spec.projectionName ∈ projectionNames := by
    split
    · exact mem_projectionNames_append direct (by simp [projectionNames])
    · exact direct
  simp only [projectionJobsForEvent]
  split
  · refine mem_projectionNames_append (mem_projectionNames_append scanned ?_) ?_
    · simp [projectionNames]
    · simp [projectionNames]
  · exact scanned

theorem projectionName_facts {name : String} (known : name ∈ projectionNames) :
    ':' ∉ name.toList ∧ Text.lower (Text.strip name) = name ∧ name ≠ "" := by
  simp only [projectionNames, List.mem_cons, List.not_mem_nil, or_false] at known
  rcases known with rfl | rfl | rfl | rfl | rfl | rfl <;> decide +kernel

theorem append_separator_injective {left right leftRest rightRest : List Char} {separator : Char}
    (leftFree : separator ∉ left) (rightFree : separator ∉ right)
    (same : left ++ separator :: leftRest = right ++ separator :: rightRest) :
    left = right ∧ leftRest = rightRest := by
  induction left generalizing right with
  | nil =>
      cases right with
      | nil => exact ⟨rfl, (List.cons.inj same).2⟩
      | cons first right =>
          rw [List.nil_append, List.cons_append, List.cons.injEq] at same
          exact absurd (same.1 ▸ List.mem_cons_self) rightFree
  | cons first left ih =>
      cases right with
      | nil =>
          rw [List.nil_append, List.cons_append, List.cons.injEq] at same
          exact absurd (same.1 ▸ List.mem_cons_self) leftFree
      | cons second right =>
          rw [List.cons_append, List.cons_append, List.cons.injEq] at same
          rw [List.mem_cons, not_or] at leftFree rightFree
          rcases ih leftFree.2 rightFree.2 same.2 with ⟨sameLeft, sameRest⟩
          exact ⟨by rw [same.1, sameLeft], sameRest⟩

theorem outboxId_injective {left right leftEvent rightEvent : String}
    (leftKnown : left ∈ projectionNames) (rightKnown : right ∈ projectionNames)
    (same : outboxId left leftEvent = outboxId right rightEvent) :
    left = right ∧ leftEvent = rightEvent := by
  have sameChars := congrArg String.toList same
  simp only [outboxId, String.toList_append] at sameChars
  rw [List.append_assoc, List.append_assoc] at sameChars
  rcases append_separator_injective (projectionName_facts leftKnown).1
    (projectionName_facts rightKnown).1 sameChars with ⟨sameName, sameEvent⟩
  exact ⟨String.toList_inj.mp sameName, String.toList_inj.mp sameEvent⟩

/-! ## Enqueueing -/

structure JobSound (job : ProjectionJob) : Prop where
  identifier : job.outboxId = outboxId job.projectionName job.eventId
  known : job.projectionName ∈ projectionNames
  eventId : Stripped job.eventId
  lockedInHand : job.LockedInHand

def JobsSound (jobs : Table ProjectionJob) : Prop :=
  ∀ id job, jobs.find? id = some job → JobSound job

theorem JobSound.move {host : Host} {before after : ProjectionJob} (sound : JobSound before)
    (move : JobMove host before after) : JobSound after := by
  rcases move.identity with ⟨sameId, sameName, sameEvent⟩
  constructor
  · rw [sameId, sameName, sameEvent]
    exact sound.identifier
  · rw [sameName]
    exact sound.known
  · rw [sameEvent]
    exact sound.eventId
  · exact move.lockedInHand sound.lockedInHand

theorem JobsSound.moves {host : Host} {next : Table ProjectionJob} (sound : JobsSound jobs)
    (moves : MovesJobs host jobs next) : JobsSound next := by
  intro id job found
  cases before : jobs.find? id with
  | none =>
      rw [moves.absent id before] at found
      cases found
  | some old =>
      rcases moves.stored id old before with ⟨after, afterFound, move⟩
      rw [found, Option.some.injEq] at afterFound
      rw [afterFound]
      exact (sound id old before).move move

theorem jobSound_pendingJob {host : Host} {event : GatewayEvent} {spec : ProjectionJobSpec}
    (present : spec ∈ projectionJobsForEvent host event) (eventRowid : Option Int) (now : String) :
    JobSound (pendingJob event eventRowid now spec) where
  identifier := rfl
  known := mem_projectionNames host event spec present
  eventId := event.eventId_stripped
  lockedInHand := by simp [ProjectionJob.LockedInHand, pendingJob]

theorem JobsSound.any_isFor_iff (sound : JobsSound jobs)
    (known : projectionName ∈ projectionNames) :
    jobs.rows.any (ProjectionJob.isFor projectionName eventId) = true ↔
      (jobs.find? (outboxId projectionName eventId)).isSome = true := by
  rw [List.any_eq_true]
  constructor
  · rintro ⟨job, present, isFor⟩
    simp only [ProjectionJob.isFor, Bool.and_eq_true, decide_eq_true_eq] at isFor
    have found := Table.find?_of_mem present
    have identifier := (sound _ job found).identifier
    rw [isFor.1, isFor.2] at identifier
    rw [← identifier]
    exact Option.isSome_of_mem found
  · intro stored
    rcases Option.isSome_iff_exists.mp stored with ⟨job, found⟩
    have jobSound := sound _ job found
    have sameId : job.outboxId = outboxId projectionName eventId := Table.key_of_find? found
    rw [jobSound.identifier] at sameId
    rcases outboxId_injective jobSound.known known sameId with ⟨sameName, sameEvent⟩
    refine ⟨job, Table.mem_of_find? found, ?_⟩
    simp [ProjectionJob.isFor, sameName, sameEvent]

/-- The table after some jobs came in: what was stored stays, and each of the jobs is there. -/
structure Receives (jobs next : Table ProjectionJob) (arrivals : List ProjectionJob) : Prop where
  stored : ∀ id job, jobs.find? id = some job → next.find? id = some job
  absent : ∀ id, jobs.find? id = none → next.find? id = none ∨
    ∃ arrival ∈ arrivals, arrival.outboxId = id ∧ next.find? id = some arrival
  arrived : ∀ arrival ∈ arrivals, (next.find? arrival.outboxId).isSome = true

theorem JobsSound.insert_one (sound : JobsSound jobs) (jobSound : JobSound job) :
    ∃ next created, insertJob jobs job = some (next, created) ∧ Receives jobs next [job] := by
  simp only [insertJob]
  split
  · next taken =>
      rw [sound.any_isFor_iff jobSound.known, ← jobSound.identifier] at taken
      refine ⟨jobs, false, rfl, fun _ _ found => found, fun _ missing => Or.inl missing, ?_⟩
      intro arrival present
      rw [List.mem_singleton] at present
      rw [present]
      exact taken
  · next free =>
      rw [sound.any_isFor_iff jobSound.known, ← jobSound.identifier] at free
      have missing : jobs.find? job.outboxId = none := by simpa using free
      rcases Option.isSome_iff_exists.mp (Table.insert?_isSome_iff.mpr missing) with
        ⟨inserted, inserts⟩
      refine ⟨inserted, true, by rw [inserts]; rfl, ?_, ?_, ?_⟩
      · intro id old found
        exact Table.find?_of_insert?_of_some inserts found
      · intro id absent
        by_cases same : job.outboxId = id
        · right
          refine ⟨job, List.mem_singleton_self job, same, ?_⟩
          rw [← same]
          exact Table.find?_of_insert?_self inserts
        · exact Or.inl ((Table.find?_of_insert?_of_ne inserts same).trans absent)
      · intro arrival present
        rw [List.mem_singleton] at present
        rw [present]
        exact Option.isSome_of_mem (Table.find?_of_insert?_self inserts)

theorem Receives.sound {next : Table ProjectionJob} (receives : Receives jobs next arrivals)
    (sound : JobsSound jobs) (arrivalsSound : ∀ arrival ∈ arrivals, JobSound arrival) :
    JobsSound next := by
  intro id job found
  cases before : jobs.find? id with
  | none =>
      rcases receives.absent id before with missing | ⟨arrival, present, _, arrived⟩
      · rw [missing] at found
        cases found
      · rw [found, Option.some.injEq] at arrived
        rw [arrived]
        exact arrivalsSound arrival present
  | some old =>
      rw [receives.stored id old before, Option.some.injEq] at found
      rw [← found]
      exact sound id old before

theorem Receives.cons {middle next : Table ProjectionJob} (here : Receives jobs middle [job])
    (later : Receives middle next arrivals) : Receives jobs next (job :: arrivals) where
  stored := fun id old found => later.stored id old (here.stored id old found)
  absent := by
    intro id missing
    rcases here.absent id missing with stillMissing | ⟨arrival, present, same, arrived⟩
    · rcases later.absent id stillMissing with final | ⟨arrival, present, same, arrived⟩
      · exact Or.inl final
      · exact Or.inr ⟨arrival, List.mem_cons_of_mem job present, same, arrived⟩
    · rw [List.mem_singleton] at present
      subst present
      exact Or.inr ⟨arrival, List.mem_cons_self, same, later.stored id arrival arrived⟩
  arrived := by
    intro arrival present
    rcases List.mem_cons.mp present with rfl | present
    · rcases Option.isSome_iff_exists.mp (here.arrived arrival (List.mem_singleton_self arrival))
        with ⟨stored, found⟩
      exact Option.isSome_of_mem (later.stored _ stored found)
    · exact later.arrived arrival present

theorem JobsSound.insert_all (sound : JobsSound jobs)
    (arrivalsSound : ∀ arrival ∈ arrivals, JobSound arrival) :
    ∃ next enqueued, insertJobs jobs arrivals = some (next, enqueued) ∧
      Receives jobs next arrivals := by
  induction arrivals generalizing jobs with
  | nil =>
      refine ⟨jobs, [], rfl, fun _ _ found => found, fun _ missing => Or.inl missing, ?_⟩
      intro arrival present
      cases present
  | cons job arrivals ih =>
      have jobSound := arrivalsSound job List.mem_cons_self
      rcases sound.insert_one jobSound with ⟨middle, created, inserts, here⟩
      have middleSound : JobsSound middle := by
        apply here.sound sound
        intro arrival present
        rw [List.mem_singleton] at present
        rw [present]
        exact jobSound
      rcases ih middleSound fun arrival present =>
        arrivalsSound arrival (List.mem_cons_of_mem job present) with
        ⟨next, enqueued, rest, later⟩
      simp only [insertJobs, inserts, rest, Option.bind_eq_bind, Option.bind_some,
        Option.pure_def, Option.some.injEq, Prod.mk.injEq]
      exact ⟨next, _, ⟨rfl, rfl⟩, here.cons later⟩

def eventJobs (host : Host) (event : GatewayEvent) (eventRowid : Option Int) (now : String) :
    List ProjectionJob :=
  (projectionJobsForEvent host event).map (pendingJob event eventRowid now)

theorem JobsSound.enqueue_all (sound : JobsSound tables.jobs) (host : Host) (event : GatewayEvent)
    (eventRowid : Option Int) (now : Instant) :
    ∃ result rowid next,
      enqueueProjectionJobsForGatewayEvent host tables event eventRowid now =
        some (result, { tables with jobs := next }) ∧
      Receives tables.jobs next (eventJobs host event rowid (datetimeToWire now)) := by
  simp only [enqueueProjectionJobsForGatewayEvent]
  split
  · next none =>
      refine ⟨_, eventRowid, tables.jobs, rfl, fun _ _ found => found,
        fun _ missing => Or.inl missing, ?_⟩
      intro arrival present
      rw [eventJobs, none] at present
      cases present
  · have arrivalsSound : ∀ rowid, ∀ arrival ∈ eventJobs host event rowid (datetimeToWire now),
        JobSound arrival := by
      intro rowid arrival present
      rcases List.mem_map.mp present with ⟨spec, isSpec, rfl⟩
      exact jobSound_pendingJob isSpec rowid _
    rcases sound.insert_all (arrivalsSound (eventRowid.or
      (lookupGatewayEventRowid tables.ledger.events event.eventId))) with
      ⟨next, enqueued, inserts, receives⟩
    rw [eventJobs] at inserts
    simp only [inserts, Option.bind_eq_bind, Option.bind_some, Option.pure_def,
      Option.some.injEq, Prod.mk.injEq]
    exact ⟨_, _, next, ⟨rfl, rfl⟩, receives⟩

/-! ## Reachable outboxes -/

def MarksStored (jobs : Table ProjectionJob) (pending : PendingMark) : Prop :=
  ∃ job, jobs.find? pending.outboxId = some job ∧
    job.projectionName = pending.row.projectionName ∧ job.eventId = pending.row.eventId

/-- What holds of every reachable state: its jobs are sound, and a worker in the middle of a mark
has read a stored job. -/
structure OutboxSound (state : OutboxState) : Prop where
  jobs : JobsSound state.tables.jobs
  marks : ∀ ownerId pending, state.marks ownerId = some pending →
    MarksStored state.tables.jobs pending

theorem outboxSound_empty : OutboxSound emptyOutbox where
  jobs := by
    intro id job found
    cases found
  marks := by
    intro ownerId pending isMarking
    cases isMarking

def OutboxOp.enqueued : OutboxOp → Option GatewayEvent
  | .enqueue event _ _ => some event
  | _ => none

/-- An enqueued event leaves its jobs, and every other step moves the stored ones. -/
theorem jobs_outboxNext (sound : JobsSound state.tables.jobs) (op : OutboxOp) :
    (∃ event rowid now, op.enqueued = some event ∧
        Receives state.tables.jobs (outboxNext host state op).tables.jobs
          (eventJobs host event rowid now)) ∨
      op.enqueued = none ∧
        MovesJobs host state.tables.jobs (outboxNext host state op).tables.jobs := by
  cases op with
  | enqueue event eventRowid now =>
      left
      rcases sound.enqueue_all host event eventRowid now with
        ⟨result, rowid, next, enqueues, receives⟩
      refine ⟨event, rowid, datetimeToWire now, rfl, ?_⟩
      simp only [outboxNext, enqueues]
      exact receives
  | claim ownerId limit minAge projectionName now =>
      refine Or.inr ⟨rfl, ?_⟩
      simp only [outboxNext]
      split
      · next claimed jobs claims => exact movesJobs_claim claims
      · exact MovesJobs.refl host _
  | beginMark ownerId outboxId mark now =>
      refine Or.inr ⟨rfl, ?_⟩
      simp only [outboxNext]
      split
      · exact MovesJobs.refl host _
      · split <;> exact MovesJobs.refl host _
  | finishMark ownerId now =>
      refine Or.inr ⟨rfl, ?_⟩
      simp only [outboxNext]
      split
      · exact MovesJobs.refl host _
      · split
        · next tables finishes =>
            simp only [finishMark, Checked.bind_eq_ok, pure, Except.pure,
              Except.ok.injEq] at finishes
            rcases finishes with ⟨ledger, _, rfl⟩
            exact movesJobs_updateLocked ..
        · exact MovesJobs.refl host _
  | reset staleSec now =>
      refine Or.inr ⟨rfl, ?_⟩
      exact movesJobs_reset state.tables.jobs staleSec now
  | beginRetire caller eventId projectionName terminalStatus evidence now =>
      refine Or.inr ⟨rfl, ?_⟩
      simp only [outboxNext]
      split <;> exact MovesJobs.refl host _
  | finishRetire caller =>
      refine Or.inr ⟨rfl, ?_⟩
      simp only [outboxNext]
      split
      · exact MovesJobs.refl host _
      · exact movesJobs_finishRetire _ _
  | abandon caller =>
      refine Or.inr ⟨rfl, ?_⟩
      exact MovesJobs.refl host _
  | elsewhere ledger routingDecisions =>
      refine Or.inr ⟨rfl, ?_⟩
      exact MovesJobs.refl host _

theorem stored_outboxNext (sound : JobsSound state.tables.jobs) (op : OutboxOp)
    (found : state.tables.jobs.find? id = some job) :
    ∃ after, (outboxNext host state op).tables.jobs.find? id = some after ∧
      JobMove host job after := by
  rcases jobs_outboxNext sound op with ⟨_, _, _, _, receives⟩ | ⟨_, moves⟩
  · exact ⟨job, receives.stored id job found, .stay job⟩
  · exact moves.stored id job found

theorem JobsSound.outboxNext (sound : JobsSound state.tables.jobs) (host : Host) (op : OutboxOp) :
    JobsSound (outboxNext host state op).tables.jobs := by
  rcases jobs_outboxNext sound op with ⟨event, rowid, now, _, receives⟩ | ⟨_, moves⟩
  · apply receives.sound sound
    intro arrival present
    rcases List.mem_map.mp present with ⟨spec, isSpec, rfl⟩
    exact jobSound_pendingJob isSpec rowid _
  · exact sound.moves moves

theorem MarksStored.outboxNext (sound : JobsSound state.tables.jobs)
    (stored : MarksStored state.tables.jobs pending) (host : Host) (op : OutboxOp) :
    MarksStored (outboxNext host state op).tables.jobs pending := by
  rcases stored with ⟨job, found, sameName, sameEvent⟩
  rcases stored_outboxNext sound op found with ⟨after, afterFound, move⟩
  rcases move.identity with ⟨_, afterName, afterEvent⟩
  exact ⟨after, afterFound, afterName.trans sameName, afterEvent.trans sameEvent⟩

/-- A worker that a step leaves in the middle of a mark was there before, or has just read a stored
job. -/
theorem marks_outboxNext {op : OutboxOp}
    (isMarking : (outboxNext host state op).marks ownerId = some pending) :
    state.marks ownerId = some pending ∨ MarksStored state.tables.jobs pending := by
  cases op with
  | enqueue event eventRowid now =>
      left
      simp only [outboxNext] at isMarking
      split at isMarking <;> exact isMarking
  | claim ownerId limit minAge projectionName now =>
      left
      simp only [outboxNext] at isMarking
      split at isMarking <;> exact isMarking
  | beginMark caller outboxId mark now =>
      simp only [outboxNext] at isMarking
      split at isMarking
      · exact Or.inl isMarking
      · split at isMarking
        · next read begins =>
            by_cases same : ownerId = Text.strip caller
            · right
              simp only [OutboxState.setMark, same, Function.update_self] at isMarking
              simp only [beginMark, Checked.bind_eq_ok, pure, Except.pure,
                Except.ok.injEq] at begins
              rcases begins with ⟨id, _, owner, _, stated, _, reads⟩
              rw [isMarking, Option.map_eq_some_iff] at reads
              rcases reads with ⟨row, locked, rfl⟩
              rw [lockedJob, Option.filter_eq_some_iff] at locked
              exact ⟨row, locked.1, rfl, rfl⟩
            · left
              simpa only [OutboxState.setMark, Function.update_of_ne same] using isMarking
        · exact Or.inl isMarking
  | finishMark caller now =>
      left
      simp only [outboxNext] at isMarking
      split at isMarking
      · exact isMarking
      · have cleared : (state.setMark caller none).marks ownerId = some pending := by
          split at isMarking <;> exact isMarking
        by_cases same : ownerId = caller
        · simp [OutboxState.setMark, same] at cleared
        · simpa only [OutboxState.setMark, Function.update_of_ne same] using cleared
  | reset staleSec now => exact Or.inl isMarking
  | beginRetire caller eventId projectionName terminalStatus evidence now =>
      left
      simp only [outboxNext] at isMarking
      split at isMarking <;> exact isMarking
  | finishRetire caller =>
      left
      simp only [outboxNext] at isMarking
      split at isMarking <;> exact isMarking
  | abandon caller =>
      left
      by_cases same : ownerId = caller
      · simp [outboxNext, OutboxState.setMark, OutboxState.setRetire, same] at isMarking
      · simpa only [outboxNext, OutboxState.setRetire, OutboxState.setMark,
          Function.update_of_ne same] using isMarking
  | elsewhere ledger routingDecisions => exact Or.inl isMarking

theorem OutboxSound.next (sound : OutboxSound state) (host : Host) (op : OutboxOp) :
    OutboxSound (outboxNext host state op) where
  jobs := sound.jobs.outboxNext host op
  marks := by
    intro ownerId pending isMarking
    have stored : MarksStored state.tables.jobs pending := by
      rcases marks_outboxNext isMarking with before | stored
      · exact sound.marks ownerId pending before
      · exact stored
    exact stored.outboxNext sound.jobs host op

/-! ## The laws of the outbox -/

def HoldsLock (state : OutboxState) (ownerId outboxId : String) : Prop :=
  ∃ job, state.tables.jobs.find? outboxId = some job ∧ job.lockedBy = some ownerId

def Enqueues (host : Host) (projectionName eventId : String) (op : OutboxOp) : Prop :=
  ∃ event, op.enqueued = some event ∧ event.eventId = eventId ∧
    ∃ spec ∈ projectionJobsForEvent host event, spec.projectionName = projectionName

def jobsFor (tables : OutboxTables) (projectionName eventId : String) : List ProjectionJob :=
  tables.jobs.rows.filter (ProjectionJob.isFor projectionName eventId)

/-- There is one job for each projection and event that was ever enqueued, and no other. -/
def OneJobEach (host : Host) (ops : List OutboxOp) (state : OutboxState) : Prop :=
  ∀ projectionName eventId,
    ((∃ op ∈ ops, Enqueues host projectionName eventId op) →
      (jobsFor state.tables projectionName eventId).length = 1) ∧
    ((∀ op ∈ ops, ¬ Enqueues host projectionName eventId op) →
      jobsFor state.tables projectionName eventId = [])

def LockedInProcessing (state : OutboxState) : Prop :=
  ∀ job ∈ state.tables.jobs.rows, job.LockedInHand

/-- A mark call changes a job only under its lock, and nothing at all once the lock is lost. -/
def MarksUnderLock (host : Host) (state : OutboxState) (op : OutboxOp) : Prop :=
  (∀ ownerId outboxId mark now, op = .beginMark ownerId outboxId mark now →
    (outboxNext host state op).tables = state.tables) ∧
  ∀ ownerId now pending, op = .finishMark ownerId now → state.marks ownerId = some pending →
    (∀ id, (outboxNext host state op).tables.jobs.find? id ≠ state.tables.jobs.find? id →
      HoldsLock state ownerId id) ∧
    (¬ HoldsLock state ownerId pending.outboxId →
      (outboxNext host state op).tables = state.tables)

def TerminalStays (host : Host) (state : OutboxState) (op : OutboxOp) : Prop :=
  ∀ id job, state.tables.jobs.find? id = some job → job.status.isTerminal = true →
    (outboxNext host state op).tables.jobs.find? id = some job

/-- With a job that a mark makes APPLIED the ledger records a success, if its event is stored. -/
def AppliedRecorded (host : Host) (state : OutboxState) (op : OutboxOp) : Prop :=
  ∀ ownerId now pending evidence, op = .finishMark ownerId now →
    state.marks ownerId = some pending → pending.mark = .applied evidence →
    ∀ before after, state.tables.jobs.find? pending.outboxId = some before →
      (outboxNext host state op).tables.jobs.find? pending.outboxId = some after →
      before.status ≠ .applied → after.status = .applied →
      (state.tables.ledger.events.find? after.eventId).isSome = true →
      ∃ result, (outboxNext host state op).tables.ledger.results.find?
          (after.projectionName, after.eventId) = some result ∧ result.status = .success

/-- The lifecycle of the jobs along a run from the empty outbox. -/
structure OutboxLaws (host : Host) (ops : List OutboxOp) : Prop where
  oneJobEach : ∀ before after, ops = before ++ after →
    OneJobEach host before ((outbox host).run emptyOutbox before)
  lockedInProcessing : (outbox host).Throughout LockedInProcessing emptyOutbox ops
  marksUnderLock : (outbox host).Along (MarksUnderLock host) emptyOutbox ops
  terminalStays : (outbox host).Along (TerminalStays host) emptyOutbox ops
  appliedRecorded : (outbox host).Along (AppliedRecorded host) emptyOutbox ops

/-- A worker that lost its lock between the two halves of a mark has no result to record: the mark
skips the job, or the event is not stored. -/
def NoStaleReport (state : OutboxState) (op : OutboxOp) : Prop :=
  ∀ ownerId now pending, op = .finishMark ownerId now → state.marks ownerId = some pending →
    ¬ HoldsLock state ownerId pending.outboxId →
    (pending.mark.report pending.row).isSome = true →
    state.tables.ledger.events.find? pending.row.eventId = none

/-! ## One job for each projection and event -/

theorem jobsFor_eq_nil (sound : JobsSound tables.jobs) (known : projectionName ∈ projectionNames)
    (free : ¬ (tables.jobs.find? (outboxId projectionName eventId)).isSome = true) :
    jobsFor tables projectionName eventId = [] := by
  rw [← sound.any_isFor_iff known, List.any_eq_true, not_exists] at free
  rw [jobsFor, List.filter_eq_nil_iff]
  exact fun job present isFor => free job ⟨present, isFor⟩

theorem length_jobsFor (sound : JobsSound tables.jobs) (known : projectionName ∈ projectionNames)
    (stored : (tables.jobs.find? (outboxId projectionName eventId)).isSome = true) :
    (jobsFor tables projectionName eventId).length = 1 := by
  have same : ∀ job ∈ tables.jobs.rows, job.isFor projectionName eventId = true ↔
      (job.outboxId == outboxId projectionName eventId) = true := by
    intro job present
    have jobSound := sound _ job (Table.find?_of_mem present)
    rw [beq_iff_eq, jobSound.identifier]
    simp only [ProjectionJob.isFor, Bool.and_eq_true, decide_eq_true_eq]
    constructor
    · rintro ⟨sameName, sameEvent⟩
      rw [sameName, sameEvent]
    · exact outboxId_injective jobSound.known known
  have counted : tables.jobs.rows.countP (ProjectionJob.isFor projectionName eventId) =
      (tables.jobs.rows.map Keyed.key).count (outboxId projectionName eventId) := by
    rw [List.count, List.countP_map]
    exact List.countP_congr same
  rw [jobsFor, ← List.countP_eq_length_filter, counted]
  apply List.count_eq_one_of_mem tables.jobs.nodup
  rcases Option.isSome_iff_exists.mp stored with ⟨job, found⟩
  exact List.mem_map.mpr ⟨job, Table.mem_of_find? found, Table.key_of_find? found⟩

theorem jobsFor_of_unknown (sound : JobsSound tables.jobs)
    (unknown : projectionName ∉ projectionNames) (eventId : String) :
    jobsFor tables projectionName eventId = [] := by
  rw [jobsFor, List.filter_eq_nil_iff]
  intro job present isFor
  simp only [ProjectionJob.isFor, Bool.and_eq_true, decide_eq_true_eq] at isFor
  exact unknown (isFor.1 ▸ (sound _ job (Table.find?_of_mem present)).known)

theorem reachable_outboxSound (host : Host) (ops : List OutboxOp) :
    OutboxSound ((outbox host).run emptyOutbox ops) := by
  apply System.run_invariant OutboxSound _ outboxSound_empty
  intro state op sound
  exact sound.next host op

/-- An identifier is taken exactly when its job was enqueued. -/
theorem stored_iff_enqueued (host : Host) (ops : List OutboxOp)
    (known : projectionName ∈ projectionNames) (eventId : String) :
    (((outbox host).run emptyOutbox ops).tables.jobs.find?
        (outboxId projectionName eventId)).isSome = true ↔
      ∃ op ∈ ops, Enqueues host projectionName eventId op := by
  induction ops using List.reverseRecOn with
  | nil => simp [emptyOutbox]
  | append_singleton ops op ih =>
      have sound := reachable_outboxSound host ops
      rw [System.run_append, System.run_cons, System.run_nil, next_outbox]
      simp only [List.mem_append, List.mem_singleton, or_and_right, exists_or, exists_eq_left]
      rw [← ih]
      generalize (outbox host).run emptyOutbox ops = state at sound ⊢
      constructor
      · intro stored
        cases before : state.tables.jobs.find? (outboxId projectionName eventId) with
        | some job => exact Or.inl rfl
        | none =>
            right
            rcases jobs_outboxNext sound.jobs op with
              ⟨event, rowid, now, enqueues, receives⟩ | ⟨_, moves⟩
            · rcases receives.absent _ before with missing | ⟨arrival, present, same, _⟩
              · rw [missing] at stored
                cases stored
              · rcases List.mem_map.mp present with ⟨spec, isSpec, rfl⟩
                rcases outboxId_injective (mem_projectionNames host event spec isSpec) known same
                  with ⟨sameName, sameEvent⟩
                exact ⟨event, enqueues, sameEvent, spec, isSpec, sameName⟩
            · rw [moves.absent _ before] at stored
              cases stored
      · rintro (stored | ⟨event, enqueues, rfl, spec, isSpec, rfl⟩)
        · rcases Option.isSome_iff_exists.mp stored with ⟨job, found⟩
          rcases stored_outboxNext sound.jobs op found with ⟨after, afterFound, _⟩
          exact Option.isSome_of_mem afterFound
        · rcases jobs_outboxNext sound.jobs op with
            ⟨other, rowid, now, same, receives⟩ | ⟨nothing, _⟩
          · rw [enqueues, Option.some.injEq] at same
            subst same
            exact receives.arrived _ (List.mem_map.mpr ⟨spec, isSpec, rfl⟩)
          · rw [enqueues] at nothing
            cases nothing

theorem one_job_each (host : Host) (ops : List OutboxOp) :
    OneJobEach host ops ((outbox host).run emptyOutbox ops) := by
  intro projectionName eventId
  have sound := (reachable_outboxSound host ops).jobs
  by_cases known : projectionName ∈ projectionNames
  · have stored := stored_iff_enqueued host ops known eventId
    constructor
    · intro enqueued
      exact length_jobsFor sound known (stored.mpr enqueued)
    · intro never
      apply jobsFor_eq_nil sound known
      intro isStored
      rcases stored.mp isStored with ⟨op, present, enqueues⟩
      exact never op present enqueues
  · refine ⟨?_, fun _ => jobsFor_of_unknown sound known eventId⟩
    rintro ⟨op, _, event, _, _, spec, isSpec, rfl⟩
    exact absurd (mem_projectionNames host event spec isSpec) known

/-! ## Marks -/

theorem strip_statusValue (status : OutboxStatus) : Text.strip status.value ≠ "" := by
  cases status <;> decide +kernel

theorem Mark.report_stated {mark : Mark} (isStated : mark.Stated) {row : ProjectionJob}
    (known : row.projectionName ∈ projectionNames) (eventId : Stripped row.eventId)
    {report : ResultReport} (reports : mark.report row = some report) :
    report.Stated ∧ report.projectionName = row.projectionName ∧
      report.eventId = row.eventId := by
  rcases projectionName_facts known with ⟨_, normal, nonempty⟩
  cases mark with
  | applied evidence =>
      rw [Mark.report, Option.some.injEq] at reports
      subst reports
      refine ⟨⟨normal, nonempty, eventId, ?_, ?_, rfl⟩, rfl, rfl⟩
      · show Text.strip "OUTBOX_APPLIED" ≠ ""
        decide +kernel
      · intro isError
        cases isError
  | skipped reason evidence => cases reports
  | error errorMessage retryLimit evidence =>
      rw [Mark.report, Option.some.injEq] at reports
      subst reports
      refine ⟨⟨normal, nonempty, eventId, strip_statusValue _, ?_, rfl⟩, rfl, rfl⟩
      intro _
      rw [Option.getD_some, isStated.strip_eq]
      exact isStated.ne_empty
  | retryableError errorMessage retryLimit evidence =>
      rw [Mark.report, Option.some.injEq] at reports
      subst reports
      refine ⟨⟨normal, nonempty, eventId, ?_, ?_, rfl⟩, rfl, rfl⟩
      · dsimp only
        split <;> decide +kernel
      · intro _
        rw [Option.getD_some, isStated.strip_eq]
        exact isStated.ne_empty

theorem finishMark_eq_ok {written : OutboxTables}
    (finishes : finishMark host tables ownerId pending now = .ok written) :
    ∃ ledger, recordMark tables.ledger (pending.mark.report pending.row) now = .ok ledger ∧
      written = { tables with
        ledger := ledger
        jobs := updateLocked tables.jobs pending.outboxId ownerId
          (pending.mark.change host pending.row (datetimeToWire pending.now))
          (outboxId_markChange host _ _ _) } := by
  simp only [finishMark, Checked.bind_eq_ok, pure, Except.pure, Except.ok.injEq] at finishes
  rcases finishes with ⟨ledger, records, rfl⟩
  exact ⟨ledger, records, rfl⟩

/-- The write of a mark fails and leaves the tables, or it records its result and updates the job
where the lock is still held. -/
theorem tables_finishMark (host : Host) (isMarking : state.marks ownerId = some pending)
    (now : Instant) :
    (outboxNext host state (.finishMark ownerId now)).tables = state.tables ∨
      ∃ ledger, recordMark state.tables.ledger (pending.mark.report pending.row) now =
          .ok ledger ∧
        (outboxNext host state (.finishMark ownerId now)).tables =
          { state.tables with
            ledger := ledger
            jobs := updateLocked state.tables.jobs pending.outboxId ownerId
              (pending.mark.change host pending.row (datetimeToWire pending.now))
              (outboxId_markChange host _ _ _) } := by
  simp only [outboxNext, isMarking]
  cases finishes : finishMark host state.tables ownerId pending now with
  | error failure => exact Or.inl rfl
  | ok written =>
      right
      rcases finishMark_eq_ok finishes with ⟨ledger, records, same⟩
      exact ⟨ledger, records, same⟩

theorem updateLocked_of_lost (lost : ¬ HoldsLock state ownerId id)
    {keeps : ∀ job, (change job).outboxId = job.outboxId} :
    updateLocked state.tables.jobs id ownerId change keeps = state.tables.jobs := by
  apply Table.updateWhere_of_forall
  intro job present
  by_contra met
  simp only [Bool.not_eq_false, Bool.and_eq_true, decide_eq_true_eq] at met
  have found : state.tables.jobs.find? job.outboxId = some job := Table.find?_of_mem present
  exact lost ⟨job, met.1 ▸ found, met.2⟩

theorem find?_updateLocked_of_ne {other : String} (different : other ≠ id)
    {keeps : ∀ job, (change job).outboxId = job.outboxId} :
    (updateLocked jobs id ownerId change keeps).find? other = jobs.find? other := by
  rw [updateLocked, Table.find?_updateWhere]
  cases found : jobs.find? other with
  | none => rfl
  | some job =>
      have sameId : job.outboxId = other := Table.key_of_find? found
      simp [sameId, different]

theorem holdsLock_of_changed (isMarking : state.marks ownerId = some pending)
    (changed : (outboxNext host state (.finishMark ownerId now)).tables.jobs.find? id ≠
      state.tables.jobs.find? id) : HoldsLock state ownerId id ∧ id = pending.outboxId := by
  rcases tables_finishMark host isMarking now with same | ⟨ledger, _, same⟩
  · rw [same] at changed
    exact absurd rfl changed
  · rw [same] at changed
    have isPending : id = pending.outboxId := by
      by_contra different
      apply changed
      rw [find?_updateLocked_of_ne different]
    subst isPending
    refine ⟨?_, rfl⟩
    by_contra lost
    exact changed (by rw [updateLocked_of_lost lost])

theorem OutboxSound.records (sound : OutboxSound state)
    (isMarking : state.marks ownerId = some pending) {report : ResultReport}
    (reports : pending.mark.report pending.row = some report) :
    report.Stated ∧ report.projectionName = pending.row.projectionName ∧
      report.eventId = pending.row.eventId := by
  rcases sound.marks ownerId pending isMarking with ⟨job, found, sameName, sameEvent⟩
  have jobSound := sound.jobs _ job found
  apply Mark.report_stated pending.stated _ _ reports
  · exact sameName ▸ jobSound.known
  · exact sameEvent ▸ jobSound.eventId

/-- A lost lock is harmless exactly when there is no result to record. -/
theorem OutboxSound.marksUnderLock_iff (sound : OutboxSound state) (host : Host) (op : OutboxOp) :
    MarksUnderLock host state op ↔ NoStaleReport state op := by
  constructor
  · rintro ⟨_, finishes⟩ ownerId now pending rfl isMarking lost reports
    have same := (finishes ownerId now pending rfl isMarking).2 lost
    rcases Option.isSome_iff_exists.mp reports with ⟨report, isReport⟩
    rcases sound.records isMarking isReport with ⟨stated, _, sameEvent⟩
    by_contra stored
    rw [← ne_eq, ← Option.isSome_iff_ne_none, ← sameEvent] at stored
    rcases stated.records stored now with ⟨ledger, row, success, _, _, _, upserts⟩
    -- the ledger counts the attempt, so the tables differ
    have records : recordMark state.tables.ledger (pending.mark.report pending.row) now =
        .ok ledger := by rw [isReport]; exact success
    have written : (outboxNext host state (.finishMark ownerId now)).tables.ledger = ledger := by
      simp only [outboxNext, isMarking, finishMark, records, bind, Except.bind, pure,
        Except.pure]
    rw [same] at written
    exact upsertEventResult_ne state.tables.ledger.results row (by rw [← upserts, ← written])
  · intro noReport
    constructor
    · rintro ownerId outboxId mark now rfl
      simp only [outboxNext]
      split
      · rfl
      · split <;> rfl
    · rintro ownerId now pending rfl isMarking
      refine ⟨fun id changed => (holdsLock_of_changed isMarking changed).1, ?_⟩
      intro lost
      rcases tables_finishMark host isMarking now with same | ⟨ledger, records, same⟩
      · exact same
      · have sameLedger : ledger = state.tables.ledger := by
          cases isReport : pending.mark.report pending.row with
          | none =>
              rw [isReport, recordMark, Except.ok.injEq] at records
              exact records.symm
          | some report =>
              rcases sound.records isMarking isReport with ⟨stated, _, sameEvent⟩
              have missing := noReport ownerId now pending rfl isMarking lost
                (Option.isSome_of_mem isReport)
              rw [isReport] at records
              exact stated.ignores (sameEvent ▸ missing) records
        rw [same, sameLedger, updateLocked_of_lost lost]

/-! ## The laws along a run -/

theorem OutboxSound.lockedInProcessing (sound : OutboxSound state) : LockedInProcessing state := by
  intro job present
  exact (sound.jobs _ job (Table.find?_of_mem present)).lockedInHand

theorem OutboxSound.terminalStays (sound : OutboxSound state) (host : Host) (op : OutboxOp) :
    TerminalStays host state op := by
  intro id job found isTerminal
  rcases stored_outboxNext sound.jobs op found with ⟨after, afterFound, move⟩
  rw [afterFound, move.terminal (sound.jobs id job found).lockedInHand isTerminal]

theorem OutboxSound.appliedRecorded (sound : OutboxSound state) (host : Host) (op : OutboxOp) :
    AppliedRecorded host state op := by
  rintro ownerId now pending evidence rfl isMarking isApplied before after found afterFound
    notYet nowApplied stored
  rcases sound.marks ownerId pending isMarking with ⟨job, jobFound, sameName, sameEvent⟩
  rw [found, Option.some.injEq] at jobFound
  subst jobFound
  rcases stored_outboxNext sound.jobs (.finishMark ownerId now) found with
    ⟨other, otherFound, move⟩
  rw [afterFound, Option.some.injEq] at otherFound
  subst otherFound
  rcases move.identity with ⟨_, afterName, afterEvent⟩
  rcases tables_finishMark host isMarking now with same | ⟨ledger, records, same⟩
  · rw [same, found, Option.some.injEq] at afterFound
    rw [afterFound] at notYet
    exact absurd nowApplied notYet
  · rw [isApplied, Mark.report, recordMark] at records
    have reports : (Mark.applied evidence).report pending.row = some _ := rfl
    rcases sound.records isMarking (isApplied ▸ reports) with ⟨stated, _, _⟩
    rw [afterEvent, sameEvent] at stored
    rcases stated.records stored now with
      ⟨written, row, success, rowName, rowEvent, rowStatus, upserts⟩
    rw [success, Except.ok.injEq] at records
    rcases find?_upsertEventResult_self state.tables.ledger.results row with
      ⟨result, resultFound, resultStatus, _⟩
    refine ⟨result, ?_, resultStatus.trans rowStatus⟩
    have key : (after.projectionName, after.eventId) = Keyed.key row := by
      rw [afterName, afterEvent, sameName, sameEvent]
      exact Prod.ext rowName.symm rowEvent.symm
    rw [same, key, ← records, upserts]
    exact resultFound

/-- The jobs of the outbox keep their lifecycle along a run exactly when no worker has a result to
record after it lost its lock. -/
theorem outbox_lifecycle_iff (host : Host) (ops : List OutboxOp) :
    OutboxLaws host ops ↔ (outbox host).Along NoStaleReport emptyOutbox ops := by
  have preserved : ∀ state op, OutboxSound state → OutboxSound ((outbox host).next state op) :=
    fun state op sound => sound.next host op
  constructor
  · intro laws
    refine System.Along.imp OutboxSound ?_ ?_ outboxSound_empty laws.marksUnderLock
    · exact fun state op sound _ => preserved state op sound
    · exact fun state op sound underLock => (sound.marksUnderLock_iff host op).mp underLock
  · intro noReports
    constructor
    · rintro before after rfl
      exact one_job_each host before
    · rintro before after rfl
      exact (reachable_outboxSound host before).lockedInProcessing
    · refine System.Along.imp OutboxSound ?_ ?_ outboxSound_empty noReports
      · exact fun state op sound _ => preserved state op sound
      · exact fun state op sound noReport => (sound.marksUnderLock_iff host op).mpr noReport
    · exact System.along_of_invariant preserved
        (fun state op sound => sound.terminalStays host op) outboxSound_empty ops
    · exact System.along_of_invariant preserved
        (fun state op sound => sound.appliedRecorded host op) outboxSound_empty ops

/-! ## A result recorded after the lock is lost -/

def sampleTick : GatewayEvent where
  eventId := "tick-1"
  eventType := "price_tick"
  source := "kiwoom"
  ts := 63900000000000000
  payload := []
  commandId := none
  idempotencyKey := none
  eventId_stripped := stripped_firstTick
  eventType_stripped := stripped_priceTick
  source_stripped := stripped_kiwoom
  commandId_stripped := strippedOption_none
  idempotencyKey_stripped := strippedOption_none

def sampleLedger : ResultLedger where
  events := (Table.empty.insert?
    { eventId := "tick-1", eventRowid := 1, eventType := "price_tick"
      receivedAt := "2025-11-18T10:40:00Z" }).getD .empty
  results := .empty
  watermarks := .empty

/-- A worker reads its lock, a reset gives the job to another worker, and the first one writes. -/
def overtakenRun : List OutboxOp :=
  [.elsewhere sampleLedger [],
    .enqueue sampleTick none 63900000000000000,
    .claim "worker-a" 1 0 none 63900000001000000,
    .beginMark "worker-a" "market_data:tick-1" (.applied []) 63900000002000000,
    .reset 60 63900000100000000,
    .claim "worker-b" 1 0 none 63900000101000000,
    .finishMark "worker-a" 63900000102000000]

theorem overtaken_state :
    (((outbox sampleHost).run emptyOutbox (overtakenRun.take 6)).marks "worker-a").any
      (fun pending => pending.outboxId = "market_data:tick-1") = true ∧
    (((outbox sampleHost).run emptyOutbox (overtakenRun.take 6)).tables.jobs.find?
      "market_data:tick-1").all (fun job => job.lockedBy = some "worker-b") = true := by
  decide +kernel

theorem overtaken_ledger :
    ((outbox sampleHost).run emptyOutbox (overtakenRun.take 6)).tables.ledger.results.rows.length
      = 0 ∧
    ((outbox sampleHost).run emptyOutbox overtakenRun).tables.ledger.results.rows.length = 1 := by
  decide +kernel

theorem overtaken_worker_records : ¬ OutboxLaws sampleHost overtakenRun := by
  intro laws
  have along := laws.marksUnderLock
  have lengths := overtaken_ledger
  have split : overtakenRun =
      overtakenRun.take 6 ++ [.finishMark "worker-a" 63900000102000000] := rfl
  rw [split, System.along_append] at along
  rw [split, System.run_append, ← split] at lengths
  rcases overtaken_state with ⟨isMarking, holder⟩
  generalize (outbox sampleHost).run emptyOutbox (overtakenRun.take 6) = state at *
  rw [Option.any_eq_true] at isMarking
  rcases isMarking with ⟨pending, marking, target⟩
  rw [decide_eq_true_eq] at target
  have lost : ¬ HoldsLock state "worker-a" pending.outboxId := by
    rintro ⟨job, found, locked⟩
    rw [target] at found
    simp [found, locked] at holder
  have same := (along.2.1.2 "worker-a" 63900000102000000 pending rfl marking).2 lost
  rw [System.run_cons, System.run_nil, next_outbox, same] at lengths
  exact absurd (lengths.1.symm.trans lengths.2) (by decide)

end SuseokTrader
