import SuseokTrader.Outbox.Jobs

/-!
# Retention of gateway events

Old events are deleted once every projection has taken them in. The deletion
selects them by one SQL predicate; the diagnosis of a single event collects the
reasons that keep it, and calls it eligible when there are none. The two are
compared here for every event of a type that may be deleted.
-/

namespace SuseokTrader

/-! ## Tables -/

/-- A row of the event store with its raw copy beside it. The store numbers its rows from one. -/
structure RetainedEvent where
  eventRowid : Int
  eventId : String
  eventType : String
  status : String
  commandId : Option String
  receivedAt : String
  payloadJson : String
  positive : 0 < eventRowid

instance : Keyed RetainedEvent String := ⟨RetainedEvent.eventId⟩

structure RetentionTables where
  events : Table RetainedEvent
  rawEvents : List String
  jobs : Table ProjectionJob
  results : Table ProjectionEventResult
  watermarks : Table ProjectionWatermark

def unconditionallyPrunableEventTypes : List String :=
  ["gateway_log", "heartbeat", "quote_tick"]

def projectionGatedEventTypes : List String :=
  ["condition_event", "market_index_tick", "market_scan", "market_symbols", "price_tick",
    "tr_response"]

def sortedSet (texts : List String) : List String :=
  texts.eraseDups.insertionSort (· ≤ ·)

def defaultPrunableEventTypes : List String :=
  sortedSet (unconditionallyPrunableEventTypes ++ projectionGatedEventTypes)

def normalizeEventTypes (eventTypes : List String) : Checked (List String) :=
  let normalized := sortedSet
    ((eventTypes.filter fun eventType => Text.strip eventType ≠ "").map normalizeEventType)
  if normalized = [] then Checked.invalid "at least one event_type is required"
  else
    let unknown := normalized.filter fun eventType => eventType ∉ defaultPrunableEventTypes
    if unknown ≠ [] then
      Checked.invalid ("unsupported retention event_types: [" ++
        String.intercalate ", " (unknown.map fun eventType => "'" ++ eventType ++ "'") ++ "]")
    else .ok normalized

/-! ## The predicate of the deletion -/

variable (tables : RetentionTables)

variable (event : RetainedEvent)

/-- A job that keeps its event: not applied, not recorded as a success, or not yet passed by
the watermark of its projection. -/
def isBlockedJob (job : ProjectionJob) : Bool :=
  job.status ≠ .applied ||
    (match tables.results.find? (job.projectionName, event.eventId) with
    | none => true
    | some result => result.status ≠ .success) ||
    match tables.watermarks.find? job.projectionName with
    | none => true
    | some watermark => watermark.lastSuccessEventRowid < event.eventRowid

def projectionRetentionReadySql : Bool :=
  event.commandId = none &&
    tables.rawEvents.contains event.eventId &&
    (event.status ≠ "ACCEPTED" ||
      unconditionallyPrunableEventTypes.contains event.eventType ||
      (projectionGatedEventTypes.contains event.eventType &&
        (tables.jobs.rows.any fun job => job.eventId = event.eventId) &&
        !tables.jobs.rows.any fun job =>
          job.eventId = event.eventId && isBlockedJob tables event job))

/-- The conditions of the deletion: the age, by the texts of the two times, the type, and the
predicate. -/
def isRetentionEligible (cutoffAt : String) (eventTypes : List String)
    (event : RetainedEvent) : Bool :=
  event.receivedAt < cutoffAt && eventTypes.contains event.eventType &&
    projectionRetentionReadySql tables event

def selectRetentionEligibleEventIds (cutoffAt : String)
    (eventTypes : List String) (limit : Int) : Checked (List String) := do
  let normalized ← normalizeEventTypes eventTypes
  let rows := tables.events.rows.filter (isRetentionEligible tables cutoffAt normalized)
  let ordered := rows.insertionSort fun left right => left.eventRowid ≤ right.eventRowid
  return (ordered.map RetainedEvent.eventId).take (max limit 1).toNat

/-! ## The diagnosis of an event -/

def timestampBefore (value cutoffAt : String) : Bool :=
  match parseTimestamp (.str value) "received_at", parseTimestamp (.str cutoffAt) "cutoff_at" with
  | .ok value, .ok cutoffAt => value < cutoffAt
  | _, _ => value < cutoffAt

def successWatermarkRowid (projectionName : String) : Int :=
  (tables.watermarks.find? projectionName).elim 0 ProjectionWatermark.lastSuccessEventRowid

def errorWatermarkRowid (projectionName : String) : Int :=
  (tables.watermarks.find? projectionName).elim 0 ProjectionWatermark.lastErrorEventRowid

def detailReasons (job : ProjectionJob) :
    List String :=
  (if job.status ≠ .applied then ["PROJECTION_OUTBOX_NOT_APPLIED"] else []) ++
  (match tables.results.find? (job.projectionName, event.eventId) with
    | none => ["PROJECTION_RESULT_MISSING"]
    | some result => if result.status ≠ .success then ["PROJECTION_RESULT_ERROR"] else []) ++
  if successWatermarkRowid tables job.projectionName < event.eventRowid then
    ["PROJECTION_SUCCESS_WATERMARK_BEHIND"]
  else []

structure ProjectionDetail where
  projectionName : String
  outboxStatus : OutboxStatus
  outboxError : Option String
  outboxAttempts : Int
  resultStatus : Option ProjectionResultStatus
  resultOutcome : Option String
  resultError : Option String
  resultProcessedAt : Option String
  successWatermarkRowid : Int
  errorWatermarkRowid : Int
  retentionReady : Bool
  reasonCodes : List String

def projectionDetail (job : ProjectionJob) :
    ProjectionDetail :=
  let result := tables.results.find? (job.projectionName, event.eventId)
  { projectionName := job.projectionName
    outboxStatus := job.status
    outboxError := job.lastError
    outboxAttempts := job.attempts
    resultStatus := result.map ProjectionEventResult.status
    resultOutcome := result.map ProjectionEventResult.outcome
    resultError := result.bind ProjectionEventResult.errorMessage
    resultProcessedAt := result.map ProjectionEventResult.processedAt
    successWatermarkRowid := successWatermarkRowid tables job.projectionName
    errorWatermarkRowid := errorWatermarkRowid tables job.projectionName
    retentionReady := detailReasons tables event job = []
    reasonCodes := detailReasons tables event job }

def jobsOfEvent (eventId : String) : List ProjectionJob :=
  (tables.jobs.rows.filter fun job => job.eventId = eventId).insertionSort
    fun left right => left.projectionName ≤ right.projectionName

variable (host : Host)

def venueOf (value : Json) : List String :=
  let normalized := Text.upper (Text.strip (Json.textOrEmpty host value))
  if normalized ∈ ["KRX", "NXT"] then [normalized]
  else if normalized ≠ "" then ["UNKNOWN"]
  else []

def payloadVenues (payload : Payload) : List String :=
  let metadata := payload.mapping "metadata"
  let rows : List Json := match payload.get "rows" with
    | .arr rows => rows
    | _ => []
  (venueOf host (payload.get "exchange") ++ venueOf host (metadata.get "exchange") ++
    venueOf host (metadata.get "venue") ++ rows.flatMap fun row =>
      match row with
      | .obj row => venueOf host (Json.get row "exchange") ++ venueOf host (Json.get row "venue")
      | _ => []).eraseDups

def eventVenue (eventType payloadJson : String) : String :=
  match Json.loads host.floatRepr (if payloadJson = "" then "\x7b\x7d" else payloadJson) with
  | some (.obj payload) =>
      if eventType = "condition_event" then "KRX"
      else
        match payloadVenues host payload with
        | [] => if eventType = "price_tick" then "KRX" else "UNKNOWN"
        | [venue] => venue
        | _ => "MIXED"
  | _ => "UNKNOWN"

structure EventRca where
  eventRowid : Int
  eventId : String
  eventType : String
  gatewayEventStatus : String
  receivedAt : String
  ageEligible : Bool
  projectionGated : Bool
  requiredProjectionCount : Nat
  projectionDetails : List ProjectionDetail
  retentionEligible : Bool
  replayAvailable : Bool
  venue : String
  reasonCodes : List String

def isGatedEvent : Bool :=
  projectionGatedEventTypes.contains event.eventType && event.status = "ACCEPTED"

/-- The reasons that keep an event. Those of its jobs count for every event, gated or not. -/
def retentionReasons (cutoffAt : String) (eventTypes : List String)
    (event : RetainedEvent) : List String :=
  let jobs := jobsOfEvent tables event.eventId
  (if eventTypes.contains event.eventType then [] else ["EVENT_TYPE_NOT_PRUNABLE"]) ++
  (if event.commandId ≠ none then ["COMMAND_LINKED_EVENT_PROTECTED"] else []) ++
  (if tables.rawEvents.contains event.eventId then [] else ["RAW_EVENT_MISSING"]) ++
  (if timestampBefore event.receivedAt cutoffAt then [] else ["EVENT_NOT_OLD_ENOUGH"]) ++
  (if isGatedEvent event && jobs.isEmpty then ["PROJECTION_OUTBOX_MISSING"] else []) ++
  jobs.flatMap (detailReasons tables event)

def eventRca (tables : RetentionTables) (cutoffAt : String)
    (eventTypes : List String) (event : RetainedEvent) : EventRca :=
  let jobs := jobsOfEvent tables event.eventId
  let gated := isGatedEvent event
  let reasonCodes := sortedSet (retentionReasons tables cutoffAt eventTypes event)
  { eventRowid := event.eventRowid
    eventId := event.eventId
    eventType := event.eventType
    gatewayEventStatus := event.status
    receivedAt := event.receivedAt
    ageEligible := timestampBefore event.receivedAt cutoffAt
    projectionGated := gated
    requiredProjectionCount := if gated then jobs.length else 0
    projectionDetails := if gated then jobs.map (projectionDetail tables event) else []
    retentionEligible := reasonCodes = []
    replayAvailable := tables.rawEvents.contains event.eventId
    venue := eventVenue host event.eventType event.payloadJson
    reasonCodes := if reasonCodes = [] then ["RETENTION_ELIGIBLE"] else reasonCodes }

/-! ## What the two judge -/

section Judged

variable {tables : RetentionTables} {cutoffAt : String} {eventTypes : List String}
  {event : RetainedEvent}

/-- The job is applied, its result is a success, and the watermark of successes has come to
the event. -/
structure JobReady (tables : RetentionTables) (event : RetainedEvent) (job : ProjectionJob) :
    Prop where
  applied : job.status = .applied
  succeeded : ∃ result, tables.results.find? (job.projectionName, event.eventId) = some result ∧
    result.status = .success
  passed : ∃ watermark, tables.watermarks.find? job.projectionName = some watermark ∧
    event.eventRowid ≤ watermark.lastSuccessEventRowid

def JobsReady (tables : RetentionTables) (event : RetainedEvent) : Prop :=
  ∀ job ∈ tables.jobs.rows, job.eventId = event.eventId → JobReady tables event job

def HasJob (tables : RetentionTables) (event : RetainedEvent) : Prop :=
  ∃ job ∈ tables.jobs.rows, job.eventId = event.eventId

def Unprotected (tables : RetentionTables) (eventTypes : List String) (event : RetainedEvent) :
    Prop :=
  event.eventType ∈ eventTypes ∧ event.commandId = none ∧ event.eventId ∈ tables.rawEvents

theorem isBlockedJob_eq_false (job : ProjectionJob) :
    isBlockedJob tables event job = false ↔ JobReady tables event job := by
  constructor
  · intro ready
    simp only [isBlockedJob, Bool.or_eq_false_iff, decide_eq_false_iff_not, not_not] at ready
    rcases ready with ⟨⟨applied, succeeded⟩, passed⟩
    refine ⟨applied, ?_, ?_⟩
    · cases found : tables.results.find? (job.projectionName, event.eventId) with
      | none => simp [found] at succeeded
      | some result => exact ⟨result, rfl, by simpa [found] using succeeded⟩
    · cases found : tables.watermarks.find? job.projectionName with
      | none => simp [found] at passed
      | some watermark => exact ⟨watermark, rfl, by simpa [found] using passed⟩
  · intro ready
    rcases ready.succeeded with ⟨result, found, success⟩
    rcases ready.passed with ⟨watermark, isWatermark, passed⟩
    simp [isBlockedJob, ready.applied, found, success, isWatermark, passed]

theorem detailReasons_eq_nil (job : ProjectionJob) :
    detailReasons tables event job = [] ↔ JobReady tables event job := by
  have positive := event.positive
  constructor
  · intro none
    simp only [detailReasons, List.append_eq_nil_iff] at none
    rcases none with ⟨⟨applied, succeeded⟩, passed⟩
    refine ⟨by simpa using applied, ?_, ?_⟩
    · cases found : tables.results.find? (job.projectionName, event.eventId) with
      | none => simp [found] at succeeded
      | some result => exact ⟨result, rfl, by simpa [found] using succeeded⟩
    · cases found : tables.watermarks.find? job.projectionName with
      | none => simp [successWatermarkRowid, found, positive] at passed
      | some watermark =>
          exact ⟨watermark, rfl, by simpa [successWatermarkRowid, found] using passed⟩
  · intro ready
    rcases ready.succeeded with ⟨result, found, success⟩
    rcases ready.passed with ⟨watermark, isWatermark, passed⟩
    simp [detailReasons, ready.applied, found, success, successWatermarkRowid, isWatermark, passed]

theorem mem_jobsOfEvent {eventId : String} {job : ProjectionJob} :
    job ∈ jobsOfEvent tables eventId ↔ job ∈ tables.jobs.rows ∧ job.eventId = eventId := by
  simp [jobsOfEvent]

theorem isEmpty_jobsOfEvent :
    (jobsOfEvent tables event.eventId).isEmpty = true ↔ ¬ HasJob tables event := by
  rw [List.isEmpty_iff, List.eq_nil_iff_forall_not_mem, HasJob, not_exists]
  simp only [mem_jobsOfEvent]

theorem sortedSet_eq_nil {texts : List String} : sortedSet texts = [] ↔ texts = [] := by
  rw [sortedSet, ← List.length_eq_zero_iff, List.length_insertionSort, List.length_eq_zero_iff]
  constructor
  · intro none
    rw [List.eq_nil_iff_forall_not_mem] at none ⊢
    simpa using none
  · intro none
    simp [none]

theorem retentionReasons_eq_nil :
    retentionReasons tables cutoffAt eventTypes event = [] ↔
      timestampBefore event.receivedAt cutoffAt = true ∧ Unprotected tables eventTypes event ∧
        (isGatedEvent event = true → HasJob tables event) ∧ JobsReady tables event := by
  simp only [retentionReasons, List.append_eq_nil_iff, List.flatMap_eq_nil_iff, mem_jobsOfEvent,
    detailReasons_eq_nil]
  have ofType : ((if eventTypes.contains event.eventType then []
      else ["EVENT_TYPE_NOT_PRUNABLE"]) = ([] : List String)) ↔ event.eventType ∈ eventTypes := by
    simp
  have ofCommand : ((if event.commandId ≠ none then ["COMMAND_LINKED_EVENT_PROTECTED"]
      else []) = ([] : List String)) ↔ event.commandId = none := by
    simp
  have ofRaw : ((if tables.rawEvents.contains event.eventId then []
      else ["RAW_EVENT_MISSING"]) = ([] : List String)) ↔ event.eventId ∈ tables.rawEvents := by
    simp
  have ofAge : ((if timestampBefore event.receivedAt cutoffAt then []
      else ["EVENT_NOT_OLD_ENOUGH"]) = ([] : List String)) ↔
        timestampBefore event.receivedAt cutoffAt = true := by
    simp
  have ofJobs : ((if isGatedEvent event && (jobsOfEvent tables event.eventId).isEmpty then
      ["PROJECTION_OUTBOX_MISSING"] else []) = ([] : List String)) ↔
        (isGatedEvent event = true → HasJob tables event) := by
    have isEmpty := @isEmpty_jobsOfEvent tables event
    simp only [ite_eq_right_iff, Bool.and_eq_true, isEmpty, List.cons_ne_nil, imp_false, not_and,
      not_not]
  rw [ofType, ofCommand, ofRaw, ofAge, ofJobs]
  constructor
  · rintro ⟨⟨⟨⟨⟨isType, noCommand⟩, hasRaw⟩, old⟩, hasJob⟩, ready⟩
    exact ⟨old, ⟨isType, noCommand, hasRaw⟩, hasJob, fun job isJob same => ready job ⟨isJob, same⟩⟩
  · rintro ⟨old, ⟨isType, noCommand, hasRaw⟩, hasJob, ready⟩
    refine ⟨⟨⟨⟨⟨isType, noCommand⟩, hasRaw⟩, old⟩, hasJob⟩, ?_⟩
    intro job isJob
    exact ready job isJob.1 isJob.2

/-- An event is diagnosed as eligible when none of its jobs, whatever its type and its status, is
left behind. -/
theorem retentionEligible_iff (host : Host) :
    (eventRca host tables cutoffAt eventTypes event).retentionEligible = true ↔
      timestampBefore event.receivedAt cutoffAt = true ∧ Unprotected tables eventTypes event ∧
        (isGatedEvent event = true → HasJob tables event) ∧ JobsReady tables event := by
  rw [← retentionReasons_eq_nil, ← sortedSet_eq_nil]
  exact decide_eq_true_iff

/-- The deletion looks at the jobs of accepted events of a gated type alone. -/
theorem isRetentionEligible_iff (prunable : event.eventType ∈ defaultPrunableEventTypes) :
    isRetentionEligible tables cutoffAt eventTypes event = true ↔
      event.receivedAt < cutoffAt ∧ Unprotected tables eventTypes event ∧
        (isGatedEvent event = true → HasJob tables event ∧ JobsReady tables event) := by
  have types : event.eventType ∈ unconditionallyPrunableEventTypes ∨
      event.eventType ∈ projectionGatedEventTypes := by
    simpa [defaultPrunableEventTypes, sortedSet]
      using prunable
  have apart : event.eventType ∈ unconditionallyPrunableEventTypes →
      event.eventType ∉ projectionGatedEventTypes := by
    have disjoint : ∀ eventType ∈ unconditionallyPrunableEventTypes,
        eventType ∉ projectionGatedEventTypes := by decide
    exact disjoint event.eventType
  have someJob : (tables.jobs.rows.any fun job => job.eventId = event.eventId) = true ↔
      HasJob tables event := by
    simp [HasJob]
  have noBlocked : (tables.jobs.rows.any fun job =>
      job.eventId = event.eventId && isBlockedJob tables event job) = false ↔
        JobsReady tables event := by
    simp [JobsReady, ← isBlockedJob_eq_false]
  simp only [isRetentionEligible, projectionRetentionReadySql, isGatedEvent, Bool.and_eq_true,
    Bool.or_eq_true, Bool.not_eq_true', decide_eq_true_eq, List.contains_iff_mem, someJob,
    noBlocked]
  constructor
  · rintro ⟨⟨old, isType⟩, ⟨noCommand, hasRaw⟩, judged⟩
    refine ⟨old, ⟨isType, noCommand, hasRaw⟩, ?_⟩
    rintro ⟨gated, accepted⟩
    rcases judged with (rejected | ungated) | ⟨⟨_, hasJob⟩, ready⟩
    · exact absurd accepted rejected
    · exact absurd gated (apart ungated)
    · exact ⟨hasJob, ready⟩
  · rintro ⟨old, ⟨isType, noCommand, hasRaw⟩, judged⟩
    refine ⟨⟨old, isType⟩, ⟨noCommand, hasRaw⟩, ?_⟩
    by_cases accepted : event.status = "ACCEPTED"
    · rcases types with ungated | gated
      · exact Or.inl (Or.inr ungated)
      · have jobs := judged ⟨gated, accepted⟩
        exact Or.inr ⟨⟨gated, jobs.1⟩, jobs.2⟩
    · exact Or.inl (Or.inl accepted)

theorem mem_selectRetentionEligibleEventIds {limit : Int} {normalized ids : List String}
    (isTypes : normalizeEventTypes eventTypes = .ok normalized)
    (room : tables.events.rows.length ≤ limit.toNat)
    (selects : selectRetentionEligibleEventIds tables cutoffAt eventTypes limit = .ok ids)
    {eventId : String} :
    eventId ∈ ids ↔ ∃ event ∈ tables.events.rows, event.eventId = eventId ∧
      isRetentionEligible tables cutoffAt normalized event = true := by
  simp only [selectRetentionEligibleEventIds, isTypes, bind, Except.bind, pure, Except.pure,
    Except.ok.injEq] at selects
  rw [← selects, List.take_of_length_le]
  · simp only [List.mem_map, List.mem_insertionSort, List.mem_filter]
    constructor
    · rintro ⟨event, ⟨isEvent, eligible⟩, isId⟩
      exact ⟨event, isEvent, isId, eligible⟩
    · rintro ⟨event, isEvent, isId, eligible⟩
      exact ⟨event, ⟨isEvent, eligible⟩, isId⟩
  · have fewer := List.length_filter_le (isRetentionEligible tables cutoffAt normalized)
      tables.events.rows
    simp only [List.length_map, List.length_insertionSort]
    omega

/-- Where the event may be judged on its age alone, the texts of its two times compare as their
instants; and where an event that is not gated has a job left behind, its text is not before that
of the cutoff. -/
structure JudgedAlike (tables : RetentionTables) (cutoffAt : String) (eventTypes : List String)
    (event : RetainedEvent) : Prop where
  times : Unprotected tables eventTypes event → JobsReady tables event →
    (isGatedEvent event = true → HasJob tables event) →
      (event.receivedAt < cutoffAt ↔ timestampBefore event.receivedAt cutoffAt = true)
  ungated : Unprotected tables eventTypes event → ¬ JobsReady tables event →
    isGatedEvent event = false → ¬ event.receivedAt < cutoffAt

theorem retention_rca_agrees_iff (tables : RetentionTables) (cutoffAt : String)
    (eventTypes : List String) (event : RetainedEvent)
    (prunable : event.eventType ∈ defaultPrunableEventTypes) :
    ((eventRca host tables cutoffAt eventTypes event).retentionEligible = true ↔
      isRetentionEligible tables cutoffAt eventTypes event = true) ↔
        JudgedAlike tables cutoffAt eventTypes event := by
  rw [retentionEligible_iff, isRetentionEligible_iff prunable]
  constructor
  · intro agree
    refine ⟨?_, ?_⟩
    · intro unprotected ready hasJob
      constructor
      · intro old
        exact (agree.mpr ⟨old, unprotected, fun gated => ⟨hasJob gated, ready⟩⟩).1
      · intro old
        exact (agree.mp ⟨old, unprotected, hasJob, ready⟩).1
    · intro unprotected behind notGated old
      have eligible := agree.mpr ⟨old, unprotected, fun gated => by simp [notGated] at gated⟩
      exact behind eligible.2.2.2
  · intro alike
    constructor
    · rintro ⟨old, unprotected, hasJob, ready⟩
      exact ⟨(alike.times unprotected ready hasJob).mpr old, unprotected,
        fun gated => ⟨hasJob gated, ready⟩⟩
    · rintro ⟨old, unprotected, judged⟩
      have ready : JobsReady tables event := by
        cases isGated : isGatedEvent event with
        | true => exact (judged isGated).2
        | false =>
            by_contra behind
            exact alike.ungated unprotected behind isGated old
      have hasJob : isGatedEvent event = true → HasJob tables event :=
        fun gated => (judged gated).1
      exact ⟨(alike.times unprotected ready hasJob).mp old, unprotected, hasJob, ready⟩

end Judged

/-! ## An event of a whole second -/

def silentHost : Host where
  floatRepr := id
  float := fun _ => none
  floatOfInt := fun value => some (.finite value)
  reprText := id
  database := none

def wholeSecondEvent : RetainedEvent where
  eventRowid := 1
  eventId := "evt-1"
  eventType := "heartbeat"
  status := "ACCEPTED"
  commandId := none
  receivedAt := "2026-07-01T00:00:00Z"
  payloadJson := ""
  positive := by decide

def tablesOfWholeSecond : RetentionTables where
  events := Table.empty.upsert wholeSecondEvent
  rawEvents := ["evt-1"]
  jobs := Table.empty
  results := Table.empty
  watermarks := Table.empty

/-- Half a second later the event is old by its instant, and not old by its text. -/
theorem whole_second_is_old_for_rca_alone :
    ¬ ((eventRca silentHost tablesOfWholeSecond "2026-07-01T00:00:00.500000Z"
        defaultPrunableEventTypes wholeSecondEvent).retentionEligible = true ↔
      isRetentionEligible tablesOfWholeSecond "2026-07-01T00:00:00.500000Z"
        defaultPrunableEventTypes wholeSecondEvent = true) := by
  decide +kernel

/-- A second later both call it old. -/
theorem whole_second_is_old_a_second_later :
    (eventRca silentHost tablesOfWholeSecond "2026-07-01T00:00:01Z" defaultPrunableEventTypes
      wholeSecondEvent).retentionEligible = true ↔
        isRetentionEligible tablesOfWholeSecond "2026-07-01T00:00:01Z" defaultPrunableEventTypes
          wholeSecondEvent = true := by
  have old : "2026-07-01T00:00:00Z" < "2026-07-01T00:00:01Z" ↔
      timestampBefore "2026-07-01T00:00:00Z" "2026-07-01T00:00:01Z" = true := by decide +kernel
  have noJob : JobsReady tablesOfWholeSecond wholeSecondEvent := by
    intro job isJob
    exact absurd isJob List.not_mem_nil
  apply (retention_rca_agrees_iff silentHost tablesOfWholeSecond "2026-07-01T00:00:01Z"
    defaultPrunableEventTypes wholeSecondEvent (by decide +kernel)).mpr
  exact ⟨fun _ _ _ => old, fun _ behind => absurd noJob behind⟩

end SuseokTrader
