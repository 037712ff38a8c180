import SuseokTrader.Outbox.EventResults

/-!
# Runs of recorded results

Results of one projection are recorded in any order and any number of times,
among results of other projections and the events that are stored. The row of
an event is that of its last record, and the watermark stands at the greatest
rowid that has succeeded and at the greatest that has failed: of the successes
at the first record that came to it, of the errors at the last.
-/

namespace SuseokTrader

/-! ## Rows of the greatest level -/

section Greatest

variable {α : Type*} {level : α → Int} {items : List α} {item : α}

theorem last_of_argmax_reverse (isGreatest : items.reverse.argmax level = some item) :
    ∃ before after, items = before ++ item :: after ∧
      (∀ other ∈ before, level other ≤ level item) ∧
      ∀ other ∈ after, level other < level item := by
  induction items using List.reverseRecOn generalizing item with
  | nil => simp at isGreatest
  | append_singleton items last ih =>
      rw [List.reverse_concat, List.argmax_cons] at isGreatest
      cases former : items.reverse.argmax level with
      | none =>
          simp only [List.argmax_eq_none, List.reverse_eq_nil_iff] at former
          simp only [former, List.reverse_nil, List.argmax_nil, Option.some.injEq] at isGreatest
          refine ⟨[], [], ?_, ?_, ?_⟩
          · simp [former, isGreatest]
          · simp
          · simp
      | some greatest =>
          simp only [former] at isGreatest
          rcases ih former with ⟨before, after, splits, below, lower⟩
          split at isGreatest
          · next drops =>
              rw [Option.some.injEq] at isGreatest
              subst isGreatest
              refine ⟨before, after ++ [last], ?_, below, ?_⟩
              · simp [splits]
              · intro other isAfter
                rw [List.mem_append, List.mem_singleton] at isAfter
                rcases isAfter with isAfter | rfl
                · exact lower other isAfter
                · exact drops
          · next rises =>
              rw [Option.some.injEq] at isGreatest
              subst isGreatest
              refine ⟨items, [], rfl, ?_, ?_⟩
              · intro other isBefore
                have atMost : level other ≤ level greatest :=
                  List.le_of_mem_argmax (List.mem_reverse.mpr isBefore) former
                exact atMost.trans (not_lt.mp rises)
              · simp

end Greatest

/-! ## One record -/

structure RecordedCall where
  projectionName : String
  eventId : String
  rowid : Int
  status : ProjectionResultStatus
  message : String

/-- What a call records: nothing where it raises, and nothing of an event that is not stored. -/
def recordedCall (ledger : ResultLedger) (report : ResultReport) (now : Instant) :
    Option RecordedCall :=
  match recordProjectionEventResult ledger report now with
  | .error _ => none
  | .ok _ =>
      (resolveEventPosition ledger.events (Text.strip report.eventId) report.eventRowid
        report.eventType report.eventReceivedAt).map fun position =>
          { projectionName := Text.lower (Text.strip report.projectionName)
            eventId := Text.strip report.eventId
            rowid := position.eventRowid
            status := report.status
            message := report.errorMessage.getD "" }

/-- A call that raises leaves the ledger as it was. -/
def ledgerAfterCall (ledger : ResultLedger) (report : ResultReport) (now : Instant) :
    ResultLedger :=
  match recordProjectionEventResult ledger report now with
  | .ok written => written
  | .error _ => ledger

def getProjectionWatermark (watermarks : Table ProjectionWatermark) (projectionName : String) :
    ProjectionWatermark :=
  (watermarks.find? projectionName).getD (freshWatermark projectionName "")

structure SuccessFields where
  lastEventRowid : Int
  lastEventId : Option String
  lastEventReceivedAt : Option String
  lastSuccessEventRowid : Int
  lastSuccessEventId : Option String
  lastSuccessEventReceivedAt : Option String
  lastSuccessProcessedAt : Option String

structure ErrorFields where
  lastErrorEventRowid : Int
  lastErrorEventId : Option String
  lastErrorEventReceivedAt : Option String
  lastErrorProcessedAt : Option String
  lastErrorMessage : Option String

def ProjectionWatermark.successFields (row : ProjectionWatermark) : SuccessFields where
  lastEventRowid := row.lastEventRowid
  lastEventId := row.lastEventId
  lastEventReceivedAt := row.lastEventReceivedAt
  lastSuccessEventRowid := row.lastSuccessEventRowid
  lastSuccessEventId := row.lastSuccessEventId
  lastSuccessEventReceivedAt := row.lastSuccessEventReceivedAt
  lastSuccessProcessedAt := row.lastSuccessProcessedAt

def ProjectionWatermark.errorFields (row : ProjectionWatermark) : ErrorFields where
  lastErrorEventRowid := row.lastErrorEventRowid
  lastErrorEventId := row.lastErrorEventId
  lastErrorEventReceivedAt := row.lastErrorEventReceivedAt
  lastErrorProcessedAt := row.lastErrorProcessedAt
  lastErrorMessage := row.lastErrorMessage

variable {projectionName : String} {ledger : ResultLedger} {calls : List RecordedCall}

variable (watermarks : Table ProjectionWatermark)

theorem find?_ensureWatermarkRow_of_ne {other : String}
    (different : other ≠ projectionName) (now : String) :
    (ensureWatermarkRow watermarks projectionName now).find? other = watermarks.find? other := by
  rw [ensureWatermarkRow]
  cases inserts : watermarks.insert? (freshWatermark projectionName now) with
  | some inserted => exact Table.find?_of_insert?_of_ne inserts different.symm
  | none => rfl

section Advances

variable (watermarks : Table ProjectionWatermark) (projectionName : String) (rowid : Int)
  (eventId receivedAt : Option String) (message : String) (now : Instant)

theorem lastSuccess_advance :
    let row := getProjectionWatermark watermarks projectionName
    let advanced := getProjectionWatermark (advanceProjectionWatermark watermarks projectionName
      rowid eventId receivedAt now) projectionName
    (row.lastSuccessEventRowid < max rowid 0 →
      advanced.lastSuccessEventRowid = max rowid 0 ∧ advanced.lastSuccessEventId = eventId) ∧
    (¬ row.lastSuccessEventRowid < max rowid 0 →
      advanced.lastSuccessEventRowid = row.lastSuccessEventRowid ∧
        advanced.lastSuccessEventId = row.lastSuccessEventId) := by
  have found := find?_ensureWatermarkRow watermarks projectionName (datetimeToWire now)
  simp only [getProjectionWatermark, advanceProjectionWatermark]
  rw [Table.find?_update_self found]
  cases watermarks.find? projectionName with
  | none =>
      constructor
      · intro later
        simp only [Option.getD_none, freshWatermark] at later ⊢
        simp [later]
      · intro earlier
        simp only [Option.getD_none, freshWatermark] at earlier ⊢
        simp [earlier]
  | some row =>
      constructor
      · intro later
        simp only [Option.getD_some] at later ⊢
        simp [later]
      · intro earlier
        simp only [Option.getD_some] at earlier ⊢
        simp [earlier]

theorem lastError_advance :
    let row := getProjectionWatermark watermarks projectionName
    let advanced := getProjectionWatermark (advanceProjectionErrorWatermark watermarks
      projectionName rowid eventId receivedAt message now) projectionName
    (row.lastErrorEventRowid ≤ max rowid 0 →
      advanced.lastErrorEventRowid = max rowid 0 ∧ advanced.lastErrorEventId = eventId ∧
        advanced.lastErrorMessage = some message) ∧
    (¬ row.lastErrorEventRowid ≤ max rowid 0 →
      advanced.lastErrorEventRowid = row.lastErrorEventRowid ∧
        advanced.lastErrorEventId = row.lastErrorEventId ∧
        advanced.lastErrorMessage = row.lastErrorMessage) := by
  have found := find?_ensureWatermarkRow watermarks projectionName (datetimeToWire now)
  simp only [getProjectionWatermark, advanceProjectionErrorWatermark]
  rw [Table.find?_update_self found]
  cases watermarks.find? projectionName with
  | none =>
      constructor
      · intro later
        simp only [freshWatermark] at later ⊢
        simp
      · intro earlier
        simp only [Option.getD_none, freshWatermark] at earlier ⊢
        simp [earlier]
  | some row =>
      constructor
      · intro later
        simp only [Option.getD_some] at later ⊢
        simp [later]
      · intro earlier
        simp only [Option.getD_some] at earlier ⊢
        simp [earlier]

theorem errorFields_advance :
    (getProjectionWatermark (advanceProjectionWatermark watermarks projectionName rowid eventId
      receivedAt now) projectionName).errorFields =
        (getProjectionWatermark watermarks projectionName).errorFields := by
  have found := find?_ensureWatermarkRow watermarks projectionName (datetimeToWire now)
  simp only [getProjectionWatermark, advanceProjectionWatermark]
  generalize datetimeToWire now = clock at found ⊢
  rw [Table.find?_update_self found]
  cases watermarks.find? projectionName with
  | none => rfl
  | some row => rfl

theorem successFields_advanceError :
    (getProjectionWatermark (advanceProjectionErrorWatermark watermarks projectionName rowid
      eventId receivedAt message now) projectionName).successFields =
        (getProjectionWatermark watermarks projectionName).successFields := by
  have found := find?_ensureWatermarkRow watermarks projectionName (datetimeToWire now)
  simp only [getProjectionWatermark, advanceProjectionErrorWatermark]
  generalize datetimeToWire now = clock at found ⊢
  rw [Table.find?_update_self found]
  cases watermarks.find? projectionName with
  | none => rfl
  | some row => rfl

variable {projectionName}

theorem getProjectionWatermark_advance_of_ne {other : String} (different : other ≠ projectionName) :
    getProjectionWatermark (advanceProjectionWatermark watermarks projectionName rowid eventId
      receivedAt now) other = getProjectionWatermark watermarks other := by
  simp only [getProjectionWatermark, advanceProjectionWatermark]
  rw [Table.find?_update_of_ne different, find?_ensureWatermarkRow_of_ne _ different]

theorem getProjectionWatermark_advanceError_of_ne {other : String}
    (different : other ≠ projectionName) :
    getProjectionWatermark (advanceProjectionErrorWatermark watermarks projectionName rowid
      eventId receivedAt message now) other = getProjectionWatermark watermarks other := by
  simp only [getProjectionWatermark, advanceProjectionErrorWatermark]
  rw [Table.find?_update_of_ne different, find?_ensureWatermarkRow_of_ne _ different]

end Advances

/-- The watermarks after a record of an event received at a time. -/
def watermarksAfter (call : RecordedCall)
    (receivedAt : String) (now : Instant) : Table ProjectionWatermark :=
  match call.status with
  | .success =>
      advanceProjectionWatermark watermarks call.projectionName call.rowid (some call.eventId)
        (some receivedAt) now
  | .error =>
      advanceProjectionErrorWatermark watermarks call.projectionName call.rowid
        (some call.eventId) (some receivedAt) call.message now

/-- What a call does: it records nothing and changes nothing, or it writes its record. -/
inductive RecordEffect (ledger : ResultLedger) (report : ResultReport) (now : Instant) : Prop where
  | nothing (unrecorded : recordedCall ledger report now = none)
      (same : ledgerAfterCall ledger report now = ledger)
  | record (call : RecordedCall) (row : ProjectionEventResult) (receivedAt : String)
      (isCall : recordedCall ledger report now = some call) (isStatus : call.status = report.status)
      (isRow : Keyed.key row = (call.projectionName, call.eventId))
      (rowStatus : row.status = call.status) (first : row.attemptCount = 1)
      (events : (ledgerAfterCall ledger report now).events = ledger.events)
      (results : (ledgerAfterCall ledger report now).results =
        upsertEventResult ledger.results row)
      (watermarks : (ledgerAfterCall ledger report now).watermarks =
        watermarksAfter ledger.watermarks call receivedAt now)

theorem recordEffect (ledger : ResultLedger) (report : ResultReport) (now : Instant) :
    RecordEffect ledger report now := by
  cases result : recordProjectionEventResult ledger report now with
  | error failure =>
      apply RecordEffect.nothing
      · simp [recordedCall, result]
      · simp [ledgerAfterCall, result]
  | ok written =>
      have after : ledgerAfterCall ledger report now = written := by
        simp [ledgerAfterCall, result]
      have success := result
      simp only [recordProjectionEventResult, Checked.bind_eq_ok] at success
      rcases success with ⟨projectionName, isName, eventId, isEvent, outcome, _, success⟩
      have sameName : projectionName = Text.lower (Text.strip report.projectionName) := by
        simp only [normalizeProjectionName] at isName
        split at isName
        · cases isName
        · rw [Except.ok.injEq] at isName
          exact isName.symm
      have sameEvent : eventId = Text.strip report.eventId := by
        simp only [requireNonEmpty] at isEvent
        split at isEvent
        · cases isEvent
        · rw [Except.ok.injEq] at isEvent
          exact isEvent.symm
      subst sameName sameEvent
      split at success
      · next missing =>
          simp only [pure, Except.pure, Except.ok.injEq] at success
          apply RecordEffect.nothing
          · simp [recordedCall, result, missing]
          · rw [after, success]
      · next position resolved =>
          split at success
          · cases success
          · simp only [pure, Except.pure, Except.ok.injEq] at success
            subst success
            refine RecordEffect.record
              { projectionName := Text.lower (Text.strip report.projectionName)
                eventId := Text.strip report.eventId
                rowid := position.eventRowid
                status := report.status
                message := report.errorMessage.getD "" } _ position.receivedAt ?_ rfl ?_ ?_ ?_ ?_
                (congrArg ResultLedger.results after) (congrArg ResultLedger.watermarks after)
            · simp [recordedCall, result, resolved]
            · rfl
            · rfl
            · rfl
            · rw [after]

theorem getProjectionWatermark_after_of_ne
    {call : RecordedCall} {other : String} (different : other ≠ call.projectionName)
    (receivedAt : String) (now : Instant) :
    getProjectionWatermark (watermarksAfter watermarks call receivedAt now) other =
      getProjectionWatermark watermarks other := by
  rw [watermarksAfter]
  cases call.status with
  | success => exact getProjectionWatermark_advance_of_ne _ _ _ _ _ different
  | error => exact getProjectionWatermark_advanceError_of_ne _ _ _ _ _ _ different

theorem fields_after (call : RecordedCall)
    (receivedAt : String) (now : Instant) (projectionName : String) :
    (call.status = .error →
      (getProjectionWatermark (watermarksAfter watermarks call receivedAt now)
        projectionName).successFields =
          (getProjectionWatermark watermarks projectionName).successFields) ∧
    (call.status = .success →
      (getProjectionWatermark (watermarksAfter watermarks call receivedAt now)
        projectionName).errorFields =
          (getProjectionWatermark watermarks projectionName).errorFields) := by
  by_cases isName : projectionName = call.projectionName
  · subst isName
    constructor
    · intro isError
      simp only [watermarksAfter, isError]
      exact successFields_advanceError _ _ _ _ _ _ _
    · intro isSuccess
      simp only [watermarksAfter, isSuccess]
      exact errorFields_advance _ _ _ _ _ _
  · rw [getProjectionWatermark_after_of_ne watermarks isName receivedAt now]
    exact ⟨fun _ => rfl, fun _ => rfl⟩

/-! ## Runs -/

/-- A call of a caller, the events stored or pruned by others, and the reset of a projection. -/
inductive LedgerOp where
  | record (report : ResultReport) (now : Instant)
  | replaceEvents (events : Table EventPosition)
  | reset (projectionName : String)

def resetProjectionWatermark (ledger : ResultLedger) (projectionName : String) : ResultLedger :=
  { ledger with
    results := ledger.results.deleteWhere fun row => row.projectionName = projectionName
    watermarks := ledger.watermarks.deleteWhere fun row => row.projectionName = projectionName }

def nextLedger (ledger : ResultLedger) : LedgerOp → ResultLedger
  | .record report now => ledgerAfterCall ledger report now
  | .replaceEvents events => { ledger with events := events }
  | .reset projectionName => resetProjectionWatermark ledger projectionName

def recordOf (projectionName : String) (ledger : ResultLedger) : LedgerOp → List RecordedCall
  | .record report now =>
      (recordedCall ledger report now).toList.filter fun call =>
        call.projectionName = projectionName
  | .replaceEvents _ => []
  | .reset _ => []

/-- The records of a projection over a run, in the order of the calls. -/
def recordsOf (projectionName : String) (ledger : ResultLedger) : List LedgerOp → List RecordedCall
  | [] => []
  | op :: ops =>
      recordOf projectionName ledger op ++ recordsOf projectionName (nextLedger ledger op) ops

/-- Rowids are those of stored events, which start at one, and the projection is not reset. -/
def LedgerOp.Regular (projectionName : String) : LedgerOp → Prop
  | .record report _ => ∀ rowid, report.eventRowid = some rowid → 0 < rowid
  | .replaceEvents events => ∀ event ∈ events.rows, 0 < event.eventRowid
  | .reset other => other ≠ projectionName

/-- Neither a result nor a watermark of the projection, as first and after a reset. -/
structure ResultLedger.Clear (ledger : ResultLedger) (projectionName : String) : Prop where
  positive : ∀ event ∈ ledger.events.rows, 0 < event.eventRowid
  results : ∀ eventId, ledger.results.find? (projectionName, eventId) = none
  watermark : ledger.watermarks.find? projectionName = none

def ofStatus (status : ProjectionResultStatus) (calls : List RecordedCall) : List RecordedCall :=
  calls.filter fun call => call.status = status

def ofEvent (eventId : String) (calls : List RecordedCall) : List RecordedCall :=
  calls.filter fun call => call.eventId = eventId

/-- What the ledger keeps of the records of a projection. -/
structure Reflects (projectionName : String) (calls : List RecordedCall) (ledger : ResultLedger) :
    Prop where
  positive : ∀ event ∈ ledger.events.rows, 0 < event.eventRowid
  results : ∀ eventId,
    (ledger.results.find? (projectionName, eventId)).map
        (fun row => (row.status, row.attemptCount)) =
      (ofEvent eventId calls).getLast?.map fun call =>
        (call.status, (ofEvent eventId calls).length)
  successRowid : (getProjectionWatermark ledger.watermarks projectionName).lastSuccessEventRowid =
    ((ofStatus .success calls).argmax RecordedCall.rowid).elim 0 RecordedCall.rowid
  successId : (getProjectionWatermark ledger.watermarks projectionName).lastSuccessEventId =
    ((ofStatus .success calls).argmax RecordedCall.rowid).map RecordedCall.eventId
  errorRowid : (getProjectionWatermark ledger.watermarks projectionName).lastErrorEventRowid =
    ((ofStatus .error calls).reverse.argmax RecordedCall.rowid).elim 0 RecordedCall.rowid
  errorId : (getProjectionWatermark ledger.watermarks projectionName).lastErrorEventId =
    ((ofStatus .error calls).reverse.argmax RecordedCall.rowid).map RecordedCall.eventId
  errorMessage : (getProjectionWatermark ledger.watermarks projectionName).lastErrorMessage =
    ((ofStatus .error calls).reverse.argmax RecordedCall.rowid).map RecordedCall.message

theorem ResultLedger.Clear.reflects (clear : ledger.Clear projectionName) :
    Reflects projectionName [] ledger where
  positive := clear.positive
  results eventId := by simp [clear.results eventId, ofEvent]
  successRowid := by simp [getProjectionWatermark, clear.watermark, freshWatermark, ofStatus]
  successId := by simp [getProjectionWatermark, clear.watermark, freshWatermark, ofStatus]
  errorRowid := by simp [getProjectionWatermark, clear.watermark, freshWatermark, ofStatus]
  errorId := by simp [getProjectionWatermark, clear.watermark, freshWatermark, ofStatus]
  errorMessage := by simp [getProjectionWatermark, clear.watermark, freshWatermark, ofStatus]

section Steps

variable {ledger : ResultLedger} {projectionName : String} {calls : List RecordedCall}

variable {call : RecordedCall}

theorem recordedCall_positive {report : ResultReport} {now : Instant}
    (stored : ∀ event ∈ ledger.events.rows, 0 < event.eventRowid)
    (regular : ∀ rowid, report.eventRowid = some rowid → 0 < rowid)
    (isCall : recordedCall ledger report now = some call) : 0 < call.rowid := by
  have ofStored : ∀ eventType receivedAt position,
      storedPosition ledger.events (Text.strip report.eventId) report.eventRowid eventType
        receivedAt = some position → 0 < position.eventRowid := by
    intro eventType receivedAt position isPosition
    rw [storedPosition, Option.map_eq_some_iff] at isPosition
    rcases isPosition with ⟨row, found, isPosition⟩
    subst isPosition
    have ofRow := stored row (Table.mem_of_find? found)
    cases given : report.eventRowid with
    | none => simpa using ofRow
    | some rowid =>
        have ofReport := regular rowid given
        simp [ofReport, ofReport.ne']
  rw [recordedCall] at isCall
  split at isCall
  · cases isCall
  · rw [Option.map_eq_some_iff] at isCall
    rcases isCall with ⟨position, isPosition, isCall⟩
    subst isCall
    simp only [resolveEventPosition] at isPosition
    split at isPosition
    · next rowid given =>
        split at isPosition
        · rw [Option.some.injEq] at isPosition
          subst isPosition
          exact regular rowid given
        · exact ofStored _ _ _ isPosition
    · exact ofStored _ _ _ isPosition

theorem Reflects.congr {next : ResultLedger} (reflects : Reflects projectionName calls ledger)
    (positive : ∀ event ∈ next.events.rows, 0 < event.eventRowid)
    (results : ∀ eventId,
      next.results.find? (projectionName, eventId) =
        ledger.results.find? (projectionName, eventId))
    (watermark : getProjectionWatermark next.watermarks projectionName =
      getProjectionWatermark ledger.watermarks projectionName) :
    Reflects projectionName calls next where
  positive := positive
  results eventId := by rw [results eventId]; exact reflects.results eventId
  successRowid := by rw [watermark]; exact reflects.successRowid
  successId := by rw [watermark]; exact reflects.successId
  errorRowid := by rw [watermark]; exact reflects.errorRowid
  errorId := by rw [watermark]; exact reflects.errorId
  errorMessage := by rw [watermark]; exact reflects.errorMessage

theorem ofEvent_append_self (call : RecordedCall) :
    ofEvent call.eventId (calls ++ [call]) = ofEvent call.eventId calls ++ [call] := by
  simp [ofEvent]

theorem ofEvent_append_of_ne {eventId : String} (different : call.eventId ≠ eventId) :
    ofEvent eventId (calls ++ [call]) = ofEvent eventId calls := by
  simp [ofEvent, different]

theorem ofStatus_append_self {status : ProjectionResultStatus} (isStatus : call.status = status) :
    ofStatus status (calls ++ [call]) = ofStatus status calls ++ [call] := by
  simp [ofStatus, isStatus]

theorem ofStatus_append_of_ne {status : ProjectionResultStatus} (different : call.status ≠ status) :
    ofStatus status (calls ++ [call]) = ofStatus status calls := by
  simp [ofStatus, different]

theorem Reflects.results_record (reflects : Reflects projectionName calls ledger)
    (isName : call.projectionName = projectionName) {row : ProjectionEventResult}
    (isRow : Keyed.key row = (call.projectionName, call.eventId))
    (isStatus : row.status = call.status) (first : row.attemptCount = 1) (eventId : String) :
    ((upsertEventResult ledger.results row).find? (projectionName, eventId)).map
        (fun row => (row.status, row.attemptCount)) =
      (ofEvent eventId (calls ++ [call])).getLast?.map fun last =>
        (last.status, (ofEvent eventId (calls ++ [call])).length) := by
  subst isName
  have former := reflects.results eventId
  by_cases isEvent : call.eventId = eventId
  · subst isEvent
    have found := find?_upsertEventResult ledger.results row
    rw [isRow] at found
    rw [found, ofEvent_append_self]
    cases earlier : ledger.results.find? (call.projectionName, call.eventId) with
    | none =>
        have noCalls : ofEvent call.eventId calls = [] := by
          simpa [earlier] using former.symm
        simp [isStatus, first, noCalls]
    | some old =>
        rw [earlier] at former
        rcases Option.map_eq_some_iff.mp former.symm with ⟨last, _, isLast⟩
        rw [Prod.mk.injEq] at isLast
        simp [isStatus, isLast.2]
  · have otherKey : (call.projectionName, eventId) ≠ Keyed.key row := by
      rw [isRow]
      intro same
      exact isEvent (Prod.mk.inj same).2.symm
    rw [find?_upsertEventResult_of_ne ledger.results otherKey, ofEvent_append_of_ne isEvent]
    exact former

theorem Reflects.success_record (reflects : Reflects projectionName calls ledger)
    (isName : call.projectionName = projectionName) (isSuccess : call.status = .success)
    (positive : 0 < call.rowid) (receivedAt : String) (now : Instant) :
    let row := getProjectionWatermark
      (watermarksAfter ledger.watermarks call receivedAt now) projectionName
    let greatest := (ofStatus .success (calls ++ [call])).argmax RecordedCall.rowid
    row.lastSuccessEventRowid = greatest.elim 0 RecordedCall.rowid ∧
      row.lastSuccessEventId = greatest.map RecordedCall.eventId := by
  subst isName
  have advance := lastSuccess_advance ledger.watermarks call.projectionName call.rowid
    (some call.eventId) (some receivedAt) now
  have former := reflects.successRowid
  have formerId := reflects.successId
  simp only [watermarksAfter, isSuccess, ofStatus_append_self isSuccess, List.argmax_concat]
  simp only [max_eq_left positive.le] at advance
  cases isGreatest : (ofStatus .success calls).argmax RecordedCall.rowid with
  | none =>
      rw [isGreatest] at former
      rw [former] at advance
      exact advance.1 positive
  | some greatest =>
      rw [isGreatest] at former
      rw [isGreatest] at formerId
      rw [former, formerId] at advance
      by_cases later : greatest.rowid < call.rowid
      · simpa [later] using advance.1 later
      · simpa [later] using advance.2 later

theorem Reflects.error_record (reflects : Reflects projectionName calls ledger)
    (isName : call.projectionName = projectionName) (isError : call.status = .error)
    (positive : 0 < call.rowid) (receivedAt : String) (now : Instant) :
    let row := getProjectionWatermark
      (watermarksAfter ledger.watermarks call receivedAt now) projectionName
    let greatest := (ofStatus .error (calls ++ [call])).reverse.argmax RecordedCall.rowid
    row.lastErrorEventRowid = greatest.elim 0 RecordedCall.rowid ∧
      row.lastErrorEventId = greatest.map RecordedCall.eventId ∧
      row.lastErrorMessage = greatest.map RecordedCall.message := by
  subst isName
  have advance := lastError_advance ledger.watermarks call.projectionName call.rowid
    (some call.eventId) (some receivedAt) call.message now
  have former := reflects.errorRowid
  have formerId := reflects.errorId
  have formerMessage := reflects.errorMessage
  simp only [watermarksAfter, isError, ofStatus_append_self isError, List.reverse_concat,
    List.argmax_cons]
  simp only [max_eq_left positive.le] at advance
  cases isGreatest : (ofStatus .error calls).reverse.argmax RecordedCall.rowid with
  | none =>
      rw [isGreatest] at former
      rw [former] at advance
      exact advance.1 positive.le
  | some greatest =>
      rw [isGreatest] at former
      rw [isGreatest] at formerId formerMessage
      rw [former, formerId, formerMessage] at advance
      by_cases earlier : call.rowid < greatest.rowid
      · simpa [earlier] using advance.2 (not_le.mpr earlier)
      · simpa [earlier] using advance.1 (not_lt.mp earlier)

/-- A record of the projection, read off the ledger it leaves. -/
theorem Reflects.record (reflects : Reflects projectionName calls ledger) {next : ResultLedger}
    (isName : call.projectionName = projectionName) (positive : 0 < call.rowid)
    {row : ProjectionEventResult} (isRow : Keyed.key row = (call.projectionName, call.eventId))
    (isStatus : row.status = call.status) (first : row.attemptCount = 1) {receivedAt : String}
    {now : Instant} (events : next.events = ledger.events)
    (results : next.results = upsertEventResult ledger.results row)
    (watermarks : next.watermarks = watermarksAfter ledger.watermarks call receivedAt now) :
    Reflects projectionName (calls ++ [call]) next := by
  have kept := fields_after ledger.watermarks call receivedAt now projectionName
  rw [← watermarks] at kept
  have whole : ∀ eventId, _ :=
    fun eventId => reflects.results_record isName isRow isStatus first eventId
  rw [← results] at whole
  cases status : call.status with
  | success =>
      have isOther : call.status ≠ .error := by simp [status]
      have same := kept.2 status
      simp only [ProjectionWatermark.errorFields, ErrorFields.mk.injEq] at same
      rcases same with ⟨sameRowid, sameId, _, _, sameMessage⟩
      have advanced := reflects.success_record isName status positive receivedAt now
      rw [← watermarks] at advanced
      exact {
        positive := by rw [events]; exact reflects.positive
        results := whole
        successRowid := advanced.1
        successId := advanced.2
        errorRowid := by
          rw [ofStatus_append_of_ne isOther, sameRowid]
          exact reflects.errorRowid
        errorId := by
          rw [ofStatus_append_of_ne isOther, sameId]
          exact reflects.errorId
        errorMessage := by
          rw [ofStatus_append_of_ne isOther, sameMessage]
          exact reflects.errorMessage }
  | error =>
      have isOther : call.status ≠ .success := by simp [status]
      have same := kept.1 status
      simp only [ProjectionWatermark.successFields, SuccessFields.mk.injEq] at same
      rcases same with ⟨_, _, _, sameRowid, sameId, _, _⟩
      have advanced := reflects.error_record isName status positive receivedAt now
      rw [← watermarks] at advanced
      exact {
        positive := by rw [events]; exact reflects.positive
        results := whole
        successRowid := by
          rw [ofStatus_append_of_ne isOther, sameRowid]
          exact reflects.successRowid
        successId := by
          rw [ofStatus_append_of_ne isOther, sameId]
          exact reflects.successId
        errorRowid := advanced.1
        errorId := advanced.2.1
        errorMessage := advanced.2.2 }

/-- One step keeps what the ledger tells of the records. -/
theorem Reflects.next (reflects : Reflects projectionName calls ledger) {op : LedgerOp}
    (regular : op.Regular projectionName) :
    Reflects projectionName (calls ++ recordOf projectionName ledger op)
      (nextLedger ledger op) := by
  cases op with
  | record report now =>
      cases recordEffect ledger report now with
      | nothing unrecorded same =>
          simpa [nextLedger, recordOf, unrecorded, same] using reflects
      | record call row receivedAt isCall _ isRow isStatus first events results watermarks =>
          by_cases isName : call.projectionName = projectionName
          · have positive := recordedCall_positive reflects.positive regular isCall
            have recorded := reflects.record isName positive isRow isStatus first events results
              watermarks
            simpa [nextLedger, recordOf, isCall, isName] using recorded
          · have kept : Reflects projectionName calls (ledgerAfterCall ledger report now) := by
              apply reflects.congr
              · rw [events]
                exact reflects.positive
              · intro eventId
                have otherKey : (projectionName, eventId) ≠ Keyed.key row := by
                  rw [isRow]
                  intro same
                  exact isName (Prod.mk.inj same).1.symm
                rw [results, find?_upsertEventResult_of_ne ledger.results otherKey]
              · rw [watermarks]
                exact getProjectionWatermark_after_of_ne _ (Ne.symm isName) _ _
            simpa [nextLedger, recordOf, isCall, isName] using kept
  | replaceEvents events =>
      have kept : Reflects projectionName calls { ledger with events := events } :=
        reflects.congr regular (fun _ => rfl) rfl
      simpa [nextLedger, recordOf] using kept
  | reset other =>
      have kept : Reflects projectionName calls (resetProjectionWatermark ledger other) := by
        apply reflects.congr
        · exact reflects.positive
        · intro eventId
          simp only [resetProjectionWatermark, Table.find?_deleteWhere]
          cases found : ledger.results.find? (projectionName, eventId) with
          | none => rfl
          | some row =>
              have isKey := Table.key_of_find? found
              have isName : row.projectionName = projectionName := (Prod.mk.inj isKey).1
              have isOther : row.projectionName ≠ other := by
                rw [isName]
                exact Ne.symm regular
              simp [isOther]
        · simp only [resetProjectionWatermark, getProjectionWatermark, Table.find?_deleteWhere]
          cases found : ledger.watermarks.find? projectionName with
          | none => rfl
          | some row =>
              have isName : row.projectionName = projectionName := Table.key_of_find? found
              have isOther : row.projectionName ≠ other := by
                rw [isName]
                exact Ne.symm regular
              simp [Option.filter_some, isOther]
      simpa [nextLedger, recordOf] using kept

theorem Reflects.run (reflects : Reflects projectionName calls ledger) {ops : List LedgerOp}
    (regular : ∀ op ∈ ops, op.Regular projectionName) :
    Reflects projectionName (calls ++ recordsOf projectionName ledger ops)
      (ops.foldl nextLedger ledger) := by
  induction ops generalizing ledger calls with
  | nil => simpa [recordsOf] using reflects
  | cons op ops ih =>
      have stepped := reflects.next (regular op List.mem_cons_self)
      have others : ∀ op ∈ ops, op.Regular projectionName := by
        intro other isOther
        exact regular other (List.mem_cons_of_mem op isOther)
      simpa [recordsOf] using ih stepped others

end Steps

/-! ## The watermark of a run -/

/-- The greatest rowid of the records, with the event of one of them. -/
structure StandsAtFirst (calls : List RecordedCall) (rowid : Int) (eventId : Option String) :
    Prop where
  untouched : calls = [] → rowid = 0 ∧ eventId = none
  greatest : calls ≠ [] → IsGreatest {level | ∃ call ∈ calls, call.rowid = level} rowid
  ofEvent : calls ≠ [] → ∃ call ∈ calls, call.rowid = rowid ∧ eventId = some call.eventId

/-- The greatest rowid of the records, with the event and the message of the last of them. -/
structure StandsAtLast (calls : List RecordedCall) (rowid : Int) (eventId message : Option String) :
    Prop where
  untouched : calls = [] → rowid = 0 ∧ eventId = none ∧ message = none
  greatest : calls ≠ [] → IsGreatest {level | ∃ call ∈ calls, call.rowid = level} rowid
  latest : calls ≠ [] → ∃ before call after, calls = before ++ call :: after ∧
    call.rowid = rowid ∧ (∀ later ∈ after, later.rowid ≠ rowid) ∧
    eventId = some call.eventId ∧ message = some call.message

/-- The result row of an event after its records. -/
structure RowTells (calls : List RecordedCall) (row : Option ProjectionEventResult) : Prop where
  untouched : calls = [] → row = none
  latest : ∀ before last, calls = before ++ [last] →
    ∃ found, row = some found ∧ found.status = last.status ∧ found.attemptCount = calls.length

theorem Reflects.standsAtFirst (reflects : Reflects projectionName calls ledger) :
    StandsAtFirst (ofStatus .success calls)
      (getProjectionWatermark ledger.watermarks projectionName).lastSuccessEventRowid
      (getProjectionWatermark ledger.watermarks projectionName).lastSuccessEventId := by
  rw [reflects.successRowid, reflects.successId]
  cases isGreatest : (ofStatus .success calls).argmax RecordedCall.rowid with
  | none =>
      rw [List.argmax_eq_none] at isGreatest
      exact ⟨fun _ => ⟨rfl, rfl⟩, fun some => absurd isGreatest some,
        fun some => absurd isGreatest some⟩
  | some greatest =>
      have present := List.argmax_mem isGreatest
      refine ⟨?_, ?_, ?_⟩
      · intro none
        rw [none] at present
        cases present
      · intro _
        refine ⟨⟨greatest, present, rfl⟩, ?_⟩
        rintro level ⟨call, isCall, rfl⟩
        exact List.le_of_mem_argmax isCall isGreatest
      · intro _
        exact ⟨greatest, present, rfl, rfl⟩

theorem Reflects.standsAtLast (reflects : Reflects projectionName calls ledger) :
    StandsAtLast (ofStatus .error calls)
      (getProjectionWatermark ledger.watermarks projectionName).lastErrorEventRowid
      (getProjectionWatermark ledger.watermarks projectionName).lastErrorEventId
      (getProjectionWatermark ledger.watermarks projectionName).lastErrorMessage := by
  rw [reflects.errorRowid, reflects.errorId, reflects.errorMessage]
  cases isGreatest : (ofStatus .error calls).reverse.argmax RecordedCall.rowid with
  | none =>
      rw [List.argmax_eq_none, List.reverse_eq_nil_iff] at isGreatest
      exact ⟨fun _ => ⟨rfl, rfl, rfl⟩, fun some => absurd isGreatest some,
        fun some => absurd isGreatest some⟩
  | some greatest =>
      rcases last_of_argmax_reverse isGreatest with ⟨before, after, splits, below, lower⟩
      rw [splits]
      refine ⟨?_, ?_, ?_⟩
      · simp
      · intro _
        refine ⟨⟨greatest, by simp, rfl⟩, ?_⟩
        rintro level ⟨call, isCall, rfl⟩
        simp only [List.mem_append, List.mem_cons] at isCall
        rcases isCall with isCall | rfl | isCall
        · exact below call isCall
        · exact le_refl _
        · exact (lower call isCall).le
      · intro _
        exact ⟨before, greatest, after, rfl, rfl, fun later isLater => (lower later isLater).ne,
          rfl, rfl⟩

theorem Reflects.rowTells (reflects : Reflects projectionName calls ledger) (eventId : String) :
    RowTells (ofEvent eventId calls) (ledger.results.find? (projectionName, eventId)) := by
  have kept := reflects.results eventId
  refine ⟨?_, ?_⟩
  · intro none
    simpa [none] using kept
  · intro before last isLast
    rw [isLast, List.getLast?_concat, Option.map_some, Option.map_eq_some_iff] at kept
    rcases kept with ⟨row, found, same⟩
    rw [Prod.mk.injEq] at same
    exact ⟨row, found, same.1, by rw [isLast]; exact same.2⟩

theorem watermark_tells_records (projectionName : String) (initial : ResultLedger)
    (clear : initial.Clear projectionName) (ops : List LedgerOp)
    (regular : ∀ op ∈ ops, op.Regular projectionName) :
    let calls := recordsOf projectionName initial ops
    let ledger := ops.foldl nextLedger initial
    let row := getProjectionWatermark ledger.watermarks projectionName
    StandsAtFirst (ofStatus .success calls) row.lastSuccessEventRowid row.lastSuccessEventId ∧
      StandsAtLast (ofStatus .error calls) row.lastErrorEventRowid row.lastErrorEventId
        row.lastErrorMessage ∧
      (∀ eventId, RowTells (ofEvent eventId calls)
        (ledger.results.find? (projectionName, eventId))) ∧
      ∀ report now,
        let next := getProjectionWatermark (ledgerAfterCall ledger report now).watermarks
          projectionName
        (report.status = .error → next.successFields = row.successFields) ∧
          (report.status = .success → next.errorFields = row.errorFields) := by
  have reflects : Reflects projectionName (recordsOf projectionName initial ops)
      (ops.foldl nextLedger initial) := by
    simpa using clear.reflects.run regular
  refine ⟨reflects.standsAtFirst, reflects.standsAtLast, reflects.rowTells, ?_⟩
  intro report now
  cases recordEffect (ops.foldl nextLedger initial) report now with
  | nothing unrecorded same =>
      rw [same]
      exact ⟨fun _ => rfl, fun _ => rfl⟩
  | record call row receivedAt isCall isStatus isRow rowStatus first events results watermarks =>
      rw [watermarks, ← isStatus]
      exact fields_after _ call receivedAt now projectionName

/-! ## Two events out of order -/

def clearLedger : ResultLedger where
  events := Table.empty
  results := Table.empty
  watermarks := Table.empty

def twoStoredEvents : Table EventPosition where
  rows := [
    { eventId := "evt-1", eventRowid := 1, eventType := "price_tick", receivedAt := "" },
    { eventId := "evt-2", eventRowid := 2, eventType := "price_tick", receivedAt := "" }]
  nodup := by decide

def storedEventReport (eventId : String) (status : ProjectionResultStatus)
    (errorMessage : Option String) : ResultReport where
  projectionName := "market_data"
  eventId := eventId
  status := status
  outcome := "APPLIED"
  eventRowid := none
  eventType := none
  eventReceivedAt := none
  errorMessage := errorMessage

/-- The later event succeeds first, and the earlier one fails and then succeeds. -/
def outOfOrderOps : List LedgerOp := [
  .replaceEvents twoStoredEvents,
  .record (storedEventReport "evt-2" .success none) 0,
  .record (storedEventReport "evt-1" .error (some "late")) 1,
  .record (storedEventReport "evt-1" .success none) 2]

theorem later_event_keeps_watermark :
    StandsAtFirst (ofStatus .success (recordsOf "market_data" clearLedger outOfOrderOps)) 2
      (some "evt-2") := by
  have clear : clearLedger.Clear "market_data" :=
    ⟨by decide, fun _ => rfl, rfl⟩
  have regular : ∀ op ∈ outOfOrderOps, op.Regular "market_data" := by
    simp [outOfOrderOps, LedgerOp.Regular, storedEventReport, twoStoredEvents]
  have stands := (watermark_tells_records "market_data" clearLedger clear outOfOrderOps regular).1
  have atLater : (getProjectionWatermark (outOfOrderOps.foldl nextLedger clearLedger).watermarks
      "market_data").lastSuccessEventRowid = 2 := by decide +kernel
  have ofLater : (getProjectionWatermark (outOfOrderOps.foldl nextLedger clearLedger).watermarks
      "market_data").lastSuccessEventId = some "evt-2" := by decide +kernel
  simpa only [atLater, ofLater] using stands

end SuseokTrader
