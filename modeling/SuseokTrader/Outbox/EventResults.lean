import SuseokTrader.Broker.Envelopes
import SuseokTrader.Lib.Table

/-!
# Projection event results

For every projection and gateway event the ledger keeps the last result and
the number of attempts, and for every projection a watermark that only moves
forward. A result is recorded for events that are stored; for any other event
nothing is written.
-/

namespace SuseokTrader

/-! ## Tables -/

structure EventPosition where
  eventId : String
  eventRowid : Int
  eventType : String
  receivedAt : String

instance : Keyed EventPosition String := ⟨EventPosition.eventId⟩

inductive ProjectionResultStatus where
  | success
  | error
deriving DecidableEq

structure ProjectionEventResult where
  projectionName : String
  eventId : String
  eventRowid : Int
  eventType : String
  status : ProjectionResultStatus
  outcome : String
  errorMessage : Option String
  firstProcessedAt : String
  processedAt : String
  attemptCount : Nat

instance : Keyed ProjectionEventResult (String × String) :=
  ⟨fun row => (row.projectionName, row.eventId)⟩

structure ProjectionWatermark where
  projectionName : String
  lastEventRowid : Int
  lastEventId : Option String
  lastEventReceivedAt : Option String
  lastProcessedAt : String
  updatedAt : String
  lastSuccessEventRowid : Int
  lastSuccessEventId : Option String
  lastSuccessEventReceivedAt : Option String
  lastSuccessProcessedAt : Option String
  lastErrorEventRowid : Int
  lastErrorEventId : Option String
  lastErrorEventReceivedAt : Option String
  lastErrorProcessedAt : Option String
  lastErrorMessage : Option String

instance : Keyed ProjectionWatermark String := ⟨ProjectionWatermark.projectionName⟩

/-- The stored events, their results and the watermarks. -/
structure ResultLedger where
  events : Table EventPosition
  results : Table ProjectionEventResult
  watermarks : Table ProjectionWatermark

/-! ## Texts -/

def requireNonEmpty (value fieldName : String) : Checked String :=
  if Text.strip value = "" then Checked.invalid (fieldName ++ " must not be empty")
  else .ok (Text.strip value)

def normalizeProjectionName (projectionName : String) : Checked String :=
  if Text.lower (Text.strip projectionName) = "" then
    Checked.invalid "projection_name must not be empty"
  else .ok (Text.lower (Text.strip projectionName))

theorem requireNonEmpty_of_strip {value : String} (stripped : Text.strip value = value)
    (nonempty : value ≠ "") (fieldName : String) :
    requireNonEmpty value fieldName = .ok value := by
  simp only [requireNonEmpty, stripped, nonempty, if_false]

/-! ## Watermarks -/

/-- The row of a projection that has processed nothing yet. -/
def freshWatermark (projectionName now : String) : ProjectionWatermark where
  projectionName := projectionName
  lastEventRowid := 0
  lastEventId := none
  lastEventReceivedAt := none
  lastProcessedAt := now
  updatedAt := now
  lastSuccessEventRowid := 0
  lastSuccessEventId := none
  lastSuccessEventReceivedAt := none
  lastSuccessProcessedAt := none
  lastErrorEventRowid := 0
  lastErrorEventId := none
  lastErrorEventReceivedAt := none
  lastErrorProcessedAt := none
  lastErrorMessage := none

def ensureWatermarkRow (watermarks : Table ProjectionWatermark) (projectionName now : String) :
    Table ProjectionWatermark :=
  (watermarks.insert? (freshWatermark projectionName now)).getD watermarks

variable (watermarks : Table ProjectionWatermark)

theorem find?_ensureWatermarkRow (projectionName now : String) :
    (ensureWatermarkRow watermarks projectionName now).find? projectionName =
      some ((watermarks.find? projectionName).getD (freshWatermark projectionName now)) := by
  rw [ensureWatermarkRow]
  cases inserts : watermarks.insert? (freshWatermark projectionName now) with
  | some inserted =>
      have fresh : watermarks.find? projectionName = none :=
        Table.insert?_isSome_iff.mp (Option.isSome_of_mem inserts)
      rw [fresh]
      exact Table.find?_of_insert?_self inserts
  | none =>
      cases found : watermarks.find? projectionName with
      | none =>
          have isNone : watermarks.find?
              (Keyed.key (freshWatermark projectionName now)) = none := found
          have fresh := Table.insert?_isSome_iff.mpr isNone
          rw [inserts] at fresh
          cases fresh
      | some row =>
          rw [Option.getD_none, found]
          rfl

def advanceProjectionWatermark (projectionName : String)
    (lastEventRowid : Int) (lastEventId lastEventReceivedAt : Option String) (now : Instant) :
    Table ProjectionWatermark :=
  let rowid := max lastEventRowid 0
  let now := datetimeToWire now
  (ensureWatermarkRow watermarks projectionName now).update projectionName
    (fun row =>
      let moves := row.lastEventRowid < rowid
      let succeeds := row.lastSuccessEventRowid < rowid
      { row with
        lastEventRowid := if moves then rowid else row.lastEventRowid
        lastEventId := if moves then lastEventId else row.lastEventId
        lastEventReceivedAt := if moves then lastEventReceivedAt else row.lastEventReceivedAt
        lastSuccessEventRowid := if succeeds then rowid else row.lastSuccessEventRowid
        lastSuccessEventId := if succeeds then lastEventId else row.lastSuccessEventId
        lastSuccessEventReceivedAt :=
          if succeeds then lastEventReceivedAt else row.lastSuccessEventReceivedAt
        lastSuccessProcessedAt := if succeeds then some now else row.lastSuccessProcessedAt
        lastProcessedAt := now
        updatedAt := now })
    (fun _ => rfl)

def advanceProjectionErrorWatermark
    (projectionName : String) (lastEventRowid : Int) (lastEventId lastEventReceivedAt : Option String)
    (errorMessage : String) (now : Instant) : Table ProjectionWatermark :=
  let rowid := max lastEventRowid 0
  let now := datetimeToWire now
  (ensureWatermarkRow watermarks projectionName now).update projectionName
    (fun row =>
      let fails := row.lastErrorEventRowid ≤ rowid
      { row with
        lastErrorEventRowid := if fails then rowid else row.lastErrorEventRowid
        lastErrorEventId := if fails then lastEventId else row.lastErrorEventId
        lastErrorEventReceivedAt :=
          if fails then lastEventReceivedAt else row.lastErrorEventReceivedAt
        lastErrorProcessedAt := if fails then some now else row.lastErrorProcessedAt
        lastErrorMessage := if fails then some errorMessage else row.lastErrorMessage
        lastProcessedAt := now
        updatedAt := now })
    (fun _ => rfl)

/-! ## Recording a result -/

variable (events : Table EventPosition)

/-- The stored position of an event, with what the caller knows in place of its columns. -/
def storedPosition (eventId : String) (eventRowid : Option Int)
    (eventType eventReceivedAt : String) : Option EventPosition :=
  (events.find? eventId).map fun row =>
    let rowid := eventRowid.getD 0
    { eventId := eventId
      eventRowid := if rowid = 0 then row.eventRowid else rowid
      eventType := Text.lower (Text.strip (if eventType = "" then row.eventType else eventType))
      receivedAt := if eventReceivedAt = "" then row.receivedAt else eventReceivedAt }

/-- Where an event stands: as the caller says, where the caller says it all, or as stored. -/
def resolveEventPosition (eventId : String)
    (eventRowid : Option Int) (eventType eventReceivedAt : Option String) :
    Option EventPosition :=
  let typeText := eventType.getD ""
  let receivedText := eventReceivedAt.getD ""
  match eventRowid with
  | some rowid =>
      if typeText ≠ "" ∧ receivedText ≠ "" then
        some { eventId := eventId, eventRowid := rowid,
               eventType := Text.lower (Text.strip typeText), receivedAt := receivedText }
      else storedPosition events eventId eventRowid typeText receivedText
  | none => storedPosition events eventId eventRowid typeText receivedText

/-- The result is inserted, or replaces the earlier one and counts an attempt. -/
def upsertEventResult (results : Table ProjectionEventResult) (row : ProjectionEventResult) :
    Table ProjectionEventResult :=
  match results.insert? row with
  | some inserted => inserted
  | none =>
      results.update (Keyed.key row)
        (fun old =>
          { old with
            eventRowid := row.eventRowid
            eventType := row.eventType
            status := row.status
            outcome := row.outcome
            errorMessage := row.errorMessage
            processedAt := row.processedAt
            attemptCount := old.attemptCount + 1 })
        (fun _ => rfl)

structure ResultReport where
  projectionName : String
  eventId : String
  status : ProjectionResultStatus
  outcome : String
  eventRowid : Option Int
  eventType : Option String
  eventReceivedAt : Option String
  errorMessage : Option String

def recordProjectionEventResult (ledger : ResultLedger) (report : ResultReport) (now : Instant) :
    Checked ResultLedger := do
  let projectionName ← normalizeProjectionName report.projectionName
  let eventId ← requireNonEmpty report.eventId "event_id"
  let outcome ← requireNonEmpty report.outcome "outcome"
  match resolveEventPosition ledger.events eventId report.eventRowid report.eventType
      report.eventReceivedAt with
  | none => return ledger
  | some position =>
      if report.status = .error ∧ Text.strip (report.errorMessage.getD "") = "" then
        Checked.invalid "error_message is required for ERROR projection result"
      else
        return { ledger with
          results := upsertEventResult ledger.results
            { projectionName := projectionName
              eventId := eventId
              eventRowid := position.eventRowid
              eventType := position.eventType
              status := report.status
              outcome := Text.upper outcome
              errorMessage := report.errorMessage
              firstProcessedAt := datetimeToWire now
              processedAt := datetimeToWire now
              attemptCount := 1 }
          watermarks :=
            match report.status with
            | .success =>
                advanceProjectionWatermark ledger.watermarks projectionName position.eventRowid
                  (some eventId) (some position.receivedAt) now
            | .error =>
                advanceProjectionErrorWatermark ledger.watermarks projectionName
                  position.eventRowid (some eventId) (some position.receivedAt)
                  (report.errorMessage.getD "") now }

/-! ## What a record does -/

variable (results : Table ProjectionEventResult) (row : ProjectionEventResult)

theorem find?_upsertEventResult_self :
    ∃ written, (upsertEventResult results row).find? (Keyed.key row) = some written ∧
      written.status = row.status ∧
      written.attemptCount =
        ((results.find? (Keyed.key row)).elim row.attemptCount fun old => old.attemptCount + 1) := by
  rw [upsertEventResult]
  cases inserts : results.insert? row with
  | some inserted =>
      have fresh : results.find? (Keyed.key row) = none :=
        Table.insert?_isSome_iff.mp (Option.isSome_of_mem inserts)
      exact ⟨row, Table.find?_of_insert?_self inserts, rfl, by rw [fresh]; rfl⟩
  | none =>
      cases found : results.find? (Keyed.key row) with
      | none =>
          have fresh := Table.insert?_isSome_iff.mpr found
          rw [inserts] at fresh
          cases fresh
      | some old =>
          refine ⟨_, Table.find?_update_self found, ?_, ?_⟩
          · rfl
          · rfl

theorem find?_upsertEventResult :
    (upsertEventResult results row).find? (Keyed.key row) =
      some ((results.find? (Keyed.key row)).elim row fun old =>
        { old with
          eventRowid := row.eventRowid
          eventType := row.eventType
          status := row.status
          outcome := row.outcome
          errorMessage := row.errorMessage
          processedAt := row.processedAt
          attemptCount := old.attemptCount + 1 }) := by
  rw [upsertEventResult]
  cases inserts : results.insert? row with
  | some inserted =>
      have fresh : results.find? (Keyed.key row) = none :=
        Table.insert?_isSome_iff.mp (Option.isSome_of_mem inserts)
      rw [fresh]
      exact Table.find?_of_insert?_self inserts
  | none =>
      cases found : results.find? (Keyed.key row) with
      | none =>
          have fresh := Table.insert?_isSome_iff.mpr found
          rw [inserts] at fresh
          cases fresh
      | some old => exact Table.find?_update_self found

theorem find?_upsertEventResult_of_ne
    {row : ProjectionEventResult} {key : String × String} (different : key ≠ Keyed.key row) :
    (upsertEventResult results row).find? key = results.find? key := by
  rw [upsertEventResult]
  cases inserts : results.insert? row with
  | some inserted => exact Table.find?_of_insert?_of_ne inserts different.symm
  | none => exact Table.find?_update_of_ne different

theorem upsertEventResult_ne : upsertEventResult results row ≠ results := by
  intro same
  rcases find?_upsertEventResult_self results row with ⟨written, found, _, attempts⟩
  rw [same] at found
  rw [found] at attempts
  simp at attempts

theorem recordProjectionEventResult_cases {ledger written : ResultLedger} {report : ResultReport}
    {now : Instant} (success : recordProjectionEventResult ledger report now = .ok written) :
    let position := resolveEventPosition ledger.events (Text.strip report.eventId)
      report.eventRowid report.eventType report.eventReceivedAt
    (position = none ∧ written = ledger) ∨
      position.isSome = true ∧
        ∃ row, row.projectionName = Text.lower (Text.strip report.projectionName) ∧
          row.eventId = Text.strip report.eventId ∧ row.status = report.status ∧
          written.events = ledger.events ∧
          written.results = upsertEventResult ledger.results row := by
  simp only [recordProjectionEventResult, Checked.bind_eq_ok] at success
  rcases success with ⟨projectionName, isName, eventId, isEvent, outcome, _, success⟩
  have sameName : projectionName = Text.lower (Text.strip report.projectionName) := by
    simp only [normalizeProjectionName] at isName
    split at isName
    · cases isName
    · rw [Except.ok.injEq] at isName
      exact isName.symm
  have sameEvent : eventId = Text.strip report.eventId := by
    simp only [requireNonEmpty] at isEvent
    split at isEvent
    · cases isEvent
    · rw [Except.ok.injEq] at isEvent
      exact isEvent.symm
  subst sameName sameEvent
  split at success
  · next missing =>
      simp only [pure, Except.pure, Except.ok.injEq] at success
      exact Or.inl ⟨missing, success.symm⟩
  · next position resolved =>
      split at success
      · cases success
      · simp only [pure, Except.pure, Except.ok.injEq] at success
        subst success
        refine Or.inr ⟨Option.isSome_of_mem resolved, _, ?_, ?_, ?_, rfl, rfl⟩
        · rfl
        · rfl
        · rfl

theorem resolveEventPosition_eq_none_iff (eventId : String)
    (eventRowid : Option Int) (eventType : Option String) :
    resolveEventPosition events eventId eventRowid eventType none = none ↔
      events.find? eventId = none := by
  simp only [resolveEventPosition, storedPosition]
  cases eventRowid <;> simp

/-- The texts of the report are in the form in which the ledger keeps them, and it gives no time of
receipt. -/
structure ResultReport.Stated (report : ResultReport) : Prop where
  projectionName : Text.lower (Text.strip report.projectionName) = report.projectionName
  hasName : report.projectionName ≠ ""
  eventId : Stripped report.eventId
  outcome : Text.strip report.outcome ≠ ""
  errorMessage : report.status = .error → Text.strip (report.errorMessage.getD "") ≠ ""
  eventReceivedAt : report.eventReceivedAt = none

theorem ResultReport.Stated.records {report : ResultReport} (stated : report.Stated)
    {ledger : ResultLedger} (stored : (ledger.events.find? report.eventId).isSome = true)
    (now : Instant) :
    ∃ written row, recordProjectionEventResult ledger report now = .ok written ∧
      row.projectionName = report.projectionName ∧ row.eventId = report.eventId ∧
      row.status = report.status ∧ written.results = upsertEventResult ledger.results row := by
  have resolved : (resolveEventPosition ledger.events report.eventId report.eventRowid
      report.eventType report.eventReceivedAt).isSome = true := by
    rw [stated.eventReceivedAt, Option.isSome_iff_ne_none, ne_eq,
      resolveEventPosition_eq_none_iff, ← ne_eq, ← Option.isSome_iff_ne_none]
    exact stored
  rcases Option.isSome_iff_exists.mp resolved with ⟨position, isPosition⟩
  have explained : ¬ (report.status = .error ∧
      Text.strip (report.errorMessage.getD "") = "") :=
    fun ⟨isError, blank⟩ => stated.errorMessage isError blank
  have success : ∃ written, recordProjectionEventResult ledger report now = .ok written := by
    simp only [recordProjectionEventResult, normalizeProjectionName, stated.projectionName,
      stated.hasName, requireNonEmpty, stated.eventId.strip_eq, stated.eventId.ne_empty,
      stated.outcome, if_false, bind, Except.bind, isPosition, explained, pure, Except.pure,
      Except.ok.injEq, exists_eq']
  rcases success with ⟨written, success⟩
  rcases recordProjectionEventResult_cases success with
    ⟨missing, _⟩ | ⟨_, row, sameName, sameEvent, sameStatus, _, upserts⟩
  · rw [stated.eventId.strip_eq, isPosition] at missing
    cases missing
  · refine ⟨written, row, success, ?_, ?_, sameStatus, upserts⟩
    · rw [sameName, stated.projectionName]
    · rw [sameEvent, stated.eventId.strip_eq]

theorem ResultReport.Stated.ignores {report : ResultReport} (stated : report.Stated)
    {ledger written : ResultLedger} {now : Instant}
    (missing : ledger.events.find? report.eventId = none)
    (success : recordProjectionEventResult ledger report now = .ok written) :
    written = ledger := by
  rcases recordProjectionEventResult_cases success with ⟨_, same⟩ | ⟨resolved, _⟩
  · exact same
  · rw [stated.eventId.strip_eq, stated.eventReceivedAt, Option.isSome_iff_ne_none, ne_eq,
      resolveEventPosition_eq_none_iff] at resolved
    exact absurd missing resolved

end SuseokTrader
