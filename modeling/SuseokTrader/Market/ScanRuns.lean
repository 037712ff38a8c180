import SuseokTrader.Market.MarketScans
import SuseokTrader.Market.MembershipRuns

/-!
# Scan rows over whole runs

A response is processed when it arrives, and by the worker for the job that is
left of it, each any number of times and in any order. No valid row is lost as
long as no response that has one is passed over for the snapshots or the errors
of another cause, and no transaction fails. The latest rows then are the latest
of the snapshots, as long as no row takes the place of one that is later within
the millisecond by which the database compares them.
-/

namespace SuseokTrader

/-! ## Scans of events -/

structure Scan where
  response : ScanResponse
  scanType : String
  market : String

variable (host : Host) (settings : ScanSettings)

/-- The scan of an event that is a recognised successful response. -/
def successfulScan (event : GatewayEvent) : Option Scan :=
  if normalizeEventType event.eventType = "tr_response" then
    match ScanResponse.fromDict event.payload with
    | .error _ => none
    | .ok response =>
        match scanContext host settings response.toBrokerTrResponse with
        | none => none
        | some (scanType, market) =>
            if response.success then
              some { response := response, scanType := scanType, market := market }
            else none
  else none

namespace Scan

def validCodes (scan : Scan) : List String :=
  scan.response.rows.filterMap fun row => (scanRowCode row).toOption

def scanId (scan : Scan) (event : GatewayEvent) : ScanId where
  eventId := event.eventId
  requestId := scan.response.requestId
  trCode := scan.response.trCode
  scanType := scan.scanType
  market := scan.market
  scannedAt := datetimeToWire event.ts

def key (scan : Scan) (event : GatewayEvent) (code : String) :
    ScanId × String × String × String :=
  (scan.scanId event, scan.scanType, scan.market, code)

/-- The context in which a call projects the rows. -/
def context (scan : Scan) (host : Host) (settings : ScanSettings) (events : Table ReceivedEvent)
    (event : GatewayEvent) (call : ScanCall) : ScanContext where
  event := event
  response := scan.response
  scanType := scan.scanType
  market := scan.market
  scannedAt := (receivedTimes events event call.now).1
  generatedBy := call.generatedBy
  parserStatus := eventParserStatus host settings event.payload

end Scan

/-! ## Runs -/

structure ScanState where
  tables : ScanTables
  processed : List GatewayEvent

def ScanState.after (state : ScanState) (event : GatewayEvent) (tables : ScanTables)
    (completed : Bool) : ScanState where
  tables := tables
  processed := if completed then event :: state.processed else state.processed

/-- A call on the request path, or an attempt of the worker at a job. -/
inductive ScanOp where
  | inline (eventId : String) (call : ScanCall)
  | work (job : ProjectionJob) (applies marketDataReady : Bool) (call : ScanCall)

def returns (result : Checked MarketScanProcessResult) : Bool :=
  match result with
  | .ok _ => true
  | .error _ => false

def ScanAttempt.completed (attempt : ScanAttempt) : Bool :=
  attempt.projection.isSome || attempt.verification.isApplied

variable (events : Table ReceivedEvent)

def scanNext (state : ScanState) : ScanOp → ScanState
  | .inline eventId call =>
      match events.find? eventId with
      | none => state
      | some received =>
          if received.accepted then
            let (written, result) :=
              processMarketScanEvent host settings events state.tables received.event call
            state.after received.event written (returns result)
          else state
  | .work job applies marketDataReady call =>
      match events.find? (Text.strip job.eventId) with
      | none => state
      | some received =>
          let attempt := workOnMarketScan host settings events state.tables job applies
            marketDataReady call
          state.after received.event attempt.tables attempt.completed

def scanSystem :
    System ScanState ScanOp Unit :=
  .ofStep (scanNext host settings events)

def noScans : ScanState where
  tables := { snapshots := .empty, latest := .empty, errors := [] }
  processed := []

/-! ## The law -/

def scanInstant (scannedAt : String) : Instant :=
  (Time.fromIsoformat scannedAt).getD 0

def snapshotTimes (snapshots : Table ScanSnapshot) (scannedAt code : String) : Prop :=
  ∃ snapshot ∈ snapshots.rows, snapshot.code = code ∧ snapshot.scannedAt = scannedAt

def latestTime (latest : Table ScanLatest) (code : String) : Option String :=
  (latest.find? code).map fun row => row.snapshot.scannedAt

/-- Every valid row of a processed event has its snapshot row, and each code with a snapshot row
has a latest row, which is of the time of one of them and not before any. -/
structure NoScanRowLost (host : Host) (settings : ScanSettings) (state : ScanState) : Prop where
  covered : ∀ event ∈ state.processed, ∀ scan, successfulScan host settings event = some scan →
    ∀ code ∈ scan.validCodes, (state.tables.snapshots.find? (scan.key event code)).isSome
  latest : HoldsNewest scanInstant (snapshotTimes state.tables.snapshots)
    (latestTime state.tables.latest)

/-- What an op comes to: it leaves the event, is done with it without writing rows of it, or
writes them. -/
inductive ScanOutcome where
  | left
  | passed (event : GatewayEvent) (scan : Scan)
  | written (event : GatewayEvent) (scan : Scan)

def passedOutcome (event : GatewayEvent) : ScanOutcome :=
  match successfulScan host settings event with
  | none => .left
  | some scan => .passed event scan

def callOutcome (tables : ScanTables) (event : GatewayEvent) (call : ScanCall) : ScanOutcome :=
  match successfulScan host settings event with
  | none => .left
  | some scan =>
      if eventAlreadyProjected tables event.eventId scan.response.requestId then
        .passed event scan
      else
        match call.fault with
        | some .locked => .left
        | some (.failed _) => .passed event scan
        | none =>
            match projectScanRows host (scan.context host settings events event call)
                (datetimeToWire call.now) tables with
            | .error _ => .passed event scan
            | .ok _ => .written event scan

def workOutcome (tables : ScanTables) (received : ReceivedEvent) (eventType : String)
    (applies marketDataReady : Bool) (call : ScanCall) : ScanOutcome :=
  let verified := verifyMarketScan host tables received.event
  if !received.accepted then .left
  else if !applies then
    if verified.verification.isApplied then passedOutcome host settings received.event else .left
  else if normalizeEventType eventType ≠ "tr_response" then .left
  else if verified.verification.isApplied then passedOutcome host settings received.event
  else if verified.settles || !marketDataReady then .left
  else callOutcome host settings events tables received.event call

def scanOutcome (state : ScanState) : ScanOp → ScanOutcome
  | .inline eventId call =>
      match events.find? eventId with
      | none => .left
      | some received =>
          if received.accepted then
            callOutcome host settings events state.tables received.event call
          else .left
  | .work job applies marketDataReady call =>
      match events.find? (Text.strip job.eventId) with
      | none => .left
      | some received =>
          workOutcome host settings events state.tables received job.eventType applies
            marketDataReady call

def HasOwnRows (snapshots : Table ScanSnapshot) (event : GatewayEvent) : Prop :=
  ∃ snapshot ∈ snapshots.rows, snapshot.sourceEventId = event.eventId

/-- An event with a valid row is only passed over when its own rows were written, and a row takes
the place of no latest row that is later, though the database takes it for no later one. -/
def ScansInOrder (state : ScanState) (op : ScanOp) : Prop :=
  match scanOutcome host settings events state op with
  | .left => True
  | .passed event scan => scan.validCodes = [] ∨ HasOwnRows state.tables.snapshots event
  | .written event scan => ∀ code ∈ scan.validCodes, ∀ scannedAt,
      latestTime state.tables.latest code = some scannedAt →
        notAfter scannedAt (datetimeToWire event.ts) = true →
          scanInstant scannedAt ≤ scanInstant (datetimeToWire event.ts)

/-! ## What a call does -/

/-- The rows that the transaction of a scan writes. -/
structure OwnItems (scan : Scan) (event : GatewayEvent) (items : List ScanSnapshot) : Prop where
  codes : items.map ScanSnapshot.code = scan.validCodes
  scanId : ∀ item ∈ items, item.scanId = scan.scanId event
  key : ∀ item ∈ items, Keyed.key item = scan.key event item.code
  scannedAt : ∀ item ∈ items, item.scannedAt = datetimeToWire event.ts
  sourceEventId : ∀ item ∈ items, item.sourceEventId = event.eventId

section Rows

variable {host : Host} {context : ScanContext} {now : String}

structure IsItem (context : ScanContext) (item : ScanSnapshot) : Prop where
  scanId : item.scanId = context.scanId
  scanType : item.scanType = context.scanType
  market : item.market = context.market
  scannedAt : item.scannedAt = context.scannedAt
  sourceEventId : item.sourceEventId = context.event.eventId

theorem parseScanRow_ok {rank : Nat} {row : Payload} {item : ScanSnapshot}
    (parsed : parseScanRow host context rank row = .ok item) :
    scanRowCode row = .ok item.code ∧ IsItem context item := by
  simp only [parseScanRow, Checked.bind_eq_ok, pure, Except.pure, Except.ok.injEq] at parsed
  rcases parsed with ⟨code, isCode, _, _, _, _, _, _, _, _, _, _, rfl⟩
  exact ⟨isCode, rfl, rfl, rfl, rfl, rfl⟩

theorem floatOrNone_invalid {value : Json} {message : String} :
    floatOrNone host value ≠ .error (.invalid message) := by
  intro refused
  rw [floatOrNone.eq_def] at refused
  split at refused
  · cases refused
  · cases refused
  · split at refused <;> cases refused
  · cases refused
  · cases refused

theorem bind_eq_invalid {α β : Type} {first : Checked α} {rest : α → Checked β}
    {message : String} (refused : (first >>= rest) = .error (.invalid message)) :
    first = .error (.invalid message) ∨ ∃ value, first = .ok value ∧
      rest value = .error (.invalid message) := by
  cases first with
  | error failure =>
      left
      simpa [Bind.bind, Except.bind] using refused
  | ok value => exact Or.inr ⟨value, rfl, refused⟩

theorem intOrNone_invalid {value : Json} {message : String} :
    intOrNone host value ≠ .error (.invalid message) := by
  intro refused
  rcases bind_eq_invalid refused with refused | ⟨parsed, _, refused⟩
  · exact floatOrNone_invalid refused
  · split at refused <;> cases refused

theorem parseScanRow_invalid {rank : Nat} {row : Payload} {message : String}
    (refused : parseScanRow host context rank row = .error (.invalid message)) :
    scanRowCode row = .error (.invalid message) := by
  rcases bind_eq_invalid refused with refused | ⟨_, _, refused⟩
  · exact refused
  · exfalso
    rcases bind_eq_invalid refused with refused | ⟨_, _, refused⟩
    · exact intOrNone_invalid refused
    rcases bind_eq_invalid refused with refused | ⟨_, _, refused⟩
    · exact floatOrNone_invalid refused
    rcases bind_eq_invalid refused with refused | ⟨_, _, refused⟩
    · exact floatOrNone_invalid refused
    rcases bind_eq_invalid refused with refused | ⟨_, _, refused⟩
    · exact floatOrNone_invalid refused
    rcases bind_eq_invalid refused with refused | ⟨_, _, refused⟩
    · exact intOrNone_invalid refused
    cases refused

theorem insertScanSnapshot_ok {snapshots inserted : Table ScanSnapshot} {item : ScanSnapshot}
    (success : insertScanSnapshot snapshots item = .ok inserted) :
    inserted = snapshots.upsert item := by
  rw [insertScanSnapshot] at success
  split at success
  · exact (Except.ok.inj success).symm
  · cases success

/-- The rows of a transaction that goes through: one for each valid row, and no other. -/
theorem foldlM_projectScanRow_ok (rows : List (Payload × Nat)) {progress ended : ScanProgress}
    (success : rows.foldlM (projectScanRow host context now) progress = .ok ended) :
    ∃ items : List ScanSnapshot,
      items.map ScanSnapshot.code =
          rows.filterMap (fun row => (scanRowCode row.1).toOption) ∧
        (∀ item ∈ items, IsItem context item) ∧
        ended.tables.snapshots = progress.tables.snapshots.upsertAll items ∧
        ended.tables.latest = items.foldl (fun latest item => upsertScanLatest latest item now)
          progress.tables.latest := by
  induction rows generalizing progress with
  | nil =>
      simp only [List.foldlM_nil, pure, Except.pure, Except.ok.injEq] at success
      subst success
      exact ⟨[], rfl, by simp, rfl, rfl⟩
  | cons row rows ih =>
      rw [List.foldlM_cons] at success
      cases first : projectScanRow host context now progress row with
      | error failure =>
          rw [first] at success
          cases success
      | ok middle =>
          rw [first] at success
          rcases ih success with ⟨items, codes, own, snapshots, latest⟩
          rw [projectScanRow] at first
          cases parsed : parseScanRow host context row.2 row.1 with
          | error failure =>
              rw [parsed] at first
              cases failure with
              | crash message => cases first
              | invalid message =>
                  obtain rfl := Except.ok.inj first
                  have noCode := parseScanRow_invalid parsed
                  refine ⟨items, ?_, own, snapshots, latest⟩
                  rw [List.filterMap_cons, noCode]
                  exact codes
          | ok item =>
              simp only [parsed] at first
              cases inserted : insertScanSnapshot progress.tables.snapshots item with
              | error failure =>
                  rw [inserted] at first
                  cases first
              | ok written =>
                  rw [inserted] at first
                  obtain rfl := Except.ok.inj first
                  rcases parseScanRow_ok parsed with ⟨isCode, isItem⟩
                  rw [insertScanSnapshot_ok inserted] at snapshots
                  refine ⟨item :: items, ?_, ?_, snapshots, latest⟩
                  · rw [List.map_cons, List.filterMap_cons, isCode, codes]
                    rfl
                  · intro other isOther
                    rcases List.mem_cons.mp isOther with rfl | later
                    · exact isItem
                    · exact own other later

end Rows

/-- What a call or an attempt does to the tables, and whether it is done with its event. -/
inductive ScanEffect (host : Host) (settings : ScanSettings) (event : GatewayEvent)
    (tables : ScanTables) : ScanTables → Bool → ScanOutcome → Prop where
  | left {after : ScanTables} {completed : Bool} (snapshots : after.snapshots = tables.snapshots)
      (latest : after.latest = tables.latest)
      (noRows : completed = true → successfulScan host settings event = none) :
      ScanEffect host settings event tables after completed .left
  | passed {after : ScanTables} (scan : Scan)
      (isScan : successfulScan host settings event = some scan)
      (snapshots : after.snapshots = tables.snapshots) (latest : after.latest = tables.latest) :
      ScanEffect host settings event tables after true (.passed event scan)
  | written {after : ScanTables} (scan : Scan) (items : List ScanSnapshot) (now : String)
      (isScan : successfulScan host settings event = some scan)
      (own : OwnItems scan event items)
      (snapshots : after.snapshots = tables.snapshots.upsertAll items)
      (latest : after.latest = items.foldl (fun latest item => upsertScanLatest latest item now)
        tables.latest) :
      ScanEffect host settings event tables after true (.written event scan)

section Calls

variable {host : Host} {settings : ScanSettings} {events : Table ReceivedEvent}
  {tables : ScanTables} {event : GatewayEvent} {call : ScanCall}

theorem receivedTimes_of_stored (stored : IsStoredEvent events event) (now : Instant) :
    (receivedTimes events event now).1 = datetimeToWire event.ts := by
  rcases stored with ⟨received, found, rfl⟩
  simp [receivedTimes, found]

theorem ownItems_of_projected (stored : IsStoredEvent events event) {scan : Scan}
    {progress : ScanProgress}
    (projected : projectScanRows host (scan.context host settings events event call)
      (datetimeToWire call.now) tables = .ok progress) :
    ∃ items, OwnItems scan event items ∧
      progress.tables.snapshots = tables.snapshots.upsertAll items ∧
      progress.tables.latest = items.foldl
        (fun latest item => upsertScanLatest latest item (datetimeToWire call.now))
        tables.latest := by
  rcases foldlM_projectScanRow_ok _ projected with ⟨items, codes, own, snapshots, latest⟩
  have scannedAt : (scan.context host settings events event call).scannedAt =
      datetimeToWire event.ts := receivedTimes_of_stored stored call.now
  have isScanId : ∀ item ∈ items, item.scanId = scan.scanId event := by
    intro item isItem
    rw [(own item isItem).scanId, ScanContext.scanId, scannedAt]
    rfl
  refine ⟨items, ⟨?_, isScanId, ?_, ?_, ?_⟩, snapshots, latest⟩
  · rw [codes, Scan.validCodes]
    have rows : scan.response.rows = (scan.response.rows.zipIdx 1).map Prod.fst := by simp
    conv_rhs => rw [rows]
    rw [List.filterMap_map]
    rfl
  · intro item isItem
    have facts := own item isItem
    change (item.scanId, item.scanType, item.market, item.code) = _
    rw [isScanId item isItem, facts.scanType, facts.market]
    rfl
  · intro item isItem
    rw [(own item isItem).scannedAt, scannedAt]
  · intro item isItem
    rw [(own item isItem).sourceEventId]
    rfl

/-- A call does to the tables what its outcome says. -/
theorem processMarketScanEvent_effect (stored : IsStoredEvent events event) :
    ScanEffect host settings event tables
      (processMarketScanEvent host settings events tables event call).1
      (returns (processMarketScanEvent host settings events tables event call).2)
      (callOutcome host settings events tables event call) := by
  rw [callOutcome, processMarketScanEvent]
  by_cases isResponse : normalizeEventType event.eventType = "tr_response"
  · rw [if_neg (not_not.mpr isResponse)]
    cases read : ScanResponse.fromDict event.payload with
    | error failure =>
        have noScan : successfulScan host settings event = none := by
          simp [successfulScan, read]
        rw [noScan]
        exact .left rfl rfl fun _ => noScan
    | ok response =>
        dsimp only
        cases context : scanContext host settings response.toBrokerTrResponse with
        | none =>
            have noScan : successfulScan host settings event = none := by
              simp [successfulScan, read, context]
            rw [noScan]
            exact .left rfl rfl fun _ => noScan
        | some kind =>
            rcases kind with ⟨scanType, market⟩
            cases success : response.success with
            | false =>
                have noScan : successfulScan host settings event = none := by
                  simp [successfulScan, read, context, success]
                rw [noScan]
                dsimp only
                split
                · exact .left rfl rfl fun _ => noScan
                · exact .left rfl rfl fun _ => noScan
            | true =>
                have isScan : successfulScan host settings event =
                    some { response := response, scanType := scanType, market := market } := by
                  simp [successfulScan, isResponse, read, context, success]
                rw [isScan]
                dsimp only
                split
                · exact .passed _ isScan rfl rfl
                · rw [projectScan]
                  cases isFault : call.fault with
                  | some fault =>
                      cases fault with
                      | locked => exact .left rfl rfl fun completed => by cases completed
                      | failed message => exact .passed _ isScan rfl rfl
                  | none =>
                      cases projected : projectScanRows host
                          (Scan.context ⟨response, scanType, market⟩ host settings events event
                            call)
                          (datetimeToWire call.now) tables with
                      | error failure =>
                          rw [Scan.context] at projected
                          rw [projected]
                          exact .passed _ isScan rfl rfl
                      | ok progress =>
                          rcases ownItems_of_projected stored projected with
                            ⟨items, own, snapshots, latest⟩
                          rw [Scan.context] at projected
                          rw [projected]
                          exact .written _ items _ isScan own snapshots latest
  · have noScan : successfulScan host settings event = none := by
      simp [successfulScan, isResponse]
    rw [if_pos isResponse, noScan]
    exact .left rfl rfl fun _ => noScan

theorem ScanEffect.of_kept : ScanEffect host settings event tables tables true
    (passedOutcome host settings event) := by
  rw [passedOutcome]
  cases isScan : successfulScan host settings event with
  | none => exact .left rfl rfl fun _ => isScan
  | some scan => exact .passed scan isScan rfl rfl

theorem ScanEffect.of_left : ScanEffect host settings event tables tables false .left :=
  .left rfl rfl fun completed => by cases completed

theorem projectScanJob_eq :
    (projectScanJob host settings events tables event call).tables =
        (processMarketScanEvent host settings events tables event call).1 ∧
      (projectScanJob host settings events tables event call).completed =
        returns (processMarketScanEvent host settings events tables event call).2 := by
  rw [projectScanJob]
  cases processMarketScanEvent host settings events tables event call with
  | mk written returned => cases returned <;> exact ⟨rfl, rfl⟩

theorem applyMarketScanProjection_effect (stored : IsStoredEvent events event)
    (marketDataReady : Bool) :
    let verified := verifyMarketScan host tables event
    let attempt := applyMarketScanProjection host settings events tables event marketDataReady call
    ScanEffect host settings event tables attempt.tables attempt.completed
      (if verified.verification.isApplied then passedOutcome host settings event
        else if verified.settles || !marketDataReady then .left
        else callOutcome host settings events tables event call) := by
  rw [applyMarketScanProjection]
  generalize verifyMarketScan host tables event = verified
  rcases verified with ⟨verification, retryable⟩
  have projected : ScanEffect host settings event tables
      (projectScanJob host settings events tables event call).tables
      (projectScanJob host settings events tables event call).completed
      (callOutcome host settings events tables event call) := by
    rw [projectScanJob_eq.1, projectScanJob_eq.2]
    exact processMarketScanEvent_effect stored
  cases verification with
  | applied =>
      simp only [Verification.isApplied, if_true]
      exact .of_kept
  | skipped reason =>
      simp only [ScanVerification.settles, Verification.isApplied, Bool.false_eq_true, if_false,
        Bool.false_or]
      cases marketDataReady with
      | false =>
          exact .of_left
      | true =>
          simp only [Bool.not_true, Bool.false_eq_true, if_false]
          exact projected
  | failed reason message =>
      simp only [ScanVerification.settles, Verification.isApplied]
      cases retryable with
      | false =>
          exact .of_left
      | true =>
          simp only [Bool.not_true, Bool.false_or]
          cases marketDataReady with
          | false =>
              exact .of_left
          | true =>
              simp only [Bool.not_true, Bool.false_eq_true, if_false]
              exact projected

theorem workOnMarketScan_effect {received : ReceivedEvent} {job : ProjectionJob}
    {applies marketDataReady : Bool}
    (found : events.find? (Text.strip job.eventId) = some received) :
    ScanEffect host settings received.event tables
      (workOnMarketScan host settings events tables job applies marketDataReady call).tables
      (workOnMarketScan host settings events tables job applies marketDataReady call).completed
      (workOutcome host settings events tables received job.eventType applies marketDataReady
        call) := by
  have stored : IsStoredEvent events received.event :=
    ⟨received, Table.find?_of_mem (Table.mem_of_find? found), rfl⟩
  have applied := @applyMarketScanProjection_effect host settings events tables received.event call
    stored marketDataReady
  simp only [workOnMarketScan, workOutcome, found]
  cases received.accepted with
  | false =>
      exact .of_left
  | true =>
      simp only [Bool.not_true, Bool.false_eq_true, if_false]
      cases applies with
      | false =>
          simp only [Bool.not_false, if_true, ScanAttempt.completed, Option.isSome_none,
            Bool.false_or]
          cases (verifyMarketScan host tables received.event).verification.isApplied with
          | false =>
              exact .of_left
          | true =>
              simp only [if_true]
              exact .of_kept
      | true =>
          simp only [Bool.not_true, Bool.false_eq_true]
          by_cases isType : normalizeEventType job.eventType = "tr_response"
          · simp only [isType, ne_eq, not_true_eq_false, if_false]
            exact applied
          · simp only [isType, ne_eq]
            exact .of_left

theorem scanNext_effect (state : ScanState) (op : ScanOp) :
    (scanNext host settings events state op = state ∧
        scanOutcome host settings events state op = .left) ∨
      ∃ event tables completed, IsStoredEvent events event ∧
        scanNext host settings events state op = state.after event tables completed ∧
        ScanEffect host settings event state.tables tables completed
          (scanOutcome host settings events state op) := by
  cases op with
  | inline eventId call =>
      simp only [scanNext, scanOutcome]
      cases found : events.find? eventId with
      | none => exact Or.inl ⟨rfl, rfl⟩
      | some received =>
          have stored : IsStoredEvent events received.event :=
            ⟨received, Table.find?_of_mem (Table.mem_of_find? found), rfl⟩
          by_cases accepted : received.accepted = true
          · simp only [if_pos accepted]
            exact Or.inr ⟨_, _, _, stored, rfl, processMarketScanEvent_effect stored⟩
          · left
            simp only [if_neg accepted, and_self]
  | work job applies marketDataReady call =>
      simp only [scanNext, scanOutcome]
      cases found : events.find? (Text.strip job.eventId) with
      | none => exact Or.inl ⟨rfl, rfl⟩
      | some received =>
          have stored : IsStoredEvent events received.event :=
            ⟨received, Table.find?_of_mem (Table.mem_of_find? found), rfl⟩
          exact Or.inr ⟨_, _, _, stored, rfl, workOnMarketScan_effect found⟩

end Calls

/-! ## Times -/

theorem scanInstant_datetimeToWire {value : Instant} (bound : Time.InCalendar value) :
    scanInstant (datetimeToWire value) = value := by
  rw [scanInstant, fromIsoformat_datetimeToWire bound]
  rfl

theorem notAfter_datetimeToWire {earlier later : Nat} (earlierBound : Time.InCalendar earlier)
    (laterBound : Time.InCalendar later) :
    notAfter (datetimeToWire earlier) (datetimeToWire later) = true ↔
      (earlier + 500) / 1000 ≤ (later + 500) / 1000 := by
  simp [notAfter, julianday, fromIsoformat_datetimeToWire earlierBound,
    fromIsoformat_datetimeToWire laterBound]

theorem le_of_not_notAfter {earlier later : Nat} (earlierBound : Time.InCalendar earlier)
    (laterBound : Time.InCalendar later)
    (after : ¬ notAfter (datetimeToWire earlier) (datetimeToWire later) = true) :
    later ≤ earlier := by
  rw [notAfter_datetimeToWire earlierBound laterBound] at after
  omega

theorem IsStoredEvent.inCalendar {events : Table ReceivedEvent} {event : GatewayEvent}
    (stored : IsStoredEvent events event) : Time.InCalendar event.ts := by
  rcases stored with ⟨received, _, rfl⟩
  exact received.inCalendar

def offeredTime (offered : String) : Option String → String
  | none => offered
  | some held => if notAfter held offered then offered else held

theorem offeredTime_self (offered : String) : offeredTime offered (some offered) = offered := by
  simp [offeredTime]

theorem offeredTime_offeredTime (offered : String) (held : Option String) :
    offeredTime offered (some (offeredTime offered held)) = offeredTime offered held := by
  cases held with
  | none => exact offeredTime_self offered
  | some held =>
      by_cases gives : notAfter held offered = true
      · have taken : offeredTime offered (some held) = offered := if_pos gives
        rw [taken, offeredTime_self]
      · have kept : offeredTime offered (some held) = held := if_neg gives
        rw [kept, kept]

theorem latestTime_upsertScanLatest (latest : Table ScanLatest) (item : ScanSnapshot)
    (now code : String) :
    latestTime (upsertScanLatest latest item now) code =
      if item.code = code then some (offeredTime item.scannedAt (latestTime latest code))
      else latestTime latest code := by
  have stored : ∀ other, latestTime
      (latest.upsert { snapshot := item, updatedAt := now }) other =
        if item.code = other then some item.scannedAt else latestTime latest other := by
    intro other
    by_cases isCode : item.code = other
    · subst isCode
      rw [if_pos rfl]
      exact congrArg _ (Table.find?_upsert_self latest ⟨item, now⟩)
    · rw [if_neg isCode, latestTime, Table.find?_upsert_of_ne latest isCode]
      rfl
  rw [upsertScanLatest]
  by_cases isCode : item.code = code
  · subst isCode
    cases found : latest.find? item.code with
    | none =>
        rw [stored, if_pos rfl, if_pos rfl, latestTime, found]
        rfl
    | some row =>
        have held : latestTime latest item.code = some row.snapshot.scannedAt := by
          rw [latestTime, found]
          rfl
        dsimp only
        rw [if_pos rfl, held, offeredTime]
        split
        · rw [stored, if_pos rfl]
        · exact held
  · rw [if_neg isCode]
    split
    · rw [stored, if_neg isCode]
    · split
      · rw [stored, if_neg isCode]
      · rfl

theorem latestTime_foldl {scannedAt now : String} (items : List ScanSnapshot)
    (same : ∀ item ∈ items, item.scannedAt = scannedAt) (latest : Table ScanLatest)
    (code : String) :
    latestTime (items.foldl (fun latest item => upsertScanLatest latest item now) latest) code =
      if code ∈ items.map ScanSnapshot.code then
        some (offeredTime scannedAt (latestTime latest code))
      else latestTime latest code := by
  induction items generalizing latest with
  | nil => rfl
  | cons item items ih =>
      have own := same item List.mem_cons_self
      rw [List.foldl_cons, ih (fun other later => same other (List.mem_cons_of_mem item later)),
        latestTime_upsertScanLatest, own, List.map_cons]
      by_cases isCode : item.code = code
      · subst isCode
        by_cases later : item.code ∈ items.map ScanSnapshot.code
        · simp [later, offeredTime_offeredTime]
        · simp [later]
      · by_cases later : code ∈ items.map ScanSnapshot.code
        · simp [later, isCode]
        · simp [later, isCode, Ne.symm isCode]

/-! ## Steps -/

/-- A snapshot row of a stored event, under an identifier that names the event and its time. -/
structure IsOwnRow (events : Table ReceivedEvent) (snapshot : ScanSnapshot) : Prop where
  scannedAt : snapshot.scanId.scannedAt = snapshot.scannedAt
  eventId : snapshot.scanId.eventId = snapshot.sourceEventId
  source : ∃ event, IsStoredEvent events event ∧ snapshot.sourceEventId = event.eventId ∧
    snapshot.scannedAt = datetimeToWire event.ts

/-- What every step keeps: the snapshot rows are of stored events, and an event with one of them
has one for each valid row. -/
structure ScanInvariant (host : Host) (settings : ScanSettings) (events : Table ReceivedEvent)
    (snapshots : Table ScanSnapshot) : Prop where
  own : ∀ snapshot ∈ snapshots.rows, IsOwnRow events snapshot
  whole : ∀ event scan, IsStoredEvent events event →
    successfulScan host settings event = some scan → HasOwnRows snapshots event →
      ∀ code ∈ scan.validCodes, (snapshots.find? (scan.key event code)).isSome

section Steps

variable {host : Host} {settings : ScanSettings} {events : Table ReceivedEvent}
  {snapshots : Table ScanSnapshot} {event : GatewayEvent} {scan : Scan}
  {items : List ScanSnapshot}

theorem mem_upsertAll {snapshot : ScanSnapshot}
    (present : snapshot ∈ (snapshots.upsertAll items).rows) :
    snapshot ∈ items ∨ snapshot ∈ snapshots.rows := by
  rcases Table.mem_of_find?_upsertAll (Table.find?_of_mem present) with isItem | found
  · exact Or.inl isItem
  · exact Or.inr (Table.mem_of_find? found)

theorem OwnItems.covers (own : OwnItems scan event items) {code : String}
    (isCode : code ∈ scan.validCodes) :
    ((snapshots.upsertAll items).find? (scan.key event code)).isSome := by
  rw [Table.isSome_find?_upsertAll]
  left
  rw [← own.codes] at isCode
  rcases List.mem_map.mp isCode with ⟨item, isItem, rfl⟩
  rw [← own.key item isItem]
  exact List.mem_map_of_mem isItem

theorem OwnItems.isOwnRow (own : OwnItems scan event items) (stored : IsStoredEvent events event)
    {item : ScanSnapshot} (isItem : item ∈ items) : IsOwnRow events item where
  scannedAt := by
    rw [own.scanId item isItem, own.scannedAt item isItem]
    rfl
  eventId := by
    rw [own.scanId item isItem, own.sourceEventId item isItem]
    rfl
  source := ⟨event, stored, own.sourceEventId item isItem, own.scannedAt item isItem⟩

theorem ScanInvariant.written (invariant : ScanInvariant host settings events snapshots)
    (stored : IsStoredEvent events event) (isScan : successfulScan host settings event = some scan)
    (own : OwnItems scan event items) :
    ScanInvariant host settings events (snapshots.upsertAll items) where
  own snapshot present := by
    rcases mem_upsertAll present with isItem | earlier
    · exact own.isOwnRow stored isItem
    · exact invariant.own snapshot earlier
  whole other otherScan otherStored otherIsScan hasRows := by
    rcases hasRows with ⟨snapshot, present, isSource⟩
    rcases mem_upsertAll present with isItem | earlier
    · have same : event = other :=
        stored.unique otherStored ((own.sourceEventId snapshot isItem).symm.trans isSource)
      subst same
      obtain rfl : scan = otherScan := Option.some.inj (isScan.symm.trans otherIsScan)
      exact fun code isCode => own.covers isCode
    · intro code isCode
      rw [Table.isSome_find?_upsertAll]
      exact Or.inr (invariant.whole other otherScan otherStored otherIsScan
        ⟨snapshot, earlier, isSource⟩ code isCode)

theorem exists_upsertAll
    (invariant : ScanInvariant host settings events (snapshots.upsertAll items))
    {key : ScanId × String × String × String}
    (present : ((snapshots.upsertAll items).find? key).isSome) :
    snapshotTimes (snapshots.upsertAll items) key.1.scannedAt key.2.2.2 := by
  rcases Option.isSome_iff_exists.mp present with ⟨row, found⟩
  have isRow := Table.mem_of_find? found
  have isKey : (row.scanId, row.scanType, row.market, row.code) = key := Table.key_of_find? found
  subst isKey
  exact ⟨row, isRow, rfl, (invariant.own row isRow).scannedAt.symm⟩

theorem snapshotTimes_upsertAll (invariant : ScanInvariant host settings events snapshots)
    (stored : IsStoredEvent events event) (isScan : successfulScan host settings event = some scan)
    (own : OwnItems scan event items) (scannedAt code : String) :
    snapshotTimes (snapshots.upsertAll items) scannedAt code ↔
      arriveUnder (snapshotTimes snapshots) (datetimeToWire event.ts) (· ∈ scan.validCodes)
        scannedAt code := by
  have after := invariant.written stored isScan own
  constructor
  · rintro ⟨snapshot, present, rfl, rfl⟩
    rcases mem_upsertAll present with isItem | earlier
    · refine Or.inr ⟨own.scannedAt snapshot isItem, ?_⟩
      rw [← own.codes]
      exact List.mem_map_of_mem isItem
    · exact Or.inl ⟨snapshot, earlier, rfl, rfl⟩
  · rintro (⟨snapshot, earlier, rfl, rfl⟩ | ⟨rfl, isCode⟩)
    · rw [← (invariant.own snapshot earlier).scannedAt]
      apply @exists_upsertAll host settings events snapshots items after (Keyed.key snapshot)
      rw [Table.isSome_find?_upsertAll]
      exact Or.inr (by rw [Table.find?_of_mem earlier]; rfl)
    · exact exists_upsertAll after (own.covers isCode)

theorem ScanInvariant.exists_instant (invariant : ScanInvariant host settings events snapshots)
    {scannedAt code : String} (isTime : snapshotTimes snapshots scannedAt code) :
    ∃ value, Time.InCalendar value ∧ scannedAt = datetimeToWire value := by
  rcases isTime with ⟨snapshot, present, _, rfl⟩
  rcases (invariant.own snapshot present).source with ⟨event, stored, _, scannedAt⟩
  exact ⟨event.ts, stored.inCalendar, scannedAt⟩

theorem ScanInvariant.covered_iff (invariant : ScanInvariant host settings events snapshots)
    (stored : IsStoredEvent events event)
    (isScan : successfulScan host settings event = some scan) :
    (∀ code ∈ scan.validCodes, (snapshots.find? (scan.key event code)).isSome) ↔
      scan.validCodes = [] ∨ HasOwnRows snapshots event := by
  constructor
  · intro covered
    cases codes : scan.validCodes with
    | nil => exact Or.inl rfl
    | cons code rest =>
        right
        have present := covered code (by rw [codes]; exact List.mem_cons_self)
        rcases Option.isSome_iff_exists.mp present with ⟨row, found⟩
        have isRow := Table.mem_of_find? found
        have isKey : (row.scanId, row.scanType, row.market, row.code) = scan.key event code :=
          Table.key_of_find? found
        have isScanId : row.scanId = scan.scanId event := congrArg Prod.fst isKey
        refine ⟨row, isRow, ?_⟩
        rw [← (invariant.own row isRow).eventId, isScanId]
        rfl
  · rintro (none | hasRows) code isCode
    · rw [none] at isCode
      cases isCode
    · exact invariant.whole event scan stored isScan hasRows code isCode

variable {latest : Table ScanLatest} {now : String}

/-- The latest rows after a transaction are the latest exactly when it is in order. -/
theorem latest_written_iff (invariant : ScanInvariant host settings events snapshots)
    (stored : IsStoredEvent events event) (isScan : successfulScan host settings event = some scan)
    (own : OwnItems scan event items)
    (newest : HoldsNewest scanInstant (snapshotTimes snapshots) (latestTime latest)) :
    HoldsNewest scanInstant (snapshotTimes (snapshots.upsertAll items))
        (latestTime (items.foldl (fun latest item => upsertScanLatest latest item now) latest)) ↔
      ∀ code ∈ scan.validCodes, ∀ scannedAt, latestTime latest code = some scannedAt →
        notAfter scannedAt (datetimeToWire event.ts) = true →
          scanInstant scannedAt ≤ scanInstant (datetimeToWire event.ts) := by
  have taken := @latestTime_foldl (datetimeToWire event.ts) now items own.scannedAt latest
  rw [own.codes] at taken
  generalize latestTime (items.foldl (fun latest item => upsertScanLatest latest item now) latest) =
    after at taken ⊢
  have keepsNewer : ∀ code other, code ∈ scan.validCodes → latestTime latest code = some other →
      ¬ notAfter other (datetimeToWire event.ts) = true →
        scanInstant (datetimeToWire event.ts) ≤ scanInstant other := by
    intro code other _ held stays
    rcases invariant.exists_instant (newest.newest code other held).1 with ⟨value, bound, rfl⟩
    rw [scanInstant_datetimeToWire bound, scanInstant_datetimeToWire stored.inCalendar]
    exact le_of_not_notAfter bound stored.inCalendar stays
  have offered : ∀ code, code ∈ scan.validCodes →
      (∀ other, latestTime latest code = some other →
        notAfter other (datetimeToWire event.ts) = true) →
      after code = some (datetimeToWire event.ts) := by
    intro code isCode yields
    rw [taken, if_pos isCode]
    cases held : latestTime latest code with
    | none => rfl
    | some other => rw [offeredTime, if_pos (yields other held)]
  have declined : ∀ code other, code ∈ scan.validCodes → latestTime latest code = some other →
      ¬ notAfter other (datetimeToWire event.ts) = true → after code = some other := by
    intro code other isCode held stays
    rw [taken, if_pos isCode, held, offeredTime, if_neg stays]
  have others : ∀ code, ¬ code ∈ scan.validCodes → after code = latestTime latest code :=
    fun code notCode => (taken code).trans (if_neg notCode)
  have offer := holdsNewest_offer_iff newest keepsNewer offered declined others
  have same := snapshotTimes_upsertAll invariant stored isScan own
  constructor
  · intro holds code isCode scannedAt held yields
    exact offer.mp (holds.congr fun time code => (same time code).symm) code scannedAt isCode held
      yields
  · intro inOrder
    refine (offer.mpr ?_).congr same
    exact fun code scannedAt isCode held yields => inOrder code isCode scannedAt held yields

end Steps

/-! ## Runs -/

section Runs

variable {host : Host} {settings : ScanSettings} {events : Table ReceivedEvent} {state : ScanState}

theorem noScanRowLost_processed_iff {event : GatewayEvent} {scan : Scan} {tables : ScanTables}
    (lost : NoScanRowLost host settings state)
    (isScan : successfulScan host settings event = some scan)
    (keeps : ∀ key, (state.tables.snapshots.find? key).isSome →
      (tables.snapshots.find? key).isSome) :
    NoScanRowLost host settings { tables := tables, processed := event :: state.processed } ↔
      (∀ code ∈ scan.validCodes, (tables.snapshots.find? (scan.key event code)).isSome) ∧
        HoldsNewest scanInstant (snapshotTimes tables.snapshots) (latestTime tables.latest) := by
  constructor
  · intro after
    exact ⟨after.covered event List.mem_cons_self scan isScan, after.latest⟩
  · rintro ⟨covered, latest⟩
    refine ⟨?_, latest⟩
    intro other isProcessed otherScan otherIsScan code isCode
    rcases List.mem_cons.mp isProcessed with rfl | earlier
    · obtain rfl : scan = otherScan := Option.some.inj (isScan.symm.trans otherIsScan)
      exact covered code isCode
    · exact keeps _ (lost.covered other earlier otherScan otherIsScan code isCode)

theorem scanInvariant_next (invariant : ScanInvariant host settings events state.tables.snapshots)
    (op : ScanOp) :
    ScanInvariant host settings events
      (scanNext host settings events state op).tables.snapshots := by
  rcases scanNext_effect state op with ⟨same, _⟩ | ⟨event, tables, completed, stored, same, effect⟩
  · rw [same]
    exact invariant
  · rw [same]
    change ScanInvariant host settings events tables.snapshots
    generalize scanOutcome host settings events state op = outcome at effect
    cases effect with
    | left snapshots latest noRows =>
        rw [snapshots]
        exact invariant
    | passed scan isScan snapshots latest =>
        rw [snapshots]
        exact invariant
    | written scan items now isScan own snapshots latest =>
        rw [snapshots]
        exact invariant.written stored isScan own

/-- A step keeps the rows exactly when it is in order. -/
theorem noScanRowLost_next_iff (invariant : ScanInvariant host settings events
      state.tables.snapshots) (lost : NoScanRowLost host settings state) (op : ScanOp) :
    NoScanRowLost host settings (scanNext host settings events state op) ↔
      ScansInOrder host settings events state op := by
  rw [ScansInOrder]
  rcases scanNext_effect state op with ⟨same, left⟩ |
    ⟨event, tables, completed, stored, same, effect⟩
  · rw [same, left]
    exact iff_of_true lost trivial
  · rw [same]
    generalize scanOutcome host settings events state op = outcome at effect ⊢
    cases effect with
    | left snapshots latest noRows =>
        refine iff_of_true ⟨?_, ?_⟩ trivial
        · intro other isProcessed scan isScan code isCode
          rw [ScanState.after, snapshots]
          cases completed with
          | false => exact lost.covered other isProcessed scan isScan code isCode
          | true =>
              rcases List.mem_cons.mp isProcessed with rfl | earlier
              · rw [noRows rfl] at isScan
                cases isScan
              · exact lost.covered other earlier scan isScan code isCode
        · rw [ScanState.after, snapshots, latest]
          exact lost.latest
    | passed scan isScan snapshots latest =>
        have keeps : ∀ key, (state.tables.snapshots.find? key).isSome →
            (tables.snapshots.find? key).isSome := by
          rw [snapshots]
          exact fun _ present => present
        rw [ScanState.after, if_pos rfl, noScanRowLost_processed_iff lost isScan keeps, snapshots,
          latest, invariant.covered_iff stored isScan]
        exact and_iff_left lost.latest
    | written scan items now isScan own snapshots latest =>
        have keeps : ∀ key, (state.tables.snapshots.find? key).isSome →
            (tables.snapshots.find? key).isSome := by
          intro key present
          rw [snapshots, Table.isSome_find?_upsertAll]
          exact Or.inr present
        rw [ScanState.after, if_pos rfl, noScanRowLost_processed_iff lost isScan keeps, snapshots,
          latest, latest_written_iff invariant stored isScan own lost.latest]
        exact and_iff_right fun code isCode => own.covers isCode

theorem noScanRowLost_noScans : NoScanRowLost host settings noScans where
  covered _ isProcessed := absurd isProcessed List.not_mem_nil
  latest :=
    { present := by
        rintro time code ⟨snapshot, present, _⟩
        cases present
      newest := by
        intro code time held
        cases held }

theorem scanInvariant_noScans : ScanInvariant host settings events noScans.tables.snapshots where
  own _ present := absurd present List.not_mem_nil
  whole _ _ _ _ hasRows := by
    rcases hasRows with ⟨snapshot, present, _⟩
    cases present

end Runs

theorem no_scan_row_lost_iff (ops : List ScanOp) :
    (scanSystem host settings events).Throughout (NoScanRowLost host settings) noScans ops ↔
      (scanSystem host settings events).Along (ScansInOrder host settings events) noScans ops := by
  apply System.throughout_iff_along fun state =>
    ScanInvariant host settings events state.tables.snapshots ∧ NoScanRowLost host settings state
  · exact fun _ holds => holds.2
  · rintro state op ⟨invariant, lost⟩ inOrder
    exact ⟨scanInvariant_next invariant op,
      (noScanRowLost_next_iff invariant lost op).mpr inOrder⟩
  · rintro state op ⟨invariant, lost⟩ after
    exact (noScanRowLost_next_iff invariant lost op).mp after
  · exact ⟨scanInvariant_noScans, noScanRowLost_noScans⟩

/-! ## Two pages of one request -/

def listedScans : ScanSettings where
  trCodes := [("TRADE_VALUE", "OPT10032"), ("CHANGE_RATE", "OPT10027")]
  markets := ["KOSPI", "KOSDAQ"]
  parserStatus := "PILOT_UNVERIFIED"

theorem stripped_trResponse : Stripped "tr_response" := by decide

/-- A page of the response to a scan request, with one stock on it. -/
def scanPage (eventId : String) (stripped : Stripped eventId) (code : String) : GatewayEvent where
  eventId := eventId
  eventType := "tr_response"
  source := "kiwoom"
  ts := Time.microsPerSecond
  payload := [("request_id", .str "market_scan:TRADE_VALUE:KOSPI:run-1"),
    ("tr_code", .str "OPT10032"), ("request_name", .str "market_scan_trade_value_kospi"),
    ("success", .bool true), ("rows", .arr [.obj [("code", .str code)]])]
  commandId := none
  idempotencyKey := none
  eventId_stripped := stripped
  eventType_stripped := stripped_trResponse
  source_stripped := stripped_kiwoom
  commandId_stripped := strippedOption_none
  idempotencyKey_stripped := strippedOption_none

def firstPage : GatewayEvent := scanPage "evt-page-1" (by decide) "005930"

def secondPage : GatewayEvent := scanPage "evt-page-2" (by decide) "000660"

def scanPages : Table ReceivedEvent where
  rows := [
    { event := firstPage, accepted := true, receivedAt := datetimeToWire 2000000,
      inCalendar := by decide },
    { event := secondPage, accepted := true, receivedAt := datetimeToWire 2000000,
      inCalendar := by decide }]
  nodup := by decide

def inlineScanCall : ScanCall where
  now := 2000000
  generatedBy := "gateway_inline"
  fault := none

def bothPages : List ScanOp :=
  [.inline "evt-page-1" inlineScanCall, .inline "evt-page-2" inlineScanCall]

theorem bothPages_codes :
    ((scanSystem wholeNumberHost listedScans scanPages).run noScans
      bothPages).tables.snapshots.rows.map ScanSnapshot.code = ["005930"] := by
  decide +kernel

theorem secondPage_codes :
    (successfulScan wholeNumberHost listedScans secondPage).map Scan.validCodes =
      some ["000660"] := by
  decide +kernel

theorem secondPage_returns :
    returns (processMarketScanEvent wholeNumberHost listedScans scanPages
      ((scanSystem wholeNumberHost listedScans scanPages).run noScans
        [.inline "evt-page-1" inlineScanCall]).tables secondPage inlineScanCall).2 = true := by
  decide +kernel

theorem mem_processed_of_returns {host : Host} {settings : ScanSettings}
    {events : Table ReceivedEvent} {state : ScanState} {eventId : String} {call : ScanCall}
    {received : ReceivedEvent} (found : events.find? eventId = some received)
    (accepted : received.accepted = true)
    (done : returns (processMarketScanEvent host settings events state.tables received.event
      call).2 = true) :
    received.event ∈ (scanNext host settings events state (.inline eventId call)).processed := by
  simp [scanNext, found, accepted, ScanState.after, done]

theorem secondPage_processed :
    secondPage ∈ ((scanSystem wholeNumberHost listedScans scanPages).run noScans
      bothPages).processed := by
  have done := secondPage_returns
  have found : scanPages.find? "evt-page-2" = some
      { event := secondPage, accepted := true, receivedAt := datetimeToWire 2000000,
        inCalendar := by decide } := rfl
  exact mem_processed_of_returns found rfl done

theorem second_page_is_lost :
    ¬ (scanSystem wholeNumberHost listedScans scanPages).Throughout
      (NoScanRowLost wholeNumberHost listedScans) noScans bothPages := by
  intro throughout
  have lost := throughout bothPages [] (List.append_nil _).symm
  have isProcessed := secondPage_processed
  have snapshotCodes := bothPages_codes
  generalize (scanSystem wholeNumberHost listedScans scanPages).run noScans bothPages = ended
    at lost isProcessed snapshotCodes
  rcases Option.map_eq_some_iff.mp secondPage_codes with ⟨scan, isScan, codes⟩
  have present := lost.covered secondPage isProcessed scan isScan "000660" (by simp [codes])
  rcases Option.isSome_iff_exists.mp present with ⟨row, found⟩
  have isKey : (row.scanId, row.scanType, row.market, row.code) = scan.key secondPage "000660" :=
    Table.key_of_find? found
  have isCode : row.code = "000660" := congrArg (fun key => key.2.2.2) isKey
  have listed : row.code ∈ ended.tables.snapshots.rows.map ScanSnapshot.code :=
    List.mem_map_of_mem (Table.mem_of_find? found)
  rw [snapshotCodes, isCode] at listed
  exact absurd listed (by decide)

end SuseokTrader
