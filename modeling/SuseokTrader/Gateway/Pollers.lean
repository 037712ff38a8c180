import SuseokTrader.Broker.TimeOrder
import SuseokTrader.Gateway.OrderRuns

/-!
# Competing pollers

Any number of pollers share the store. A poller looks without a lock whether
there is anything to do and only later opens its write transaction, so between
the two every other transaction can run. The look reads and decides nothing
but whether the transaction is opened. The system here lets a transaction come
at any time, which covers every interleaving of looks and transactions.

The operators and the other parts of the program write the rest of the
database; `elsewhere` replaces all of it at once. So the routing fence may
change in any way between two transactions.
-/

namespace SuseokTrader

open GatewayCommandStatus

/-! ## The system -/

/-- A transaction on the shared database. -/
inductive PollersOp where
  | transact (limit : Nat) (fence claim : Instant)
  | sweep (dispatchedTimeoutSec : Int) (now : Instant)
  | event (commandId eventType : String) (payload : Payload) (eventId occurredAt : Option String)
      (now : Instant)
  | enqueue (command : GatewayCommand) (expiresAt : Option Instant) (now : Instant)
  | elsewhere (tables : Database)

namespace PollersOp

def reading : PollersOp → Option Instant
  | transact _ _ claim => some claim
  | sweep _ now => some now
  | _ => none

/-- The operation of the store that the transaction is, if it is one. A dispatch is one whose look
comes right before its transaction. -/
def storeOp : PollersOp → Option StoreOp
  | transact limit fence claim => some (.dispatch limit ⟨claim, fence, fence, claim⟩)
  | sweep dispatchedTimeoutSec now => some (.sweep dispatchedTimeoutSec now)
  | event commandId eventType payload eventId occurredAt now =>
      some (.event commandId eventType payload eventId occurredAt now)
  | enqueue command expiresAt now => some (.enqueue command expiresAt now)
  | elsewhere _ => none

end PollersOp

structure PollersState where
  db : Database
  clock : Instant

variable (host : Host)

/-- The database after a transaction and the rows it dispatches. -/
def pollersTables (db : Database) : PollersOp → Database × List CommandRow
  | .transact limit fence claim =>
      match dispatchTransaction host db limit fence claim with
      | some (rows, written) => (written, rows)
      | none => (db, [])
  | .sweep dispatchedTimeoutSec now => storeStep host db (.sweep dispatchedTimeoutSec now)
  | .event commandId eventType payload eventId occurredAt now =>
      storeStep host db (.event commandId eventType payload eventId occurredAt now)
  | .enqueue command expiresAt now => storeStep host db (.enqueue command expiresAt now)
  | .elsewhere tables =>
      ({ tables with
          commands := db.commands
          dedupeKeys := db.dedupeKeys
          commandEvents := db.commandEvents
          boundaries := db.boundaries }, [])

def pollersStep (state : PollersState) (op : PollersOp) :
    PollersState × List CommandRow :=
  let (db, rows) := pollersTables host state.db op
  ({ db := db, clock := op.reading.getD state.clock }, rows)

/-- The store under any number of pollers. -/
def pollers : System PollersState PollersOp (List CommandRow) where
  step := pollersStep host

/-! ## A look decides nothing else -/

variable {row : CommandRow} {db : Database} {fence claim : Instant}

theorem isReady_of_blocked {now : String} {blocked : Bool}
    (ready : isReady now blocked row = true) : isReady now false row = true := by
  simp only [isReady, Bool.and_eq_true] at ready ⊢
  exact ⟨ready.1, rfl⟩

theorem rows_of_idle {host : Host} (idle : dispatchPrecheck host db claim fence = false) :
    ∀ row ∈ db.commands.rows, isExpiredQueued (datetimeToWire claim) row = false ∧
      isReady (datetimeToWire claim) (orderRoutingBlocked host db fence) row = false := by
  simp only [dispatchPrecheck, Bool.or_eq_true, List.any_eq_true] at idle
  intro row present
  have unexpired : isExpiredQueued (datetimeToWire claim) row = false := by
    by_contra expires
    simp only [Bool.not_eq_false] at expires
    have found : db.commands.rows.any (isExpiredQueued (datetimeToWire claim)) = true :=
      List.any_eq_true.mpr ⟨row, present, expires⟩
    rw [if_pos (Or.inl ⟨row, present, expires⟩), found] at idle
    cases idle
  refine ⟨unexpired, ?_⟩
  by_contra readies
  simp only [Bool.not_eq_false] at readies
  have found : db.commands.rows.any
      (isReady (datetimeToWire claim) (orderRoutingBlocked host db fence)) = true :=
    List.any_eq_true.mpr ⟨row, present, readies⟩
  rw [if_pos (Or.inr ⟨row, present, isReady_of_blocked readies⟩), found, Bool.or_true] at idle
  cases idle

theorem dispatchTransaction_of_idle {host : Host}
    (idle : dispatchPrecheck host db claim fence = false) (limit : Nat) :
    dispatchTransaction host db limit fence claim = some ([], db) := by
  have rows := rows_of_idle idle
  have swept : expireQueued db.commands (datetimeToWire claim) = db.commands :=
    Table.updateWhere_of_forall fun row present => (rows row present).1
  have nothing : selectReady db.commands (datetimeToWire claim)
      (orderRoutingBlocked host db fence) limit = [] := by
    have none : db.commands.rows.filter
        (isReady (datetimeToWire claim) (orderRoutingBlocked host db fence)) = [] :=
      List.filter_eq_nil_iff.mpr fun row present => by simp [(rows row present).2]
    simp [selectReady, none]
  simp only [dispatchTransaction, swept, nothing]
  rfl

theorem dispatchReadyCommands_of_late_look (db : Database) (limit : Nat)
    (fence claim : Instant) :
    dispatchReadyCommands host db limit ⟨claim, fence, fence, claim⟩ =
      dispatchTransaction host db limit fence claim := by
  simp only [dispatchReadyCommands]
  split
  · rfl
  · next idle =>
      rw [dispatchTransaction_of_idle (by simpa using idle)]

theorem pollersTables_eq {op : PollersOp} {storeOp : StoreOp} (same : op.storeOp = some storeOp)
    (host : Host) (db : Database) : pollersTables host db op = storeStep host db storeOp := by
  cases op with
  | transact limit fence claim =>
      cases same
      have lateLook := dispatchReadyCommands_of_late_look host db limit fence claim
      cases claimed : dispatchTransaction host db limit fence claim with
      | none => simp [pollersTables, storeStep, lateLook, claimed]
      | some claimed => simp [pollersTables, storeStep, lateLook, claimed]
  | sweep dispatchedTimeoutSec now =>
      cases same
      rfl
  | event commandId eventType payload eventId occurredAt now =>
      cases same
      rfl
  | enqueue command expiresAt now =>
      cases same
      rfl
  | elsewhere tables => cases same

/-! ## What a transaction does to one command -/

def sentIds (state : PollersState) (op : PollersOp) : List String :=
  ((pollers host).output state op).map CommandRow.commandId

def pollersMove (db : Database) (op : PollersOp) (commandId : String) : Move :=
  match op.storeOp with
  | some storeOp => moveOf host db storeOp commandId
  | none => .stay

variable {host : Host} {state : PollersState} {op : PollersOp} {commandId : String}

theorem clock_next : ((pollers host).next state op).clock = op.reading.getD state.clock :=
  rfl

theorem next_of_storeOp {storeOp : StoreOp} (same : op.storeOp = some storeOp) :
    ((pollers host).next state op).db = (store host).next state.db storeOp ∧
      sentIds host state op = dispatchedIds host state.db storeOp := by
  have tables := pollersTables_eq same host state.db
  exact ⟨congrArg Prod.fst tables, congrArg (fun result => result.2.map CommandRow.commandId) tables⟩

theorem next_of_elsewhere (commandId : String) (elsewhere : op.storeOp = none) :
    SameSlot commandId state.db ((pollers host).next state op).db ∧
      (pollers host).output state op = [] ∧ op.reading = none := by
  cases op with
  | elsewhere tables => exact ⟨⟨rfl, rfl⟩, rfl, rfl⟩
  | transact limit fence claim => cases elsewhere
  | sweep dispatchedTimeoutSec now => cases elsewhere
  | event eventCommandId eventType payload eventId occurredAt now => cases elsewhere
  | enqueue command expiresAt now => cases elsewhere

theorem pollers_shows {life : Lifecycle} (shows : Shows state.db commandId life)
    (op : PollersOp) :
    Shows ((pollers host).next state op).db commandId
      (life.after (pollersMove host state.db op commandId)) := by
  cases isStore : op.storeOp with
  | some storeOp =>
      simp only [pollersMove, isStore]
      rw [(next_of_storeOp isStore).1]
      exact shows_next shows storeOp
  | none =>
      simp only [pollersMove, isStore]
      exact (next_of_elsewhere commandId isStore).1.shows shows

theorem pollers_absent (host : Host) (absent : Absent state.db commandId) (op : PollersOp) :
    Absent ((pollers host).next state op).db commandId ∨
      ∃ order, Shows ((pollers host).next state op).db commandId (Lifecycle.fresh order) := by
  cases isStore : op.storeOp with
  | some storeOp =>
      rw [(next_of_storeOp isStore).1]
      exact absent_next absent storeOp
  | none => exact Or.inl ((next_of_elsewhere commandId isStore).1.absent absent)

theorem pollers_tracks (tracks : Tracks (fun _ => True) commandId state.db) (op : PollersOp) :
    Tracks (fun _ => True) commandId ((pollers host).next state op).db := by
  rcases tracks with absent | ⟨life, shows, _⟩
  · rcases pollers_absent host absent op with stays | ⟨order, stored⟩
    · exact Or.inl stays
    · exact Or.inr ⟨_, stored, trivial⟩
  · exact Or.inr ⟨_, pollers_shows shows op, trivial⟩

theorem pollersMove_of_sent {life : Lifecycle} (shows : Shows state.db commandId life)
    (sent : commandId ∈ sentIds host state op) :
    pollersMove host state.db op commandId = .claim ∧ life.status = queued := by
  cases isStore : op.storeOp with
  | some storeOp =>
      rw [(next_of_storeOp isStore).2] at sent
      simp only [pollersMove, isStore]
      exact moveOf_of_dispatched shows sent
  | none =>
      rw [sentIds, (next_of_elsewhere commandId isStore).2.1] at sent
      cases sent

theorem exists_row_of_sent (sent : commandId ∈ sentIds host state op) :
    ∃ limit fence claim row,
      op = .transact limit fence claim ∧ row ∈ (pollers host).output state op ∧
      row.commandId = commandId ∧
      dispatchTransaction host state.db limit fence claim =
        some ((pollers host).output state op, ((pollers host).next state op).db) := by
  rcases List.mem_map.mp sent with ⟨row, present, sameId⟩
  cases isStore : op.storeOp with
  | none =>
      rw [(next_of_elsewhere commandId isStore).2.1] at present
      cases present
  | some storeOp =>
      rw [(next_of_storeOp isStore).2] at sent
      rcases dispatch_of_dispatched sent with ⟨limit, readings, rfl, _, _⟩
      cases op with
      | transact limit fence claim =>
          refine ⟨limit, fence, claim, row, rfl, present, sameId, ?_⟩
          simp only [System.output, System.next, pollers, pollersStep, pollersTables] at present ⊢
          cases dispatched : dispatchTransaction host state.db limit fence claim with
          | none => simp [dispatched] at present
          | some result => rfl
      | sweep dispatchedTimeoutSec now => cases isStore
      | event eventCommandId eventType payload eventId occurredAt now => cases isStore
      | enqueue command expiresAt now => cases isStore
      | elsewhere tables => cases isStore

/-! ## Expiry times -/

@[simp]
theorem expiresAt_claimCommandRow (status : GatewayCommandStatus) (now : String)
    (row : CommandRow) : (claimCommandRow status now row).expiresAt = row.expiresAt :=
  rfl

theorem expiresAt_sweptRow (now cutoff : String) (row : CommandRow) :
    (sweptRow now cutoff row).expiresAt = row.expiresAt := by
  simp only [sweptRow]
  split
  · rfl
  · split
    · rfl
    · split <;> rfl

theorem expiresAt_storeNext (found : db.commands.find? commandId = some row) (op : StoreOp) :
    ∃ after, ((store host).next db op).commands.find? commandId = some after ∧
      after.expiresAt = row.expiresAt := by
  by_cases success : succeeds host db op = true
  · cases op with
    | enqueue command expiresAt now =>
        rcases enqueue_of_succeeds success with ⟨result, stored⟩
        exact ⟨row, (enqueueCommand_frame stored found).command.trans found, rfl⟩
    | sweep dispatchedTimeoutSec now =>
        rcases sweep_of_succeeds success with ⟨counts, swept⟩
        exact ⟨_, expireStaleGatewayCommands_row found swept, expiresAt_sweptRow _ _ row⟩
    | dispatch limit readings =>
        rcases dispatchReadyCommands_cases (dispatch_of_succeeds success) with
          ⟨_, _, same⟩ | ⟨_, dispatched⟩
        · rw [same]
          exact ⟨row, found, rfl⟩
        · refine ⟨_, dispatchTransaction_row found dispatched, ?_⟩
          split
          · exact expiresAt_claimCommandRow _ _ row
          · split <;> rfl
    | event eventCommandId eventType payload eventId occurredAt now =>
        rcases event_of_succeeds success with ⟨status, recorded⟩
        by_cases same : commandId = eventCommandId
        · subst same
          rcases recordCommandEvent_row found recorded with ⟨after, _, _, afterFound, same, _⟩
          refine ⟨after, afterFound, ?_⟩
          rw [same]
        · exact ⟨row, (recordCommandEvent_frame recorded same).command.trans found, rfl⟩
  · rw [(next_of_fails success).1]
    exact ⟨row, found, rfl⟩

theorem expiresAt_next (host : Host) (found : state.db.commands.find? commandId = some row)
    (op : PollersOp) :
    ∃ after, ((pollers host).next state op).db.commands.find? commandId = some after ∧
      after.expiresAt = row.expiresAt := by
  cases isStore : op.storeOp with
  | some storeOp =>
      rw [(next_of_storeOp isStore).1]
      exact expiresAt_storeNext found storeOp
  | none =>
      exact ⟨row, (next_of_elsewhere commandId isStore).1.command.trans found, rfl⟩

def PastExpiry (commandId : String) (state : PollersState) : Prop :=
  ∃ row ∈ state.db.commands.find? commandId, ∃ expiry, Time.InCalendar expiry ∧
    row.expiresAt = some (datetimeToWire expiry) ∧ expiry ≤ state.clock

/-- The clock does not go back, and where it is compared with the expiry time of a queued command
the two do not fall into one second of which exactly one of them is the whole second. -/
def ClockInStep (state : PollersState) (op : PollersOp) : Prop :=
  ∀ reading, op.reading = some reading → state.clock ≤ reading ∧ Time.InCalendar reading ∧
    ∀ row ∈ state.db.commands.rows, row.status = queued.value →
      ∀ text, row.expiresAt = some text →
        ∃ expiry, Time.InCalendar expiry ∧ text = datetimeToWire expiry ∧
          ¬ Time.WholeSecondClash reading expiry

theorem PastExpiry.next (past : PastExpiry commandId state) (inStep : ClockInStep state op) :
    PastExpiry commandId ((pollers host).next state op) := by
  rcases past with ⟨row, found, expiry, inCalendar, expires, passed⟩
  rcases expiresAt_next host found op with ⟨after, afterFound, same⟩
  refine ⟨after, afterFound, expiry, inCalendar, same.trans expires, passed.trans ?_⟩
  rw [clock_next]
  cases isReading : op.reading with
  | none => exact le_rfl
  | some reading => exact (inStep reading isReading).1

theorem le_of_wire_le {reading expiry : Instant} (readingBound : Time.InCalendar reading)
    (expiryBound : Time.InCalendar expiry) (clear : ¬ Time.WholeSecondClash reading expiry)
    (reached : datetimeToWire expiry ≤ datetimeToWire reading) : expiry ≤ reading := by
  by_contra later
  have less := (datetimeToWire_lt_iff readingBound expiryBound clear).mpr (Nat.lt_of_not_le later)
  exact absurd reached (String.not_le.mpr less)

/-! ## The laws of a dispatch -/

/-- A closed fence keeps new orders back and lets cancellations through. -/
def FenceHeld (host : Host) (state : PollersState) (op : PollersOp) : Prop :=
  ∀ limit fence claim, op = .transact limit fence claim →
    orderRoutingBlocked host state.db fence = true →
    (∀ row ∈ (pollers host).output state op,
      normalizeCommandType row.commandType ≠ "send_order") ∧
    ((dispatchTransaction host state.db limit fence claim).isSome = true →
      ∀ row ∈ state.db.commands.rows, normalizeCommandType row.commandType = "cancel_order" →
        isReady (datetimeToWire claim) false row = true →
        row ∈ (pollers host).output state op ∨
          ((pollers host).output state op).length = limit ∧
            ∀ taken ∈ (pollers host).output state op, inDispatchOrder taken row = true)

/-- A dispatch claims each of its orders with a boundary row, or changes nothing. -/
def ClaimsWhole (host : Host) (state : PollersState) (op : PollersOp) : Prop :=
  ∀ limit fence claim, op = .transact limit fence claim →
    (((pollers host).next state op).db = state.db ∧ (pollers host).output state op = []) ∨
      ∀ row ∈ (pollers host).output state op,
        state.db.commands.find? row.commandId = some row ∧
        (isOrderCommandType row.commandType = true →
          ∃ claimedRow boundary,
            ((pollers host).next state op).db.commands.find? row.commandId = some claimedRow ∧
            claimedRow.status = claimed.value ∧ claimedRow.attempts = row.attempts + 1 ∧
            ((pollers host).next state op).db.boundaries.find? row.commandId = some boundary)

/-- A rate limit puts the command back into the queue. -/
def Requeues (host : Host) (commandId : String) (state : PollersState) (op : PollersOp) : Prop :=
  (∃ eventType payload eventId occurredAt now,
    op = .event commandId eventType payload eventId occurredAt now ∧
      isRateLimited eventType = true) ∧
    ¬ HasStatus state.db commandId queued ∧
    HasStatus ((pollers host).next state op).db commandId queued

/-- Between two dispatches of a command a rate limit puts it back into the queue. -/
def SentAgainOnlyAfterRequeue (host : Host) (initial : PollersState) (ops : List PollersOp) :
    Prop :=
  ∀ commandId before first between second later,
    ops = before ++ first :: (between ++ second :: later) →
    commandId ∈ sentIds host ((pollers host).run initial before) first →
    commandId ∈ sentIds host
      ((pollers host).run initial (before ++ first :: between)) second →
    ∃ earlier requeue rest, between = earlier ++ requeue :: rest ∧
      Requeues host commandId
        ((pollers host).run initial (before ++ first :: earlier)) requeue

def SentInTime (host : Host) (state : PollersState) (op : PollersOp) : Prop :=
  ∀ row ∈ (pollers host).output state op, ∀ reading, op.reading = some reading →
    ∀ expiry, Time.InCalendar expiry → row.expiresAt = some (datetimeToWire expiry) →
      reading < expiry

/-- No command is dispatched after it was expired, or after its time. -/
def NotSentAfterExpiry (host : Host) (initial : PollersState) (ops : List PollersOp) : Prop :=
  (∀ commandId, (pollers host).Once (fun state => HasStatus state.db commandId expired)
    (fun state op => commandId ∉ sentIds host state op) initial ops) ∧
    (pollers host).Along (SentInTime host) initial ops

/-! ## The laws that hold of every step -/

theorem output_of_transact {limit : Nat} {rows : List CommandRow} {written : Database}
    (success : dispatchTransaction host state.db limit fence claim = some (rows, written)) :
    (pollers host).output state (.transact limit fence claim) = rows ∧
      ((pollers host).next state (.transact limit fence claim)).db = written := by
  simp only [System.output, System.next, pollers, pollersStep, pollersTables, success, and_self]

theorem output_of_rollback {limit : Nat}
    (failure : dispatchTransaction host state.db limit fence claim = none) :
    (pollers host).output state (.transact limit fence claim) = [] ∧
      ((pollers host).next state (.transact limit fence claim)).db = state.db := by
  simp only [System.output, System.next, pollers, pollersStep, pollersTables, failure, and_self]

theorem normalized_of_tracks (tracks : ∀ commandId, Tracks (fun _ => True) commandId state.db)
    (present : row ∈ state.db.commands.rows) :
    normalizeCommandType row.commandType = row.commandType := by
  have found : state.db.commands.find? row.commandId = some row := Table.find?_of_mem present
  rcases tracks row.commandId with absent | ⟨life, shows, _⟩
  · rw [absent.command] at found
    cases found
  · rcases shows.command with ⟨other, otherFound, showsRow⟩
    rw [found, Option.some.injEq] at otherFound
    exact otherFound ▸ showsRow.normalized

theorem fenceHeld (tracks : ∀ commandId, Tracks (fun _ => True) commandId state.db)
    (op : PollersOp) : FenceHeld host state op := by
  rintro limit fence claim rfl blocked
  cases success : dispatchTransaction host state.db limit fence claim with
  | none =>
      rw [(output_of_rollback success).1]
      refine ⟨?_, ?_⟩
      · intro row absent
        cases absent
      · intro commits
        cases commits
  | some result =>
      rcases result with ⟨rows, written⟩
      rw [(output_of_transact success).1]
      constructor
      · intro row selected isSend
        rcases dispatched_ready success selected with ⟨found, ready⟩
        have normalized := normalized_of_tracks tracks (Table.mem_of_find? found)
        rw [normalized] at isSend
        have same : Text.lower "send_order" = "send_order" := by decide
        simp [isReady, blocked, isSend, same] at ready
      · intro _ row present isCancel ready
        have normalized := normalized_of_tracks tracks present
        rw [normalized] at isCancel
        have unblocked : isReady (datetimeToWire claim)
            (orderRoutingBlocked host state.db fence) row = true := by
          have other : Text.lower "cancel_order" ≠ "send_order" := by decide
          simpa [isReady, isCancel, other] using ready
        have unexpired : isExpiredQueued (datetimeToWire claim) row = false := by
          simp only [isReady, Bool.and_eq_true, isUnexpired] at ready
          cases expires : row.expiresAt with
          | none => simp [isExpiredQueued, reached, expires]
          | some expiresAt =>
              have later : datetimeToWire claim < expiresAt := by
                simpa [expires] using ready.1.2
              simpa [isExpiredQueued, reached, expires] using fun _ => later
        have swept := find?_expireQueued (Table.find?_of_mem present) (datetimeToWire claim)
        rw [unexpired] at swept
        rw [(dispatchTransaction_cases success).1]
        exact mem_selectReady_or (Table.mem_of_find? swept) unblocked limit

theorem claimsWhole (host : Host) (state : PollersState) (op : PollersOp) :
    ClaimsWhole host state op := by
  rintro limit fence claim rfl
  cases success : dispatchTransaction host state.db limit fence claim with
  | none =>
      left
      exact ⟨(output_of_rollback success).2, (output_of_rollback success).1⟩
  | some result =>
      right
      rcases result with ⟨rows, written⟩
      rw [(output_of_transact success).1, (output_of_transact success).2]
      intro row selected
      rcases dispatched_ready success selected with ⟨found, _⟩
      refine ⟨found, ?_⟩
      intro order
      have after := dispatchTransaction_row found success
      rw [if_pos (List.mem_map_of_mem selected)] at after
      rcases dispatchTransaction_claims success selected with
        ⟨before, claimedStore, _, _, step, sameAfter⟩
      have boundary := sameAfter.boundary.trans ((claimCommand_cases step).2.2.1 order)
      refine ⟨_, _, after, ?_, rfl, boundary⟩
      simp only [claimedStatus, order]
      rfl

theorem requeues_of_queued (tracks : Tracks (fun _ => True) commandId state.db)
    (stored : state.db.commands.find? commandId ≠ none)
    (notQueued : ¬ HasStatus state.db commandId queued)
    (isQueued : HasStatus ((pollers host).next state op).db commandId queued) :
    Requeues host commandId state op := by
  refine ⟨?_, notQueued, isQueued⟩
  rcases tracks with absent | ⟨life, shows, _⟩
  · exact absurd absent.command stored
  · rw [shows.hasStatus_iff] at notQueued
    rw [(pollers_shows shows op).hasStatus_iff] at isQueued
    rcases Lifecycle.status_after_cases life (pollersMove host state.db op commandId) with
      same | ⟨moves, _⟩ | ⟨_, wasQueued, _⟩ | ⟨other, _⟩
    · exact absurd (same.symm.trans isQueued) notQueued
    · cases isStore : op.storeOp with
      | none =>
          simp [pollersMove, isStore] at moves
      | some storeOp =>
          simp only [pollersMove, isStore] at moves
          rcases event_of_moveOf moves with
            ⟨eventType, payload, eventId, occurredAt, now, rfl, _, kind⟩
          refine ⟨eventType, payload, eventId, occurredAt, now, ?_, ?_⟩
          · cases op with
            | event => 
                cases isStore
                rfl
            | transact | sweep | enqueue | elsewhere => cases isStore
          · exact (isRateLimited_iff host eventType payload).mpr kind
    · exact absurd wasQueued notQueued
    · exact absurd isQueued other

theorem not_queued_of_sent (tracks : Tracks (fun _ => True) commandId state.db)
    (sent : commandId ∈ sentIds host state op) :
    HasStatus state.db commandId queued ∧
      ¬ HasStatus ((pollers host).next state op).db commandId queued := by
  rcases exists_row_of_sent sent with ⟨limit, fence, claim, row, rfl, selected, rfl, success⟩
  rcases dispatched_ready success selected with ⟨found, ready⟩
  rcases tracks with absent | ⟨life, shows, _⟩
  · rw [absent.command] at found
    cases found
  · rcases pollersMove_of_sent shows sent with ⟨moves, isQueued⟩
    refine ⟨⟨row, found, status_of_isReady ready⟩, ?_⟩
    rw [(pollers_shows shows _).hasStatus_iff, moves]
    simp only [Lifecycle.after, Lifecycle.claimedLife, isQueued, if_true]
    split <;> simp

/-! ## Runs -/

/-- The store before the first command. -/
def pollersStart (catalog : Catalog) (appMetadata : List (String × String)) : PollersState where
  db := Database.empty catalog appMetadata
  clock := 0

theorem tracks_run (host : Host) (catalog : Catalog) (appMetadata : List (String × String))
    (ops : List PollersOp) (commandId : String) :
    Tracks (fun _ => True) commandId
      ((pollers host).run (pollersStart catalog appMetadata) ops).db := by
  apply System.run_invariant fun state : PollersState =>
    Tracks (fun _ => True) commandId state.db
  · exact fun state op tracks => pollers_tracks tracks op
  · exact tracks_empty _ _ _ _

theorem stored_next (stored : state.db.commands.find? commandId ≠ none) (op : PollersOp) :
    ((pollers host).next state op).db.commands.find? commandId ≠ none := by
  rcases Option.ne_none_iff_exists'.mp stored with ⟨row, found⟩
  rcases expiresAt_next host found op with ⟨after, afterFound, _⟩
  simp [afterFound]

theorem sentAgainOnlyAfterRequeue (host : Host) (catalog : Catalog)
    (appMetadata : List (String × String)) (ops : List PollersOp) :
    SentAgainOnlyAfterRequeue host (pollersStart catalog appMetadata) ops := by
  rintro commandId before first between second later rfl sentFirst sentSecond
  have tracksFirst := tracks_run host catalog appMetadata before commandId
  have tracksSecond := tracks_run host catalog appMetadata (before ++ first :: between)
    commandId
  rcases not_queued_of_sent tracksFirst sentFirst with ⟨⟨row, found, _⟩, notQueued⟩
  rcases not_queued_of_sent tracksSecond sentSecond with ⟨isQueued, _⟩
  rw [System.run_append] at isQueued
  rcases System.exists_step_of_run
      (fun state : PollersState => HasStatus state.db commandId queued) notQueued isQueued with
    ⟨earlier, requeue, rest, rfl, wasNot, becomes⟩
  refine ⟨earlier, requeue, rest, rfl, ?_⟩
  have tracks := tracks_run host catalog appMetadata (before ++ first :: earlier)
    commandId
  rw [System.run_append, System.run_cons] at tracks ⊢
  refine requeues_of_queued tracks ?_ wasNot becomes
  apply System.run_invariant fun state : PollersState =>
    state.db.commands.find? commandId ≠ none
  · exact fun state op stored => stored_next stored op
  · apply stored_next
    rw [found]
    simp

theorem reading_of_expire (moves : pollersMove host state.db op commandId = .expire) :
    ∃ reading row, op.reading = some reading ∧ state.db.commands.find? commandId = some row ∧
      isExpiredQueued (datetimeToWire reading) row = true := by
  cases isStore : op.storeOp with
  | none => simp [pollersMove, isStore] at moves
  | some storeOp =>
      simp only [pollersMove, isStore] at moves
      rcases moveOf_cases host state.db storeOp commandId with stays |
        ⟨timeout, now, row, rfl, found, sweeps⟩ | ⟨limit, readings, row, rfl, found, dispatches⟩ |
        ⟨type, payload, id, time, now, rfl, _, kind⟩
      · rw [moves] at stays
        cases stays
      · refine ⟨now, row, ?_, found, ?_⟩
        · cases op with
          | sweep =>
              cases isStore
              rfl
          | transact | event | enqueue | elsewhere => cases isStore
        · rw [moves, sweepMove] at sweeps
          by_contra unexpired
          rw [if_neg unexpired] at sweeps
          split at sweeps <;> cases sweeps
      · refine ⟨readings.claim, row, ?_, found, ?_⟩
        · cases op with
          | transact =>
              cases isStore
              rfl
          | sweep | event | enqueue | elsewhere => cases isStore
        · rw [moves, dispatchMove] at dispatches
          by_contra unexpired
          split at dispatches <;> cases dispatches
      · rw [moves] at kind
        cases kind

def ExpiredInTime (commandId : String) (state : PollersState) : Prop :=
  Tracks (fun _ => True) commandId state.db ∧
    (HasStatus state.db commandId expired → PastExpiry commandId state)

theorem ExpiredInTime.next (timely : ExpiredInTime commandId state)
    (inStep : ClockInStep state op) :
    ExpiredInTime commandId ((pollers host).next state op) := by
  rcases timely with ⟨tracks, past⟩
  refine ⟨pollers_tracks tracks op, ?_⟩
  intro isExpired
  rcases tracks with absent | ⟨life, shows, _⟩
  · rcases pollers_absent host absent op with stays | ⟨order, stored⟩
    · rcases isExpired with ⟨row, found, _⟩
      rw [stays.command] at found
      cases found
    · rw [stored.hasStatus_iff] at isExpired
      cases isExpired
  · rw [(pollers_shows shows op).hasStatus_iff] at isExpired
    rcases Lifecycle.status_after_cases life (pollersMove host state.db op commandId) with
      same | ⟨_, isQueued⟩ | ⟨moves, _, _⟩ | ⟨_, other⟩
    · exact (past ((shows.hasStatus_iff _).mpr (same.symm.trans isExpired))).next inStep
    · rw [isExpired] at isQueued
      cases isQueued
    · rcases reading_of_expire moves with ⟨reading, row, isReading, found, expires⟩
      simp only [isExpiredQueued, Bool.and_eq_true, decide_eq_true_eq, reached] at expires
      rcases inStep reading isReading with ⟨_, readingBound, clear⟩
      cases hasExpiry : row.expiresAt with
      | none =>
          rw [hasExpiry] at expires
          cases expires.2
      | some text =>
          rcases clear row (Table.mem_of_find? found) expires.1 text hasExpiry with
            ⟨expiry, expiryBound, rfl, apart⟩
          rcases expiresAt_next host found op with ⟨after, afterFound, same⟩
          refine ⟨after, afterFound, expiry, expiryBound, same.trans hasExpiry, ?_⟩
          rw [clock_next, isReading]
          rw [hasExpiry] at expires
          exact le_of_wire_le readingBound expiryBound apart (by simpa using expires.2)
    · exact absurd isExpired other

theorem lt_expiry_of_ready {reading expiry : Instant} {blocked : Bool}
    (isReading : op.reading = some reading) (inStep : ClockInStep state op)
    (present : row ∈ state.db.commands.rows)
    (ready : isReady (datetimeToWire reading) blocked row = true)
    (inCalendar : Time.InCalendar expiry) (expires : row.expiresAt = some (datetimeToWire expiry)) :
    reading < expiry := by
  rcases inStep reading isReading with ⟨_, readingBound, clear⟩
  rcases clear row present (status_of_isReady ready) _ expires with
    ⟨other, otherBound, same, apart⟩
  have equal := datetimeToWire_injective inCalendar otherBound same
  subst equal
  simp only [isReady, Bool.and_eq_true, isUnexpired, expires] at ready
  exact (datetimeToWire_lt_iff readingBound inCalendar apart).mp (by simpa using ready.1.2)

theorem sentInTime (inStep : ClockInStep state op) : SentInTime host state op := by
  intro row selected reading isReading expiry inCalendar expires
  rcases exists_row_of_sent (List.mem_map_of_mem selected) with
    ⟨limit, fence, claim, _, rfl, _, _, success⟩
  rcases dispatched_ready success selected with ⟨found, ready⟩
  cases isReading
  exact lt_expiry_of_ready rfl inStep (Table.mem_of_find? found) ready inCalendar expires

theorem notSentAfterExpiry (host : Host) (catalog : Catalog)
    (appMetadata : List (String × String)) {ops : List PollersOp}
    (inStep : (pollers host).Along ClockInStep (pollersStart catalog appMetadata) ops) :
    NotSentAfterExpiry host (pollersStart catalog appMetadata) ops := by
  constructor
  · intro commandId
    apply System.Once.of_along (ExpiredInTime commandId) (PastExpiry commandId) ?_ ?_ ?_ ?_ ?_
      inStep
    · exact fun state op timely inStep => timely.next inStep
    · exact fun state timely isExpired => timely.2 isExpired
    · exact fun state op _ inStep past => past.next inStep
    · rintro state op _ inStep ⟨row, found, expiry, inCalendar, expires, passed⟩ sent
      rcases exists_row_of_sent sent with ⟨limit, fence, claim, taken, rfl, selected, rfl, success⟩
      rcases dispatched_ready success selected with ⟨takenFound, ready⟩
      have same : taken = row := Option.some.inj (takenFound.symm.trans found)
      subst same
      have before := lt_expiry_of_ready rfl inStep (Table.mem_of_find? takenFound) ready
        inCalendar expires
      have forward := (inStep claim rfl).1
      exact absurd (Nat.lt_of_lt_of_le before passed) (Nat.not_lt.mpr forward)
    · refine ⟨tracks_empty _ _ _ _, ?_⟩
      rintro ⟨row, absent, _⟩
      cases absent
  · exact inStep.mono fun state op inStep => sentInTime inStep

/-- Whatever the pollers do, a closed fence lets no new order out and holds no cancellation back, a
command is sent again only after a rate limit, and a dispatch claims its orders whole. No command
is sent after it was expired where the clock keeps in step with the expiry times. -/
theorem dispatches_exclude_each_other (host : Host) (catalog : Catalog)
    (appMetadata : List (String × String)) (ops : List PollersOp) :
    ((pollers host).Along (FenceHeld host) (pollersStart catalog appMetadata) ops ∧
      SentAgainOnlyAfterRequeue host (pollersStart catalog appMetadata) ops ∧
      (pollers host).Along (ClaimsWhole host) (pollersStart catalog appMetadata) ops) ∧
    ((pollers host).Along ClockInStep (pollersStart catalog appMetadata) ops →
      NotSentAfterExpiry host (pollersStart catalog appMetadata) ops) := by
  refine ⟨⟨?_, sentAgainOnlyAfterRequeue host catalog appMetadata ops, ?_⟩,
    notSentAfterExpiry host catalog appMetadata⟩
  · have everywhere : ∀ state op, (∀ commandId, Tracks (fun _ => True) commandId state.db) →
        ∀ commandId, Tracks (fun _ => True) commandId ((pollers host).next state op).db :=
      fun state op tracks commandId => pollers_tracks (tracks commandId) op
    apply System.along_of_invariant everywhere
    · exact fun state op tracks => fenceHeld tracks op
    · exact fun commandId => tracks_empty _ _ _ _
  · have anything : ∀ state op, True → ((fun _ => True) ((pollers host).next state op) : Prop) :=
      fun _ _ _ => trivial
    exact System.along_of_invariant anything (fun state op _ => claimsWhole host state op)
      trivial ops

/-- A cancel order that is valid for a hundred seconds is dispatched in time. -/
def timelyRun : List PollersOp :=
  [.enqueue sampleCancel (some 63900000100000000) 63900000000000000,
    .transact 1 63900000000000000 63900000000000000]

theorem not_sent_after_expiry_of_timely :
    NotSentAfterExpiry sampleHost (pollersStart migratedCatalog migratedMetadata) timelyRun := by
  apply (dispatches_exclude_each_other sampleHost migratedCatalog migratedMetadata timelyRun).2
  refine ⟨?_, ?_, trivial⟩
  · intro reading noReading
    cases noReading
  · intro reading isReading
    cases isReading
    refine ⟨Nat.zero_le _, by decide, ?_⟩
    have texts : ∀ row ∈ ((pollers sampleHost).next (pollersStart migratedCatalog migratedMetadata)
        (.enqueue sampleCancel (some 63900000100000000) 63900000000000000)).db.commands.rows,
        row.expiresAt = some (datetimeToWire 63900000100000000) := by decide +kernel
    intro row present _ text expires
    rw [texts row present, Option.some.injEq] at expires
    refine ⟨63900000100000000, by decide, expires.symm, ?_⟩
    decide

/-- A command that expires on the full second is requeued and dispatched within that second. -/
def lateRun : List PollersOp :=
  [.enqueue sampleCancel (some 63900000100000000) 63900000000000000,
    .transact 1 63900000000000000 63900000000000000,
    .event "cancel-1" "rate_limited" [("retry_after_sec", .int 0)] none none 63900000001000000,
    .sweep 120 63900000100000000,
    .event "cancel-1" "rate_limited" [("retry_after_sec", .int 0)] none none 63900000100100000,
    .transact 1 63900000100300000 63900000100300000]

theorem sent_after_expiry :
    ¬ ((pollers sampleHost).Along (FenceHeld sampleHost)
        (pollersStart migratedCatalog migratedMetadata) lateRun ∧
      SentAgainOnlyAfterRequeue sampleHost (pollersStart migratedCatalog migratedMetadata)
        lateRun ∧
      (pollers sampleHost).Along (ClaimsWhole sampleHost)
        (pollersStart migratedCatalog migratedMetadata) lateRun ∧
      NotSentAfterExpiry sampleHost (pollersStart migratedCatalog migratedMetadata)
        lateRun) := by
  rintro ⟨_, _, _, once, _⟩
  have isExpired : HasStatus ((pollers sampleHost).run
      (pollersStart migratedCatalog migratedMetadata) (lateRun.take 4)).db "cancel-1" expired := by
    decide +kernel
  have along := once "cancel-1" (lateRun.take 4) (lateRun.drop 4) rfl isExpired
  exact along.2.1 (by decide +kernel)

end SuseokTrader
