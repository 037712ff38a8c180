import SuseokTrader.LiveSim.LifecycleInbox
import SuseokTrader.LiveSim.OrderStatus

/-!
# Every lifecycle event is applied once

A transaction keeps the rows that are applied, applies one event, or puts a
failure on record. Only the last does not look at who holds the row: where it
is made by the party that still does, every event is applied at most once, and
a worker that has lost its claim writes nothing.
-/

namespace SuseokTrader

/-! ## What a transaction does to the inbox -/

structure AppliedKept (before after : Table InboxRow) : Prop where
  stays : ∀ eventId row, before.find? eventId = some row → row.status = .applied →
    after.find? eventId = some row
  comes : ∀ eventId row, after.find? eventId = some row → row.status = .applied →
    before.find? eventId = some row

theorem AppliedKept.refl (inbox : Table InboxRow) : AppliedKept inbox inbox :=
  ⟨fun _ _ found _ => found, fun _ _ found _ => found⟩

theorem AppliedKept.trans {before between after : Table InboxRow}
    (first : AppliedKept before between) (second : AppliedKept between after) :
    AppliedKept before after where
  stays eventId row found applied :=
    second.stays eventId row (first.stays eventId row found applied) applied
  comes eventId row found applied :=
    first.comes eventId row (second.comes eventId row found applied) applied

variable {inbox : Table InboxRow} {row : InboxRow} {store written : LifecycleStore}
  {event : GatewayEvent} {now : Instant} {ownerId eventId message : String}
  {party : LifecycleParty} {op : LifecycleOp} {next : LifecycleState}
  {readings : LifecycleReadings} {ends : TransactionEnd}

theorem appliedKept_updateWhere {condition : InboxRow → Bool} {change : InboxRow → InboxRow}
    {keeps : ∀ row, Keyed.key (change row) = Keyed.key row}
    (isOpen : ∀ row, condition row = true →
      row.status ≠ .applied ∧ (change row).status ≠ .applied) :
    AppliedKept inbox (inbox.updateWhere condition change keeps) := by
  constructor
  · intro eventId row found applied
    rw [Table.find?_updateWhere, found]
    cases meets : condition row with
    | true => exact absurd applied (isOpen row meets).1
    | false => simp [meets]
  · intro eventId row found applied
    rw [Table.find?_updateWhere, Option.map_eq_some_iff] at found
    rcases found with ⟨old, found, same⟩
    cases meets : condition old with
    | true =>
        simp only [meets, if_true] at same
        exact absurd (same ▸ applied) (isOpen old meets).2
    | false =>
        simp only [meets] at same
        rw [found, ← same]
        rfl

theorem appliedKept_insert? {inserted : Table InboxRow}
    (success : inbox.insert? row = some inserted) (isOpen : row.status ≠ .applied) :
    AppliedKept inbox inserted := by
  have fresh : inbox.find? row.eventId = none :=
    Table.insert?_isSome_iff.mp (Option.isSome_of_mem success)
  constructor
  · intro eventId other found _
    have different : row.eventId ≠ eventId := by
      rintro rfl
      simp [fresh] at found
    rw [Table.find?_of_insert?_of_ne success different]
    exact found
  · intro eventId other found applied
    by_cases same : row.eventId = eventId
    · subst same
      have isRow := Table.find?_of_insert?_self success
      change inserted.find? row.eventId = some row at isRow
      rw [isRow, Option.some.injEq] at found
      exact absurd (found ▸ applied) isOpen
    · rw [← Table.find?_of_insert?_of_ne success same]
      exact found

theorem enqueue_cases (success : enqueueLiveSimLifecycleEvent store event now = .ok written) :
    written = store ∨ ∃ position inbox, store.ledger.events.find? event.eventId = some position ∧
      store.inbox.insert? (freshInboxRow event position.eventRowid (datetimeToWire now)) =
        some inbox ∧
      written = store.setInbox inbox := by
  unfold enqueueLiveSimLifecycleEvent at success
  split at success
  · cases success
    exact Or.inl rfl
  · split at success
    · next stored position _ found =>
        split at success
        · cases success
          exact Or.inl rfl
        · split at success
          · cases success
            exact Or.inl rfl
          · dsimp only at success
            split at success
            · cases success
            · cases success
              cases inserts : store.inbox.insert?
                  (freshInboxRow event position.eventRowid (datetimeToWire now)) with
              | none => exact Or.inl rfl
              | some inbox => exact Or.inr ⟨position, inbox, found, inserts, rfl⟩
    · cases success

theorem appliedKept_enqueue (success : enqueueLiveSimLifecycleEvent store event now = .ok written) :
    AppliedKept store.inbox written.inbox ∧ written.liveSim = store.liveSim := by
  rcases enqueue_cases success with rfl | ⟨position, inbox, _, inserts, rfl⟩
  · exact ⟨AppliedKept.refl _, rfl⟩
  · exact ⟨appliedKept_insert? inserts (fun applied => by cases applied), rfl⟩

theorem statusAfterAttempts_ne_applied (attempts retryLimit : Int) :
    statusAfterAttempts attempts retryLimit ≠ .applied := by
  unfold statusAfterAttempts
  split <;> simp

theorem appliedKept_resetStaleRows (settings : LifecycleSettings) (now : Instant)
    (rows : List (String × Int)) (inbox : Table InboxRow) :
    AppliedKept inbox (resetStaleRows inbox settings now rows) := by
  induction rows generalizing inbox with
  | nil => exact AppliedKept.refl inbox
  | cons row rows ih =>
      refine AppliedKept.trans (appliedKept_updateWhere ?_) (ih _)
      intro old meets
      simp only [Bool.and_eq_true, decide_eq_true_eq] at meets
      exact ⟨by simp [meets.2], statusAfterAttempts_ne_applied _ _⟩

theorem appliedKept_resetDeadLetter (inbox : Table InboxRow) (eventId : String) (now : Instant) :
    AppliedKept inbox (resetLiveSimLifecycleDeadLetter inbox eventId now) := by
  refine appliedKept_updateWhere ?_
  intro old meets
  simp only [Bool.and_eq_true, decide_eq_true_eq] at meets
  exact ⟨by simp [meets.2], by simp [reopenedRow]⟩

theorem claimNextInboxRow_eq_some {claimed : Table InboxRow}
    (claims : claimNextInboxRow inbox ownerId now = some (row, claimed)) :
    row ∈ inbox.rows ∧ some row.eventRowid = earliestUnresolved inbox ∧ row.status = .pending ∧
      claimed = inbox.update row.eventId (claimedRow ownerId (datetimeToWire now))
        (key_claimedRow _ _) := by
  unfold claimNextInboxRow at claims
  rw [Option.map_eq_some_iff] at claims
  rcases claims with ⟨found, isFound, same⟩
  cases same
  have meets := List.find?_some isFound
  simp only [Bool.and_eq_true, decide_eq_true_eq] at meets
  exact ⟨List.mem_of_find?_eq_some isFound, meets.1.1, meets.1.2, rfl⟩

theorem appliedKept_claim {claimed : Table InboxRow}
    (claims : claimNextInboxRow inbox ownerId now = some (row, claimed)) :
    AppliedKept inbox claimed := by
  rcases claimNextInboxRow_eq_some claims with ⟨present, _, pending, rfl⟩
  constructor
  · intro eventId other found applied
    have different : eventId ≠ row.eventId := by
      rintro rfl
      have isRow := Table.find?_of_mem present
      change inbox.find? row.eventId = some row at isRow
      rw [isRow, Option.some.injEq] at found
      rw [← found, pending] at applied
      cases applied
    rw [Table.find?_update_of_ne different]
    exact found
  · intro eventId other found applied
    by_cases same : eventId = row.eventId
    · subst same
      have isRow := Table.find?_of_mem present
      change inbox.find? row.eventId = some row at isRow
      rw [Table.find?_update_self isRow, Option.some.injEq] at found
      rw [← found] at applied
      cases applied
    · rw [Table.find?_update_of_ne same] at found
      exact found

/-! ## What an operation does -/

def LifecyclePhase.inHand : LifecyclePhase → Option String
  | loading eventId => some eventId
  | applying event => some event.eventId
  | failing eventId _ => some eventId
  | idle | enqueueing _ | routing _ | enqueueingInline _ | resetting _ _ | claiming => none

/-- An operation keeps what is applied, applies one event, or puts a failure on record. -/
inductive LifecycleMove (host : Host) (state : LifecycleState) :
    LifecycleOp → LifecycleState → Prop
  | keeps {op : LifecycleOp} {next : LifecycleState}
      (inbox : AppliedKept state.store.inbox next.store.inbox)
      (liveSim : next.store.liveSim = state.store.liveSim) (applied : next.applied = state.applied)
      (idle : ∀ party readings ends, op = .advance party readings ends →
        (state.phases party).inHand ≠ none → next.store = state.store) :
      LifecycleMove host state op next
  | applies {party : LifecycleParty} {readings : LifecycleReadings} {ends : TransactionEnd}
      {next : LifecycleState} {event : GatewayEvent} {row : InboxRow} {reply}
      (phase : state.phases party = .applying event)
      (found : state.store.inbox.find? event.eventId = some row)
      (allowed : refusesApply row party.expectedOwner = none)
      (inbox : next.store.inbox = state.store.inbox.update event.eventId
        (appliedRow party.consumerSource reply (datetimeToWire readings.now))
        (key_appliedRow _ _ _))
      (applied : next.applied = event.eventId :: state.applied) :
      LifecycleMove host state (.advance party readings ends) next
  | fails {party : LifecycleParty} {readings : LifecycleReadings} {ends : TransactionEnd}
      {next : LifecycleState} {eventId message : String} {row : InboxRow}
      (phase : state.phases party = .failing eventId message)
      (commits : ends.failure = none)
      (found : state.store.inbox.find? eventId = some row)
      (inbox : next.store.inbox = state.store.inbox.update eventId
        (failedRow message readings.settings readings.now) (key_failedRow _ _ _))
      (liveSim : next.store.liveSim = state.store.liveSim)
      (applied : next.applied = state.applied) :
      LifecycleMove host state (.advance party readings ends) next

variable {host : Host} {state : LifecycleState}

@[simp]
theorem phases_setPhase_self (party : LifecycleParty) (phase : LifecyclePhase) :
    (state.setPhase party phase).phases party = phase := by
  simp [LifecycleState.setPhase]

theorem phases_setPhase_of_ne {other : LifecycleParty} (different : other ≠ party)
    (phase : LifecyclePhase) : (state.setPhase party phase).phases other = state.phases other := by
  simp [LifecycleState.setPhase, different]

theorem move_of_store_eq (store : next.store = state.store)
    (applied : next.applied = state.applied) :
    LifecycleMove host state op next := by
  refine .keeps ?_ (by rw [store]) applied (fun _ _ _ _ _ => store)
  rw [store]
  exact AppliedKept.refl _

theorem move_setPhase (op : LifecycleOp) (party : LifecycleParty) (phase : LifecyclePhase) :
    LifecycleMove host state op (state.setPhase party phase) :=
  move_of_store_eq rfl rfl

theorem commitOr_cases (party : LifecycleParty) (ends : TransactionEnd)
    (written : Checked (LifecycleStore × LifecyclePhase)) :
    state.commitOr party ends written = state.setPhase party .idle ∨
      ends.failure = none ∧ ∃ store phase, written = .ok (store, phase) ∧
        state.commitOr party ends written = (state.setStore store).setPhase party phase := by
  unfold LifecycleState.commitOr
  cases fails : ends.failure with
  | some message => exact Or.inl rfl
  | none =>
      cases written with
      | error failure => exact Or.inl rfl
      | ok result => exact Or.inr ⟨rfl, result.1, result.2, rfl, rfl⟩

theorem move_commitOr {written : Checked (LifecycleStore × LifecyclePhase)}
    (free : (state.phases party).inHand = none)
    (keeps : ∀ store phase, written = .ok (store, phase) →
      AppliedKept state.store.inbox store.inbox ∧ store.liveSim = state.store.liveSim) :
    LifecycleMove host state (.advance party readings ends)
      (state.commitOr party ends written) := by
  rcases commitOr_cases party ends written with same | ⟨_, store, phase, isWritten, same⟩
  · rw [same]
    exact move_setPhase _ party _
  · rw [same]
    rcases keeps store phase isWritten with ⟨inbox, liveSim⟩
    refine .keeps inbox liveSim rfl ?_
    rintro other readings' ends' isOp inHand
    cases isOp
    exact absurd free inHand

theorem routeLiveSimLifecycleEvent_cases {inline : Bool}
    (success : routeLiveSimLifecycleEvent store event readings = .ok (written, inline)) :
    ∃ decisions, written = { store with decisions := decisions } := by
  unfold routeLiveSimLifecycleEvent at success
  split at success
  · cases success
    exact ⟨store.decisions, rfl⟩
  · rw [Checked.bind_eq_ok] at success
    rcases success with ⟨⟨between, decision⟩, decides, success⟩
    cases success
    unfold decideLiveSimLifecycleRouting at decides
    split at decides
    · cases decides
      exact ⟨store.decisions, rfl⟩
    · split at decides
      · cases decides
      · cases decides
        exact ⟨_, rfl⟩

theorem handleInTransaction_eq_ok {consumerSource : String}
    (success : handleInTransaction host store event consumerSource readings = .ok written) :
    ∃ liveSim ledger reply, ledger.events = store.ledger.events ∧
      written = { store with
        liveSim := liveSim
        ledger := ledger
        inbox := store.inbox.update event.eventId
          (appliedRow consumerSource reply (datetimeToWire readings.now))
          (key_appliedRow _ _ _) } := by
  rw [handleInTransaction, Checked.bind_eq_ok] at success
  rcases success with ⟨⟨liveSim, reply⟩, _, success⟩
  rw [Checked.bind_eq_ok] at success
  rcases success with ⟨ledger, recorded, success⟩
  cases success
  refine ⟨liveSim, ledger, reply, ?_, rfl⟩
  rcases recordProjectionEventResult_cases recorded with ⟨_, same⟩ | ⟨_, row, _, _, _, same, _⟩
  · rw [same]
  · exact same

theorem markLifecycleFailure_eq_ok {settings : LifecycleSettings}
    (success : markLifecycleFailure store eventId message settings now = .ok written) :
    written = store ∨ ∃ row ledger, store.inbox.find? eventId = some row ∧
      ledger.events = store.ledger.events ∧
      written = { store with
        ledger := ledger
        inbox := store.inbox.update eventId (failedRow message settings now)
          (key_failedRow _ _ _) } := by
  unfold markLifecycleFailure at success
  split at success
  · cases success
    exact Or.inl rfl
  · next row found =>
      rw [Checked.bind_eq_ok] at success
      rcases success with ⟨ledger, recorded, success⟩
      cases success
      refine Or.inr ⟨row, ledger, found, ?_, rfl⟩
      rcases recordProjectionEventResult_cases recorded with ⟨_, same⟩ | ⟨_, _, _, _, _, same, _⟩
      · rw [same]
      · exact same

theorem applyLifecycleEvent_cases (store : LifecycleStore) (event : GatewayEvent)
    (consumerSource : String) (expectedOwner : Option String) (readings : LifecycleReadings) :
    ((applyLifecycleEvent host store event consumerSource expectedOwner readings).2 ≠ .applied ∧
      (applyLifecycleEvent host store event consumerSource expectedOwner readings).1 = store) ∨
    ∃ row written, store.inbox.find? event.eventId = some row ∧
      refusesApply row expectedOwner = none ∧
      handleInTransaction host store event consumerSource readings = .ok written ∧
      applyLifecycleEvent host store event consumerSource expectedOwner readings =
        (written, .applied) := by
  unfold applyLifecycleEvent
  cases found : store.inbox.find? event.eventId with
  | none => exact Or.inl ⟨by simp, rfl⟩
  | some row =>
      cases refuses : refusesApply row expectedOwner with
      | some refusal =>
          refine Or.inl ⟨?_, by simp [refuses]⟩
          simp only [refuses]
          rintro rfl
          unfold refusesApply at refuses
          split at refuses
          · cases refuses
          · cases refuses
          · split at refuses <;> cases refuses
          · split at refuses
            · split at refuses <;> cases refuses
            · cases refuses
      | none =>
          cases handles : handleInTransaction host store event consumerSource readings with
          | error failure => exact Or.inl ⟨by simp [refuses], by simp [refuses]⟩
          | ok written => exact Or.inr ⟨row, written, rfl, refuses, rfl, by simp [refuses]⟩

/-- An apply settles the phase of its party, or commits the effects of its event. -/
theorem apply_cases (party : LifecycleParty) (event : GatewayEvent)
    (readings : LifecycleReadings) (ends : TransactionEnd) :
    (∃ phase, (phase = .idle ∨ phase = .claiming ∨ ∃ message,
        phase = .failing event.eventId message) ∧
      state.apply host party event readings ends = state.setPhase party phase) ∨
    ∃ row written, state.store.inbox.find? event.eventId = some row ∧
      refusesApply row party.expectedOwner = none ∧
      handleInTransaction host state.store event party.consumerSource readings = .ok written ∧
      state.apply host party event readings ends =
        { (state.setStore written).setPhase party party.afterApply with
          applied := event.eventId :: state.applied } := by
  have afterApply : party.afterApply = .idle ∨ party.afterApply = .claiming := by
    cases party with
    | worker ownerId => exact Or.inr rfl
    | request requestId => exact Or.inl rfl
  rcases @applyLifecycleEvent_cases host state.store event party.consumerSource
      party.expectedOwner readings with
    ⟨notApplied, _⟩ | ⟨row, written, found, allowed, handles, same⟩
  · left
    unfold LifecycleState.apply
    generalize applyLifecycleEvent host state.store event party.consumerSource
      party.expectedOwner readings = result at notApplied
    rcases result with ⟨store, applyEnd⟩
    cases ends with
    | doesNotBegin message => exact ⟨_, Or.inr (Or.inr ⟨message, rfl⟩), rfl⟩
    | doesNotCommit message =>
        cases applyEnd with
        | applied => exact absurd rfl notApplied
        | duplicate => exact ⟨_, Or.inr (Or.inr ⟨message, rfl⟩), rfl⟩
        | raised failure => exact ⟨_, Or.inr (Or.inr ⟨failure, rfl⟩), rfl⟩
        | deadLetter => exact ⟨_, Or.inl rfl, rfl⟩
        | deferred => exact ⟨_, Or.inl rfl, rfl⟩
        | claimLost => exact ⟨_, Or.inl rfl, rfl⟩
        | rowMissing => exact ⟨_, Or.inl rfl, rfl⟩
    | commits =>
        cases applyEnd with
        | applied => exact absurd rfl notApplied
        | duplicate => exact ⟨_, afterApply.imp_right Or.inl, rfl⟩
        | raised failure => exact ⟨_, Or.inr (Or.inr ⟨failure, rfl⟩), rfl⟩
        | deadLetter => exact ⟨_, Or.inl rfl, rfl⟩
        | deferred => exact ⟨_, Or.inl rfl, rfl⟩
        | claimLost => exact ⟨_, Or.inl rfl, rfl⟩
        | rowMissing => exact ⟨_, Or.inl rfl, rfl⟩
  · unfold LifecycleState.apply
    rw [same]
    cases ends with
    | doesNotBegin message => exact Or.inl ⟨_, Or.inr (Or.inr ⟨message, rfl⟩), rfl⟩
    | doesNotCommit message => exact Or.inl ⟨_, Or.inr (Or.inr ⟨message, rfl⟩), rfl⟩
    | commits => exact Or.inr ⟨row, written, found, allowed, handles, rfl⟩

theorem move_apply (phase : state.phases party = .applying event) :
    LifecycleMove host state (.advance party readings ends)
      (state.apply host party event readings ends) := by
  rcases @apply_cases host state party event readings ends with
    ⟨next, _, same⟩ | ⟨row, written, found, allowed, handles, same⟩
  · rw [same]
    exact move_setPhase _ party next
  · rw [same]
    rcases handleInTransaction_eq_ok handles with ⟨liveSim, ledger, reply, _, rfl⟩
    exact .applies phase found allowed rfl rfl

theorem Checked.map_eq_ok {Value Other : Type} {checked : Checked Value}
    {function : Value → Other} {result : Other} :
    checked.map function = .ok result ↔ ∃ value, checked = .ok value ∧ function value = result := by
  cases checked with
  | error failure => simp [Except.map]
  | ok value => simp [Except.map]

theorem move_mark (phase : state.phases party = .failing eventId message) :
    LifecycleMove host state (.advance party readings ends)
      (state.commitOr party ends
        ((markLifecycleFailure state.store eventId message readings.settings readings.now).map
          fun store => (store, .idle))) := by
  rcases @commitOr_cases state party ends
      ((markLifecycleFailure state.store eventId message readings.settings readings.now).map
        fun store => (store, .idle)) with same | ⟨commits, store, next, isWritten, same⟩
  · rw [same]
    exact move_setPhase _ party _
  · rw [same]
    rcases Checked.map_eq_ok.mp isWritten with ⟨written, marked, same⟩
    cases same
    rcases markLifecycleFailure_eq_ok marked with rfl | ⟨row, ledger, found, _, rfl⟩
    · exact move_of_store_eq rfl rfl
    · exact .fails phase commits found rfl rfl rfl

theorem move_advance (party : LifecycleParty) (readings : LifecycleReadings)
    (ends : TransactionEnd) :
    LifecycleMove host state (.advance party readings ends)
      (state.advance host party readings ends) := by
  unfold LifecycleState.advance
  cases phase : state.phases party with
  | idle => exact move_of_store_eq rfl rfl
  | enqueueing event =>
      refine move_commitOr (by rw [phase]; rfl) fun store next isWritten => ?_
      rcases Checked.map_eq_ok.mp isWritten with ⟨written, enqueued, same⟩
      cases same
      exact appliedKept_enqueue enqueued
  | routing event =>
      refine move_commitOr (by rw [phase]; rfl) fun store next isWritten => ?_
      rcases Checked.map_eq_ok.mp isWritten with ⟨⟨written, inline⟩, routed, same⟩
      cases same
      rcases routeLiveSimLifecycleEvent_cases routed with ⟨decisions, rfl⟩
      exact ⟨AppliedKept.refl _, rfl⟩
  | enqueueingInline event =>
      refine move_commitOr (by rw [phase]; rfl) fun store next isWritten => ?_
      rcases Checked.map_eq_ok.mp isWritten with ⟨written, enqueued, same⟩
      cases same
      exact appliedKept_enqueue enqueued
  | resetting rows now =>
      refine move_commitOr (by rw [phase]; rfl) fun store next isWritten => ?_
      cases isWritten
      exact ⟨appliedKept_resetStaleRows _ _ _ _, rfl⟩
  | claiming =>
      refine move_commitOr (by rw [phase]; rfl) fun store next isWritten => ?_
      cases claims : claimNextInboxRow state.store.inbox (party.expectedOwner.getD "")
          readings.now with
      | none =>
          rw [claims] at isWritten
          cases isWritten
          exact ⟨AppliedKept.refl _, rfl⟩
      | some claimed =>
          rw [claims] at isWritten
          cases isWritten
          exact ⟨appliedKept_claim claims, rfl⟩
  | loading eventId => exact move_setPhase _ party _
  | applying event => exact move_apply phase
  | failing eventId message => exact move_mark phase

theorem storeEvent_kept (store : LifecycleStore) (event : GatewayEvent) (accepted : Bool)
    (receivedAt : String) :
    (store.storeEvent event accepted receivedAt).inbox = store.inbox ∧
      (store.storeEvent event accepted receivedAt).liveSim = store.liveSim ∧
      (store.storeEvent event accepted receivedAt).decisions = store.decisions := by
  unfold LifecycleStore.storeEvent
  dsimp only
  split <;> exact ⟨rfl, rfl, rfl⟩

theorem move_lifecycleNext (host : Host) (state : LifecycleState) (op : LifecycleOp) :
    LifecycleMove host state op (lifecycleNext host state op) := by
  cases op with
  | store event accepted receivedAt =>
      rcases storeEvent_kept state.store event accepted receivedAt with ⟨inbox, liveSim, _⟩
      refine .keeps ?_ liveSim rfl (fun _ _ _ isOp => by cases isOp)
      change AppliedKept _ (state.store.storeEvent event accepted receivedAt).inbox
      rw [inbox]
      exact AppliedKept.refl _
  | route requestId event =>
      dsimp only [lifecycleNext]
      split
      · split
        · exact move_setPhase _ _ _
        · exact move_of_store_eq rfl rfl
      · exact move_of_store_eq rfl rfl
  | processBatch ownerId readings =>
      dsimp only [lifecycleNext]
      split
      · split
        · exact move_setPhase _ _ _
        · exact move_of_store_eq rfl rfl
      · exact move_of_store_eq rfl rfl
  | advance party readings ends => exact move_advance party readings ends
  | resetDeadLetter eventId now =>
      refine .keeps ?_ rfl rfl (fun _ _ _ isOp => by cases isOp)
      exact appliedKept_resetDeadLetter _ _ _
  | abandon party => exact move_setPhase _ party _

/-! ## The law -/

def InboxRow.HeldBy (row : InboxRow) (ownerId : String) : Prop :=
  row.status = .processing ∧ row.lockedBy = some ownerId

def ClaimLost (state : LifecycleState) (ownerId eventId : String) : Prop :=
  (state.phases (.worker ownerId)).inHand = some eventId ∧
    ∀ row, state.store.inbox.find? eventId = some row → ¬ row.HeldBy ownerId

/-- After the operation no event has been applied twice; an applied row stays applied, and a
worker that has lost its claim has changed neither the row nor a trading table. -/
structure AppliesOnce (state : LifecycleState) (op : LifecycleOp) (next : LifecycleState) :
    Prop where
  once : next.applied.Nodup
  counted : next.store.liveSim = state.store.liveSim ∨
    ∃ eventId, next.applied = eventId :: state.applied
  stays : ∀ eventId row, state.store.inbox.find? eventId = some row → row.status = .applied →
    ∃ after, next.store.inbox.find? eventId = some after ∧ after.status = .applied
  lost : ∀ ownerId eventId readings ends, op = .advance (.worker ownerId) readings ends →
    ClaimLost state ownerId eventId →
    next.store.inbox.find? eventId = state.store.inbox.find? eventId ∧
      next.store.liveSim = state.store.liveSim

/-- Whether a party may still put its failure on the row: a worker while it holds the row, a
request while the row is not applied. -/
def InboxRow.OpenTo (row : InboxRow) : LifecycleParty → Prop
  | .worker ownerId => row.HeldBy ownerId
  | .request _ => row.status ≠ .applied

instance (row : InboxRow) (party : LifecycleParty) : Decidable (row.OpenTo party) :=
  match party with
  | .worker _ => inferInstanceAs (Decidable (_ ∧ _))
  | .request _ => inferInstanceAs (Decidable (_ ≠ _))

/-- A failure that is put on record finds the row open to its party. -/
def MarksOwnFailure (state : LifecycleState) : LifecycleOp → Prop
  | .advance party _ .commits =>
      match state.phases party with
      | .failing eventId _ => ∀ row ∈ state.store.inbox.find? eventId, row.OpenTo party
      | _ => True
  | _ => True

def LifecyclePhase.failingEvent : LifecyclePhase → Option String
  | .failing eventId _ => some eventId
  | _ => none

theorem marksOwnFailure_iff :
    MarksOwnFailure state (.advance party readings .commits) ↔
      ∀ eventId ∈ (state.phases party).failingEvent,
        ∀ row ∈ state.store.inbox.find? eventId, row.OpenTo party := by
  cases phase : state.phases party <;>
    simp [MarksOwnFailure, LifecyclePhase.failingEvent, phase]

instance (state : LifecycleState) : (op : LifecycleOp) → Decidable (MarksOwnFailure state op)
  | .advance _ _ .commits => decidable_of_iff _ marksOwnFailure_iff.symm
  | .advance _ _ (.doesNotBegin _) => isTrue trivial
  | .advance _ _ (.doesNotCommit _) => isTrue trivial
  | .store _ _ _ => isTrue trivial
  | .route _ _ => isTrue trivial
  | .processBatch _ _ => isTrue trivial
  | .resetDeadLetter _ _ => isTrue trivial
  | .abandon _ => isTrue trivial

theorem MarksOwnFailure.openTo (marks : MarksOwnFailure state (.advance party readings ends))
    (commits : ends.failure = none) (phase : state.phases party = .failing eventId message)
    (found : state.store.inbox.find? eventId = some row) : row.OpenTo party := by
  cases ends with
  | commits =>
      simp only [MarksOwnFailure, phase] at marks
      exact marks row found
  | doesNotBegin message => cases commits
  | doesNotCommit message => cases commits

structure AppliedOnRecord (state : LifecycleState) : Prop where
  once : state.applied.Nodup
  recorded : ∀ eventId ∈ state.applied,
    ∃ row, state.store.inbox.find? eventId = some row ∧ row.status = .applied

theorem InboxRow.OpenTo.status_ne (isOpen : row.OpenTo party) : row.status ≠ .applied := by
  cases party with
  | worker ownerId => simp [isOpen.1]
  | request requestId => exact isOpen

theorem openTo_of_refusesApply (allowed : refusesApply row party.expectedOwner = none) :
    row.OpenTo party := by
  unfold refusesApply LifecycleParty.expectedOwner at allowed
  cases party with
  | worker ownerId =>
      cases status : row.status <;> simp [status] at allowed
      exact ⟨status, allowed⟩
  | request requestId =>
      cases status : row.status <;> simp [status] at allowed
      simp [InboxRow.OpenTo, status]

theorem not_claimLost_of_openTo (found : state.store.inbox.find? eventId = some row)
    (isOpen : row.OpenTo (.worker ownerId)) :
    ¬ ClaimLost state ownerId eventId :=
  fun lost => lost.2 row found isOpen

theorem appliedOnRecord_initial (inboxStartedAt : String) :
    AppliedOnRecord (LifecycleState.initial inboxStartedAt) :=
  ⟨List.nodup_nil, fun _ isApplied => by cases isApplied⟩

theorem find?_update_of_applied {key : String} {change : InboxRow → InboxRow}
    {keeps : ∀ row, Keyed.key (change row) = Keyed.key row} (found : inbox.find? key = some row)
    (isOpen : row.status ≠ .applied) {other : InboxRow}
    (present : inbox.find? eventId = some other) (applied : other.status = .applied) :
    (inbox.update key change keeps).find? eventId = some other := by
  have different : eventId ≠ key := by
    rintro rfl
    rw [found, Option.some.injEq] at present
    exact isOpen (present ▸ applied)
  rw [Table.find?_update_of_ne different, present]

theorem AppliedOnRecord.move (record : AppliedOnRecord state) (marks : MarksOwnFailure state op)
    (move : LifecycleMove host state op next) : AppliedOnRecord next := by
  cases move with
  | keeps inbox liveSim applied idle =>
      refine ⟨by rw [applied]; exact record.once, fun eventId isApplied => ?_⟩
      rw [applied] at isApplied
      rcases record.recorded eventId isApplied with ⟨row, found, status⟩
      exact ⟨row, inbox.stays eventId row found status, status⟩
  | applies phase found allowed inbox applied =>
      have isOpen := (openTo_of_refusesApply allowed).status_ne
      constructor
      · rw [applied, List.nodup_cons]
        refine ⟨fun isApplied => ?_, record.once⟩
        rcases record.recorded _ isApplied with ⟨other, present, status⟩
        rw [found, Option.some.injEq] at present
        exact isOpen (present ▸ status)
      · intro eventId isApplied
        rw [inbox]
        rw [applied, List.mem_cons] at isApplied
        rcases isApplied with rfl | isApplied
        · exact ⟨_, Table.find?_update_self found, rfl⟩
        · rcases record.recorded eventId isApplied with ⟨other, present, status⟩
          exact ⟨other, find?_update_of_applied found isOpen present status, status⟩
  | fails phase commits found inbox liveSim applied =>
      have isOpen := (marks.openTo commits phase found).status_ne
      refine ⟨by rw [applied]; exact record.once, fun other isApplied => ?_⟩
      rw [applied] at isApplied
      rcases record.recorded other isApplied with ⟨row', present, status⟩
      rw [inbox]
      exact ⟨row', find?_update_of_applied found isOpen present status, status⟩

theorem appliesOnce_of_move (record : AppliedOnRecord state) (marks : MarksOwnFailure state op)
    (move : LifecycleMove host state op next) : AppliesOnce state op next := by
  have once := (record.move marks move).once
  cases move with
  | keeps inbox liveSim applied idle =>
      refine ⟨once, Or.inl liveSim, ?_, ?_⟩
      · intro eventId row found status
        exact ⟨row, inbox.stays eventId row found status, status⟩
      · rintro ownerId eventId readings ends rfl lost
        have same := idle _ readings ends rfl (by simp [lost.1])
        rw [same]
        exact ⟨rfl, rfl⟩
  | applies phase found allowed inbox applied =>
      have isOpen := openTo_of_refusesApply allowed
      refine ⟨once, Or.inr ⟨_, applied⟩, ?_, ?_⟩
      · intro eventId row present status
        rw [inbox]
        exact ⟨row, find?_update_of_applied found isOpen.status_ne present status, status⟩
      · rintro ownerId eventId readings' ends' isOp lost
        cases isOp
        have inHand := lost.1
        rw [phase, LifecyclePhase.inHand, Option.some.injEq] at inHand
        subst inHand
        exact absurd lost (not_claimLost_of_openTo found isOpen)
  | fails phase commits found inbox liveSim applied =>
      have isOpen := marks.openTo commits phase found
      refine ⟨once, Or.inl liveSim, ?_, ?_⟩
      · intro eventId row present status
        rw [inbox]
        exact ⟨row, find?_update_of_applied found isOpen.status_ne present status, status⟩
      · rintro ownerId eventId readings' ends' isOp lost
        cases isOp
        have inHand := lost.1
        rw [phase, LifecyclePhase.inHand, Option.some.injEq] at inHand
        subst inHand
        exact absurd lost (not_claimLost_of_openTo found isOpen)

def lockedSettings : LifecycleSettings where
  consumerEnabled := true
  workerEnabled := true
  retryLimit := 5
  retryDelaySec := 5
  processingTtlSec := 60
  requireWorkerHealth := false
  maxUnresolvedCount := 100
  cutoverEnabled := false
  globalKillSwitch := false
  inlineFallbackEnabled := true
  liveSim := sampleLiveSimSettings

def lockedReadings (now : Instant) : LifecycleReadings where
  settings := lockedSettings
  now := now
  ids := { executionId := "execution-1", positionId := "position-1" }
  workerHealthy := true

def startedEvent : GatewayEvent where
  eventId := "event-1"
  eventType := "command_started"
  source := "kiwoom_gateway"
  ts := 0
  payload := []
  commandId := some "cmd-1"
  idempotencyKey := none
  eventId_stripped := stripped_firstEvent
  eventType_stripped := by decide
  source_stripped := stripped_kiwoomGateway
  commandId_stripped := strippedOption_firstCommand
  idempotencyKey_stripped := strippedOption_none

/-- A step of the worker, or of the request, that goes through. -/
def goesOn (party : LifecycleParty) (second : Nat) : LifecycleOp :=
  .advance party (lockedReadings (second * Time.microsPerSecond)) .commits

/-- The request waits for the lock under which the worker applies the event. When it gives up it
marks the applied row as failed. -/
def lockedOut : List LifecycleOp :=
  [.store startedEvent true "1970-01-01T00:00:01+00:00", .route "request-1" startedEvent,
    goesOn (.request "request-1") 1, goesOn (.request "request-1") 1,
    goesOn (.request "request-1") 1, .processBatch "worker-1" (lockedReadings 2000000),
    goesOn (.worker "worker-1") 2, goesOn (.worker "worker-1") 2, goesOn (.worker "worker-1") 2,
    goesOn (.worker "worker-1") 2,
    .advance (.request "request-1") (lockedReadings 3000000) (.doesNotBegin "database is locked"),
    goesOn (.request "request-1") 3, goesOn (.worker "worker-1") 60,
    goesOn (.worker "worker-1") 60]

theorem applied_lockedOut :
    ((lifecycleSystem sampleHost).run (.initial "1970-01-01 00:00:00")
      (lockedOut ++ [goesOn (.worker "worker-1") 60])).applied = ["event-1", "event-1"] := by
  decide +kernel

/-- The request finds the lock free again before it marks its failure, and the worker applies the
event. -/
def lockedOutOnce : List LifecycleOp :=
  [.store startedEvent true "1970-01-01T00:00:01+00:00", .route "request-1" startedEvent,
    goesOn (.request "request-1") 1, goesOn (.request "request-1") 1,
    goesOn (.request "request-1") 1,
    .advance (.request "request-1") (lockedReadings 1000000) (.doesNotBegin "database is locked"),
    goesOn (.request "request-1") 1, .processBatch "worker-1" (lockedReadings 60000000),
    goesOn (.worker "worker-1") 60, goesOn (.worker "worker-1") 60, goesOn (.worker "worker-1") 60,
    goesOn (.worker "worker-1") 60]

end SuseokTrader
