import SuseokTrader.Runtime.ExecutionLocks

/-!
# Fencing

A token is counted by the fence of its lock in the transaction that stores the
row, so in every view of the tables the row of a lock carries what its fence
counts. A transaction that has written began with what is committed, so what it
has seen of a fence is still so when it commits: a lease it has asserted is the
newest one, and one it has acquired is newer than every other.
-/

namespace SuseokTrader

universe u

/-! ## The tables -/

def LockStore.RowsFenced (store : LockStore) : Prop :=
  ∀ lockName row, store.locks.find? lockName = some row →
    row.fencingToken = store.lastFencingToken lockName

def LockStore.Thinned (store after : LockStore) : Prop :=
  after.fences = store.fences ∧
    ∀ lockName row, after.locks.find? lockName = some row → store.locks.find? lockName = some row

namespace LockStore

variable {store after : LockStore}

theorem lastFencingToken_congr (sameFences : after.fences = store.fences) (lockName : String) :
    after.lastFencingToken lockName = store.lastFencingToken lockName := by
  simp [lastFencingToken, sameFences]

theorem Thinned.rowsFenced (thinned : store.Thinned after) (fenced : store.RowsFenced) :
    after.RowsFenced := by
  intro lockName row found
  rw [lastFencingToken_congr thinned.1]
  exact fenced lockName row (thinned.2 lockName row found)

theorem releaseLock_thinned (store : LockStore) (lease : Lease) :
    store.Thinned (store.releaseLock lease) := by
  refine ⟨rfl, ?_⟩
  intro lockName row found
  simp only [releaseLock, Table.find?_deleteWhere] at found
  exact (Option.filter_eq_some_iff.mp found).1

theorem foldlM_keeps {State : Type u} {Item : Type} {Failure : Type}
    {step : State → Item → Except Failure State} (property : State → Prop)
    (keeps : ∀ state item next, step state item = .ok next → property state → property next)
    {items : List Item} {start ended : State} (loop : items.foldlM step start = .ok ended)
    (holds : property start) : property ended := by
  induction items generalizing start with
  | nil =>
      cases loop
      exact holds
  | cons item items ih =>
      rw [List.foldlM_cons] at loop
      cases first : step start item with
      | error failure =>
          rw [first] at loop
          cases loop
      | ok next =>
          rw [first] at loop
          exact ih loop (keeps start item next first holds)

variable {now : Instant} {lease : Lease}

theorem clearLocks_thinned {processes : Processes} {processId : Int} {deletedCount : Nat}
    (cleared : store.clearLocks now processes processId = .ok (after, deletedCount)) :
    store.Thinned after := by
  refine foldlM_keeps (fun state => store.Thinned state.1) ?_ cleared
    ⟨rfl, fun _ _ found => found⟩
  intro state row next steps thinned
  cases test : clearRow now processes processId row with
  | error failure =>
      simp only [test] at steps
      cases steps
  | ok deleted =>
      simp only [test] at steps
      cases deleted with
      | false =>
          cases steps
          exact thinned
      | true =>
          cases steps
          have released := releaseLock_thinned state.1
            ⟨row.lockName, row.ownerId, row.fencingToken, 0⟩
          refine ⟨released.1.trans thinned.1, ?_⟩
          intro lockName kept found
          exact thinned.2 lockName kept (released.2 lockName kept found)

theorem holds_of_any (holds : store.locks.rows.any lease.holds = true) :
    ∃ row, store.locks.find? lease.lockName = some row ∧ row.fencingToken = lease.fencingToken := by
  rcases List.any_eq_true.mp holds with ⟨row, present, held⟩
  simp only [Lease.holds, decide_eq_true_eq] at held
  rcases held with ⟨sameLock, _, sameToken⟩
  refine ⟨row, ?_, sameToken⟩
  have found := Table.find?_of_mem present
  rwa [show (Keyed.key row : String) = lease.lockName from sameLock] at found

theorem RowsFenced.token_of_any (fenced : store.RowsFenced)
    (holds : store.locks.rows.any lease.holds = true) :
    lease.fencingToken = store.lastFencingToken lease.lockName := by
  rcases holds_of_any holds with ⟨row, found, sameToken⟩
  exact sameToken.symm.trans (fenced lease.lockName row found)

theorem any_of_assertLockRowMatches (matched : store.assertLockRowMatches lease = .ok ()) :
    store.locks.rows.any lease.holds = true := by
  unfold assertLockRowMatches at matched
  split at matched
  · assumption
  · cases matched

theorem renewLock_cases (renewed : store.renewLock lease now = .ok after) :
    store.locks.rows.any lease.holds = true ∧ after.fences = store.fences ∧
      (store.RowsFenced → after.RowsFenced) := by
  unfold renewLock at renewed
  split at renewed
  · next holds =>
      cases renewed
      refine ⟨holds, rfl, ?_⟩
      intro fenced lockName row found
      rw [Table.find?_updateWhere, Option.map_eq_some_iff] at found
      rcases found with ⟨old, oldFound, isRow⟩
      have token : row.fencingToken = old.fencingToken := by
        rw [← isRow]
        split <;> rfl
      exact token.trans (fenced lockName old oldFound)
  · cases renewed

theorem lastFencingToken_next_self (store : LockStore) (lockName : String) (now : Instant) :
    (store.nextFencingToken lockName now).1.lastFencingToken lockName =
      store.lastFencingToken lockName + 1 := by
  have found := Table.find?_upsert_self store.fences
    ⟨lockName, store.lastFencingToken lockName + 1, datetimeToWire now⟩
  change (store.fences.upsert _).find? lockName = _ at found
  change ((store.fences.upsert _).find? lockName).elim 0 _ = _
  rw [found, Option.elim_some]

theorem lastFencingToken_next_of_ne (store : LockStore) {lockName other : String} (now : Instant)
    (different : other ≠ lockName) :
    (store.nextFencingToken lockName now).1.lastFencingToken other =
      store.lastFencingToken other := by
  change ((store.fences.upsert _).find? other).elim 0 _ = _
  rw [Table.find?_upsert_of_ne store.fences different.symm]
  rfl

theorem acquireLock_cases {request : LockRequest} {processes : Processes}
    (acquired : store.acquireLock request now processes = .ok (after, lease)) :
    lease.lockName = request.lockName ∧
      lease.fencingToken = store.lastFencingToken request.lockName + 1 ∧
      after.lastFencingToken request.lockName = store.lastFencingToken request.lockName + 1 ∧
      (∀ other, other ≠ request.lockName →
        after.lastFencingToken other = store.lastFencingToken other) ∧
      (store.RowsFenced → after.RowsFenced) := by
  unfold acquireLock at acquired
  cases available : store.checkAvailable request.lockName now processes with
  | error failure =>
      rw [available] at acquired
      cases acquired
  | ok _ =>
      rw [available] at acquired
      cases acquired
      have counted := lastFencingToken_next_self store request.lockName now
      have others : ∀ other, other ≠ request.lockName → _ :=
        fun other different => lastFencingToken_next_of_ne store now different
      refine ⟨rfl, rfl, counted, others, ?_⟩
      intro fenced lockName row found
      by_cases same : lockName = request.lockName
      · subst same
        have own := (Table.find?_upsert_self store.locks _).symm.trans found
        cases own
        exact counted.symm
      · have before := (Table.find?_upsert_of_ne store.locks (Ne.symm same)).symm.trans found
        exact (fenced lockName row before).trans (others lockName same).symm

end LockStore

/-! ## Notes -/

/-- A lease that was acquired is older than one acquired later, and not newer than one asserted
later. -/
def LeaseNote.Follows (later earlier : LeaseNote) : Prop :=
  ∀ old, earlier = .acquired old →
    match later with
    | .acquired lease => old.lockName = lease.lockName → old.fencingToken < lease.fencingToken
    | .asserted lease => old.lockName = lease.lockName → old.fencingToken ≤ lease.fencingToken

/-- What is committed keeps the fences, and the journal is in their order. -/
structure Sound (store : LockStore) (journal : List LeaseNote) : Prop where
  rows : store.RowsFenced
  ordered : journal.Pairwise LeaseNote.Follows
  acquired : ∀ lease, LeaseNote.acquired lease ∈ journal →
    lease.fencingToken ≤ store.lastFencingToken lease.lockName

/-- What a transaction sees continues what it began with: what it has acquired is newer, and what
it has asserted is not older. -/
structure Coherent (base view : LockStore) (notes : List LeaseNote) : Prop where
  rows : view.RowsFenced
  grows : ∀ lockName, base.lastFencingToken lockName ≤ view.lastFencingToken lockName
  ordered : notes.Pairwise LeaseNote.Follows
  acquired : ∀ lease, LeaseNote.acquired lease ∈ notes →
    base.lastFencingToken lease.lockName < lease.fencingToken ∧
      lease.fencingToken ≤ view.lastFencingToken lease.lockName
  asserted : ∀ lease, LeaseNote.asserted lease ∈ notes →
    base.lastFencingToken lease.lockName ≤ lease.fencingToken

variable {base view after : LockStore} {journal notes : List LeaseNote}

theorem Sound.empty : Sound LockStore.empty [] := by
  refine ⟨?_, List.Pairwise.nil, ?_⟩
  · intro lockName row found
    cases found
  · intro lease isMember
    cases isMember

theorem Sound.fresh (sound : Sound base journal) : Coherent base base [] where
  rows := sound.rows
  grows _ := Nat.le_refl _
  ordered := List.Pairwise.nil
  acquired _ isMember := by cases isMember
  asserted _ isMember := by cases isMember

theorem Sound.settles (sound : Sound base journal) (coherent : Coherent base view notes) :
    Sound view (notes ++ journal) := by
  refine ⟨coherent.rows, ?_, ?_⟩
  · refine List.pairwise_append.mpr ⟨coherent.ordered, sound.ordered, ?_⟩
    rintro later laterNoted earlier earlierNoted old rfl
    have bound := sound.acquired old earlierNoted
    cases later with
    | acquired lease =>
        intro sameLock
        have newer := (coherent.acquired lease laterNoted).1
        rw [sameLock] at bound
        omega
    | asserted lease =>
        intro sameLock
        have newer := coherent.asserted lease laterNoted
        rw [sameLock] at bound
        omega
  · intro lease isMember
    rcases List.mem_append.mp isMember with noted | earlier
    · exact (coherent.acquired lease noted).2
    · exact (sound.acquired lease earlier).trans (coherent.grows lease.lockName)

theorem Coherent.changed (coherent : Coherent base view notes)
    (sameFences : after.fences = view.fences) (rows : after.RowsFenced) :
    Coherent base after notes where
  rows := rows
  grows lockName := by
    rw [LockStore.lastFencingToken_congr sameFences]
    exact coherent.grows lockName
  ordered := coherent.ordered
  acquired lease isMember := by
    rw [LockStore.lastFencingToken_congr sameFences]
    exact coherent.acquired lease isMember
  asserted := coherent.asserted

theorem Coherent.thinned (coherent : Coherent base view notes) (thinned : view.Thinned after) :
    Coherent base after notes :=
  coherent.changed thinned.1 (thinned.rowsFenced coherent.rows)

variable {lease : Lease} {store : LockStore} {row : LockRow}

theorem Coherent.assert (coherent : Coherent base view notes)
    (newest : lease.fencingToken = view.lastFencingToken lease.lockName) :
    Coherent base view (.asserted lease :: notes) where
  rows := coherent.rows
  grows := coherent.grows
  ordered := by
    refine List.pairwise_cons.mpr ⟨?_, coherent.ordered⟩
    rintro earlier noted old rfl sameLock
    rw [newest, ← sameLock]
    exact (coherent.acquired old noted).2
  acquired other isMember := by
    simp only [List.mem_cons, reduceCtorEq, false_or] at isMember
    exact coherent.acquired other isMember
  asserted other isMember := by
    simp only [List.mem_cons, LeaseNote.asserted.injEq] at isMember
    rcases isMember with rfl | earlier
    · rw [newest]
      exact coherent.grows other.lockName
    · exact coherent.asserted other earlier

theorem Coherent.acquire (coherent : Coherent base view notes) {request : LockRequest}
    {now : Instant} {processes : Processes}
    (acquired : view.acquireLock request now processes = .ok (after, lease)) :
    Coherent base after (.acquired lease :: notes) := by
  rcases LockStore.acquireLock_cases acquired with ⟨isLock, token, counted, others, rows⟩
  have grows : ∀ lockName, view.lastFencingToken lockName ≤ after.lastFencingToken lockName := by
    intro lockName
    by_cases same : lockName = request.lockName
    · rw [same]
      omega
    · exact Nat.le_of_eq (others lockName same).symm
  refine ⟨rows coherent.rows, fun lockName => (coherent.grows lockName).trans (grows lockName),
    List.pairwise_cons.mpr ⟨?_, coherent.ordered⟩, ?_, ?_⟩
  · rintro earlier noted old rfl sameLock
    have bound := (coherent.acquired old noted).2
    rw [sameLock, isLock] at bound
    omega
  · intro other isMember
    simp only [List.mem_cons, LeaseNote.acquired.injEq] at isMember
    rcases isMember with rfl | earlier
    · have bound := coherent.grows other.lockName
      rw [isLock] at bound ⊢
      omega
    · rcases coherent.acquired other earlier with ⟨newer, bound⟩
      exact ⟨newer, bound.trans (grows other.lockName)⟩
  · intro other isMember
    simp only [List.mem_cons, reduceCtorEq, false_or] at isMember
    exact coherent.asserted other isMember

/-! ## Steps -/

variable {Connection : Type u} [DecidableEq Connection]

abbrev Secured (database : LockDatabase Connection) : Prop :=
  SharedDatabase.Guarded Sound Coherent database

variable {database : LockDatabase Connection} {connection : Connection}

omit [DecidableEq Connection] in
theorem view_of_some {transaction : OpenTransaction LockStore LeaseNote}
    (opened : database.transactions connection = some transaction) :
    database.view connection = transaction.view := by
  simp [SharedDatabase.view, opened]

theorem Secured.change (secured : Secured database)
    (opened : (database.transactions connection).isSome) {added : List LeaseNote}
    {reply : LockReply} (within : ∀ base notes, Coherent base (database.view connection) notes →
      Coherent base store (added ++ notes)) :
    Secured (database.change connection store added reply).1 := by
  unfold LockDatabase.change
  split
  · apply SharedDatabase.Guarded.write secured
    · intro closed
      simp [closed] at opened
    · intro transaction isOwn coherent
      apply within
      rw [view_of_some isOwn]
      exact coherent
  · exact secured

theorem Secured.acquire (secured : Secured database)
    (opened : (database.transactions connection).isSome) (request : LockRequest) (now : Instant)
    (processes : Processes) :
    Secured (database.acquire connection request now processes).1 := by
  unfold LockDatabase.acquire
  split
  · next acquired =>
      apply secured.change opened
      intro base notes coherent
      exact coherent.acquire acquired
  · exact secured

theorem Secured.renew (secured : Secured database)
    (opened : (database.transactions connection).isSome) (lease : Lease) (now : Instant) :
    Secured (database.renew connection lease now).1 := by
  unfold LockDatabase.renew
  split
  · next renewed =>
      rcases LockStore.renewLock_cases renewed with ⟨holds, sameFences, rows⟩
      apply secured.change opened
      intro base notes coherent
      apply (coherent.changed sameFences (rows coherent.rows)).assert
      rw [LockStore.lastFencingToken_congr sameFences]
      exact coherent.rows.token_of_any holds
  · exact secured

theorem Secured.release (secured : Secured database)
    (opened : (database.transactions connection).isSome) (lease : Lease) :
    Secured (database.release connection lease).1 := by
  apply secured.change opened
  intro base notes coherent
  exact coherent.thinned (LockStore.releaseLock_thinned _ lease)

theorem Secured.clear (secured : Secured database)
    (opened : (database.transactions connection).isSome) (now : Instant) (processes : Processes)
    (processId : Int) : Secured (database.clear connection now processes processId).1 := by
  unfold LockDatabase.clear
  split
  · next cleared =>
      apply secured.change opened
      intro base notes coherent
      exact coherent.thinned (LockStore.clearLocks_thinned cleared)
  · exact secured

theorem Secured.assertMatches (secured : Secured database) (lease : Lease) :
    Secured (database.assertMatches connection lease).1 := by
  unfold LockDatabase.assertMatches
  split
  · next matched =>
      apply SharedDatabase.Guarded.note secured
      intro transaction isOwn coherent
      apply coherent.assert
      apply coherent.rows.token_of_any
      rw [← view_of_some isOwn]
      exact LockStore.any_of_assertLockRowMatches matched
  · exact secured

theorem Secured.begin (secured : Secured database) (immediate : Bool) :
    Secured (SharedDatabase.begin database connection immediate) :=
  SharedDatabase.Guarded.begin secured (fun _ _ sound => sound.fresh) immediate

theorem Secured.commit (secured : Secured database) :
    Secured (SharedDatabase.commit database connection) :=
  SharedDatabase.Guarded.commit secured fun _ _ _ _ sound coherent => sound.settles coherent

theorem opened_begin (closed : (database.transactions connection).isSome = false)
    (free : database.writer.isSome = false) :
    ((SharedDatabase.begin database connection true).transactions connection).isSome = true := by
  simp [SharedDatabase.begin, closed, free, SharedDatabase.setTransaction]

theorem Secured.withTransaction (secured : Secured database)
    {body : LockDatabase Connection → LockDatabase Connection × Except LockFailure LockReply}
    (keeps : ∀ database : LockDatabase Connection, Secured database →
      (database.transactions connection).isSome → Secured (body database).1) :
    Secured (database.withTransaction connection body).1 := by
  unfold LockDatabase.withTransaction
  split
  · next opened => exact keeps database secured opened
  · next closed =>
      split
      · exact secured
      · next free =>
          have opened := opened_begin (Bool.eq_false_iff.mpr closed) (Bool.eq_false_iff.mpr free)
          have kept := keeps _ (secured.begin true) opened
          split
          · next after reply ran =>
              rw [ran] at kept
              exact kept.commit
          · next after failure ran =>
              rw [ran] at kept
              exact SharedDatabase.Guarded.rollback kept

theorem Secured.assertRuntimeExecutionFence (secured : Secured database)
    (opened : (database.transactions connection).isSome) (lease : Option Lease) (now : Instant) :
    Secured (database.assertRuntimeExecutionFence connection lease now).1 := by
  cases lease with
  | none => exact secured
  | some lease => exact secured.renew opened lease now

theorem Secured.enterImmediate (secured : Secured database) (lease : Option Lease)
    (now : Instant) : Secured (database.enterImmediate connection lease now).1 := by
  unfold LockDatabase.enterImmediate
  split
  · next opened => exact secured.assertRuntimeExecutionFence opened lease now
  · next closed =>
      split
      · exact secured
      · next free =>
          have opened := opened_begin (Bool.eq_false_iff.mpr closed) (Bool.eq_false_iff.mpr free)
          have kept := Secured.assertRuntimeExecutionFence (secured.begin true) opened lease now
          split
          · next after reply ran =>
              rw [ran] at kept
              exact kept
          · next after failure ran =>
              rw [ran] at kept
              exact SharedDatabase.Guarded.rollback kept

theorem Secured.lockStep (secured : Secured database) (op : LockOp Connection) :
    Secured (lockStep database op).1 := by
  cases op with
  | begin connection immediate => exact secured.begin immediate
  | acquire connection request now processes =>
      exact secured.withTransaction fun _ secured opened =>
        secured.acquire opened request now processes
  | renew connection lease now =>
      exact secured.withTransaction fun _ secured opened => secured.renew opened lease now
  | assertMatches connection lease => exact secured.assertMatches lease
  | enterImmediate connection lease now => exact secured.enterImmediate lease now
  | release connection lease =>
      exact secured.withTransaction fun _ secured opened => secured.release opened lease
  | clear connection now processes processId =>
      exact secured.withTransaction fun _ secured opened =>
        secured.clear opened now processes processId
  | write connection =>
      apply SharedDatabase.Guarded.write secured
      · intro closed
        simpa [SharedDatabase.view, closed] using secured.committed
      · intro transaction isOwn coherent
        rw [view_of_some isOwn]
        exact coherent
  | commit connection => exact secured.commit
  | rollback connection => exact SharedDatabase.Guarded.rollback secured

theorem secured_next {state : LeaseState Connection} (secured : Secured state.database)
    (op : LockOp Connection) : Secured ((leaseSystem Connection).next state op).database :=
  secured.lockStep op

theorem secured_run (ops : List (LockOp Connection)) :
    Secured ((leaseSystem Connection).run (LeaseState.initial Connection) ops).database :=
  System.run_invariant (fun state : LeaseState Connection => Secured state.database)
    (fun _ op secured => secured_next secured op) (SharedDatabase.guarded_initial Sound.empty) ops

/-! ## What was given out -/

/-- The leases whose acquisition is committed, the last one first. -/
def grantedLeases (journal : List LeaseNote) : List Lease :=
  journal.filterMap fun
    | .acquired lease => some lease
    | .asserted _ => none

/-- Of two leases of one lock, the one that comes later has the larger token. -/
def TokensIncrease (leases : List Lease) : Prop :=
  leases.Pairwise fun later earlier =>
    earlier.lockName = later.lockName → earlier.fencingToken < later.fencingToken

instance (leases : List Lease) : Decidable (TokensIncrease leases) :=
  inferInstanceAs (Decidable (leases.Pairwise _))

theorem mem_grantedLeases {journal : List LeaseNote} :
    lease ∈ grantedLeases journal ↔ LeaseNote.acquired lease ∈ journal := by
  simp only [grantedLeases, List.mem_filterMap]
  constructor
  · rintro ⟨note, isMember, isLease⟩
    cases note with
    | acquired own =>
        cases isLease
        exact isMember
    | asserted own => cases isLease
  · intro isMember
    exact ⟨.acquired lease, isMember, rfl⟩

theorem Sound.tokensIncrease {journal : List LeaseNote} (sound : Sound store journal) :
    TokensIncrease (grantedLeases journal) := by
  apply List.pairwise_filterMap.mpr
  apply sound.ordered.imp
  intro later earlier follows lease isLater old isEarlier
  cases earlier with
  | asserted own => cases isEarlier
  | acquired own =>
      cases isEarlier
      cases later with
      | asserted own => cases isLater
      | acquired own =>
          cases isLater
          exact follows old rfl

theorem TokensIncrease.eq_of_holds {leases : List Lease} (increase : TokensIncrease leases)
    {other : Lease} (granted : lease ∈ leases) (otherGranted : other ∈ leases)
    (holds : lease.holds row = true) (otherHolds : other.holds row = true) : lease = other := by
  simp only [Lease.holds, decide_eq_true_eq] at holds otherHolds
  have distinct : leases.Pairwise fun left right =>
      left.lockName = right.lockName → left.fencingToken ≠ right.fencingToken := by
    apply increase.imp
    intro later earlier less sameLock
    exact (less sameLock.symm).ne'
  have symmetric : Std.Symm fun left right : Lease =>
      left.lockName = right.lockName → left.fencingToken ≠ right.fencingToken :=
    ⟨fun _ _ unequal sameLock => (unequal sameLock.symm).symm⟩
  by_contra different
  have apart := distinct.forall granted otherGranted different
  exact apart (holds.1.symm.trans otherHolds.1) (holds.2.2.symm.trans otherHolds.2.2)

theorem Sound.asserted_le {later earlier : List LeaseNote} {old : Lease}
    (sound : Sound store (later ++ .asserted lease :: earlier))
    (acquired : LeaseNote.acquired old ∈ earlier) (sameLock : old.lockName = lease.lockName) :
    old.fencingToken ≤ lease.fencingToken := by
  have tail := (List.pairwise_append.mp sound.ordered).2.1
  exact (List.pairwise_cons.mp tail).1 _ acquired old rfl sameLock

theorem mem_releaseLock (present : row ∈ store.locks.rows) (notHeld : lease.holds row = false) :
    row ∈ (store.releaseLock lease).locks.rows := by
  simp [LockStore.releaseLock, Table.deleteWhere, present, notHeld]

/-! ## Calls in a transaction of their own -/

theorem withTransaction_of_change
    {body : LockDatabase Connection → LockDatabase Connection × Except LockFailure LockReply}
    (closed : database.transactions connection = none) (free : database.writer = none)
    {added : List LeaseNote} {reply : LockReply}
    (runs : body (SharedDatabase.begin database connection true) =
      LockDatabase.change (SharedDatabase.begin database connection true) connection store added
        reply) :
    (database.withTransaction connection body).1.view connection = store ∧
      (database.withTransaction connection body).1.journal = added ++ database.journal := by
  have writes := SharedDatabase.canWrite_begin closed free
  simp only [LockDatabase.withTransaction, closed, free, Option.isSome_none, runs,
    LockDatabase.change, writes]
  exact SharedDatabase.commit_write_begin closed free store added

theorem granted_of_leased {request : LockRequest} {now : Instant} {processes : Processes}
    (closed : database.transactions connection = none)
    (leased : (lockStep database (.acquire connection request now processes)).2 =
      .ok (.leased lease)) :
    lease ∈ grantedLeases
      (lockStep database (.acquire connection request now processes)).1.journal := by
  cases lock : database.writer with
  | some other =>
      simp [lockStep, LockDatabase.withTransaction, closed, lock] at leased
  | none =>
      cases acquired : LockStore.acquireLock (database.view connection) request now processes with
      | error failure =>
          simp [lockStep, LockDatabase.withTransaction, closed, lock, LockDatabase.acquire,
            SharedDatabase.view_begin, acquired] at leased
      | ok result =>
          rcases result with ⟨store, own⟩
          have runs : LockDatabase.acquire connection request now processes
              (SharedDatabase.begin database connection true) =
                LockDatabase.change (SharedDatabase.begin database connection true) connection
                  store [.acquired own] (.leased own) := by
            simp [LockDatabase.acquire, SharedDatabase.view_begin, acquired]
          have writes := SharedDatabase.canWrite_begin closed lock
          have isLease : own = lease := by
            simpa [lockStep, LockDatabase.withTransaction, closed, lock, runs,
              LockDatabase.change, writes] using leased
          rw [lockStep, (withTransaction_of_change closed lock runs).2, isLease]
          exact List.mem_cons_self

theorem kept_by_release (present : row ∈ (database.view connection).locks.rows)
    (notHeld : lease.holds row = false) :
    row ∈ ((lockStep database (.release connection lease)).1.view connection).locks.rows := by
  have kept := mem_releaseLock present notHeld
  cases opened : database.transactions connection with
  | some transaction =>
      simp only [lockStep, LockDatabase.withTransaction, opened, Option.isSome_some, if_true,
        LockDatabase.release, LockDatabase.change]
      split
      · next writes =>
          rw [SharedDatabase.view_write writes]
          exact kept
      · exact present
  | none =>
      cases lock : database.writer with
      | some other =>
          simpa [lockStep, LockDatabase.withTransaction, opened, lock] using present
      | none =>
          have runs : LockDatabase.release connection lease
              (SharedDatabase.begin database connection true) =
                LockDatabase.change (SharedDatabase.begin database connection true) connection
                  _ [] .released := rfl
          have after := withTransaction_of_change opened lock runs
          rw [lockStep, after.1, SharedDatabase.view_begin]
          exact kept

/-- Over every run of calls, the tokens granted for a lock increase, one granted lease at most
holds its row, a transaction that asserts a lease is committed before a newer one is granted, and a
release leaves the row of a newer lease. -/
theorem leases_fenced (ops : List (LockOp Connection)) :
    let final := (leaseSystem Connection).run (LeaseState.initial Connection) ops
    TokensIncrease (grantedLeases final.database.journal) ∧
      (∀ connection request now processes lease,
        final.database.transactions connection = none →
        (leaseSystem Connection).output final (.acquire connection request now processes) =
          .ok (.leased lease) →
        lease ∈ grantedLeases ((leaseSystem Connection).next final
          (.acquire connection request now processes)).database.journal) ∧
      (∀ row ∈ final.database.committed.locks.rows,
        ∀ lease ∈ grantedLeases final.database.journal,
        ∀ other ∈ grantedLeases final.database.journal,
          lease.holds row → other.holds row → lease = other) ∧
      (∀ later lease earlier,
        final.database.journal = later ++ LeaseNote.asserted lease :: earlier →
        ∀ old ∈ grantedLeases earlier, old.lockName = lease.lockName →
          old.fencingToken ≤ lease.fencingToken) ∧
      ∀ connection lease, ∀ row ∈ (final.database.view connection).locks.rows,
        lease.fencingToken < row.fencingToken →
        row ∈ (((leaseSystem Connection).next final
          (.release connection lease)).database.view connection).locks.rows := by
  intro final
  have secured : Secured final.database := secured_run ops
  refine ⟨secured.committed.tokensIncrease, ?_, ?_, ?_, ?_⟩
  · intro connection request now processes lease closed leased
    exact granted_of_leased closed leased
  · intro row _ lease granted other otherGranted holds otherHolds
    exact secured.committed.tokensIncrease.eq_of_holds granted otherGranted holds otherHolds
  · intro later lease earlier split old acquired sameLock
    have sound := secured.committed
    rw [split] at sound
    exact sound.asserted_le (mem_grantedLeases.mp acquired) sameLock
  · intro connection lease row present older
    apply kept_by_release present
    simp only [Lease.holds, decide_eq_false_iff_not]
    omega

/-- An acquisition that joins a transaction of its caller, which is then rolled back, and the next
acquisition of the lock. -/
def joinedAcquisition : List (LockOp Unit) :=
  let processes : Processes := ⟨1, fun _ => true, fun _ => .noSuchProcess⟩
  let request (ownerId : String) : LockRequest :=
    ⟨"evaluation_pipeline", ownerId, 1, 1, 120, "\x7b\x7d"⟩
  [.begin () false, .acquire () (request "eval_lock_1") 0 processes, .rollback (),
    .acquire () (request "eval_lock_2") 0 processes]

/-- The token of a lease whose acquisition was rolled back is handed out again. -/
theorem token_handed_out_again :
    ¬ ∀ ops : List (LockOp Unit),
      TokensIncrease ((leaseSystem Unit).run (LeaseState.initial Unit) ops).handedOut := by
  intro increase
  have joined := increase joinedAcquisition
  revert joined
  decide +kernel

end SuseokTrader
