import Mathlib

/-!
# A database with one writer

Any number of connections work on one database. A transaction sees what was
committed when it began and what it has written since, and it leaves notes. At
most one transaction holds the write lock. One that has only read gets the lock
only while nothing has been committed since it began, so what it has read is
still true; and what the holder of the lock has noted stays true until it
commits.
-/

namespace SuseokTrader

universe u v w

/-- A transaction in progress: the version it began with, what it sees, and its notes, the last
one first. -/
structure OpenTransaction (Data : Type v) (Note : Type w) where
  version : Nat
  view : Data
  notes : List Note

/-- What is committed, how often something was, the notes of the committed transactions, the last
one first, who holds the write lock, and the transactions in progress. -/
structure SharedDatabase (Connection : Type u) (Data : Type v) (Note : Type w) where
  committed : Data
  version : Nat
  journal : List Note
  writer : Option Connection
  transactions : Connection → Option (OpenTransaction Data Note)

namespace SharedDatabase

variable {Connection : Type u} {Data : Type v} {Note : Type w}

def initial (data : Data) : SharedDatabase Connection Data Note where
  committed := data
  version := 0
  journal := []
  writer := none
  transactions _ := none

/-- What a statement of the connection reads. -/
def view (shared : SharedDatabase Connection Data Note) (connection : Connection) : Data :=
  (shared.transactions connection).elim shared.committed OpenTransaction.view

variable [DecidableEq Connection]

variable (shared : SharedDatabase Connection Data Note) (connection : Connection)

def setTransaction
    (transaction : Option (OpenTransaction Data Note)) : SharedDatabase Connection Data Note :=
  { shared with transactions := Function.update shared.transactions connection transaction }

/-- A transaction begins, with the write lock or without. -/
def begin (immediate : Bool) : SharedDatabase Connection Data Note :=
  let opened := shared.setTransaction connection (some ⟨shared.version, shared.committed, []⟩)
  if (shared.transactions connection).isSome then shared
  else if immediate then
    if shared.writer.isSome then shared else { opened with writer := some connection }
  else opened

/-- Whether a statement of the connection may write: the lock is its own, or free, and nothing was
committed since its transaction began. -/
def canWrite : Bool :=
  match shared.transactions connection with
  | none => shared.writer.isNone
  | some transaction => shared.writer = some connection ∨
      shared.writer = none ∧ transaction.version = shared.version

/-- A statement writes. Outside a transaction it is committed at once. -/
def write (data : Data)
    (notes : List Note) : SharedDatabase Connection Data Note :=
  if shared.canWrite connection then
    match shared.transactions connection with
    | none =>
        { shared with
          committed := data
          version := shared.version + 1
          journal := notes ++ shared.journal }
    | some transaction =>
        { shared.setTransaction connection
            (some ⟨transaction.version, data, notes ++ transaction.notes⟩) with
          writer := some connection }
  else shared

/-- A transaction notes what it has read. -/
def note (notes : List Note) : SharedDatabase Connection Data Note :=
  match shared.transactions connection with
  | none => shared
  | some transaction =>
      shared.setTransaction connection
        (some ⟨transaction.version, transaction.view, notes ++ transaction.notes⟩)

def rollback :
    SharedDatabase Connection Data Note :=
  { shared.setTransaction connection none with
    writer := if shared.writer = some connection then none else shared.writer }

/-- A transaction that has written is committed; one that has only read ends. -/
def commit :
    SharedDatabase Connection Data Note :=
  match shared.transactions connection with
  | none => shared
  | some transaction =>
      if shared.writer = some connection then
        { shared.setTransaction connection none with
          committed := transaction.view
          version := shared.version + 1
          journal := transaction.notes ++ shared.journal
          writer := none }
      else shared.setTransaction connection none

/-! ## What the lock guards -/

/-- The committed data is sound, the holder of the lock has begun with it, and every transaction
that has is coherent with it. -/
structure Guarded (sound : Data → List Note → Prop) (coherent : Data → Data → List Note → Prop)
    (shared : SharedDatabase Connection Data Note) : Prop where
  committed : sound shared.committed shared.journal
  holder : ∀ connection, shared.writer = some connection →
    ∃ transaction, shared.transactions connection = some transaction ∧
      transaction.version = shared.version
  current : ∀ connection transaction, shared.transactions connection = some transaction →
    transaction.version ≤ shared.version ∧
      (transaction.version = shared.version →
        coherent shared.committed transaction.view transaction.notes)

variable {sound : Data → List Note → Prop} {coherent : Data → Data → List Note → Prop}
  {shared : SharedDatabase Connection Data Note} {connection : Connection}

theorem transactions_setTransaction_self (transaction : Option (OpenTransaction Data Note)) :
    (shared.setTransaction connection transaction).transactions connection = transaction := by
  simp [setTransaction]

theorem transactions_setTransaction_of_ne {other : Connection} (different : other ≠ connection)
    (transaction : Option (OpenTransaction Data Note)) :
    (shared.setTransaction connection transaction).transactions other =
      shared.transactions other := by
  simp [setTransaction, different]

omit [DecidableEq Connection] in
theorem guarded_initial {data : Data} (isSound : sound data []) :
    Guarded sound coherent (initial data : SharedDatabase Connection Data Note) where
  committed := isSound
  holder _ held := by cases held
  current _ _ opened := by cases opened

theorem version_of_canWrite (guarded : Guarded sound coherent shared)
    (writes : shared.canWrite connection = true) {transaction : OpenTransaction Data Note}
    (opened : shared.transactions connection = some transaction) :
    transaction.version = shared.version := by
  simp only [canWrite, opened, decide_eq_true_eq] at writes
  rcases writes with held | ⟨_, current⟩
  · rcases guarded.holder connection held with ⟨own, isOwn, current⟩
    rw [opened, Option.some.injEq] at isOwn
    rw [isOwn]
    exact current
  · exact current

theorem Guarded.coherent_of_canWrite (guarded : Guarded sound coherent shared)
    (writes : shared.canWrite connection = true) {transaction : OpenTransaction Data Note}
    (opened : shared.transactions connection = some transaction) :
    coherent shared.committed transaction.view transaction.notes :=
  (guarded.current connection transaction opened).2 (version_of_canWrite guarded writes opened)

theorem Guarded.setTransaction (guarded : Guarded sound coherent shared)
    (transaction : OpenTransaction Data Note) (version : transaction.version ≤ shared.version)
    (isCoherent : transaction.version = shared.version →
      coherent shared.committed transaction.view transaction.notes)
    {writer : Option Connection}
    (holder : ∀ other, writer = some other → (other ≠ connection → shared.writer = some other) ∧
      (other = connection → transaction.version = shared.version)) :
    Guarded sound coherent
      { shared.setTransaction connection (some transaction) with writer := writer } := by
  refine ⟨guarded.committed, ?_, ?_⟩
  · intro other held
    by_cases same : other = connection
    · subst same
      exact ⟨transaction, transactions_setTransaction_self _, (holder other held).2 rfl⟩
    · rcases guarded.holder other ((holder other held).1 same) with ⟨own, isOwn, current⟩
      exact ⟨own, (transactions_setTransaction_of_ne same _).trans isOwn, current⟩
  · intro other own opened
    by_cases same : other = connection
    · subst same
      have isOwn := (transactions_setTransaction_self _).symm.trans opened
      rw [Option.some.injEq] at isOwn
      subst isOwn
      exact ⟨version, isCoherent⟩
    · exact guarded.current other own
        ((transactions_setTransaction_of_ne same _).symm.trans opened)

end SharedDatabase

namespace SharedDatabase

variable {Connection : Type u} {Data : Type v} {Note : Type w} [DecidableEq Connection]
  {sound : Data → List Note → Prop} {coherent : Data → Data → List Note → Prop}
  {shared : SharedDatabase Connection Data Note} {connection : Connection}

theorem Guarded.begin (guarded : Guarded sound coherent shared)
    (fresh : ∀ data journal, sound data journal → coherent data data []) (immediate : Bool) :
    Guarded sound coherent (shared.begin connection immediate) := by
  unfold SharedDatabase.begin
  cases opened : shared.transactions connection with
  | some transaction =>
      exact guarded
  | none =>
      have isFresh := fresh shared.committed shared.journal guarded.committed
      cases immediate with
      | true =>
          cases lock : shared.writer with
          | some other =>
              exact guarded
          | none =>
              apply guarded.setTransaction ⟨_, _, []⟩ (Nat.le_refl _) (fun _ => isFresh)
              rintro other held
              cases held
              exact ⟨fun different => absurd rfl different, fun _ => rfl⟩
      | false =>
          apply guarded.setTransaction ⟨_, _, []⟩ (Nat.le_refl _) (fun _ => isFresh)
          intro other held
          exact ⟨fun _ => held, fun _ => rfl⟩

/-- A statement that writes keeps what is guarded when it keeps a transaction coherent, and when
what it commits by itself is sound. -/
theorem Guarded.write (guarded : Guarded sound coherent shared) {data : Data} {notes : List Note}
    (alone : shared.transactions connection = none → sound data (notes ++ shared.journal))
    (within : ∀ transaction, shared.transactions connection = some transaction →
      coherent shared.committed transaction.view transaction.notes →
      coherent shared.committed data (notes ++ transaction.notes)) :
    Guarded sound coherent (shared.write connection data notes) := by
  unfold SharedDatabase.write
  split
  · next writes =>
      cases opened : shared.transactions connection with
      | none =>
          have free : shared.writer = none := by
            simpa [canWrite, opened] using writes
          refine ⟨alone opened, fun other held => ?_, fun other own isOwn => ?_⟩
          · cases free.symm.trans held
          · have bound := (guarded.current other own isOwn).1
            refine ⟨Nat.le_succ_of_le bound, fun current => ?_⟩
            change own.version = shared.version + 1 at current
            omega
      | some transaction =>
          have current := version_of_canWrite guarded writes opened
          have isCoherent := guarded.coherent_of_canWrite writes opened
          apply guarded.setTransaction ⟨_, data, _⟩ (Nat.le_of_eq current)
            (fun _ => within transaction opened isCoherent)
          rintro other held
          cases held
          exact ⟨fun different => absurd rfl different, fun _ => current⟩
  · exact guarded

theorem Guarded.note (guarded : Guarded sound coherent shared) {notes : List Note}
    (within : ∀ transaction, shared.transactions connection = some transaction →
      coherent shared.committed transaction.view transaction.notes →
      coherent shared.committed transaction.view (notes ++ transaction.notes)) :
    Guarded sound coherent (shared.note connection notes) := by
  unfold SharedDatabase.note
  cases opened : shared.transactions connection with
  | none => exact guarded
  | some transaction =>
      rcases guarded.current connection transaction opened with ⟨bound, isCoherent⟩
      apply guarded.setTransaction ⟨_, _, notes ++ _⟩ bound
        (fun current => within transaction opened (isCoherent current))
      intro other held
      refine ⟨fun _ => held, ?_⟩
      rintro rfl
      rcases guarded.holder other held with ⟨own, isOwn, current⟩
      rw [opened, Option.some.injEq] at isOwn
      rw [isOwn]
      exact current

theorem Guarded.close (guarded : Guarded sound coherent shared) :
    Guarded sound coherent { shared.setTransaction connection none with
      writer := if shared.writer = some connection then none else shared.writer } := by
  refine ⟨guarded.committed, ?_, ?_⟩
  · intro other held
    split at held
    · cases held
    · next notOwn =>
        have different : other ≠ connection := by
          rintro rfl
          exact notOwn held
        rcases guarded.holder other held with ⟨own, isOwn, current⟩
        exact ⟨own, (transactions_setTransaction_of_ne different _).trans isOwn, current⟩
  · intro other own opened
    by_cases same : other = connection
    · subst same
      have closed := (transactions_setTransaction_self _).symm.trans opened
      cases closed
    · exact guarded.current other own
        ((transactions_setTransaction_of_ne same _).symm.trans opened)

theorem Guarded.rollback (guarded : Guarded sound coherent shared) :
    Guarded sound coherent (shared.rollback connection) :=
  guarded.close

omit [DecidableEq Connection] in
theorem Guarded.coherent_of_writer (guarded : Guarded sound coherent shared)
    (held : shared.writer = some connection) {transaction : OpenTransaction Data Note}
    (opened : shared.transactions connection = some transaction) :
    coherent shared.committed transaction.view transaction.notes := by
  rcases guarded.holder connection held with ⟨own, isOwn, current⟩
  rw [opened, Option.some.injEq] at isOwn
  subst isOwn
  exact (guarded.current connection transaction opened).2 current

theorem Guarded.commit (guarded : Guarded sound coherent shared)
    (settles : ∀ base journal view notes, sound base journal → coherent base view notes →
      sound view (notes ++ journal)) :
    Guarded sound coherent (shared.commit connection) := by
  unfold SharedDatabase.commit
  cases opened : shared.transactions connection with
  | none => exact guarded
  | some transaction =>
      by_cases held : shared.writer = some connection
      · simp only [held]
        have isCoherent := guarded.coherent_of_writer held opened
        refine ⟨settles _ _ _ _ guarded.committed isCoherent, fun other held => (by cases held), ?_⟩
        intro other own isOwn
        by_cases same : other = connection
        · subst same
          have closed := (transactions_setTransaction_self _).symm.trans isOwn
          cases closed
        · have bound := (guarded.current other own
            ((transactions_setTransaction_of_ne same _).symm.trans isOwn)).1
          refine ⟨Nat.le_succ_of_le bound, fun current => ?_⟩
          change own.version = shared.version + 1 at current
          omega
      · have closed := @Guarded.close _ _ _ _ _ _ _ connection guarded
        simp only [held] at closed ⊢
        exact closed

end SharedDatabase

/-! ## A transaction that writes once -/

namespace SharedDatabase

variable {Connection : Type u} {Data : Type v} {Note : Type w} [DecidableEq Connection]
  {shared : SharedDatabase Connection Data Note} {connection : Connection}

theorem view_begin (shared : SharedDatabase Connection Data Note) (connection : Connection)
    (immediate : Bool) : (shared.begin connection immediate).view connection =
      shared.view connection := by
  cases opened : shared.transactions connection with
  | some transaction => simp [begin, opened]
  | none =>
      cases immediate with
      | false => simp [begin, view, setTransaction, opened]
      | true =>
          cases lock : shared.writer with
          | none => simp [begin, view, setTransaction, opened, lock]
          | some other => simp [begin, lock]

theorem view_write (writes : shared.canWrite connection = true) (data : Data)
    (notes : List Note) : (shared.write connection data notes).view connection = data := by
  cases opened : shared.transactions connection with
  | none => simp [write, view, writes, opened]
  | some transaction => simp [write, view, setTransaction, writes, opened]

theorem canWrite_begin (closed : shared.transactions connection = none)
    (free : shared.writer = none) : (shared.begin connection true).canWrite connection = true := by
  simp [begin, canWrite, setTransaction, closed, free]

theorem commit_write_begin (closed : shared.transactions connection = none)
    (free : shared.writer = none) (data : Data) (notes : List Note) :
    let after := ((shared.begin connection true).write connection data notes).commit connection
    after.view connection = data ∧ after.journal = notes ++ shared.journal := by
  simp [write, canWrite, begin, commit, view, setTransaction, closed, free]

end SharedDatabase

end SuseokTrader
