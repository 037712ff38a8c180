import Mathlib

/-!
# Calls that are cut off

A call goes through its statements one after the other. A session holds what is
committed and what the connection has written since; a savepoint remembers the
latter. When the call is cut off, a crash keeps what is committed, and after an
exception the savepoint is taken back and the rest is committed or rolled back.
-/

namespace SuseokTrader

universe u

inductive Statement (Store : Type u) where
  | write (change : Store → Store)
  | commit
  | savepoint
  | release

structure Session (Store : Type u) where
  committed : Store
  working : Store
  saved : Option Store

/-- The ways a call ends before its last statement. -/
inductive CutOff where
  | crashed
  | rolledBack
  | committed
deriving DecidableEq

namespace Session

variable {Store : Type u}

/-- A connection without a transaction. -/
def start (store : Store) : Session Store :=
  ⟨store, store, none⟩

variable (session : Session Store)

def execute : Statement Store → Session Store
  | .write change => { session with working := change session.working }
  | .commit => { committed := session.working, working := session.working, saved := none }
  | .savepoint => { session with saved := some session.working }
  | .release => { session with saved := none }

def run (statements : List (Statement Store)) : Session Store :=
  statements.foldl execute session

def survivor : CutOff → Store
  | .crashed | .rolledBack => session.committed
  | .committed => session.saved.getD session.working

/-- The store when the call is cut off after so many of its statements. -/
def cutAfter (statements : List (Statement Store)) (count : Nat)
    (cutOff : CutOff) : Store :=
  (session.run (statements.take count)).survivor cutOff

variable (session : Session Store)

@[simp]
theorem run_nil : session.run [] = session :=
  rfl

@[simp]
theorem run_cons (statement : Statement Store)
    (statements : List (Statement Store)) :
    session.run (statement :: statements) = (session.execute statement).run statements :=
  rfl

theorem run_append (before after : List (Statement Store)) :
    session.run (before ++ after) = (session.run before).run after :=
  List.foldl_append

def applyAll (changes : List (Store → Store)) (store : Store) : Store :=
  changes.foldl (fun store change => change store) store

theorem run_writes (changes : List (Store → Store)) :
    session.run (changes.map .write) =
      { session with working := applyAll changes session.working } := by
  induction changes generalizing session with
  | nil => rfl
  | cons change changes ih =>
      rw [List.map_cons, run_cons, ih]
      rfl

/-- What a cut leaves behind a savepoint: what was committed, what the call began with, or all
of its writes. -/
theorem cutAfter_savepoint {session : Session Store} (fresh : session.saved = none)
    (changes : List (Store → Store)) (last : List (Statement Store))
    (ends : last = [.release] ∨ last = [.release, .commit]) (count : Nat) (cutOff : CutOff) :
    session.cutAfter (.savepoint :: (changes.map .write ++ last)) count cutOff ∈
      [session.committed, session.working, applyAll changes session.working] := by
  cases count with
  | zero => cases cutOff <;> simp [cutAfter, survivor, fresh]
  | succ count =>
      rw [cutAfter, List.take_succ_cons, run_cons, List.take_append, run_append]
      by_cases early : count ≤ changes.length
      · have noLast : count - (changes.map Statement.write).length = 0 := by
          rw [List.length_map]
          exact Nat.sub_eq_zero_of_le early
        rw [noLast, ← List.map_take, run_writes]
        cases cutOff <;> simp [survivor, execute]
      · have allWrites : (changes.map Statement.write).take count = changes.map .write :=
          List.take_of_length_le (by simpa using Nat.le_of_not_le early)
        rw [allWrites, run_writes]
        rcases ends with rfl | rfl
        · rcases count - (changes.map Statement.write).length with _ | count <;>
            cases cutOff <;> simp [survivor, execute]
        · rcases count - (changes.map Statement.write).length with _ | _ | count <;>
            cases cutOff <;> simp [survivor, execute]

/-! ## A first write that commits on its own -/

def committingFirst (first : Store → Store) (changes : List (Store → Store)) (completes : Bool) :
    List (Statement Store) :=
  .write first :: .commit :: (changes.map .write ++ if completes then [.commit] else [])

def survivingChanges (length : Nat) (completes : Bool) (count : Nat) : CutOff → Option Nat
  | .committed => if count = 0 then none else some (count - 2)
  | .crashed | .rolledBack =>
      if count < 2 then none
      else some (if completes ∧ length + 2 < count then length else 0)

theorem cutAfter_committingFirst (store : Store) (first : Store → Store)
    (changes : List (Store → Store)) (completes : Bool) (count : Nat) (cutOff : CutOff) :
    (start store).cutAfter (committingFirst first changes completes) count cutOff =
      match survivingChanges changes.length completes count cutOff with
      | none => store
      | some kept => applyAll (changes.take kept) (first store) := by
  rcases count with _ | _ | count
  · cases cutOff <;> rfl
  · cases cutOff <;> rfl
  · rw [cutAfter, committingFirst, List.take_succ_cons, List.take_succ_cons, run_cons, run_cons,
      List.take_append, run_append, ← List.map_take, run_writes]
    have length : (changes.map Statement.write).length = changes.length := List.length_map _
    have late : ¬ count + 1 + 1 < 2 := by omega
    rw [length]
    by_cases early : count ≤ changes.length
    · have noLast : count - changes.length = 0 := Nat.sub_eq_zero_of_le early
      rw [noLast]
      have notAll : ¬ changes.length < count := Nat.not_lt.mpr early
      cases cutOff <;> simp [survivor, execute, start, survivingChanges, notAll, applyAll]
    · have all : changes.take count = changes :=
        List.take_of_length_le (Nat.le_of_not_le early)
      have isAll : changes.length < count := Nat.lt_of_not_le early
      obtain ⟨rest, isRest⟩ : ∃ rest, count - changes.length = rest + 1 :=
        ⟨count - changes.length - 1, by omega⟩
      rw [isRest]
      cases completes <;> cases cutOff <;>
        simp [survivor, execute, start, survivingChanges, late, isAll, applyAll, all]

end Session

end SuseokTrader
