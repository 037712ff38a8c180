import Mathlib

/-!
# Keyed tables

A table is a list of rows no two of which share a key, as a relation with a
primary key is. The operations are the ones the relational model of the store
goes through: look up a key, insert a fresh row, update one row, update the
rows that meet a condition. Updates take a proof that they keep the key, so
every table that can be written down is well keyed.
-/

namespace SuseokTrader

universe u v

/-- Rows that carry a primary key. -/
class Keyed (Row : Type u) (Key : outParam (Type v)) where
  /-- The primary key of a row. -/
  key : Row → Key

/-- A list of rows with pairwise distinct primary keys. -/
structure Table (Row : Type u) {Key : Type v} [Keyed Row Key] where
  /-- The rows, in insertion order. -/
  rows : List Row
  /-- No two rows share a primary key. -/
  nodup : (rows.map Keyed.key).Nodup

namespace Table

variable {Row : Type u} {Key : Type v} [Keyed Row Key]

/-- The table without rows. -/
def empty : Table Row :=
  ⟨[], List.nodup_nil⟩

/-- The rows updated by `update` where `condition` holds. -/
def updateWhere (table : Table Row) (condition : Row → Bool) (update : Row → Row)
    (keeps : ∀ row, Keyed.key (update row) = Keyed.key row) : Table Row :=
  ⟨table.rows.map fun row => if condition row then update row else row, by
    have keys : (table.rows.map fun row => if condition row then update row else row).map
        Keyed.key = table.rows.map Keyed.key := by
      rw [List.map_map]
      apply List.map_congr_left
      intro row _
      by_cases holds : condition row <;> simp [holds, keeps row]
    rw [keys]
    exact table.nodup⟩

@[simp]
theorem rows_empty : (empty : Table Row).rows = [] :=
  rfl

@[simp]
theorem rows_updateWhere (table : Table Row) (condition : Row → Bool) (change : Row → Row)
    (keeps : ∀ row, Keyed.key (change row) = Keyed.key row) :
    (table.updateWhere condition change keeps).rows =
      table.rows.map fun row => if condition row then change row else row :=
  rfl

variable [DecidableEq Key]

def find? (table : Table Row) (key : Key) : Option Row :=
  table.rows.find? fun row => Keyed.key row = key

def insert? (table : Table Row) (row : Row) : Option (Table Row) :=
  if fresh : Keyed.key row ∉ table.rows.map Keyed.key then
    some ⟨table.rows ++ [row], by
      rw [List.map_append, List.map_cons, List.map_nil]
      simpa using table.nodup.concat fresh⟩
  else
    none

def update (table : Table Row) (key : Key) (change : Row → Row)
    (keeps : ∀ row, Keyed.key (change row) = Keyed.key row) : Table Row :=
  table.updateWhere (fun row => Keyed.key row = key) change keeps

def deleteWhere (table : Table Row) (condition : Row → Bool) : Table Row :=
  ⟨table.rows.filter fun row => !condition row,
    table.nodup.sublist (List.filter_sublist.map _)⟩

/-- The row stored under its key, in the place of the row that was there. -/
def upsert (table : Table Row) (row : Row) : Table Row :=
  if taken : Keyed.key row ∈ table.rows.map Keyed.key then
    ⟨table.rows.map fun other => if Keyed.key other = Keyed.key row then row else other, by
      have keys : (table.rows.map fun other =>
          if Keyed.key other = Keyed.key row then row else other).map Keyed.key =
            table.rows.map Keyed.key := by
        rw [List.map_map]
        apply List.map_congr_left
        intro other _
        by_cases same : Keyed.key other = Keyed.key row <;> simp [same]
      rw [keys]
      exact table.nodup⟩
  else
    ⟨table.rows ++ [row], by
      rw [List.map_append, List.map_cons, List.map_nil]
      simpa using table.nodup.concat taken⟩

@[simp]
theorem find?_empty (key : Key) : (empty : Table Row).find? key = none :=
  rfl

theorem key_of_find? {table : Table Row} {key : Key} {row : Row}
    (found : table.find? key = some row) : Keyed.key row = key := by
  simpa using List.find?_some found

theorem mem_of_find? {table : Table Row} {key : Key} {row : Row}
    (found : table.find? key = some row) : row ∈ table.rows :=
  List.mem_of_find?_eq_some found

theorem find?_of_mem {table : Table Row} {row : Row} (present : row ∈ table.rows) :
    table.find? (Keyed.key row) = some row := by
  cases found : table.find? (Keyed.key row) with
  | none =>
      have absent := List.find?_eq_none.mp found row present
      simp at absent
  | some other =>
      have sameKey := key_of_find? found
      have sameRow := List.inj_on_of_nodup_map table.nodup (mem_of_find? found) present sameKey
      rw [sameRow]

theorem find?_eq_none {table : Table Row} {key : Key} :
    table.find? key = none ↔ ∀ row ∈ table.rows, Keyed.key row ≠ key := by
  simp [find?]

@[simp]
theorem find?_updateWhere (table : Table Row) (condition : Row → Bool) (change : Row → Row)
    (keeps : ∀ row, Keyed.key (change row) = Keyed.key row) (key : Key) :
    (table.updateWhere condition change keeps).find? key =
      (table.find? key).map fun row => if condition row then change row else row := by
  unfold find?
  rw [rows_updateWhere, List.find?_map]
  congr 2
  funext row
  by_cases holds : condition row <;> simp [holds, keeps row]

theorem find?_update_self {table : Table Row} {key : Key} {row : Row} {change : Row → Row}
    {keeps : ∀ row, Keyed.key (change row) = Keyed.key row}
    (found : table.find? key = some row) :
    (table.update key change keeps).find? key = some (change row) := by
  simp [update, found, key_of_find? found]

theorem find?_update_of_ne {table : Table Row} {key other : Key} {change : Row → Row}
    {keeps : ∀ row, Keyed.key (change row) = Keyed.key row} (different : other ≠ key) :
    (table.update key change keeps).find? other = table.find? other := by
  rw [update, find?_updateWhere]
  cases found : table.find? other with
  | none => rfl
  | some row => simp [key_of_find? found, different]

theorem keys_update {table : Table Row} {key : Key} {change : Row → Row}
    {keeps : ∀ row, Keyed.key (change row) = Keyed.key row} :
    (table.update key change keeps).rows.map Keyed.key = table.rows.map Keyed.key := by
  rw [update, rows_updateWhere, List.map_map]
  apply List.map_congr_left
  intro row _
  by_cases isRow : Keyed.key row = key <;> simp [isRow, keeps row]

omit [DecidableEq Key] in
theorem updateWhere_of_forall {table : Table Row} {condition : Row → Bool} {change : Row → Row}
    {keeps : ∀ row, Keyed.key (change row) = Keyed.key row}
    (unmet : ∀ row ∈ table.rows, condition row = false) :
    table.updateWhere condition change keeps = table := by
  have sameRows : (table.updateWhere condition change keeps).rows = table.rows := by
    rw [rows_updateWhere]
    conv_rhs => rw [← List.map_id table.rows]
    apply List.map_congr_left
    intro row present
    simp [unmet row present]
  cases table
  simpa [updateWhere] using sameRows

theorem find?_update_of_none {table : Table Row} {key : Key} {change : Row → Row}
    {keeps : ∀ row, Keyed.key (change row) = Keyed.key row}
    (missing : table.find? key = none) : table.update key change keeps = table := by
  apply updateWhere_of_forall
  intro row present
  simpa using find?_eq_none.mp missing row present

theorem insert?_isSome_iff {table : Table Row} {row : Row} :
    (table.insert? row).isSome ↔ table.find? (Keyed.key row) = none := by
  rw [find?_eq_none]
  unfold insert?
  split
  · next fresh =>
      simp only [Option.isSome_some, true_iff]
      intro other present sameKey
      exact fresh (sameKey ▸ List.mem_map_of_mem present)
  · next taken =>
      simp only [Option.isSome_none, Bool.false_eq_true, false_iff]
      intro absent
      apply taken
      intro isMember
      rcases List.mem_map.mp isMember with ⟨other, present, sameKey⟩
      exact absent other present sameKey

theorem rows_of_insert? {table inserted : Table Row} {row : Row}
    (success : table.insert? row = some inserted) : inserted.rows = table.rows ++ [row] := by
  unfold insert? at success
  split at success
  · cases success
    rfl
  · cases success

theorem find?_of_insert?_self {table inserted : Table Row} {row : Row}
    (success : table.insert? row = some inserted) :
    inserted.find? (Keyed.key row) = some row :=
  find?_of_mem (by simp [rows_of_insert? success])

theorem find?_of_insert?_of_ne {table inserted : Table Row} {row : Row} {key : Key}
    (success : table.insert? row = some inserted) (different : Keyed.key row ≠ key) :
    inserted.find? key = table.find? key := by
  simp [find?, rows_of_insert? success, different]

theorem find?_of_insert?_of_some {table inserted : Table Row} {row other : Row} {key : Key}
    (success : table.insert? row = some inserted) (found : table.find? key = some other) :
    inserted.find? key = some other := by
  simp [find?, rows_of_insert? success] at found ⊢
  simp [found]

theorem find?_deleteWhere (table : Table Row) (condition : Row → Bool) (key : Key) :
    (table.deleteWhere condition).find? key =
      (table.find? key).filter fun row => !condition row := by
  cases found : table.find? key with
  | none =>
      rw [find?_eq_none] at found
      simp only [Option.filter_none, find?_eq_none, deleteWhere, List.mem_filter]
      rintro row ⟨present, _⟩
      exact found row present
  | some row =>
      have isKey := key_of_find? found
      have present := mem_of_find? found
      cases deleted : condition row with
      | false =>
          have kept : row ∈ (table.deleteWhere condition).rows := by
            simp [deleteWhere, present, deleted]
          simpa [isKey, Option.filter_some, deleted] using find?_of_mem kept
      | true =>
          simp only [Option.filter_some, deleted, Bool.not_true, Bool.false_eq_true, if_false,
            find?_eq_none, deleteWhere, List.mem_filter]
          rintro other ⟨otherPresent, otherKept⟩ sameKey
          have same := List.inj_on_of_nodup_map table.nodup otherPresent present
            (sameKey.trans isKey.symm)
          rw [same, deleted] at otherKept
          cases otherKept

theorem find?_upsert_self (table : Table Row) (row : Row) :
    (table.upsert row).find? (Keyed.key row) = some row := by
  apply find?_of_mem
  unfold upsert
  split
  · next taken =>
      rcases List.mem_map.mp taken with ⟨other, present, sameKey⟩
      exact List.mem_map.mpr ⟨other, present, if_pos sameKey⟩
  · simp

theorem find?_upsert_of_ne (table : Table Row) {row : Row} {key : Key}
    (different : Keyed.key row ≠ key) : (table.upsert row).find? key = table.find? key := by
  unfold upsert find?
  split
  · rw [List.find?_map]
    have sameTest : ((fun other => decide (Keyed.key other = key)) ∘ fun other =>
        if Keyed.key other = Keyed.key row then row else other) =
          fun other => decide (Keyed.key other = key) := by
      funext other
      by_cases same : Keyed.key other = Keyed.key row <;> simp [same]
    rw [sameTest]
    cases found : table.rows.find? fun other => decide (Keyed.key other = key) with
    | none => rfl
    | some other =>
        have isKey : Keyed.key other = key := by simpa using List.find?_some found
        have notSame : Keyed.key other ≠ Keyed.key row := by
          rw [isKey]
          exact different.symm
        simp [notSame]
  · simp [different]

/-! ## Several rows -/

def upsertAll (table : Table Row) (rows : List Row) : Table Row :=
  rows.foldl upsert table

@[simp]
theorem upsertAll_nil (table : Table Row) : table.upsertAll [] = table :=
  rfl

@[simp]
theorem upsertAll_cons (table : Table Row) (row : Row) (rows : List Row) :
    table.upsertAll (row :: rows) = (table.upsert row).upsertAll rows :=
  rfl

theorem find?_upsertAll_of_notMem (table : Table Row) {rows : List Row} {key : Key}
    (absent : key ∉ rows.map Keyed.key) : (table.upsertAll rows).find? key = table.find? key := by
  induction rows generalizing table with
  | nil => rfl
  | cons row rows ih =>
      rw [List.map_cons, List.mem_cons, not_or] at absent
      rw [upsertAll_cons, ih _ absent.2]
      exact find?_upsert_of_ne table (Ne.symm absent.1)

theorem find?_upsertAll_of_mem (table : Table Row) {rows : List Row} {row : Row}
    (distinct : (rows.map Keyed.key).Nodup) (present : row ∈ rows) :
    (table.upsertAll rows).find? (Keyed.key row) = some row := by
  induction rows generalizing table with
  | nil => cases present
  | cons first rows ih =>
      rw [List.map_cons, List.nodup_cons] at distinct
      rw [upsertAll_cons]
      rcases List.mem_cons.mp present with rfl | later
      · rw [find?_upsertAll_of_notMem _ distinct.1]
        exact find?_upsert_self table row
      · exact ih _ distinct.2 later

theorem mem_of_find?_upsertAll {table : Table Row} {rows : List Row} {key : Key} {row : Row}
    (found : (table.upsertAll rows).find? key = some row) :
    row ∈ rows ∨ table.find? key = some row := by
  induction rows generalizing table with
  | nil => exact Or.inr found
  | cons first rows ih =>
      rcases ih found with later | here
      · exact Or.inl (List.mem_cons_of_mem first later)
      · by_cases isKey : Keyed.key first = key
        · subst isKey
          rw [find?_upsert_self, Option.some.injEq] at here
          exact Or.inl (here ▸ List.mem_cons_self)
        · rw [find?_upsert_of_ne table isKey] at here
          exact Or.inr here

theorem isSome_find?_upsertAll {table : Table Row} {rows : List Row} {key : Key} :
    ((table.upsertAll rows).find? key).isSome ↔
      key ∈ rows.map Keyed.key ∨ (table.find? key).isSome := by
  induction rows generalizing table with
  | nil => simp
  | cons first rows ih =>
      rw [upsertAll_cons, ih]
      by_cases isKey : Keyed.key first = key
      · subst isKey
        simp [find?_upsert_self]
      · rw [find?_upsert_of_ne table isKey]
        simp [Ne.symm isKey]

end Table

end SuseokTrader
