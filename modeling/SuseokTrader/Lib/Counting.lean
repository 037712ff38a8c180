import SuseokTrader.Lib.Batch
import SuseokTrader.Lib.Totals

/-!
# Distinct values, totals by groups, counts, and rows that come from others

Four things that queries over tables rest on. The number of distinct values of
a list does not grow by values it has already. A total over a table is the sum
of the totals of its groups. A count over a table is that of the other rows and
the one of a key. A step that changes rows, or adds none, leaves each row
derived from one there was.
-/

namespace SuseokTrader

universe u v w

/-! ## Distinct values -/

section Distinct

variable {α : Type u} [DecidableEq α]

theorem length_eraseDups (items : List α) : items.eraseDups.length = items.toFinset.card := by
  rw [← List.toFinset_card_of_nodup (nodup_eraseDups items)]
  congr 1
  ext item
  simp

theorem length_eraseDups_congr {items others : List α}
    (same : ∀ item, item ∈ items ↔ item ∈ others) :
    items.eraseDups.length = others.eraseDups.length := by
  rw [length_eraseDups, length_eraseDups]
  congr 1
  ext item
  simpa using same item

theorem length_eraseDups_append_iff {items more : List α} :
    (items ++ more).eraseDups.length = items.eraseDups.length ↔ ∀ item ∈ more, item ∈ items := by
  rw [length_eraseDups, length_eraseDups, List.toFinset_append]
  constructor
  · intro same item isMore
    have whole : items.toFinset = items.toFinset ∪ more.toFinset :=
      Finset.eq_of_subset_of_card_le Finset.subset_union_left (le_of_eq same)
    have present : item ∈ items.toFinset ∪ more.toFinset := by simp [isMore]
    rw [← whole] at present
    simpa using present
  · intro known
    congr 1
    apply Finset.union_eq_left.mpr
    intro item isMore
    simpa using known item (by simpa using isMore)

theorem length_eraseDups_pos {items : List α} :
    0 < items.eraseDups.length ↔ ∃ item, item ∈ items := by
  simp [length_eraseDups, Finset.Nonempty]

end Distinct

namespace Table

/-! ## Totals by groups -/

section Groups

variable {Row : Type u} {Key : Type v} {Group : Type w} [Keyed Row Key] [DecidableEq Group]

theorem total_eq_sum_groups (value : Row → Int) (group : Row → Group) (groups : Finset Group)
    (table : Table Row) (covers : ∀ row ∈ table.rows, group row ∈ groups) :
    table.total value =
      ∑ member ∈ groups, table.total fun row => if group row = member then value row else 0 := by
  simp only [total]
  generalize table.rows = rows at covers
  induction rows with
  | nil => simp
  | cons row rows ih =>
      have isMember := covers row List.mem_cons_self
      have later := ih fun other present => covers other (List.mem_cons_of_mem row present)
      simp only [List.map_cons, List.sum_cons, Finset.sum_add_distrib, later]
      simp [isMember]

theorem total_pos_iff {value : Row → Int} {table : Table Row}
    (nonneg : ∀ row ∈ table.rows, 0 ≤ value row) :
    0 < table.total value ↔ ∃ row ∈ table.rows, 0 < value row := by
  simp only [total]
  generalize table.rows = rows at nonneg
  induction rows with
  | nil => simp
  | cons row rows ih =>
      have here := nonneg row List.mem_cons_self
      have later := ih fun other present => nonneg other (List.mem_cons_of_mem row present)
      have rest : 0 ≤ (rows.map value).sum := by
        apply List.sum_nonneg
        intro summand present
        rcases List.mem_map.mp present with ⟨other, isOther, rfl⟩
        exact nonneg other (List.mem_cons_of_mem row isOther)
      simp only [List.map_cons, List.sum_cons, List.mem_cons, exists_eq_or_imp, ← later]
      omega

end Groups

/-! ## Counts beside one row -/

section Counts

variable {Row : Type u} {Key : Type v} [Keyed Row Key] [DecidableEq Key]

def countOthers (table : Table Row) (key : Key) (holds : Row → Bool) : Nat :=
  table.rows.countP fun row => decide (Keyed.key row ≠ key) && holds row

variable (table : Table Row)

theorem countOthers_le (key : Key) (holds : Row → Bool) :
    table.countOthers key holds ≤ table.rows.countP holds := by
  apply List.countP_mono_left
  intro row _ counted
  simp only [Bool.and_eq_true] at counted
  exact counted.2

theorem countOthers_mono {table : Table Row} {key : Key} {holds others : Row → Bool}
    (implies : ∀ row, holds row = true → others row = true) :
    table.countOthers key holds ≤ table.countOthers key others := by
  apply List.countP_mono_left
  intro row _ counted
  simp only [Bool.and_eq_true] at counted ⊢
  exact ⟨counted.1, implies row counted.2⟩

theorem countP_eq_countOthers {table : Table Row} {key : Key} {row : Row} (holds : Row → Bool)
    (found : table.find? key = some row) :
    table.rows.countP holds = table.countOthers key holds + if holds row then 1 else 0 := by
  have isKey := key_of_find? found
  rcases List.append_of_mem (mem_of_find? found) with ⟨before, after, split⟩
  have distinct := table.nodup
  rw [split, List.map_append, List.nodup_append] at distinct
  rcases distinct with ⟨_, tail, apart⟩
  have others : ∀ part : List Row, (∀ other ∈ part, Keyed.key other ≠ key) →
      part.countP (fun other => decide (Keyed.key other ≠ key) && holds other) =
        part.countP holds := by
    intro part different
    apply List.countP_congr
    intro other isOther
    simp [different other isOther]
  have before_ne : ∀ other ∈ before, Keyed.key other ≠ key := fun other isOther same =>
    apart _ (List.mem_map_of_mem isOther) _ List.mem_cons_self (same.trans isKey.symm)
  have after_ne : ∀ other ∈ after, Keyed.key other ≠ key := fun other isOther same =>
    (List.nodup_cons.mp tail).1
      ((isKey.trans same.symm) ▸ List.mem_map_of_mem isOther)
  rw [countOthers, split, List.countP_append, List.countP_append, List.countP_cons,
    List.countP_cons, others before before_ne, others after after_ne]
  simp [isKey, Nat.add_assoc]

theorem countOthers_upsert (row : Row) (holds : Row → Bool) :
    (table.upsert row).countOthers (Keyed.key row) holds =
      table.countOthers (Keyed.key row) holds := by
  rw [countOthers, countOthers, upsert]
  split
  · rw [List.countP_map]
    apply List.countP_congr
    intro other _
    by_cases same : Keyed.key other = Keyed.key row <;> simp [same]
  · simp

theorem countP_upsert (row : Row) (holds : Row → Bool) :
    (table.upsert row).rows.countP holds =
      table.countOthers (Keyed.key row) holds + if holds row then 1 else 0 := by
  rw [countP_eq_countOthers holds (find?_upsert_self table row), countOthers_upsert]

theorem countP_deleteWhere_key (key : Key) (holds : Row → Bool) :
    (table.deleteWhere fun row => Keyed.key row = key).rows.countP holds =
      table.countOthers key holds := by
  simp [deleteWhere, countOthers, List.countP_filter, Bool.and_comm]

end Counts

/-! ## Rows that come from others -/

section Derives

variable {Row : Type u} {Key : Type v} [Keyed Row Key]

def Derives (relation : Row → Row → Prop) (before after : Table Row) : Prop :=
  ∀ row ∈ after.rows, ∃ old ∈ before.rows, relation old row

variable {relation : Row → Row → Prop}

theorem derives_refl (reflexive : ∀ row, relation row row) (table : Table Row) :
    Derives relation table table := by
  intro row present
  exact ⟨row, present, reflexive row⟩

theorem Derives.trans
    (transitive : ∀ first second third, relation first second → relation second third →
      relation first third)
    {first second third : Table Row} (left : Derives relation first second)
    (right : Derives relation second third) : Derives relation first third := by
  intro row present
  rcases right row present with ⟨middle, isMiddle, later⟩
  rcases left middle isMiddle with ⟨old, isOld, earlier⟩
  exact ⟨old, isOld, transitive old middle row earlier later⟩

theorem derives_update [DecidableEq Key] (reflexive : ∀ row, relation row row)
    {change : Row → Row} (changes : ∀ row, relation row (change row)) (table : Table Row)
    (key : Key) (keeps : ∀ row, Keyed.key (change row) = Keyed.key row) :
    Derives relation table (table.update key change keeps) := by
  intro row present
  rcases List.mem_map.mp present with ⟨old, isOld, rfl⟩
  refine ⟨old, isOld, ?_⟩
  split
  · exact changes old
  · exact reflexive old

end Derives

end Table

end SuseokTrader
