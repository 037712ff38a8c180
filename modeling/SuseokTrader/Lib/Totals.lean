import SuseokTrader.Lib.Table

/-!
# Totals over a table

The sum of a value over the rows of a table. An inserted row adds its value; an
update of one row replaces the value of that row by its new one. Before it, the
bound that a maximum taken by a fold is for what it was taken over.
-/

namespace SuseokTrader

universe u v

theorem le_foldl_max {Value : Type u} [LinearOrder Value] (values : List Value) (start : Value) :
    start ≤ values.foldl max start ∧ ∀ value ∈ values, value ≤ values.foldl max start := by
  induction values generalizing start with
  | nil => simp
  | cons first values ih =>
      rcases ih (max start first) with ⟨fromStart, fromRest⟩
      refine ⟨le_trans (le_max_left start first) fromStart, ?_⟩
      intro value present
      rcases List.mem_cons.mp present with rfl | present
      · exact le_trans (le_max_right start value) fromStart
      · exact fromRest value present

namespace Table

variable {Row : Type u} {Key : Type v} [Keyed Row Key]

/-- The sum of the value over all rows. -/
def total (value : Row → Int) (table : Table Row) : Int :=
  (table.rows.map value).sum

@[simp]
theorem total_empty (value : Row → Int) : total value (empty : Table Row) = 0 :=
  rfl

variable {value : Row → Int}

theorem total_of_rows_append {table extended : Table Row} {row : Row}
    (rows : extended.rows = table.rows ++ [row]) :
    extended.total value = table.total value + value row := by
  simp [total, rows]

theorem total_congr {value other : Row → Int} {table : Table Row}
    (same : ∀ row ∈ table.rows, value row = other row) :
    table.total value = table.total other := by
  rw [total, total, List.map_congr_left same]

variable [DecidableEq Key]

theorem sum_update {Value : Type*} [AddCommGroup Value] {value : Row → Value} {table : Table Row}
    {key : Key} {row : Row} {change : Row → Row}
    {keeps : ∀ row, Keyed.key (change row) = Keyed.key row}
    (found : table.find? key = some row) :
    ((table.update key change keeps).rows.map value).sum =
      (table.rows.map value).sum - value row + value (change row) := by
  have isKey := key_of_find? found
  rcases List.append_of_mem (mem_of_find? found) with ⟨before, after, split⟩
  have distinct := table.nodup
  rw [split, List.map_append, List.nodup_append] at distinct
  rcases distinct with ⟨_, tail, apart⟩
  have others : ∀ other ∈ before ++ after, Keyed.key other ≠ key := by
    intro other present
    rcases List.mem_append.mp present with early | late
    · rw [← isKey]
      exact apart _ (List.mem_map_of_mem early) _ List.mem_cons_self
    · intro same
      apply (List.nodup_cons.mp tail).1
      rw [isKey, ← same]
      exact List.mem_map_of_mem late
  have unchanged : ∀ part : List Row, (∀ other ∈ part, Keyed.key other ≠ key) →
      part.map (fun other => value (if Keyed.key other = key then change other else other)) =
        part.map value := by
    intro part differ
    apply List.map_congr_left
    intro other present
    rw [if_neg (differ other present)]
  have early := unchanged before fun other present =>
    others other (List.mem_append_left _ present)
  have late := unchanged after fun other present =>
    others other (List.mem_append_right _ present)
  rw [update, rows_updateWhere, List.map_map]
  simp only [Function.comp_def, decide_eq_true_eq, split, List.map_append, List.map_cons,
    List.sum_append, List.sum_cons, early, late, isKey, if_true]
  abel

theorem total_update {table : Table Row} {key : Key} {row : Row}
    {change : Row → Row} {keeps : ∀ row, Keyed.key (change row) = Keyed.key row}
    (found : table.find? key = some row) :
    (table.update key change keeps).total value =
      table.total value - value row + value (change row) :=
  sum_update found

theorem total_eq_sum_keys (value : Row → Int) (table : Table Row) :
    table.total value =
      ((table.rows.map Keyed.key).map fun key => ((table.find? key).map value).getD 0).sum := by
  rw [total, List.map_map]
  congr 1
  apply List.map_congr_left
  intro row present
  simp [find?_of_mem present]

theorem total_of_replaced {before after : Table Row} {key : Key}
    {old new : Row} (keys : after.rows.map Keyed.key = before.rows.map Keyed.key)
    (found : before.find? key = some old) (replaced : after.find? key = some new)
    (others : ∀ other, other ≠ key → after.find? other = before.find? other) :
    after.total value = before.total value - value old + value new := by
  have present : key ∈ before.rows.map Keyed.key :=
    List.mem_map.mpr ⟨old, mem_of_find? found, key_of_find? found⟩
  rw [total_eq_sum_keys, total_eq_sum_keys, keys]
  rcases List.append_of_mem present with ⟨early, late, split⟩
  have distinct := before.nodup
  rw [split, List.nodup_append] at distinct
  rcases distinct with ⟨_, tail, apart⟩
  have same : ∀ part : List Key, key ∉ part →
      part.map (fun key => ((after.find? key).map value).getD 0) =
        part.map (fun key => ((before.find? key).map value).getD 0) := by
    intro part absent
    apply List.map_congr_left
    intro other isOther
    rw [others other]
    rintro rfl
    exact absent isOther
  have notEarly : key ∉ early := fun isEarly =>
    apart key isEarly key List.mem_cons_self rfl
  rw [split]
  simp only [List.map_append, List.map_cons, List.sum_append, List.sum_cons, same early notEarly,
    same late (List.nodup_cons.mp tail).1, found, replaced, Option.map_some, Option.getD_some]
  omega

end Table

end SuseokTrader
