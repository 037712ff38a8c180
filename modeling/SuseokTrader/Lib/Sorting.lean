import Mathlib

/-!
# Sorting and selecting

A stable sort by a total preorder may be done before a selection or after it,
and a selection that drops nothing of the first items keeps them.
-/

namespace SuseokTrader

universe u

variable {Item : Type u} {before : Item → Item → Prop} [DecidableRel before]
  (total : ∀ first second, before first second ∨ before second first)
  (trans : ∀ first second third, before first second → before second third → before first third)

theorem filter_orderedInsert_of_not {selected : Item → Bool} {item : Item}
    (notSelected : selected item = false) (items : List Item) :
    (items.orderedInsert before item).filter selected = items.filter selected := by
  induction items with
  | nil => simp [notSelected]
  | cons first items ih =>
      rw [List.orderedInsert_cons]
      split
      · simp [notSelected]
      · rw [List.filter_cons, List.filter_cons, ih]

include trans in
theorem filter_orderedInsert_of_selected {selected : Item → Bool} {item : Item}
    (isSelected : selected item = true) {items : List Item} (sorted : items.Pairwise before) :
    (items.orderedInsert before item).filter selected =
      (items.filter selected).orderedInsert before item := by
  induction items with
  | nil => simp [isSelected]
  | cons first items ih =>
      rcases List.pairwise_cons.mp sorted with ⟨isFirst, sorted⟩
      rw [List.orderedInsert_cons]
      split
      · next precedes =>
          have precedesAll : ∀ other ∈ (first :: items).filter selected, before item other := by
            intro other listed
            rcases List.mem_cons.mp (List.mem_of_mem_filter listed) with rfl | later
            · exact precedes
            · exact trans _ _ _ precedes (isFirst other later)
          rw [List.filter_cons_of_pos isSelected]
          cases kept : (first :: items).filter selected with
          | nil => rfl
          | cons head rest =>
              rw [List.orderedInsert_cons, if_pos]
              exact precedesAll head (kept ▸ List.mem_cons_self)
      · next notPrecedes =>
          by_cases firstSelected : selected first = true
          · rw [List.filter_cons_of_pos firstSelected, List.filter_cons_of_pos firstSelected,
              List.orderedInsert_cons, if_neg notPrecedes, ih sorted]
          · rw [List.filter_cons_of_neg firstSelected, List.filter_cons_of_neg firstSelected,
              ih sorted]

include total trans in
theorem filter_insertionSort (selected : Item → Bool) (items : List Item) :
    (items.insertionSort before).filter selected =
      (items.filter selected).insertionSort before := by
  have _ : Std.Total before := ⟨total⟩
  have _ : IsTrans Item before := ⟨trans⟩
  induction items with
  | nil => rfl
  | cons item items ih =>
      rw [List.insertionSort_cons]
      by_cases isSelected : selected item = true
      · rw [filter_orderedInsert_of_selected trans isSelected (List.pairwise_insertionSort _ _), ih,
          List.filter_cons_of_pos isSelected, List.insertionSort_cons]
      · rw [filter_orderedInsert_of_not (by simpa using isSelected), ih,
          List.filter_cons_of_neg isSelected]

theorem take_filter_of_forall {selected : Item → Bool} {items : List Item} {count : Nat}
    (kept : ∀ item ∈ items.take count, selected item = true) :
    (items.filter selected).take count = items.take count := by
  induction items generalizing count with
  | nil => rfl
  | cons item items ih =>
      cases count with
      | zero => rfl
      | succ count =>
          rcases List.forall_mem_cons.mp kept with ⟨first, rest⟩
          rw [List.filter_cons_of_pos first, List.take_succ_cons, List.take_succ_cons, ih rest]

omit [DecidableRel before] in
theorem exists_front_of_sorted {items : List Item} (sorted : items.Pairwise before)
    {first second : Item} {count : Nat} (isItem : first ∈ items) (isTaken : second ∈ items.take count)
    (different : first ≠ second) (notAfter : ¬ before second first) :
    ∃ front back, items.take count = front ++ second :: back ∧ first ∈ front := by
  rcases List.append_of_mem isTaken with ⟨front, back, taken⟩
  refine ⟨front, back, taken, ?_⟩
  rw [← List.take_append_drop count items, taken, List.append_assoc, List.cons_append] at isItem sorted
  rcases List.mem_append.mp isItem with inFront | behind
  · exact inFront
  · rcases List.mem_cons.mp behind with same | behind
    · exact absurd same different
    · exact absurd ((List.pairwise_cons.mp (List.pairwise_append.mp sorted).2.1).1 first behind)
        notAfter

end SuseokTrader
