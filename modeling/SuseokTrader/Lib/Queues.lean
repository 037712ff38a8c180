import Mathlib

/-!
# Queues

Operations in the middle of a queue: the first item with a property is taken
out or replaced, an item goes in after the last one with a property, and items
are removed by what identifies them.
-/

namespace SuseokTrader

universe u v

variable {Item : Type u}

/-! ## Operations -/

def takeOut (property : Item → Bool) : List Item → Option (Item × List Item)
  | [] => none
  | first :: rest =>
      if property first then some (first, rest)
      else (takeOut property rest).map fun (found, items) => (found, first :: items)

def replaceFirst (property : Item → Bool) (item : Item) : List Item → Option (List Item × Item)
  | [] => none
  | first :: rest =>
      if property first then some (item :: rest, first)
      else (replaceFirst property item rest).map fun (items, old) => (first :: items, old)

variable (property : Item → Bool) (items : List Item)

def endOf : Nat :=
  items.zipIdx.foldl (fun place entry => if property entry.1 then entry.2 + 1 else place) 0

def insertAfterLast (item : Item) : List Item :=
  items.insertIdx (endOf property items) item

/-! ## Where they act -/

theorem takeOut_eq_some {property : Item → Bool} {items rest : List Item} {found : Item}
    (takes : takeOut property items = some (found, rest)) :
    ∃ left right, items = left ++ found :: right ∧ rest = left ++ right ∧
      property found = true ∧ ∀ item ∈ left, property item = false := by
  induction items generalizing rest with
  | nil => cases takes
  | cons first items ih =>
      rw [takeOut] at takes
      split at takes
      · next holds =>
          cases takes
          exact ⟨[], items, rfl, rfl, holds, fun _ absent => nomatch absent⟩
      · next fails =>
          rw [Option.map_eq_some_iff] at takes
          rcases takes with ⟨⟨later, remaining⟩, taken, same⟩
          cases same
          rcases ih taken with ⟨left, right, rfl, rfl, holds, none⟩
          refine ⟨first :: left, right, rfl, rfl, holds, ?_⟩
          intro item present
          rcases List.mem_cons.mp present with rfl | present
          · simpa using fails
          · exact none item present

theorem replaceFirst_eq_some {property : Item → Bool} {item old : Item} {items after : List Item}
    (replaces : replaceFirst property item items = some (after, old)) :
    ∃ left right, items = left ++ old :: right ∧ after = left ++ item :: right ∧
      property old = true ∧ ∀ other ∈ left, property other = false := by
  induction items generalizing after with
  | nil => cases replaces
  | cons first items ih =>
      rw [replaceFirst] at replaces
      split at replaces
      · next holds =>
          cases replaces
          exact ⟨[], items, rfl, rfl, holds, fun _ absent => nomatch absent⟩
      · next fails =>
          rw [Option.map_eq_some_iff] at replaces
          rcases replaces with ⟨⟨remaining, later⟩, replaced, same⟩
          cases same
          rcases ih replaced with ⟨left, right, rfl, rfl, holds, none⟩
          refine ⟨first :: left, right, rfl, rfl, holds, ?_⟩
          intro other present
          rcases List.mem_cons.mp present with rfl | present
          · simpa using fails
          · exact none other present

theorem endOf_splits :
    ∃ left right, items = left ++ right ∧ left.length = endOf property items ∧
      ∀ item ∈ right, property item = false := by
  induction items using List.reverseRecOn with
  | nil => exact ⟨[], [], rfl, rfl, fun _ absent => nomatch absent⟩
  | append_singleton items last ih =>
      rw [endOf, List.zipIdx_append, List.foldl_append]
      dsimp only [List.zipIdx_cons, List.zipIdx_nil, List.foldl_cons, List.foldl_nil]
      rw [← endOf]
      split
      · refine ⟨items ++ [last], [], by simp, ?_, fun _ absent => nomatch absent⟩
        simp
      · next fails =>
          rcases ih with ⟨left, right, rfl, place, none⟩
          refine ⟨left, right ++ [last], by simp, place, ?_⟩
          intro item present
          rcases List.mem_append.mp present with present | present
          · exact none item present
          · rw [List.mem_singleton] at present
            subst present
            simpa using fails

theorem insertIdx_length_append (left right : List Item) (item : Item) :
    (left ++ right).insertIdx left.length item = left ++ item :: right := by
  induction left with
  | nil => rfl
  | cons first left ih => rw [List.cons_append, List.length_cons, List.insertIdx_succ_cons, ih,
      List.cons_append]

theorem insertAfterLast_splits (item : Item) :
    ∃ left right, items = left ++ right ∧
      insertAfterLast property items item = left ++ item :: right ∧
      ∀ other ∈ right, property other = false := by
  rcases endOf_splits property items with ⟨left, right, split, place, none⟩
  refine ⟨left, right, split, ?_, none⟩
  rw [insertAfterLast, ← place, split, insertIdx_length_append]

/-! ## Removing by identity -/

section Identity

variable {Name : Type v} [DecidableEq Name] (name : Item → Name)

def removeNamed (items : List Item) (item : Item) : List Item :=
  items.eraseP fun other => name other = name item

variable {name}

theorem removeNamed_eq_filter {items : List Item} (distinct : (items.map name).Nodup)
    (item : Item) :
    removeNamed name items item = items.filter fun other => name other ≠ name item := by
  induction items with
  | nil => rfl
  | cons first items ih =>
      rw [List.map_cons, List.nodup_cons] at distinct
      rw [removeNamed, List.eraseP_cons, List.filter_cons]
      by_cases same : name first = name item
      · have others : items.filter (fun other => name other ≠ name item) = items := by
          apply List.filter_eq_self.mpr
          intro other present
          rw [decide_eq_true_eq, ← same]
          intro again
          exact distinct.1 (List.mem_map.mpr ⟨other, present, again⟩)
        rw [others]
        simp [same]
      · have later := ih distinct.2
        rw [removeNamed] at later
        simp only [same, decide_false, cond_false, ne_eq, not_false_eq_true, decide_true, if_true]
        rw [later]

omit [DecidableEq Name] in
theorem nodup_map_filter {items : List Item} (distinct : (items.map name).Nodup)
    (property : Item → Bool) : ((items.filter property).map name).Nodup :=
  distinct.sublist (List.filter_sublist.map name)

theorem foldl_removeNamed {items : List Item} (distinct : (items.map name).Nodup)
    (removed : List Item) :
    removed.foldl (removeNamed name) items =
      items.filter fun other => name other ∉ removed.map name := by
  induction removed generalizing items with
  | nil => simp
  | cons first removed ih =>
      rw [List.foldl_cons, removeNamed_eq_filter distinct,
        ih (nodup_map_filter distinct _), List.filter_filter]
      apply List.filter_congr
      simp [Bool.and_comm]

end Identity

end SuseokTrader
