import Mathlib

/-!
# Batches of keyed steps

A batch takes one fallible step for each item, and each step touches only the
part of the state under the key of its item. When no two items share a key,
the batch acts on every key as the one step of its item does, and as nothing
on the other keys.
-/

namespace SuseokTrader

universe u v w

variable {State : Type u} {Item : Type v} {Key : Type w}

/-- What the steps of a batch may change: `Same key` relates states that agree under `key`. -/
structure Framed (step : State → Item → Option State) (keyOf : Item → Key)
    (Same : Key → State → State → Prop) : Prop where
  refl : ∀ key state, Same key state state
  trans : ∀ {key first second third}, Same key first second → Same key second third →
    Same key first third
  frame : ∀ {state item next}, step state item = some next →
    ∀ key, key ≠ keyOf item → Same key state next

namespace Framed

variable {step : State → Item → Option State} {keyOf : Item → Key}
  {Same : Key → State → State → Prop}

theorem batch_frame (framed : Framed step keyOf Same) {items : List Item}
    {state final : State} (success : items.foldlM step state = some final) {key : Key}
    (foreign : key ∉ items.map keyOf) : Same key state final := by
  induction items generalizing state with
  | nil =>
      cases success
      exact framed.refl key _
  | cons item items ih =>
      rw [List.foldlM_cons, Option.bind_eq_bind, Option.bind_eq_some_iff] at success
      rcases success with ⟨next, here, later⟩
      simp only [List.map_cons, List.mem_cons, not_or] at foreign
      exact framed.trans (framed.frame here key foreign.1) (ih later foreign.2)

theorem batch_step (framed : Framed step keyOf Same) {items : List Item}
    (distinct : (items.map keyOf).Nodup) {state final : State}
    (success : items.foldlM step state = some final) {item : Item} (present : item ∈ items) :
    ∃ before after, Same (keyOf item) state before ∧ step before item = some after ∧
      Same (keyOf item) after final := by
  induction items generalizing state with
  | nil => cases present
  | cons head items ih =>
      rw [List.foldlM_cons, Option.bind_eq_bind, Option.bind_eq_some_iff] at success
      rcases success with ⟨next, here, later⟩
      simp only [List.map_cons, List.nodup_cons] at distinct
      rcases List.mem_cons.mp present with rfl | present
      · exact ⟨state, next, framed.refl _ state, here, framed.batch_frame later distinct.1⟩
      · have different : keyOf item ≠ keyOf head := by
          intro same
          exact distinct.1 (same ▸ List.mem_map_of_mem present)
        rcases ih distinct.2 later present with ⟨before, after, same, acts, rest⟩
        exact ⟨before, after, framed.trans (framed.frame here _ different) same, acts, rest⟩

end Framed

theorem batch_relates {step : State → Item → Option State} (relates : State → State → Prop)
    (refl : ∀ state, relates state state)
    (trans : ∀ {first second third}, relates first second → relates second third →
      relates first third)
    (each : ∀ {state item next}, step state item = some next → relates state next)
    {items : List Item} {state final : State}
    (success : items.foldlM step state = some final) : relates state final := by
  induction items generalizing state with
  | nil =>
      cases success
      exact refl _
  | cons item items ih =>
      rw [List.foldlM_cons, Option.bind_eq_bind, Option.bind_eq_some_iff] at success
      rcases success with ⟨next, here, later⟩
      exact trans (each here) (ih later)

theorem nodup_eraseDups {α : Type u} [BEq α] [LawfulBEq α] (items : List α) :
    items.eraseDups.Nodup := by
  induction size : items.length using Nat.strongRecOn generalizing items with
  | ind size ih =>
      cases items with
      | nil => exact List.nodup_nil
      | cons item items =>
          rw [List.eraseDups_cons, List.nodup_cons]
          constructor
          · simp
          · refine ih _ ?_ _ rfl
            have shorter := List.length_filter_le (fun other => !other == item) items
            rw [List.length_cons] at size
            omega

theorem eraseDups_of_nodup {α : Type u} [BEq α] [LawfulBEq α] {items : List α}
    (distinct : items.Nodup) : items.eraseDups = items := by
  induction items with
  | nil => rfl
  | cons item items ih =>
      rcases List.nodup_cons.mp distinct with ⟨fresh, later⟩
      have kept : items.filter (fun other => !other == item) = items := by
        apply List.filter_eq_self.mpr
        intro other present
        have different : other ≠ item := fun same => fresh (same ▸ present)
        simpa using different
      rw [List.eraseDups_cons, kept, ih later]

end SuseokTrader
