import Mathlib

/-!
# Records that merge proposals

A record has a level and marks. An operation may propose a level and stamp
marks; the record keeps the highest level proposed and the first stamp of each
mark. What such a record holds in the end does not depend on the order of the
operations: its level is the greatest of the proposals, and its marks are those
that some operation stamps.
-/

namespace SuseokTrader

universe u v w x y

variable {State : Type u} {Op : Type v} {Level : Type w} {Mark : Type x} {Value : Type y}

/-- A fallible step that, where the invariant holds, does not fail and merges its proposal. -/
structure Merging [LinearOrder Level] (step : State → Op → Option State)
    (invariant : State → Prop) (level : State → Level) (mark : State → Mark → Option Value)
    (proposal : Op → Option Level) (stamp : Op → Mark → Option Value) : Prop where
  merges : ∀ state op, invariant state → ∃ next, step state op = some next ∧ invariant next ∧
    level next = (proposal op).elim (level state) (max (level state)) ∧
    ∀ place, mark next place = (mark state place).or (stamp op place)

namespace Merging

variable [LinearOrder Level] {step : State → Op → Option State} {invariant : State → Prop}
  {level : State → Level} {mark : State → Mark → Option Value} {proposal : Op → Option Level}
  {stamp : Op → Mark → Option Value}

theorem uncons (merging : Merging step invariant level mark proposal stamp) {state final : State}
    {op : Op} {ops : List Op} (holds : invariant state)
    (runs : (op :: ops).foldlM step state = some final) :
    ∃ next, invariant next ∧ ops.foldlM step next = some final ∧
      level next = (proposal op).elim (level state) (max (level state)) ∧
      ∀ place, mark next place = (mark state place).or (stamp op place) := by
  rcases merging.merges state op holds with ⟨next, steps, kept, levels, marks⟩
  refine ⟨next, kept, ?_, levels, marks⟩
  rw [List.foldlM_cons, steps] at runs
  exact runs

theorem total (merging : Merging step invariant level mark proposal stamp) {state : State}
    (holds : invariant state) (ops : List Op) :
    ∃ final, ops.foldlM step state = some final ∧ invariant final := by
  induction ops generalizing state with
  | nil => exact ⟨state, rfl, holds⟩
  | cons op ops ih =>
      rcases merging.merges state op holds with ⟨next, steps, kept, _⟩
      rcases ih kept with ⟨final, runs, finalHolds⟩
      refine ⟨final, ?_, finalHolds⟩
      rw [List.foldlM_cons, steps]
      exact runs

theorem isGreatest (merging : Merging step invariant level mark proposal stamp)
    {state final : State} {ops : List Op} (holds : invariant state)
    (runs : ops.foldlM step state = some final) :
    IsGreatest {proposed | proposed = level state ∨ ∃ op ∈ ops, proposal op = some proposed}
      (level final) := by
  induction ops generalizing state with
  | nil =>
      cases runs
      refine ⟨Or.inl rfl, ?_⟩
      rintro proposed (rfl | ⟨op, absent, _⟩)
      · exact le_rfl
      · cases absent
  | cons op ops ih =>
      rcases merging.uncons holds runs with ⟨next, kept, rest, levels, _⟩
      rcases ih kept rest with ⟨attained, bounds⟩
      have below : level state ≤ level next := by
        rw [levels]
        cases proposal op with
        | none => exact le_rfl
        | some proposed => exact le_max_left _ _
      constructor
      · rcases attained with here | ⟨later, present, proposes⟩
        · rw [here, levels]
          cases proposes : proposal op with
          | none => exact Or.inl rfl
          | some proposed =>
              rcases le_total proposed (level state) with lower | higher
              · exact Or.inl (max_eq_left lower)
              · refine Or.inr ⟨op, List.mem_cons_self, ?_⟩
                rw [proposes, Option.elim_some, max_eq_right higher]
        · exact Or.inr ⟨later, List.mem_cons_of_mem _ present, proposes⟩
      · rintro proposed (rfl | ⟨other, present, proposes⟩)
        · exact le_trans below (bounds (Or.inl rfl))
        · rcases List.mem_cons.mp present with rfl | present
          · refine le_trans ?_ (bounds (Or.inl rfl))
            rw [levels, proposes]
            exact le_max_right _ _
          · exact bounds (Or.inr ⟨other, present, proposes⟩)

theorem level_mono (merging : Merging step invariant level mark proposal stamp)
    {state final : State} {ops : List Op} (holds : invariant state)
    (runs : ops.foldlM step state = some final) : level state ≤ level final :=
  (merging.isGreatest holds runs).2 (Or.inl rfl)

theorem mark_persists (merging : Merging step invariant level mark proposal stamp)
    {state final : State} {ops : List Op} (holds : invariant state)
    (runs : ops.foldlM step state = some final) {place : Mark} {value : Value}
    (isSet : mark state place = some value) : mark final place = some value := by
  induction ops generalizing state with
  | nil =>
      cases runs
      exact isSet
  | cons op ops ih =>
      rcases merging.uncons holds runs with ⟨next, kept, rest, _, marks⟩
      exact ih kept rest (by rw [marks, isSet, Option.some_or])

theorem mark_isSome_iff (merging : Merging step invariant level mark proposal stamp)
    {state final : State} {ops : List Op} (holds : invariant state)
    (runs : ops.foldlM step state = some final) (place : Mark) :
    (mark final place).isSome = true ↔
      (mark state place).isSome = true ∨ ∃ op ∈ ops, (stamp op place).isSome = true := by
  induction ops generalizing state with
  | nil =>
      cases runs
      simp
  | cons op ops ih =>
      rcases merging.uncons holds runs with ⟨next, kept, rest, _, marks⟩
      rw [ih kept rest, marks, Option.isSome_or, Bool.or_eq_true, or_assoc]
      simp only [List.mem_cons, exists_eq_or_imp]

theorem perm (merging : Merging step invariant level mark proposal stamp)
    {state final otherFinal : State} {ops otherOps : List Op} (holds : invariant state)
    (runs : ops.foldlM step state = some final)
    (otherRuns : otherOps.foldlM step state = some otherFinal) (same : ops.Perm otherOps) :
    level final = level otherFinal ∧
      ∀ place, (mark final place).isSome = (mark otherFinal place).isSome := by
  constructor
  · apply (merging.isGreatest holds runs).unique
    have other := merging.isGreatest holds otherRuns
    simp only [same.mem_iff]
    exact other
  · intro place
    rw [Bool.eq_iff_iff, merging.mark_isSome_iff holds runs,
      merging.mark_isSome_iff holds otherRuns]
    simp only [same.mem_iff]

end Merging

end SuseokTrader
