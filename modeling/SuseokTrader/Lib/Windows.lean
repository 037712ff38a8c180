import Mathlib

/-!
# Sliding windows

Calls are logged in the order of their times. What is held of the log are the
calls after a horizon that moves with the clock; dropping the expired ones from
the front is the same as looking for them everywhere. Where a call is let
through only if those held leave room for it, no window of that length holds
more than its cap, wherever the window lies.
-/

namespace SuseokTrader

universe u v w

namespace Window

/-! ## Expiry -/

section Expiry

variable {Call : Type u} {Time : Type v} [LinearOrder Time] {time : Call → Time}
  {log : List Call} {horizon later : Time}

def expire (time : Call → Time) (horizon : Time) (held : List Call) : List Call :=
  held.dropWhile fun call => time call ≤ horizon

def Ordered (time : Call → Time) (log : List Call) : Prop :=
  log.Pairwise fun earlier call => time earlier ≤ time call

def after (time : Call → Time) (horizon : Time) (log : List Call) : List Call :=
  log.filter fun call => horizon < time call

theorem Ordered.after (ordered : Ordered time log) : Ordered time (after time horizon log) :=
  List.Pairwise.filter _ ordered

theorem expire_eq_after (ordered : Ordered time log) :
    expire time horizon log = after time horizon log := by
  induction log with
  | nil => rfl
  | cons call log ih =>
      rcases List.pairwise_cons.mp ordered with ⟨first, rest⟩
      by_cases expired : time call ≤ horizon
      · simpa [expire, Window.after, expired] using ih rest
      · have lives : ∀ other ∈ log, horizon < time other := fun other present =>
          lt_of_lt_of_le (not_le.mp expired) (first other present)
        simp only [expire, Window.after, List.dropWhile_cons, List.filter_cons, expired,
          decide_false, Bool.false_eq_true, if_false, not_le.mp expired, decide_true, if_true]
        rw [List.filter_eq_self.mpr fun other present => by simpa using lives other present]

theorem expire_after (ordered : Ordered time log) (moves : horizon ≤ later) :
    expire time later (after time horizon log) = after time later log := by
  rw [expire_eq_after ordered.after, Window.after, Window.after, List.filter_filter]
  apply List.filter_congr
  intro call _
  by_cases lives : later < time call
  · simp [lt_of_le_of_lt moves lives]
  · simp [lives]

theorem expire_eq_self {first : Call} {held : List Call} (begins : held.head? = some first)
    (lives : horizon < time first) : expire time horizon held = held := by
  cases held with
  | nil => rfl
  | cons call held =>
      cases begins
      simp [expire, lives]

theorem ordered_append {call : Call} (ordered : Ordered time log)
    (last : ∀ other ∈ log, time other ≤ time call) : Ordered time (log ++ [call]) := by
  apply List.pairwise_append.mpr
  refine ⟨ordered, List.pairwise_singleton _ _, ?_⟩
  intro other present single isSingle
  rw [List.mem_singleton.mp isSingle]
  exact last other present

end Expiry

/-! ## Windows -/

section Totals

variable {Call : Type u} {Weight : Type v} [AddCommMonoid Weight] {weight : Call → Weight}
  {calls : List Call}

def total (weight : Call → Weight) (calls : List Call) : Weight :=
  (calls.map weight).sum

theorem total_append (call : Call) :
    total weight (calls ++ [call]) = total weight calls + weight call := by
  simp [total]

variable [PartialOrder Weight] [IsOrderedAddMonoid Weight]

inductive Gated (gate : List Call → Call → Prop) : List Call → Prop where
  | nil : Gated gate []
  | call {earlier : List Call} {call : Call} (gated : Gated gate earlier)
      (lets : gate earlier call) : Gated gate (earlier ++ [call])

theorem Gated.strengthen {gate : List Call → Call → Prop} (gated : Gated gate calls)
    {property : Call → Prop} (entails : ∀ earlier call, gate earlier call → property call) :
    (∀ call ∈ calls, property call) ∧
      Gated (fun earlier call => gate earlier call ∧ ∀ other ∈ earlier, property other) calls := by
  induction gated with
  | nil => exact ⟨fun _ present => absurd present List.not_mem_nil, .nil⟩
  | call gated lets ih =>
      refine ⟨?_, .call ih.2 ⟨lets, ih.1⟩⟩
      intro call present
      rcases List.mem_append.mp present with early | last
      · exact ih.1 call early
      · rw [List.mem_singleton.mp last]
        exact entails _ _ lets

theorem Gated.pairwise {gate : List Call → Call → Prop} (gated : Gated gate calls)
    {related : Call → Call → Prop}
    (entails : ∀ earlier call, gate earlier call → ∀ other ∈ earlier, related other call) :
    calls.Pairwise related := by
  induction gated with
  | nil => exact .nil
  | call gated lets ih =>
      apply List.pairwise_append.mpr
      refine ⟨ih, List.pairwise_singleton _ _, ?_⟩
      intro other present single isSingle
      rw [List.mem_singleton.mp isSingle]
      exact entails _ _ lets other present

omit [AddCommMonoid Weight] [PartialOrder Weight] [IsOrderedAddMonoid Weight] in
theorem Gated.countP_le {gate : List Call → Call → Prop} (gated : Gated gate calls)
    {inside : Call → Bool} {cap : Nat}
    (room : ∀ earlier call, gate earlier call → inside call = true →
      earlier.countP inside < cap) : calls.countP inside ≤ cap := by
  induction gated with
  | nil => exact Nat.zero_le cap
  | @call earlier call _ lets ih =>
      rw [List.countP_append, List.countP_singleton]
      by_cases isInside : inside call = true
      · rw [if_pos isInside]
        exact room earlier call lets isInside
      · rw [if_neg isInside]
        exact ih

omit [IsOrderedAddMonoid Weight] in
/-- A window holds one call or no more than the cap, if the gate lets a call into it only where it
is empty or leaves room. -/
theorem Gated.window {gate : List Call → Call → Prop} (gated : Gated gate calls)
    {inside : Call → Bool} {cap : Weight}
    (room : ∀ earlier call, gate earlier call → inside call = true →
      earlier.filter inside = [] ∨ total weight (earlier.filter inside) + weight call ≤ cap) :
    (calls.filter inside).length ≤ 1 ∨ total weight (calls.filter inside) ≤ cap := by
  induction gated with
  | nil => exact Or.inl (Nat.zero_le 1)
  | @call earlier call _ lets ih =>
      rw [List.filter_append]
      cases isInside : inside call with
      | false =>
          rw [List.filter_cons_of_neg (by simp [isInside]), List.filter_nil, List.append_nil]
          exact ih
      | true =>
          rw [List.filter_cons_of_pos isInside, List.filter_nil]
          rcases room earlier call lets isInside with empty | fits
          · rw [empty]
            exact Or.inl (le_refl _)
          · rw [total_append]
            exact Or.inr fits

end Totals

end Window

end SuseokTrader
