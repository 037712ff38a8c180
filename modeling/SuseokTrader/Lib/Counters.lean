import Mathlib

/-!
# Counters that restart

A counter is read again and again, and restarts at the next day. Each reading
gains what the counter has moved since the one before it, whatever its day, and
never less than nothing. The gains of a day so add up to the last reading of
the day where the counter stood at nothing on one side of the change of day.
-/

namespace SuseokTrader

universe u

variable {α : Type u} (day level gain : α → ℤ)

inductive Gains : List α → Prop where
  | nil : Gains []
  | append {items : List α} {item : α} (gains : Gains items)
      (isGain : gain item =
        items.getLast?.elim (level item) fun last => max (level item - level last) 0) :
      Gains (items ++ [item])

/-- The days do not go back, and the counter does not go back within a day. -/
def InDayOrder (items : List α) : Prop :=
  items.Pairwise fun earlier later => day earlier ≤ day later ∧
    (day earlier = day later → level earlier ≤ level later)

def DaysAddUp (items : List α) : Prop :=
  ∀ date last, (items.filter fun item => day item = date).getLast? = some last →
    ((items.filter fun item => day item = date).map gain).sum = level last

/-- The counter stood at nothing before or after the change of day. -/
def RestartsAtNothing (items : List α) : Prop :=
  items.IsChain fun earlier later =>
    day earlier < day later → level earlier = 0 ∨ level later = 0

variable {day level gain}

theorem daysAddUp_append {items : List α} {item : α} :
    DaysAddUp day level gain (items ++ [item]) ↔
      (∀ date last, date ≠ day item →
        (items.filter fun other => day other = date).getLast? = some last →
          ((items.filter fun other => day other = date).map gain).sum = level last) ∧
      ((items.filter fun other => day other = day item).map gain).sum + gain item =
        level item := by
  constructor
  · intro addUp
    refine ⟨?_, ?_⟩
    · intro date last other isLast
      have here := addUp date last
      simp only [List.filter_append, other.symm, decide_false, List.filter_singleton,
        List.append_nil, cond_false] at here
      exact here isLast
    · have here := addUp (day item) item
      simpa using here
  · rintro ⟨others, own⟩ date last isLast
    by_cases same : date = day item
    · subst same
      simp only [List.filter_append, List.filter_singleton, decide_true, cond_true,
        List.getLast?_concat, Option.some.injEq] at isLast
      subst isLast
      simpa using own
    · simp only [List.filter_append, List.filter_singleton, Ne.symm same, decide_false,
        cond_false, List.append_nil] at isLast ⊢
      exact others date last same isLast

theorem daysAddUp_sameDay {init : List α} {last item : α} (sameDay : day last = day item)
    (isGain : gain item = level item - level last) :
    DaysAddUp day level gain (init ++ [last] ++ [item]) ↔
      DaysAddUp day level gain (init ++ [last]) := by
  have lastOfDay : ((init ++ [last]).filter fun other => day other = day item).getLast? =
      some last := by
    simp [sameDay]
  rw [daysAddUp_append]
  constructor
  · rintro ⟨others, own⟩ date other isOther
    by_cases isDay : date = day item
    · rw [isDay, lastOfDay, Option.some.injEq] at isOther
      rw [isDay, ← isOther]
      linarith
    · exact others date other isDay isOther
  · intro addUp
    refine ⟨fun date other _ => addUp date other, ?_⟩
    have ofDay := addUp (day item) last lastOfDay
    linarith

/-- The first reading of a day gains all of itself exactly where the counter stood at nothing, or
does now. -/
theorem daysAddUp_nextDay {init : List α} {last item : α}
    (before : ∀ other ∈ init ++ [last], day other ≤ day last) (nextDay : day last < day item)
    (isGain : gain item = max (level item - level last) 0) (atLeast : 0 ≤ level last)
    (itemAtLeast : 0 ≤ level item) :
    DaysAddUp day level gain (init ++ [last] ++ [item]) ↔
      DaysAddUp day level gain (init ++ [last]) ∧ (level last = 0 ∨ level item = 0) := by
  have noneOfDay : ((init ++ [last]).filter fun other => day other = day item) = [] := by
    rw [List.filter_eq_nil_iff]
    intro other isOther
    have notLater := before other isOther
    simp only [decide_eq_true_eq]
    omega
  have gains : gain item = level item ↔ level last = 0 ∨ level item = 0 := by
    omega
  rw [daysAddUp_append, noneOfDay, List.map_nil, List.sum_nil, zero_add, gains]
  refine and_congr_left fun _ => ?_
  constructor
  · intro others date other isOther
    by_cases isDay : date = day item
    · rw [isDay, noneOfDay] at isOther
      cases isOther
    · exact others date other isDay isOther
  · intro addUp date other _ isOther
    exact addUp date other isOther

theorem daysAddUp_iff {items : List α} (gains : Gains level gain items)
    (ordered : InDayOrder day level items) (nonneg : ∀ item ∈ items, 0 ≤ level item) :
    DaysAddUp day level gain items ↔ RestartsAtNothing day level items := by
  induction gains with
  | nil => simp [DaysAddUp, RestartsAtNothing]
  | @append items item gains isGain ih =>
      rw [InDayOrder, List.pairwise_append] at ordered
      rcases ordered with ⟨before, _, onItem⟩
      have here := ih before fun other isOther => nonneg other (List.mem_append_left _ isOther)
      rcases List.eq_nil_or_concat items with isNil | ⟨init, last, isConcat⟩
      · subst isNil
        rw [daysAddUp_append]
        simp [RestartsAtNothing, isGain]
      · rw [List.concat_eq_append] at isConcat
        subst isConcat
        have isLast : last ∈ init ++ [last] := by simp
        rw [List.getLast?_concat, Option.elim_some] at isGain
        have restarts : RestartsAtNothing day level (init ++ [last] ++ [item]) ↔
            RestartsAtNothing day level (init ++ [last]) ∧
              (day last < day item → level last = 0 ∨ level item = 0) := by
          rw [RestartsAtNothing, RestartsAtNothing]
          simp
        rw [restarts, ← here]
        rcases onItem last isLast item (List.mem_singleton_self item) with ⟨later, within⟩
        rcases lt_or_eq_of_le later with nextDay | sameDay
        · have upToLast : ∀ other ∈ init ++ [last], day other ≤ day last := by
            rw [List.pairwise_append] at before
            intro other isOther
            rcases List.mem_append.mp isOther with isEarlier | isSame
            · exact (before.2.2 other isEarlier last (List.mem_singleton_self last)).1
            · rw [List.mem_singleton.mp isSame]
          rw [daysAddUp_nextDay upToLast nextDay isGain
            (nonneg last (List.mem_append_left _ isLast)) (nonneg item (by simp))]
          simp [nextDay]
        · rw [daysAddUp_sameDay sameDay (by rw [isGain]; omega)]
          simp [sameDay]

end SuseokTrader
