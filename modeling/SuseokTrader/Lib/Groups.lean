import Mathlib

/-!
# Sums by groups

A list is split into groups. Its sum is that of the sums of the groups, and its
greatest value is the greatest of those of parts that cover it.
-/

namespace SuseokTrader

universe u v

variable {α : Type u} {Value : Type v}

theorem sum_map_single {Group : Type*} [DecidableEq Group] [AddCommMonoid Value] (value : Value)
    {group : Group} {groups : List Group} (distinct : groups.Nodup) (within : group ∈ groups) :
    (groups.map fun member => if group = member then value else 0).sum = value := by
  induction groups with
  | nil => cases within
  | cons first groups ih =>
      rw [List.nodup_cons] at distinct
      by_cases isFirst : group = first
      · subst isFirst
        have noneLater : (groups.map fun member => if group = member then value else 0) =
            groups.map fun _ => 0 := by
          apply List.map_congr_left
          intro member isMember
          rw [if_neg]
          rintro rfl
          exact distinct.1 isMember
        rw [List.map_cons, noneLater]
        simp
      · have later : group ∈ groups := by simpa [isFirst] using within
        rw [List.map_cons, List.sum_cons, ih distinct.2 later]
        simp [isFirst]

theorem sum_groups {Group : Type*} [DecidableEq Group] [AddCommMonoid Value] (value : α → Value)
    (group : α → Group) {groups : List Group} (distinct : groups.Nodup) (items : List α)
    (within : ∀ item ∈ items, group item ∈ groups) :
    (groups.map fun member =>
      ((items.filter fun item => group item = member).map value).sum).sum =
        (items.map value).sum := by
  induction items with
  | nil => simp
  | cons item items ih =>
      have here := within item List.mem_cons_self
      have later := ih fun other isOther => within other (List.mem_cons_of_mem item isOther)
      have splits : ∀ member, (((item :: items).filter fun item => group item = member).map
          value).sum = (if group item = member then value item else 0) +
            ((items.filter fun item => group item = member).map value).sum := by
        intro member
        by_cases same : group item = member
        · simp [same]
        · simp [same]
      simp only [splits, List.sum_map_add, List.map_cons, List.sum_cons]
      rw [sum_map_single (value item) distinct here, later]

theorem sum_filterMap {Place : Type*} [AddCommMonoid Value] (value : α → Value)
    (find : Place → Option α) (places : List Place) :
    ((places.filterMap find).map value).sum =
      (places.map fun place => (find place).elim 0 value).sum := by
  induction places with
  | nil => rfl
  | cons place places ih =>
      cases found : find place with
      | none => simp [found, ih]
      | some item => simp [found, ih]

theorem sum_flatMap {Place : Type*} [AddCommMonoid Value] (value : α → Value)
    (parts : Place → List α) (places : List Place) :
    ((places.flatMap parts).map value).sum =
      (places.map fun place => ((parts place).map value).sum).sum := by
  induction places with
  | nil => rfl
  | cons place places ih => simp [ih]

theorem isGreatest_parts {Part : Type*} [PartialOrder Value] {items : List α} {parts : List Part}
    {value : α → Value} {peak : Part → Value} {members : Part → List α}
    (peaks : ∀ part ∈ parts,
      IsGreatest {level | ∃ item ∈ members part, value item = level} (peak part))
    (covers : ∀ item ∈ items, ∃ part ∈ parts, item ∈ members part)
    (within : ∀ part ∈ parts, ∀ item ∈ members part, item ∈ items) {greatest : Value}
    (isGreatest : IsGreatest {level | ∃ item ∈ items, value item = level} greatest) :
    IsGreatest {level | ∃ part ∈ parts, peak part = level} greatest := by
  rcases isGreatest with ⟨⟨item, isItem, isValue⟩, atMost⟩
  have bounded : ∀ part ∈ parts, peak part ≤ greatest := by
    intro part isPart
    rcases (peaks part isPart).1 with ⟨other, isMember, isPeak⟩
    rw [← isPeak]
    exact atMost ⟨other, within part isPart other isMember, rfl⟩
  refine ⟨?_, ?_⟩
  · rcases covers item isItem with ⟨part, isPart, isMember⟩
    refine ⟨part, isPart, le_antisymm (bounded part isPart) ?_⟩
    rw [← isValue]
    exact (peaks part isPart).2 ⟨item, isMember, rfl⟩
  · rintro level ⟨part, isPart, rfl⟩
    exact bounded part isPart

end SuseokTrader
