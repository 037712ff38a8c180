import Mathlib

/-!
# The newest arrival of a key

Items arrive under keys in any order, and one item is held for each key. The
item held is the newest when it arrived under the key and no later one did. An
arrival that takes its keys whatever they hold keeps this exactly when it is
not older than an earlier arrival of one of them. An arrival that gives way to
a later one always does.
-/

namespace SuseokTrader

universe u v w

section Newest

variable {Item : Type u} {Key : Type v} {Time : Type w} [Preorder Time]

structure HoldsNewest (time : Item → Time) (arrived : Item → Key → Prop)
    (held : Key → Option Item) : Prop where
  present : ∀ item key, arrived item key → (held key).isSome
  newest : ∀ key item, held key = some item →
    arrived item key ∧ ∀ other, arrived other key → time other ≤ time item

def arriveUnder (arrived : Item → Key → Prop) (item : Item) (keys : Key → Prop) :
    Item → Key → Prop :=
  fun other key => arrived other key ∨ other = item ∧ keys key

def NotOvertaken (time : Item → Time) (arrived : Item → Key → Prop) (item : Item)
    (keys : Key → Prop) : Prop :=
  ∀ other key, keys key → arrived other key → time other ≤ time item

variable {time : Item → Time} {arrived later : Item → Key → Prop} {held : Key → Option Item}

theorem HoldsNewest.congr (holds : HoldsNewest time arrived held)
    (same : ∀ item key, later item key ↔ arrived item key) : HoldsNewest time later held where
  present item key arrival := holds.present item key ((same item key).mp arrival)
  newest key item found := by
    rcases holds.newest key item found with ⟨arrival, newest⟩
    exact ⟨(same item key).mpr arrival,
      fun other otherArrival => newest other ((same other key).mp otherArrival)⟩

variable {item : Item} {keys : Key → Prop} {taken : Key → Option Item}

/-- An item that takes the keys that hold nothing or give way to it leaves the newest there exactly
when nothing gives way to it that is newer. -/
theorem holdsNewest_offer_iff {yields : Item → Prop} (holds : HoldsNewest time arrived held)
    (keepsNewer : ∀ key other, keys key → held key = some other → ¬ yields other →
      time item ≤ time other)
    (own : ∀ key, keys key → (∀ other, held key = some other → yields other) →
      taken key = some item)
    (declined : ∀ key other, keys key → held key = some other → ¬ yields other →
      taken key = some other)
    (others : ∀ key, ¬ keys key → taken key = held key) :
    HoldsNewest time (arriveUnder arrived item keys) taken ↔
      ∀ key other, keys key → held key = some other → yields other → time other ≤ time item := by
  constructor
  · intro newest key other isKey isHeld yielding
    have isTaken : taken key = some item := by
      apply own key isKey
      intro same isSame
      rw [isHeld, Option.some.injEq] at isSame
      exact isSame ▸ yielding
    exact (newest.newest key item isTaken).2 other (Or.inl (holds.newest key other isHeld).1)
  · intro inOrder
    refine ⟨?_, ?_⟩
    · intro other key arrival
      by_cases isKey : keys key
      · by_cases allYield : ∀ other, held key = some other → yields other
        · rw [own key isKey allYield]
          rfl
        · push Not at allYield
          rcases allYield with ⟨kept, isHeld, stays⟩
          rw [declined key kept isKey isHeld stays]
          rfl
      · rw [others key isKey]
        rcases arrival with arrival | ⟨_, isKey'⟩
        · exact holds.present other key arrival
        · exact absurd isKey' isKey
    · intro key found isFound
      by_cases isKey : keys key
      · by_cases allYield : ∀ other, held key = some other → yields other
        · rw [own key isKey allYield, Option.some.injEq] at isFound
          subst isFound
          refine ⟨Or.inr ⟨rfl, isKey⟩, ?_⟩
          rintro other (arrival | ⟨rfl, _⟩)
          · rcases Option.isSome_iff_exists.mp (holds.present other key arrival) with
              ⟨before, isHeld⟩
            exact ((holds.newest key before isHeld).2 other arrival).trans
              (inOrder key before isKey isHeld (allYield before isHeld))
          · exact le_refl _
        · push Not at allYield
          rcases allYield with ⟨kept, isHeld, stays⟩
          rw [declined key kept isKey isHeld stays, Option.some.injEq] at isFound
          subst isFound
          rcases holds.newest key kept isHeld with ⟨arrival, newest⟩
          refine ⟨Or.inl arrival, ?_⟩
          rintro other (otherArrival | ⟨rfl, _⟩)
          · exact newest other otherArrival
          · exact keepsNewer key kept isKey isHeld stays
      · rw [others key isKey] at isFound
        rcases holds.newest key found isFound with ⟨arrival, newest⟩
        refine ⟨Or.inl arrival, ?_⟩
        rintro other (otherArrival | ⟨_, isKey'⟩)
        · exact newest other otherArrival
        · exact absurd isKey' isKey

/-- An item that takes its keys whatever they hold leaves the newest there exactly when it is not
overtaken. -/
theorem holdsNewest_overwrite_iff (holds : HoldsNewest time arrived held)
    (own : ∀ key, keys key → taken key = some item)
    (others : ∀ key, ¬ keys key → taken key = held key) :
    HoldsNewest time (arriveUnder arrived item keys) taken ↔
      NotOvertaken time arrived item keys := by
  let yields : Item → Prop := fun _ => True
  have never : ∀ other, ¬ ¬ yields other := fun _ stays => stays trivial
  have declined : ∀ key other, keys key → held key = some other → ¬ yields other →
      taken key = some other := fun _ other _ _ stays => absurd stays (never other)
  have keepsNewer : ∀ key other, keys key → held key = some other → ¬ yields other →
      time item ≤ time other := fun _ other _ _ stays => absurd stays (never other)
  rw [holdsNewest_offer_iff holds keepsNewer (fun key isKey _ => own key isKey) declined others]
  constructor
  · intro inOrder other key isKey arrival
    rcases Option.isSome_iff_exists.mp (holds.present other key arrival) with ⟨before, isHeld⟩
    exact ((holds.newest key before isHeld).2 other arrival).trans
      (inOrder key before isKey isHeld trivial)
  · intro notOvertaken key other isKey isHeld _
    exact notOvertaken other key isKey (holds.newest key other isHeld).1

end Newest

end SuseokTrader
