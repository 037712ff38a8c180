import Mathlib

/-!
# Items that arrive more than once

Items arrive in any order and any number of times. Each is kept unless one that
was kept before blocks it. Items that block themselves are kept at most once,
so the kept items are the arrived ones up to order when none blocks another.
-/

namespace SuseokTrader

universe u

variable {Item : Type u} (blocks : Item → Item → Bool)

def isBlocked (kept : List Item) (item : Item) : Bool :=
  kept.any fun earlier => blocks earlier item

def keep (kept : List Item) (item : Item) : List Item :=
  if isBlocked blocks kept item then kept else kept ++ [item]

def keepAll (kept items : List Item) : List Item :=
  items.foldl (keep blocks) kept

variable {blocks}

variable {kept : List Item}

theorem keep_of_blocked {item : Item} (blocked : isBlocked blocks kept item) :
    keep blocks kept item = kept :=
  if_pos blocked

theorem keep_of_free {item : Item}
    (free : isBlocked blocks kept item = false) : keep blocks kept item = kept ++ [item] := by
  rw [keep, free]
  rfl

theorem mem_keep {item other : Item} (present : other ∈ keep blocks kept item) :
    other ∈ kept ∨ other = item := by
  rw [keep] at present
  split at present
  · exact Or.inl present
  · simpa using present

theorem mem_keepAll {kept items : List Item} {item : Item}
    (present : item ∈ keepAll blocks kept items) : item ∈ kept ∨ item ∈ items := by
  induction items generalizing kept with
  | nil => exact Or.inl present
  | cons first items ih =>
      rcases ih present with here | later
      · rcases mem_keep here with before | rfl
        · exact Or.inl before
        · exact Or.inr List.mem_cons_self
      · exact Or.inr (List.mem_cons_of_mem first later)

theorem mem_keepAll_of_mem {item : Item} (present : item ∈ kept)
    (items : List Item) : item ∈ keepAll blocks kept items := by
  induction items generalizing kept with
  | nil => exact present
  | cons first items ih =>
      apply ih
      rw [keep]
      split
      · exact present
      · exact List.mem_append_left [first] present

theorem nodup_keepAll (reflexive : ∀ item, blocks item item) {kept : List Item}
    (distinct : kept.Nodup) (items : List Item) : (keepAll blocks kept items).Nodup := by
  induction items generalizing kept with
  | nil => exact distinct
  | cons item items ih =>
      apply ih
      rw [keep]
      split
      · exact distinct
      · next free =>
          have absent : item ∉ kept := by
            intro present
            exact free (List.any_eq_true.mpr ⟨item, present, reflexive item⟩)
          simpa using distinct.concat absent

theorem keepAll_perm {items all : List Item} (reflexive : ∀ item, blocks item item)
    (distinct : all.Nodup) (within : ∀ item ∈ items, item ∈ all)
    (everything : ∀ item ∈ all, item ∈ keepAll blocks [] items) :
    (keepAll blocks [] items).Perm all := by
  rw [List.perm_ext_iff_of_nodup (nodup_keepAll reflexive List.nodup_nil items) distinct]
  intro item
  constructor
  · intro present
    rcases mem_keepAll present with here | arrived
    · cases here
    · exact within item arrived
  · exact everything item

end SuseokTrader
