import Mathlib

/-!
# Serving what fits

Items come up one after the other, and an item is served when it fits the state
at its turn; serving it changes the state for those behind it. When the items
that come up were cut from a longer list, the right ones are served exactly if
none of the first that fit was cut off.
-/

namespace SuseokTrader

universe u v

variable {State : Type u} {Item : Type v} (fits : State → Item → Bool)
  (serves : State → Item → State)

def serve (state : State) : List Item → List Item × State
  | [] => ([], state)
  | item :: items =>
      if fits state item then
        let rest := serve (serves state item) items
        (item :: rest.1, rest.2)
      else serve state items

def serveFirst : Nat → State → List Item → List Item
  | 0, _, _ => []
  | _ + 1, _, [] => []
  | count + 1, state, item :: items =>
      if fits state item then item :: serveFirst count (serves state item) items
      else serveFirst (count + 1) state items

variable {fits serves}

theorem serveFirst_subset (count : Nat) (state : State) (items : List Item) :
    serveFirst fits serves count state items ⊆ items := by
  induction items generalizing count state with
  | nil => cases count <;> exact List.Subset.refl []
  | cons item items ih =>
      cases count with
      | zero => exact List.nil_subset _
      | succ count =>
          rw [serveFirst]
          split
          · exact List.cons_subset_cons item (ih count _)
          · exact List.subset_cons_of_subset item (ih (count + 1) state)

theorem serveFirst_of_length_le {count : Nat} {items : List Item} (enough : items.length ≤ count)
    (state : State) : serveFirst fits serves count state items = (serve fits serves state items).1 := by
  induction items generalizing count state with
  | nil => cases count <;> rfl
  | cons item items ih =>
      cases count with
      | zero => cases enough
      | succ count =>
          rw [serveFirst, serve]
          split
          · rw [ih (Nat.le_of_succ_le_succ enough)]
          · exact ih (Nat.le_of_succ_le enough) state

theorem serve_of_unfit {state : State} {items : List Item}
    (unfit : ∀ item ∈ items, fits state item = false) :
    serve fits serves state items = ([], state) := by
  induction items with
  | nil => rfl
  | cons item items ih =>
      rcases List.forall_mem_cons.mp unfit with ⟨first, rest⟩
      rw [serve, if_neg (by simp [first]), ih rest]

theorem serve_eq_nil_iff {state : State} {items : List Item} :
    (serve fits serves state items).1 = [] ↔ ∀ item ∈ items, fits state item = false := by
  constructor
  · intro nothing
    induction items with
    | nil => simp
    | cons item items ih =>
        rw [serve] at nothing
        split at nothing
        · cases nothing
        · next unfit => exact List.forall_mem_cons.mpr ⟨by simpa using unfit, ih nothing⟩
  · intro unfit
    rw [serve_of_unfit unfit]

theorem serveFirst_of_sublist {items cut : List Item} (isCut : cut.Sublist items)
    (distinct : items.Nodup) {count : Nat} {state : State}
    (kept : ∀ item ∈ serveFirst fits serves count state items, item ∈ cut) :
    serveFirst fits serves count state cut = serveFirst fits serves count state items := by
  induction isCut generalizing count state with
  | slnil => rfl
  | @cons cut items item isCut ih =>
      rcases List.nodup_cons.mp distinct with ⟨notAgain, distinct⟩
      cases count with
      | zero => cases cut <;> rfl
      | succ count =>
          rw [serveFirst] at kept ⊢
          split at kept
          · have isKept := kept item List.mem_cons_self
            exact absurd (isCut.subset isKept) notAgain
          · next unfit =>
              rw [if_neg unfit]
              exact ih distinct kept
  | @cons_cons cut items item isCut ih =>
      rcases List.nodup_cons.mp distinct with ⟨notAgain, distinct⟩
      have inCut : ∀ {count state}, (∀ other ∈ serveFirst fits serves count state items,
          other ∈ item :: cut) → ∀ other ∈ serveFirst fits serves count state items,
            other ∈ cut := by
        intro count state kept other served
        rcases List.mem_cons.mp (kept other served) with rfl | isIn
        · exact absurd (serveFirst_subset count state items served) notAgain
        · exact isIn
      cases count with
      | zero => rfl
      | succ count =>
          rw [serveFirst] at kept
          rw [serveFirst, serveFirst]
          split at kept
          · next fit =>
              rw [if_pos fit, if_pos fit,
                ih distinct (inCut fun other served => kept other (List.mem_cons_of_mem item served))]
          · next unfit =>
              rw [if_neg unfit, if_neg unfit, ih distinct (inCut kept)]

end SuseokTrader
