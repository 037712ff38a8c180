import SuseokTrader.Broker.Envelopes

/-!
# The executions of an order at the broker

The broker counts the quantity of the executions of an order and states what
each of them leaves. A store that sees them in another order, and takes over
what the last one states, agrees with the broker only in some cases.
-/

namespace SuseokTrader

/-! ## Executions -/

structure BrokerFill where
  event : GatewayEvent
  key : String
  quantity : Int
  price : Rat
  remaining : Option Int

variable (fills : List BrokerFill)

def totalQuantity : Int :=
  (fills.map BrokerFill.quantity).sum

def totalCost : Rat :=
  (fills.map fun fill => fill.price * (fill.quantity : Rat)).sum

/-- The distinct executions of an order in the broker's order. Each states the quantity that it
leaves of the order, or nothing. -/
structure FillHistory (quantity : Int) where
  fills : List BrokerFill
  distinct : fills.Nodup
  positive : ∀ fill ∈ fills, 1 ≤ fill.quantity
  within : totalQuantity fills ≤ quantity
  truthful : ∀ before fill after, fills = before ++ fill :: after → ∀ rest ∈ fill.remaining,
    rest = quantity - totalQuantity (before ++ [fill])

def sharesKey (earlier later : BrokerFill) : Bool :=
  earlier.key = later.key || earlier.key = Text.strip later.key

theorem sharesKey_self (fill : BrokerFill) : sharesKey fill fill := by
  simp [sharesKey]

@[simp]
theorem totalQuantity_nil : totalQuantity [] = 0 :=
  rfl

@[simp]
theorem totalQuantity_cons (fill : BrokerFill) (fills : List BrokerFill) :
    totalQuantity (fill :: fills) = fill.quantity + totalQuantity fills :=
  List.sum_cons

@[simp]
theorem totalQuantity_append (first second : List BrokerFill) :
    totalQuantity (first ++ second) = totalQuantity first + totalQuantity second := by
  simp [totalQuantity]

theorem totalQuantity_perm {first second : List BrokerFill} (permuted : first.Perm second) :
    totalQuantity first = totalQuantity second :=
  (permuted.map BrokerFill.quantity).sum_eq

theorem totalCost_perm {first second : List BrokerFill} (permuted : first.Perm second) :
    totalCost first = totalCost second :=
  (permuted.map _).sum_eq

theorem totalQuantity_nonneg {fills : List BrokerFill}
    (positive : ∀ fill ∈ fills, 1 ≤ fill.quantity) : 0 ≤ totalQuantity fills := by
  induction fills with
  | nil => exact le_refl 0
  | cons fill fills ih =>
      have here := positive fill List.mem_cons_self
      have later := ih fun other present => positive other (List.mem_cons_of_mem fill present)
      simp only [totalQuantity_cons]
      omega

theorem mem_of_totalQuantity_eq {all kept : List BrokerFill} (distinct : all.Nodup)
    (keptDistinct : kept.Nodup) (within : ∀ fill ∈ kept, fill ∈ all)
    (positive : ∀ fill ∈ all, 1 ≤ fill.quantity)
    (same : totalQuantity kept = totalQuantity all) : ∀ fill ∈ all, fill ∈ kept := by
  classical
  have permuted : all.Perm (kept ++ all.filter (· ∉ kept)) := by
    rw [List.perm_ext_iff_of_nodup distinct]
    · intro fill
      by_cases present : fill ∈ kept
      · simp [present, within fill present]
      · simp [present]
    · rw [List.nodup_append]
      refine ⟨keptDistinct, distinct.filter _, ?_⟩
      rintro fill present other isOther rfl
      simp [present] at isOther
  have sum := totalQuantity_perm permuted
  intro fill present
  by_contra missing
  have inRest : fill ∈ all.filter (· ∉ kept) := by simp [present, missing]
  rcases List.append_of_mem inRest with ⟨before, after, split⟩
  have restPositive : ∀ other ∈ all.filter (· ∉ kept), 1 ≤ other.quantity := by
    intro other isOther
    exact positive other (List.mem_of_mem_filter isOther)
  rw [split] at sum restPositive
  have front := totalQuantity_nonneg fun other here =>
    restPositive other (List.mem_append_left _ here)
  have back := totalQuantity_nonneg fun other here =>
    restPositive other (List.mem_append_right _ (List.mem_cons_of_mem fill here))
  have one := positive fill present
  simp only [totalQuantity_append, totalQuantity_cons] at sum
  omega

/-! ## The remaining quantity -/

def leaves (remaining : Int) (fill : BrokerFill) : Int :=
  fill.remaining.getD (max (remaining - fill.quantity) 0)

def leftAfter (quantity : Int) (fills : List BrokerFill) : Int :=
  fills.foldl leaves quantity

theorem leftAfter_of_unstated {fills : List BrokerFill} {quantity : Int}
    (positive : ∀ fill ∈ fills, 1 ≤ fill.quantity) (start : 0 ≤ quantity)
    (unstated : ∀ fill ∈ fills, fill.remaining = none) :
    leftAfter quantity fills = max (quantity - totalQuantity fills) 0 := by
  induction fills generalizing quantity with
  | nil =>
      rw [leftAfter, List.foldl_nil, totalQuantity_nil]
      omega
  | cons fill fills ih =>
      have laterPositive : ∀ other ∈ fills, 1 ≤ other.quantity := fun other present =>
        positive other (List.mem_cons_of_mem fill present)
      have nonneg := totalQuantity_nonneg laterPositive
      have step : leaves quantity fill = max (quantity - fill.quantity) 0 := by
        rw [leaves, unstated fill List.mem_cons_self]
        rfl
      have rest := ih laterPositive (le_max_right (quantity - fill.quantity) 0)
        fun other present => unstated other (List.mem_cons_of_mem fill present)
      rw [leftAfter] at rest
      rw [leftAfter, List.foldl_cons, step, totalQuantity_cons]
      omega

theorem exists_last_stated :
    (∀ fill ∈ fills, fill.remaining = none) ∨
      ∃ before fill rest after, fills = before ++ fill :: after ∧ fill.remaining = some rest ∧
        ∀ other ∈ after, other.remaining = none := by
  induction fills with
  | nil => exact Or.inl fun fill present => by cases present
  | cons fill fills ih =>
      rcases ih with unstated | ⟨before, last, rest, after, rfl, states, none⟩
      · cases states : fill.remaining with
        | none =>
            left
            intro other present
            rcases List.mem_cons.mp present with rfl | later
            · exact states
            · exact unstated other later
        | some rest => exact Or.inr ⟨[], fill, rest, fills, rfl, states, unstated⟩
      · exact Or.inr ⟨fill :: before, last, rest, after, rfl, states, none⟩

theorem last_stated_unique {before before' after after' : List BrokerFill}
    {fill fill' : BrokerFill} (split : before ++ fill :: after = before' ++ fill' :: after')
    (states : fill.remaining ≠ none) (states' : fill'.remaining ≠ none)
    (unstated : ∀ other ∈ after, other.remaining = none)
    (unstated' : ∀ other ∈ after', other.remaining = none) :
    before = before' ∧ fill = fill' ∧ after = after' := by
  rcases List.append_eq_append_iff.mp split with ⟨more, rfl, rest⟩ | ⟨more, rfl, rest⟩
  · cases more with
    | nil => simpa using rest
    | cons first more =>
        rw [List.cons_append, List.cons.injEq] at rest
        exact absurd (unstated fill' (by simp [rest.2])) states'
  · cases more with
    | nil => simpa [eq_comm] using rest
    | cons first more =>
        rw [List.cons_append, List.cons.injEq] at rest
        exact absurd (unstated' fill (by simp [rest.2])) states

/-- The last stated rest is what the quantity arrived by then leaves of the order; when the
executions complete the order it may also be less. -/
def StatesRest (quantity : Int) (fills : List BrokerFill) : Prop :=
  ∀ before fill after, fills = before ++ fill :: after →
    (∀ other ∈ after, other.remaining = none) → ∀ rest ∈ fill.remaining,
      rest = quantity - totalQuantity (before ++ [fill]) ∨
        (totalQuantity fills = quantity ∧ rest ≤ quantity - totalQuantity (before ++ [fill]))

theorem leftAfter_eq_iff {quantity : Int} {fills : List BrokerFill}
    (positive : ∀ fill ∈ fills, 1 ≤ fill.quantity) (within : totalQuantity fills ≤ quantity)
    (nonneg : ∀ fill ∈ fills, ∀ rest ∈ fill.remaining, 0 ≤ rest) :
    leftAfter quantity fills = quantity - totalQuantity fills ↔ StatesRest quantity fills := by
  have total := totalQuantity_nonneg positive
  rcases exists_last_stated fills with unstated | ⟨before, fill, rest, after, rfl, states, none⟩
  · rw [leftAfter_of_unstated positive (by omega) unstated]
    constructor
    · rintro _ before fill after rfl _ rest stated
      rw [unstated fill (by simp)] at stated
      cases stated
    · omega
  · have restNonneg := nonneg fill (by simp) rest states
    have laterPositive : ∀ other ∈ after, 1 ≤ other.quantity := fun other present =>
      positive other (List.mem_append_right _ (List.mem_cons_of_mem fill present))
    have left : leftAfter quantity (before ++ fill :: after) =
        max (rest - totalQuantity after) 0 := by
      rw [leftAfter, List.foldl_append, List.foldl_cons, leaves, states]
      exact leftAfter_of_unstated laterPositive restNonneg none
    constructor
    · intro meets before' fill' after' split none' rest' states'
      have states_fill' : fill'.remaining = some rest' := states'
      rcases last_stated_unique split (by simp [states]) (by simp [states_fill']) none none'
        with ⟨rfl, rfl, rfl⟩
      obtain rfl : rest = rest' := Option.some.inj (states.symm.trans states_fill')
      simp only [totalQuantity_append, totalQuantity_cons, totalQuantity_nil] at meets within ⊢
      omega
    · intro fits
      have here := fits before fill after rfl none rest states
      simp only [totalQuantity_append, totalQuantity_cons, totalQuantity_nil] at here within ⊢
      omega

end SuseokTrader
