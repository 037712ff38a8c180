import Mathlib

/-!
# Runs of a deterministic system

A system takes a state and a label to the next state and an output. This file
gives its finite runs and the two inductions every run law rests on: an
invariant kept by each admissible step holds along the whole run, and a fact
about single steps lifts to a fact about every step of a run.

`Along` is the carrier for both. It reads a predicate on (state, label) at
every step of a run, so it serves as the hypothesis of a run (every step meets
a condition) and as its conclusion (every step has an effect).
-/

namespace SuseokTrader

universe u v w x

structure System (State : Type u) (Label : Type v) (Output : Type w) where
  /-- The next state and the output of one step. -/
  step : State → Label → State × Output

namespace System

variable {State : Type u} {Label : Type v} {Output : Type w}

/-- The state one step leads to. -/
def next (system : System State Label Output) (state : State) (label : Label) : State :=
  (system.step state label).1

/-- The output of one step. -/
def output (system : System State Label Output) (state : State) (label : Label) : Output :=
  (system.step state label).2

/-- The state a finite run ends in. -/
def run (system : System State Label Output) (state : State) : List Label → State
  | [] => state
  | label :: labels => system.run (system.next state label) labels

/-- A predicate on steps holds at every step of the run. -/
def Along (system : System State Label Output) (property : State → Label → Prop)
    (state : State) : List Label → Prop
  | [] => True
  | label :: labels =>
      property state label ∧ system.Along property (system.next state label) labels

variable {system : System State Label Output}

@[simp]
theorem run_nil (state : State) : system.run state [] = state :=
  rfl

@[simp]
theorem run_cons (state : State) (label : Label) (labels : List Label) :
    system.run state (label :: labels) = system.run (system.next state label) labels :=
  rfl

@[simp]
theorem along_nil (property : State → Label → Prop) (state : State) :
    system.Along property state [] :=
  trivial

@[simp]
theorem along_cons (property : State → Label → Prop) (state : State) (label : Label)
    (labels : List Label) :
    system.Along property state (label :: labels) ↔
      property state label ∧ system.Along property (system.next state label) labels :=
  Iff.rfl

/-- A decidable predicate is decided along a run step by step. -/
def decidableAlong {property : State → Label → Prop}
    (decides : ∀ state label, Decidable (property state label)) (state : State) :
    (labels : List Label) → Decidable (system.Along property state labels)
  | [] => isTrue trivial
  | label :: labels =>
      let _ := decides state label
      let _ := decidableAlong decides (system.next state label) labels
      inferInstanceAs (Decidable (_ ∧ _))

instance {property : State → Label → Prop} [∀ state label, Decidable (property state label)]
    (state : State) (labels : List Label) : Decidable (system.Along property state labels) :=
  decidableAlong (fun _ _ => inferInstance) state labels

theorem run_append (state : State) (before after : List Label) :
    system.run state (before ++ after) = system.run (system.run state before) after := by
  induction before generalizing state with
  | nil => rfl
  | cons label before ih => exact ih (system.next state label)

theorem along_append (property : State → Label → Prop) (state : State)
    (before after : List Label) :
    system.Along property state (before ++ after) ↔
      system.Along property state before ∧
        system.Along property (system.run state before) after := by
  induction before generalizing state with
  | nil => simp
  | cons label before ih => simp [ih, and_assoc]

theorem along_forall {Index : Sort x} (property : Index → State → Label → Prop) (state : State)
    (labels : List Label) :
    system.Along (fun state label => ∀ index, property index state label) state labels ↔
      ∀ index, system.Along (property index) state labels := by
  induction labels generalizing state with
  | nil => simp
  | cons label labels ih => simp [ih, forall_and]

theorem along_and (property other : State → Label → Prop) (state : State) (labels : List Label) :
    system.Along (fun state label => property state label ∧ other state label) state labels ↔
      system.Along property state labels ∧ system.Along other state labels := by
  induction labels generalizing state with
  | nil => simp
  | cons label labels ih => simp [ih, and_and_and_comm]

theorem Along.imp (invariant : State → Prop) {premise conclusion : State → Label → Prop}
    (preserved : ∀ state label, invariant state → premise state label →
      invariant (system.next state label))
    (entails : ∀ state label, invariant state → premise state label →
      conclusion state label)
    {state : State} {labels : List Label} (holds : invariant state)
    (along : system.Along premise state labels) : system.Along conclusion state labels := by
  induction labels generalizing state with
  | nil => trivial
  | cons label labels ih =>
      rcases along with ⟨here, later⟩
      exact ⟨entails state label holds here, ih (preserved state label holds here) later⟩

theorem Along.invariant (invariant : State → Prop) {premise : State → Label → Prop}
    (preserved : ∀ state label, invariant state → premise state label →
      invariant (system.next state label))
    {state : State} {labels : List Label} (holds : invariant state)
    (along : system.Along premise state labels) : invariant (system.run state labels) := by
  induction labels generalizing state with
  | nil => exact holds
  | cons label labels ih =>
      rcases along with ⟨here, later⟩
      exact ih (preserved state label holds here) later

theorem run_invariant (invariant : State → Prop)
    (preserved : ∀ state label, invariant state → invariant (system.next state label))
    {state : State} (holds : invariant state) (labels : List Label) :
    invariant (system.run state labels) := by
  induction labels generalizing state with
  | nil => exact holds
  | cons label labels ih => exact ih (preserved state label holds)

theorem along_of_invariant {invariant : State → Prop} {property : State → Label → Prop}
    (preserved : ∀ state label, invariant state → invariant (system.next state label))
    (entails : ∀ state label, invariant state → property state label)
    {state : State} (holds : invariant state) (labels : List Label) :
    system.Along property state labels := by
  induction labels generalizing state with
  | nil => trivial
  | cons label labels ih =>
      exact ⟨entails state label holds, ih (preserved state label holds)⟩

theorem exists_step_of_run (property : State → Prop) {state : State} {labels : List Label}
    (before : ¬ property state) (after : property (system.run state labels)) :
    ∃ earlier label later, labels = earlier ++ label :: later ∧
      ¬ property (system.run state earlier) ∧
      property (system.next (system.run state earlier) label) := by
  induction labels generalizing state with
  | nil => exact absurd after before
  | cons label labels ih =>
      by_cases here : property (system.next state label)
      · exact ⟨[], label, labels, rfl, before, here⟩
      · rcases ih here after with ⟨earlier, step, later, rfl, was, becomes⟩
        exact ⟨label :: earlier, step, later, rfl, was, becomes⟩

/-- The run goes only through states with the property. -/
def Throughout (system : System State Label Output) (property : State → Prop) (initial : State)
    (labels : List Label) : Prop :=
  ∀ before after, labels = before ++ after → property (system.run initial before)

theorem throughout_iff (property : State → Prop) (initial : State) (labels : List Label) :
    system.Throughout property initial labels ↔
      property initial ∧
        system.Along (fun state label => property (system.next state label)) initial labels := by
  induction labels generalizing initial with
  | nil =>
      constructor
      · intro throughout
        exact ⟨throughout [] [] rfl, trivial⟩
      · rintro ⟨holds, _⟩ before after split
        rcases List.append_eq_nil_iff.mp split.symm with ⟨rfl, _⟩
        exact holds
  | cons label labels ih =>
      constructor
      · intro throughout
        have later : system.Throughout property (system.next initial label) labels := by
          intro before after split
          exact throughout (label :: before) after (by rw [split, List.cons_append])
        rcases (ih _).mp later with ⟨here, along⟩
        exact ⟨throughout [] (label :: labels) rfl, here, along⟩
      · rintro ⟨holds, here, along⟩ before after split
        cases before with
        | nil => exact holds
        | cons first before =>
            rw [List.cons_append, List.cons.injEq] at split
            rcases split with ⟨rfl, split⟩
            exact (ih _).mpr ⟨here, along⟩ before after split

/-- Under an invariant that the premise keeps, and that makes the property ask for the premise,
a run has the property throughout exactly when its steps meet the premise. -/
theorem throughout_iff_along (invariant : State → Prop) {property : State → Prop}
    {premise : State → Label → Prop}
    (entails : ∀ state, invariant state → property state)
    (preserved : ∀ state label, invariant state → premise state label →
      invariant (system.next state label))
    (needed : ∀ state label, invariant state → property (system.next state label) →
      premise state label)
    {state : State} (holds : invariant state) (labels : List Label) :
    system.Throughout property state labels ↔ system.Along premise state labels := by
  rw [throughout_iff]
  constructor
  · rintro ⟨-, along⟩
    induction labels generalizing state with
    | nil => trivial
    | cons label labels ih =>
        rcases along with ⟨here, later⟩
        have met := needed state label holds here
        exact ⟨met, ih (preserved state label holds met) later⟩
  · intro along
    exact ⟨entails state holds, Along.imp invariant preserved
      (fun state label here met => entails _ (preserved state label here met)) holds along⟩

/-! ## Folds as runs -/

def ofStep (step : State → Label → State) : System State Label Unit where
  step state label := (step state label, ())

@[simp]
theorem next_ofStep (step : State → Label → State) (state : State) (label : Label) :
    (ofStep step).next state label = step state label :=
  rfl

theorem run_ofStep (step : State → Label → State) (state : State) (labels : List Label) :
    (ofStep step).run state labels = labels.foldl step state := by
  induction labels generalizing state with
  | nil => rfl
  | cons label labels ih => exact ih (step state label)

theorem foldl_invariant {step : State → Label → State} (invariant : State → Prop)
    (preserved : ∀ state label, invariant state → invariant (step state label)) {state : State}
    (holds : invariant state) (labels : List Label) : invariant (labels.foldl step state) := by
  rw [← run_ofStep]
  exact run_invariant invariant preserved holds labels

/-! ## Laws that start at an event -/

/-- From the first state that meets the trigger on, every step of the run has the property. -/
def Once (system : System State Label Output) (trigger : State → Prop)
    (property : State → Label → Prop) (initial : State) (labels : List Label) : Prop :=
  ∀ before after, labels = before ++ after → trigger (system.run initial before) →
    system.Along property (system.run initial before) after

theorem Once.of_along (invariant marked : State → Prop) {trigger : State → Prop}
    {premise property : State → Label → Prop}
    (preserved : ∀ state label, invariant state → premise state label →
      invariant (system.next state label))
    (marks : ∀ state, invariant state → trigger state → marked state)
    (keeps : ∀ state label, invariant state → premise state label → marked state →
      marked (system.next state label))
    (entails : ∀ state label, invariant state → premise state label → marked state →
      property state label)
    {initial : State} {labels : List Label} (holds : invariant initial)
    (along : system.Along premise initial labels) :
    system.Once trigger property initial labels := by
  rintro before after rfl triggered
  rcases (along_append premise initial before after).mp along with ⟨earlier, later⟩
  have reached := Along.invariant invariant preserved holds earlier
  have both : invariant (system.run initial before) ∧ marked (system.run initial before) :=
    ⟨reached, marks _ reached triggered⟩
  refine Along.imp (fun state => invariant state ∧ marked state) ?_ ?_ both later
  · rintro state label ⟨here, isMarked⟩ met
    exact ⟨preserved state label here met, keeps state label here met isMarked⟩
  · rintro state label ⟨here, isMarked⟩ met
    exact entails state label here met isMarked

theorem Once.along {trigger : State → Prop} {property : State → Label → Prop}
    {initial : State} {labels : List Label}
    (once : system.Once trigger property initial labels) :
    system.Along (fun state label => trigger state → property state label) initial labels := by
  induction labels generalizing initial with
  | nil => trivial
  | cons label labels ih =>
      refine ⟨fun triggered => (once [] (label :: labels) rfl triggered).1, ih ?_⟩
      intro before after split triggered
      exact once (label :: before) after (by rw [split, List.cons_append]) triggered

theorem Along.mono {weaker stronger : State → Label → Prop}
    (weakens : ∀ state label, stronger state label → weaker state label)
    {state : State} {labels : List Label} (along : system.Along stronger state labels) :
    system.Along weaker state labels := by
  induction labels generalizing state with
  | nil => trivial
  | cons label labels ih => exact ⟨weakens state label along.1, ih along.2⟩

end System

end SuseokTrader
