import Mathlib

/-!
# Scans that stop

A loop over a list carries a state from item to item until it stops at one. What
it does up to there depends on nothing behind it.
-/

namespace SuseokTrader

universe u v w

inductive ScanStep (State : Type u) (Result : Type v) where
  | next (state : State)
  | stop (result : Result)

structure Stop (Item : Type w) (Result : Type v) where
  before : List Item
  item : Item
  after : List Item
  result : Result

variable {Item : Type w} {State : Type u} {Result : Type v}

def Stop.seen (stop : Stop Item Result) : List Item :=
  stop.before ++ [stop.item]

/-- The loop over the list: its last state, or its stop. -/
def scan (step : State → Item → ScanStep State Result) (state : State) :
    List Item → State ⊕ Stop Item Result
  | [] => .inl state
  | item :: rest =>
      match step state item with
      | .next state => (scan step state rest).map id fun stop =>
          { stop with before := item :: stop.before }
      | .stop result => .inr ⟨[], item, rest, result⟩

variable {step : State → Item → ScanStep State Result} {state : State} {items : List Item}
  {stop : Stop Item Result}

theorem scan_spec (step : State → Item → ScanStep State Result) (state : State)
    (items past : List Item) (holds : List Item → State → Prop) (start : holds past state)
    (kept : ∀ past state item after, holds past state → step state item = .next after →
      holds (past ++ [item]) after) :
    match scan step state items with
    | .inl final => holds (past ++ items) final
    | .inr stop => items = stop.seen ++ stop.after ∧
        ∃ last, holds (past ++ stop.before) last ∧ step last stop.item = .stop stop.result := by
  induction items generalizing past state with
  | nil => simpa [scan] using start
  | cons item rest ih =>
      rw [scan]
      cases stepped : step state item with
      | stop result => simpa [Stop.seen] using ⟨state, start, stepped⟩
      | next after =>
          have later := ih after (past ++ [item]) (kept past state item after start stepped)
          cases scanned : scan step after rest with
          | inl final => simpa [scanned] using later
          | inr stop => simpa [scanned, Stop.seen] using later

theorem scan_stop (scanned : scan step state items = .inr stop) :
    items = stop.seen ++ stop.after ∧ ∃ last, step last stop.item = .stop stop.result := by
  have spec := scan_spec step state items [] (fun _ _ => True) trivial
    fun _ _ _ _ _ _ => trivial
  rw [scanned] at spec
  exact ⟨spec.1, spec.2.imp fun last stopped => stopped.2⟩

theorem scan_append (later : List Item) :
    scan step state (items ++ later) =
      match scan step state items with
      | .inl final => (scan step final later).map id fun stop =>
          { stop with before := items ++ stop.before }
      | .inr stop => .inr { stop with after := stop.after ++ later } := by
  induction items generalizing state with
  | nil => cases scanned : scan step state later <;> simp [scan, scanned]
  | cons item rest ih =>
      rw [List.cons_append, scan, scan]
      cases step state item with
      | stop result => rfl
      | next after =>
          dsimp only
          rw [ih]
          cases scan step after rest with
          | inr stop => rfl
          | inl final => cases ended : scan step final later <;> simp [ended]

theorem scan_append_cases (step : State → Item → ScanStep State Result) (state : State)
    (items first second : List Item) :
    (∃ stop : Stop Item Result, scan step state (items ++ first) =
        .inr { stop with after := stop.after ++ first } ∧
      scan step state (items ++ second) = .inr { stop with after := stop.after ++ second }) ∨
    ∀ later stop, scan step state (items ++ later) = .inr stop →
      stop.item ∈ later ∧ stop.after ⊆ later := by
  cases scanned : scan step state items with
  | inr stop => exact Or.inl ⟨stop, by rw [scan_append, scanned], by rw [scan_append, scanned]⟩
  | inl final =>
      right
      intro later stop stopped
      rw [scan_append, scanned] at stopped
      dsimp only at stopped
      cases ended : scan step final later with
      | inl last =>
          rw [ended] at stopped
          cases stopped
      | inr behind =>
          rw [ended] at stopped
          cases stopped
          rw [(scan_stop ended).1, Stop.seen]
          exact ⟨by simp, fun item listed => List.mem_append_right _ listed⟩

/-! ## Checks that go from row to row -/

section Checks

variable {Row State Answer : Type} {check : State → Row → Option State} {after : List Row → State}
  {Continues : List Row → Row → Prop}

/-- Each of the rows continues those before it. -/
def InTurn (Continues : List Row → Row → Prop) (before : List Row) : List Row → Prop
  | [] => True
  | row :: rows => Continues before row ∧ InTurn Continues (before ++ [row]) rows

theorem InTurn.all {holds : Row → Prop} (kept : ∀ before row, Continues before row → holds row)
    {before rows : List Row} (inTurn : InTurn Continues before rows) : ∀ row ∈ rows, holds row := by
  induction rows generalizing before with
  | nil => simp
  | cons row rows ih => exact List.forall_mem_cons.mpr ⟨kept before row inTurn.1, ih inTurn.2⟩

/-- A check that answers with the state it has come to goes through where the rows are in turn. -/
theorem checked_iff_inTurn (follow : State → List Row → Bool × Answer)
    (answer : State → Answer) (ends : ∀ state, follow state [] = (true, answer state))
    (goes : ∀ state row rows, follow state (row :: rows) =
      (check state row).elim (false, answer state) fun next => follow next rows)
    (step : ∀ before row next, check (after before) row = some next ↔
      Continues before row ∧ next = after (before ++ [row])) (before rows : List Row)
    (answered : Answer) :
    follow (after before) rows = (true, answered) ↔
      InTurn Continues before rows ∧ answered = answer (after (before ++ rows)) := by
  induction rows generalizing before with
  | nil => simp [InTurn, ends, eq_comm]
  | cons row rows ih =>
      rw [goes, InTurn]
      cases checked : check (after before) row with
      | none =>
          have refused : ¬Continues before row := by
            intro continues
            rw [(step before row _).mpr ⟨continues, rfl⟩] at checked
            cases checked
          simp [refused]
      | some next =>
          rcases (step before row next).mp checked with ⟨continues, rfl⟩
          simpa [continues] using ih (before ++ [row])

end Checks

end SuseokTrader
