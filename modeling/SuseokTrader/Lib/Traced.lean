import Mathlib

/-!
# Programs that leave a trace

A program acts on its surroundings and ends in a value or in a failure. What it
has done before it fails stays done: the trace of a program is there whatever
its result is.
-/

namespace SuseokTrader

structure Traced (Action Failure Value : Type) where
  trace : List Action
  result : Except Failure Value

namespace Traced

variable {Action Failure Value Other : Type}

instance : Monad (Traced Action Failure) where
  pure value := ⟨[], .ok value⟩
  bind program rest :=
    match program.result with
    | .ok value => ⟨program.trace ++ (rest value).trace, (rest value).result⟩
    | .error failure => ⟨program.trace, .error failure⟩

def act (action : Action) : Traced Action Failure Unit :=
  ⟨[action], .ok ()⟩

def lift (result : Except Failure Value) : Traced Action Failure Value :=
  ⟨[], result⟩

def attempt (program : Traced Action Failure Value) :
    Traced Action Failure (Except Failure Value) :=
  ⟨program.trace, .ok program.result⟩

@[simp]
theorem trace_pure (value : Value) : (pure value : Traced Action Failure Value).trace = [] :=
  rfl

@[simp]
theorem result_pure (value : Value) :
    (pure value : Traced Action Failure Value).result = .ok value :=
  rfl

variable (program : Traced Action Failure Value)

@[simp]
theorem trace_attempt :
    program.attempt.trace = program.trace :=
  rfl

@[simp]
theorem result_attempt :
    program.attempt.result = .ok program.result :=
  rfl

theorem bind_of_ok {program : Traced Action Failure Value} {value : Value}
    (ends : program.result = .ok value) (rest : Value → Traced Action Failure Other) :
    program >>= rest = ⟨program.trace ++ (rest value).trace, (rest value).result⟩ := by
  change (match program.result with
    | .ok value => (⟨program.trace ++ (rest value).trace, (rest value).result⟩ :
        Traced Action Failure Other)
    | .error failure => ⟨program.trace, .error failure⟩) = _
  rw [ends]

theorem bind_of_error {program : Traced Action Failure Value} {failure : Failure}
    (fails : program.result = .error failure) (rest : Value → Traced Action Failure Other) :
    program >>= rest = ⟨program.trace, .error failure⟩ := by
  change (match program.result with
    | .ok value => (⟨program.trace ++ (rest value).trace, (rest value).result⟩ :
        Traced Action Failure Other)
    | .error failure => ⟨program.trace, .error failure⟩) = _
  rw [fails]

theorem bind_pure_self : program >>= pure = program := by
  cases ends : program.result with
  | error failure =>
      rw [bind_of_error ends, ← ends]
  | ok value =>
      rw [bind_of_ok ends, trace_pure, List.append_nil, result_pure, ← ends]

theorem bind_bind {Last : Type} (program : Traced Action Failure Value)
    (rest : Value → Traced Action Failure Other) (others : Other → Traced Action Failure Last) :
    program >>= rest >>= others = program >>= fun value => rest value >>= others := by
  cases ends : program.result with
  | error failure =>
      rw [bind_of_error ends, bind_of_error ends, bind_of_error rfl]
  | ok value =>
      rw [bind_of_ok ends, bind_of_ok ends]
      cases ends' : (rest value).result with
      | error failure => rw [bind_of_error ends', bind_of_error rfl]
      | ok other => rw [bind_of_ok ends', bind_of_ok rfl, List.append_assoc]

instance : LawfulMonad (Traced Action Failure) :=
  LawfulMonad.mk' (Traced Action Failure) bind_pure_self (fun _ _ => rfl) bind_bind

/-! ## Programs carried to their end -/

/-- What a program does in all, when its result is acted upon as well. -/
def finish (conclude : Except Failure Value → List Action)
    (program : Traced Action Failure Value) : List Action :=
  program.trace ++ conclude program.result

variable {conclude : Except Failure Other → List Action}

@[simp]
theorem finish_pure (conclude : Except Failure Value → List Action) (value : Value) :
    finish conclude (pure value) = conclude (.ok value) :=
  rfl

@[simp]
theorem finish_act_bind (action : Action) (rest : Unit → Traced Action Failure Other) :
    finish conclude (act action >>= rest) = action :: finish conclude (rest ()) :=
  rfl

@[simp]
theorem finish_lift_ok_bind (value : Value) (rest : Value → Traced Action Failure Other) :
    finish conclude (lift (.ok value) >>= rest) = finish conclude (rest value) :=
  rfl

@[simp]
theorem finish_lift_error_bind (failure : Failure) (rest : Value → Traced Action Failure Other) :
    finish conclude (lift (.error failure) >>= rest) = conclude (.error failure) :=
  rfl

@[simp]
theorem finish_map_lift_ok (function : Value → Other) (value : Value) :
    finish conclude (function <$> (lift (.ok value) : Traced Action Failure Value)) =
      conclude (.ok (function value)) :=
  rfl

@[simp]
theorem finish_map_lift_error (function : Value → Other) (failure : Failure) :
    finish conclude (function <$> (lift (.error failure) : Traced Action Failure Value)) =
      conclude (.error failure) :=
  rfl

@[simp]
theorem finish_attempt_bind (program : Traced Action Failure Value)
    (rest : Except Failure Value → Traced Action Failure Other) :
    finish conclude (program.attempt >>= rest) =
      program.trace ++ finish conclude (rest program.result) := by
  simp [finish, bind_of_ok (result_attempt program)]

end Traced

end SuseokTrader
