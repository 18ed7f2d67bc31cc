import RegionDispatch.DispatchError
import RegionDispatch.Fault

/-!
# Dispatch steps

A dispatch step changes a state and returns a value, or stops early in one of two ways: it is
*rejected* with an error its caller may handle, or it is *halted* by an arithmetic fault that
nothing handles. What a step changed before it was rejected stays changed.

* `Dispatch σ α` — steps on states `σ` that return `α`.
* `Dispatch.reject`, `Dispatch.refuseIf`, `Dispatch.checked`, `Dispatch.granted` — ways to stop.
* `Dispatch.attempt` — a step with its rejection turned into a value.
* `Dispatch.zoom`, `Dispatch.embed` — a step on part of a larger state, and on a state that is built
  for it and taken apart again.
-/

namespace RegionDispatch

/-- How a step stops early. -/
inductive Failure where
  /-- The step was refused; a caller may handle it. -/
  | rejected (error : DispatchError)
  /-- The step has no result; the run ends. -/
  | halted (fault : Fault)
  deriving DecidableEq, Repr

/-- Steps on states `σ`. -/
abbrev Dispatch (σ : Type) := EStateM Failure σ

namespace Dispatch

variable {σ τ α : Type}

/-- Refuses. -/
def reject (error : DispatchError) : Dispatch σ α := throw (.rejected error)

/-- Refuses where the condition holds. -/
def refuseIf (condition : Prop) [Decidable condition] (error : DispatchError) : Dispatch σ Unit :=
  if condition then reject error else pure ()

/-- The value of an arithmetic step, halting where it faults. -/
def checked : Except Fault α → Dispatch σ α
  | .ok a => pure a
  | .error fault => throw (.halted fault)

/-- The value of a look-up, refusing where it does. -/
def granted : Except DispatchError α → Dispatch σ α
  | .ok a => pure a
  | .error error => throw (.rejected error)

/-- Runs a step and gives back its rejection instead of stopping; a fault still halts. -/
def attempt (step : Dispatch σ α) : Dispatch σ (Except DispatchError α) := fun s =>
  match step s with
  | .ok a s => .ok (.ok a) s
  | .error (.rejected error) s => .ok (.error error) s
  | .error (.halted fault) s => .error (.halted fault) s

/-- Runs a step on the part of the state that `split` takes off and `join` puts back. -/
@[inline] def zoom {ρ : Type} (split : σ → τ × ρ) (join : τ → ρ → σ) (step : Dispatch τ α) :
    Dispatch σ α := fun s =>
  match split s with
  | (part, rest) =>
    match step part with
    | .ok a part => .ok a (join part rest)
    | .error failure part => .error failure (join part rest)

/-- Runs a step on a state that `enter` builds and `leave` takes apart again. -/
@[inline] def embed (enter : σ → τ) (leave : τ → σ) (step : Dispatch τ α) : Dispatch σ α := fun s =>
  match step (enter s) with
  | .ok a inner => .ok a (leave inner)
  | .error failure inner => .error failure (leave inner)

@[simp] theorem checked_ok (a : α) : (checked (.ok a) : Dispatch σ α) = pure a := rfl

@[simp] theorem granted_ok (a : α) : (granted (.ok a) : Dispatch σ α) = pure a := rfl

@[simp] theorem granted_error (e : DispatchError) :
    (granted (.error e) : Dispatch σ α) = reject e := rfl

end Dispatch

end RegionDispatch
