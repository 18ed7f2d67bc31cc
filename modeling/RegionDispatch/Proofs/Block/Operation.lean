import RegionDispatch.Block.Control
import RegionDispatch.Block.Region
import RegionDispatch.Block.Serial
import RegionDispatch.Proofs.Dispatch.Ends

/-! # Calls on a block

Everything a program can ask of a block outside convergent regions, on any lanes and in any order.
A refused call leaves the block as far as it got; after a fault nothing follows.

* **`Operation`**, **`Block.run`** — a call, and the run of a sequence of calls with what came of
  each. -/

namespace RegionDispatch

open Dispatch
open BlockState (baseId homeId)

/-- A call on a block. -/
inductive Operation where
  /-- The master posts a region. -/
  | prepareRegion (lane : Nat) (work : WorkHandle) (fullRuntime : Bool)
  /-- A worker looks at the board. -/
  | enterRegion (lane : Nat) (fullRuntime : Bool)
  /-- A worker leaves the region. -/
  | exitRegion (lane : Nat)
  /-- The master shuts the workers down. -/
  | signalShutdown (lane : Nat)
  /-- A thread enters a serialized region. -/
  | beginSerial (lane : Nat)
  /-- A thread leaves a serialized region. -/
  | endSerial (lane : Nat)
  /-- The requested threads of the current frame. -/
  | setThreads (lane count : Nat)
  /-- The work-sharing state of a thread. -/
  | setLoop (lane : Nat) (loop : LoopState)
  /-- The `num_threads` clause of a thread. -/
  | pushThreads (lane count : Nat)
  /-- The simd limit of a thread. -/
  | pushSimd (lane limit : Nat)
  /-- A number of teams, which is always refused. -/
  | requestTeams
  /-- A binding, which has no effect. -/
  | bindProcs
  deriving DecidableEq

namespace Operation

/-- What a call does. -/
def perform : Operation → Dispatch Block Unit
  | prepareRegion lane work fullRuntime => do
    let _ ← Block.prepareRegion lane work fullRuntime
    return ()
  | enterRegion lane fullRuntime => do
    let _ ← Block.enterRegion lane fullRuntime
    return ()
  | exitRegion lane => Block.exitRegion lane
  | signalShutdown lane => Block.signalShutdown lane
  | beginSerial lane => Block.beginSerial lane
  | endSerial lane => Block.endSerial lane
  | setThreads lane count => Block.setThreads lane count
  | setLoop lane loop => Block.setLoop lane loop
  | pushThreads lane count => Block.pushThreads lane count
  | pushSimd lane limit => Block.pushSimd lane limit
  | requestTeams => Block.requestTeams
  | bindProcs => Block.bindProcs

/-- Whether a call enters a serialized region. -/
def isBegin : Operation → Bool
  | beginSerial _ => true
  | _ => false

/-- Whether a call leaves a serialized region. -/
def isEnd : Operation → Bool
  | endSerial _ => true
  | _ => false

/-- The thread that enters or leaves a serialized region. -/
def caller? (layout : BlockLayout) : Operation → Option Nat
  | beginSerial lane | endSerial lane => (layout.threadOf lane).toOption
  | _ => none

end Operation

/-- A call with what came of it. -/
structure Outcome where
  /-- The call. -/
  operation : Operation
  /-- Whether it returned, or why it stopped. -/
  result : Except Failure Unit

namespace Block

/-- What comes of a sequence of calls, and the block it leads to. -/
def run : List Operation → Block → List Outcome × Block
  | [], block => ([], block)
  | op :: ops, block =>
    match op.perform block with
    | .ok () after =>
      let (outcomes, last) := run ops after
      (⟨op, .ok ()⟩ :: outcomes, last)
    | .error (.rejected error) after =>
      let (outcomes, last) := run ops after
      (⟨op, .error (.rejected error)⟩ :: outcomes, last)
    | .error (.halted fault) after => ([⟨op, .error (.halted fault)⟩], after)

/-- What every call keeps, any sequence of calls keeps. -/
theorem run_of_keeps {P : Block → Prop} (keeps : ∀ op : Operation, Keeps P op.perform)
    (operations : List Operation) {block : Block} (h : P block) : P (run operations block).2 := by
  induction operations generalizing block with
  | nil => exact h
  | cons op ops ih =>
    have step := keeps op block h
    rw [run]
    rcases performed : op.perform block with ⟨⟨⟩, after⟩ | ⟨error | fault, after⟩
    · exact ih ((ends_of_ok performed).1 step)
    · exact ih ((ends_of_error performed).1 step)
    · exact (ends_of_error performed).1 step

/-- The calls among the outcomes that returned and are of the given kind. -/
def successes (kind : Operation → Bool) (outcomes : List Outcome) : Nat :=
  outcomes.countP fun outcome => kind outcome.operation && outcome.result.isOk

theorem successes_nil (kind : Operation → Bool) : successes kind [] = 0 := rfl

theorem successes_cons (kind : Operation → Bool) (outcome : Outcome) (outcomes : List Outcome) :
    successes kind (outcome :: outcomes) =
      (kind outcome.operation && outcome.result.isOk).toNat + successes kind outcomes := by
  rw [successes, List.countP_cons, Nat.add_comm]
  cases kind outcome.operation && outcome.result.isOk <;> rfl

end Block

end RegionDispatch
