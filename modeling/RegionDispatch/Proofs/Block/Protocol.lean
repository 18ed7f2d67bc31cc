import RegionDispatch.Block.Region
import RegionDispatch.Proofs.Dispatch.Ends

/-! # Failures that are not the executor's

Two errors say that the protocol between the master and the workers is broken: a worker received
work that was never posted, or the lanes arrived at the barrier unequally often. No call on the
block reports either of them, whatever it is called on.

* **`DispatchError.isProtocol`** — the two errors.
* **`Dispatch.Blameless`** — steps that report neither, closed under composition.
* `Block.blameless_prepareRegion`, `Block.blameless_enterRegion`, `Block.blameless_exitRegion` — the
  calls that a region is made of. -/

namespace RegionDispatch

/-- The errors that say that the executor's own protocol is broken. -/
def DispatchError.isProtocol : DispatchError → Bool
  | unknownWork | barrierMisaligned _ _ => true
  | _ => false

/-- The failures that say so. -/
def Failure.isProtocol : Failure → Bool
  | rejected error => error.isProtocol
  | halted _ => false

namespace Dispatch

variable {σ α β : Type} {step : Dispatch σ α} {error : DispatchError}

/-- However the step fails, it does not say that the protocol is broken. -/
def Blameless (step : Dispatch σ α) : Prop :=
  ∀ s, Ends step s (fun _ _ => True) fun failure _ => failure.isProtocol = false

theorem Blameless.pure (a : α) : Blameless (Pure.pure a : Dispatch σ α) := fun _ => trivial

theorem Blameless.get : Blameless (MonadState.get : Dispatch σ σ) := fun _ => trivial

theorem Blameless.modify (f : σ → σ) : Blameless (modify f : Dispatch σ Unit) := fun _ => trivial

theorem Blameless.reject (other : error.isProtocol = false) :
    Blameless (Dispatch.reject error : Dispatch σ α) := fun _ => other

theorem Blameless.refuseIf (condition : Prop) [Decidable condition]
    (other : error.isProtocol = false) :
    Blameless (Dispatch.refuseIf condition error : Dispatch σ Unit) := by
  intro s
  rw [ends_refuseIf]
  exact ⟨fun _ => other, fun _ => trivial⟩

theorem Blameless.checked (x : Except Fault α) :
    Blameless (Dispatch.checked x : Dispatch σ α) := by
  intro s
  rw [ends_checked]
  exact ⟨fun _ _ => trivial, fun _ _ => rfl⟩

theorem Blameless.granted {x : Except DispatchError α}
    (other : ∀ error, x = .error error → error.isProtocol = false) :
    Blameless (Dispatch.granted x : Dispatch σ α) := by
  intro s
  rw [ends_granted]
  exact ⟨fun _ _ => trivial, other⟩

theorem Blameless.bind {next : α → Dispatch σ β} (first : Blameless step)
    (second : ∀ a, Blameless (next a)) : Blameless (step >>= next) := by
  intro s
  rw [ends_bind]
  exact (first s).mono (fun a t _ => second a t) fun _ _ blameless => blameless

theorem Blameless.forM {f : β → Dispatch σ Unit} (h : ∀ b, Blameless (f b)) (bs : List β) :
    Blameless (bs.forM f) := by
  induction bs with
  | nil => exact .pure ()
  | cons b bs ih =>
    rw [forM_cons]
    exact (h b).bind fun _ => ih

end Dispatch

open Dispatch

/-! ## Look-ups of frames -/

namespace BlockState

variable {state : BlockState} {tid : Nat} {error : DispatchError}

theorem blameless_top (missing : state.top tid = .error error) : error.isProtocol = false := by
  unfold top at missing
  split at missing
  · cases missing
  · cases missing
    rfl

theorem blameless_frame {id : FrameId} (missing : state.frame id = .error error) :
    error.isProtocol = false := by
  unfold frame at missing
  split at missing
  · cases missing
  · cases missing
    rfl

theorem blameless_pop (missing : state.pop tid = .error error) : error.isProtocol = false := by
  simp only [pop, popTarget, bind, Except.bind, pure, Except.pure] at missing
  cases htop : state.top tid with
  | error absent =>
    rw [htop] at missing
    cases missing
    exact blameless_top htop
  | ok id =>
    cases hframe : state.frame id with
    | error absent =>
      simp only [htop, hframe] at missing
      cases missing
      exact blameless_frame hframe
    | ok frame =>
      cases hparent : frame.parent with
      | none =>
        simp only [htop, hframe, hparent] at missing
        cases missing
        rfl
      | some parent =>
        simp only [htop, hframe, hparent] at missing
        cases missing

end BlockState

/-! ## The calls of a region -/

namespace Block

theorem blameless_threadOf (lane : Nat) : Blameless (threadOf lane) :=
  Blameless.get.bind fun _ => (Blameless.refuseIf _ rfl).bind fun _ => .checked _

theorem blameless_tally (count : Counters → Except Fault Counters) : Blameless (tally count) :=
  Blameless.get.bind fun _ => (Blameless.checked _).bind fun _ => .modify _

theorem blameless_requireInitialized (fullRuntime : Bool) :
    Blameless (requireInitialized fullRuntime) :=
  Blameless.get.bind fun _ => .refuseIf _ rfl

theorem blameless_requireMaster {error : DispatchError} (other : error.isProtocol = false) :
    Blameless (requireMaster error) :=
  Blameless.get.bind fun _ => (Blameless.refuseIf _ other).bind fun _ => .checked _

theorem blameless_prepareRegion (lane : Nat) (work : WorkHandle) (fullRuntime : Bool) :
    Blameless (prepareRegion lane work fullRuntime) := by
  refine (blameless_requireInitialized _).bind fun _ => (blameless_requireMaster rfl).bind fun _ =>
    (Blameless.refuseIf _ rfl).bind fun _ => Blameless.get.bind fun block => ?_
  refine (Blameless.granted fun _ => BlockState.blameless_top).bind fun top =>
    (Blameless.granted fun _ => BlockState.blameless_frame).bind fun frame =>
    (Blameless.refuseIf _ rfl).bind fun _ => (Blameless.checked _).bind fun available => ?_
  exact (Blameless.modify _).bind fun _ => (Blameless.checked _).bind fun decision =>
    (Blameless.refuseIf _ rfl).bind fun _ => (Blameless.modify _).bind fun _ =>
    (blameless_tally _).bind fun _ => .pure decision

theorem blameless_activate (lane master : Nat) : Blameless (activate lane master) := by
  refine Blameless.get.bind fun block => ?_
  split
  · exact .reject rfl
  · exact (Blameless.checked _).bind fun rank => (Blameless.refuseIf _ rfl).bind fun _ =>
      (Blameless.modify _).bind fun _ => blameless_tally _

theorem blameless_enterRegion (lane : Nat) (fullRuntime : Bool) :
    Blameless (enterRegion lane fullRuntime) := by
  refine (blameless_requireInitialized _).bind fun _ => Blameless.get.bind fun block => ?_
  dsimp only
  split
  · exact .pure _
  · refine (blameless_requireMaster rfl).bind fun master =>
      (Blameless.refuseIf _ rfl).bind fun _ => ?_
    split
    · exact .pure _
    · exact (blameless_activate _ _).bind fun _ => .pure _

theorem blameless_exitRegion (lane : Nat) : Blameless (exitRegion lane) := by
  refine (blameless_threadOf _).bind fun tid => Blameless.get.bind fun block => ?_
  exact (Blameless.granted fun _ => BlockState.blameless_top).bind fun top =>
    (Blameless.refuseIf _ rfl).bind fun _ =>
    (Blameless.granted fun _ => BlockState.blameless_pop).bind fun _ => .modify _

end Block

end RegionDispatch
