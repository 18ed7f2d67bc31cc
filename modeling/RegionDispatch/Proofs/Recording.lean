import RegionDispatch.Hosted
import RegionDispatch.Proofs.Dispatch.Ends

/-! # Writing down the calls of a body

Which bodies a run calls, from which states and with which results, is no part of the run's result.
`recorded tag step` is the step with a log beside the program's own data, to which each call is
appended with all there is to know about it.

* **`Recorded`** — one call: what was called, on which state, and what came of it.
* **`Forgets`** — a step with a log does what a plain step does; `forgets_recorded` and the closure
  lemmas show that recording changes nothing. -/

namespace RegionDispatch

variable {κ ω α β σ τ ρ σ' τ' ρ' : Type}

/-- A recorded call. -/
structure Recorded (κ ω : Type) where
  /-- What was called. -/
  tag : κ
  /-- The state it was called on. -/
  start : Hosted ω
  /-- What came of it. -/
  result : EStateM.Result Failure (Hosted ω) Unit

/-- A body's state without the log. -/
def Hosted.forget (s : Hosted (ω × ρ)) : Hosted ω := ⟨s.block, s.host.1⟩

/-- A body's state with a log. -/
def Hosted.withLog (s : Hosted ω) (log : ρ) : Hosted (ω × ρ) := ⟨s.block, (s.host, log)⟩

@[simp] theorem Hosted.log_withLog (s : Hosted ω) (log : ρ) : (s.withLog log).host.2 = log := rfl

@[simp] theorem Hosted.forget_withLog (s : Hosted ω) (log : ρ) : (s.withLog log).forget = s := rfl

/-- A step on the block ends as it does on the block alone. -/
theorem Hosted.ends_onBlock {step : Dispatch Block α} {s : Hosted ω} {done : α → Hosted ω → Prop}
    {stopped : Failure → Hosted ω → Prop} :
    Dispatch.Ends (Hosted.onBlock step) s done stopped ↔
      Dispatch.Ends step s.block (fun a t => done a ⟨t, s.host⟩) fun failure t =>
        stopped failure ⟨t, s.host⟩ :=
  Dispatch.ends_zoom

/-- What a step on the block keeps of the block. -/
theorem Hosted.keeps_onBlock {P : Block → Prop} {step : Dispatch Block α}
    (keeps : Dispatch.Keeps P step) :
    Dispatch.Keeps (fun s : Hosted ω => P s.block) (Hosted.onBlock step) := by
  intro s h
  rw [Hosted.ends_onBlock]
  exact keeps _ h

/-- Steps on the block in a row are one step on the block. -/
theorem Hosted.forM_onBlock (f : β → Dispatch Block Unit) (bs : List β) :
    bs.forM (fun b => (Hosted.onBlock (f b) : RegionM ω Unit)) = Hosted.onBlock (bs.forM f) :=
  Dispatch.forM_zoom (fun _ _ => rfl) (fun _ => rfl) f bs

/-- Runs a step and appends the call to the log. -/
def recorded (tag : κ) (step : RegionM ω Unit) : RegionM (ω × List (Recorded κ ω)) Unit := fun s =>
  let result := step s.forget
  let log := s.host.2 ++ [⟨tag, s.forget, result⟩]
  match result with
  | .ok _ t => .ok () (t.withLog log)
  | .error failure t => .error failure (t.withLog log)

namespace Dispatch

/-- A recorded step ends as the step does, with one more call in the log. -/
theorem ends_recorded {tag : κ} {step : RegionM ω Unit} {s : Hosted (ω × List (Recorded κ ω))}
    {done : Unit → Hosted (ω × List (Recorded κ ω)) → Prop}
    {stopped : Failure → Hosted (ω × List (Recorded κ ω)) → Prop} :
    Ends (recorded tag step) s done stopped ↔
      Ends step s.forget
        (fun _ t => done () (t.withLog (s.host.2 ++ [⟨tag, s.forget, .ok () t⟩])))
        fun failure t =>
          stopped failure (t.withLog (s.host.2 ++ [⟨tag, s.forget, .error failure t⟩])) := by
  simp only [Ends, recorded]
  cases step s.forget <;> rfl

/-- `logged` does on states that carry more what `step` does on what `f` keeps of them. -/
def Forgets (f : σ' → σ) (logged : Dispatch σ' α) (step : Dispatch σ α) : Prop :=
  ∀ s, Ends logged s (fun a t => step (f s) = .ok a (f t))
    fun failure t => step (f s) = .error failure (f t)

variable {f : σ' → σ} {logged : Dispatch σ' α} {step : Dispatch σ α}

theorem forgets_recorded (tag : κ) (step : RegionM ω Unit) :
    Forgets Hosted.forget (recorded tag step) step := by
  intro s
  rw [ends_recorded]
  exact ends_run step s.forget

theorem Forgets.pure (a : α) : Forgets f (Pure.pure a) (Pure.pure a) := fun _ => rfl

theorem Forgets.bind {next' : α → Dispatch σ' β} {next : α → Dispatch σ β}
    (first : Forgets f logged step) (second : ∀ a, Forgets f (next' a) (next a)) :
    Forgets f (logged >>= next') (step >>= next) := by
  intro s
  rw [ends_bind]
  refine (first s).mono (fun a t h => ?_) fun failure t h => ?_
  · refine (second a t).mono (fun b u h' => ?_) fun failure u h' => ?_
    all_goals simp only [Bind.bind, EStateM.bind, h, h']
  · simp only [Bind.bind, EStateM.bind, h]

/-- A step that goes on in the same way whatever is forgotten of the state it reads. -/
theorem Forgets.read {next' : σ' → Dispatch σ' β} {next : σ → Dispatch σ β}
    (h : ∀ s, Forgets f (next' s) (next (f s))) : Forgets f (get >>= next') (get >>= next) := by
  intro s
  rw [ends_bind, ends_get]
  exact h s s

theorem Forgets.modify {change' : σ' → σ'} {change : σ → σ}
    (same : ∀ s, f (change' s) = change (f s)) :
    Forgets f (modify change') (modify change) := by
  intro s
  show EStateM.Result.ok () (change (f s)) = EStateM.Result.ok () (f (change' s))
  rw [same]

theorem Forgets.checked (x : Except Fault α) :
    Forgets f (Dispatch.checked x) (Dispatch.checked x) := by
  intro s
  cases x <;> rfl

theorem Forgets.reject (error : DispatchError) :
    Forgets f (Dispatch.reject error : Dispatch σ' α) (Dispatch.reject error) := fun _ => rfl

theorem Forgets.forM {step' : β → Dispatch σ' Unit} {step : β → Dispatch σ Unit}
    (h : ∀ b, Forgets f (step' b) (step b)) (bs : List β) :
    Forgets f (bs.forM step') (bs.forM step) := by
  induction bs with
  | nil => exact .pure ()
  | cons b bs ih =>
    rw [forM_cons, forM_cons]
    exact (h b).bind fun _ => ih

/-- A step on a part of the state forgets what the step on the part forgets, when `k` keeps of the
rest what `f` keeps of the part. -/
theorem Forgets.zoom {split' : τ' → σ' × ρ'} {split : τ → σ × ρ} {join' : σ' → ρ' → τ'}
    {join : σ → ρ → τ} {g : τ' → τ} (h : Forgets f logged step) (k : ρ' → ρ)
    (hsplit : ∀ u, split (g u) = (f (split' u).1, k (split' u).2))
    (hjoin : ∀ s rest, g (join' s rest) = join (f s) (k rest)) :
    Forgets g (Dispatch.zoom split' join' logged) (Dispatch.zoom split join step) := by
  intro u
  rw [ends_zoom]
  refine (h (split' u).1).mono (fun a t ht => ?_) fun failure t ht => ?_
  all_goals simp only [Dispatch.zoom, hsplit, ht, hjoin]

/-- A step on the block does not see what is forgotten. -/
theorem forgets_onBlock (step : Dispatch Block α) :
    Forgets Hosted.forget (Hosted.onBlock step : RegionM (ω × ρ) α) (Hosted.onBlock step) := by
  have same : Forgets id step step := fun s => ends_run step s
  exact same.zoom Prod.fst (fun _ => rfl) fun _ _ => rfl

/-- A step on the block leaves the log alone. -/
theorem keeps_onBlock {P : ρ → Prop} (step : Dispatch Block α) :
    Keeps (fun s : Hosted (ω × ρ) => P s.host.2) (Hosted.onBlock step) := by
  intro s hs
  rw [Hosted.ends_onBlock]
  unfold Ends
  split <;> exact hs

/-- A recorded step adds one call to the log. -/
theorem keeps_recorded {P : List (Recorded κ ω) → Prop} {tag : κ} {step : RegionM ω Unit}
    (closed : ∀ log start, P log → P (log ++ [⟨tag, start, step start⟩])) :
    Keeps (fun s => P s.host.2) (recorded tag step) := by
  intro s hs
  have added := closed s.host.2 s.forget hs
  rw [ends_recorded]
  refine (ends_run step s.forget).mono (fun _ t run => ?_) fun failure t run => ?_
  · rw [run] at added
    exact added
  · rw [run] at added
    exact added

end Dispatch

end RegionDispatch
