import RegionDispatch.Dispatch

/-! # How dispatch steps end

A dispatch step returns a value, is refused, or is halted by a fault, and each time leaves a state
behind. Statements about a step name all of these ends:

* **`Ends step s done stopped`** — run on `s`, the step returns a value and a state that satisfy
  `done`, or stops early with a failure and a state that satisfy `stopped`. The `ends_…` lemmas turn
  such a statement about a composed step into one about its parts, from the first part on; as simp
  lemmas they run a step symbolically.
* **`Keeps P step`** — whatever its end, the step leads from states with `P` to states with `P`. -/

namespace RegionDispatch.Dispatch

variable {σ τ ρ α β : Type}

/-- How a step ends on a state. -/
def Ends (step : Dispatch σ α) (s : σ) (done : α → σ → Prop) (stopped : Failure → σ → Prop) :
    Prop :=
  match step s with
  | .ok a t => done a t
  | .error failure t => stopped failure t

section Ends

variable {step : Dispatch σ α} {s t : σ} {done : α → σ → Prop} {stopped : Failure → σ → Prop}

/-- A step that is known to return ends with what it returns. -/
theorem ends_of_ok {a : α} (h : step s = .ok a t) : Ends step s done stopped ↔ done a t := by
  rw [Ends, h]

/-- A step that is known to stop ends with its failure. -/
theorem ends_of_error {failure : Failure} (h : step s = .error failure t) :
    Ends step s done stopped ↔ stopped failure t := by
  rw [Ends, h]

/-- Every step ends with what it comes to. -/
theorem ends_run (step : Dispatch σ α) (s : σ) :
    Ends step s (fun a t => step s = .ok a t) fun failure t => step s = .error failure t := by
  unfold Ends
  split
  · next heq => exact heq
  · next heq => exact heq

theorem get_bind (next : σ → Dispatch σ β) (s : σ) : (get >>= next) s = next s s := rfl

/-- After a step that returns, the composed step goes on. -/
theorem bind_of_ok {a : α} (h : step s = .ok a t) (next : α → Dispatch σ β) :
    (step >>= next) s = next a t := by
  show EStateM.bind step next s = next a t
  rw [EStateM.bind, h]

/-- Where the first part stops, so does the composed step. -/
theorem bind_of_error {failure : Failure} (h : step s = .error failure t)
    (next : α → Dispatch σ β) : (step >>= next) s = .error failure t := by
  show EStateM.bind step next s = .error failure t
  rw [EStateM.bind, h]

theorem attempt_of_ok {a : α} (h : step s = .ok a t) : attempt step s = .ok (.ok a) t := by
  rw [attempt, h]

theorem attempt_of_rejected {error : DispatchError} (h : step s = .error (.rejected error) t) :
    attempt step s = .ok (.error error) t := by
  rw [attempt, h]

theorem attempt_of_halted {fault : Fault} (h : step s = .error (.halted fault) t) :
    attempt step s = .error (.halted fault) t := by
  rw [attempt, h]

/-- An attempt does not see which value is given back at the end. -/
theorem attempt_of_attempt_bind_pure {step : Dispatch σ Unit} {a : α}
    {result : Except DispatchError α} (h : attempt (do step; return a) s = .ok result t) :
    attempt step s = .ok (result.map fun _ => ()) t := by
  rcases hstep : step s with ⟨⟨⟩, u⟩ | ⟨error | fault, u⟩
  · rw [attempt, bind_of_ok hstep] at h
    cases h
    exact attempt_of_ok hstep
  · rw [attempt_of_rejected (bind_of_error hstep _)] at h
    cases h
    exact attempt_of_rejected hstep
  · rw [attempt_of_halted (bind_of_error hstep _)] at h
    cases h

theorem embed_of_ok {enter : τ → σ} {leave : σ → τ} {u : τ} {a : α} (h : step (enter u) = .ok a t) :
    embed enter leave step u = .ok a (leave t) := by
  rw [embed, h]

theorem embed_of_error {enter : τ → σ} {leave : σ → τ} {u : τ} {failure : Failure}
    (h : step (enter u) = .error failure t) :
    embed enter leave step u = .error failure (leave t) := by
  rw [embed, h]

/-- `Ends` at one value and one state is the equation of the run. -/
theorem eq_ok_of_ends {a : α} (h : Ends step s (fun b u => b = a ∧ u = t) fun _ _ => False) :
    step s = .ok a t := by
  unfold Ends at h
  split at h
  · next heq => obtain ⟨rfl, rfl⟩ := h; exact heq
  · exact h.elim

theorem eq_error_of_ends {failure : Failure}
    (h : Ends step s (fun _ _ => False) fun f u => f = failure ∧ u = t) :
    step s = .error failure t := by
  unfold Ends at h
  split at h
  · exact h.elim
  · next heq => obtain ⟨rfl, rfl⟩ := h; exact heq

/-- Weaker ends hold as well. -/
theorem Ends.mono {done' : α → σ → Prop} {stopped' : Failure → σ → Prop}
    (h : Ends step s done stopped) (hdone : ∀ a t, done a t → done' a t)
    (hstopped : ∀ failure t, stopped failure t → stopped' failure t) :
    Ends step s done' stopped' := by
  unfold Ends at h ⊢
  split
  · next heq => rw [heq] at h; exact hdone _ _ h
  · next heq => rw [heq] at h; exact hstopped _ _ h

theorem Ends.and {done' : α → σ → Prop} {stopped' : Failure → σ → Prop}
    (h : Ends step s done stopped) (h' : Ends step s done' stopped') :
    Ends step s (fun a t => done a t ∧ done' a t) fun f t => stopped f t ∧ stopped' f t := by
  unfold Ends at h h' ⊢
  split
  · next heq => rw [heq] at h h'; exact ⟨h, h'⟩
  · next heq => rw [heq] at h h'; exact ⟨h, h'⟩

@[simp] theorem ends_pure (a : α) :
    Ends (pure a : Dispatch σ α) s done stopped ↔ done a s := Iff.rfl

/-- A composed step ends as its second part does, or stops where its first part does. -/
@[simp] theorem ends_bind {next : α → Dispatch σ β} {done : β → σ → Prop} :
    Ends (step >>= next) s done stopped ↔
      Ends step s (fun a t => Ends (next a) t done stopped) stopped := by
  simp only [Ends, bind, EStateM.bind]
  cases step s <;> rfl

@[simp] theorem ends_map {f : α → β} {done : β → σ → Prop} :
    Ends (f <$> step) s done stopped ↔ Ends step s (fun a t => done (f a) t) stopped := by
  simp only [Ends, Functor.map, EStateM.map]
  cases step s <;> rfl

@[simp] theorem ends_get {done : σ → σ → Prop} :
    Ends (get : Dispatch σ σ) s done stopped ↔ done s s := Iff.rfl

@[simp] theorem ends_modify {f : σ → σ} {done : Unit → σ → Prop} :
    Ends (modify f : Dispatch σ Unit) s done stopped ↔ done () (f s) := Iff.rfl

@[simp] theorem ends_reject {error : DispatchError} :
    Ends (reject error : Dispatch σ α) s done stopped ↔ stopped (.rejected error) s := Iff.rfl

@[simp] theorem ends_refuseIf {condition : Prop} [Decidable condition] {error : DispatchError}
    {done : Unit → σ → Prop} :
    Ends (refuseIf condition error : Dispatch σ Unit) s done stopped ↔
      (condition → stopped (.rejected error) s) ∧ (¬condition → done () s) := by
  unfold refuseIf
  by_cases h : condition
  · rw [if_pos h, ends_reject]
    constructor
    · exact fun stop => ⟨fun _ => stop, fun not => absurd h not⟩
    · exact fun both => both.1 h
  · rw [if_neg h, ends_pure]
    constructor
    · exact fun go => ⟨fun pos => absurd pos h, fun _ => go⟩
    · exact fun both => both.2 h

@[simp] theorem ends_checked {x : Except Fault α} :
    Ends (checked x : Dispatch σ α) s done stopped ↔
      (∀ a, x = .ok a → done a s) ∧ ∀ fault, x = .error fault → stopped (.halted fault) s := by
  cases x with
  | ok a => simp only [checked_ok, ends_pure, Except.ok.injEq, forall_eq', reduceCtorEq,
      false_imp_iff, implies_true, and_true]
  | error fault => simp only [Except.error.injEq, forall_eq', reduceCtorEq, false_imp_iff,
      implies_true, true_and]; exact Iff.rfl

@[simp] theorem ends_granted {x : Except DispatchError α} :
    Ends (granted x : Dispatch σ α) s done stopped ↔
      (∀ a, x = .ok a → done a s) ∧ ∀ error, x = .error error → stopped (.rejected error) s := by
  cases x with
  | ok a => simp only [granted_ok, ends_pure, Except.ok.injEq, forall_eq', reduceCtorEq,
      false_imp_iff, implies_true, and_true]
  | error e => simp only [granted_error, ends_reject, Except.error.injEq, forall_eq', reduceCtorEq,
      false_imp_iff, implies_true, true_and]

/-- An attempted step stops only where a fault halts it. -/
@[simp] theorem ends_attempt {done : Except DispatchError α → σ → Prop} :
    Ends (attempt step) s done stopped ↔
      Ends step s (fun a t => done (.ok a) t) fun failure t =>
        match failure with
        | .rejected error => done (.error error) t
        | .halted fault => stopped (.halted fault) t := by
  unfold Ends attempt
  rcases step s with _ | ⟨_ | _, _⟩ <;> rfl

@[simp] theorem ends_zoom {split : τ → σ × ρ} {join : σ → ρ → τ} {u : τ} {done : α → τ → Prop}
    {stopped : Failure → τ → Prop} :
    Ends (zoom split join step) u done stopped ↔
      Ends step (split u).1 (fun a t => done a (join t (split u).2)) fun failure t =>
        stopped failure (join t (split u).2) := by
  simp only [Ends, zoom]
  cases step (split u).1 <;> rfl

@[simp] theorem ends_embed {enter : τ → σ} {leave : σ → τ} {u : τ} {done : α → τ → Prop}
    {stopped : Failure → τ → Prop} :
    Ends (embed enter leave step) u done stopped ↔
      Ends step (enter u) (fun a t => done a (leave t))
        fun failure t => stopped failure (leave t) := by
  simp only [Ends, embed]
  cases step (enter u) <;> rfl

end Ends

/-! ## Steps in a row -/

theorem forM_cons (f : β → Dispatch σ Unit) (b : β) (bs : List β) :
    (b :: bs).forM f = (f b >>= fun _ => bs.forM f) := rfl

/-- Steps in a row on one part of the state are one step on that part. -/
theorem forM_zoom {split : τ → σ × ρ} {join : σ → ρ → τ}
    (hsplit : ∀ s rest, split (join s rest) = (s, rest))
    (hjoin : ∀ u, join (split u).1 (split u).2 = u) (f : β → Dispatch σ Unit) (bs : List β) :
    bs.forM (fun b => zoom split join (f b)) = zoom split join (bs.forM f) := by
  induction bs with
  | nil =>
    funext u
    show EStateM.Result.ok () u = EStateM.Result.ok () (join (split u).1 (split u).2)
    rw [hjoin]
  | cons b bs ih =>
    rw [forM_cons, forM_cons, ih]
    funext u
    -- what the first step joins, the later ones split again
    simp only [bind, EStateM.bind, zoom]
    cases f b (split u).1 with
    | ok a t => simp only [hsplit]
    | error failure t => rfl

/-! ## Invariants of steps -/

/-- The step leads from states with `P` to states with `P`, however it ends. -/
def Keeps (P : σ → Prop) (step : Dispatch σ α) : Prop :=
  ∀ s, P s → Ends step s (fun _ t => P t) fun _ t => P t

section Keeps

variable {P : σ → Prop} {step : Dispatch σ α}

theorem Keeps.pure (a : α) : Keeps P (Pure.pure a) := fun _ h => h

theorem Keeps.get : Keeps P (MonadState.get : Dispatch σ σ) := fun _ h => h

theorem Keeps.modify {f : σ → σ} (h : ∀ s, P s → P (f s)) : Keeps P (modify f : Dispatch σ Unit) :=
  h

theorem Keeps.reject (error : DispatchError) : Keeps P (Dispatch.reject error : Dispatch σ α) :=
  fun _ h => h

theorem Keeps.refuseIf (condition : Prop) [Decidable condition] (error : DispatchError) :
    Keeps P (Dispatch.refuseIf condition error : Dispatch σ Unit) := by
  intro s h
  rw [ends_refuseIf]
  exact ⟨fun _ => h, fun _ => h⟩

theorem Keeps.checked (x : Except Fault α) : Keeps P (Dispatch.checked x : Dispatch σ α) := by
  intro s h
  rw [ends_checked]
  exact ⟨fun _ _ => h, fun _ _ => h⟩

theorem Keeps.granted (x : Except DispatchError α) :
    Keeps P (Dispatch.granted x : Dispatch σ α) := by
  intro s h
  rw [ends_granted]
  exact ⟨fun _ _ => h, fun _ _ => h⟩

theorem Keeps.bind {next : α → Dispatch σ β} (h : Keeps P step) (hnext : ∀ a, Keeps P (next a)) :
    Keeps P (step >>= next) := by
  intro s hs
  rw [ends_bind]
  exact (h s hs).mono (fun a t ht => hnext a t ht) fun _ _ ht => ht

theorem Keeps.forM {f : β → Dispatch σ Unit} (bs : List β) (h : ∀ b ∈ bs, Keeps P (f b)) :
    Keeps P (bs.forM f) := by
  induction bs with
  | nil => exact Keeps.pure ()
  | cons b bs ih =>
    rw [forM_cons]
    exact (h b List.mem_cons_self).bind fun _ => ih fun c hc => h c (List.mem_cons_of_mem b hc)

theorem Keeps.attempt (h : Keeps P step) : Keeps P (Dispatch.attempt step) := by
  intro s hs
  rw [ends_attempt]
  refine (h s hs).mono (fun _ _ kept => kept) fun failure _ kept => ?_
  cases failure <;> exact kept

theorem Keeps.ite {condition : Prop} [Decidable condition] {other : Dispatch σ α} (h : Keeps P step)
    (h' : Keeps P other) : Keeps P (if condition then step else other) := by
  split
  · exact h
  · exact h'

/-- What holds of a composed step if `N` holds at its end. Where the second part cannot establish
`N`, the first part has, and what that says is there for the second part. -/
theorem Ends.bind_of_keeps {N : σ → Prop} {next : α → Dispatch σ β} {s : σ} {done : β → σ → Prop}
    {stopped : Failure → σ → Prop} (middle : α → σ → Prop)
    (keeps : ∀ a, Keeps (fun s => ¬N s) (next a))
    (first : Ends step s (fun a t => N t → middle a t) fun failure t => N t → stopped failure t)
    (second : ∀ a t, N t → middle a t →
      Ends (next a) t (fun b u => N u → done b u) fun failure u => N u → stopped failure u) :
    Ends (step >>= next) s (fun b u => N u → done b u)
      fun failure u => N u → stopped failure u := by
  rw [ends_bind]
  refine first.mono (fun a t h => ?_) fun _ _ h => h
  by_cases now : N t
  · exact second a t now (h now)
  · -- `N` cannot hold at the end any more, so nothing is left to show
    refine (keeps a t now).mono ?_ ?_
    · exact fun _ _ never later => absurd later never
    · exact fun _ _ never later => absurd later never

end Keeps

end RegionDispatch.Dispatch
