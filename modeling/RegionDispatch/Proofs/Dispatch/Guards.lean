import RegionDispatch.Proofs.Dispatch.Ends
import RegionDispatch.Proofs.Fault

/-! # Guarded steps

Some steps index arrays without a look at their size, and take differences that nobody compared. The
*guarded* form of such a step makes the comparison and halts where it fails, so a step is safe when
its guarded form does the same and is never halted by a guard.

* `checkedIndex` — an index that faults where it is out of range.
* **`Dispatch.Guards P Full value guarded step`** — on states with `P` the two steps do the same,
  and that keeps `P`, returns a value with `value`, and halts at most by a sum that does not fit, in
  a state with `Full`. One lemma for each way to put steps together carries this from the parts to
  the whole. -/

namespace RegionDispatch

/-- An index into `size` entries, which faults where there is no such entry. -/
def checkedIndex (size index : Nat) : Except Fault Nat := do
  let _ ← checkedSub size (index + 1)
  return index

theorem checkedIndex_of_lt {size index : Nat} (h : index < size) :
    checkedIndex size index = .ok index := by
  rw [checkedIndex, checkedSub_of_le h]
  rfl

namespace Dispatch

variable {σ τ ρ α β : Type} {P Full : σ → Prop} {value : α → Prop} {step guarded : Dispatch σ α}

/-- A step may be refused anywhere, but it is halted only by a sum that does not fit, and only in a
state with `Full`. -/
def Excused (Full : σ → Prop) (failure : Failure) (s : σ) : Prop :=
  ∀ fault, failure = .halted fault → fault = .addOverflow ∧ Full s

theorem excused_rejected (error : DispatchError) (s : σ) : Excused Full (.rejected error) s := nofun

/-- On states with `P` the guarded step does what the step does, and that is no harm. -/
def Guards (P Full : σ → Prop) (value : α → Prop) (guarded step : Dispatch σ α) : Prop :=
  ∀ s, P s → guarded s = step s ∧
    Ends step s (fun a t => P t ∧ value a) fun failure t => P t ∧ Excused Full failure t

/-- After a look-up only what is found matters. -/
theorem granted_bind_congr {x : Except DispatchError α} {next next' : α → Dispatch σ β} {s : σ}
    (h : ∀ a, x = .ok a → next a s = next' a s) :
    (granted x >>= next) s = (granted x >>= next') s := by
  cases x with
  | ok a => exact h a rfl
  | error error => rfl

/-- No demand on a value. -/
def Any (_ : α) : Prop := True

namespace Guards

/-- A step that has nothing to guard. -/
theorem self (ends : ∀ s, P s → Ends step s (fun a t => P t ∧ value a)
    fun failure t => P t ∧ Excused Full failure t) : Guards P Full value step step :=
  fun s h => ⟨rfl, ends s h⟩

theorem pure {a : α} (h : value a) : Guards P Full value (Pure.pure a) (Pure.pure a) :=
  self fun _ kept => ⟨kept, h⟩

theorem reject (error : DispatchError) :
    Guards P Full value (Dispatch.reject error) (Dispatch.reject error) :=
  self fun s kept => ⟨kept, excused_rejected error s⟩

theorem modify {f : σ → σ} (h : ∀ s, P s → P (f s)) :
    Guards P Full Any (modify f) (modify f) :=
  self fun s kept => ⟨h s kept, trivial⟩

theorem refuseIf (condition : Prop) [Decidable condition] (error : DispatchError) :
    Guards P Full (fun _ => ¬condition) (Dispatch.refuseIf condition error)
      (Dispatch.refuseIf condition error) := by
  refine self fun s kept => ?_
  rw [ends_refuseIf]
  exact ⟨fun _ => ⟨kept, excused_rejected error s⟩, fun not => ⟨kept, not⟩⟩

theorem granted (x : Except DispatchError α) :
    Guards P Full (fun a => x = .ok a) (Dispatch.granted x) (Dispatch.granted x) := by
  refine self fun s kept => ?_
  rw [ends_granted]
  exact ⟨fun a same => ⟨kept, same⟩, fun error _ => ⟨kept, excused_rejected error s⟩⟩

/-- Arithmetic that is known not to fault. -/
theorem checked {x : Except Fault α} {a : α} (h : x = .ok a) :
    Guards P Full (fun b => b = a) (Dispatch.checked x) (Dispatch.checked x) := by
  rw [h]
  exact pure rfl

theorem mono {value' : α → Prop} (h : Guards P Full value guarded step)
    (weaker : ∀ a, value a → value' a) : Guards P Full value' guarded step := fun s kept =>
  ⟨(h s kept).1, (h s kept).2.mono (fun a _ both => ⟨both.1, weaker a both.2⟩) fun _ _ both => both⟩

theorem any (h : Guards P Full value guarded step) : Guards P Full Any guarded step :=
  h.mono fun _ _ => trivial

theorem bind {value' : β → Prop} {next next' : α → Dispatch σ β}
    (first : Guards P Full value guarded step)
    (second : ∀ a, value a → Guards P Full value' (next' a) (next a)) :
    Guards P Full value' (guarded >>= next') (step >>= next) := by
  intro s kept
  obtain ⟨same, ends⟩ := first s kept
  rcases run : step s with ⟨a, t⟩ | ⟨failure, t⟩
  · rw [ends_of_ok run] at ends
    obtain ⟨same', ends'⟩ := second a ends.2 t ends.1
    rw [bind_of_ok (same.trans run), bind_of_ok run, ends_bind, ends_of_ok run]
    exact ⟨same', ends'⟩
  · rw [ends_of_error run] at ends
    rw [bind_of_error (same.trans run), bind_of_error run, ends_bind, ends_of_error run]
    exact ⟨rfl, ends⟩

/-- A step that reads the state it is run on. -/
theorem get_bind {next next' : σ → Dispatch σ α}
    (h : ∀ s, P s → Guards P Full value (next' s) (next s)) :
    Guards P Full value (get >>= next') (get >>= next) := fun s kept => h s kept s kept

/-- A step that only looks at the state, before one that depends on what it saw there. -/
theorem look_bind {seen : α → Prop} {value : β → Prop} {next next' : α → Dispatch σ β} {s : σ}
    (kept : P s) (looks : Ends step s (fun a t => t = s ∧ seen a)
      fun failure t => t = s ∧ ∃ error, failure = .rejected error)
    (rest : ∀ a, seen a → next' a s = next a s ∧ Ends (next a) s (fun b t => P t ∧ value b)
      fun failure t => P t ∧ Excused Full failure t) :
    (step >>= next') s = (step >>= next) s ∧ Ends (step >>= next) s (fun b t => P t ∧ value b)
      fun failure t => P t ∧ Excused Full failure t := by
  rw [ends_bind]
  rcases run : step s with ⟨a, t⟩ | ⟨failure, t⟩
  · rw [ends_of_ok run] at looks ⊢
    obtain ⟨rfl, saw⟩ := looks
    rw [bind_of_ok run, bind_of_ok run]
    exact rest a saw
  · rw [ends_of_error run] at looks ⊢
    obtain ⟨rfl, error, rfl⟩ := looks
    rw [bind_of_error run, bind_of_error run]
    exact ⟨rfl, kept, excused_rejected error _⟩

theorem ite {condition : Prop} [Decidable condition] {other other' : Dispatch σ α}
    (h : condition → Guards P Full value guarded step)
    (h' : ¬condition → Guards P Full value other' other) :
    Guards P Full value (if condition then guarded else other')
      (if condition then step else other) := by
  split
  · next holds => exact h holds
  · next fails => exact h' fails

theorem forM {f f' : β → Dispatch σ Unit} (bs : List β)
    (h : ∀ b ∈ bs, Guards P Full Any (f' b) (f b)) :
    Guards P Full Any (bs.forM f') (bs.forM f) := by
  induction bs with
  | nil => exact pure trivial
  | cons b bs ih =>
    rw [forM_cons, forM_cons]
    exact (h b List.mem_cons_self).bind fun _ _ => ih fun c among =>
      h c (List.mem_cons_of_mem b among)

theorem attempt (h : Guards P Full value guarded step) :
    Guards P Full Any (Dispatch.attempt guarded) (Dispatch.attempt step) := by
  intro s kept
  obtain ⟨same, ends⟩ := h s kept
  refine ⟨by rw [Dispatch.attempt, Dispatch.attempt, same], ?_⟩
  rw [ends_attempt]
  refine ends.mono (fun _ _ both => ⟨both.1, trivial⟩) fun failure t both => ?_
  cases failure with
  | rejected error => exact ⟨both.1, trivial⟩
  | halted fault => exact both

/-- A guarded step on part of a larger state. -/
theorem zoom {Q Brim : τ → Prop} {split : τ → σ × ρ} {join : σ → ρ → τ}
    (h : Guards P Full value guarded step) (splits : ∀ u, Q u → P (split u).1)
    (joins : ∀ u s, Q u → P s → Q (join s (split u).2))
    (full : ∀ u s, Full s → Brim (join s (split u).2)) :
    Guards Q Brim value (Dispatch.zoom split join guarded) (Dispatch.zoom split join step) := by
  intro u kept
  obtain ⟨same, ends⟩ := h (split u).1 (splits u kept)
  refine ⟨by simp only [Dispatch.zoom, same], ?_⟩
  rw [ends_zoom]
  exact ends.mono (fun _ s both => ⟨joins u s kept both.1, both.2⟩) fun _ s both =>
    ⟨joins u s kept both.1, fun fault halted => (both.2 fault halted).imp_right (full u s)⟩

/-- A guarded step on a state that is built for it. -/
theorem embed {Q Brim : τ → Prop} {enter : τ → σ} {leave : σ → τ}
    (h : Guards P Full value guarded step) (enters : ∀ u, Q u → P (enter u))
    (leaves : ∀ s, P s → Q (leave s)) (full : ∀ s, Full s → Brim (leave s)) :
    Guards Q Brim value (Dispatch.embed enter leave guarded) (Dispatch.embed enter leave step) := by
  intro u kept
  obtain ⟨same, ends⟩ := h (enter u) (enters u kept)
  refine ⟨by simp only [Dispatch.embed, same], ?_⟩
  rw [ends_embed]
  exact ends.mono (fun _ s both => ⟨leaves s both.1, both.2⟩) fun _ s both =>
    ⟨leaves s both.1, fun fault halted => (both.2 fault halted).imp_right (full s)⟩

end Guards

end Dispatch

end RegionDispatch
