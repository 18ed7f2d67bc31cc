import RegionDispatch.Proofs.Block.Effects

/-! # Everything a program can do on a block

The calls of a program on any lanes and in any order, convergent regions among them. A *session* is
a block together with the lanes that are inside convergent regions. A lane leaves with the job it
was given on entry, once, and whenever the program likes.

* **`Convergent.Session`**, **`Convergent.Move`** — the state and what can be done.
* **`Convergent.run`** — what happens when moves follow each other. After a fault nothing does.
* **`Convergent.Session.Effect`**, `Convergent.Session.exists_effect` — what a move can do. What
  holds of all moves is read off this.
* `Convergent.forall_run` — what every move keeps holds all along a run.
* `Convergent.countP_run_le` — events that use something up are no more than those that supply it,
  when each move keeps the balance. -/

namespace RegionDispatch

open Dispatch

namespace Convergent

/-- A lane inside a convergent region, with what it needs to leave. -/
structure Stay where
  /-- The construct it is in. -/
  construct : Construct
  /-- The hardware lane. -/
  hwLane : Nat
  /-- What it saved on entry. -/
  job : Job

/-- A block with the lanes that are inside convergent regions. -/
structure Session where
  /-- The block. -/
  block : Block
  /-- The lanes. -/
  stays : List Stay

/-- What a program can do. -/
inductive Move where
  /-- A call outside convergent regions. -/
  | call (op : Operation)
  /-- A parallel construct reached inside a region begins on a lane. -/
  | nested (lane : Nat)
  /-- A group enters a convergent region, with a cursor and jobs that the caller supplies. -/
  | enter (construct : Construct) (warp : Warp) (mask : LaneMask) (cursor : Nat) (jobs : Array Job)
  /-- One of the lanes that are inside leaves. -/
  | leave (index : Nat)
  /-- A fence of one warp. -/
  | fence

/-- A step on the block of a session. -/
def Session.onBlock {α : Type} : Dispatch Block α → Dispatch Session α :=
  zoom (fun s => (s.block, s.stays)) Session.mk

/-- Enters a convergent region and gives back the active lanes with their jobs. -/
def arrive (construct : Construct) (warp : Warp) (mask : LaneMask) :
    Dispatch Entry (List Stay) := do
  let team ← Convergent.enter construct warp mask
  let jobs := (← get).jobs
  return team.active.map fun member => ⟨construct, member.hwLane, jobs.getD member.lane {}⟩

/-- What a move does. -/
def Move.perform : Move → Dispatch Session Unit
  | call op => Session.onBlock op.perform
  | nested lane => Session.onBlock (Region.beginNested lane)
  | enter construct warp mask cursor jobs => do
    let stays ← Session.onBlock
      (embed (fun block => ⟨block, cursor, jobs⟩) Entry.block (arrive construct warp mask))
    modify fun s => { s with stays := s.stays ++ stays }
  | leave index => do
    match (← get).stays[index]? with
    | none => pure ()
    | some stay =>
      modify fun s => { s with stays := s.stays.eraseIdx index }
      Session.onBlock (exit stay.construct stay.hwLane stay.job)
  | fence => Session.onBlock Block.fence

/-- A move with what came of it. -/
structure Event where
  /-- The move. -/
  move : Move
  /-- The session before. -/
  before : Session
  /-- Whether the move returned, or why it stopped. -/
  result : Except Failure Unit
  /-- The session after. -/
  after : Session

/-- What happens on a move. -/
def Move.event (move : Move) (s : Session) : Event :=
  match move.perform s with
  | .ok () t => ⟨move, s, .ok (), t⟩
  | .error failure t => ⟨move, s, .error failure, t⟩

/-- What happens when moves follow each other. -/
def run : List Move → Session → List Event
  | [], _ => []
  | move :: moves, s =>
    move.event s :: match (move.event s).result with
      | .error (.halted _) => []
      | _ => run moves (move.event s).after

variable {move : Move} {moves : List Move} {s : Session} {P : Session → Prop}

@[simp] theorem Move.event_move : (move.event s).move = move := by
  unfold event
  split <;> rfl

@[simp] theorem Move.event_before : (move.event s).before = s := by
  unfold event
  split <;> rfl

/-- How a move ends decides what happens. -/
theorem Move.event_of_ends {done : Unit → Session → Prop} {stopped : Failure → Session → Prop}
    (h : Ends move.perform s done stopped) :
    (∃ t, done () t ∧ move.event s = ⟨move, s, .ok (), t⟩) ∨
      ∃ failure t, stopped failure t ∧ move.event s = ⟨move, s, .error failure, t⟩ := by
  unfold Ends at h
  unfold event
  split at h
  · next t heq => rw [heq]; exact .inl ⟨t, h, rfl⟩
  · next failure t heq => rw [heq]; exact .inr ⟨failure, t, h, rfl⟩

/-- **What a move can do** to a session of a block with the full runtime. Either it returned or it
stopped, and what it found and left is one of these. -/
inductive Session.Effect (s : Session) : (move : Move) → (returned : Bool) → Session → Prop where
  | refused {move : Move} : Effect s move false s
  | called {op : Operation} {returned : Bool} {after : Block}
      (effect : Block.Effect s.block op returned after) :
      Effect s (.call op) returned ⟨after, s.stays⟩
  /-- A nested region spends the clause of its thread, also where it stops later. -/
  | begun {lane tid : Nat} {returned : Bool} {after : Block} (owns : s.block.Owns lane tid)
      (effect : Block.Effect { s.block with state := (s.block.state.takePendingThreads tid).2 }
        (.beginSerial lane) returned after) :
      Effect s (.nested lane) returned ⟨after, s.stays⟩
  | entered {construct : Construct} {warp : Warp} {mask : LaneMask} {cursor : Nat}
      {jobs : Array Job} {stays : List Stay} {entry : Entry}
      (arrives : arrive construct warp mask ⟨s.block, cursor, jobs⟩ = .ok stays entry) :
      Effect s (.enter construct warp mask cursor jobs) true ⟨entry.block, s.stays ++ stays⟩
  /-- No lane is inside that was not before, but the block need not be what it was. -/
  | stopped {construct : Construct} {warp : Warp} {mask : LaneMask} {cursor : Nat}
      {jobs : Array Job} {failure : Failure} {entry : Entry}
      (arrives : arrive construct warp mask ⟨s.block, cursor, jobs⟩ = .error failure entry) :
      Effect s (.enter construct warp mask cursor jobs) false ⟨entry.block, s.stays⟩
  /-- There is no such lane. -/
  | nobody {index : Nat} : Effect s (.leave index) true s
  | left {index tid : Nat} {stay : Stay} {saved : FrameId} (found : s.stays[index]? = some stay)
      (owns : s.block.Owns stay.hwLane tid) :
      Effect s (.leave index) true
        ⟨{ s.block with state := s.block.state.vacate tid saved stay.job stay.construct },
          s.stays.eraseIdx index⟩
  /-- The lane had saved no top, but its hint came back. -/
  | hinted {index tid : Nat} {stay : Stay} (found : s.stays[index]? = some stay)
      (owns : s.block.Owns stay.hwLane tid) :
      Effect s (.leave index) false
        ⟨{ s.block with
            state := s.block.state.modifyThread tid (stay.construct.withHint stay.job.hint) },
          s.stays.eraseIdx index⟩
  | lost {index : Nat} : Effect s (.leave index) false ⟨s.block, s.stays.eraseIdx index⟩
  | fenced {counters : Counters} : Effect s .fence true ⟨{ s.block with counters }, s.stays⟩

/-- **No move does anything else**, however it ends. -/
theorem Session.exists_effect (runtime : s.block.initialized = true) (move : Move) :
    ∃ result t, move.event s = ⟨move, s, result, t⟩ ∧ s.Effect move result.isOk t := by
  have ends : Ends move.perform s (fun _ => s.Effect move true) fun _ => s.Effect move false := by
    cases move with
    | call op =>
      rw [Move.perform, onBlock, ends_zoom]
      exact (Block.effect_perform runtime op).mono (fun _ _ => .called) fun _ _ => .called
    | nested lane =>
      rw [Move.perform, onBlock, ends_zoom]
      refine (Block.effect_beginNested runtime).mono ?_ ?_
      · rintro _ _ ⟨tid, owns, effect⟩
        exact .begun owns effect
      · rintro _ _ (rfl | ⟨tid, owns, effect⟩)
        · exact .refused
        · exact .begun owns effect
    | enter construct warp mask cursor jobs =>
      rw [Move.perform, ends_bind, onBlock, ends_zoom, ends_embed]
      exact (ends_run _ _).mono (fun _ _ => .entered) fun _ _ => .stopped
    | leave index =>
      rw [Move.perform, ends_bind, ends_get]
      cases found : s.stays[index]? with
      | none => exact .nobody
      | some stay =>
        simp only [ends_bind, ends_modify, onBlock, ends_zoom]
        refine (Block.effect_exit stay.construct stay.job).mono ?_ ?_
        · rintro _ _ ⟨tid, saved, owns, -, rfl⟩
          exact .left found owns
        · rintro _ _ (rfl | ⟨tid, owns, rfl⟩)
          · exact .lost
          · exact .hinted found owns
    | fence =>
      rw [Move.perform, onBlock, ends_zoom]
      refine (Block.effect_tally _).mono ?_ ?_
      · rintro _ _ ⟨counters, rfl⟩
        exact .fenced
      · rintro _ _ rfl
        exact .refused
  obtain ⟨t, effect, happens⟩ | ⟨failure, t, effect, happens⟩ := Move.event_of_ends ends
  · exact ⟨_, t, happens, effect⟩
  · exact ⟨_, t, happens, effect⟩

/-- Events of two kinds are no more than those of the one and those of the other. -/
theorem countP_or_le (p q : Event → Bool) (events : List Event) :
    events.countP (fun event => p event || q event) ≤ events.countP p + events.countP q := by
  induction events with
  | nil => exact Nat.le_refl _
  | cons event events ih =>
    simp only [List.countP_cons]
    cases p event <;> cases q event <;> simp <;> omega

/-- **What every move keeps** holds all along a run. -/
theorem forall_run (moves : List Move)
    (step : ∀ move ∈ moves, ∀ s, P s → P (move.event s).after) :
    ∀ {s : Session}, P s → ∀ event ∈ run moves s,
      event.move ∈ moves ∧ P event.before ∧ event = event.move.event event.before := by
  -- by induction on the moves, for every session they may start from
  induction moves with
  | nil => exact fun _ event member => absurd member List.not_mem_nil
  | cons move moves ih =>
    intro s start event member
    rw [run] at member
    rcases List.mem_cons.1 member with rfl | later
    · rw [Move.event_before, Move.event_move]
      exact ⟨List.mem_cons_self, start, rfl⟩
    · split at later
      · exact absurd later List.not_mem_nil
      · have holds := ih (fun move among => step move (List.mem_cons_of_mem _ among))
          (step move List.mem_cons_self s start) event later
        exact ⟨List.mem_cons_of_mem _ holds.1, holds.2⟩

/-- **The ledger of a run.** If a move that uses something up takes it from the stock, and only
moves that supply it add to the stock, then over a whole run no more is used than was supplied and
in stock. -/
theorem countP_run_le {Holds : Nat → Session → Prop} {uses supplies : Event → Bool}
    (moves : List Move)
    (step : ∀ move ∈ moves, ∀ s stock, Holds stock s → ∃ left, Holds left (move.event s).after ∧
      (uses (move.event s)).toNat + left ≤ (supplies (move.event s)).toNat + stock) :
    ∀ {s : Session} {stock : Nat}, Holds stock s →
      (run moves s).countP uses ≤ (run moves s).countP supplies + stock := by
  have count (p : Event → Bool) (event : Event) (events : List Event) :
      (event :: events).countP p = events.countP p + (p event).toNat := by
    rw [List.countP_cons]
    cases p event <;> rfl
  -- by induction on the moves; what one move leaves in stock is the stock of those after it
  induction moves with
  | nil =>
    intro s stock _
    exact Nat.zero_le _
  | cons move moves ih =>
    intro s stock start
    obtain ⟨left, next, balance⟩ := step move List.mem_cons_self s stock start
    rw [run, count, count]
    split
    · simp only [List.countP_nil]
      omega
    · have later := ih (fun move among => step move (List.mem_cons_of_mem _ among)) next
      omega

end Convergent

end RegionDispatch
