import Mathlib.Data.List.Intervals
import RegionDispatch.Proofs.Kernel.Team
import RegionDispatch.Proofs.TeamSize

/-! # A first-level region from the master's side

`Master.Ready` is what the master finds between two of its calls. A region takes one ready state to
the next, with its team size granted by the sizing rule and its body called once on each lane of the
team (`Master.Ready.ends_parallel`). -/

namespace RegionDispatch

open Dispatch

namespace Master

variable {ω α β : Type} {s : Master ω}

/-! ## Steps on parts of the master's state -/

@[simp] theorem ends_onHosted {step : RegionM ω α} {done : α → Master ω → Prop}
    {stopped : Failure → Master ω → Prop} :
    Ends (onHosted step) s done stopped ↔
      Ends step s.hosted (fun a t => done a { s with hosted := t })
        fun failure t => stopped failure { s with hosted := t } := by
  rw [onHosted, ends_zoom]

@[simp] theorem ends_onBlock {step : Dispatch Block α} {done : α → Master ω → Prop}
    {stopped : Failure → Master ω → Prop} :
    Ends (onBlock step) s done stopped ↔
      Ends step s.hosted.block (fun a t => done a { s with hosted := ⟨t, s.hosted.host⟩ })
        fun failure t => stopped failure { s with hosted := ⟨t, s.hosted.host⟩ } := by
  rw [onBlock, ends_onHosted, Hosted.ends_onBlock]

theorem forM_onHosted (f : β → RegionM ω Unit) (bs : List β) :
    bs.forM (fun b => onHosted (f b)) = onHosted (bs.forM f) :=
  forM_zoom (fun _ _ => rfl) (fun _ => rfl) f bs

theorem forM_onBlock (f : β → Dispatch Block Unit) (bs : List β) :
    bs.forM (fun b => (onBlock (f b) : MasterM ω Unit)) = onBlock (bs.forM f) := by
  simp only [onBlock, forM_onHosted]
  exact congrArg onHosted (Hosted.forM_onBlock f bs)

/-! ## Numbering the regions -/

theorem nextWork_of_room (room : s.begun + 1 < UInt32.size) :
    nextWork s = .ok ⟨s.begun + 1, Nat.succ_pos _⟩ { s with begun := s.begun + 1 } := by
  refine eq_ok_of_ends ?_
  simp [nextWork, checkedAdd_of_lt room, WorkHandle.ofId?]

theorem nextWork_of_full (full : UInt32.size ≤ s.begun + 1) :
    nextWork s = .error (.halted .addOverflow) s := by
  refine eq_error_of_ends ?_
  simp [nextWork, checkedAdd, Nat.not_lt.2 full]

/-! ## Regions -/

/-- The master between two of its calls: the block is at rest with the given clause pending and the
given requested threads set, and no counter of regions exceeds the activations so far. -/
structure Ready (arch : Arch) (layout : BlockLayout) (limit clause nthreads activated : Nat)
    (s : Master ω) : Prop where
  workers : 0 < layout.master
  rest : s.hosted.block.AtRest limit nthreads clause
  arch : s.hosted.block.arch = arch
  layout : s.hosted.block.layout = layout
  fullRuntime : s.fullRuntime = true
  activations : s.hosted.block.counters.activations = activated
  regions : s.hosted.block.counters.regions ≤ activated
  begun : s.begun ≤ activated

variable {arch : Arch} {layout : BlockLayout} {limit clause nthreads activated : Nat}

theorem Ready.lane_eq (ready : Ready arch layout limit clause nthreads activated s) :
    lane s = .ok layout.master s := by
  refine eq_ok_of_ends ?_
  simp [lane, ready.layout,
    BlockLayout.masterLane_eq (ready.layout ▸ ready.rest.maps ready.rest.generic)]

/-- The master's lane lies in the block and belongs to thread 0. -/
theorem Ready.owner_master (ready : Ready arch layout limit clause nthreads activated s) :
    layout.master < s.hosted.block.layout.size ∧
      s.hosted.block.layout.threadOf layout.master = .ok 0 := by
  have workers := ready.workers
  have below := layout.master_le_size_sub_one
  rw [ready.rest.maps.threadOf_eq, ready.layout,
    BlockLayout.owner_master (ready.layout ▸ ready.rest.generic)]
  exact ⟨by omega, rfl⟩

theorem Ready.ends_pushThreads (ready : Ready arch layout limit clause nthreads activated s)
    (count : Nat) :
    Ends (pushThreads count) s (fun _ t => Ready arch layout limit count nthreads activated t)
      fun _ _ => False := by
  obtain ⟨inside, owner⟩ := ready.owner_master
  rw [pushThreads, ends_bind, ends_of_ok ready.lane_eq, ends_onBlock,
    ends_of_ok (Block.pushThreads_eq_ok inside owner)]
  exact { ready with rest := ready.rest.pushThreads (Nat.zero_lt_of_lt inside) count }

theorem Ready.ends_setThreads (ready : Ready arch layout limit clause nthreads activated s)
    (count : Nat) :
    Ends (setThreads count) s (fun _ t => Ready arch layout limit clause count activated t)
      fun _ _ => False := by
  obtain ⟨inside, owner⟩ := ready.owner_master
  rw [setThreads, ends_bind, ends_of_ok ready.lane_eq, ends_onBlock,
    ends_of_ok (Block.setThreads_eq_ok inside owner ready.rest.initialized
      (ready.rest.idle 0 (Nat.zero_lt_of_lt inside)) ready.rest.base)]
  exact { ready with rest := ready.rest.setThreads count }

/-- **One region.** Its team has the granted size, its body is called once on each lane of the team
in order and sees the region there, and if every call settles the master is ready again. It only
fails where a body does or where a counter is full. -/
theorem Ready.ends_parallel {s : Master (ω × List (Recorded Nat ω))} {body : RegionBody ω}
    (ready : Ready arch layout limit clause nthreads activated s) (fresh : s.hosted.host.2 = [])
    (confined : ∀ lane, Region.Confined lane (body lane)) {decision : TeamDecision}
    (sized : arch.sizeTeam ⟨clause, nthreads, limit, layout.master⟩ = .ok decision)
    (pos : 0 < decision.size) (le : decision.size ≤ layout.master) :
    Ends (parallel fun lane => recorded lane (body lane)) s
      (fun size t => size = decision.size ∧
        t.hosted.host.2.map (·.tag) = List.range decision.size ∧
        (∀ call ∈ t.hosted.host.2, call.SeesRegion decision.size) ∧
        ((∀ call ∈ t.hosted.host.2, call.Settled) →
          Ready arch layout limit 0 nthreads (activated + decision.size) t))
      fun failure t => (∃ call ∈ t.hosted.host.2, ¬call.Settled) ∨
        (failure = .halted .addOverflow ∧ UInt32.size ≤ activated + decision.size) := by
  unfold parallel
  rw [ends_bind, ends_of_ok ready.lane_eq, ends_bind]
  have begun := ready.begun
  by_cases room : s.begun + 1 < UInt32.size
  swap
  · rw [ends_of_error (nextWork_of_full (Nat.le_of_not_lt room))]
    exact .inr ⟨rfl, by omega⟩
  rw [ends_of_ok (nextWork_of_room room), ends_bind, ends_get, ends_bind, ends_onBlock]
  have hlayout := ready.layout
  -- the region is posted
  have prepared := ready.rest.ends_prepareRegion ⟨s.begun + 1, Nat.succ_pos _⟩
    (ready.arch ▸ ready.layout ▸ sized) (Nat.ne_of_gt pos)
    (ready.layout ▸ ready.workers)
  rw [hlayout] at prepared
  rw [ready.fullRuntime]
  refine prepared.mono (fun granted posted done => ?_) fun failure _ stopped => ?_
  swap
  · have := ready.regions
    exact .inr ⟨stopped.1, Nat.le_trans stopped.2 (by omega)⟩
  obtain ⟨hgranted, region, unset, sameArch, sameLayout, board, counters⟩ := done
  obtain rfl := hgranted.symm
  have team : (List.range layout.master).filter (· < decision.size) = List.range decision.size := by
    rw [← List.Ico.zero_bot, List.Ico.filter_lt, Nat.min_eq_right le, List.Ico.zero_bot]
  have activations : posted.counters.activations = activated := by
    rw [counters]; exact ready.activations
  -- the team assembles
  simp only [ends_bind, sync, ends_modify, ends_onBlock]
  have assembled := region.ends_assemble (List.range layout.master) board fun lane member => by
    rw [sameLayout]; exact List.mem_range.1 member
  rw [team, List.length_range, activations] at assembled
  refine assembled.mono (fun _ t done => ?_) fun failure _ stopped => .inr stopped
  obtain ⟨rfl, region, same, joined, unchanged⟩ := done
  -- the team runs the body
  rw [forM_onHosted, ends_onHosted]
  have ran := region.ends_bodies confined (List.range decision.size) (s := ⟨t, s.hosted.host⟩)
    fun lane member => .inr member
  refine ran.mono (fun _ u done => ?_) fun failure _ stopped => .inl stopped
  obtain ⟨region, same', stayed, calls, log, tags, views, settles⟩ := done
  -- the team leaves
  rw [forM_onBlock, ends_onBlock]
  have left := region.ends_exits (List.range decision.size) (fun lane member => .inr member)
    List.nodup_range
  refine left.mono (fun _ v done => ?_) fun _ _ stopped => stopped.elim
  obtain ⟨region, same'', left, kept⟩ := done
  rw [fresh, List.nil_append] at log
  refine ⟨rfl, by rw [log, tags], by rw [log]; exact views, fun settled => ?_⟩
  rw [log] at settled
  have cleared := settles settled (unchanged.trans unset)
  have same := (same.trans same').trans same''
  exact
    { rest := region.atRest (fun tid member => member.2 (member.1.resolve_left id))
        (kept.trans cleared)
      arch := same.arch.trans (sameArch.trans ready.arch)
      layout := same.layout.trans sameLayout
      workers := ready.workers
      fullRuntime := rfl
      activations := left.trans (stayed.trans (by rw [joined, List.length_range]))
      regions := by
        have := ready.regions
        show v.counters.regions ≤ _
        rw [same.regions, counters]
        show s.hosted.block.counters.regions + 1 ≤ _
        omega
      begun := by
        show s.begun + 1 ≤ _
        omega }

end Master

end RegionDispatch
