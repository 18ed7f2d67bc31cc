import RegionDispatch.Kernel.Master
import RegionDispatch.Proofs.Kernel.Rest
import RegionDispatch.Proofs.Recording

/-! # The phases of a first-level region

A region is posted, its team assembles, runs the body lane by lane, and leaves. Each phase takes a
block in the region to a block in the region and changes only who is inside:

* `Block.AtRest.ends_prepareRegion` — nobody is inside yet;
* `Block.InRegion.ends_assemble` — the lanes below the team size go inside, or the counter of
  activations is full;
* `Block.InRegion.ends_bodies` — each recorded call sees a member's view of the region, and only a
  body that fails stops the team;
* `Block.InRegion.ends_exits` — the team leaves. -/

namespace RegionDispatch

open Dispatch
open BlockState (baseId homeId)

/-- A recorded call of a region body that returned and left no clause pending on thread 0. -/
def Recorded.Settled {κ ω : Type} (call : Recorded κ ω) : Prop :=
  ∃ t, call.result = .ok () t ∧ (t.block.state.thread 0).pendingThreads = 0

instance {κ ω : Type} (call : Recorded κ ω) : Decidable call.Settled :=
  match h : call.result with
  | .ok () t => decidable_of_iff ((t.block.state.thread 0).pendingThreads = 0)
      ⟨fun unset => ⟨t, h, unset⟩, fun ⟨t', h', unset⟩ => by
        rw [h, EStateM.Result.ok.injEq] at h'
        rwa [h'.2]⟩
  | .error _ _ => isFalse fun ⟨_, h', _⟩ => by rw [h] at h'; cases h'

/-- What the body sees at the start of a recorded call: the rank of its lane in a team of `size`
members, directly inside one region. -/
def Recorded.SeesRegion {ω : Type} (size : Nat) (call : Recorded Nat ω) : Prop :=
  Block.threadNum call.tag call.start.block = .ok call.tag call.start.block ∧
    Block.teamSize call.tag call.start.block = .ok size call.start.block ∧
    Block.level call.tag call.start.block = .ok 1 call.start.block

namespace Block

variable {limit nthreads clause size lane : Nat} {inside : Nat → Prop} {work : WorkHandle}
  {block before mid after : Block}

/-- What a region does not change of its block once it is posted. -/
structure SameRegion (before after : Block) : Prop where
  arch : after.arch = before.arch
  layout : after.layout = before.layout
  board : after.board = before.board
  regions : after.counters.regions = before.counters.regions

theorem SameRegion.refl (block : Block) : SameRegion block block := ⟨rfl, rfl, rfl, rfl⟩

theorem SameRegion.trans (first : SameRegion before mid) (second : SameRegion mid after) :
    SameRegion before after where
  arch := second.arch.trans first.arch
  layout := second.layout.trans first.layout
  board := second.board.trans first.board
  regions := second.regions.trans first.regions

theorem LocalChange.sameRegion {tid : Nat} {top : FrameId}
    (change : LocalChange tid top before after) : SameRegion before after where
  arch := change.arch
  layout := change.layout
  board := change.board
  regions := by rw [change.counters]

theorem LocalChange.activations {tid : Nat} {top : FrameId}
    (change : LocalChange tid top before after) :
    after.counters.activations = before.counters.activations := by
  rw [change.counters]

/-! ## Posting the region -/

/-- The master posts the region of the size its request is granted, unless the counter of regions
is full. -/
theorem AtRest.ends_prepareRegion (h : AtRest limit nthreads clause block) (work : WorkHandle)
    {decision : TeamDecision}
    (sized : block.arch.sizeTeam ⟨clause, nthreads, limit, block.layout.master⟩ = .ok decision)
    (pos : decision.size ≠ 0) (workers : 0 < block.layout.master) :
    Ends (prepareRegion block.layout.master work true) block
      (fun granted t => granted = decision ∧
        InRegion limit nthreads decision.size (fun _ => False) t ∧
        (t.state.thread 0).pendingThreads = 0 ∧ t.arch = block.arch ∧ t.layout = block.layout ∧
        t.board = .post work (.member limit decision.size 0 nthreads) ∧
        t.counters = { block.counters with regions := block.counters.regions + 1 })
      fun failure _ => failure = .halted .addOverflow ∧
        UInt32.size ≤ block.counters.regions + 1 := by
  have bound : 0 < block.layout.size := Nat.lt_of_lt_of_le workers block.layout.master_le_size
  have request : block.nextRequest (.outermost limit nthreads) =
      ⟨clause, nthreads, limit, block.layout.master⟩ := by
    rw [Block.nextRequest, h.clause]
    rfl
  rw [← request] at sized
  have top := h.idle 0 bound
  by_cases room : block.counters.regions + 1 < UInt32.size
  · rw [ends_of_ok (prepareRegion_of_room h.maps h.generic h.initialized top h.base rfl sized pos
      room)]
    -- besides posting and counting, the step takes the pending clause
    have taken := h.pushThreads bound 0
    exact ⟨rfl, { taken.inRegion with }, taken.clause, rfl, rfl, rfl, rfl⟩
  · have full := Nat.le_of_not_lt room
    rw [ends_of_error (prepareRegion_of_full h.maps h.generic h.initialized top h.base rfl sized pos
      full)]
    exact ⟨rfl, full⟩

/-! ## Assembling the team -/

/-- A worker below the team size joins, unless the counter of activations is full. -/
theorem InRegion.ends_enterRegion (h : InRegion limit nthreads size inside block)
    (posted : block.board = .post work (.member limit size 0 nthreads))
    (worker : lane < block.layout.master) (member : lane < size) :
    Ends (enterRegion lane true) block
      (fun activation t => activation = .active work ∧
        InRegion limit nthreads size (fun tid => tid = lane ∨ inside tid) t ∧ SameRegion block t ∧
        t.counters.activations = block.counters.activations + 1 ∧
        (t.state.thread 0).pendingThreads = (block.state.thread 0).pendingThreads)
      fun failure _ => failure = .halted .addOverflow ∧
        UInt32.size ≤ block.counters.activations + 1 := by
  have hposted : block.board.posted = some work := by rw [posted]; rfl
  have below : lane < block.board.teamSize := by rw [posted]; exact member
  have bound : lane < block.layout.size := Nat.lt_of_lt_of_le worker block.layout.master_le_size
  have home := h.homes lane bound
  have live := h.isLive_homeId bound
  by_cases room : block.counters.activations + 1 < UInt32.size
  · rw [ends_of_ok (enterRegion_of_room h.maps h.generic h.initialized hposted worker below home
      live room)]
    have copies : block.board.memberFrame lane = .member limit size lane nthreads := by
      rw [posted]; rfl
    have joined := h.joined worker copies
    -- joining sets the top and the event of one thread, so no clause is lost
    have clause : ((block.joined lane (homeId lane)).state.thread 0).pendingThreads =
        (block.state.thread 0).pendingThreads := by
      by_cases same : 0 = lane
      · rw [Block.joined, same, BlockState.thread_joinTeam_self (h.lt_threads bound)]
      · rw [Block.joined, BlockState.thread_joinTeam_of_ne same]
    exact ⟨rfl, { joined with }, ⟨rfl, rfl, rfl, rfl⟩, rfl, clause⟩
  · have full := Nat.le_of_not_lt room
    rw [ends_of_error (enterRegion_of_full h.maps h.generic h.initialized hposted worker below home
      live full)]
    exact ⟨rfl, full⟩

/-- The workers below the team size join, in order, unless the counter of activations is full. -/
theorem InRegion.ends_assemble (lanes : List Nat) :
    ∀ {inside : Nat → Prop} {block : Block}, InRegion limit nthreads size inside block →
      block.board = .post work (.member limit size 0 nthreads) →
      (∀ lane ∈ lanes, lane < block.layout.master) →
      Ends (Master.assemble work true lanes) block
        (fun team t => team = lanes.filter (· < size) ∧
          InRegion limit nthreads size (fun tid => inside tid ∨ tid ∈ team) t ∧
          SameRegion block t ∧
          t.counters.activations = block.counters.activations + team.length ∧
          (t.state.thread 0).pendingThreads = (block.state.thread 0).pendingThreads)
        fun failure _ => failure = .halted .addOverflow ∧
          UInt32.size ≤ block.counters.activations + (lanes.filter (· < size)).length := by
  -- by induction on the workers still to look; those that joined stay inside
  induction lanes with
  | nil =>
    intro inside block h _ _
    refine ⟨rfl, h.congr fun tid => ?_, .refl block, rfl, rfl⟩
    rw [or_iff_left (List.not_mem_nil)]
  | cons lane lanes ih =>
    intro inside block h posted workers
    have worker := workers lane List.mem_cons_self
    have others : ∀ other ∈ lanes, other < block.layout.master := fun other member =>
      workers other (List.mem_cons_of_mem lane member)
    rw [Master.assemble, ends_bind]
    by_cases member : lane < size
    · have kept : (lane :: lanes).filter (· < size) = lane :: lanes.filter (· < size) :=
        List.filter_cons_of_pos (by simpa using member)
      refine (h.ends_enterRegion posted worker member).mono ?_ fun failure t stopped => ?_
      · rintro _ mid ⟨rfl, joined, first, one, clause⟩
        simp only [ends_bind, ends_refuseIf, ne_eq, not_true, not_false_eq_true, false_imp_iff,
          true_imp_iff, true_and, ends_pure]
        have others' : ∀ other ∈ lanes, other < mid.layout.master := by
          rw [first.layout]
          exact others
        refine (ih joined (first.board.trans posted) others').mono ?_ fun failure t stopped => ?_
        · rintro _ t ⟨rfl, region, later, activated, unchanged⟩
          refine ⟨kept.symm, region.congr fun tid => ?_, first.trans later, ?_,
            unchanged.trans clause⟩
          · rw [List.mem_cons, ← or_assoc, or_comm (a := inside tid)]
          · rw [activated, one, List.length_cons]
            omega
        · rw [one] at stopped
          rw [kept, List.length_cons]
          exact ⟨stopped.1, by omega⟩
      · rw [kept, List.length_cons]
        exact ⟨stopped.1, by omega⟩
    · have skipped : (lane :: lanes).filter (· < size) = lanes.filter (· < size) :=
        List.filter_cons_of_neg (by simpa using member)
      have hposted : block.board.posted = some work := by rw [posted]; rfl
      have beyond : block.board.teamSize ≤ lane := by rw [posted]; exact Nat.le_of_not_lt member
      rw [ends_of_ok (enterRegion_of_teamSize_le h.maps h.generic h.initialized hposted worker
        beyond), skipped]
      simp only [ends_bind, ends_refuseIf, ne_eq, not_true, not_false_eq_true, false_imp_iff,
        true_imp_iff, true_and]
      exact ih h posted others

/-! ## Running the body -/

/-- The team runs the body lane by lane. Every call sees a member's view of the region; unless one
of them fails, everyone still stands inside at the end. -/
theorem InRegion.ends_bodies {ω : Type} {body : RegionBody ω}
    (confined : ∀ lane, Region.Confined lane (body lane)) (team : List Nat) :
    ∀ {s : Hosted (ω × List (Recorded Nat ω))}, InRegion limit nthreads size inside s.block →
      (∀ lane ∈ team, inside lane) →
      Ends (team.forM fun lane => recorded lane (body lane)) s
        (fun _ t => InRegion limit nthreads size inside t.block ∧ SameRegion s.block t.block ∧
          t.block.counters.activations = s.block.counters.activations ∧
          ∃ calls, t.host.2 = s.host.2 ++ calls ∧ calls.map (·.tag) = team ∧
            (∀ call ∈ calls, call.SeesRegion size) ∧
            ((∀ call ∈ calls, call.Settled) → (s.block.state.thread 0).pendingThreads = 0 →
              (t.block.state.thread 0).pendingThreads = 0))
        fun _ t => ∃ call ∈ t.host.2, ¬call.Settled := by
  -- by induction on the lanes left; what a body does on its lane keeps everyone inside
  induction team with
  | nil =>
    intro s h _
    refine ⟨h, .refl _, rfl, [], (List.append_nil _).symm, rfl, fun call member => ?_,
      fun _ unset => unset⟩
    cases member
  | cons lane team ih =>
    intro s h members
    have standing := h.standing (members lane List.mem_cons_self)
    have sees := h.queries (members lane List.mem_cons_self)
    rw [forM_cons, ends_bind, ends_recorded]
    have change := (confined lane).leavesLocal s.forget standing
    unfold Region.LeavesLocal at change
    refine change.mono (fun _ t change => ?_) fun failure t _ => ?_
    · refine (ih (h.localChange change) fun other member =>
        members other (List.mem_cons_of_mem lane member)).mono (fun _ u done => ?_) fun _ _ fails =>
        fails
      obtain ⟨region, same, activated, calls, log, tags, views, unset⟩ := done
      refine ⟨region, change.sameRegion.trans same, activated.trans change.activations,
        ⟨lane, s.forget, .ok () t⟩ :: calls, ?_, ?_, ?_, ?_⟩
      · rw [log, Hosted.log_withLog, List.append_assoc]
        rfl
      · rw [List.map_cons, tags]
      · intro call member
        rcases List.mem_cons.1 member with rfl | later
        · exact sees
        · exact views call later
      · intro settled _
        refine unset (fun call later => settled call (List.mem_cons_of_mem _ later)) ?_
        obtain ⟨t', result, cleared⟩ := settled _ List.mem_cons_self
        cases result
        exact cleared
    · -- the call that failed is the last one in the log, and it did not settle
      refine ⟨⟨lane, s.forget, .error failure t⟩, ?_, fun settled => ?_⟩
      · rw [Hosted.log_withLog]
        exact List.mem_append_right _ List.mem_cons_self
      · obtain ⟨t', result, -⟩ := settled
        cases result

/-! ## Leaving -/

/-- The members of the team leave, each from its own frame. -/
theorem InRegion.ends_exits (team : List Nat) :
    ∀ {inside : Nat → Prop} {block : Block}, InRegion limit nthreads size inside block →
      (∀ lane ∈ team, inside lane) → team.Nodup →
      Ends (team.forM exitRegion) block
        (fun _ t => InRegion limit nthreads size (fun tid => inside tid ∧ tid ∉ team) t ∧
          SameRegion block t ∧ t.counters.activations = block.counters.activations ∧
          (t.state.thread 0).pendingThreads = (block.state.thread 0).pendingThreads)
        fun _ _ => False := by
  -- by induction on the lanes left; each one that leaves is inside no longer
  induction team with
  | nil =>
    intro inside block h _ _
    refine ⟨h.congr fun tid => ?_, .refl _, rfl, rfl⟩
    rw [and_iff_left List.not_mem_nil]
  | cons lane team ih =>
    intro inside block h members distinct
    have member := members lane List.mem_cons_self
    obtain ⟨fresh, distinct'⟩ := List.nodup_cons.1 distinct
    have standing := h.standing member
    obtain ⟨n, hn⟩ := h.member lane member
    have home := h.homes lane standing.inside
    rw [forM_cons, ends_bind,
      ends_of_ok (exitRegion_of_home standing.inside standing.owner standing.stands home hn rfl)]
    have clause : ((block.state.setTop lane baseId).thread 0).pendingThreads =
        (block.state.thread 0).pendingThreads := by
      rw [BlockState.setTop, BlockState.thread_modifyThread]
      split <;> rfl
    refine (ih (h.left lane) (fun other later => ⟨members other (List.mem_cons_of_mem lane later),
      fun same => fresh (same ▸ later)⟩) distinct').mono (fun _ t done => ?_) fun _ _ fails => fails
    obtain ⟨region, same, activated, unchanged⟩ := done
    refine ⟨region.congr fun tid => ?_, ⟨same.arch, same.layout, same.board, same.regions⟩,
      activated, unchanged.trans clause⟩
    rw [List.mem_cons, not_or, and_assoc]

end Block

end RegionDispatch
