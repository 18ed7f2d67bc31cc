import RegionDispatch.Proofs.Block.Create
import RegionDispatch.Proofs.Convergent.Team
import RegionDispatch.Proofs.Recording

/-! # Convergent loops

A convergent loop forms one team for every lane of the activity mask, in ascending order, and runs
the body on each team's lanes. Whatever the body does in between, as long as each of its calls
returns and leaves the outline of the block alone, the loop gives back what its teams borrowed.

* **`Recorded.Neutral`** — a call of the body that returned and left the outline alone.
* `Convergent.ends_runTeam`, `Convergent.ends_rounds` — one team, and the teams of all lanes left.
* `Convergent.loop_restores` — the whole loop: how many teams, which calls in which order, and what
  becomes of tops, frames and hints. -/

namespace RegionDispatch

open Dispatch

/-- A recorded call that returned and left the outline of the block, its layout and its runtime as
it found them. -/
def Recorded.Neutral {κ ω : Type} (call : Recorded κ ω) : Prop :=
  ∃ t, call.result = .ok () t ∧ t.block.outline = call.start.block.outline ∧
    t.block.layout = call.start.block.layout ∧
    t.block.initialized = call.start.block.initialized ∧
    (call.start.block.state.arena.Sound → t.block.state.arena.Sound)

namespace Convergent

variable {ω : Type} {construct : Construct} {warp : Warp} {mask : LaneMask} {layout : BlockLayout}
  {hwOf tidOf : Nat → Nat} {outline current : Outline} {body : Team → Member → RegionM ω Unit}
  {team : Team} {jobs : Array Job} {source cursor : Nat} {rest : List Nat}

/-- The body with its calls written down. -/
def logged (body : Team → Member → RegionM ω Unit) (team : Team) (member : Member) :
    RegionM (ω × List (Recorded (Team × Member) ω)) Unit :=
  recorded (team, member) (body team member)

/-! ## What every step keeps -/

section Keeps

variable {P : Hosted ω → Prop}
  (enters : ∀ cursor jobs, Keeps P (enterNext construct warp mask cursor jobs))
  (fences : Keeps P (Hosted.onBlock Block.fence))
  (bodies : ∀ team member, Keeps P (body team member))
  (exits : ∀ hwLane job, Keeps P (Hosted.onBlock (exit construct hwLane job)))

include fences bodies exits

theorem keeps_runTeam (team : Team) (jobs : Array Job) :
    Keeps P (runTeam construct body team jobs) := by
  refine fences.bind fun _ => Keeps.bind ?_ fun _ => ?_
  · exact Keeps.forM _ fun member _ => bodies team member
  · exact Keeps.forM _ fun member _ => exits _ _

include enters

/-- What every step of a loop keeps is kept over any number of rounds. -/
theorem keeps_rounds_of (left : Nat) :
    ∀ (cursor : Nat) (jobs : Array Job) (teams : Nat),
      Keeps P (rounds construct warp mask body left cursor jobs teams) := by
  induction left with
  | zero => exact fun _ _ teams => Keeps.pure teams
  | succ left ih =>
    intro cursor jobs teams
    refine (enters cursor jobs).bind ?_
    rintro ⟨team, cursor', jobs'⟩
    refine (keeps_runTeam fences bodies exits team jobs').bind fun _ => ?_
    exact (Keeps.pure _).ite (ih cursor' jobs' (teams + 1))

end Keeps

/-! ## The log -/

/-- What every call keeps true of the log is true of it after any number of rounds. -/
theorem keeps_rounds {P : List (Recorded (Team × Member) ω) → Prop}
    (closed : ∀ log team member start, P log →
      P (log ++ [⟨(team, member), start, body team member start⟩]))
    (construct : Construct) (warp : Warp) (mask : LaneMask) (left cursor : Nat) (jobs : Array Job)
    (teams : Nat) :
    Keeps (fun s : Hosted (ω × List (Recorded (Team × Member) ω)) => P s.host.2)
      (rounds construct warp mask (logged body) left cursor jobs teams) :=
  keeps_rounds_of (fun _ _ => keeps_onBlock _) (keeps_onBlock _)
    (fun team member => keeps_recorded fun log start => closed log team member start)
    (fun _ _ => keeps_onBlock _) left cursor jobs teams

/-- All calls so far were neutral. -/
def AllNeutral (log : List (Recorded (Team × Member) ω)) : Prop := ∀ call ∈ log, call.Neutral

/-- Once a call was not neutral, that stays in the log. -/
theorem not_allNeutral_append {log : List (Recorded (Team × Member) ω)} (h : ¬AllNeutral log)
    (new : Recorded (Team × Member) ω) : ¬AllNeutral (log ++ [new]) :=
  fun all => h fun _ member => all _ (List.mem_append_left _ member)

/-- The source and the member of each call, by lane. -/
def visits (log : List (Recorded (Team × Member) ω)) : List (Nat × Nat) :=
  log.map fun call => (call.tag.1.source, call.tag.2.lane)

/-! ## One team -/

/-- A counter that has no room for one more. -/
def Full (block : Block) : Prop :=
  UInt32.size ≤ block.counters.convergentTeams + 1 ∨ UInt32.size ≤ block.counters.fences + 1

/-- A fence is counted, and only a full counter halts it. -/
theorem ends_fence {block : Block} :
    Ends Block.fence block (fun _ t => ∃ counters, t = { block with counters })
      fun failure t => failure = .halted .addOverflow ∧ Full t := by
  simp only [Block.fence, Block.tally, ends_bind, ends_get, ends_checked, ends_modify]
  refine ⟨fun counters _ => ⟨counters, rfl⟩, fun fault full => ?_⟩
  obtain ⟨filled, rfl⟩ := map_checkedAdd_eq_error.1 full
  exact ⟨rfl, .inr filled⟩

/-- The next team, with cursor and jobs apart from the block. -/
theorem ends_enterNext (gathered : Gathered warp (activity warp mask).lanes layout hwOf tidOf)
    {s : Hosted ω} (left : ((activity warp mask).remainingFrom cursor).lanes = source :: rest)
    (outlined : Block.Outlined layout outline s.block) (covered : warp.width ≤ jobs.size)
    (standing : ∀ lane ∈ (activity warp mask).lanes,
      ∃ id, outline.tops (tidOf lane) = some id ∧ outline.live id = true) :
    Ends (enterNext construct warp mask cursor jobs) s
      (fun result t => t.host = s.host ∧
        result.1 = teamFor construct (activity warp mask) hwOf tidOf outline source rest ∧
        result.2.1 = source + 1 ∧ warp.width ≤ result.2.2.size ∧
        ∃ current, Block.Outlined layout current t.block ∧
          Assembled construct tidOf source
            ((activity warp mask).lanes.take
              (share construct (activity warp mask) tidOf outline source))
            outline result.2.2 current)
      fun failure t => failure = .halted .addOverflow ∧ Full t.block := by
  have start : Block.Outlined layout outline (Entry.mk s.block cursor jobs).block := outlined
  have entered : Ends (enter construct warp mask) (Entry.mk s.block cursor jobs) _ _ :=
    ends_enter gathered left start covered standing
  rw [enterNext, Hosted.ends_onBlock, ends_embed, ends_bind]
  refine entered.mono ?_ ?_
  · rintro team after ⟨rfl, hcursor, size, assembled⟩
    rw [ends_bind, ends_get, ends_pure]
    refine ⟨rfl, rfl, hcursor, ?_, assembled⟩
    rw [size]
    exact covered
  · rintro failure after ⟨rfl, full⟩
    exact ⟨rfl, .inl full⟩

/-- **The bodies** of a team are called member by member, and neutral calls leave the outline alone.
-/
theorem ends_bodies (members : List Member) :
    ∀ {s : Hosted (ω × List (Recorded (Team × Member) ω))},
      Block.Outlined layout outline s.block →
      Ends (members.forM (logged body team)) s
        (fun _ t => AllNeutral t.host.2 → Block.Outlined layout outline t.block ∧
          t.host.2.map (·.tag) = s.host.2.map (·.tag) ++ members.map ((team, ·)))
        fun failure t => AllNeutral t.host.2 → failure = .halted .addOverflow ∧ Full t.block := by
  -- by induction on the members left; once a call was not neutral nothing is claimed any more
  induction members with
  | nil =>
    intro s outlined
    exact fun _ => ⟨outlined, (List.append_nil _).symm⟩
  | cons member members ih =>
    intro s outlined
    have keeps : Keeps
        (fun s : Hosted (ω × List (Recorded (Team × Member) ω)) => ¬AllNeutral s.host.2)
        (members.forM (logged body team)) :=
      Keeps.forM _ fun _ _ => keeps_recorded (P := fun log => ¬AllNeutral log)
        fun _ _ h => not_allNeutral_append h _
    rw [forM_cons]
    refine Ends.bind_of_keeps (fun _ t => Block.Outlined layout outline t.block ∧
      t.host.2.map (·.tag) = s.host.2.map (·.tag) ++ [(team, member)]) (fun _ => keeps) ?_ ?_
    · rw [logged, ends_recorded]
      unfold Ends
      split
      · next t heq =>
        intro all
        obtain ⟨t', same, outline', layout', initialized, sound⟩ :=
          all ⟨(team, member), s.forget, .ok () t⟩ (List.mem_append_right _ List.mem_cons_self)
        obtain rfl := (EStateM.Result.ok.inj same).2
        refine ⟨⟨layout'.trans outlined.layout, initialized.trans outlined.initialized,
          sound outlined.sound, outline'.trans outlined.outline⟩, ?_⟩
        rw [Hosted.log_withLog, List.map_append]
        rfl
      · next failure t heq =>
        intro all
        obtain ⟨t', same, -⟩ :=
          all ⟨(team, member), s.forget, .error failure t⟩
            (List.mem_append_right _ List.mem_cons_self)
        cases same
    · rintro _ t - ⟨outlined', log⟩
      refine (ih outlined').mono (fun _ u done all => ?_) fun _ _ stopped => stopped
      rw [(done all).2, log, List.append_assoc]
      exact ⟨(done all).1, rfl⟩

/-- **One team** gives everything back but a hint that the source has used up. -/
theorem ends_runTeam (gathered : Gathered warp mask.lanes layout hwOf tidOf)
    (member : source ∈ mask.lanes) {s : Hosted (ω × List (Recorded (Team × Member) ω))}
    (outlined : Block.Outlined layout current s.block)
    (assembled : Assembled construct tidOf source
      (mask.lanes.take (share construct mask tidOf outline source)) outline jobs current) :
    Ends (runTeam construct (logged body)
        (teamFor construct mask hwOf tidOf outline source rest) jobs) s
      (fun _ t => AllNeutral t.host.2 →
        Block.Outlined layout (settle construct mask tidOf outline source) t.block ∧
        visits t.host.2 = visits s.host.2 ++
          (mask.lanes.take (share construct mask tidOf outline source)).map ((source, ·)))
      fun failure t => AllNeutral t.host.2 → failure = .halted .addOverflow ∧ Full t.block := by
  have team : ∀ lane ∈ mask.lanes.take (share construct mask tidOf outline source),
      lane ∈ mask.lanes := fun _ => List.mem_of_mem_take
  have nodup := (LaneMask.nodup_lanes mask).sublist
    (List.take_sublist (share construct mask tidOf outline source) mask.lanes)
  rw [runTeam, active_teamFor, Hosted.forM_onBlock, ends_bind, Hosted.ends_onBlock]
  refine ends_fence.mono ?_ fun _ _ stopped _ => stopped
  rintro _ _ ⟨counters, rfl⟩
  refine Ends.bind_of_keeps (fun _ t => Block.Outlined layout current t.block ∧
    t.host.2.map (·.tag) = s.host.2.map (·.tag) ++
      ((mask.lanes.take (share construct mask tidOf outline source)).map
        (memberFor mask hwOf (share construct mask tidOf outline source))).map
          ((teamFor construct mask hwOf tidOf outline source rest, ·)))
    (fun _ => keeps_onBlock (P := fun log => ¬AllNeutral log) _)
    (ends_bodies _ (outlined.withCounters counters)) ?_
  rintro _ t - ⟨outlined', log⟩
  obtain ⟨after, run, final⟩ := exits_eq_ok gathered
    (memberFor mask hwOf (share construct mask tidOf outline source)) (fun _ => ⟨rfl, rfl⟩)
    (mask.lanes.take (share construct mask tidOf outline source)) nodup team outlined'
      assembled.seated
    assembled.held assembled.shared
  rw [settle_eq gathered member assembled.hints] at final
  rw [Hosted.ends_onBlock, ends_of_ok run]
  refine fun _ => ⟨final, ?_⟩
  -- the calls are those of the members, in their order
  have pairs (log : List (Recorded (Team × Member) ω)) :
      visits log = (log.map (·.tag)).map fun tag => (tag.1.source, tag.2.lane) := by
    rw [List.map_map]
    rfl
  rw [pairs, pairs, log, List.map_append]
  refine congrArg _ ?_
  rw [List.map_map, List.map_map]
  rfl

/-! ## All teams -/

/-- The calls for the sources left: every source with the lanes of its team. -/
def visitsOf (construct : Construct) (mask : LaneMask) (tidOf : Nat → Nat) (outline : Outline)
    (sources : List Nat) : List (Nat × Nat) :=
  sources.flatMap fun source =>
    (mask.lanes.take (share construct mask tidOf outline source)).map ((source, ·))

/-- What one team settles does not concern the other sources. -/
theorem visitsOf_settle (gathered : Gathered warp mask.lanes layout hwOf tidOf)
    (among : ∀ lane ∈ source :: rest, lane ∈ mask.lanes) (nodup : (source :: rest).Nodup) :
    visitsOf construct mask tidOf (settle construct mask tidOf outline source) rest =
      visitsOf construct mask tidOf outline rest := by
  refine List.flatMap_congr fun other member => ?_
  rw [share, share, hints_settle_of_ne (.inr (gathered.apart among nodup member))]

/-- **The rounds left** form a team for every lane left, in ascending order. -/
theorem ends_rounds (gathered : Gathered warp (activity warp mask).lanes layout hwOf tidOf)
    (left : Nat) :
    ∀ {sources : List Nat} {cursor : Nat} {jobs : Array Job} {teams : Nat} {outline : Outline}
      {s : Hosted (ω × List (Recorded (Team × Member) ω))},
      sources ≠ [] → sources.length ≤ left →
      ((activity warp mask).remainingFrom cursor).lanes = sources →
      Block.Outlined layout outline s.block → warp.width ≤ jobs.size →
      (∀ lane ∈ (activity warp mask).lanes,
        ∃ id, outline.tops (tidOf lane) = some id ∧ outline.live id = true) →
      Ends (rounds construct warp mask (logged body) left cursor jobs teams) s
        (fun total t => AllNeutral t.host.2 → total = teams + sources.length ∧
          Block.Outlined layout
            (sources.foldl (settle construct (activity warp mask) tidOf) outline) t.block ∧
          visits t.host.2 =
            visits s.host.2 ++ visitsOf construct (activity warp mask) tidOf outline sources)
        fun failure t => AllNeutral t.host.2 → failure = .halted .addOverflow ∧ Full t.block := by
  -- by induction on the rounds left, of which there are at least as many as sources
  induction left with
  | zero =>
    intro sources cursor jobs teams outline s some few
    exact absurd (List.length_eq_zero_iff.1 (Nat.le_zero.1 few)) some
  | succ left ih =>
    intro sources cursor jobs teams outline s some few remaining outlined covered standing
    obtain ⟨source, rest, rfl⟩ := List.exists_cons_of_ne_nil some
    have among : ∀ lane ∈ source :: rest, lane ∈ (activity warp mask).lanes := by
      intro lane member
      exact LaneMask.mem_of_mem_remainingFrom (remaining ▸ member)
    have nodup : (source :: rest).Nodup := remaining ▸ LaneMask.nodup_lanes _
    rw [rounds, ends_bind]
    refine (ends_enterNext gathered remaining outlined covered standing).mono ?_
      fun _ _ stopped _ => stopped
    rintro ⟨team, cursor', jobs'⟩ t ⟨host, rfl, rfl, covered', current, outlined', assembled⟩
    have closed (log : List (Recorded (Team × Member) ω)) (team : Team) (member : Member)
        (start : Hosted ω) (h : ¬AllNeutral log) :
        ¬AllNeutral (log ++ [⟨(team, member), start, body team member start⟩]) :=
      not_allNeutral_append h _
    refine Ends.bind_of_keeps _
      (fun _ => (Keeps.pure _).ite (keeps_rounds closed construct warp mask left _ _ _))
      (ends_runTeam gathered (among source List.mem_cons_self) outlined' assembled) ?_
    rintro _ u - ⟨settled, log⟩
    rw [congrArg Prod.snd host] at log
    cases rest with
    | nil =>
      -- the team of the last source is final, which ends the loop
      have final :
        (teamFor construct (activity warp mask) hwOf tidOf outline source []).isFinal = true :=
        rfl
      rw [if_pos final, ends_pure]
      refine fun _ => ⟨rfl, settled, ?_⟩
      rw [log, visitsOf, List.flatMap_singleton]
    | cons next rest =>
      have more : ¬(teamFor construct (activity warp mask) hwOf tidOf outline source
          (next :: rest)).isFinal = true := by
        simp [teamFor]
      rw [if_neg more]
      refine (ih (List.cons_ne_nil next rest) (Nat.le_of_succ_le_succ few)
        (LaneMask.lanes_remainingFrom_succ remaining) settled covered' ?_).mono ?_
          fun _ _ stopped => stopped
      · intro lane member
        rw [tops_settle, live_settle]
        exact standing lane member
      · -- the later teams see the outline that this one settled, with the same shares
        intro total v done all
        obtain ⟨count, outline', log'⟩ := done all
        refine ⟨?_, outline', ?_⟩
        · rw [count, List.length_cons (a := source)]
          omega
        · rw [log', log, List.append_assoc, visitsOf_settle gathered among nodup]
          rfl

/-! ## The whole loop -/

/-- Writing down the calls changes nothing. -/
theorem forgets_rounds (construct : Construct) (warp : Warp) (mask : LaneMask)
    (body : Team → Member → RegionM ω Unit) (left : Nat) :
    ∀ (cursor : Nat) (jobs : Array Job) (teams : Nat),
      Forgets Hosted.forget (rounds construct warp mask (logged body) left cursor jobs teams)
        (rounds construct warp mask body left cursor jobs teams) := by
  induction left with
  | zero => exact fun _ _ teams => Forgets.pure teams
  | succ left ih =>
    intro cursor jobs teams
    refine (forgets_onBlock _).bind ?_
    rintro ⟨team, cursor', jobs'⟩
    have bodies := Forgets.forM (fun member => forgets_recorded (team, member) (body team member))
      team.active
    have exits := Forgets.forM (fun member : Member => forgets_onBlock
      (ω := ω) (ρ := List (Recorded (Team × Member) ω))
      (exit construct member.hwLane (jobs'.getD member.lane {}))) team.active
    refine Forgets.bind ((forgets_onBlock Block.fence).bind fun _ => bodies.bind fun _ => exits)
      fun _ => ?_
    cases team.isFinal with
    | true => exact Forgets.pure _
    | false => exact ih cursor' jobs' (teams + 1)

/-- The calls that a loop makes of its body, in their order. -/
def calls (construct : Construct) (warp : Warp) (mask : LaneMask)
    (body : Team → Member → RegionM ω Unit) (s : Hosted ω) : List (Recorded (Team × Member) ω) :=
  match loop construct warp mask (logged body) (s.withLog []) with
  | .ok _ t => t.host.2
  | .error _ t => t.host.2

/-- A body whose every call is neutral is neutral in the loop. -/
theorem neutral_of_body
    (h : ∀ team member start,
      Recorded.Neutral ⟨(team, member), start, body team member start⟩) (s : Hosted ω) :
    ∀ call ∈ calls construct warp mask body s, call.Neutral := by
  have closed (log : List (Recorded (Team × Member) ω)) (team : Team) (member : Member)
      (start : Hosted ω) (all : AllNeutral log) :
      AllNeutral (log ++ [⟨(team, member), start, body team member start⟩]) := by
    intro call among
    rcases List.mem_append.1 among with before | new
    · exact all call before
    · rw [List.mem_singleton.1 new]
      exact h team member start
  have kept := keeps_rounds closed construct warp mask maxGroupWidth 0
    (Array.replicate warp.width {}) 0
    (s.withLog []) fun _ none => absurd none List.not_mem_nil
  rw [calls, loop]
  unfold Ends at kept
  split
  · next heq => rw [heq] at kept; exact kept
  · next heq => rw [heq] at kept; exact kept

/-- What a loop gives back: tops, frames and hints as they were, but for the sources that were not
in their own team, whose hints are used up. -/
structure Restored (construct : Construct) (mask : LaneMask) (tidOf : Nat → Nat)
  (before after : Block) :
    Prop where
  tops : ∀ tid, (after.state.thread tid).top = (before.state.thread tid).top
  live : ∀ id, after.state.arena.isLive id = before.state.arena.isLive id
  hints : ∀ lane ∈ mask.lanes, construct.hint (after.state.thread (tidOf lane)) =
    if mask.rankOf lane < construct.hint (before.state.thread (tidOf lane)) then
      construct.hint (before.state.thread (tidOf lane))
    else 0
  others : ∀ kind tid, (kind ≠ construct ∨ ∀ lane ∈ mask.lanes, tidOf lane ≠ tid) →
    kind.hint (after.state.thread tid) = kind.hint (before.state.thread tid)

theorem restored_of_outlined {s t : Hosted ω} {lanes : List Nat} (listed : mask.lanes = lanes)
    (gathered : Gathered warp lanes s.block.layout hwOf tidOf)
    (outlined : Block.Outlined s.block.layout
      (lanes.foldl (settle construct mask tidOf) s.block.outline) t.block) :
    Restored construct mask tidOf s.block t.block := by
  subst listed
  refine ⟨fun tid => ?_, fun id => ?_, fun lane member => ?_, fun kind tid ne => ?_⟩
  · exact (outlined.top tid).trans (congrFun (tops_foldl_settle mask.lanes s.block.outline) tid)
  · exact (outlined.live id).trans (congrFun (live_foldl_settle mask.lanes s.block.outline) id)
  · rw [outlined.hint, hints_foldl_settle gathered (fun _ among => among)
      (LaneMask.nodup_lanes mask) member]
    show (if construct.hint (s.block.state.thread (tidOf lane)) ≤ mask.rankOf lane then 0
      else construct.hint (s.block.state.thread (tidOf lane))) = _
    split <;> split <;> omega
  · exact (outlined.hint kind tid).trans (hints_foldl_settle_of_ne mask.lanes s.block.outline ne)

/-- **A convergent loop restores the warp and visits in order.** Let the lanes of the activity mask
lie in the block and belong to different threads with live tops, and let every call that the loop
makes of its body be neutral. Then the loop forms one team for each lane, and calls the body for
every source in ascending order on the lanes whose ranks lie below the size of the source's team,
again in ascending order. Afterwards tops and frames are as before, and a lane still holds its hint
if that is greater than the lane's rank. Only a 32-bit counter without room for one more team or
fence halts the loop. -/
theorem loop_restores (construct : Construct) {warp : Warp} {mask : LaneMask}
    (body : Team → Member → RegionM ω Unit) {hwOf tidOf : Nat → Nat} {s : Hosted ω}
    (initialized : s.block.initialized = true) (sound : s.block.state.arena.Sound)
    (occupied : (activity warp mask).isEmpty = false)
    (gathered : Gathered warp (activity warp mask).lanes s.block.layout hwOf tidOf)
    (standing : ∀ lane ∈ (activity warp mask).lanes, ∃ id,
      (s.block.state.thread (tidOf lane)).top = some id ∧ s.block.state.arena.isLive id = true)
    (neutral : ∀ call ∈ calls construct warp mask body s, call.Neutral) :
    (∃ t, loop construct warp mask body s = .ok (activity warp mask).count t ∧
      (calls construct warp mask body s).map (fun call => (call.tag.1.source, call.tag.2.lane)) =
        ((activity warp mask).lanes.flatMap fun source =>
          ((activity warp mask).lanes.filter fun lane =>
              (activity warp mask).rankOf lane < teamSize (activity warp mask).count
                (construct.hint (s.block.state.thread (tidOf source)))).map ((source, ·))) ∧
      Restored construct (activity warp mask) tidOf s.block t.block) ∨
    ∃ t, loop construct warp mask body s = .error (.halted .addOverflow) t ∧ Full t.block := by
  have outlined : Block.Outlined s.block.layout s.block.outline
      (s.withLog ([] : List (Recorded (Team × Member) ω))).block := ⟨rfl, initialized, sound, rfl⟩
  have run : Ends (loop construct warp mask (logged body)) (s.withLog []) _ _ :=
    ends_rounds gathered maxGroupWidth (LaneMask.lanes_ne_nil occupied) (LaneMask.length_lanes_le _)
      (congrArg LaneMask.lanes (LaneMask.remainingFrom_zero _)) outlined
      (Nat.le_of_eq Array.size_replicate.symm) standing
  have plain := forgets_rounds construct warp mask body maxGroupWidth 0
    (Array.replicate warp.width {}) 0 (s.withLog [])
  rw [Hosted.forget_withLog] at plain
  have both : Ends (loop construct warp mask (logged body)) (s.withLog []) _ _ := run.and plain
  unfold calls at neutral ⊢
  unfold Ends at both
  split at both
  · next total t heq =>
    rw [heq] at neutral ⊢
    obtain ⟨done, ran⟩ := both
    obtain ⟨count, outlined', log⟩ := done neutral
    rw [Nat.zero_add, ← LaneMask.count_eq_length] at count
    refine .inl ⟨t.forget, count ▸ ran, ?_, restored_of_outlined rfl gathered outlined'⟩
    refine log.trans ?_
    refine List.flatMap_congr fun source _ => ?_
    rw [LaneMask.filter_rankOf_lt]
    rfl
  · next failure t heq =>
    rw [heq] at neutral
    obtain ⟨stopped, ran⟩ := both
    obtain ⟨rfl, full⟩ := stopped neutral
    exact .inr ⟨t.forget, ran, full⟩

/-- Two SPMD lanes, of which the first hints at two lanes and the second at one. -/
def hintedPair (construct : Construct) : Block where
  arch := .volta
  layout := ⟨2, 32, .spmd⟩
  initialized := true
  state :=
    ((BlockState.spmd 2 (.initial 0)).modifyThread 0 (construct.withHint 2)).modifyThread 1
      (construct.withHint 1)

/-- A body that writes down whom it is called for. -/
def noteVisit (team : Team) (member : Member) : RegionM (List (Nat × Nat)) Unit :=
  Hosted.onHost (modify (· ++ [(team.source, member.lane)]))

/-- The loop of the two lanes forms a team of both and a team of the first one. -/
def VisitsPair (construct : Construct) : Prop :=
  ∃ t, loop construct ⟨0, 32⟩ ⟨3⟩ noteVisit ⟨hintedPair construct, []⟩ = .ok 2 t ∧
    (calls construct ⟨0, 32⟩ ⟨3⟩ noteVisit ⟨hintedPair construct, []⟩).map
      (fun call => (call.tag.1.source, call.tag.2.lane)) = [(0, 0), (0, 1), (1, 0)] ∧
    Restored construct (activity ⟨0, 32⟩ ⟨3⟩) id (hintedPair construct) t.block

theorem loop_restores_hintedPair : VisitsPair .simd ∧ VisitsPair .parallel := by
  have lanes : (activity ⟨0, 32⟩ ⟨3⟩).lanes = [0, 1] := by decide +kernel
  have gathered : Gathered ⟨0, 32⟩ (activity ⟨0, 32⟩ ⟨3⟩).lanes ⟨2, 32, .spmd⟩ id id := by
    rw [lanes]
    exact ⟨by decide, by decide, by decide, fun _ _ _ _ same => same⟩
  have occupied : (activity ⟨0, 32⟩ ⟨3⟩).isEmpty = false := by decide +kernel
  have both (construct : Construct) : VisitsPair construct := by
    have standing : ∀ lane ∈ (activity ⟨0, 32⟩ ⟨3⟩).lanes, ∃ frame,
        ((hintedPair construct).state.thread (id lane)).top = some frame ∧
          (hintedPair construct).state.arena.isLive frame = true := by
      rw [lanes]
      refine List.forall_mem_cons.2 ⟨⟨BlockState.homeId 0, ?_⟩, ?_⟩
      · cases construct <;> decide +kernel
      · refine List.forall_mem_singleton.2 ⟨BlockState.homeId 1, ?_⟩
        cases construct <;> decide +kernel
    have neutral : ∀ call ∈ calls construct ⟨0, 32⟩ ⟨3⟩ noteVisit ⟨hintedPair construct, []⟩,
        call.Neutral := by
      refine neutral_of_body (fun team member start => ?_) _
      exact ⟨⟨start.block, start.host ++ [(team.source, member.lane)]⟩, rfl, rfl, rfl, rfl, id⟩
    have returns : (loop construct ⟨0, 32⟩ ⟨3⟩ noteVisit ⟨hintedPair construct, []⟩ matches
        .ok _ _) = true := by
      cases construct <;> decide +kernel
    obtain ⟨t, run, visits, restored⟩ | ⟨t, stopped, -⟩ :=
      loop_restores construct noteVisit rfl BlockState.sound_spmd occupied gathered standing neutral
    · refine ⟨t, run, visits.trans ?_, restored⟩
      cases construct <;> decide +kernel
    · rw [stopped] at returns
      cases returns
  exact ⟨both .simd, both .parallel⟩

end Convergent

end RegionDispatch
