import RegionDispatch.Convergent.Loop
import RegionDispatch.Proofs.Convergent.Seats
import RegionDispatch.Proofs.LaneMask

/-! # One convergent team

The lanes of the activity mask are *gathered*: they lie in the block and belong to different
threads. The next team then forms around the lowest lane left, seats the lanes of rank below its
size, and the lanes that leave it give everything back but the hint that the source has used up.

* **`Convergent.Gathered`** — the lanes, their hardware lanes and their threads.
* `Convergent.ends_enter` — the team that forms, and who is seated.
* `Convergent.exits_eq_ok` — what is left once all of them have gone. -/

namespace RegionDispatch

open Dispatch

namespace Convergent

/-- The lanes of the mask that the warp has. -/
def activity (warp : Warp) (mask : LaneMask) : LaneMask := mask.inter (LaneMask.full warp.width)

/-- The lanes lie in the block, on the hardware lanes `hwOf`, and belong to the threads `tidOf`. -/
structure Placed (warp : Warp) (lanes : List Nat) (layout : BlockLayout) (hwOf tidOf : Nat → Nat) :
    Prop where
  hwLane : ∀ lane ∈ lanes, warp.hwLane lane = .ok (hwOf lane)
  inside : ∀ lane ∈ lanes, hwOf lane < layout.size
  owner : ∀ lane ∈ lanes, layout.threadOf (hwOf lane) = .ok (tidOf lane)

/-- The lanes lie in the block, on the hardware lanes `hwOf`, and belong to different threads
`tidOf`. -/
structure Gathered (warp : Warp) (lanes : List Nat) (layout : BlockLayout)
  (hwOf tidOf : Nat → Nat) :
    Prop where
  hwLane : ∀ lane ∈ lanes, warp.hwLane lane = .ok (hwOf lane)
  inside : ∀ lane ∈ lanes, hwOf lane < layout.size
  owner : ∀ lane ∈ lanes, layout.threadOf (hwOf lane) = .ok (tidOf lane)
  distinct : ∀ lane ∈ lanes, ∀ other ∈ lanes, tidOf lane = tidOf other → lane = other

theorem Gathered.placed {warp : Warp} {lanes : List Nat} {layout : BlockLayout}
    {hwOf tidOf : Nat → Nat} (gathered : Gathered warp lanes layout hwOf tidOf) :
    Placed warp lanes layout hwOf tidOf :=
  ⟨gathered.hwLane, gathered.inside, gathered.owner⟩

/-- The lanes after a lane have other threads than it. -/
theorem Gathered.apart {warp : Warp} {lanes rest : List Nat} {layout : BlockLayout}
    {hwOf tidOf : Nat → Nat} {lane other : Nat} (gathered : Gathered warp lanes layout hwOf tidOf)
    (among : ∀ other ∈ lane :: rest, other ∈ lanes) (nodup : (lane :: rest).Nodup)
    (later : other ∈ rest) : tidOf other ≠ tidOf lane := by
  intro same
  have again := gathered.distinct other (among other (List.mem_cons_of_mem lane later)) lane
    (among lane List.mem_cons_self) same
  exact (List.nodup_cons.1 nodup).1 (again ▸ later)

/-- The seat of a lane of the mask. -/
def seatFor (construct : Construct) (hwOf tidOf : Nat → Nat) (outline : Outline) (lane : Nat) :
    Seat :=
  { lane, hwLane := hwOf lane, thread := tidOf lane, hint := outline.hints construct (tidOf lane) }

/-- A lane of the mask in a team of `size` lanes. -/
def memberFor (mask : LaneMask) (hwOf : Nat → Nat) (size lane : Nat) : Member :=
  { lane, hwLane := hwOf lane, rank := mask.rankOf lane, active := mask.rankOf lane < size }

/-- How many lanes the team of a source gets. -/
def share (construct : Construct) (mask : LaneMask) (tidOf : Nat → Nat) (outline : Outline)
    (source : Nat) : Nat :=
  teamSize mask.count (outline.hints construct (tidOf source))

/-- The team of a source, when the lanes `rest` are left after it. -/
def teamFor (construct : Construct) (mask : LaneMask) (hwOf tidOf : Nat → Nat) (outline : Outline)
    (source : Nat) (rest : List Nat) : Team where
  source
  isFinal := rest.length = 0
  size := share construct mask tidOf outline source
  members := mask.lanes.map (memberFor mask hwOf (share construct mask tidOf outline source))

variable {construct : Construct} {warp : Warp} {mask : LaneMask} {layout : BlockLayout}
  {hwOf tidOf : Nat → Nat} {outline base target : Outline} {entry : Entry} {block : Block}
  {lanes rest : List Nat} {source size : Nat}

/-- The active lanes are those of the lowest ranks. -/
theorem active_teamFor :
    (teamFor construct mask hwOf tidOf outline source rest).active =
      (mask.lanes.take (share construct mask tidOf outline source)).map
        (memberFor mask hwOf (share construct mask tidOf outline source)) := by
  rw [Team.active, teamFor, List.filter_map, ← LaneMask.filter_rankOf_lt]
  rfl

/-! ## Forming -/

/-- Every lane publishes its hint. -/
theorem seats_eq_ok (construct : Construct) (placed : Placed warp lanes layout hwOf tidOf)
    (outlined : Block.Outlined layout outline block) :
    ∀ some : List Nat, (∀ lane ∈ some, lane ∈ lanes) →
      seats construct warp some block =
        .ok (some.map (seatFor construct hwOf tidOf outline)) block := by
  intro some
  induction some with
  | nil => exact fun _ => rfl
  | cons lane some ih =>
    intro among
    have member := among lane List.mem_cons_self
    have inside := placed.inside lane member
    have owner := placed.owner lane member
    rw [← outlined.layout] at inside owner
    have first : seat construct warp lane block =
        .ok (seatFor construct hwOf tidOf outline lane) block := by
      refine eq_ok_of_ends ?_
      simp [seat, placed.hwLane lane member, ends_of_ok (Block.threadOf_of_lt inside owner),
        seatFor, outlined.hint]
    have later := ih fun other member => among other (List.mem_cons_of_mem lane member)
    rw [seats, bind_of_ok first, bind_of_ok later]
    rfl

theorem find?_seatFor (member : source ∈ lanes) :
    (lanes.map (seatFor construct hwOf tidOf outline)).find? (decide <| ·.lane = source) =
      some (seatFor construct hwOf tidOf outline source) := by
  rw [List.find?_map]
  have found : lanes.find? (fun lane => decide (lane = source)) = some source := by
    induction lanes with
    | nil => cases member
    | cons lane lanes ih =>
      by_cases same : lane = source
      · rw [List.find?_cons_of_pos (by simpa using same), same]
      · rw [List.find?_cons_of_neg (by simpa using same)]
        exact ih ((List.mem_cons.1 member).resolve_left (Ne.symm same))
  exact congrArg (Option.map _) found

/-- **The next team** forms around the lowest lane left, whose hint is used up. Only a full counter
halts it. -/
theorem ends_formTeam (placed : Placed warp (activity warp mask).lanes layout hwOf tidOf)
    (left : ((activity warp mask).remainingFrom entry.cursor).lanes = source :: rest)
    (outlined : Block.Outlined layout outline entry.block) {id : FrameId}
    (standing : outline.tops (tidOf source) = some id) :
    Ends (formTeam construct warp mask) entry
      (fun formation after =>
        formation = ⟨teamFor construct (activity warp mask) hwOf tidOf outline source rest,
          (activity warp mask).lanes.map (seatFor construct hwOf tidOf outline), tidOf source⟩ ∧
        after.cursor = source + 1 ∧ after.jobs = entry.jobs ∧
        Block.Outlined layout (outline.setHint construct (tidOf source) 0) after.block ∧
        after.block.counters = { entry.block.counters with
          convergentTeams := entry.block.counters.convergentTeams + 1 })
      fun failure after => failure = .halted .addOverflow ∧
        after.block.counters = entry.block.counters ∧
        UInt32.size ≤ entry.block.counters.convergentTeams + 1 := by
  have member : source ∈ (activity warp mask).lanes :=
    LaneMask.mem_of_mem_remainingFrom (left ▸ List.mem_cons_self)
  have lowest : ((activity warp mask).remainingFrom entry.cursor).lowestFrom 0 = some source := by
    rw [LaneMask.lowestFrom_zero, left]
    rfl
  have count : ((activity warp mask).remainingFrom entry.cursor).count = rest.length + 1 := by
    rw [LaneMask.count_eq_length, left]
    rfl
  have all := seats_eq_ok construct placed outlined _ fun _ member => member
  have named : mask.inter (LaneMask.full warp.width) = activity warp mask := rfl
  rw [formTeam, ends_bind, ends_get, ends_bind, ends_refuseIf]
  refine ⟨fun bare => ?_, fun _ => ?_⟩
  · rw [outlined.initialized] at bare
    cases bare
  simp only [named, lowest, count]
  rw [ends_bind, onBlock, ends_zoom, ends_of_ok all]
  rw [find?_seatFor member]
  simp only [ends_bind, onBlock, ends_zoom, Block.onState, ends_modify, Block.tally, ends_get,
    ends_checked, ends_pure]
  have consumed := outlined.withHint construct 0 standing
  refine ⟨fun counters counted => ⟨?_, trivial, trivial, consumed.withCounters counters,
    eq_of_map_checkedAdd counted⟩, fun fault full => ?_⟩
  · have final : decide (rest.length + 1 = 1) = decide (rest.length = 0) :=
      decide_eq_decide.2 (by omega)
    rw [final, List.map_map]
    rfl
  · obtain ⟨filled, rfl⟩ := map_checkedAdd_eq_error.1 full
    exact ⟨rfl, trivial, filled⟩

/-- How the active lanes join: on the source's own frame, or on one derived from it. -/
theorem joiner_eq_ok (construct : Construct) (formation : Formation)
    (outlined : Block.Outlined layout outline entry.block) {id : FrameId}
    (standing : outline.tops formation.sourceThread = some id) (live : outline.live id = true) :
    ∃ join : Seat → Member → Dispatch Entry Unit,
      joiner construct formation entry = .ok join entry ∧ Joins construct layout join := by
  have top : entry.block.state.top formation.sourceThread = .ok id :=
    BlockState.top_eq_ok.2 ((outlined.top _).trans standing)
  obtain ⟨frame, hframe⟩ := FrameArena.isLive_iff.1 ((outlined.live id).trans live)
  have frame' : entry.block.state.frame id = .ok frame := BlockState.frame_eq_ok.2 hframe
  cases construct with
  | simd =>
    refine ⟨_, ?_, joins_simd id⟩
    refine eq_ok_of_ends ?_
    simp [joiner, top]
  | parallel =>
    refine ⟨_, ?_, joins_parallel id frame formation.team.size⟩
    refine eq_ok_of_ends ?_
    simp [joiner, top, frame']

/-! ## Entering -/

/-- The lanes `lanes` are seated in the team of a source: the outline is `current`, and it was
`outline` when the team formed. -/
structure Assembled (construct : Construct) (tidOf : Nat → Nat) (source : Nat) (lanes : List Nat)
    (outline : Outline) (jobs : Array Job) (current : Outline) : Prop where
  hints : current.hints = (outline.setHint construct (tidOf source) 0).hints
  seated : Outline.Seated tidOf (fun lane => jobs.getD lane {}) (· ∈ lanes) outline current
  /-- The jobs hold the hints that the lanes held when the team formed. -/
  held : ∀ lane ∈ lanes, (jobs.getD lane {}).hint = outline.hints construct (tidOf lane)
  /-- Nothing is pushed for a simd construct. -/
  shared : ∀ lane ∈ lanes, construct = .simd → (jobs.getD lane {}).pushed = none

theorem lt_width_of_mem {lane : Nat} (member : lane ∈ (activity warp mask).lanes) :
    lane < warp.width := by
  rw [LaneMask.mem_lanes, activity, LaneMask.contains_inter, LaneMask.contains_full,
    Bool.and_eq_true, Bool.and_eq_true, decide_eq_true_eq] at member
  exact member.2.1

/-- **Entering** seats the team of the lowest lane left. -/
theorem ends_enter (gathered : Gathered warp (activity warp mask).lanes layout hwOf tidOf)
    (left : ((activity warp mask).remainingFrom entry.cursor).lanes = source :: rest)
    (outlined : Block.Outlined layout outline entry.block) (covered : warp.width ≤ entry.jobs.size)
    (standing : ∀ lane ∈ (activity warp mask).lanes,
      ∃ id, outline.tops (tidOf lane) = some id ∧ outline.live id = true) :
    Ends (enter construct warp mask) entry
      (fun team after =>
        team = teamFor construct (activity warp mask) hwOf tidOf outline source rest ∧
        after.cursor = source + 1 ∧ after.jobs.size = entry.jobs.size ∧
        ∃ current, Block.Outlined layout current after.block ∧
          Assembled construct tidOf source
            ((activity warp mask).lanes.take
              (share construct (activity warp mask) tidOf outline source))
            outline after.jobs current)
      fun failure after => failure = .halted .addOverflow ∧
        UInt32.size ≤ after.block.counters.convergentTeams + 1 := by
  have member : source ∈ (activity warp mask).lanes :=
    LaneMask.mem_of_mem_remainingFrom (left ▸ List.mem_cons_self)
  obtain ⟨id, hid, hlive⟩ := standing source member
  rw [enter, ends_bind, ends_get, ends_bind, ends_refuseIf]
  refine ⟨fun short => absurd short (Nat.not_lt.2 covered), fun _ => ?_⟩
  rw [ends_bind]
  refine (ends_formTeam gathered.placed left outlined hid).mono ?_ fun _ _ stopped =>
    ⟨stopped.1, stopped.2.1 ▸ stopped.2.2⟩
  rintro _ mid ⟨rfl, cursor, jobs, consumed, -⟩
  obtain ⟨join, joined, joins⟩ := joiner_eq_ok construct
    ⟨teamFor construct (activity warp mask) hwOf tidOf outline source rest,
      (activity warp mask).lanes.map (seatFor construct hwOf tidOf outline), tidOf source⟩
    consumed hid hlive
  rw [ends_bind, ends_of_ok joined, teamFor, List.zip_map']
  have hlane (lane : Nat) : (seatFor construct hwOf tidOf outline lane).lane = lane := rfl
  have hthread (lane : Nat) : (seatFor construct hwOf tidOf outline lane).thread = tidOf lane := rfl
  have apart (lane : Nat) (member : lane ∈ (activity warp mask).lanes) (other : Nat)
      (among : False ∨ other ∈ (activity warp mask).lanes) (same : tidOf other = tidOf lane) :
      other = lane :=
    gathered.distinct other (among.resolve_left not_false) lane member same
  have inside (lane : Nat) (member : lane ∈ (activity warp mask).lanes) : lane < mid.jobs.size :=
    jobs ▸ Nat.lt_of_lt_of_le (lt_width_of_mem member) covered
  -- all lanes of the mask take a seat, but only those of the team stay seated
  obtain ⟨after, current, run, kept, written, outlined', hints, seated⟩ :=
    takeSeats_eq_ok joins warp.width
      (memberFor (activity warp mask) hwOf
        (share construct (activity warp mask) tidOf outline source))
      hlane hthread (activity warp mask).lanes consumed
      (Outline.Seated.none _) (LaneMask.nodup_lanes _) (fun _ _ nobody => nobody) apart inside
      (fun lane member => (standing lane member).imp fun _ both => both.1)
  rw [ends_bind, ends_of_ok run, ends_pure]
  have team (lane : Nat) : lane ∈ (activity warp mask).lanes.take
      (share construct (activity warp mask) tidOf outline source) ↔
      lane ∈ (activity warp mask).lanes ∧ (memberFor (activity warp mask) hwOf
        (share construct (activity warp mask) tidOf outline source) lane).active = true := by
    rw [← LaneMask.filter_rankOf_lt, List.mem_filter]
    rfl
  refine ⟨rfl, kept.cursor.trans cursor, kept.size.trans (congrArg Array.size jobs), current,
    outlined', hints, ?_, fun lane member => (written lane ((team lane).1 member).1).1,
    fun lane member => (written lane ((team lane).1 member).1).2⟩
  have same (lane : Nat) : False ∨ lane ∈ (activity warp mask).lanes ∧
      (memberFor (activity warp mask) hwOf
        (share construct (activity warp mask) tidOf outline source) lane).active = true ↔
      lane ∈ (activity warp mask).lanes.take
        (share construct (activity warp mask) tidOf outline source) := by
    rw [false_or, team]
  rw [funext fun lane => propext (same lane)] at seated
  exact ⟨seated.tops, seated.standing, seated.live, seated.saved, seated.fresh⟩

/-! ## Leaving -/

/-- The tops and frames of the base, with the hints that `held` says for the threads of the team and
those of `current` for all others. -/
def handedBack (construct : Construct) (tidOf held : Nat → Nat) (base current : Outline)
    (team : List Nat) : Outline :=
  { base with
    hints := fun kind tid =>
      if kind = construct ∧ ∃ lane ∈ team, tidOf lane = tid then held tid
      else current.hints kind tid }

/-- With nobody seated, all is handed back. -/
theorem handedBack_nil {jobOf : Nat → Job} {held : Nat → Nat} {current : Outline}
    (seated : Outline.Seated tidOf jobOf (· ∈ ([] : List Nat)) base current) :
    handedBack construct tidOf held base current [] = current := by
  have nobody : ∀ lane : Nat, lane ∉ ([] : List Nat) := fun _ => List.not_mem_nil
  refine Outline.ext (seated.tops_eq nobody).symm ?_ (seated.live_eq nobody).symm
  funext kind tid
  refine if_neg ?_
  rintro ⟨-, lane, member, -⟩
  exact nobody lane member

/-- A lane that leaves gives its thread the hint of its job; the lanes after it do not change it. -/
theorem handedBack_cons {held : Nat → Nat} {current : Outline} {lane : Nat} {team : List Nat}
    {top : FrameId} (pushed : Option FrameId) :
    handedBack construct tidOf held base
        (((current.setHint construct (tidOf lane) (held (tidOf lane))).setTop
          (tidOf lane) top).removes pushed) team =
      handedBack construct tidOf held base current (lane :: team) := by
  refine Outline.ext rfl (funext fun kind => funext fun tid => ?_) rfl
  simp only [handedBack, Outline.hints_removes]
  show (if kind = construct ∧ ∃ other ∈ team, tidOf other = tid then held tid
    else if kind = construct ∧ tid = tidOf lane then held (tidOf lane)
    else current.hints kind tid) = _
  by_cases own : kind = construct
  · by_cases later : ∃ other ∈ team, tidOf other = tid
    · simp [own, later]
    · by_cases now : tid = tidOf lane
      · simp [own, now]
      · simp [own, later, now, Ne.symm now]
  · simp [own]

/-- **When all have left**, tops and frames are those of the base, and the threads of the team hold
the hints of their jobs. -/
theorem exits_eq_ok (gathered : Gathered warp lanes layout hwOf tidOf) {jobs : Array Job}
    {held : Nat → Nat} (memberOf : Nat → Member)
    (member_lane : ∀ lane, (memberOf lane).lane = lane ∧ (memberOf lane).hwLane = hwOf lane)
    (team : List Nat) :
    ∀ {block : Block} {current : Outline}, team.Nodup → (∀ lane ∈ team, lane ∈ lanes) →
      Block.Outlined layout current block →
      Outline.Seated tidOf (fun lane => jobs.getD lane {}) (· ∈ team) base current →
      (∀ lane ∈ team, (jobs.getD lane {}).hint = held (tidOf lane)) →
      (∀ lane ∈ team, construct = .simd → (jobs.getD lane {}).pushed = none) →
      ∃ after,
        (team.map memberOf).forM
            (fun member => exit construct member.hwLane (jobs.getD member.lane {})) block =
          .ok () after ∧
        Block.Outlined layout (handedBack construct tidOf held base current team) after := by
  -- by induction on the lanes still seated
  induction team with
  | nil =>
    intro block current _ _ outlined seated _ _
    refine ⟨block, rfl, ?_⟩
    rwa [handedBack_nil seated]
  | cons lane team ih =>
    intro block current nodup among outlined seated hints shared
    have mine : lane ∈ lane :: team := List.mem_cons_self
    have member := among lane mine
    obtain ⟨saved, -, hsaved⟩ := seated.saved lane mine
    obtain ⟨top, standing⟩ := seated.standing lane mine
    obtain ⟨mid, left, outlined'⟩ := exit_eq_ok (gathered.inside lane member)
      (gathered.owner lane member) outlined standing hsaved (shared lane mine)
    have apart (other : Nat) (later : other ∈ team) : tidOf other ≠ tidOf lane :=
      gathered.apart among nodup later
    have seated' := (seated.setHint construct (tidOf lane) (jobs.getD lane {}).hint).leave
      (fun other => List.mem_cons) apart hsaved rfl
    obtain ⟨after, run, final⟩ := ih (List.nodup_cons.1 nodup).2
      (fun other later => among other (List.mem_cons_of_mem lane later)) outlined' seated'
      (fun other later => hints other (List.mem_cons_of_mem lane later))
      (fun other later => shared other (List.mem_cons_of_mem lane later))
    rw [hints lane mine, handedBack_cons] at final
    have left' : exit construct (memberOf lane).hwLane (jobs.getD (memberOf lane).lane {}) block =
        .ok () mid := by
      rw [(member_lane lane).1, (member_lane lane).2]
      exact left
    exact ⟨after, (bind_of_ok left' _).trans run, final⟩

/-! ## What a team leaves behind -/

/-- After its team, a source has used up a hint that is no greater than its rank: it was not in its
own team, so nobody gave the hint back. -/
def settle (construct : Construct) (mask : LaneMask) (tidOf : Nat → Nat) (outline : Outline)
    (source : Nat) : Outline :=
  if outline.hints construct (tidOf source) ≤ mask.rankOf source then
    outline.setHint construct (tidOf source) 0
  else outline

@[simp] theorem tops_settle : (settle construct mask tidOf outline source).tops = outline.tops := by
  unfold settle
  split <;> rfl

@[simp] theorem live_settle : (settle construct mask tidOf outline source).live = outline.live := by
  unfold settle
  split <;> rfl

/-- Only the hint of the source can change. -/
theorem hints_settle_of_ne {kind : Construct} {tid : Nat}
    (ne : kind ≠ construct ∨ tid ≠ tidOf source) :
    (settle construct mask tidOf outline source).hints kind tid = outline.hints kind tid := by
  unfold settle
  split
  · refine if_neg ?_
    rintro ⟨rfl, rfl⟩
    rcases ne with ne | ne <;> exact ne rfl
  · rfl

theorem hints_settle_self :
    (settle construct mask tidOf outline source).hints construct (tidOf source) =
      if outline.hints construct (tidOf source) ≤ mask.rankOf source then 0
      else outline.hints construct (tidOf source) := by
  unfold settle
  split
  · exact if_pos ⟨rfl, rfl⟩
  · rfl

theorem tops_foldl_settle (sources : List Nat) (outline : Outline) :
    (sources.foldl (settle construct mask tidOf) outline).tops = outline.tops := by
  induction sources generalizing outline with
  | nil => rfl
  | cons source sources ih => exact (ih _).trans tops_settle

theorem live_foldl_settle (sources : List Nat) (outline : Outline) :
    (sources.foldl (settle construct mask tidOf) outline).live = outline.live := by
  induction sources generalizing outline with
  | nil => rfl
  | cons source sources ih => exact (ih _).trans live_settle

/-- Only the hints of the sources can change. -/
theorem hints_foldl_settle_of_ne {kind : Construct} {tid : Nat} (sources : List Nat)
    (outline : Outline)
    (ne : kind ≠ construct ∨ ∀ source ∈ sources, tidOf source ≠ tid) :
    (sources.foldl (settle construct mask tidOf) outline).hints kind tid =
      outline.hints kind tid := by
  induction sources generalizing outline with
  | nil => rfl
  | cons source sources ih =>
    have ne' := ne.imp_right fun others other member =>
      others other (List.mem_cons_of_mem source member)
    have ne₁ := ne.imp_right fun others => (others source List.mem_cons_self).symm
    exact (ih _ ne').trans (hints_settle_of_ne ne₁)

/-- Every source settles its own hint. -/
theorem hints_foldl_settle (gathered : Gathered warp mask.lanes layout hwOf tidOf)
    {sources : List Nat} (among : ∀ source ∈ sources, source ∈ mask.lanes) (nodup : sources.Nodup)
    (member : source ∈ sources) (outline : Outline) :
    (sources.foldl (settle construct mask tidOf) outline).hints construct (tidOf source) =
      if outline.hints construct (tidOf source) ≤ mask.rankOf source then 0
      else outline.hints construct (tidOf source) := by
  induction sources generalizing outline with
  | nil => cases member
  | cons first sources ih =>
    have later (other : Nat) (member : other ∈ sources) : tidOf other ≠ tidOf first :=
      gathered.apart among nodup member
    rcases List.mem_cons.1 member with rfl | member
    · exact (hints_foldl_settle_of_ne sources _ (.inr later)).trans hints_settle_self
    · refine (ih (fun other member => among other (List.mem_cons_of_mem first member))
        (List.nodup_cons.1 nodup).2 member _).trans ?_
      rw [hints_settle_of_ne (.inr (later source member))]

/-- A source is in its own team if it has no hint or one greater than its rank. -/
theorem rankOf_lt_share (member : source ∈ mask.lanes) :
    mask.rankOf source < share construct mask tidOf outline source ↔
      outline.hints construct (tidOf source) = 0 ∨
        mask.rankOf source < outline.hints construct (tidOf source) := by
  have bound := LaneMask.rankOf_lt_count member
  rw [share, teamSize]
  split <;> omega

/-- **The members give back what they saved**, and that settles the outline. -/
theorem settle_eq (gathered : Gathered warp mask.lanes layout hwOf tidOf)
    (member : source ∈ mask.lanes)
    {current : Outline}
    (hints : current.hints = (outline.setHint construct (tidOf source) 0).hints) :
    handedBack construct tidOf (outline.hints construct) outline current
        (mask.lanes.take (share construct mask tidOf outline source)) =
      settle construct mask tidOf outline source := by
  have tops : outline.tops = (settle construct mask tidOf outline source).tops := tops_settle.symm
  have live : outline.live = (settle construct mask tidOf outline source).live := live_settle.symm
  refine Outline.ext tops (funext fun kind => funext fun tid => ?_) live
  simp only [handedBack, hints]
  by_cases own : kind = construct
  swap
  · rw [hints_settle_of_ne (.inl own)]
    simp [own, Outline.setHint]
  subst own
  by_cases same : tid = tidOf source
  · -- the source itself is a member exactly if it has no hint or one greater than its rank
    subst same
    have inTeam : (∃ lane ∈ mask.lanes.take (share kind mask tidOf outline source),
        tidOf lane = tidOf source) ↔ outline.hints kind (tidOf source) = 0 ∨
          mask.rankOf source < outline.hints kind (tidOf source) := by
      rw [← rankOf_lt_share member, ← LaneMask.mem_take_lanes member]
      constructor
      · rintro ⟨lane, among, same⟩
        exact gathered.distinct lane (List.mem_of_mem_take among) source member same ▸ among
      · exact fun among => ⟨source, among, rfl⟩
    rw [hints_settle_self]
    simp only [inTeam, true_and, Outline.setHint, if_true, and_self]
    split
    · split <;> omega
    · split <;> omega
  · rw [hints_settle_of_ne (.inr same)]
    simp [same, Outline.setHint]

end Convergent

end RegionDispatch
