import RegionDispatch.Convergent.Region
import RegionDispatch.Proofs.Block.Serial
import RegionDispatch.Proofs.Convergent.Outline

/-! # Taking and leaving seats

A convergent team seats its active lanes one after the other and lets them go the same way. In
between, the block differs from what it was before the team came together (the *base*) only in what
the jobs of the lanes that are seated say: the tops of their threads and the frames pushed for them.

* **`Outline.Seated`** — that difference, for any set of seated lanes. `Seated.take` seats one more
  lane, `Seated.leave` lets one go, and `Seated.tops_eq`, `Seated.live_eq` say that with nobody
  seated there is none.
* `Convergent.takeSeats_eq_ok` — what seating a list of lanes does.
* `Convergent.exit_eq_ok` — what it does that one lane leaves. -/

namespace RegionDispatch

open Dispatch

namespace Outline

variable {tidOf : Nat → Nat} {jobOf jobOf' : Nat → Job} {seated : Nat → Prop}
  {base outline : Outline} {lane : Nat} {old : FrameId} {pushed : Option FrameId}

/-- **The outline while lanes are seated**, compared with the base. -/
structure Seated (tidOf : Nat → Nat) (jobOf : Nat → Job) (seated : Nat → Prop)
    (base outline : Outline) : Prop where
  tops : ∀ tid, (∀ lane, seated lane → tidOf lane ≠ tid) → outline.tops tid = base.tops tid
  standing : ∀ lane, seated lane → ∃ id, outline.tops (tidOf lane) = some id
  live : ∀ id, outline.live id = true ↔
    base.live id = true ∨ ∃ lane, seated lane ∧ (jobOf lane).pushed = some id
  saved : ∀ lane, seated lane → ∃ id, base.tops (tidOf lane) = some id ∧
    (jobOf lane).savedTop = some id
  /-- What was pushed for a lane is stored where nothing was before, and for no other lane. -/
  fresh : ∀ lane, seated lane → ∀ id, (jobOf lane).pushed = some id → base.live id = false ∧
    ∀ other, seated other → (jobOf other).pushed = some id → other = lane

namespace Seated

theorem none (outline : Outline) : Seated tidOf jobOf (fun _ => False) outline outline where
  tops _ _ := rfl
  standing _ nobody := nobody.elim
  live _ := ⟨.inl, fun h => h.elim (fun live => live) fun ⟨_, nobody, _⟩ => nobody.elim⟩
  saved _ nobody := nobody.elim
  fresh _ nobody := nobody.elim

variable (h : Seated tidOf jobOf seated base outline)

include h

/-- Only the jobs of the seated lanes matter. -/
theorem congr (same : ∀ lane, seated lane → jobOf' lane = jobOf lane) :
    Seated tidOf jobOf' seated base outline where
  tops := h.tops
  standing := h.standing
  live id := by
    rw [h.live]
    refine or_congr_right (exists_congr fun lane => and_congr_right fun member => ?_)
    rw [same lane member]
  saved lane member := by
    rw [same lane member]
    exact h.saved lane member
  fresh lane member id pushed := by
    rw [same lane member] at pushed
    refine ⟨(h.fresh lane member id pushed).1, fun other member' pushed' => ?_⟩
    rw [same other member'] at pushed'
    exact (h.fresh lane member id pushed).2 other member' pushed'

/-- Hints are no part of the comparison. -/
theorem setHint (construct : Construct) (tid n : Nat) :
    Seated tidOf jobOf seated base (outline.setHint construct tid n) :=
  ⟨h.tops, h.standing, h.live, h.saved, h.fresh⟩

/-- With nobody seated the tops are those of the base. -/
theorem tops_eq (nobody : ∀ lane, ¬seated lane) : outline.tops = base.tops :=
  funext fun tid => h.tops tid fun lane member => absurd member (nobody lane)

/-- With nobody seated the live ids are those of the base. -/
theorem live_eq (nobody : ∀ lane, ¬seated lane) : outline.live = base.live := by
  funext id
  rw [Bool.eq_iff_iff, h.live]
  refine or_iff_left ?_
  rintro ⟨lane, member, -⟩
  exact nobody lane member

/-- **One more lane is seated.** -/
theorem take (top : FrameId) (apart : ∀ other, seated other → tidOf other ≠ tidOf lane)
    (standing : outline.tops (tidOf lane) = some old) (saved : (jobOf lane).savedTop = some old)
    (hpushed : (jobOf lane).pushed = pushed)
    (fresh : ∀ id, pushed = some id → outline.live id = false) :
    Seated tidOf jobOf (fun other => other = lane ∨ seated other) base
      ((outline.adds pushed).setTop (tidOf lane) top) where
  tops tid others := by
    have ne : tid ≠ tidOf lane := Ne.symm (others lane (.inl rfl))
    refine (Function.update_of_ne ne _ _).trans ?_
    rw [tops_adds]
    exact h.tops tid fun other member => others other (.inr member)
  standing other member := by
    rcases member with rfl | member
    · exact ⟨top, Function.update_self _ _ _⟩
    · obtain ⟨id, hid⟩ := h.standing other member
      refine ⟨id, (Function.update_of_ne (apart other member) _ _).trans ?_⟩
      rw [tops_adds, hid]
  live id := by
    refine (live_adds pushed).trans ?_
    rw [h.live]
    constructor
    · rintro ((live | ⟨other, member, stored⟩) | stored)
      · exact .inl live
      · exact .inr ⟨other, .inr member, stored⟩
      · exact .inr ⟨lane, .inl rfl, hpushed.trans stored⟩
    · rintro (live | ⟨other, rfl | member, stored⟩)
      · exact .inl (.inl live)
      · exact .inr (hpushed.symm.trans stored)
      · exact .inl (.inr ⟨other, member, stored⟩)
  saved other member := by
    rcases member with rfl | member
    · exact ⟨old, (h.tops _ apart).symm.trans standing, saved⟩
    · exact h.saved other member
  fresh other member id stored := by
    -- an id that was dead before is pushed for no lane seated before
    have new (id : FrameId) (stored : (jobOf lane).pushed = some id) :
        ¬(base.live id = true ∨ ∃ lane, seated lane ∧ (jobOf lane).pushed = some id) := by
      rw [← h.live, fresh id (hpushed.symm.trans stored)]
      exact Bool.false_ne_true
    rcases member with rfl | member
    · refine ⟨Bool.eq_false_of_not_eq_true fun live => new id stored (.inl live), ?_⟩
      rintro another (same | member) stored'
      · exact same
      · exact absurd (.inr ⟨another, member, stored'⟩) (new id stored)
    · refine ⟨(h.fresh other member id stored).1, ?_⟩
      rintro another (rfl | member') stored'
      · exact absurd (.inr ⟨other, member, stored⟩) (new id stored')
      · exact (h.fresh other member id stored).2 another member' stored'

/-- **A lane leaves**, with what it saved. -/
theorem leave {rest : Nat → Prop} (split : ∀ other, seated other ↔ other = lane ∨ rest other)
    (apart : ∀ other, rest other → tidOf other ≠ tidOf lane)
    (saved : (jobOf lane).savedTop = some old) (hpushed : (jobOf lane).pushed = pushed) :
    Seated tidOf jobOf rest base ((outline.setTop (tidOf lane) old).removes pushed) := by
  have mine : seated lane := (split lane).2 (.inl rfl)
  have theirs {other : Nat} (member : rest other) : seated other := (split other).2 (.inr member)
  refine ⟨fun tid others => ?_, fun other member => ?_, fun id => ?_,
    fun other member => h.saved other (theirs member), fun other member id stored => ?_⟩
  · rw [tops_removes]
    by_cases same : tid = tidOf lane
    · obtain ⟨id, hid, hsaved⟩ := h.saved lane mine
      rw [saved, Option.some.injEq] at hsaved
      rw [same, hid, ← hsaved]
      exact Function.update_self _ _ _
    · refine (Function.update_of_ne same _ _).trans (h.tops tid fun other member => ?_)
      rcases (split other).1 member with rfl | member
      · exact Ne.symm same
      · exact others other member
  · obtain ⟨id, hid⟩ := h.standing other (theirs member)
    rw [tops_removes]
    exact ⟨id, (Function.update_of_ne (apart other member) _ _).trans hid⟩
  · -- the frame pushed for the lane was stored for no one else, so only the lane gives it up
    refine (live_removes pushed).trans ((and_congr_left' (h.live id)).trans ?_)
    constructor
    · rintro ⟨live | ⟨other, member, stored⟩, kept⟩
      · exact .inl live
      · rcases (split other).1 member with rfl | member
        · exact absurd (hpushed.symm.trans stored) kept
        · exact .inr ⟨other, member, stored⟩
    · rintro (live | ⟨other, member, stored⟩)
      · refine ⟨.inl live, fun stored => ?_⟩
        have dead := (h.fresh lane mine id (hpushed.trans stored)).1
        rw [live] at dead
        cases dead
      · refine ⟨.inr ⟨other, theirs member, stored⟩, fun stored' => apart other member ?_⟩
        rw [(h.fresh lane mine id (hpushed.trans stored')).2 other (theirs member) stored]
  · refine ⟨(h.fresh other (theirs member) id stored).1, fun another member' stored' => ?_⟩
    exact (h.fresh other (theirs member) id stored).2 another (theirs member') stored'

end Seated

end Outline

namespace Convergent

variable {layout : BlockLayout} {entry before mid after : Entry} {lanes lanes' : Nat → Prop}
  {lane limit : Nat} {seat : Seat} {member : Member} {join : Seat → Member → Dispatch Entry Unit}
  {old : FrameId} {outline base : Outline} {construct : Construct}

/-- The job of a lane. -/
def Entry.jobOf (entry : Entry) (lane : Nat) : Job := entry.jobs.getD lane {}

/-- A change of the entry in which only the jobs of some lanes were written. -/
structure Kept (lanes : Nat → Prop) (before after : Entry) : Prop where
  cursor : after.cursor = before.cursor
  size : after.jobs.size = before.jobs.size
  others : ∀ lane, ¬lanes lane → after.jobOf lane = before.jobOf lane

theorem Kept.trans (first : Kept lanes before mid) (second : Kept lanes' mid after) :
    Kept (fun lane => lanes lane ∨ lanes' lane) before after where
  cursor := second.cursor.trans first.cursor
  size := second.size.trans first.size
  others lane neither :=
    (second.others lane fun h => neither (.inr h)).trans
      (first.others lane fun h => neither (.inl h))

theorem Kept.append (first : Kept lanes before mid) (second : Kept lanes mid after) :
    Kept lanes before after where
  cursor := second.cursor.trans first.cursor
  size := second.size.trans first.size
  others lane outside := (second.others lane outside).trans (first.others lane outside)

theorem Kept.cons {waiting : List Nat} (first : Kept (· = lane) before mid)
    (second : Kept (· ∈ waiting) mid after) : Kept (· ∈ lane :: waiting) before after := by
  have all := first.trans second
  exact ⟨all.cursor, all.size, fun other outside => all.others other (by simpa using outside)⟩

/-- An entry with one job changed. -/
def Entry.withJob (entry : Entry) (lane : Nat) (f : Job → Job) : Entry :=
  { entry with jobs := entry.jobs.modify lane f }

theorem modifyJob_eq_ok (lane : Nat) (f : Job → Job) (entry : Entry) :
    modifyJob lane f entry = .ok () (entry.withJob lane f) := rfl

theorem jobOf_withJob (f : Job → Job) (lane other : Nat) :
    (entry.withJob lane f).jobOf other =
      if lane = other ∧ lane < entry.jobs.size then f (entry.jobOf other)
      else entry.jobOf other := by
  simp only [Entry.withJob, Entry.jobOf, Array.getD_eq_getD_getElem?, Array.getElem?_modify]
  by_cases same : lane = other
  · subst same
    by_cases inside : lane < entry.jobs.size <;> simp [inside]
  · simp [same]

theorem jobOf_withJob_self (f : Job → Job) (inside : lane < entry.jobs.size) :
    (entry.withJob lane f).jobOf lane = f (entry.jobOf lane) := by
  simp only [Entry.withJob, Entry.jobOf, Array.getD_eq_getD_getElem?, Array.getElem?_modify,
    if_true, Array.getElem?_eq_getElem inside, Option.map_some, Option.getD_some]

theorem kept_withJob (entry : Entry) (lane : Nat) (f : Job → Job) :
    Kept (· = lane) entry (entry.withJob lane f) := by
  refine ⟨rfl, Array.size_modify, fun other ne => ?_⟩
  simp [Entry.withJob, Entry.jobOf, Array.getD_eq_getD_getElem?, Array.getElem?_modify, Ne.symm ne]

/-! ## Joining -/

/-- Joining moves the thread of a lane to another top, in a parallel construct to a frame stored for
it, which is written down in the lane's job. -/
def Joins (construct : Construct) (layout : BlockLayout)
    (join : Seat → Member → Dispatch Entry Unit) : Prop :=
  ∀ ⦃entry : Entry⦄ ⦃outline : Outline⦄ ⦃seat : Seat⦄ (member : Member) ⦃old : FrameId⦄,
    Block.Outlined layout outline entry.block → outline.tops seat.thread = some old →
    seat.lane < entry.jobs.size → (entry.jobOf seat.lane).pushed = none →
    ∃ after top pushed, join seat member entry = .ok () after ∧ Kept (· = seat.lane) entry after ∧
      after.jobOf seat.lane = { entry.jobOf seat.lane with pushed } ∧
      Block.Outlined layout ((outline.adds pushed).setTop seat.thread top) after.block ∧
      (∀ id, pushed = some id → outline.live id = false) ∧ (construct = .simd → pushed = none)

theorem joins_simd (top : FrameId) : Joins .simd layout fun seat _ => joinSimd top seat := by
  intro entry outline seat _ old outlined standing inside blank
  refine ⟨_, top, none, rfl, ⟨rfl, rfl, fun _ _ => rfl⟩, ?_, outlined.setTop standing top,
    ⟨fun id absent => ?_, fun _ => rfl⟩⟩
  · show entry.jobOf seat.lane = { entry.jobOf seat.lane with pushed := none }
    rw [← blank]
  · cases absent

theorem joins_parallel (top : FrameId) (frame : Frame) (size : Nat) :
    Joins .parallel layout (joinParallel top frame size) := by
  intro entry outline seat member old outlined standing inside blank
  have pushed := outlined.push standing (frame.convergent top member.rank size)
  have kept := kept_withJob entry seat.lane
    ({ · with pushed := some entry.block.state.arena.nextId })
  have id : (entry.block.state.push seat.thread (frame.convergent top member.rank size)).1 =
      entry.block.state.arena.nextId := BlockState.push_fst
  refine ⟨{ entry.withJob seat.lane ({ · with pushed := some entry.block.state.arena.nextId }) with
      block := { entry.block with
        state := (entry.block.state.push seat.thread
          (frame.convergent top member.rank size)).2 } }, _, some entry.block.state.arena.nextId,
    ?_, ⟨rfl, kept.size, kept.others⟩, jobOf_withJob_self _ inside, pushed, ?_,
    fun simd => nomatch simd⟩
  · rw [← id]
    rfl
  · rintro id ⟨rfl⟩
    exact outlined.live_nextId

/-! ## Seating -/

/-- A lane outside the team only writes down its hint. -/
theorem takeSeat_of_inactive (inside : seat.lane < entry.jobs.size)
    (inactive : member.active = false) :
    takeSeat limit join seat member entry =
      .ok () (entry.withJob seat.lane fun _ => { hint := seat.hint }) := by
  refine eq_ok_of_ends ?_
  simp [takeSeat, inactive, inside, modifyJob, Entry.withJob]

/-- A lane of the team saves its top and joins. -/
theorem takeSeat_of_active (inside : seat.lane < entry.jobs.size) (active : member.active = true)
    (htop : (entry.block.state.thread seat.thread).top = some old) :
    takeSeat limit join seat member entry =
      join seat member ((entry.withJob seat.lane fun _ => { hint := seat.hint }).withJob seat.lane
        ({ · with savedTop := some old })) := by
  have covered : (refuseIf (entry.jobs.size ≤ seat.lane) (.laneOutOfRange seat.lane limit) :
      Dispatch Entry Unit) entry = .ok () entry := by
    rw [refuseIf, if_neg (Nat.not_le.2 inside)]
    rfl
  have top : (granted
      ((entry.withJob seat.lane fun _ => { hint := seat.hint }).block.state.top seat.thread) :
      Dispatch Entry FrameId) (entry.withJob seat.lane fun _ => { hint := seat.hint }) =
        .ok old (entry.withJob seat.lane fun _ => { hint := seat.hint }) := by
    have found : (entry.withJob seat.lane fun _ => { hint := seat.hint }).block.state.top
        seat.thread = .ok old := BlockState.top_eq_ok.2 htop
    rw [found]
    rfl
  rw [takeSeat, get_bind, bind_of_ok covered, bind_of_ok (modifyJob_eq_ok _ _ _), if_pos active,
    get_bind, bind_of_ok top, bind_of_ok (modifyJob_eq_ok _ _ _)]

/-- **Seating one lane**: its job holds its hint, and if it is active its thread has moved. -/
theorem takeSeat_eq_ok (limit : Nat) (member : Member) (joins : Joins construct layout join)
    (outlined : Block.Outlined layout outline entry.block)
    (standing : outline.tops seat.thread = some old) (inside : seat.lane < entry.jobs.size) :
    ∃ after, takeSeat limit join seat member entry = .ok () after ∧
      Kept (· = seat.lane) entry after ∧ (after.jobOf seat.lane).hint = seat.hint ∧
      (construct = .simd → (after.jobOf seat.lane).pushed = none) ∧
      if member.active then
        ∃ top pushed, (after.jobOf seat.lane).savedTop = some old ∧
          (after.jobOf seat.lane).pushed = pushed ∧
          Block.Outlined layout ((outline.adds pushed).setTop seat.thread top) after.block ∧
          ∀ id, pushed = some id → outline.live id = false
      else Block.Outlined layout outline after.block := by
  have blank := jobOf_withJob_self (fun _ => { hint := seat.hint }) inside
  have kept := kept_withJob entry seat.lane fun _ => { hint := seat.hint }
  cases active : member.active with
  | false =>
    refine ⟨_, takeSeat_of_inactive inside active, kept, congrArg Job.hint blank,
      fun _ => congrArg Job.pushed blank, ?_⟩
    rw [if_neg Bool.false_ne_true]
    exact outlined
  | true =>
    have inside' :
      seat.lane < (entry.withJob seat.lane fun _ => { hint := seat.hint }).jobs.size := by
      rw [kept.size]
      exact inside
    have saved := jobOf_withJob_self ({ · with savedTop := some old }) inside'
    have kept' := kept_withJob (entry.withJob seat.lane fun _ => { hint := seat.hint }) seat.lane
      ({ · with savedTop := some old })
    rw [blank] at saved
    have unmoved : Block.Outlined layout outline
        ((entry.withJob seat.lane fun _ => { hint := seat.hint }).withJob seat.lane
          ({ · with savedTop := some old })).block := outlined
    obtain ⟨after, top, pushed, run, joined, job, outlined', fresh, blank⟩ :=
      joins member unmoved standing (by rw [kept'.size]; exact inside') (congrArg Job.pushed saved)
    rw [saved] at job
    have htop := (outlined.top seat.thread).trans standing
    refine ⟨after, (takeSeat_of_active inside active htop).trans run,
      (kept.append kept').append joined, congrArg Job.hint job,
      fun simd => (congrArg Job.pushed job).trans (blank simd), ?_⟩
    rw [if_pos rfl]
    exact ⟨top, pushed, congrArg Job.savedTop job, congrArg Job.pushed job, outlined', fresh⟩

variable {tidOf : Nat → Nat} {seatOf : Nat → Seat} {seated : Nat → Prop}

/-- Seating one lane among others. -/
theorem seated_takeSeat (joins : Joins construct layout join) (hlane : seat.lane = lane)
    (hthread : seat.thread = tidOf lane) (outlined : Block.Outlined layout outline entry.block)
    (h : Outline.Seated tidOf entry.jobOf seated base outline) (inside : lane < entry.jobs.size)
    (waiting : ¬seated lane) (apart : ∀ other, seated other → tidOf other ≠ tidOf lane)
    (standing : base.tops (tidOf lane) = some old) :
    ∃ after outline', takeSeat limit join seat member entry = .ok () after ∧
      Kept (· = lane) entry after ∧ (after.jobOf lane).hint = seat.hint ∧
      (construct = .simd → (after.jobOf lane).pushed = none) ∧
      Block.Outlined layout outline' after.block ∧ outline'.hints = outline.hints ∧
      Outline.Seated tidOf after.jobOf
        (fun other => seated other ∨ other = lane ∧ member.active = true) base outline' := by
  subst hlane
  have standing' : outline.tops seat.thread = some old := by
    rw [hthread, h.tops _ apart, standing]
  obtain ⟨after, run, kept, hint, blank, rest⟩ :=
    takeSeat_eq_ok limit member joins outlined standing' inside
  have kept' (other : Nat) (member : seated other) : after.jobOf other = entry.jobOf other :=
    kept.others other fun same => waiting (same ▸ member)
  cases active : member.active with
  | false =>
    rw [active, if_neg Bool.false_ne_true] at rest
    refine ⟨after, outline, run, kept, hint, blank, rest, rfl, ?_⟩
    simpa using h.congr kept'
  | true =>
    rw [active, if_pos rfl] at rest
    obtain ⟨top, pushed, saved, hpushed, outlined', fresh⟩ := rest
    rw [hthread] at standing' outlined'
    have taken := (h.congr kept').take top apart standing' saved hpushed fresh
    refine ⟨after, _, run, kept, hint, blank, outlined', Outline.hints_adds pushed, ?_⟩
    simpa [or_comm] using taken

/-- **Seating a list of lanes** leaves those of them seated that are active. -/
theorem takeSeats_eq_ok (joins : Joins construct layout join) (limit : Nat)
    (memberOf : Nat → Member)
    (hlane : ∀ lane, (seatOf lane).lane = lane)
    (hthread : ∀ lane, (seatOf lane).thread = tidOf lane)
    (waiting : List Nat) :
    ∀ {entry : Entry} {outline : Outline} {seated : Nat → Prop},
      Block.Outlined layout outline entry.block →
      Outline.Seated tidOf entry.jobOf seated base outline →
      waiting.Nodup → (∀ lane ∈ waiting, ¬seated lane) →
      (∀ lane ∈ waiting, ∀ other, seated other ∨ other ∈ waiting → tidOf other = tidOf lane →
        other = lane) →
      (∀ lane ∈ waiting, lane < entry.jobs.size) →
      (∀ lane ∈ waiting, ∃ id, base.tops (tidOf lane) = some id) →
      ∃ after outline',
        takeSeats limit join (waiting.map fun lane => (seatOf lane, memberOf lane)) entry =
          .ok () after ∧
        Kept (· ∈ waiting) entry after ∧
        (∀ lane ∈ waiting, (after.jobOf lane).hint = (seatOf lane).hint ∧
          (construct = .simd → (after.jobOf lane).pushed = none)) ∧
        Block.Outlined layout outline' after.block ∧ outline'.hints = outline.hints ∧
        Outline.Seated tidOf after.jobOf
          (fun lane => seated lane ∨ lane ∈ waiting ∧ (memberOf lane).active = true)
          base outline' := by
  -- by induction on the lanes still waiting; `Seated` carries what the seated ones have taken
  induction waiting with
  | nil =>
    intro entry outline seated outlined h _ _ _ _ _
    refine ⟨entry, outline, rfl, ⟨rfl, rfl, fun _ _ => rfl⟩, ?_, outlined, rfl, ?_⟩
    · exact fun lane member => absurd member List.not_mem_nil
    · simpa using h
  | cons lane waiting ih =>
    intro entry outline seated outlined h nodup absent apart inside standing
    have mine : lane ∈ lane :: waiting := List.mem_cons_self
    have notAgain := (List.nodup_cons.1 nodup).1
    obtain ⟨old, hold⟩ := standing lane mine
    have apart' (other : Nat) (member : seated other) : tidOf other ≠ tidOf lane := by
      intro same
      rw [apart lane mine other (.inl member) same] at member
      exact absent lane mine member
    obtain ⟨mid, outline₁, run, kept, hint, blank, outlined₁, hints₁, h₁⟩ :=
      seated_takeSeat joins (hlane lane) (hthread lane) outlined h (inside lane mine)
        (absent lane mine) apart' hold
    have absent' (other : Nat) (member : other ∈ waiting) :
        ¬(seated other ∨ other = lane ∧ (memberOf lane).active = true) := by
      rintro (before | ⟨rfl, -⟩)
      · exact absent other (List.mem_cons_of_mem lane member) before
      · exact notAgain member
    have apart'' (other : Nat) (member : other ∈ waiting) (another : Nat)
        (among : (seated another ∨ another = lane ∧ (memberOf lane).active = true) ∨
          another ∈ waiting) : tidOf another = tidOf other → another = other := by
      refine apart other (List.mem_cons_of_mem lane member) another ?_
      rcases among with (before | ⟨rfl, -⟩) | later
      · exact .inl before
      · exact .inr mine
      · exact .inr (List.mem_cons_of_mem lane later)
    obtain ⟨after, outline₂, run', kept', written, outlined₂, hints₂, h₂⟩ :=
      ih outlined₁ h₁ (List.nodup_cons.1 nodup).2 absent' apart''
        (fun other member => by
          rw [kept.size]
          exact inside other (List.mem_cons_of_mem lane member))
        (fun other member => standing other (List.mem_cons_of_mem lane member))
    refine ⟨after, outline₂, (bind_of_ok run _).trans run', kept.cons kept', ?_, outlined₂,
      hints₂.trans hints₁, ?_⟩
    · intro other member
      rcases List.mem_cons.1 member with rfl | member
      · rw [kept'.others other notAgain]
        exact ⟨hint, blank⟩
      · exact written other member
    · have same (other : Nat) :
          (seated other ∨ other = lane ∧ (memberOf lane).active = true) ∨
            other ∈ waiting ∧ (memberOf other).active = true ↔
          seated other ∨ other ∈ lane :: waiting ∧ (memberOf other).active = true := by
        rw [List.mem_cons, or_and_right, or_assoc]
        refine or_congr_right (or_congr_left (and_congr_right ?_))
        rintro rfl
        rfl
      rwa [funext fun other => propext (same other)] at h₂

/-! ## Leaving -/

theorem exit_eq_ok {block : Block} {hwLane tid : Nat} {id : FrameId} {job : Job}
    (inside : hwLane < layout.size) (owner : layout.threadOf hwLane = .ok tid)
    (outlined : Block.Outlined layout outline block) (standing : outline.tops tid = some id)
    (saved : job.savedTop = some old) (blank : construct = .simd → job.pushed = none) :
    ∃ after, exit construct hwLane job block = .ok () after ∧
      Block.Outlined layout
        (((outline.setHint construct tid job.hint).setTop tid old).removes job.pushed) after := by
  have mine : Block.threadOf hwLane block = .ok tid block := by
    rw [← outlined.layout] at inside owner
    exact Block.threadOf_of_lt inside owner
  cases construct with
  | simd =>
    rw [blank rfl]
    refine ⟨_, ?_, (outlined.withHint _ _ standing).setTop standing old⟩
    rw [exit, exitSimd, bind_of_ok mine, saved]
    rfl
  | parallel =>
    -- the top goes back before the frame is released, and the hint last
    have moved := outlined.setTop standing old
    have standing' : (outline.setTop tid old).tops tid = some old := Function.update_self _ _ _
    cases pushed : job.pushed with
    | none =>
      refine ⟨_, ?_, moved.withHint _ _ standing'⟩
      rw [exit, exitParallel, bind_of_ok mine, saved, pushed]
      rfl
    | some id =>
      refine ⟨_, ?_, (moved.release id).withHint _ _ standing'⟩
      rw [exit, exitParallel, bind_of_ok mine, saved, pushed]
      rfl

end Convergent

end RegionDispatch
