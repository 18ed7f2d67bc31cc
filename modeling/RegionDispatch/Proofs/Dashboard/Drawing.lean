import RegionDispatch.Dashboard.Picture
import RegionDispatch.Proofs.Json.RoundTrip
import RegionDispatch.Proofs.Number.Rounding

/-! # What can be drawn

Any snapshot can be published, also one that no launch comes to. The dashboard draws it on a screen
of any size, unless the gauge of the blocks is asked for more than the whole: the share of the team
is cut at the whole, the share of the blocks is not.

* `readSnapshot_render` — every snapshot can be read.
* `stats_some` — the one place where drawing can fault.
* **`draw_ok_iff`** — which snapshots are drawn, and how many blocks too many it takes. -/

namespace RegionDispatch.Dashboard

open Json Screen

variable {part : Part} {snapshot : Option Snapshot} {s : Snapshot} {width height : Nat}

/-- Every snapshot can be read from a published text. -/
theorem readSnapshot_render (s : Snapshot) :
    readSnapshot (some (Snapshot.codec.render s)) = some s := by
  rw [readSnapshot, Option.bind_some, Snapshot.lawful_codec.parse_render]
  rfl

/-- The parts with the gauges. -/
def Part.showsGauges : Part → Bool
  | .all | .stats => true
  | .header | .lanes | .footer => false

/-! ## The two gauges -/

theorem teamPercent_le (s : Snapshot) : teamPercent s ≤ 100 := Nat.min_le_left _ _

theorem teamGauge_eq (s : Snapshot) :
    teamGauge s = .ok ⟨"Team / available lanes", .green, shareText s.lastTeamSize s.availableLanes,
      teamPercent s⟩ :=
  if_pos (teamPercent_le s)

/-- The gauge of the blocks holds as long as there are not too many of them: less than 101 percents,
but for the rounding. -/
theorem blocksPercent_le
    (few : 1000000 * s.blocksExecuted.toNat ≤ 1009999 * s.blocksTotal.toNat) :
    blocksPercent s ≤ 100 := by
  rcases Nat.eq_zero_or_pos s.blocksTotal.toNat with none | some
  · rw [blocksPercent, none]
    exact Nat.zero_le 100
  · exact percentOf_le (by omega)

/-- At 101 percents there are too many, but for the rounding. -/
theorem lt_blocksPercent (some : 0 < s.blocksTotal.toNat)
    (many : 1010001 * s.blocksTotal.toNat ≤ 1000000 * s.blocksExecuted.toNat) :
    100 < blocksPercent s :=
  le_percentOf some (by omega)

/-! ## The parts -/

/-- **The panel of the statistics** faults where the gauge of the blocks does, and nowhere else. -/
theorem stats_some (s : Snapshot) (width height : Nat) :
    (blocksPercent s ≤ 100 ∧ ∃ grid, stats (some s) width height = .ok grid) ∨
      (100 < blocksPercent s ∧ stats (some s) width height = .error .percentRange) := by
  rcases Nat.lt_or_ge 100 (blocksPercent s) with many | few
  · refine .inr ⟨many, ?_⟩
    simp [stats, teamGauge_eq, blocksGauge, Gauge.create, Nat.not_le.2 many, bind, Except.bind]
  · refine .inl ⟨few, ?_⟩
    simp [stats, teamGauge_eq, blocksGauge, Gauge.create, few, bind, Except.bind, pure, Except.pure]

/-- So does every part that shows it. -/
theorem draw_eq (part : Part) (snapshot : Option Snapshot) (width height : Nat) :
    ((part.showsGauges = true → ∀ s ∈ snapshot, blocksPercent s ≤ 100) ∧
        ∃ grid, draw part snapshot width height = .ok grid) ∨
      ((part.showsGauges = true ∧ ∃ s ∈ snapshot, 100 < blocksPercent s) ∧
        draw part snapshot width height = .error .percentRange) := by
  -- the statistics stand alone or in the whole picture; everything else is always drawn
  have shown (columns rows : Nat) :
      ((∀ s ∈ snapshot, blocksPercent s ≤ 100) ∧ ∃ grid, stats snapshot columns rows = .ok grid) ∨
        ((∃ s ∈ snapshot, 100 < blocksPercent s) ∧
          stats snapshot columns rows = .error .percentRange) := by
    cases snapshot with
    | none => exact .inl ⟨fun _ absent => (by cases absent), _, rfl⟩
    | some s =>
      rcases stats_some s columns rows with ⟨few, drawn⟩ | ⟨many, faults⟩
      · exact .inl ⟨fun _ same => Option.some.inj same ▸ few, drawn⟩
      · exact .inr ⟨⟨s, rfl, many⟩, faults⟩
  cases part with
  | all =>
    rcases shown (width - lanesWidth width)
      (height - headerHeight height - footerHeight height) with ⟨few, grid, drawn⟩ | ⟨many, faults⟩
    · refine .inl ⟨fun _ => few, ?_⟩
      simp [draw, picture, drawn, bind, Except.bind, pure, Except.pure]
    · refine .inr ⟨⟨rfl, many⟩, ?_⟩
      simp [draw, picture, faults, bind, Except.bind]
  | stats =>
    rcases shown width height with ⟨few, drawn⟩ | ⟨many, faults⟩
    · exact .inl ⟨fun _ => few, drawn⟩
    · exact .inr ⟨⟨rfl, many⟩, faults⟩
  | header => exact .inl ⟨fun gauges => (by cases gauges), _, rfl⟩
  | lanes => exact .inl ⟨fun gauges => (by cases gauges), _, rfl⟩
  | footer => exact .inl ⟨fun gauges => (by cases gauges), _, rfl⟩

/-- **What is drawn.** A published text that can be read is drawn on a screen of any size, unless
the part has the gauges and more than 100 percents of the blocks are done; then drawing faults. The
share of the team is within the whole for every snapshot. The share of the blocks is where no more
blocks are done than there are, and up to a hundredth more, give or take a millionth; from there on
it is not. -/
theorem draw_ok_iff (text : Option String) (part : Part) (width height : Nat) :
    ((∃ grid, draw part (readSnapshot text) width height = .ok grid) ↔
        (part.showsGauges = true → ∀ s ∈ readSnapshot text, blocksPercent s ≤ 100)) ∧
      (∀ fault, draw part (readSnapshot text) width height = .error fault →
        fault = .percentRange) ∧
      ∀ s ∈ readSnapshot text, teamPercent s ≤ 100 ∧
        (s.blocksTotal = 0 ∨
            1000000 * s.blocksExecuted.toNat ≤ 1009999 * s.blocksTotal.toNat →
          blocksPercent s ≤ 100) ∧
        (s.blocksTotal ≠ 0 →
            1010001 * s.blocksTotal.toNat ≤ 1000000 * s.blocksExecuted.toNat →
          100 < blocksPercent s) := by
  refine ⟨?_, fun fault faults => ?_, fun s _ => ⟨teamPercent_le s, ?_, fun some many => ?_⟩⟩
  · rcases draw_eq part (readSnapshot text) width height with
      ⟨few, drawn⟩ | ⟨⟨gauges, s, read, many⟩, faults⟩
    · exact iff_of_true drawn few
    · refine iff_of_false (fun ⟨grid, drawn⟩ => ?_) fun few => ?_
      · rw [faults] at drawn
        cases drawn
      · exact absurd (few gauges s read) (Nat.not_le.2 many)
  · rcases draw_eq part (readSnapshot text) width height with ⟨-, grid, drawn⟩ | ⟨-, same⟩
    · rw [drawn] at faults
      cases faults
    · rw [same] at faults
      exact (Except.error.inj faults).symm
  · rintro (none | few)
    · rw [blocksPercent, none]
      exact Nat.zero_le 100
    · exact blocksPercent_le few
  · exact lt_blocksPercent (Nat.pos_of_ne_zero fun zero => some (UInt32.toNat_inj.1 zero)) many

/-- A launch of one block of which two are done. -/
def overdone : Snapshot where
  status := "running"
  kernelName := "k"
  arch := "sm_70"
  mode := "SPMD"
  grid := #v[1, 1, 1]
  block := #v[4, 1, 1]
  blocksTotal := 1
  blocksExecuted := 2
  groupWidth := 4
  availableLanes := 4
  regions := 0
  activations := 0
  serializedRegions := 0
  convergentTeams := 0
  lastTeamSize := 9
  lastLimiter := ""
  laneActive := [false, false, false, false]
  barrierArrivals := [1, 1, 1, 1]
  timestampMs := 0

/-- Its lane map is drawn; its statistics are not, though more lanes than there are do no harm. -/
theorem draw_ok_iff_overdone :
    readSnapshot (some (Snapshot.codec.render overdone)) = some overdone ∧
      (∃ grid, draw .lanes (some overdone) 40 12 = .ok grid) ∧
      ¬∃ grid, draw .stats (some overdone) 40 12 = .ok grid := by
  have read := readSnapshot_render overdone
  obtain ⟨lanes, -, known⟩ :=
    draw_ok_iff (some (Snapshot.codec.render overdone)) .lanes 40 12
  obtain ⟨stats, -, -⟩ := draw_ok_iff (some (Snapshot.codec.render overdone)) .stats 40 12
  rw [read] at lanes known stats
  have many : 100 < blocksPercent overdone := (known overdone rfl).2.2 (by decide) (by decide)
  refine ⟨read, lanes.2 fun gauges => (by cases gauges), fun drawn => ?_⟩
  exact absurd (stats.1 drawn rfl overdone rfl) (Nat.not_le.2 many)

/-- So not every snapshot that can be read is drawn. -/
theorem not_draw_ok : ¬∀ (text : Option String) (part : Part) (width height : Nat),
    ∃ grid, draw part (readSnapshot text) width height = .ok grid := by
  intro all
  obtain ⟨grid, drawn⟩ := all (some (Snapshot.codec.render overdone)) .stats 40 12
  rw [readSnapshot_render] at drawn
  have faults : draw .stats (some overdone) 40 12 = .error .percentRange := by decide +kernel
  rw [faults] at drawn
  cases drawn

end RegionDispatch.Dashboard
