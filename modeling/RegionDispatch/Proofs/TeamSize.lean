import RegionDispatch.Proofs.Fault
import RegionDispatch.TeamSize

/-! # Bounds on team sizes

The sizing decision always has a result on a device whose groups have a lane, and as long as the
launch provides a lane the team has at least one lane and no more than the launch provides. It is
bounded by the thread limit and by the threads asked for as well, and on a device of whole groups it
is one lane or a number of whole groups, if the launch provides whole groups. -/

namespace RegionDispatch

namespace TeamRequest

variable {req : TeamRequest}

theorem ceiling_size_le (req : TeamRequest) : req.ceiling.size ≤ req.available := by
  unfold ceiling
  split
  · next tighter => exact Nat.le_of_lt tighter.2
  · exact Nat.le_refl _

theorem ceiling_size_pos (h : 0 < req.available) : 0 < req.ceiling.size := by
  unfold ceiling
  split
  · next tighter => exact Nat.pos_of_ne_zero tighter.1
  · exact h

theorem ceiling_size_le_limit (set : req.limit ≠ 0) : req.ceiling.size ≤ req.limit := by
  unfold ceiling
  split
  · exact Nat.le_refl _
  · next wider =>
    -- a set limit that is not below the lanes of the launch does not bind
    exact Nat.le_of_not_lt fun tighter => wider ⟨set, tighter⟩

theorem unrounded_size_le_ceiling (req : TeamRequest) :
    req.unrounded.size ≤ req.ceiling.size := by
  unfold unrounded
  split
  · next fewer => exact Nat.le_of_lt fewer.2
  · exact Nat.le_refl _

theorem unrounded_size_le_requested (set : req.requested ≠ 0) :
    req.unrounded.size ≤ req.requested := by
  unfold unrounded
  split
  · exact Nat.le_refl _
  · next more => exact Nat.le_of_not_lt fun fewer => more ⟨set, fewer⟩

theorem unrounded_size_le (req : TeamRequest) : req.unrounded.size ≤ req.available :=
  Nat.le_trans req.unrounded_size_le_ceiling req.ceiling_size_le

theorem unrounded_size_pos (h : 0 < req.available) : 0 < req.unrounded.size := by
  unfold unrounded
  split
  · next fewer => exact Nat.pos_of_ne_zero fewer.1
  · exact ceiling_size_pos h

end TeamRequest

/-- Rounding a positive number to whole groups never makes it greater. -/
theorem roundToGroups_le {n width rounded : Nat} (hn : 0 < n)
    (h : roundToGroups n width = .ok rounded) : rounded ≤ n := by
  unfold roundToGroups at h
  split at h
  · cases h
    exact hn
  · rcases hlow : checkedSub width 1 with fault | low
    · rw [hlow] at h
      cases h
    · rw [hlow] at h
      cases h
      exact clearBits_le _ _

/-- Rounding leaves one lane or whole groups. -/
theorem roundToGroups_dvd {n width rounded k : Nat} (power : width = 2 ^ k)
    (h : roundToGroups n width = .ok rounded) : rounded = 1 ∨ width ∣ rounded := by
  unfold roundToGroups at h
  split at h
  · cases h
    exact .inl rfl
  · have lane : 1 ≤ width := power ▸ Nat.one_le_two_pow
    rw [checkedSub_of_le lane] at h
    cases h
    rw [power]
    exact .inr (two_pow_dvd_clearBits _ _)

/-- Rounding never leaves nothing. -/
theorem exists_roundToGroups {width : Nat} (hwidth : 0 < width) (n : Nat) :
    ∃ rounded, roundToGroups n width = .ok rounded ∧ 0 < rounded := by
  unfold roundToGroups
  split
  · exact ⟨1, rfl, Nat.one_pos⟩
  · next whole =>
    rw [checkedSub_of_le hwidth]
    refine ⟨clearBits n (width - 1), rfl, Nat.pos_of_ne_zero fun gone => ?_⟩
    -- a number whose bits all lie below the width is less than the width
    have := le_of_clearBits_eq_zero gone
    omega

/-- And without a lane per group there is nothing to round to. -/
theorem roundToGroups_pos {n width rounded : Nat} (h : roundToGroups n width = .ok rounded) :
    0 < rounded := by
  rcases Nat.eq_zero_or_pos width with rfl | hwidth
  · rw [roundToGroups, if_neg (Nat.not_lt_zero n)] at h
    cases h
  · obtain ⟨rounded', hrounded, pos⟩ := exists_roundToGroups hwidth n
    rw [h, Except.ok.injEq] at hrounded
    exact hrounded ▸ pos

namespace Arch

variable {arch : Arch} {req : TeamRequest} {decision : TeamDecision}

/-- Rounding only takes lanes away. -/
theorem sizeTeam_le_unrounded (h : arch.sizeTeam req = .ok decision) :
    decision.size ≤ req.unrounded.size := by
  unfold sizeTeam at h
  dsimp only at h
  split at h
  · next rounds =>
    rcases hrounded : roundToGroups req.unrounded.size arch.width with fault | rounded
    · rw [hrounded] at h
      cases h
    · have smaller := roundToGroups_le rounds.2.1 hrounded
      rw [hrounded] at h
      cases h
      split
      · exact Nat.le_refl _
      · exact smaller
  · cases h
    exact Nat.le_refl _

/-- No team is larger than the launch provides. -/
theorem sizeTeam_le (h : arch.sizeTeam req = .ok decision) : decision.size ≤ req.available :=
  Nat.le_trans (sizeTeam_le_unrounded h) req.unrounded_size_le

/-- No team is empty that the launch provides a lane for. -/
theorem sizeTeam_pos (h : arch.sizeTeam req = .ok decision) (some : 0 < req.available) :
    0 < decision.size := by
  have pos := TeamRequest.unrounded_size_pos some
  unfold sizeTeam at h
  dsimp only at h
  split at h
  · rcases hrounded : roundToGroups req.unrounded.size arch.width with fault | rounded
    · rw [hrounded] at h
      cases h
    · have roundedPos := roundToGroups_pos hrounded
      rw [hrounded] at h
      cases h
      split
      · exact pos
      · exact roundedPos
  · cases h
    exact pos

/-- No team is larger than the thread limit. -/
theorem sizeTeam_le_limit (h : arch.sizeTeam req = .ok decision) (set : req.limit ≠ 0) :
    decision.size ≤ req.limit :=
  Nat.le_trans (sizeTeam_le_unrounded h)
    (Nat.le_trans req.unrounded_size_le_ceiling (TeamRequest.ceiling_size_le_limit set))

/-- No team is larger than what was asked for. -/
theorem sizeTeam_le_requested (h : arch.sizeTeam req = .ok decision) (set : req.requested ≠ 0) :
    decision.size ≤ req.requested :=
  Nat.le_trans (sizeTeam_le_unrounded h) (TeamRequest.unrounded_size_le_requested set)

/-- **Whole groups.** Where the launch provides whole groups, so does every team of more than one
lane. -/
theorem sizeTeam_dvd {k : Nat} (power : arch.width = 2 ^ k) (whole : arch.wholeGroups = true)
    (groups : arch.width ∣ req.available) (h : arch.sizeTeam req = .ok decision) :
    decision.size = 1 ∨ arch.width ∣ decision.size := by
  have le := req.unrounded_size_le
  unfold sizeTeam at h
  dsimp only at h
  split at h
  · rcases hrounded : roundToGroups req.unrounded.size arch.width with fault | rounded
    · rw [hrounded] at h
      cases h
    · have dvd := roundToGroups_dvd power hrounded
      rw [hrounded] at h
      cases h
      split
      · next same => exact same ▸ dvd
      · exact dvd
  · next unbound =>
    -- what is not rounded is nothing, or all lanes of the launch
    cases h
    rcases Nat.eq_zero_or_pos req.unrounded.size with none | some
    · exact .inr (none ▸ Nat.dvd_zero _)
    · have all : req.unrounded.size = req.available :=
        Nat.le_antisymm le (Nat.le_of_not_lt fun fewer => unbound ⟨whole, some, fewer⟩)
      exact .inr (all ▸ groups)

/-- **Every request is granted a team**: of at least one lane, and of no more than there are. -/
theorem exists_sizeTeam (hwidth : 0 < arch.width) (req : TeamRequest) (h : 0 < req.available) :
    ∃ decision, arch.sizeTeam req = .ok decision ∧ 0 < decision.size ∧
      decision.size ≤ req.available := by
  have granted : ∃ decision, arch.sizeTeam req = .ok decision := by
    unfold sizeTeam
    dsimp only
    split
    · obtain ⟨rounded, hrounded, -⟩ := exists_roundToGroups hwidth req.unrounded.size
      simp only [hrounded, bind, Except.bind, pure, Except.pure]
      exact ⟨_, rfl⟩
    · exact ⟨_, rfl⟩
  obtain ⟨decision, sized⟩ := granted
  exact ⟨decision, sized, sizeTeam_pos sized h, sizeTeam_le sized⟩

end Arch

end RegionDispatch
