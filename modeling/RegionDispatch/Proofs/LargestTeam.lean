import Mathlib.Order.Bounds.Basic
import RegionDispatch.Proofs.TeamSize

/-! # The largest legal team

What a sizing decision decides. A launch of whole groups can be given all of its lanes, whole groups
or one lane; among the sizes that keep to every bound that is set, the decision takes the greatest,
and the reason it gives is the bound that kept it from being greater. Looser bounds never make the
team of such a launch smaller.

* **The decision in closed form** `Arch.sizeTeam_eq`: the size is `Arch.granted`, the reason
  `TeamRequest.boundOf`.
* **Rounding is greatest** `Arch.granted_isGreatest`.
* **The decision** `Arch.sizeTeam_isGreatest`: all of it, for every request. -/

namespace RegionDispatch

/-- `n`, kept to `bound` where that is set. -/
def kept (bound n : Nat) : Nat := if bound = 0 then n else min bound n

/-- A bound that takes away no more than `bound` does. -/
def LooserBound (bound bound' : Nat) : Prop := bound' = 0 ∨ (bound ≠ 0 ∧ bound ≤ bound')

theorem kept_le (bound n : Nat) : kept bound n ≤ n := by
  unfold kept
  split
  · exact Nat.le_refl _
  · exact Nat.min_le_right _ _

theorem kept_pos {bound n : Nat} (some : 0 < n) : 0 < kept bound n := by
  unfold kept
  split <;> omega

/-- A looser bound keeps more of more. -/
theorem kept_mono {bound bound' n n' : Nat} (looser : LooserBound bound bound') (le : n ≤ n') :
    kept bound n ≤ kept bound' n' := by
  rcases looser with unset | ⟨set, wider⟩
  · rw [unset]
    exact Nat.le_trans (kept_le bound n) le
  · unfold kept
    split <;> split <;> omega

/-- A bound that is set and strict is all that is left. -/
theorem kept_eq_ite (bound n : Nat) :
    kept bound n = if bound ≠ 0 ∧ bound < n then bound else n := by
  unfold kept
  split <;> split <;> omega

namespace TeamRequest

/-- The lanes the launch and the thread limit leave. -/
def permitted (req : TeamRequest) : Nat := kept req.limit req.available

/-- The most lanes a team can have. -/
def most (req : TeamRequest) : Nat := kept req.requested req.permitted

/-- Why a team of `size` lanes has no more. -/
def boundOf (req : TeamRequest) (size : Nat) : SizeBound :=
  if size ≠ req.most then .groupRounding
  else if req.requested ≠ 0 ∧ req.requested < req.permitted then .request
  else if req.limit ≠ 0 ∧ req.limit < req.available then .threadLimit
  else .availableLanes

/-- A request with no more lanes and no looser bound than another. -/
structure Within (req req' : TeamRequest) : Prop where
  available : req.available ≤ req'.available
  limit : LooserBound req.limit req'.limit
  requested : LooserBound req.requested req'.requested

variable {req req' : TeamRequest}

theorem most_le (req : TeamRequest) : req.most ≤ req.available :=
  Nat.le_trans (kept_le _ _) (kept_le _ _)

theorem most_pos (some : 0 < req.available) : 0 < req.most := kept_pos (kept_pos some)

theorem Within.most_le (within : req.Within req') : req.most ≤ req'.most :=
  kept_mono within.requested (kept_mono within.limit within.available)

theorem ceiling_size (req : TeamRequest) : req.ceiling.size = req.permitted := by
  rw [permitted, kept_eq_ite, ceiling]
  split <;> rfl

/-- Before rounding the team is the greatest, for the reason there is. -/
theorem unrounded_eq (req : TeamRequest) : req.unrounded = ⟨req.most, req.boundOf req.most⟩ := by
  have size : req.most =
      if req.requested ≠ 0 ∧ req.requested < req.permitted then req.requested else req.permitted :=
    kept_eq_ite _ _
  rw [boundOf, if_neg (not_not_intro rfl), size, unrounded, ceiling_size]
  split
  · rfl
  · rw [permitted, kept_eq_ite, ceiling]
    split <;> rfl

theorem boundOf_of_ne {size : Nat} (fewer : size ≠ req.most) :
    req.boundOf size = .groupRounding := if_pos fewer

end TeamRequest

/-- Rounding to whole groups, in closed form. -/
theorem roundToGroups_two_pow (n k : Nat) :
    roundToGroups n (2 ^ k) = .ok (if n < 2 ^ k then 1 else 2 ^ k * (n / 2 ^ k)) := by
  unfold roundToGroups
  split
  · rfl
  · rw [checkedSub_of_le Nat.one_le_two_pow, ← clearBits_two_pow_sub_one]
    rfl

namespace Arch

variable {arch : Arch} {k : Nat}

/-- The team sizes that a launch of `available` lanes allows. -/
def Allows (arch : Arch) (available n : Nat) : Prop :=
  arch.wholeGroups = false ∨ n = available ∨ arch.width ∣ n ∨ n = 1

/-- The lanes that a request is granted. -/
def granted (arch : Arch) (req : TeamRequest) : Nat :=
  if arch.wholeGroups ∧ 0 < req.most ∧ req.most < req.available then
    if req.most < arch.width then 1 else arch.width * (req.most / arch.width)
  else
    req.most

/-- **The decision in closed form**: the lanes granted, for the reason there is. -/
theorem sizeTeam_eq (power : arch.width = 2 ^ k) (req : TeamRequest) :
    arch.sizeTeam req = .ok ⟨arch.granted req, req.boundOf (arch.granted req)⟩ := by
  unfold sizeTeam granted
  rw [req.unrounded_eq]
  dsimp only
  split
  · rw [power, roundToGroups_two_pow]
    generalize (if req.most < 2 ^ k then 1 else 2 ^ k * (req.most / 2 ^ k)) = rounded
    rcases eq_or_ne rounded req.most with same | fewer
    · simp [same, bind, Except.bind, pure, Except.pure]
    · simp [fewer, TeamRequest.boundOf_of_ne fewer, bind, Except.bind, pure, Except.pure]
  · rfl

theorem granted_eq_zero (req : TeamRequest) (none : req.available = 0) : arch.granted req = 0 := by
  have no_more : req.most ≤ 0 := none ▸ req.most_le
  rw [granted, if_neg fun rounds => absurd rounds.2.1 (Nat.not_lt.mpr no_more)]
  exact Nat.le_zero.mp no_more

/-- **Rounding is greatest**: of the sizes that the launch allows and that keep to every bound, a
request is granted the greatest. -/
theorem granted_isGreatest (lanes : 0 < arch.width) {req : TeamRequest} (some : 0 < req.available) :
    IsGreatest {n | 1 ≤ n ∧ n ≤ req.most ∧ arch.Allows req.available n} (arch.granted req) := by
  have pos : 0 < req.most := TeamRequest.most_pos some
  unfold granted
  split
  · next rounds =>
    obtain ⟨whole, -, fewer⟩ := rounds
    have partless : arch.wholeGroups ≠ false := by simp [whole]
    split
    · next small =>
      -- below one group only a single lane is left
      refine ⟨⟨Nat.le_refl 1, pos, .inr (.inr (.inr rfl))⟩, fun n legal => ?_⟩
      obtain ⟨one_le, le_most, partial_ok | all | groups | one⟩ := legal
      · exact absurd partial_ok partless
      · omega
      · exact absurd (Nat.le_of_dvd one_le groups) (by omega)
      · exact Nat.le_of_eq one
    · next large =>
      have group : 1 ≤ req.most / arch.width := Nat.div_pos (Nat.le_of_not_lt large) lanes
      refine ⟨⟨Nat.mul_pos lanes group, Nat.mul_div_le _ _, .inr (.inr (.inl ⟨_, rfl⟩))⟩,
        fun n legal => ?_⟩
      obtain ⟨-, le_most, partial_ok | all | groups | one⟩ := legal
      · exact absurd partial_ok partless
      · omega
      · -- as many whole groups as fit
        obtain ⟨count, rfl⟩ := groups
        refine Nat.mul_le_mul_left _ ((Nat.le_div_iff_mul_le lanes).mpr ?_)
        rwa [Nat.mul_comm]
      · exact one ▸ Nat.mul_pos lanes group
  · next exact_size =>
    refine ⟨⟨pos, Nat.le_refl _, ?_⟩, fun n legal => legal.2.1⟩
    by_cases whole : arch.wholeGroups = true
    · have all : req.most = req.available :=
        Nat.le_antisymm req.most_le
          (Nat.le_of_not_lt fun fewer => exact_size ⟨whole, pos, fewer⟩)
      exact .inr (.inl all)
    · exact .inl (Bool.eq_false_iff.mpr whole)

/-- Where the launch provides whole groups, what one request is granted stays allowed when there are
more lanes. -/
theorem granted_mono (lanes : 0 < arch.width) {req req' : TeamRequest}
    (groups : arch.width ∣ req.available) (within : req.Within req') :
    arch.granted req ≤ arch.granted req' := by
  rcases Nat.eq_zero_or_pos req.available with none | some
  · exact granted_eq_zero req none ▸ Nat.zero_le _
  · obtain ⟨one_le, le_most, allows⟩ := (granted_isGreatest lanes some).1
    have more : 0 < req'.available := Nat.lt_of_lt_of_le some within.available
    refine (granted_isGreatest lanes more).2 ⟨one_le, Nat.le_trans le_most within.most_le, ?_⟩
    obtain partial_ok | all | whole | one := allows
    · exact .inl partial_ok
    · exact .inr (.inr (.inl (all ▸ groups)))
    · exact .inr (.inr (.inl whole))
    · exact .inr (.inr (.inr one))

/-- **The largest legal team, with a truthful reason.** Where a group has a power of two lanes,
every request is decided. The team is empty only without lanes, and otherwise the greatest that
the launch allows within every bound that is set; the reason is the bound that is met, or the
rounding where none is. Where the launch provides whole groups, more lanes and looser bounds never
make the team smaller. -/
theorem sizeTeam_isGreatest (power : arch.width = 2 ^ k) (req : TeamRequest) :
    ∃ decision, arch.sizeTeam req = .ok decision ∧
      (decision.size = 0 ↔ req.available = 0) ∧
      (0 < req.available →
        IsGreatest {n | 1 ≤ n ∧ n ≤ req.most ∧ arch.Allows req.available n} decision.size) ∧
      decision.bound = req.boundOf decision.size ∧
      (arch.width ∣ req.available → ∀ req' decision', req.Within req' →
        arch.sizeTeam req' = .ok decision' → decision.size ≤ decision'.size) := by
  have lanes : 0 < arch.width := power ▸ Nat.two_pow_pos k
  refine ⟨⟨arch.granted req, req.boundOf (arch.granted req)⟩, sizeTeam_eq power req, ⟨?_, ?_⟩,
    fun some => granted_isGreatest lanes some, rfl, fun groups req' decision' within sized => ?_⟩
  · intro empty
    refine Nat.eq_zero_of_not_pos fun some => ?_
    exact absurd empty (Nat.ne_of_gt (granted_isGreatest lanes some).1.1)
  · exact granted_eq_zero req
  · rw [sizeTeam_eq power] at sized
    cases sized
    exact granted_mono lanes groups within

/-- Thirty-three threads asked for of sixty-four lanes are one group, by rounding. -/
theorem sizeTeam_isGreatest_volta :
    volta.width = 2 ^ 5 ∧
      volta.sizeTeam ⟨33, 0, 0, 64⟩ = .ok ⟨32, .groupRounding⟩ ∧
      IsGreatest {n | 1 ≤ n ∧ n ≤ 33 ∧ volta.Allows 64 n} 32 := by
  have power : volta.width = 2 ^ 5 := rfl
  have sized : volta.sizeTeam ⟨33, 0, 0, 64⟩ = .ok ⟨32, .groupRounding⟩ := by decide
  obtain ⟨decision, decided, -, greatest, -⟩ := sizeTeam_isGreatest power ⟨33, 0, 0, 64⟩
  rw [sized] at decided
  cases decided
  exact ⟨power, sized, greatest (by decide)⟩

end Arch

end RegionDispatch
