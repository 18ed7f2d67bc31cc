import RegionDispatch.Arch
import RegionDispatch.Fault

/-!
# Team sizes

How many lanes join a parallel region. A pending `num_threads` clause overrides the requested
threads of the current task; the thread limit and the lanes of the launch cap both. On an
architecture of whole groups, a team smaller than the launch is rounded down to whole groups, or
to a single lane when not even one group is asked for.

* `TeamRequest` — the inputs of one decision; 0 means unset.
* `Arch.sizeTeam` — the decision, with the bound that determined it.
-/

namespace RegionDispatch

/-- The bound that determined a team size. -/
inductive SizeBound where
  /-- The lanes of the launch. -/
  | availableLanes
  /-- The thread limit. -/
  | threadLimit
  /-- The requested threads. -/
  | request
  /-- Rounding to whole SIMD groups. -/
  | groupRounding
  deriving DecidableEq, Repr

/-- The name a bound is reported with. -/
def SizeBound.text : SizeBound → String
  | .availableLanes => "available lanes"
  | .threadLimit => "thread limit"
  | .request => "num_threads request"
  | .groupRounding => "warp rounding"

/-- The inputs of one sizing decision. -/
structure TeamRequest where
  /-- The pending `num_threads` clause, 0 if none is pending. -/
  clause : Nat
  /-- The requested threads of the current task, 0 if unset. -/
  nthreads : Nat
  /-- The thread limit of the current task, 0 if unset. -/
  limit : Nat
  /-- The lanes the launch provides. -/
  available : Nat
  deriving DecidableEq, Repr

/-- A team size and the bound that determined it. -/
structure TeamDecision where
  /-- Lanes of the team. -/
  size : Nat
  /-- Why there are not more. -/
  bound : SizeBound
  deriving DecidableEq, Repr

namespace TeamRequest

/-- The threads asked for: the clause if one is pending, the task's setting otherwise. -/
def requested (req : TeamRequest) : Nat := if req.clause ≠ 0 then req.clause else req.nthreads

/-- The most lanes the launch and the thread limit allow. -/
def ceiling (req : TeamRequest) : TeamDecision :=
  if req.limit ≠ 0 ∧ req.limit < req.available then ⟨req.limit, .threadLimit⟩
  else ⟨req.available, .availableLanes⟩

/-- The team before any rounding: the threads asked for, if those are fewer than the ceiling. -/
def unrounded (req : TeamRequest) : TeamDecision :=
  if req.requested ≠ 0 ∧ req.requested < req.ceiling.size then ⟨req.requested, .request⟩
  else req.ceiling

end TeamRequest

/-- The greatest multiple of `width` up to `n`, for `width` a power of two; 1 below one group. -/
def roundToGroups (n width : Nat) : Except Fault Nat :=
  if n < width then .ok 1
  else do
    let low ← checkedSub width 1
    return clearBits n low

/-- The size of the next team. It is 0 only when no lane is available. -/
def Arch.sizeTeam (arch : Arch) (req : TeamRequest) : Except Fault TeamDecision :=
  let wanted := req.unrounded
  if arch.wholeGroups ∧ 0 < wanted.size ∧ wanted.size < req.available then do
    let rounded ← roundToGroups wanted.size arch.width
    return if rounded = wanted.size then wanted else ⟨rounded, .groupRounding⟩
  else
    .ok wanted

end RegionDispatch
