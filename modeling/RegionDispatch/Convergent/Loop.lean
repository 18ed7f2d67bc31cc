import RegionDispatch.Convergent.Region
import RegionDispatch.Hosted

/-!
# Convergent loops

A convergent construct is run to its end by calling it again until the source was the last lane of
the mask: every lane of the mask is a source once, and each time the body runs on every active lane
of the source's team.

* `Convergent.loop` — runs the construct and counts the teams.
-/

namespace RegionDispatch

namespace Convergent

open Dispatch

variable {ω : Type}

/-- Enters the next team, keeping the cursor and the jobs apart from the block. -/
def enterNext (construct : Construct) (warp : Warp) (mask : LaneMask) (cursor : Nat)
    (jobs : Array Job) : RegionM ω (Team × Nat × Array Job) :=
  Hosted.onBlock <| embed (fun block => ⟨block, cursor, jobs⟩) Entry.block do
    let team ← enter construct warp mask
    let entry ← get
    return (team, entry.cursor, entry.jobs)

/-- One team: the body on every active lane, then every active lane leaves with its own job. -/
def runTeam (construct : Construct) (body : Team → Member → RegionM ω Unit) (team : Team)
    (jobs : Array Job) : RegionM ω Unit := do
  Hosted.onBlock Block.fence
  team.active.forM (body team)
  team.active.forM fun member =>
    Hosted.onBlock (exit construct member.hwLane (jobs.getD member.lane {}))

/-- At most `rounds` more teams; `teams` were formed already. -/
def rounds (construct : Construct) (warp : Warp) (mask : LaneMask)
    (body : Team → Member → RegionM ω Unit) :
    (rounds : Nat) → (cursor : Nat) → Array Job → (teams : Nat) → RegionM ω Nat
  | 0, _, _, teams => return teams
  | left + 1, cursor, jobs, teams => do
    let (team, cursor, jobs) ← enterNext construct warp mask cursor jobs
    runTeam construct body team jobs
    if team.isFinal then
      return teams + 1
    else
      rounds construct warp mask body left cursor jobs (teams + 1)

/-- Runs a convergent construct over `mask` to its end and counts the teams. A mask has at most
`maxGroupWidth` lanes and each team uses up one of them as its source, so that many rounds are
always enough. -/
def loop (construct : Construct) (warp : Warp) (mask : LaneMask)
    (body : Team → Member → RegionM ω Unit) : RegionM ω Nat :=
  rounds construct warp mask body maxGroupWidth 0 (Array.replicate warp.width {}) 0

end Convergent

end RegionDispatch
