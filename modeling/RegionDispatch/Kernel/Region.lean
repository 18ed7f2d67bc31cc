import RegionDispatch.Block.Control
import RegionDispatch.Block.Region
import RegionDispatch.Block.Serial
import RegionDispatch.Hosted

/-!
# Region bodies

The body of a parallel region, as each lane of its team runs it. Inside it the lane can ask
everything `Block` answers, and a parallel construct reached there runs serialized.

* `RegionBody` — a body, given the lane it runs on.
* `Region.nested` — a parallel construct inside a region.
-/

namespace RegionDispatch

/-- The body of a region, or of an SPMD kernel, given the hardware lane it runs on. -/
abbrev RegionBody (ω : Type) := (lane : Nat) → RegionM ω Unit

namespace Region

open Dispatch

variable {ω : Type}

/-- Spends any pending clause of the calling thread and begins a serialized region. -/
def beginNested (lane : Nat) : Dispatch Block Unit := do
  let tid ← Block.threadOf lane
  Block.onState fun state => (state.takePendingThreads tid).2
  Block.beginSerial lane

/-- Runs a parallel construct reached inside a region: serialized, on the calling lane. The region
is left also when its body is rejected; the body's rejection is then the result. -/
def nested (lane : Nat) (body : RegionBody ω) : RegionM ω Unit := do
  Hosted.onBlock (beginNested lane)
  let result ← attempt (body lane)
  Hosted.onBlock (Block.endSerial lane)
  granted result

end Region

end RegionDispatch
