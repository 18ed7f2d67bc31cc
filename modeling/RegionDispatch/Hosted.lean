import RegionDispatch.Block.Basic

/-!
# Hosted blocks

A kernel's bodies run on a block and may also keep data of their own: what they capture, count or
write down. `Hosted ω` is a block together with such data of type `ω`, and `RegionM ω` are the steps
of the bodies.
-/

namespace RegionDispatch

/-- A block together with the data of the program that runs on it. -/
structure Hosted (ω : Type) where
  /-- The block. -/
  block : Block
  /-- The program's own data. -/
  host : ω

/-- What the body of a region does on one lane. -/
abbrev RegionM (ω : Type) := Dispatch (Hosted ω)

namespace Hosted

variable {ω α : Type}

/-- A step on the block. -/
def onBlock : Dispatch Block α → RegionM ω α :=
  Dispatch.zoom (fun hosted => (hosted.block, hosted.host)) Hosted.mk

/-- A step on the program's own data. -/
def onHost : Dispatch ω α → RegionM ω α :=
  Dispatch.zoom (fun hosted => (hosted.host, hosted.block)) fun host block => ⟨block, host⟩

end Hosted

end RegionDispatch
