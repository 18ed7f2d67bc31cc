import RegionDispatch.Dashboard.Picture
import RegionDispatch.Main
import RegionDispatch.Proofs.Block.Arrivals
import RegionDispatch.Proofs.Block.Detection
import RegionDispatch.Proofs.Block.LastWarp
import RegionDispatch.Proofs.Block.Parking
import RegionDispatch.Proofs.Block.Refusal
import RegionDispatch.Proofs.Block.Returning
import RegionDispatch.Proofs.Block.Turns
import RegionDispatch.Proofs.Convergent.Entry
import RegionDispatch.Proofs.Convergent.Hints
import RegionDispatch.Proofs.Convergent.Leaving
import RegionDispatch.Proofs.Convergent.Limits
import RegionDispatch.Proofs.Convergent.Loop
import RegionDispatch.Proofs.Convergent.Outside
import RegionDispatch.Proofs.Convergent.Payment
import RegionDispatch.Proofs.Convergent.Shared
import RegionDispatch.Proofs.Dashboard.Drawing
import RegionDispatch.Proofs.Dashboard.LastRegion
import RegionDispatch.Proofs.Frame.History
import RegionDispatch.Proofs.Json.Objects
import RegionDispatch.Proofs.Kernel.Guarded
import RegionDispatch.Proofs.Kernel.Influence
import RegionDispatch.Proofs.Kernel.Totals
import RegionDispatch.Proofs.Kernel.Unwinding
import RegionDispatch.Proofs.LargestTeam
import RegionDispatch.Proofs.RankSelect
