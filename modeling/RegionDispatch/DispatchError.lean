import RegionDispatch.LaneMask

/-!
# Dispatch errors

The ways a dispatch operation can be refused. Each is a broken calling contract: the caller may
handle it, and by default it ends the launch.

* `DispatchError`, `DispatchError.message` — the causes and their wording.
* `anyThread` — the thread number reported where the thread of a stray frame id is not known.
-/

namespace RegionDispatch

/-- Why a dispatch operation was refused. -/
inductive DispatchError where
  /-- The operation needs the full runtime. -/
  | runtimeUninitialized
  /-- A first-level region was prepared inside a parallel region. -/
  | alreadyInParallel
  /-- Only the team master may do this. -/
  | notMaster (lane : Nat)
  /-- Only a worker lane may do this. -/
  | notWorker (lane : Nat)
  /-- The sizing decision found no lane. -/
  | invalidTeamSize (size : Nat)
  /-- The number of teams is fixed at launch. -/
  | numTeamsUnsupported
  /-- Every lane of the mask was a source already. -/
  | noRemainingLanes (mask : LaneMask) (cursor : Nat)
  /-- The source lane of a convergent team is not in the mask. -/
  | sourceLaneInactive (lane : Nat)
  /-- A frame that the thread's stack needs is missing. -/
  | stackUnderflow (thread : Nat)
  /-- A region was left that the thread had not entered last. -/
  | unbalancedExit (thread : Nat)
  /-- A worker received work that was never posted. -/
  | unknownWork
  /-- A lane number beyond its limit. -/
  | laneOutOfRange (lane limit : Nat)
  /-- The lanes of the block did not arrive at the barrier equally often. -/
  | barrierMisaligned (least greatest : Nat)
  deriving DecidableEq, Repr

/-- The text an error is reported with. -/
def DispatchError.message : DispatchError → String
  | .runtimeUninitialized => "expected an initialized runtime"
  | .alreadyInParallel => "parallel region prepared while already inside a parallel region"
  | .notMaster lane => s!"lane {lane} is not the team master"
  | .notWorker lane => s!"lane {lane} is not a worker lane"
  | .invalidTeamSize size => s!"bad thread request of {size} threads"
  | .numTeamsUnsupported =>
    "the number of teams is fixed at launch and cannot be changed from a kernel"
  | .noRemainingLanes mask cursor =>
    s!"no unprocessed lanes left in mask {mask.text} at cursor {cursor}"
  | .sourceLaneInactive lane =>
    s!"convergent source lane {lane} is not part of the activity mask"
  | .stackUnderflow thread => s!"task context stack of thread {thread} is empty"
  | .unbalancedExit thread =>
    s!"thread {thread} left a parallel region with unbalanced nested contexts"
  | .unknownWork => "worker received a work function that was never published"
  | .laneOutOfRange lane limit => s!"lane {lane} is outside the block ({limit} lanes)"
  | .barrierMisaligned least greatest =>
    s!"barrier misaligned: lane arrivals range from {least} to {greatest}"

/-- The greatest thread number of a 32-bit word, reported where the thread is not known. -/
def anyThread : Nat := UInt32.size - 1

end RegionDispatch
