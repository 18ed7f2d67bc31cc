/-!
# Task frames

A task frame records what one logical thread knows of its team and how deep it is nested in
parallel regions. The frames of a thread form a stack through their `parent` links.

* `Nesting` — outside any region, directly in one, or deeper; `Nesting.deeper` saturates.
* `LoopState` — work-sharing state, which dispatch only saves and restores.
* `Frame` — the record, and the frames derived from it for each kind of region.
-/

namespace RegionDispatch

/-- How deep a frame is nested in parallel regions. -/
inductive Nesting where
  /-- Not inside any parallel region. -/
  | sequential
  /-- Directly inside a first-level parallel region. -/
  | level1
  /-- Inside two or more parallel regions. -/
  | nested
  deriving DecidableEq, Repr

namespace Nesting

instance : Inhabited Nesting := ⟨sequential⟩

/-- The level a query reports. -/
def level : Nesting → Nat
  | sequential => 0
  | level1 => 1
  | nested => 2

/-- The nesting one region further in. -/
def deeper : Nesting → Nesting
  | sequential => level1
  | level1 => nested
  | nested => nested

/-- Whether there is an enclosing parallel region. -/
def inParallel : Nesting → Bool
  | sequential => false
  | level1 => true
  | nested => true

/-- The nesting of a level; every level from 2 on is nested. -/
def ofLevel : Nat → Nesting
  | 0 => sequential
  | 1 => level1
  | _ + 2 => nested

theorem level_deeper (d : Nesting) : d.deeper.level = min 2 (d.level + 1) := by
  cases d <;> rfl

end Nesting

/-- How the iterations of a work-shared loop are handed out. -/
inductive Schedule where
  /-- One contiguous part per thread. -/
  | static
  /-- Fixed chunks in turn. -/
  | staticChunked
  /-- Chunks on demand. -/
  | dynamic
  /-- Shrinking chunks on demand. -/
  | guided
  /-- Chosen by the environment. -/
  | runtime
  deriving DecidableEq, Repr

/-- Work-sharing iteration state of one thread. -/
structure LoopState where
  /-- First iteration. -/
  lower : Int := 0
  /-- Last iteration. -/
  upper : Int := 0
  /-- Distance of neighbouring iterations. -/
  stride : Int := 0
  /-- Iterations handed out at once. -/
  chunk : Int := 0
  /-- How they are handed out. -/
  schedule : Schedule := .static
  deriving DecidableEq, Repr

instance : Inhabited LoopState := ⟨{}⟩

/-- Index of a frame in its block's arena, which has fewer than 2 ^ 32 slots: a 32-bit word holds
it. -/
structure FrameId where
  /-- The slot. -/
  index : Nat
  deriving DecidableEq, Repr

/-- What one logical thread knows of its team. -/
structure Frame where
  /-- Rank within the team. -/
  rank : Nat := 0
  /-- Threads of the team. -/
  teamSize : Nat := 0
  /-- Thread limit of the enclosing teams construct, 0 if unset. -/
  threadLimit : Nat := 0
  /-- Threads requested for the next region, 0 if unset. -/
  nthreads : Nat := 0
  /-- Enclosing parallel regions. -/
  depth : Nesting := .sequential
  /-- The owner's loop state, parked while a serialized region runs. -/
  parkedLoop : Option LoopState := none
  /-- The frame below on the stack. -/
  parent : Option FrameId := none
  deriving DecidableEq, Repr

namespace Frame

instance : Inhabited Frame := ⟨{}⟩

/-- The outermost frame of a block. -/
def initial (threadLimit : Nat) : Frame := { teamSize := 1, threadLimit }

/-- The first-level frame of an SPMD lane, on top of the outermost frame `base`. -/
def spmdMember (base : Frame) (baseId : FrameId) (rank teamSize : Nat) : Frame :=
  { base with rank, teamSize, depth := .level1, parkedLoop := none, parent := some baseId }

/-- A copy on top of the frame itself. -/
def child (frame : Frame) (id : FrameId) : Frame :=
  { frame with parkedLoop := none, parent := some id }

/-- The frame every worker of a new first-level team copies. -/
def teamTemplate (frame : Frame) (id : FrameId) (teamSize : Nat) : Frame :=
  { frame.child id with teamSize, depth := .level1 }

/-- The frame of a serialized region: a team of one. -/
def serialized (frame : Frame) (id : FrameId) : Frame :=
  { frame.child id with rank := 0, teamSize := 1, depth := frame.depth.deeper }

/-- The frame of a lane that joins a convergent team of the thread whose top is `frame`. -/
def convergent (frame : Frame) (id : FrameId) (rank teamSize : Nat) : Frame :=
  { frame.child id with rank, teamSize, depth := frame.depth.deeper }

end Frame

end RegionDispatch
