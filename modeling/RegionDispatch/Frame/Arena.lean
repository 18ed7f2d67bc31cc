import RegionDispatch.Frame.Basic

/-!
# The frame arena

Block-wide storage of task frames. A released slot is used again before a new one is made, the
slot released last first, so the short-lived frames of nested regions do not grow the arena.

The runtime keeps an id in a 32-bit word, here it is any number. The two are the same thing as long
as an arena has fewer than 2 ^ 32 slots, which is assumed of every arena throughout; one with more
would take hundreds of gigabytes.

* `FrameArena.get?` — the arena as a finite map from ids to frames.
* `FrameArena.alloc`, `FrameArena.release`, `FrameArena.overwrite`, `FrameArena.modify` — its
  operations; an id that is not live is never an error.
* `FrameArena.live` — how many frames are stored.
-/

namespace RegionDispatch

/-- Storage of the frames of one block. -/
structure FrameArena where
  /-- A frame, or nothing where the frame was released. -/
  slots : Array (Option Frame) := #[]
  /-- The empty slots, the one to use next first. -/
  free : List Nat := []
  deriving DecidableEq, Repr

namespace FrameArena

instance : Inhabited FrameArena := ⟨{}⟩

/-- The frame stored under a live id. -/
def get? (arena : FrameArena) (id : FrameId) : Option Frame := arena.slots[id.index]?.join

/-- Whether a frame is stored under an id. -/
def isLive (arena : FrameArena) (id : FrameId) : Bool := (arena.get? id).isSome

/-- Stores a frame under an id that is not live. -/
def alloc : FrameArena → Frame → FrameId × FrameArena
  | ⟨slots, []⟩, frame => (⟨slots.size⟩, ⟨slots.push (some frame), []⟩)
  | ⟨slots, index :: free⟩, frame => (⟨index⟩, ⟨slots.setIfInBounds index (some frame), free⟩)

/-- Removes the frame stored under a live id and gives it back. -/
def release (arena : FrameArena) (id : FrameId) : Option Frame × FrameArena :=
  match arena.get? id with
  | none => (none, arena)
  | some frame =>
    (some frame, ⟨arena.slots.setIfInBounds id.index none, id.index :: arena.free⟩)

/-- Replaces the frame stored under a live id. -/
def overwrite (arena : FrameArena) (id : FrameId) (frame : Frame) : Bool × FrameArena :=
  if arena.isLive id then
    (true, { arena with slots := arena.slots.setIfInBounds id.index (some frame) })
  else
    (false, arena)

/-- Changes the frame stored under a live id. -/
def modify (arena : FrameArena) (id : FrameId) (f : Frame → Frame) : FrameArena :=
  { arena with slots := arena.slots.modify id.index (Option.map f) }

/-- The number of stored frames. -/
def live (arena : FrameArena) : Nat := arena.slots.size - arena.free.length

end FrameArena

end RegionDispatch
