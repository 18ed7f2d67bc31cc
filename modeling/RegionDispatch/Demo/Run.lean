import RegionDispatch.Demo.Kernel
import RegionDispatch.Json.Forms

/-!
# A demonstration run

A run reads its launch configuration, launches the kernel with live metrics, and then runs the
divergent lanes on a block of their own.

* `run` — a whole run, from the text of the configuration.
* `Outcome` — what it leaves behind.
-/

namespace RegionDispatch.Demo

open Dispatch

/-- The steps of a run. -/
abbrev RunM := Dispatch (Launch Journal)

/-- How a run ends. -/
inductive Ending where
  /-- Everything ran. -/
  | finished
  /-- The configuration was not read. -/
  | unread (error : Json.ReadError)
  /-- A step was refused. -/
  | refused (error : DispatchError)
  /-- A step faulted. -/
  | faulted (fault : Fault)
  deriving DecidableEq

/-- The exit code of an ending. -/
def Ending.exitCode : Ending → Nat
  | finished => 0
  | unread _ => 1
  | refused _ => 1
  | faulted _ => 101

/-- What an ending is reported with, unless everything ran. -/
def Ending.message : Ending → Option String
  | finished => none
  | unread .malformed => some "the launch configuration is malformed"
  | unread .mismatch => some "the launch configuration is not of the expected shape"
  | unread .truncated => some "the launch configuration ends too early"
  | refused error => some error.message
  | faulted fault => some fault.message

/-- What a run leaves behind. -/
structure Outcome where
  /-- How it ended. -/
  ending : Ending
  /-- What it told, in order. -/
  events : List Event
  /-- The snapshot it published last. -/
  published : Option Snapshot

/-- The lines of a run, with or without the log. -/
def Outcome.lines (outcome : Outcome) (logging : Bool) : List String :=
  (outcome.events.filter fun event => logging || event.isReport).filterMap (·.text)

/-- The device of the demonstration. -/
def device : Device := ⟨.volta, true⟩

/-- The configuration of a run that is given none. -/
def defaultConfig : LaunchConfig := ⟨.line 2, .line 128, true, 0⟩

/-- The configuration of the block for the divergent lanes. -/
def simdConfig : LaunchConfig := ⟨.line 1, .line 64, true, 0⟩

/-- Tells that the device is ready. Only the log asks for the volumes of the launch, so only with a
log can they fault here. -/
def announce (logging : Bool) (config : LaunchConfig) : RunM Unit :=
  if logging then do
    let blocks ← checked config.blockCount
    let threads ← checked config.blockSize
    Launch.onHost (tell (.ready device.arch blocks threads))
  else
    pure ()

/-- Launches the kernel. -/
def launchKernel (config : LaunchConfig) : RunM Unit := do
  let kernel := nestedRegions
  Launch.onHost (tell (.launching kernel.name kernel.mode device.arch config))
  match ← attempt (device.launch kernel config) with
  | .ok totals =>
    Launch.onHost do
      tell (.complete kernel.name totals)
      tell (.totals totals)
  | .error error =>
    Launch.onHost (tell (.refused error))
    reject error

/-- Runs the divergent lanes on a new block. -/
def runSimdLanes : RunM Unit := Launch.onHost do
  let block ← checked (Block.create device.arch .spmd simdConfig)
  let count ← embed (⟨block, ·⟩) Hosted.host simdLanes
  tell (.teams simdMask count)

/-- All steps of a run behind its configuration. -/
def steps (logging : Bool) (config : LaunchConfig) : RunM Unit := do
  announce logging config
  launchKernel config
  runSimdLanes

/-- A run with a configuration. -/
def runWith (logging : Bool) (config : LaunchConfig) : Outcome :=
  let outcome (ending : Ending) (s : Launch Journal) : Outcome :=
    ⟨ending, s.host.reverse, s.published.head?⟩
  match steps logging config ⟨[], []⟩ with
  | .ok () s => outcome .finished s
  | .error (.rejected error) s => outcome (.refused error) s
  | .error (.halted fault) s => outcome (.faulted fault) s

/-- A whole run, from the text of its configuration if there is one. -/
def run (logging : Bool) (text : Option String) : Outcome :=
  match text with
  | none => runWith logging defaultConfig
  | some text =>
    match LaunchConfig.codec.parse text with
    | .ok config => runWith logging config
    | .error error => ⟨.unread error, [], none⟩

end RegionDispatch.Demo
