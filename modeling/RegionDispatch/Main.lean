import RegionDispatch.Dashboard.Header
import RegionDispatch.Demo.Run

/-!
# Command line

Runs the demonstration. The first argument, if there is one, names a file with the launch
configuration; the environment variable `LOG` with the value `off` silences the log.
-/

open RegionDispatch

/-- Publishes a snapshot for the dashboard. It is written beside its place first, so that no reader
sees a part of it; a snapshot that cannot be written is lost. -/
def publishSnapshot (snapshot : Snapshot) : IO Unit := do
  let now ← IO.monoMsNow
  let draft := Dashboard.snapshotPath ++ ".tmp"
  try
    IO.FS.writeFile draft (Snapshot.codec.render { snapshot with timestampMs := now.toUInt64 })
    IO.FS.rename draft Dashboard.snapshotPath
  catch _ =>
    pure ()

def main (args : List String) : IO UInt32 := do
  let config ← args.head?.mapM fun path => IO.FS.readFile path
  let logging := (← IO.getEnv "LOG") != some "off"
  let outcome := Demo.run logging config
  outcome.published.forM publishSnapshot
  (outcome.lines logging).forM IO.println
  outcome.ending.message.forM IO.eprintln
  return outcome.ending.exitCode.toUInt32
