import DeviceReadings.CommandLine.Run
import Std.Time.DateTime.Timestamp

/-!
# The command

Goes through the stages of a run with the arguments, files, clock and entropy source of the system.
A stage is shown before the next one begins, so that readings are printed as they come, and the
clock is asked again for each of them.
-/

namespace DeviceReadings

namespace CommandLine

/-- What the clock and the entropy source give now. -/
def systemSeeds : IO SystemSeeds := do
  let now ← Std.Time.Timestamp.now
  let entropy ← try
      let bytes ← IO.getRandomBytes 8
      pure (.ok (bytes.toList.foldl (fun word b => word <<< 8 ||| b.toUInt64) 0))
    catch e => pure (.error e.toString)
  return ⟨now.toSecondsSinceUnixEpoch.val, entropy⟩

/-- What an error in reading a file says of the file. -/
def fileStateOfError : IO.Error → FileState
  | .noFileOrDirectory .. => .missing
  | .inappropriateType _ 21 _ => .directory
  | .inappropriateType _ code reason | .permissionDenied _ code reason =>
    .unreadable (reason ++ " (os error " ++ decimal code.toNat ++ ")")
  | e => .unreadable e.toString

/-- What stands under a path. -/
def fileAt (path : List UInt8) : IO FileState := do
  try
    let file ← IO.FS.Handle.mk (String.ofList (Utf8.decodeLossy path)) .read
    return .contents (← file.readBinToEnd).toList
  catch e => return fileStateOfError e

/-- Shows a stage, and does the rest of the run if there is one. The log is written first. -/
def Stage.perform {α : Type} (stage : Stage α) (rest : α → IO UInt32) : IO UInt32 := do
  stage.logged.forM fun line => IO.eprintln line
  stage.printed.forM fun line => IO.println line
  match stage.next with
  | .error code => return code.toUInt32
  | .ok a => rest a

/-- Prints the next readings of a session, each with the seeds of its own time. -/
def printReadings (filter : List Directive) : Nat → Session → IO UInt32
  | 0, _ => return Report.done.code.toUInt32
  | n + 1, session => do
    (Session.printNext filter (session, ← systemSeeds)).perform fun shown =>
      printReadings filter n shown.2.1

end CommandLine

end DeviceReadings

open DeviceReadings DeviceReadings.CommandLine

/-- The command, with its exit code. -/
def main (arguments : List String) : IO UInt32 := do
  let setting := (← IO.getEnv "RUST_LOG").map fun s => s.toUTF8.toList
  (arrange setting (arguments.map fun a => a.toUTF8.toList)).perform fun (options, filter) => do
    (openSession options filter (← fileAt options.config) (← systemSeeds)).perform fun opened =>
      printReadings filter options.count opened.1
