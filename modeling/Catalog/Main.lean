import Catalog.Clock
import Catalog.Command.Run
import Std.Time.DateTime.Timestamp

/-!
# The program

Gathers what a command depends on, runs it, writes its file and prints its output. Pages of the web
cannot be reached from here: every request counts as sent without an answer.
-/

namespace Catalog.Program

/-- The environment variables that commands depend on. -/
def readVariables : IO (List (String × String)) := do
  let mut found := []
  for name in Settings.variableNames ++ ["RUST_LOG"] do
    if let some value ← IO.getEnv name then
      found := found ++ [(name, value)]
  return found

/-- What stands at a path. -/
def readState (path : String) : IO FileState := do
  try
    let bytes ← IO.FS.readBinFile path
    return match String.fromUTF8? bytes with
      | some text => .file text
      | none => .binary
  catch
    | .inappropriateType _ code _ => return if code = 21 then .directory else .beyondFile
    | .permissionDenied .. => return .locked
    | _ => return .missing

/-- What stands at each of some paths. -/
def readFiles (paths : List String) : IO Files := do
  let states ← paths.mapM fun path => return (path, ← readState path)
  return fun path => (states.lookup path).getD .missing

/-- The present moment. -/
def now : IO String := do
  let moment ← Std.Time.Timestamp.now
  return momentText moment.toNanosecondsSinceUnixEpoch.val.toNat

/-- The world in which nothing answers. -/
def silence : World := { page := fun _ r => some (.error r.unanswered), image := fun _ _ => none }

/-- Runs the command that arguments ask for. -/
def run (args : List String) : IO UInt32 := do
  let started ← now
  let home ← IO.getEnv "HOME"
  let files ← readFiles (pathsOf home args)
  let environment ← readVariables
  let result := runCommand ⟨environment, files, home, silence, started, ← now⟩ args
  if let some (path, text) := result.written then
    IO.FS.writeFile path text
  IO.print result.output
  return result.exitStatus.toUInt32

end Catalog.Program

def main (args : List String) : IO UInt32 := Catalog.Program.run args
