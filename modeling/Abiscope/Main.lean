import Abiscope.Command.Run

/-!
# The program

Gathers what a run may ask for, runs, and shows the outcome. Everything is decided by the run itself.
-/

namespace Abiscope.Main

open Command (Outcome Request Surroundings)

/-- The variables that a run may ask for. -/
def variableNames : List String :=
  [Settings.Logging.formatVariable, Settings.Logging.fileVariable,
    Settings.defaultSuppressionsVariable, "HOME"]

/-- The variables of the environment that are set. -/
def settings : IO (List (String × String)) :=
  variableNames.filterMapM fun name => do
    return (← IO.getEnv name).map fun value => (name, value)

/-- The content of a file, or the reason why it cannot be read. -/
def contentOf (path : String) : IO (Except String ByteArray) := do
  try
    return .ok (← IO.FS.readBinFile path)
  catch
    | .noFileOrDirectory .. => return .error "No such file or directory (os error 2)"
    | .inappropriateType .. => return .error "Is a directory (os error 21)"
    | .permissionDenied .. => return .error "Permission denied (os error 13)"
    | error => return .error (toString error)

/-- Whether a directory is there or can be made. -/
def canHold (directory : String) : IO Bool := do
  try
    IO.FS.createDirAll directory
    return true
  catch _ => return false

/-- What a task finds around it before any file is read. -/
def surroundings : IO Surroundings := do
  let settings ← settings
  let own := Settings.ownSuppressions ((settings.lookup "HOME").getD "")
  let hasOwn ← try
      let _ ← IO.FS.readBinFile own
      pure true
    catch _ => pure false
  let directory := (settings.lookup Settings.Logging.fileVariable).bind
    Settings.Logging.directory?
  let holds ← match directory with
    | some directory => canHold directory
    | none => pure false
  return {
    lookup := fun name => settings.lookup name
    read := fun _ => .error "not read"
    isPresent := fun path => hasOwn && path == own
    canHold := fun path => holds && some path == directory }

/-- Surroundings in which nothing is found. -/
def nothing : Surroundings where
  lookup _ := none
  read _ := .error "not read"
  isPresent _ := false
  canHold _ := false

/-- What a request may ask for, with the contents of the files that it needs. -/
def surroundingsOf : Request → IO Surroundings
  | .perform task _ _ => do
    let around ← surroundings
    let contents ← (task.files around).mapM fun path => do return (path, ← contentOf path)
    return { around with read := fun path => (contents.lookup path).getD (around.read path) }
  | _ => return nothing

/-- Shows an outcome and gives its code. -/
def present (outcome : Outcome) : IO UInt32 := do
  (← IO.getStdout).putStr outcome.output
  if outcome.complaint != "" then (← IO.getStderr).putStrLn ("Error: " ++ outcome.complaint)
  return UInt32.ofNat outcome.code

end Abiscope.Main

/-- Runs the program. -/
def main (arguments : List String) : IO UInt32 := do
  let request := Abiscope.Command.Request.ofArguments arguments
  Abiscope.Main.present (request.run (← Abiscope.Main.surroundingsOf request))
