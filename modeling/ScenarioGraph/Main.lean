/-
# ScenarioGraph.Main -- the program

Reads the files that an invocation looks at, runs it, writes its two texts and
returns its exit code.
-/
import ScenarioGraph.CommandLine.Run

namespace ScenarioGraph.CommandLine

set_option autoImplicit false

/-- What a failed reading of a path means. -/
def readFailure (fault : IO.Error) : ReadFailure :=
  match fault with
  | .permissionDenied .. => .denied
  | .inappropriateType .. => .notDirectory
  | .invalidArgument _ 36 _ => .nameTooLong
  | _ => .missing

/-- The bytes at a path. -/
def lookUp (path : String) : IO (Except ReadFailure ByteArray) := do
  if ← ((← IO.currentDir) / path).isDir then return .error .directory
  try
    return .ok (← IO.FS.readBinFile path)
  catch fault =>
    return .error (readFailure fault)

/-- Whether a file stands at a path. -/
def isFileHere (path : String) : IO Bool := do
  try
    return (← ((← IO.currentDir) / path).metadata).type == .file
  catch _ =>
    return false

/-- The files of the system, as far as the arguments ask for them. -/
def filesHere (arguments : List String) : IO Files := do
  let paths := match Invocation.ofArguments arguments with
    | .ok invocation => invocation.paths
    | .error _ => []
  let found ← paths.mapM fun path => return (path, ← lookUp path, ← isFileHere path)
  return {
    read := fun path => ((found.lookup path).map Prod.fst).getD (.error .missing)
    isFile := fun path => ((found.lookup path).map Prod.snd).getD false }

end ScenarioGraph.CommandLine

def main (arguments : List String) : IO UInt32 := do
  let files ← ScenarioGraph.CommandLine.filesHere arguments
  let outcome := ScenarioGraph.CommandLine.outcomeOf files arguments
  (← IO.getStdout).putStr outcome.output
  (← IO.getStderr).putStr outcome.errors
  return outcome.code.toUInt32
