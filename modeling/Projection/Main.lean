import Projection.Outcome

set_option autoImplicit false

namespace Projection

def directoryError : UInt32 := 21

/-- What stands at a path. What is there but may not be read counts as a directory, and what has no
name in UTF-8 is not found. -/
def readEntry (path : Path) : IO (Option Entry) := do
  let some name := path.toString? | return none
  try
    return some (.file (← IO.FS.readBinFile name))
  catch
    | .permissionDenied .. => return some .directory
    | .inappropriateType _ code _ =>
      return if code = directoryError then some .directory else none
    | _ => return none

def readFiles (paths : List Path) : IO Files := do
  let entries ← paths.mapM fun path => return (path, ← readEntry path)
  return fun path => (entries.lookup path).join

def readEnvironment (names : List String) : IO Environment :=
  (names.filter ('\x00' ∉ ·.toList)).filterMapM fun name =>
    return (← IO.getEnv name).map (Environment.entry name)

def outcome (arguments : List RawText) : IO Outcome := do
  match Invocation.ofArguments arguments with
  | none => return .misused
  | some invocation =>
    let paths := Config.paths invocation.directoryOrDefault
    let files ← readFiles paths
    let environment ← readEnvironment
      (LogFilter.sharedVariable :: Config.variableNames files invocation.directoryOrDefault)
    let data :=
      match invocation.config files environment with
      | .ok config => config.data.toList
      | .error _ => []
    return Outcome.ofArguments (← readFiles (paths ++ data)) environment arguments

end Projection

def main (arguments : List String) : IO UInt32 := do
  let outcome ← Projection.outcome (arguments.map Projection.RawText.ofString)
  IO.print outcome.output
  if outcome.exitCode != 0 then IO.eprintln outcome.message
  return outcome.exitCode.toUInt32
