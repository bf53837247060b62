import LogTriage.CommandLine.Run

/-!
# The executable

The program on the files of the machine.
-/

namespace LogTriage

/-- What an error of the system is called. -/
def systemCause (e : IO.Error) : String :=
  match e with
  | .noFileOrDirectory .. => Files.missing
  | e => toString e

/-- What `action` gives, or the cause of its failure. -/
def attempt {α : Type} (action : IO α) : IO (Except String α) := do
  try
    return .ok (← action)
  catch e =>
    return .error (systemCause e)

/-- The files of the machine. -/
def machineFiles : Files IO where
  kind? path := do
    match ← attempt (do (← IO.FS.realPath path).metadata) with
    | .error _ => return none
    | .ok metadata =>
      match metadata.type with
      | .dir => return some .directory
      | _ => return some (.file metadata.byteSize.toNat)
  read path := attempt do return (← IO.FS.readBinFile path).toList
  list path := attempt do
    return (← (← IO.FS.realPath path).readDir).toList.map (·.fileName)

/-- Where the configuration of the user stands. -/
def userConfigDir : IO String := do
  let base := match ← IO.getEnv "XDG_CONFIG_HOME", ← IO.getEnv "HOME" with
    | some dir, home => if dir.startsWith "/" then some dir else home.map (Path.join · ".config")
    | none, home => home.map (Path.join · ".config")
  return match base with
    | some dir => Path.join dir "logwarden"
    | none => "."

end LogTriage

def main (args : List String) : IO UInt32 := do
  let outcome ← LogTriage.CommandLine.run LogTriage.machineFiles (← LogTriage.userConfigDir) args
  IO.print outcome.stdout
  IO.eprint outcome.stderr
  return outcome.exitCode.toUInt32
