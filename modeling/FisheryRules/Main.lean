import FisheryRules.Service.Checker

/-!
# Command line

Checks the rule definitions at the path that the environment gives. The exit code tells whether
all of them compile; if not, the reason is written to the error output.
-/
namespace FisheryRules.CommandLine

/-- The variables that the checker reads. -/
def variableNames : List String :=
  ["ENV", "NODE_NAME", "LOG_LEVEL", "REFRESH_INTERVAL_SECS", "ALWAYS_TICKET_ON_FIRE",
    "ASSET_SILENCE_THRESHOLD_SECS", "SYSTEM_USER", "RULES_PATH"].map (Config.standardStart ++ ·)

/-- The variables that are set. -/
def environment : IO Environment := do
  let found ← variableNames.mapM fun name => do return (name, ← IO.getEnv name)
  return found.filterMap fun (name, value) => value.map (name, ·)

/-- Reads what is at a path. The directories in a directory are not read. -/
def readTree (path : String) : IO (Option FileTree) := do
  try
    let place ← IO.FS.realPath path
    if ← place.isDir then
      let entries ← place.readDir
      let trees ← entries.toList.mapM fun entry => do
        if ← entry.path.isDir then return (entry.fileName, FileTree.directory [])
        else return (entry.fileName, FileTree.file (← IO.FS.readBinFile entry.path))
      return some (.directory trees)
    else return some (.file (← IO.FS.readBinFile place))
  catch _ => return none

/-- A supply of identifiers from a random number. -/
def newIds : IO IdSupply := do
  let start ← IO.rand 0 0x3FFFFFFFFFFFFFFF
  return { name := fun n => Uuid.ofNat (start <<< 64 + n) }

/-- Runs the check. -/
def run : IO UInt32 := do
  let environment ← environment
  let path := (environment.lookup (Config.standardStart ++ "RULES_PATH")).getD ""
  let tree ← readTree path
  match Checker.check environment (fun _ => tree) (← newIds) with
  | .ok () => return 0
  | .error error =>
    IO.eprintln s!"Error: {error.message}"
    return 1

end FisheryRules.CommandLine

def main : IO UInt32 := FisheryRules.CommandLine.run
