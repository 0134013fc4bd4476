import Depot.Command.Session

/-!
# The command that records variables

`build-collect-env` records all variables of its process for a build. They are
selected when the build is published.
-/

namespace Depot.Command.CollectEnv

open CommandLine

/-- The command's shape. -/
def shape : Shape where
  about := [
    .flowing "Record environment variables for BUILD_NAME / BUILD_NUMBER.",
    .flowing "Variables are filtered when the build is published, not here."]
  switches := []
  parameters := [{ name := "BUILD_NAME" }, { name := "BUILD_NUMBER" }]

/-- The build that words name. -/
def buildOf (g : Given) : Build := ⟨(g.words[0]?).getD [], (g.words[1]?).getD []⟩

/-- Whether a failure is one that the command expects: damaged data, or what the
    system says about a file. -/
def isExpected (e : Build.Failure) : Bool :=
  match e with
  | .file f => f.trouble ≠ .nul
  | e => e.isDataFailure

/-- Records the variables for a build. -/
def perform (s : Surroundings) (c : Context) (b : Build) : Action Unit := do
  let config ← needConfig s c
  match Build.folder? config.buildRoot b with
  | .error e => crash (.build e)
  | .ok folder =>
    let disk ← getDisk
    let (result, disk) := Build.saveEnv s.setting folder s.environment disk
    setDisk disk
    match result with
    | .ok _ => success s ("Collected environment variables for " ++ b.name ++ "/" ++ b.number)
    | .error e =>
      if isExpected e then
        error s ("Failed to record environment: " ++ e.message)
        exit 1
      else crash (.build e)

/-- The command. -/
def command : Command where
  name := "build-collect-env"
  shape := shape
  body s c g := perform s c (buildOf g)

end Depot.Command.CollectEnv
