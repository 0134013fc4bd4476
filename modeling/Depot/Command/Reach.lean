import Depot.Command.Group

/-!
# What a run reaches

A run reads and writes few files: those that its words and variables name, the
configuration, and what is recorded for a build. Whoever lends a run a part of a
disk has to know them before it. `reachedPaths` are the paths that words and
variables alone tell; the folder of a build is known once the configuration is
there (`reachedBuild?`).
-/

namespace Depot.Command

open CommandLine

/-- The paths given with the switches of a command. -/
def pathsGiven (shape : Shape) (g : Given) : List Text :=
  g.switches.filterMap fun o =>
    match shape.allSwitches.find? fun s => s.key = o.key, o.value with
    | some s, .text t => if s.operand = .path ∨ s.operand = .file then some t else none
    | _, _ => none

/-- The paths that the words of the program name. -/
def pathsIn (words : List Text) : List Text :=
  match ask words with
  | .ok (.command c g rest) =>
    let further :=
      match readWords c.shape.allSwitches false rest with
      | .ok given => pathsGiven c.shape given
      | .error _ => []
    pathsGiven groupShape g ++ further
  | _ => []

/-- The paths that a run may look at or write, but for those of builds. -/
def reachedPaths (s : Surroundings) (words : List Text) : List Files.Path :=
  let named := (pathsIn words ++ (s.nonEmpty? "ARTQ_CONFIG").toList).map Files.Path.parse
  let settled := (named ++ (Config.defaultPath s.home).toOption.toList).filterMap fun p =>
    (Config.settle s.here s.home p).toOption
  named ++ settled

/-- The folder of the build that a run is about. -/
def reachedBuild? (s : Surroundings) (words : List Text) (disk : Build.Disk) :
    Option Files.Path := do
  let .ok (.command c g rest) := ask words | none
  if c.name ≠ CollectEnv.command.name ∧ c.name ≠ Publish.command.name then none
  let .ok given := readWords c.shape.allSwitches false rest | none
  let (.ok (config, _), _) := (loadConfig s g).run { disk := disk } | none
  (Build.folder? config.buildRoot (CollectEnv.buildOf given)).toOption

end Depot.Command
