import Depot.Command.CollectEnv

/-!
# The command that publishes a build

`build-publish` sends what is recorded for a build to the server as one
document. Only when the server has taken it is the record removed, or what the
system lets be removed of it; until then nothing on the disk changes. A dry run
prints the document instead.
-/

namespace Depot.Command.Publish

open CommandLine

/-- The command's shape. -/
def shape : Shape where
  about := [
    .flowing "Publish the data recorded for BUILD_NAME / BUILD_NUMBER.",
    .flowing ("Recorded artifacts, dependencies and environment variables are merged into " ++
      "one build info document. Environment keys are kept when they match an include pattern " ++
      "and no exclude pattern."),
    .lines [
      "Examples:",
      "  artq build-publish my-build 42 --dry-run",
      "  artq build-publish my-build 42 --env-exclude \"*token*;*password*\""]]
  switches := [
    { key := "env_include", names := ["--env-include"], operand := .text
      about := "';'-separated patterns of env keys to publish (default: from config)" },
    { key := "env_exclude", names := ["--env-exclude"], operand := .text
      about := "';'-separated patterns of env keys to withhold (default: from config)" },
    { key := "dry_run", names := ["--dry-run"]
      about := "Print the build info document instead of publishing it" }]
  parameters := [{ name := "BUILD_NAME" }, { name := "BUILD_NUMBER" }]

/-- What the command is asked for. -/
structure Request where
  build : Build
  /-- The patterns of the variables to publish, in place of the configured ones. -/
  keep : Option Text
  /-- The patterns of the variables to withhold, in place of the configured ones. -/
  withhold : Option Text
  dryRun : Bool
  deriving DecidableEq

/-- What the words of the command ask for. -/
def Request.ofGiven (g : Given) : Request where
  build := CollectEnv.buildOf g
  keep := g.text? "env_include"
  withhold := g.text? "env_exclude"
  dryRun := g.isOn "dry_run" false

/-- Which variables of a build are published. -/
def Request.selection (r : Request) (config : Config) : Build.Selection :=
  ⟨Build.Environment.splitPatterns (r.keep.getD config.keep),
    Build.Environment.splitPatterns (r.withhold.getD config.withhold)⟩

/-- The document of what is recorded for a build. -/
def readDocument (s : Surroundings) (config : Config) (r : Request) : Action Json := do
  let disk ← getDisk
  match Build.read s.here disk.tree config.buildRoot r.build with
  | .error e =>
    if e.isDataFailure then
      error s e.message
      exit 2
    else crash (.build e)
  | .ok record =>
    let made :=
      Build.document r.build record.started record.partials (r.selection config) s.now.zone
    match made with
    | .ok document => pure document
    | .error e => crash (.moment e)

/-- Sends a document; an answer other than success ends the run. -/
def send (s : Surroundings) (server : Build.Server) (document : Json) : Action Unit := do
  -- The request is out before there is an answer.
  modify fun state => { state with requests := state.requests ++ [.publish server document] }
  match s.reply.outcome server with
  | .ok _ => pure ()
  | .error (.tooDeep container) => crash (.reply container)
  | .error e =>
    error s e.message
    exit 3

/-- Removes the record of a build that was published. -/
def removeRecord (s : Surroundings) (config : Config) (b : Build) : Action Unit := do
  let complain (complaint : Text) : Action Unit :=
    warning s ("Published, but could not remove recorded build data: " ++ complaint)
  match s.removalTrouble with
  | some complaint =>
    match Build.folder? config.buildRoot b with
    | .error e => crash (.build e)
    | .ok folder =>
      let disk ← getDisk
      setTree (disk.tree.removeSome s.here folder s.removedBefore)
      complain complaint
  | none =>
    let disk ← getDisk
    match Build.remove s.setting config.buildRoot b disk with
    | (.ok _, disk) => setDisk disk
    | (.error e, disk) =>
      setDisk disk
      if CollectEnv.isExpected e then complain e.message else crash (.build e)

/-- Publishes a build at a server. -/
def publish (s : Surroundings) (config : Config) (b : Build) (server : Build.Server)
    (document : Json) : Action Unit := do
  info s "Deploying build info..."
  send s server document
  -- The record goes last, when the success has been told.
  success s ("Build info successfully deployed. Browse it under " ++ server.browseUrl b)
  removeRecord s config b

/-- Does what the command is asked for. -/
def perform (s : Surroundings) (c : Context) (r : Request) : Action Unit := do
  let config ← needConfig s c
  let url := config.serverUrl.getD []
  if !r.dryRun && url = [] then
    error s "No server URL configured"
    hint s "Set server.url in the config or pass --url"
    exit 1
  let document ← readDocument s config r
  if r.dryRun then echo (document.render .indented)
  else
    publish s config r.build
      (Build.Server.connect url config.user config.password config.apiKey) document

/-- The command. -/
def command : Command where
  name := "build-publish"
  shape := shape
  body s c g := perform s c (.ofGiven g)

end Depot.Command.Publish
