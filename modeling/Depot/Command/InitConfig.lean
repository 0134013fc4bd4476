import Depot.Command.Session

/-!
# The command that makes a configuration file

`init-config` writes a configuration file: an example with comments, or the
configuration for a server that is named. A file that is there already stays as
it is unless the command is forced.
-/

namespace Depot.Command.InitConfig

open CommandLine

/-- The command's shape. -/
def shape : Shape where
  about := [
    .flowing "Create a new configuration file.",
    .flowing "Without --server-url the commented example configuration is written.",
    .lines [
      "Examples:",
      "  artq init-config",
      "  artq init-config --output ./artq.toml",
      "  artq init-config --server-url https://repo.example.com/artifactory/ --user ci"]]
  switches := [
    { key := "force", names := ["--force", "-f"]
      about := "Overwrite existing config file" },
    { key := "output", names := ["--output", "-o"], operand := .path
      about := "Output path for config file (default: ~/.config/artq/config.toml)" },
    { key := "server_url", names := ["--server-url"], operand := .text
      about := "Write a config for this server instead of the commented example" },
    { key := "user", names := ["--user"], operand := .text
      about := "User name stored with --server-url" }]

/-- What the command is asked for. -/
structure Request where
  force : Bool
  /-- The path of the file, in place of the standard one. -/
  output : Option Text
  /-- The server that the configuration is for. -/
  serverUrl : Option Text
  user : Option Text
  deriving DecidableEq

/-- What the words of the command ask for. -/
def Request.ofGiven (g : Given) : Request where
  force := g.isOn "force" false
  output := g.text? "output"
  serverUrl := g.text? "server_url"
  user := g.text? "user"

/-- The lines of the example. -/
def exampleLines : List Text := [
  "# artq configuration",
  "#",
  "# Copy to ~/.config/artq/config.toml or create with: artq init-config",
  "",
  "[server]",
  "# Base URL of the repository server (a trailing slash is added if missing)",
  "# url = \"https://repo.example.com/artifactory/\"",
  "# user = \"deployer\"",
  "# password = \"...\"",
  "# API key is sent instead of basic auth when set",
  "# api_key = \"...\"",
  "",
  "[query]",
  "# Fields projected by every compiled query",
  "return_fields = ['\"name\"', '\"repo\"', '\"path\"', '\"actual_md5\"', '\"actual_sha1\"', '\"size\"']",
  "",
  "[build]",
  "# Directory where build data is recorded between commands",
  "# root = \"~/.cache/artq/builds\"",
  "# Environment keys published with build info (';'-separated glob patterns)",
  "env_include = \"*\"",
  "env_exclude = \"*password*;*secret*;*key*\"",
  "",
  "[display]",
  "colored_output = true"]

/-- The text of the example. -/
def exampleText : Text := exampleLines.flatMap fun l => l ++ "\n"

/-- A value, or the end of the run. -/
def orCrash {α : Type} : Except Config.Failure α → Action α
  | .ok a => pure a
  | .error e => crash (.config e)

/-- Writes the file. -/
def write (s : Surroundings) (path : Files.Path) (r : Request) :
    Action (Except Config.Failure Unit) := do
  let disk ← getDisk
  match r.serverUrl with
  | none =>
    let (result, tree) := Config.writeFile s.here disk.tree path exampleText
    setTree tree
    pure result
  | some url =>
    let config ← orCrash (Config.standard s.home)
    let (config, _) ←
      orCrash (Config.validate s.home { config with serverUrl := some url, user := r.user })
    let (result, tree) := Config.save s.here s.home disk.tree config (some path)
    setTree tree
    pure result

/-- Does what the command is asked for. -/
def perform (s : Surroundings) (r : Request) : Action Unit := do
  let named ← orCrash <|
    match r.output with
    | some path => .ok (Files.Path.parse path)
    | none => Config.defaultPath s.home
  let path ← orCrash (Config.settle s.here s.home named)
  let disk ← getDisk
  let taken ←
    match disk.tree.exists? s.here path with
    | .ok taken => pure taken
    | .error e => crash (.file e)
  -- Nothing is written over unless that is asked for.
  if taken && !r.force then
    error s ("Config file already exists: " ++ path.text)
    hint s "Use --force to overwrite"
    exit 1
  match ← write s path r with
  | .ok _ =>
    success s ("Created config file: " ++ path.text)
    info s "Edit this file to customize your settings."
  | .error (.file e) =>
    error s ("Failed to write config file: " ++ e.message)
    exit 1
  | .error e => crash (.config e)

/-- The command. -/
def command : Command where
  name := "init-config"
  shape := shape
  body s _ g := perform s (.ofGiven g)

end Depot.Command.InitConfig
