import Depot.Command.InitConfig
import Depot.Command.Publish
import Depot.Command.Query

/-!
# The program

The program takes switches of its own, then the name of a command and the words
of that command. Before the command runs, the configuration is loaded, and what
looks wrong in it is warned about. `run` is the program on the words that it is
called with; `runAlone` is one of its commands on its own, without a
configuration. A shell that asks what to propose for a word is answered instead.
-/

namespace Depot.Command

open CommandLine

/-- The switch that asks for the version of the program. -/
def versionSwitch : Switch where
  key := "version"
  names := ["--version"]
  about := "Show the version and exit."

/-- What the program itself is called with. -/
def groupShape : Shape where
  about := [
    .flowing "artq: Compile file patterns into artifact repository queries.",
    .flowing ("Turns glob patterns such as repo/libs/*.jar, optionally filtered by properties, " ++
      "into item queries that match the server's separate path and name fields, and publishes " ++
      "recorded build info."),
    .flowing ("Configuration is loaded from ~/.config/artq/config.toml by default. Use --config " ++
      "or ARTQ_CONFIG to specify an alternative file."),
    .lines [
      "Examples:",
      "  artq query \"libs-release/org/*.jar\" --props \"status=released\"",
      "  artq help patterns"]]
  switches := [
    { key := "config", names := ["--config", "-c"], operand := .path
      about := "Path to config file (default: ~/.config/artq/config.toml, env: ARTQ_CONFIG)" },
    { key := "url", names := ["--url", "-u"], operand := .text
      about := "Repository server URL (overrides config, env: ARTQ_URL)" },
    { key := "no_color", names := ["--no-color"]
      about := "Disable colored output" },
    { key := "verbose", names := ["--verbose", "-v"]
      about := "Print per-entry progress to stderr" },
    { key := "debug", names := ["--debug"]
      about := "Log requests and build data access (implies --verbose)" },
    { key := "quiet", names := ["--quiet", "-q"]
      about := "Suppress config warnings" },
    versionSwitch]

/-! ## Help -/

/-- The shape of the command that shows help. -/
def helpShape : Shape where
  about := [
    .flowing "Show help for a command or a topic.",
    .flowing "Topics: patterns, spec."]
  switches := []
  parameters := [{ name := "TOPIC", needed := false, many := true }]

/-- The commands beside the one that shows help. -/
def otherCommands : List Command :=
  [CollectEnv.command, Publish.command, InitConfig.command, Query.command]

/-- The name of the command that shows help. -/
def helpName : Text := "help"

/-- The shapes of all commands, in the order of their names. -/
def shapes : List (Text × Shape) :=
  let all := (helpName, helpShape) :: otherCommands.map fun c => (c.name, c.shape)
  all.mergeSort fun a b => !Text.before b.1 a.1

/-- What patterns are. -/
def patternsTopic : List Text := [
  "Search patterns",
  "",
  "  A pattern has the form REPO/PATH/NAME. `*` matches any run of",
  "  characters, including `/` when the search is recursive.",
  "",
  "    libs-release               every file in the repository",
  "    libs-release/org/          every file under org/",
  "    libs-release/org/*.jar     jars in org/ and, recursively, below it",
  "    libs-release/(org)/a.jar   parentheses are stripped before matching",
  "",
  "  A pattern without `*` that names a single file is compiled as a",
  "  literal path and never searched recursively.",
  "",
  "  Property filters are written key=value;key=value and must all match."]

/-- What spec files are. -/
def specTopic : List Text := [
  "Spec files",
  "",
  "  `artq query --spec FILE` reads a JSON document:",
  "",
  "    \x7b\"files\": [",
  "      \x7b\"pattern\": \"libs-release/org/*.jar\", \"props\": \"status=ok\",",
  "       \"recursive\": \"false\"\x7d,",
  "      \x7b\"aql\": \x7b\"items.find\": \x7b\"repo\": \"libs-release\"\x7d\x7d\x7d",
  "    ]\x7d",
  "",
  "  Each entry has either a pattern or a raw `aql` body. Flags accept",
  "  booleans or the strings \"true\" and \"false\"; recursive defaults to true.",
  "  Entries are compiled in order and a failing entry is reported by its",
  "  position."]

/-- The topics, in the order of their names. -/
def topics : List (Text × List Text) := [("patterns", patternsTopic), ("spec", specTopic)]

/-- The page for words after the name of the help command. The first word that
    names a command decides; without one the page is that of the program. -/
def helpPage (program : Text) (words : List Text) : Except Text Text :=
  match words with
  | [] => .ok (page program groupShape shapes)
  | name :: _ =>
    match shapes.find? fun c => c.1 = name with
    | some c => .ok (page program c.2 [])
    | none => .error name

/-- Shows a topic, or the page of a command. -/
def showHelp (s : Surroundings) (program : Text) (words : List Text) : Action Unit := do
  let topic : Option (Text × List Text) :=
    match words with
    | [name] => topics.find? fun t => t.1 = name
    | _ => none
  match topic with
  | some t => echo (t.2.flatMap fun l => l ++ "\n")
  | none =>
    match helpPage program words with
    | .ok t => echo t
    | .error name =>
      error s ("Unknown command or topic: " ++ name)
      hint s ("Topics: " ++ Text.joined ", " (topics.map fun t => t.1))
      exit 1

/-- The command that shows help. -/
def helpCommand : Command where
  name := helpName
  shape := helpShape
  body s _ g := showHelp s (Program.name ++ " " ++ helpName) g.words

/-- All commands. -/
def commands : List Command := helpCommand :: otherCommands

/-! ## Running -/

/-- What the words of the program ask for. -/
inductive Asked where
  | page
  | version
  /-- A command, with the switches of the program and the words after its name. -/
  | command (c : Command) (given : Given) (words : List Text)

/-- What the words of the program give, read once: a page that is asked for
    comes before everything but what cannot be read. No switch of the program
    refuses a folder. -/
def readGroup (words : List Text) : Except UsageError (Given × Option Asked) :=
  match readWords groupShape.allSwitches true words with
  | .error e => .error e
  | .ok g =>
    let asked := g.switches.findSome? fun o =>
      if o.key = helpSwitch.key then some Asked.page
      else if o.key = versionSwitch.key then some Asked.version
      else none
    match asked, checkValues (fun _ => false) groupShape.allSwitches g with
    | none, some e => .error e
    | _, _ => .ok (g, asked)

/-- What the words of the program ask for. A name that looks like a switch is
    read as one before it is refused as the name of a command. -/
def ask (words : List Text) : Except UsageError Asked :=
  match readGroup words with
  | .error e => .error e
  | .ok (_, some asked) => .ok asked
  | .ok (g, none) =>
    match g.words with
    | [] => .error .noCommand
    | name :: rest =>
      match commands.find? fun c => c.name = name with
      | some c => .ok (.command c g rest)
      | none =>
        match readGroup (name :: rest) with
        | .error e => .error e
        | .ok (_, some asked) => .ok asked
        | .ok (_, none) =>
          .error (.noSuchCommand name (Text.closeMatches (commands.map fun c => c.name) name))

/-- Whether a configuration that cannot be loaded is an error that the program
    tells, and not one that it ends by. -/
def isTold : Config.Failure → Bool
  | .file e => e.trouble ≠ .nul
  | .notToml .. => true
  | .invalid .. => true
  | _ => false

/-- The configuration that the switches and the variables of the program name,
    and what looks wrong in it. -/
def loadConfig (s : Surroundings) (g : Given) : Action (Config × List Config.Warning) := do
  let disk ← getDisk
  let path := (g.text? "config").orElse fun _ => s.nonEmpty? "ARTQ_CONFIG"
  let url := (g.text? "url").orElse fun _ => s.nonEmpty? "ARTQ_URL"
  match Config.load s.here s.home disk.tree (path.map Files.Path.parse) url with
  | .ok loaded => pure loaded
  | .error e =>
    if isTold e then
      error s e.message
      hint s "Fix the file or regenerate it with 'artq init-config --force'"
      exit 1
    else crash (.config e)

/-- What the switches of the program give its commands. -/
def prepare (s : Surroundings) (g : Given) (c : Command) : Action Context := do
  let debug := g.isOn "debug" false
  modify fun state => { state with logged := debug }
  let (config, warnings) ← loadConfig s g
  if !g.isOn "quiet" false && c.name ≠ InitConfig.command.name then
    warnings.forM fun w => warning s w.message
  pure { config := some config, verbose := g.isOn "verbose" false || debug }

/-- The program on the words that it is called with. -/
def program (s : Surroundings) (words : List Text) : Action Unit := do
  let name := Program.name
  if words = [] then
    echoBeside (page name groupShape shapes ++ "\n")
    exit 2
  match ask words with
  | .error e => refuseUsage name (usageLine name groupShape true) e
  | .ok .page => echo (page name groupShape shapes)
  | .ok .version => echo (name ++ ", version " ++ Program.version)
  | .ok (.command c g rest) =>
    let context ← prepare s g c
    c.call (name ++ " " ++ c.name) s context rest

/-! ## Shells -/

/-- Answers a shell that asks about a command with some subcommands. -/
def answerShell (s : Surroundings) (shape : Shape) (inner : List (Text × Shape)) :
    Shell.Question → Action Unit
  | .unknown => exit 1
  | .script shell => echo shell.script
  | .proposals shell =>
    match shell.draft s.value? with
    | .error fault => crash (.shell fault)
    | .ok draft => echo (Text.joined "\n" ((propose shape inner draft).map shell.told))

/-- Answers a shell if one asks, and does something else if none does. -/
def unlessAsked (s : Surroundings) (shape : Shape) (inner : List (Text × Shape))
    (action : Action Unit) : Action Unit :=
  match s.nonEmpty? Program.shellVariable with
  | some t => answerShell s shape inner (Shell.Question.ofText t)
  | none => action

/-! ## Whole runs -/

/-- Runs the program. -/
def run (s : Surroundings) (words : List Text) (disk : Build.Disk) : Outcome :=
  finish (unlessAsked s groupShape shapes (program s words)) disk

/-- Runs a command on its own. -/
def runAlone (c : Command) (s : Surroundings) (words : List Text) (disk : Build.Disk) : Outcome :=
  finish (unlessAsked s c.shape [] (c.call Program.name s {} words)) disk

end Depot.Command
