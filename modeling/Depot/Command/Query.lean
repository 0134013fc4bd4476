import Depot.Command.Session

/-!
# The command that compiles queries

`query` compiles one pattern, or every entry of a spec file, and prints the
queries line by line or as a JSON list. The first entry that does not compile
ends it, unless it is asked to keep going; then each such entry is warned about
and the queries of the others are printed.
-/

namespace Depot.Command.Query

open CommandLine

/-- The command's shape. -/
def shape : Shape where
  about := [
    .flowing "Compile PATTERN (or every entry of --spec) into item queries.",
    .flowing ("PATTERN has the form repository/path/name where * matches any run of " ++
      "characters. A bare repository name searches the whole repository."),
    .lines [
      "Examples:",
      "  artq query \"libs-release/org/*.jar\"",
      "  artq query \"libs-release/org/*.jar\" --no-recursive",
      "  artq query \"libs-release/a/*b*c*\" --props \"status=ok;team=core\"",
      "  artq query \"libs-release/build-*/\" --folders",
      "  artq query --spec download-spec.json --format json"],
    .flowing "Queries are printed one per line; the command never contacts the server."]
  switches := [
    { key := "spec", names := ["--spec"], operand := .file
      about := "JSON spec file listing patterns or raw queries" },
    { key := "props", names := ["--props"], operand := .text
      about := "Property filters, e.g. \"status=released;team=core\"" },
    { key := "recursive", names := ["--recursive"], offNames := ["--no-recursive"]
      about := "Also match items in subdirectories", shownDefault := some "recursive" },
    { key := "folders", names := ["--folders"]
      about := "Match folders instead of files" },
    { key := "fields", names := ["--fields"], operand := .text
      about := "Comma-separated fields to include (default: from config)" },
    { key := "format", names := ["--format", "-f"], operand := .oneOf ["text", "json"]
      about := "Output format (default: text)" },
    { key := "keep_going", names := ["--keep-going", "-k"]
      about := "Continue with remaining spec entries after a failure" }]
  parameters := [{ name := "PATTERN", needed := false }]

/-- What the command is asked for. -/
structure Request where
  pattern : Option Text
  /-- The path of a spec file. -/
  spec : Option Text
  properties : Text
  recursive : Bool
  folders : Bool
  /-- The fields to ask for, with commas between them. -/
  fields : Option Text
  /-- Whether the queries are printed as a JSON list. -/
  asJson : Bool
  keepGoing : Bool
  deriving DecidableEq

/-- What the words of the command ask for. -/
def Request.ofGiven (g : Given) : Request where
  pattern := g.words.head?
  spec := g.text? "spec"
  properties := (g.text? "props").getD []
  recursive := g.isOn "recursive" true
  folders := g.isOn "folders" false
  fields := g.text? "fields"
  asJson := g.text? "format" = some (Text.ofString "json")
  keepGoing := g.isOn "keep_going" false

/-- The fields in a list with commas; blank ones are left out. -/
def splitFields (t : Text) : List Text :=
  ((Text.pieces ',' t).map Text.strip).filter (· ≠ [])

/-- The entries of a spec file. -/
def loadSpec (s : Surroundings) (path : Files.Path) : Action (List Spec.Entry) := do
  let disk ← getDisk
  let refuse (d : Spec.Defect) : Action (List Spec.Entry) := do
    error s (d.message path.text)
    exit 3
  match disk.tree.read s.here path with
  | .error e =>
    match e.trouble with
    | .nul => crash (.file e)
    | trouble => refuse (.unreadable trouble.words)
  | .ok bytes =>
    match Spec.parseBytes bytes with
    | .ok es => pure es
    | .error (.defect d) => refuse d
    | .error e => crash (.spec e)

/-- A query with what it was compiled from. -/
structure Compiled where
  /-- The place of the entry in its list, from 0. -/
  index : Nat
  entry : Spec.Entry
  query : Text
  deriving DecidableEq

/-- The query and its entry as a JSON object. -/
def Compiled.toJson (c : Compiled) : Json :=
  let kind : Json :=
    match c.entry.kind? with
    | some k => .text k.name
    | none => .null
  let label := if c.entry.pattern ≠ [] then c.entry.pattern else c.entry.body
  .object [("index", .int (c.index + 1)), ("type", kind), ("pattern", .text label),
    ("query", .text c.query)]

/-- The progress that is told of an entry. -/
def progressText (index : Nat) (e : Spec.Entry) : Text :=
  let kind : Text :=
    match e.kind? with
    | some k => k.name
    | none => "empty"
  "Entry #" ++ Text.ofNat (index + 1) ++ ": " ++ kind

/-- The queries of the entries that compile, and whether one did not. The first
    argument is the place of the first entry. -/
def compileEach (s : Surroundings) (c : Context) (fields : List Text) (folders keepGoing : Bool) :
    Nat → List Spec.Entry → Action (List Compiled × Bool)
  | _, [] => pure ([], false)
  | index, e :: es => do
    progress s c (progressText index e)
    match e.compile fields folders with
    | .error fault =>
      let failure : Spec.Entry.Failure := ⟨index, fault.fragment e, fault⟩
      -- The failure of one entry ends the run, or counts in the end.
      if keepGoing then
        warning s failure.message
        let (compiled, _) ← compileEach s c fields folders keepGoing (index + 1) es
        pure (compiled, true)
      else
        error s failure.message
        exit 2
    | .ok query =>
      let (compiled, failed) ← compileEach s c fields folders keepGoing (index + 1) es
      pure (⟨index, e, query⟩ :: compiled, failed)

/-- Prints queries. -/
def printQueries (asJson : Bool) (compiled : List Compiled) : Action Unit :=
  if asJson then echo ((Json.list (compiled.map Compiled.toJson)).render .indented)
  else compiled.forM fun c => echo c.query

/-- Compiles entries and prints their queries. -/
def compileEntries (s : Surroundings) (c : Context) (r : Request) (entries : List Spec.Entry) :
    Action Unit := do
  let standard : List Text :=
    match c.config with
    | some config => config.fields
    | none => Search.defaultFields
  let fields := (r.fields.map splitFields).getD standard
  let (compiled, failed) ← compileEach s c fields r.folders r.keepGoing 0 entries
  printQueries r.asJson compiled
  if failed then exit 2

/-- Does what the command is asked for. -/
def perform (s : Surroundings) (c : Context) (r : Request) : Action Unit := do
  match r.pattern, r.spec with
  | some pattern, none =>
    compileEntries s c r
      [{ pattern := pattern, properties := r.properties, recursive := r.recursive }]
  | none, some path =>
    if r.properties ≠ [] ∨ !r.recursive then
      error s "--props and --no-recursive only apply to PATTERN"
      hint s "Set props and recursive on each spec entry instead"
      exit 1
    else
      let entries ← loadSpec s (Files.Path.parse path)
      compileEntries s c r entries
  | _, _ =>
    error s "Provide either PATTERN or --spec"
    hint s "See 'artq query --help'"
    exit 1

/-- The command. -/
def command : Command where
  name := "query"
  shape := shape
  body s c g := perform s c (.ofGiven g)

end Depot.Command.Query
