import Depot.Config.Basic
import Depot.Toml.Printer
import Depot.Toml.Reader

/-!
# Configuration files

A configuration is written as a TOML document with a section for the queries,
one for the builds, one for the display, and one for the server if anything is
known about it.

A document read may hold anything. `Config.ofTables` takes the settings that it
knows, one after the other, and the first one with a value of the wrong kind is
refused. A section that is no table at all is refused only where a setting is
looked for in it: in a text or a list that does not contain the name of the
setting there is no such setting.
-/

namespace Depot.Config

open Files (Path Location Tree)
open Toml (Value Members)

/-! ## Reading -/

/-- The kind of a value as messages call it. -/
def kindName : Value → Text
  | .absent => "NoneType"
  | .text _ => "str"
  | .integer _ => "int"
  | .float _ => "float"
  | .boolean _ => "bool"
  | .dateTime _ => "datetime.datetime"
  | .date _ => "datetime.date"
  | .time .. => "datetime.time"
  | .list _ => "list"
  | .table _ => "dict"

/-- The value with a name. -/
def get? (name : Text) (ms : Members) : Option Value := (ms.find? fun m => m.1 = name).map (·.2)

/-- Whether a value is a certain text. -/
def isText (t : Text) : Value → Bool
  | .text t' => t = t'
  | _ => false

/-- The value that a section has for a setting, if any. -/
def setting? (part : Value) (name : Text) : Except Failure (Option Value) :=
  match part with
  | .table ms => .ok (get? name ms)
  | .text t => if Text.contains name t then .error .textSection else .ok none
  | .list items => if items.any (isText name) then .error .listSection else .ok none
  | v => .error (.unsearchable (kindName v))

/-- The name of a setting with its section, as messages call it. -/
def fullName (part name : Text) : Text := part ++ "." ++ name

/-- A section of a document; one that is missing is an empty table. -/
def part (data : Members) (name : Text) : Value := (get? name data).getD (.table [])

/-- A text that may be absent. -/
def optionalText (data : Members) (group name : Text) : Except Failure (Option Text) :=
  match setting? (part data group) name with
  | .error e => .error e
  | .ok none => .ok none
  | .ok (some .absent) => .ok none
  | .ok (some (.text t)) => .ok (some t)
  | .ok (some _) => .error (.invalid (fullName group name) "must be a string or null")

/-- A text, if there is one. -/
def text? (data : Members) (group name expected : Text) : Except Failure (Option Text) :=
  match setting? (part data group) name with
  | .error e => .error e
  | .ok none => .ok none
  | .ok (some (.text t)) => .ok (some t)
  | .ok (some _) => .error (.invalid (fullName group name) expected)

/-- The texts in a list of nothing but texts. -/
def textsOf? : List Value → Option (List Text)
  | [] => some []
  | .text t :: vs => (textsOf? vs).map (t :: ·)
  | _ :: _ => none

/-- A list of texts, if there is one. -/
def texts? (data : Members) (group name : Text) : Except Failure (Option (List Text)) :=
  let refused := Failure.invalid (fullName group name) "must be a list of strings"
  match setting? (part data group) name with
  | .error e => .error e
  | .ok none => .ok none
  | .ok (some (.list vs)) =>
    match textsOf? vs with
    | some ts => .ok (some ts)
    | none => .error refused
  | .ok (some _) => .error refused

/-- A switch, if there is one. -/
def boolean? (data : Members) (group name : Text) : Except Failure (Option Bool) :=
  match setting? (part data group) name with
  | .error e => .error e
  | .ok none => .ok none
  | .ok (some (.boolean b)) => .ok (some b)
  | .ok (some _) => .error (.invalid (fullName group name) "must be a boolean")

/-- The configuration that a document states. -/
def ofTables (home : Text) (source : Option Path) (data : Members) : Except Failure Config := do
  let c ← standard home
  let serverUrl ← optionalText data "server" "url"
  let user ← optionalText data "server" "user"
  let password ← optionalText data "server" "password"
  let apiKey ← optionalText data "server" "api_key"
  let fields ← texts? data "query" "return_fields"
  let root ← text? data "build" "root" "must be a string path"
  let keep ← text? data "build" "env_include" "must be a string"
  let withhold ← text? data "build" "env_exclude" "must be a string"
  let colored ← boolean? data "display" "colored_output"
  pure
    { serverUrl, user, password, apiKey, source
      fields := fields.getD c.fields
      buildRoot := (root.map Path.parse).getD c.buildRoot
      keep := keep.getD c.keep
      withhold := withhold.getD c.withhold
      colored := colored.getD c.colored }

/-- The path of a file in its absolute form. -/
def settle (here : Location) (home : Text) (p : Path) : Except Failure Path :=
  match expand home p with
  | .error e => .error e
  | .ok p => if .char '\x00' ∈ p.text then .error (.file ⟨.nul, p, false⟩) else .ok (p.resolve here)

/-- The configuration in the bytes of a file. -/
def ofBytes (home : Text) (path : Path) (bytes : Bytes) : Except Failure Config :=
  match Utf8.decode bytes with
  | .error e => .error (.notText e)
  | .ok t =>
    match Toml.parse t with
    | .error (.fault fault place) => .error (.notToml path fault place)
    | .error (.tooManyDigits digits) => .error (.tooManyDigits digits)
    | .error .tooDeep => .error .tooDeep
    | .ok data => ofTables home (some path) data

/-- The configuration in a file, or the standard one with a warning when there
    is no such file. -/
def readFile (home : Text) (t : Tree) (here : Location) (path : Path) :
    Except Failure (Config × List Warning) :=
  match t.exists? here path with
  | .error e => .error (.file e)
  | .ok false => (standard home).map fun c => (c, [.noFile path])
  | .ok true =>
    match t.read here path with
    | .error e => .error (.file e)
    | .ok bytes => (ofBytes home path bytes).map fun c => (c, [])

/-- The configuration in a file, or in the standard place, validated. A URL that
    is given takes the place of the one in the file. -/
def load (here : Location) (home : Text) (t : Tree) (path : Option Path) (url : Option Text) :
    Except Failure (Config × List Warning) := do
  let named ←
    match path with
    | some p => .ok p
    | none => defaultPath home
  let absolute ← settle here home named
  let (c, early) ← readFile home t here absolute
  let c := { c with serverUrl := url.orElse fun _ => c.serverUrl }
  let (c, late) ← c.validate home
  pure (c, early ++ late)

/-! ## Writing -/

/-- The setting of a name that is known. -/
def known (name : Text) (value : Option Text) : List (Text × Toml.Setting) :=
  match value with
  | some t => [(name, .text t)]
  | none => []

/-- What is known about the server. -/
def serverSettings (c : Config) : List (Text × Toml.Setting) :=
  known "url" c.serverUrl ++ known "user" c.user ++ known "password" c.password ++
    known "api_key" c.apiKey

/-- The configuration as sections of a file. -/
def toSections (c : Config) : List Toml.Section :=
  [⟨"query", [("return_fields", .texts c.fields)]⟩,
   ⟨"build", [("root", .text c.buildRoot.text), ("env_include", .text c.keep),
      ("env_exclude", .text c.withhold)]⟩,
   ⟨"display", [("colored_output", .boolean c.colored)]⟩] ++
  if c.serverSettings = [] then [] else [⟨"server", c.serverSettings⟩]

/-- The text of a file with the configuration. -/
def render (c : Config) : Text := Toml.render c.toSections

/-- The tree with a file written in a folder that is made for it. -/
def writeFile (here : Location) (t : Tree) (path : Path) (content : Text) :
    Except Failure Unit × Tree :=
  match t.ensureFolders here path.parent with
  | (t, some e) => (.error (.file e), t)
  | (t, none) =>
    match t.write here path (Utf8.encode content) with
    | .error e => (.error (.file e), t)
    | .ok t => (.ok (), t)

/-- The tree with the configuration written to a file: to the one named, else to
    the one that it was read from, else to the one in the standard place. -/
def save (here : Location) (home : Text) (t : Tree) (c : Config) (path : Option Path) :
    Except Failure Unit × Tree :=
  let absolute : Except Failure Path := do
    let named ←
      match path.orElse fun _ => c.source with
      | some p => .ok p
      | none => defaultPath home
    settle here home named
  match absolute with
  | .error e => (.error e, t)
  | .ok p => writeFile here t p c.render

end Depot.Config
