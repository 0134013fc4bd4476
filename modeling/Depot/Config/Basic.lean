import Depot.Files.Tree
import Depot.Program
import Depot.Search.Query
import Depot.Toml.Basic

/-!
# Configurations

A `Config` says which server the program talks to, how it signs in there, which
fields queries ask for, where build data is recorded and which variables are
published with it. Whatever a file leaves open has a default.

`Config.validate` brings a configuration into its final form and warns about
what looks wrong: the URL of the server ends in a slash and the folder of the
builds does not start at a home folder any more.
-/

namespace Depot

open Files (Path)

/-- A configuration. -/
structure Config where
  /-- The URL of the server. -/
  serverUrl : Option Text := none
  user : Option Text := none
  password : Option Text := none
  /-- The key that is sent in place of user and password. -/
  apiKey : Option Text := none
  /-- The fields that queries ask for. -/
  fields : List Text := Search.defaultFields
  /-- The folder of the recorded builds. -/
  buildRoot : Path
  /-- The patterns of the variables to publish. -/
  keep : Text := "*"
  /-- The patterns of the variables to withhold. -/
  withhold : Text := "*password*;*secret*;*key*"
  colored : Bool := true
  /-- The file that it was read from. -/
  source : Option Path := none
  deriving DecidableEq

namespace Config

/-- Why a configuration cannot be read or written. -/
inductive Failure where
  /-- A path starts at a home folder that nobody knows. -/
  | homeless
  | file (e : Files.FileError)
  | notText (e : DecodeError)
  | notToml (path : Path) (fault : Toml.Fault) (place : Option Text.Place)
  | tooManyDigits (digits : Nat)
  /-- A list or a table in the file is nested too deep. -/
  | tooDeep
  /-- A section is a value of a kind in which nothing can be looked for. -/
  | unsearchable (kind : Text)
  /-- A section is a text in which the name of a setting occurs. -/
  | textSection
  /-- A section is a list in which the name of a setting occurs. -/
  | listSection
  /-- A setting has a value of the wrong kind. -/
  | invalid (key expected : Text)
  deriving DecidableEq

/-- What failed, in words. -/
def Failure.message : Failure → Text
  | .homeless => "Could not determine home directory."
  | .file e => e.message
  | .notText e => e.message
  | .notToml path fault place =>
    "Invalid config at " ++ path.text ++ ": " ++ (Toml.ReadError.fault fault place).message
  | .tooManyDigits digits => Text.tooManyDigitsMessage digits
  | .tooDeep => Toml.tooDeepMessage
  | .unsearchable kind => "argument of type '" ++ kind ++ "' is not iterable"
  | .textSection => "string indices must be integers, not 'str'"
  | .listSection => "list indices must be integers or slices, not str"
  | .invalid key expected => "Invalid config value for '" ++ key ++ "': " ++ expected

/-- What looks wrong in a configuration. -/
inductive Warning where
  | noFile (path : Path)
  | noScheme (url : Text)
  | twoSecrets
  | noFields
  deriving DecidableEq

/-- The warning in words. -/
def Warning.message : Warning → Text
  | .noFile path =>
    "No config file found at " ++ path.text ++ ". Using defaults. Create config with: " ++
      Program.name ++ " init-config"
  | .noScheme url => "Server URL has no http(s) scheme: " ++ url
  | .twoSecrets => "Both server.password and server.api_key are set; using api_key"
  | .noFields => "query.return_fields is empty; queries will project no fields"

/-! ## Defaults -/

/-- A path with the home folder in place of a `~` in front. -/
def expand (home : Text) (p : Path) : Except Failure Path :=
  match p.expand? home with
  | some p => .ok p
  | none => .error .homeless

/-- A path below the home folder. -/
def belowHome (home : Text) (names : List Text) : Except Failure Path :=
  (expand home (Path.parse "~")).map fun p => names.foldl Path.child p

/-- The file that a configuration is read from unless another one is named. -/
def defaultPath (home : Text) : Except Failure Path :=
  belowHome home [".config", Program.name, "config.toml"]

/-- The configuration that leaves everything open. -/
def standard (home : Text) : Except Failure Config :=
  (belowHome home [".cache", Program.name, "builds"]).map fun p => { buildRoot := p }

/-! ## Validation -/

/-- Whether a URL names the protocol. -/
def hasScheme (url : Text) : Bool :=
  (Text.ofString "http://").isPrefixOf url || (Text.ofString "https://").isPrefixOf url

/-- The URL with a slash at its end. -/
def withSlash (url : Text) : Text := if Text.endsWith '/' url then url else url ++ "/"

/-- What looks wrong in a configuration that was read. -/
def warnings (c : Config) : List Warning :=
  let url :=
    match c.serverUrl with
    | some url => if hasScheme url then [] else [.noScheme url]
    | none => []
  let secrets := if c.password.isSome ∧ c.apiKey.isSome then [.twoSecrets] else []
  url ++ secrets ++ if c.fields = [] then [.noFields] else []

/-- The configuration in its final form, and what looks wrong in it. -/
def validate (home : Text) (c : Config) : Except Failure (Config × List Warning) :=
  (expand home c.buildRoot).map fun root =>
    ({ c with buildRoot := root, serverUrl := c.serverUrl.map withSlash }, c.warnings)

end Config

end Depot
