import Depot.Build.Environment
import Depot.Build.Partial
import Depot.Program
import Depot.Time.Timestamp

/-!
# Build info documents

The partials of a build are merged into one document, which is what the server
is given. A partial with artifacts adds these, else one with dependencies adds
those, else one with environment variables adds the ones that are published;
a later value of a variable takes the place of an earlier one.
-/

namespace Depot

/-- The build that a document is about. -/
structure Build where
  name : Text
  number : Text
  deriving DecidableEq

end Depot

namespace Depot.Build

/-- What is recorded for a build. -/
structure Contents where
  artifacts : List Json
  dependencies : List Json
  /-- The environment variables that are published. -/
  env : List (Text × Json)
  deriving DecidableEq

/-- Which environment variables are published. -/
structure Selection where
  /-- The wildcards of which a variable has to match one. -/
  keep : List Text
  /-- The wildcards of which a variable may match none when case is ignored. -/
  withhold : List Text
  deriving DecidableEq

/-- The variables with further ones merged in: a variable that is there takes the
    new value in its place. -/
def mergeEnv (env new : List (Text × Json)) : List (Text × Json) :=
  new.foldl (fun env v => Json.insert v.1 v.2 env) env

/-- The contents with those of one more partial. -/
def Contents.add (s : Selection) (c : Contents) (p : Partial) : Contents :=
  match p.artifacts, p.dependencies, p.env with
  | some artifacts, _, _ => { c with artifacts := c.artifacts ++ artifacts }
  | none, some dependencies, _ => { c with dependencies := c.dependencies ++ dependencies }
  | none, none, some env =>
    { c with env := mergeEnv c.env (Environment.publishable s.keep s.withhold env) }
  | none, none, none => c

/-- The contents of all partials. -/
def Contents.collect (s : Selection) (ps : List Partial) : Contents :=
  ps.foldl (Contents.add s) ⟨[], [], []⟩

/-- A member for a list, left out when the list is empty. -/
def listed (key : Text) (items : List Json) : List (Text × Json) :=
  if items = [] then [] else [(key, .list items)]

/-- The one module of a build. -/
def moduleOf (b : Build) (c : Contents) : Json :=
  .object (("id", .text b.name) ::
    (listed "artifacts" c.artifacts ++ listed "dependencies" c.dependencies))

/-- A program that has to do with a build. -/
def agent (name : Text) : Json := .object [("name", .text name), ("version", .text Program.version)]

/-- The environment of a build, left out when no variable is published. -/
def properties (env : List (Text × Json)) : List (Text × Json) :=
  if env = [] then [] else [("properties", .object env)]

/-- The document of a build with the moment of its start written out. -/
def documentOf (b : Build) (started : Text) (c : Contents) : Json :=
  .object (("name", .text b.name) :: ("number", .text b.number) :: ("agent", agent Program.name) ::
    ("buildAgent", agent "GENERIC") :: ("started", .text started) ::
    ("modules", .list [moduleOf b c]) :: properties c.env)

/-- The document of a build that was started at a moment, made from its
    partials. -/
def document (b : Build) (started : Time.Timestamp) (ps : List Partial) (s : Selection)
    (zone : Time.Zone := .utc) : Except Time.Timestamp.Fault Json :=
  match started.format zone with
  | .error e => .error e
  | .ok text => .ok (documentOf b text (Contents.collect s ps))

end Depot.Build
