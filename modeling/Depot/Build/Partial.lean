import Depot.Json.Integer
import Depot.Json.Printer
import Depot.Files.Path

/-!
# Partials

A partial is one recorded chunk of build data: artifacts, dependencies or
environment variables, with the time of recording in milliseconds. What is in
the chunk is not looked at, and a chunk that is empty is something else than one
that is not there.
-/

namespace Depot.Build

/-- A recorded chunk of build data. -/
structure Partial where
  /-- When it was recorded, in milliseconds. -/
  timestamp : Int
  artifacts : Option (List Json) := none
  dependencies : Option (List Json) := none
  /-- Environment variables. -/
  env : Option (List (Text × Json)) := none
  deriving DecidableEq

namespace Partial

/-- Why a value is no partial. -/
inductive Fault where
  | notObject
  | timestamp (fault : Json.IntegerFault)
  | notList (key : Text)
  | notObjectMember (key : Text)
  deriving DecidableEq

/-- Why the value is no partial, in words. -/
def Fault.detail : Fault → Text
  | .notObject => "expected an object"
  | .timestamp fault => "bad timestamp: " ++ fault.message
  | .notList key => "'" ++ key ++ "' must be a list"
  | .notObjectMember key => "'" ++ key ++ "' must be a dict"

/-- The complaint about a partial that was found at a path. -/
def Fault.message (path : Files.Path) (fault : Fault) : Text :=
  "Invalid build partial " ++ path.text ++ ": " ++ fault.detail

/-- The member of an object that is a list; null counts as not there. -/
def listMember (members : List (Text × Json)) (key : Text) : Except Fault (Option (List Json)) :=
  match Json.find? key members with
  | none | some .null => .ok none
  | some (.list items) => .ok (some items)
  | some _ => .error (.notList key)

/-- The member of an object that is an object; null counts as not there. -/
def objectMember (members : List (Text × Json)) (key : Text) :
    Except Fault (Option (List (Text × Json))) :=
  match Json.find? key members with
  | none | some .null => .ok none
  | some (.object inner) => .ok (some inner)
  | some _ => .error (.notObjectMember key)

/-- The partial that a value describes. Without a timestamp it was recorded at
    the beginning of time. -/
def ofJson : Json → Except Fault Partial
  | .object members =>
    match Json.toInteger ((Json.find? "timestamp" members).getD (.int 0)) with
    | .error fault => .error (.timestamp fault)
    | .ok timestamp => do
      let artifacts ← listMember members "artifacts"
      let dependencies ← listMember members "dependencies"
      let env ← objectMember members "env"
      pure ⟨timestamp, artifacts, dependencies, env⟩
  | _ => .error .notObject

/-- A member for a value that may not be there. -/
def optional {α : Type} (key : Text) (wrap : α → Json) (value : Option α) : List (Text × Json) :=
  (value.map fun v => (key, wrap v)).toList

/-- The members of the object that describes a partial. -/
def members (p : Partial) : List (Text × Json) :=
  ("timestamp", .int p.timestamp) :: (optional "artifacts" .list p.artifacts ++
    optional "dependencies" .list p.dependencies ++ optional "env" .object p.env)

/-- The value that describes a partial. -/
def toJson (p : Partial) : Json := .object p.members

/-- What a partial describes is the partial. -/
theorem ofJson_toJson (p : Partial) : ofJson p.toJson = .ok p := by
  obtain ⟨timestamp, artifacts, dependencies, env⟩ := p
  cases artifacts <;> cases dependencies <;> cases env <;> rfl

end Partial

end Depot.Build
