import Depot.Build.Document
import Depot.Files.Tree
import Depot.Json.Reader
import Depot.Text.Percent

/-!
# Recorded builds

Between commands, what is recorded for a build lies in a folder of its own under
the build root:

    <name>_<number>/
        details.json          {"started": "<timestamp>"}
        partials/<ms>-<suffix>.json    {"timestamp": <ms>, "artifacts" | "dependencies" | "env": …}

The name of the folder is percent encoded, so that it is one name whatever the
build is called; a build whose name has half of a surrogate pair has no folder
(`folder?`). The details are written once, by whatever is recorded first.

An operation that changes the disk gives the new disk in any case, also when it
fails: what was done before the failure stays done.
-/

namespace Depot.Build

open Files Time

/-- What the operations work on. -/
structure Disk where
  /-- The files. -/
  tree : Tree
  /-- How many file name suffixes were drawn. -/
  drawn : Nat

/-- Where and when the operations take place. -/
structure Setting where
  /-- The folder from which relative paths start. -/
  folder : Location
  /-- What the clock shows. -/
  now : WallClock
  /-- The moment in milliseconds. -/
  millis : Int
  /-- The file name suffixes that are drawn one after the other. -/
  suffix : Nat → Text

/-- What is recorded for a build. -/
structure Record where
  /-- When the build was started. -/
  started : Timestamp
  /-- The partials, the earliest first. -/
  partials : List Partial
  deriving DecidableEq

/-- Why the details of a build say nothing about its start. -/
inductive DetailsFault where
  /-- They are a value of a kind that has no members. -/
  | noMembers (kind : Text)
  /-- They are a list. -/
  | list
  /-- They are a text. -/
  | text
  /-- They have no member for the start. -/
  | missing
  /-- The member is no text. -/
  | notText
  /-- The text is no timestamp. -/
  | timestamp (fault : Timestamp.Fault)
  deriving DecidableEq

/-- The member of the details that tells when the build was started. -/
def startedKey : Text := "started"

/-- Why the details say nothing, in words. -/
def DetailsFault.detail : DetailsFault → Text
  | .noMembers kind => "'" ++ kind ++ "' object is not subscriptable"
  | .list => "list indices must be integers or slices, not str"
  | .text => "string indices must be integers, not 'str'"
  | .missing => Text.quoted startedKey
  | .notText => "fromisoformat: argument must be str"
  | .timestamp fault => fault.message

/-- Why an operation fails. -/
inductive Failure where
  /-- The system refuses an operation on a file. -/
  | file (e : FileError)
  /-- A data file cannot be opened. -/
  | unopened (path : Path) (e : FileError)
  /-- A data file is no JSON. -/
  | notJson (path : Path) (fault : Json.Fault) (place : Text.Place)
  /-- A data file is no text, or the name of a build cannot be turned into bytes. -/
  | notText (e : CodecError)
  /-- An integer in a data file has more digits than are read. -/
  | tooManyDigits (digits : Nat)
  /-- A list or an object in a data file is nested too deep. -/
  | tooDeep (container : Json.Container)
  /-- The details in a folder are damaged. -/
  | details (folder : Path) (fault : DetailsFault)
  /-- A partial is damaged. -/
  | partialFault (path : Path) (fault : Partial.Fault)
  /-- The moment cannot be told in local time. -/
  | moment (fault : Timestamp.Fault)
  /-- Nothing is recorded for a build. -/
  | notFound (b : Build)
  deriving DecidableEq

/-- Why the operation fails, in words. -/
def Failure.message : Failure → Text
  | .file e => e.message
  | .unopened path e => "Failed to read build data file " ++ path.text ++ ": " ++ e.message
  | .notJson path fault place =>
    "Failed to read build data file " ++ path.text ++ ": " ++
      (Json.ReadError.syntaxFault fault place).message
  | .notText e => e.message
  | .tooManyDigits digits => Text.tooManyDigitsMessage digits
  | .tooDeep container => container.tooDeepMessage
  | .details folder fault => "Invalid build details in " ++ folder.text ++ ": " ++ fault.detail
  | .partialFault path fault =>
    match fault with
    | .timestamp .infinity => Json.IntegerFault.infinity.message
    | fault => fault.message path
  | .moment fault => fault.message
  | .notFound b =>
    "Can't find any files related to build name: " ++ Text.quoted b.name ++ ", number: " ++
      Text.quoted b.number

/-- Whether a failure is the kind that a damaged or missing record causes. The
    others come from the system, from its clock, from bytes that are no text, from names that
    are none of bytes, and from numbers and nested values that cannot be read. -/
def Failure.isDataFailure : Failure → Bool
  | .unopened .. | .notJson .. | .details .. | .notFound _ => true
  | .partialFault _ fault => fault ≠ .timestamp .infinity
  | .file _ | .notText _ | .tooManyDigits _ | .tooDeep _ | .moment _ => false

/-! ## Places -/

/-- The folder of a build without halves of surrogate pairs under a root. -/
def folderOf (root : Path) (b : Build) : Path :=
  root.child (Text.Percent.encode (b.name ++ "_" ++ b.number))

/-- The folder of a build under a root, if there can be one. -/
def folder? (root : Path) (b : Build) : Except Failure Path :=
  match Text.Percent.encode? (b.name ++ "_" ++ b.number) with
  | .ok name => .ok (root.child name)
  | .error e => .error (.notText (.encode e))

/-- The details in the folder of a build. -/
def detailsPath (folder : Path) : Path := folder.child "details.json"

/-- The folder of the partials in the folder of a build. -/
def partialsPath (folder : Path) : Path := folder.child "partials"

/-- The file of a partial. -/
def partialPath (folder : Path) (timestamp : Int) (suffix : Text) : Path :=
  (partialsPath folder).child (Text.ofInt timestamp ++ "-" ++ suffix ++ ".json")

/-! ## Data files -/

/-- The value in a data file. -/
def readJson (here : Location) (t : Tree) (path : Path) : Except Failure Json :=
  match t.read here path with
  | .error e => .error (.unopened path e)
  | .ok bytes =>
    match Utf8.decode bytes with
    | .error e => .error (.notText (.decode e))
    | .ok text =>
      match Json.parseFile (Text.unifyLines text) with
      | .ok v => .ok v
      | .error (.syntaxFault fault place) => .error (.notJson path fault place)
      | .error (.tooManyDigits digits) => .error (.tooManyDigits digits)
      | .error (.tooDeep container) => .error (.tooDeep container)

/-- The disk with a value written to a data file, whose folder is made if it is
    not there. -/
def writeJson (here : Location) (t : Tree) (path : Path) (v : Json) : Tree × Option FileError :=
  match t.ensureFolders here path.parent with
  | (t, some e) => (t, some e)
  | (t, none) =>
    match t.write here path (Utf8.encode (v.render .indented)) with
    | .ok t => (t, none)
    | .error e => (t, some e)

/-! ## Details -/

/-- The start of a build that its details tell. -/
def startedOf : Json → Except DetailsFault Timestamp
  | .object members =>
    match Json.find? startedKey members with
    | none => .error .missing
    | some (.text t) =>
      match Timestamp.parse t with
      | .ok started => .ok started
      | .error e => .error (.timestamp e)
    | some _ => .error .notText
  | .list _ => .error .list
  | .text _ => .error .text
  | v => .error (.noMembers v.kind)

/-- The start of a build whose folder is given. -/
def readDetails (here : Location) (t : Tree) (folder : Path) : Except Failure Timestamp :=
  match readJson here t (detailsPath folder) with
  | .error e => .error e
  | .ok v =>
    match startedOf v with
    | .ok started => .ok started
    | .error fault => .error (.details folder fault)

/-- Records the start of a build, the present moment if none is given, unless a start
    is recorded already. The answer is what is recorded. -/
def ensureDetails (s : Setting) (folder : Path) (started : Option Timestamp) (d : Disk) :
    Except Failure Timestamp × Disk :=
  match d.tree.exists? s.folder (detailsPath folder) with
  | .error e => (.error (.file e), d)
  | .ok true => (readDetails s.folder d.tree folder, d)
  | .ok false =>
    match started.elim s.now.present .ok with
    | .error fault => (.error (.moment fault), d)
    | .ok started =>
      match writeJson s.folder d.tree (detailsPath folder)
        (.object [(startedKey, .text started.iso)]) with
      | (t, none) => (.ok started, { d with tree := t })
      | (t, some e) => (.error (.file e), { d with tree := t })

/-! ## Partials -/

/-- Records a partial, and the start of its build if that is not recorded yet.
    The answer is the path of the partial. -/
def savePartial (s : Setting) (folder : Path) (p : Partial) (d : Disk) :
    Except Failure Path × Disk :=
  match ensureDetails s folder none d with
  | (.error e, d) => (.error e, d)
  | (.ok _, d) =>
    let path := partialPath folder p.timestamp (s.suffix d.drawn)
    -- The suffix counts as drawn whether or not the file can be written.
    match writeJson s.folder d.tree path p.toJson with
    | (t, none) => (.ok path, ⟨t, d.drawn + 1⟩)
    | (t, some e) => (.error (.file e), ⟨t, d.drawn + 1⟩)

/-- What stands in front of the name of a recorded environment variable. -/
def envPrefix : Text := "buildInfo.env."

/-- The partial that records environment variables at a moment. The last value
    of a variable counts. -/
def envPartial (millis : Int) (env : List (Text × Text)) : Partial :=
  { timestamp := millis
    env := some ((Json.ofMembers env).map fun v => (envPrefix ++ v.1, .text v.2)) }

/-- Records environment variables as a partial. -/
def saveEnv (s : Setting) (folder : Path) (env : List (Text × Text)) (d : Disk) :
    Except Failure Path × Disk :=
  savePartial s folder (envPartial s.millis env) d

/-! ## Reading and removing -/

/-- The partial in a data file. -/
def readPartial (here : Location) (t : Tree) (path : Path) : Except Failure Partial :=
  match readJson here t path with
  | .error e => .error e
  | .ok v =>
    match Partial.ofJson v with
    | .ok p => .ok p
    | .error fault => .error (.partialFault path fault)

/-- The partials of a build whose folder is given, in the order of their file
    names. -/
def partialPaths (here : Location) (t : Tree) (folder : Path) : Except Failure (List Path) :=
  match t.isFolder? here (partialsPath folder) with
  | .error e => .error (.file e)
  | .ok false => .ok []
  | .ok true =>
    match t.locate here (partialsPath folder) with
    | .error e => .error (.file ⟨e, partialsPath folder, false⟩)
    | .ok l =>
      let files := (t.names l).filter fun n => (".json" : Text).isSuffixOf n
      .ok (files.map (partialsPath folder).child)

/-- Everything that is recorded in the folder of a build. Partials are sorted by their
    timestamps, those of one timestamp by their file names. -/
def readFolder (here : Location) (t : Tree) (b : Build) (folder : Path) :
    Except Failure Record := do
  let paths ← partialPaths here t folder
  if paths = [] then .error (.notFound b)
  else
    -- Damage in a partial is told before damage in the details.
    let partials ← paths.mapM (readPartial here t)
    let started ← readDetails here t folder
    pure ⟨started, partials.mergeSort fun p q => p.timestamp ≤ q.timestamp⟩

/-- Everything that is recorded for a build. -/
def read (here : Location) (t : Tree) (root : Path) (b : Build) : Except Failure Record := do
  readFolder here t b (← folder? root b)

/-- Removes what is recorded for a build. -/
def remove (s : Setting) (root : Path) (b : Build) (d : Disk) : Except Failure Unit × Disk :=
  match folder? root b with
  | .error e => (.error e, d)
  | .ok folder =>
    match d.tree.remove s.folder folder with
    | .ok t => (.ok (), { d with tree := t })
    | .error e => (.error (.file e), d)

end Depot.Build
