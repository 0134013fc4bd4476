import Depot.Spec.Entry
import Depot.Json.Literal
import Depot.Json.Printer
import Depot.Json.Reader
import Depot.Text.Case
import Depot.Text.Encoding

/-!
# Spec documents

A spec document lists entries:

    {"files": [
      {"pattern": "libs-release/org/*.jar", "props": "status=ok", "recursive": "true"},
      {"aql": {"items.find": {"repo": "libs-release"}}}
    ]}

The keys of the document and of its entries are read in lower case, the last
one of equal keys counting. Truth values may be written as texts, and what is
blank counts as not given. Reading is all or nothing: `Document.ofJson` gives
one entry for each element, or says what is wrong with the first bad one.
-/

namespace Depot.Spec

/-- What is wrong with a document. Elements are counted from 0 and named by
    their key. -/
inductive Defect where
  /-- Its text is no JSON. -/
  | json (fault : Json.Fault) (place : Text.Place)
  /-- It is no object. -/
  | notObject
  /-- It lists no files. -/
  | noFiles
  /-- Its list of files is empty. -/
  | emptyFiles
  /-- An element is no object. -/
  | elementNotObject (index : Nat)
  /-- A member of an element is no text. -/
  | notText (index : Nat) (key : Text)
  /-- A member of an element is no truth value. -/
  | notTruth (index : Nat) (key : Text) (value : Json)
  /-- A member of an element holds no query body. -/
  | notBody (index : Nat)
  /-- The file of the document cannot be read, for a reason given in words. -/
  | unreadable (reason : Text)
  deriving DecidableEq

/-- The member under which a query body is found. -/
def bodyKey : Text := "items.find"

/-- What is wrong, in words. -/
def Defect.detail : Defect → Text
  | .json fault place => (Json.ReadError.syntaxFault fault place).message
  | .notObject => "top level must be an object"
  | .noFiles => "missing 'files' list"
  | .emptyFiles => "'files' list is empty"
  | .elementNotObject index => "entry #" ++ Text.ofNat (index + 1) ++ " must be an object"
  | .notText index key =>
    "entry #" ++ Text.ofNat (index + 1) ++ ": '" ++ key ++ "' must be a string"
  | .notTruth index key value =>
    "entry #" ++ Text.ofNat (index + 1) ++ ": '" ++ key ++ "' must be a boolean, got " ++
      value.literal
  | .notBody index =>
    "entry #" ++ Text.ofNat (index + 1) ++ ": 'aql' must be an object with '" ++ bodyKey ++ "'"
  | .unreadable reason => reason

/-- The complaint about a document that was found under a name. -/
def Defect.message (source : Text) (d : Defect) : Text :=
  "Invalid spec file " ++ source ++ ": " ++ d.detail

/-- The members of an object with their keys in lower case. -/
def lowerKeys (members : List (Text × Json)) : List (Text × Json) :=
  Json.ofMembers (members.map fun m => (Text.lower m.1, m.2))

/-- The member of an element that is a text, empty when it is not given. -/
def textMember (index : Nat) (members : List (Text × Json)) (key : Text) : Except Defect Text :=
  match Json.find? key members with
  | none => .ok []
  | some (.text t) => .ok t
  | some v => if v.isBlank then .ok [] else .error (.notText index key)

/-- The member of an element that is a truth value, or the text of one in any
    case; null and the empty text give the default. -/
def truthMember (index : Nat) (members : List (Text × Json)) (key : Text) (default : Bool) :
    Except Defect Bool :=
  match Json.find? key members with
  | none | some .null => .ok default
  | some (.bool b) => .ok b
  | some (.text t) =>
    if t = [] then .ok default
    else if Text.lower t = "true" then .ok true
    else if Text.lower t = "false" then .ok false
    else .error (.notTruth index key (.text t))
  | some v => .error (.notTruth index key v)

/-- The query body of an element, written without blanks; empty when it is not
    given. -/
def bodyMember (index : Nat) (members : List (Text × Json)) (key : Text) : Except Defect Text :=
  match Json.find? key members with
  | none => .ok []
  | some v =>
    if v.isBlank then .ok []
    else
      match v with
      | .object inner =>
        match Json.find? bodyKey inner with
        | some body => .ok (body.render .compact)
        | none => .error (.notBody index)
      | _ => .error (.notBody index)

/-- The entry that an element of the list describes. -/
def Entry.ofJson (index : Nat) : Json → Except Defect Entry
  | .object members => do
    let members := lowerKeys members
    let pattern ← textMember index members "pattern"
    let target ← textMember index members "target"
    let properties ← textMember index members "props"
    let recursive ← truthMember index members "recursive" true
    let flat ← truthMember index members "flat" false
    let regexp ← truthMember index members "regexp" false
    let body ← bodyMember index members "aql"
    pure ⟨pattern, target, properties, recursive, flat, regexp, body⟩
  | _ => .error (.elementNotObject index)

/-- The entries that elements describe, the first of which has a place in a
    longer list. -/
def entriesFrom (index : Nat) : List Json → Except Defect (List Entry)
  | [] => .ok []
  | v :: vs => do
    let e ← Entry.ofJson index v
    let es ← entriesFrom (index + 1) vs
    pure (e :: es)

/-- The entries of a document. -/
def ofJson : Json → Except Defect (List Entry)
  | .object members =>
    match Json.find? "files" (lowerKeys members) with
    | some (.list []) => .error .emptyFiles
    | some (.list elements) => entriesFrom 0 elements
    | _ => .error .noFiles
  | _ => .error .notObject

/-- Why a document was not read. -/
inductive ReadError where
  /-- The document is no spec. -/
  | defect (d : Defect)
  /-- An integer in it has more digits than are read. -/
  | tooManyDigits (digits : Nat)
  /-- A list or an object in it is nested too deep. -/
  | tooDeep (container : Json.Container)
  /-- Its bytes are no text. -/
  | notText (e : DecodeError)
  deriving DecidableEq

/-- Why the document was not read, in words; `source` is what it is called. -/
def ReadError.message (source : Text) : ReadError → Text
  | .defect d => d.message source
  | .tooManyDigits digits => Text.tooManyDigitsMessage digits
  | .tooDeep container => container.tooDeepMessage
  | .notText e => e.message

/-- The entries of a document that was read as JSON, or was not. -/
def ofRead : Except Json.ReadError Json → Except ReadError (List Entry)
  | .error (.syntaxFault fault place) => .error (.defect (.json fault place))
  | .error (.tooManyDigits digits) => .error (.tooManyDigits digits)
  | .error (.tooDeep container) => .error (.tooDeep container)
  | .ok v =>
    match ofJson v with
    | .ok es => .ok es
    | .error d => .error (.defect d)

/-- The entries of a document given as text. -/
def parse (t : Text) : Except ReadError (List Entry) := ofRead (Json.parseFile t)

/-- The entries of a document given as bytes. -/
def parseBytes (bs : Bytes) : Except ReadError (List Entry) :=
  match Encoding.decodeDocument bs with
  | .ok t => ofRead (Json.parse t)
  | .error e => .error (.notText e)

end Depot.Spec
