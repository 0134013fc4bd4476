import Depot.Search.Query
import Depot.Text.Quoted

/-!
# Entries

An entry is one unit of work: a search pattern with what belongs to it, or the
body of a query that somebody else wrote. A list of entries is compiled into
one query each (`Entry.compileAll`); the first entry that does not compile is
reported with its place in the list and the part of it that is to blame.
-/

namespace Depot.Spec

open Search

/-- One unit of work. -/
structure Entry where
  /-- The search pattern; empty when the entry has a body instead. -/
  pattern : Text := []
  /-- Where the items found would go. -/
  target : Text := []
  /-- The property list that the items have to satisfy. -/
  properties : Text := []
  /-- Whether the search reaches into subfolders. -/
  recursive : Bool := true
  /-- Whether the folders of the items would be dropped at the target. -/
  flat : Bool := false
  /-- Whether the pattern is meant as a regular expression. -/
  regexp : Bool := false
  /-- The body of a query; empty when the entry has a pattern. -/
  body : Text := []
  deriving DecidableEq

/-- What an entry turns into. -/
inductive Kind where
  /-- A search for everything that a pattern stands for. -/
  | wildcard
  /-- A search for the one item that a pattern names. -/
  | simple
  /-- A query in the words of its author. -/
  | raw
  deriving DecidableEq

/-- The name of a kind. -/
def Kind.name : Kind → Text
  | .wildcard => "wildcard"
  | .simple => "simple"
  | .raw => "aql"

namespace Entry

/-- What an entry turns into; nothing for an entry without pattern and body. A
    pattern always wins over a body. -/
def kind? (e : Entry) : Option Kind :=
  if e.pattern ≠ [] then
    some (if Pattern.isWildcard e.pattern then .wildcard else .simple)
  else if e.body ≠ [] then some .raw
  else none

/-- Why an entry does not compile. -/
inductive Fault where
  /-- Its property list is malformed. -/
  | property (e : Property.Malformed)
  /-- It has neither a pattern nor a body. -/
  | empty
  deriving DecidableEq

/-- Why the entry does not compile, in words. -/
def Fault.message : Fault → Text
  | .property e => e.message
  | .empty => "entry has neither a pattern nor an aql body"

/-- The part of an entry that is to blame for a fault. -/
def Fault.fragment (e : Entry) : Fault → Text
  | .property m =>
    if m.fragment ≠ [] then m.fragment else if e.pattern ≠ [] then e.pattern else e.body
  | .empty => if e.pattern ≠ [] then e.pattern else e.body

/-- The query for an entry. A pattern that names one item is never searched
    recursively, and a search for folders asks for no properties. -/
def query (e : Entry) (fields : List Text) (folders : Bool) : Except Fault Query :=
  match e.kind? with
  | none => .error .empty
  | some .raw => .ok ⟨.raw e.body, fields⟩
  | some kind =>
    if folders then .ok (Query.folders e.pattern fields)
    else
      match Query.files e.pattern (e.recursive && kind = .wildcard) e.properties fields with
      | .ok q => .ok q
      | .error m => .error (.property m)

/-- The text of the query for an entry. -/
def compile (e : Entry) (fields : List Text) (folders : Bool) : Except Fault Text :=
  (e.query fields folders).map Query.render

/-- An entry that does not compile. -/
structure Failure where
  /-- The place of the entry in its list, from 0. -/
  index : Nat
  /-- The part of the entry that is to blame. -/
  fragment : Text
  /-- Why it does not compile. -/
  fault : Fault
  deriving DecidableEq

/-- The failure in words; entries are counted from 1. -/
def Failure.message (f : Failure) : Text :=
  "Spec entry #" ++ Text.ofNat (f.index + 1) ++ " (" ++ Text.quoted f.fragment ++ "): " ++
    f.fault.message

/-- The queries of entries whose first one has a place in a longer list. -/
def compileFrom (index : Nat) (fields : List Text) (folders : Bool) :
    List Entry → Except Failure (List Text)
  | [] => .ok []
  | e :: es =>
    match e.compile fields folders with
    | .error fault => .error ⟨index, fault.fragment e, fault⟩
    | .ok q => (compileFrom (index + 1) fields folders es).map (q :: ·)

/-- The queries of entries in order. -/
def compileAll (es : List Entry) (fields : List Text) (folders : Bool) :
    Except Failure (List Text) :=
  compileFrom 0 fields folders es

end Entry

end Depot.Spec
