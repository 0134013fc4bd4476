import Depot.Text

/-!
# Property filters

Items carry properties, and a search may ask for some of them:
`key=value;key2=value2`. A list of properties keeps its order and its
repetitions, for each is a condition of its own.

Reading is exact: `Property.parseList` takes a text apart at every `;` and each
piece at its first `=`, and refuses a piece without `=` or without a key.
-/

namespace Depot.Search

/-- A property that an item has to carry: a key and a glob for its value. -/
structure Property where
  /-- The name of the property. -/
  key : Text
  /-- Stands for the value of the property. -/
  value : Text
  deriving DecidableEq

namespace Property

/-- A piece of a property list that is no `key=value`. -/
structure Malformed where
  /-- The piece as it was written. -/
  fragment : Text
  deriving DecidableEq

/-- What is wrong with the piece. -/
def Malformed.message (e : Malformed) : Text :=
  "Invalid property '" ++ e.fragment ++ "': expected key=value"

/-- The property that a piece writes. -/
def parse (piece : Text) : Except Malformed Property :=
  match Text.cut '=' piece with
  | some (key, value) => if key = [] then .error ⟨piece⟩ else .ok ⟨key, value⟩
  | none => .error ⟨piece⟩

/-- The properties that a `;`-separated text writes, none for the empty text;
    the first piece that writes none is reported. -/
def parseList (t : Text) : Except Malformed (List Property) :=
  if t = [] then .ok [] else (Text.pieces ';' t).mapM parse

/-- A property as it is written. -/
def written (p : Property) : Text := p.key ++ .char '=' :: p.value

/-- A property list as it is written. -/
def writtenList (ps : List Property) : Text :=
  Text.joined ";" (ps.map written)

/-- The condition that an item carries the property, followed by a comma: the
    conditions stand in front of another member of the query. -/
def clause (p : Property) : Text :=
  "\"@" ++ p.key ++ "\": \x7b\"$match\": \"" ++ p.value ++ "\"\x7d,"

/-- The conditions for all properties of a list. -/
def clauses (ps : List Property) : Text := ps.flatMap clause

end Property

end Depot.Search
