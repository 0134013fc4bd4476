import Depot.Json.Basic
import Depot.Text.Quoted

/-!
# JSON values in messages

A value that a message complains about is shown as a literal: `None` for null,
capital letters for the truth values, and texts in quotes as messages have them.
-/

namespace Depot.Json

/-- The spellings of the numbers without digits. -/
def literalSpelling : Double.Spelling := ⟨"nan", "inf"⟩

mutual

/-- A value as a literal. -/
def literal : Json → Text
  | .null => "None"
  | .bool true => "True"
  | .bool false => "False"
  | .int n => Text.ofInt n
  | .double d => d.render literalSpelling
  | .text t => Text.quoted t
  | .list items => '[' :: (Text.joined ", " (literalItems items) ++ "]")
  | .object members => '{' :: (Text.joined ", " (literalMembers members) ++ "\x7d")

/-- The literals of the values of a list. -/
def literalItems : List Json → List Text
  | [] => []
  | v :: vs => literal v :: literalItems vs

/-- The literals of the members of an object. -/
def literalMembers : List (Text × Json) → List Text
  | [] => []
  | (k, v) :: ms => (Text.quoted k ++ ": " ++ literal v) :: literalMembers ms

end

/-- The kind of a value, as messages name it. -/
def kind : Json → Text
  | .null => "NoneType"
  | .bool _ => "bool"
  | .int _ => "int"
  | .double _ => "float"
  | .text _ => "str"
  | .list _ => "list"
  | .object _ => "dict"

end Depot.Json
