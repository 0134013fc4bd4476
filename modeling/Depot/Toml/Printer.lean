import Depot.Toml.Quoted

/-!
# Writing TOML

A file of settings is a list of sections, each a table of texts, switches and
lists of texts. `Toml.render` writes a section under its header with an item a
line, and an empty line between two sections. The names of sections and settings
are written without quotes.
-/

namespace Depot.Toml

/-- The value of a setting. -/
inductive Setting where
  | text (t : Text)
  | boolean (b : Bool)
  | texts (ts : List Text)
  deriving DecidableEq

/-- The setting as a value of a document. -/
def Setting.toValue : Setting → Value
  | .text t => .text t
  | .boolean b => .boolean b
  | .texts ts => .list (ts.map .text)

/-- A table of settings. -/
structure Section where
  name : Text
  settings : List (Text × Setting)
  deriving DecidableEq

/-- The section as a member of a document. -/
def Section.toMember (s : Section) : Text × Value :=
  (s.name, .table (s.settings.map fun p => (p.1, p.2.toValue)))

/-- The line of an item of a list. -/
def renderItem (t : Text) : Text := ' ' :: ' ' :: ' ' :: ' ' :: (quote t ++ ",\n")

/-- The text of a setting. A list has an item a line. -/
def Setting.render : Setting → Text
  | .text t => quote t
  | .boolean true => "true"
  | .boolean false => "false"
  | .texts [] => "[]"
  | .texts ts => '[' :: '\n' :: (ts.flatMap renderItem ++ "]")

/-- The line of a setting. -/
def renderSetting (p : Text × Setting) : Text :=
  p.1 ++ " = " ++ (p.2.render ++ "\n")

/-- The text of a section. -/
def Section.render (s : Section) : Text :=
  '[' :: (s.name ++ "]\n" ++ s.settings.flatMap renderSetting)

/-- The text of sections. -/
def render (ss : List Section) : Text := Text.joined "\n" (ss.map Section.render)

end Depot.Toml
