import Depot.Search.Location
import Depot.Search.Property

/-!
# Item queries

A query asks the server for the items that satisfy a filter, and for some
fields of each of them: `items.find(FILTER).include(FIELDS)`. The filter is
either a body that somebody else wrote (`Query.raw`), or it is generated from a
search pattern (`Query.generated`): a repository, properties, and the locations
of which an item needs one.

Texts go into a query as they are: whoever writes a pattern answers for the
quotes in it.
-/

namespace Depot.Search

/-- What an item has to be. -/
structure Filter where
  /-- The repository of the item. -/
  repository : Text
  /-- The locations of which the item needs one. -/
  locations : List Location
  /-- The properties of which the item needs all. -/
  properties : List Property := []
  /-- The type of the item; every type will do when it is empty. -/
  itemType : Text := []
  deriving DecidableEq

/-- Where the items of a query come from. -/
inductive Source where
  /-- A filter in the words of its author. -/
  | raw (body : Text)
  /-- A filter generated from a search pattern. -/
  | generated (filter : Filter)
  deriving DecidableEq

/-- A query: which items, and which fields of them. -/
structure Query where
  /-- Which items. -/
  source : Source
  /-- The fields that the answer shows of each item. -/
  fields : List Text
  deriving DecidableEq

/-- The fields shown when nobody chooses any. A field is written with its
    quotes. -/
def defaultFields : List Text :=
  ["\"name\"", "\"repo\"", "\"path\"", "\"actual_md5\"", "\"actual_sha1\"", "\"size\""]

/-- The type of the items that are folders. -/
def folderType : Text := "folder"

/-! ## Rendering -/

/-- The condition that an item lies at a location. In a search for folders a
    location that would take in the root of the repository excludes it. -/
def Location.condition (itemType : Text) (l : Location) : Text :=
  let notRoot : Text :=
    if itemType = folderType ∧ l.coversRoot then "\"path\": \x7b\"$ne\": \".\"\x7d," else []
  let ofType : Text :=
    if itemType = [] then [] else ",\"type\": \x7b\"$eq\": \"" ++ itemType ++ "\"\x7d"
  "\"$and\": [\x7b\"path\": \x7b\"$match\": \"" ++ l.path ++ "\"\x7d," ++ notRoot ++
    "\"name\": \x7b\"$match\": \"" ++ l.name ++ "\"\x7d" ++ ofType ++ "\x7d]"

/-- A query from the text of its filter. -/
def renderBody (body : Text) (fields : List Text) : Text :=
  "items.find(" ++ body ++ ").include(" ++ Text.joined "," fields ++ ")"

/-- The text of a filter, with the property conditions already written. -/
def renderFilter (repository propertyClauses : Text) (locations : List Location)
    (itemType : Text) : Text :=
  let alternatives : List Text := locations.map fun l => "\x7b" ++ l.condition itemType ++ "\x7d"
  "\x7b\"repo\": \"" ++ repository ++ "\"," ++ propertyClauses ++ "\"$or\": [" ++
    Text.joined "," alternatives ++ "]\x7d"

/-- The text of a filter. -/
def Filter.render (f : Filter) : Text :=
  renderFilter f.repository (Property.clauses f.properties) f.locations f.itemType

/-- The text of a query. -/
def Query.render (q : Query) : Text :=
  match q.source with
  | .raw body => renderBody body q.fields
  | .generated f => renderBody f.render q.fields

/-! ## Queries for patterns -/

/-- The query for the files that a pattern stands for, restricted to those that
    carry the properties of a property list. -/
def Query.files (pattern : Text) (recursive : Bool) (properties : Text) (fields : List Text) :
    Except Property.Malformed Query := do
  let properties ← Property.parseList properties
  let (repository, rest) := Pattern.splitRepository (Pattern.prepare pattern)
  let locations := Location.ofFilePattern rest recursive
  pure ⟨.generated ⟨repository, locations, properties, []⟩, fields⟩

/-- The query for the folders that a pattern stands for: all folders when it
    names a repository alone. Slashes at its end say nothing. -/
def Query.folders (pattern : Text) (fields : List Text) : Query :=
  let bare := ((Pattern.stripParens pattern).reverse.dropWhile Text.isSlash).reverse
  let (repository, rest) := Pattern.splitRepository bare
  let rest := if rest = [] then [Glob.star] else rest
  let locations := Location.ofFolderPattern (repository ++ "/" ++ rest)
  ⟨.generated ⟨repository, locations, [], folderType⟩, fields⟩

end Depot.Search
