import Depot.Search.Pattern

/-!
# Locations

An item of a repository lies at a *location*: the path of its folder (`.` for
the root of the repository) and its name, which the server keeps as two fields
and matches against two globs. Neither glob can reach into the other field, so
a pattern such as `a/*b*`, which stands for `a/xb` as well as for `a/x/y/b`,
has to be written as several alternatives: one for each place where the slash
between path and name may fall.

`Location.ofFilePattern` lists them for a search for files,
`Location.ofFolderPattern` for a search for folders.
-/

namespace Depot.Search

/-- A glob on the path of an item and a glob on its name. -/
structure Location where
  /-- Stands for the folder of the item. -/
  path : Text
  /-- Stands for the name of the item. -/
  name : Text
  deriving DecidableEq

/-- Where an item lies. -/
structure Item where
  /-- The folder of the item, `.` for the root of the repository. -/
  path : Text
  /-- The name of the item, without a slash. -/
  name : Text
  deriving DecidableEq

/-- The path of the items that lie in the root of their repository. -/
def rootPath : Text := ['.']

namespace Location

/-- The items at a location: path and name each match. -/
def Matches (l : Location) (i : Item) : Prop :=
  Glob.Matches Glob.AnyChar l.path i.path ∧ Glob.Matches Glob.AnyChar l.name i.name

/-- The location that a pattern names when the slash between path and name is
    its own last slash. -/
def direct (p : Text) : Location :=
  match Text.cutLast '/' p with
  | some (path, name) => ⟨path, name⟩
  | none => ⟨rootPath, p⟩

/-! ## Files -/

/-- The cut of a name behind one of the sections that its `*` part, with the `*` on both
    sides of the cut, since either side may take a part of the run. A `*` at the very end
    of the name is not cut, since the whole run may stay in the name. -/
def cutAfter? (sections : List Text) (i : Nat) : Option (Text × Text) :=
  let last := sections.length - 1
  if i = last - 1 ∧ sections[last]? = some [] then none
  else
    some (Text.joined [Glob.star] (sections.take (i + 1)) ++ [Glob.star],
      [Glob.star] ++ Text.joined [Glob.star] (sections.drop (i + 1)))

/-- The ways to cut a name behind one of its sections. -/
def cutsBetween (sections : List Text) : List (Text × Text) :=
  (List.range (sections.length - 1)).filterMap (cutAfter? sections)

/-- The text that leads from a path to the names in it. -/
def enter (path : Text) : Text :=
  if path = [] then [] else path ++ "/"

/-- The locations of the files that a pattern stands for, the direct one first.
    The pattern comes without its repository; without `recursive` no `*` of its
    name reaches into a subfolder. -/
def ofFilePattern (p : Text) (recursive : Bool) : List Location :=
  if p = [Glob.star] then
    [⟨if recursive then [Glob.star] else rootPath, [Glob.star]⟩]
  else
    let first := direct p
    if !recursive then [first]
    else
      let path := ((Text.cutLast '/' p).map (·.1)).getD []
      -- A name that is a bare `*` has no part to leave in the path, so the path is opened
      -- instead.
      if first.name = [Glob.star] then [first, ⟨path ++ "/*", [Glob.star]⟩]
      else
        first :: (cutsBetween (Text.pieces Glob.star first.name)).map fun c =>
          ⟨enter path ++ c.1, c.2⟩

/-! ## Folders -/

/-- One step of simplifying a path: a component `..` takes back the component
    before it, unless there is nothing to take back. `absolute` paths drop what
    would lead above their root. The stack holds the last component first. -/
def pushComponent (absolute : Bool) (stack : List Text) (c : Text) : List Text :=
  if c = [] ∨ c = "." then stack
  else if c ≠ ".." then c :: stack
  else
    match stack with
    | [] => if absolute then [] else [c]
    | top :: below => if top = ".." then c :: stack else below

/-- The shortest text for a path: without empty and `.` components and with
    `..` resolved. Two slashes in front stay two, more of them count as one. The
    empty path is `.`. -/
def simplify (p : Text) : Text :=
  let slashes := (p.takeWhile Text.isSlash).length
  let root := Text.repeated (if slashes = 2 then 2 else min slashes 1) '/'
  let stack := (Text.pieces '/' p).foldl (pushComponent (root ≠ [])) []
  let simple := root ++ Text.joined "/" stack.reverse
  if simple = [] then rootPath else simple

/-- A path followed by one more segment. -/
def join (path segment : Text) : Text :=
  simplify
    (if path = [] ∨ Text.endsWith '/' path then path ++ segment else path ++ "/" ++ segment)

/-- The places of a `*` in a name: the name up to and including the `*`, and
    the name from the `*` on. -/
def splits (before : Text) : Text → List (Text × Text)
  | [] => []
  | c :: rest =>
    let here := if c = Glob.star then [(before ++ [c], c :: rest)] else []
    here ++ splits (before ++ [c]) rest

/-- The locations of the folders that a pattern stands for, the direct one
    first. The pattern may carry its repository and one slash at its end;
    every `*` of the last segment may be where the name of the folder begins,
    the one at its end included. -/
def ofFolderPattern (p : Text) : List Location :=
  let p := if Text.endsWith '/' p then p.dropLast else p
  let p := Pattern.stripParens p
  let p := if .char '/' ∈ p then (Pattern.splitRepository p).2 else p
  let first := direct p
  first :: (splits [] first.name).map fun s => ⟨join first.path s.1, s.2⟩

/-- Whether a location of folders would take in the root of the repository,
    which is no folder in it: exactly when both globs are a bare `*`. -/
def coversRoot (l : Location) : Bool :=
  l.path = [Glob.star] && l.name = [Glob.star]

/-! ## The direct location -/

/-- Without recursion a pattern has its direct location only. -/
theorem ofFilePattern_false (p : Text) : ofFilePattern p false = [direct p] := by
  by_cases h : p = [Glob.star]
  · subst h
    rfl
  · simp [ofFilePattern, h]

/-- The direct location comes first, but for a bare `*`. -/
theorem exists_ofFilePattern_eq_cons {p : Text} (hp : p ≠ [Glob.star]) (recursive : Bool) :
    ∃ ls, ofFilePattern p recursive = direct p :: ls := by
  cases recursive with
  | false => exact ⟨[], ofFilePattern_false p⟩
  | true =>
    simp only [ofFilePattern, if_neg hp, Bool.not_true, Bool.false_eq_true, if_false]
    split <;> exact ⟨_, rfl⟩

end Location

end Depot.Search
