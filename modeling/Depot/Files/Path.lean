import Depot.Text.Quoted

/-!
# Paths

A path is a root, if it is absolute, and a list of names. Its text has no empty
names and no `.`, and `..` stays where it is until the path is resolved.
-/

namespace Depot.Files

/-- The place of a file: the names from the root of the file tree on. -/
abbrev Location := List Text

/-- A path. -/
structure Path where
  /-- One or two slashes for an absolute path, nothing for a relative one. -/
  root : Text
  /-- The names. -/
  names : List Text
  deriving DecidableEq

namespace Path

/-- The name of the folder above. -/
def up : Text := ['.', '.']

/-- The path that a text writes. Two slashes in front are a root of their own,
    more of them are one. -/
def parse (t : Text) : Path :=
  let slashes := (t.takeWhile Text.isSlash).length
  let root := Text.repeated (if slashes = 2 then 2 else min slashes 1) '/'
  ⟨root, (Text.pieces '/' t).filter fun n => n ≠ [] && n ≠ "."⟩

/-- The text of a path. -/
def text (p : Path) : Text :=
  if p.root = [] ∧ p.names = [] then ['.']
  else p.root ++ Text.joined "/" p.names

/-- The path of something in the folder that a path leads to. -/
def child (p : Path) (name : Text) : Path := ⟨p.root, p.names ++ [name]⟩

/-- The path of the folder that holds what a path leads to. -/
def parent (p : Path) : Path := ⟨p.root, p.names.dropLast⟩

/-- The path with the home folder in place of a `~` in front. Of other users
    only the administrator has a home folder; the path to any other is none, and so
    is one to a home folder that is itself given by a `~`. -/
def expand? (home : Text) (p : Path) : Option Path :=
  if p.root = [] then
    match p.names with
    | ('~' :: user) :: rest =>
      if user = [] then
        let stripped := (home.reverse.dropWhile Text.isSlash).reverse
        let folder := parse (if stripped = [] then ['/'] else stripped)
        if Text.startsWith '~' stripped then none
        else some ⟨folder.root, folder.names ++ rest⟩
      else if user = "root" then some ⟨['/'], "root" :: rest⟩
      else none
    | _ => some p
  else some p

/-- The names from the root of the file tree on, for a path that starts from a
    folder. -/
def absolute (folder : Location) (p : Path) : List Text :=
  if p.root = [] then folder ++ p.names else p.names

/-- The location that names lead to when `..` takes back the name before it. -/
def simplify (names : List Text) : Location :=
  (names.foldl (fun stack n => if n = up then stack.drop 1 else n :: stack) []).reverse

/-- The absolute path without `..` that leads to the same place. -/
def resolve (folder : Location) (p : Path) : Path := ⟨['/'], simplify (p.absolute folder)⟩

theorem names_child (p : Path) (name : Text) : (p.child name).names = p.names ++ [name] := rfl

theorem parent_child (p : Path) (name : Text) : (p.child name).parent = p := by
  simp [child, parent]

end Path

end Depot.Files
