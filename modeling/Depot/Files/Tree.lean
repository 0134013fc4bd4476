import Depot.Files.Path
import Depot.Text.Utf8

/-!
# File trees

A file tree is what a disk holds: for each location that is taken, a file with
its bytes or a folder. `Tree.lookup` is its view, and `Tree.put` and
`Tree.prune` are its changes: a new entry, and no entries at a location and
below it.

The operations that programs ask for go by a path. They follow it from folder to
folder as a system does, and each of them either gives the new tree or says what
was wrong.
-/

namespace Depot.Files

/-- What is at a location that is taken. -/
inductive Entry where
  | file (content : Bytes)
  | folder
  deriving DecidableEq

/-- What a disk holds. -/
structure Tree where
  /-- The entries by location; the root is a folder without being listed. -/
  entries : List (Location × Entry)
  deriving DecidableEq

/-- Why an operation on files fails. -/
inductive Trouble where
  | missing
  | taken
  | notFolder
  | isFolder
  | nameTooLong
  /-- The path holds a NUL. -/
  | nul
  deriving DecidableEq

/-- The words of a system for a trouble. -/
def Trouble.words : Trouble → Text
  | .missing => "No such file or directory"
  | .taken => "File exists"
  | .notFolder => "Not a directory"
  | .isFolder => "Is a directory"
  | .nameTooLong => "File name too long"
  | .nul => "embedded null byte"

/-- The number of a system for a trouble; nothing for one that the system is not
    even asked about. -/
def Trouble.number? : Trouble → Option Nat
  | .missing => some 2
  | .taken => some 17
  | .notFolder => some 20
  | .isFolder => some 21
  | .nameTooLong => some 36
  | .nul => none

/-- A failed operation and the path it was asked for. -/
structure FileError where
  trouble : Trouble
  path : Path
  /-- Whether the path is shown as a value of its own kind. -/
  asValue : Bool := false
  deriving DecidableEq

/-- What failed, in words. -/
def FileError.message (e : FileError) : Text :=
  match e.trouble.number? with
  | none => e.trouble.words
  | some n =>
    let shown := Text.quoted e.path.text
    "[Errno " ++ Text.ofNat n ++ "] " ++ e.trouble.words ++ ": " ++
      if e.asValue then "PosixPath(" ++ shown ++ ")" else shown

namespace Tree

/-! ## Entries -/

/-- What is at a location, if it is taken. -/
def lookup (t : Tree) (l : Location) : Option Entry :=
  if l = [] then some .folder else (t.entries.find? fun e => e.1 = l).map (·.2)

/-- The tree with an entry at a location. -/
def put (t : Tree) (l : Location) (e : Entry) : Tree :=
  ⟨(l, e) :: t.entries.filter fun e' => e'.1 ≠ l⟩

/-- The tree without what is at a location and below it. -/
def prune (t : Tree) (l : Location) : Tree :=
  ⟨t.entries.filter fun e => !l.isPrefixOf e.1⟩

/-- The names in a folder, in the order of their characters. -/
def names (t : Tree) (l : Location) : List Text :=
  let inside := t.entries.filterMap fun e =>
    if e.1 ≠ [] ∧ e.1.dropLast = l then e.1.getLast? else none
  inside.mergeSort fun a b => !Text.before b a

/-! ## Following paths -/

/-- The most bytes of a name, and of the text of a path. -/
def maxName : Nat := 255

/-- The most bytes of the text of a path. -/
def maxPath : Nat := 4095

/-- The location that names lead to from a location. Every name but the last has
    to be the name of a folder; the last may not be taken yet. -/
def walk (t : Tree) (here : Location) : List Text → Except Trouble Location
  | [] => .ok here
  | n :: ns =>
    match t.lookup here with
    | none => .error .missing
    | some (.file _) => .error .notFolder
    | some .folder =>
      if n = Path.up then walk t here.dropLast ns
      else if maxName < (Utf8.encode n).length then .error .nameTooLong
      else walk t (here ++ [n]) ns

/-- The location that a path leads to, seen from a folder. -/
def locate (t : Tree) (folder : Location) (p : Path) : Except Trouble Location :=
  if .char '\x00' ∈ p.text then .error .nul
  else if maxPath < (Utf8.encode p.text).length then .error .nameTooLong
  else t.walk [] (p.absolute folder)

/-- What is at the end of a path. -/
def stat (t : Tree) (folder : Location) (p : Path) : Except Trouble Entry :=
  match t.locate folder p with
  | .error e => .error e
  | .ok l =>
    match t.lookup l with
    | none => .error .missing
    | some e => .ok e

/-! ## Operations -/

/-- Whether an entry of a kind is at the end of a path. A path that leads
    nowhere is no failure, a name that no file can have is one. -/
def test (t : Tree) (folder : Location) (p : Path) (kind : Entry → Bool) :
    Except FileError Bool :=
  match t.stat folder p with
  | .ok e => .ok (kind e)
  | .error .nameTooLong => .error ⟨.nameTooLong, p, false⟩
  | .error _ => .ok false

/-- Whether anything is at the end of a path. -/
def exists? (t : Tree) (folder : Location) (p : Path) : Except FileError Bool :=
  t.test folder p fun _ => true

/-- Whether a folder is at the end of a path. -/
def isFolder? (t : Tree) (folder : Location) (p : Path) : Except FileError Bool :=
  t.test folder p fun e => e = .folder

/-- Whether a path leads to a folder. -/
def isFolder (t : Tree) (folder : Location) (p : Path) : Bool :=
  match t.stat folder p with
  | .ok .folder => true
  | _ => false

/-- The bytes of a file. -/
def read (t : Tree) (folder : Location) (p : Path) : Except FileError Bytes :=
  match t.stat folder p with
  | .ok (.file content) => .ok content
  | .ok .folder => .error ⟨.isFolder, p, false⟩
  | .error e => .error ⟨e, p, false⟩

/-- The tree with a file written, which may be there already. -/
def write (t : Tree) (folder : Location) (p : Path) (content : Bytes) : Except FileError Tree :=
  match t.locate folder p with
  | .error e => .error ⟨e, p, false⟩
  | .ok l =>
    if t.lookup l = some .folder then .error ⟨.isFolder, p, false⟩
    else .ok (t.put l (.file content))

/-- The tree with a new folder. -/
def makeFolder (t : Tree) (folder : Location) (p : Path) : Except FileError Tree :=
  match t.locate folder p with
  | .error e => .error ⟨e, p, false⟩
  | .ok l =>
    match t.lookup l with
    | some _ => .error ⟨.taken, p, false⟩
    | none => .ok (t.put l .folder)

/-- The tree with a folder that may be there already. -/
def ensureFolder (t : Tree) (folder : Location) (p : Path) : Except FileError Tree :=
  match t.makeFolder folder p with
  | .ok t' => .ok t'
  | .error e => if t.isFolder folder p then .ok t else .error e

/-- The tree with a folder and all folders above it, given the names of its path
    in reverse. Folders above are made only where the system misses one; those
    that were made stay when a folder below them cannot be. -/
def ensureFoldersRev (t : Tree) (folder : Location) (root : Text) :
    List Text → Tree × Option FileError
  | [] =>
    match t.ensureFolder folder ⟨root, []⟩ with
    | .ok t' => (t', none)
    | .error e => (t, some e)
  | n :: above =>
    let p : Path := ⟨root, (n :: above).reverse⟩
    match t.makeFolder folder p with
    | .ok t' => (t', none)
    | .error e =>
      if e.trouble = .missing then
        match ensureFoldersRev t folder root above with
        | (t', some e) => (t', some e)
        | (t', none) =>
          match t'.ensureFolder folder p with
          | .ok t'' => (t'', none)
          | .error e => (t', some e)
      else if t.isFolder folder p then (t, none)
      else (t, some e)

/-- The tree with a folder and all folders above it, and what was wrong if that
    cannot be. -/
def ensureFolders (t : Tree) (folder : Location) (p : Path) : Tree × Option FileError :=
  t.ensureFoldersRev folder p.root p.names.reverse

/-- The tree without a folder and all that is in it, if there is one. -/
def remove (t : Tree) (folder : Location) (p : Path) : Except FileError Tree :=
  match t.stat folder p with
  | .ok .folder =>
    match t.locate folder p with
    | .ok l => .ok (t.prune l)
    | .error e => .error ⟨e, p, false⟩
  | .ok (.file _) => .error ⟨.notFolder, p, true⟩
  | .error .nameTooLong => .error ⟨.nameTooLong, p, false⟩
  | .error _ => .ok t

/-- The tree without some of what is at the end of a path and below it, as a removal
    leaves it that stops on its way. -/
def removeSome (t : Tree) (folder : Location) (p : Path) (gone : Location → Bool) : Tree :=
  match t.locate folder p with
  | .ok l => ⟨t.entries.filter fun e => !(l.isPrefixOf e.1 && gone e.1)⟩
  | .error _ => t

/-! ## The view after a change -/

theorem lookup_put_self {t : Tree} {l : Location} (h : l ≠ []) (e : Entry) :
    (t.put l e).lookup l = some e := by
  simp [put, lookup, h]

theorem lookup_put_of_ne {t : Tree} {l l' : Location} (h : l' ≠ l) (e : Entry) :
    (t.put l e).lookup l' = t.lookup l' := by
  obtain ⟨entries⟩ := t
  by_cases hl : l' = []
  · simp [lookup, hl]
  · simp only [put, lookup, hl, if_false, List.find?_cons, Ne.symm h, decide_false,
      List.find?_filter]
    congr 2
    funext x
    by_cases hx : x.1 = l' <;> simp [hx, h]

theorem lookup_prune_of_prefix {t : Tree} {l l' : Location} (hl : l' ≠ []) (h : l <+: l') :
    (t.prune l).lookup l' = none := by
  simp only [lookup, hl, if_false, prune, Option.map_eq_none_iff, List.find?_eq_none,
    List.mem_filter, decide_eq_true_eq]
  rintro ⟨x, e⟩ ⟨_, hx⟩ rfl
  simp [List.isPrefixOf_iff_prefix.2 h] at hx

theorem lookup_prune_of_not_prefix {t : Tree} {l l' : Location} (h : ¬ l <+: l') :
    (t.prune l).lookup l' = t.lookup l' := by
  have hp : l.isPrefixOf l' = false := by
    rw [← Bool.not_eq_true, List.isPrefixOf_iff_prefix]
    exact h
  simp only [lookup, prune, List.find?_filter]
  congr 3
  funext x
  by_cases hx : x.1 = l' <;> simp [hx, hp]

end Tree

end Depot.Files
