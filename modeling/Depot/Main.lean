import Depot.Command.Reach
import Std.Time

/-!
# The program on a system

`main` lends a run the files that it reaches, prints what it prints, and makes
the changes on the system that it made to its files. Nothing else is done here.
There is no way from here to a server: a request stays without an answer.
-/

namespace Depot.Host

open Files (Entry Location Tree)

/-! ## Files -/

/-- The words by which the system is asked for a location. -/
def nameOf (l : Location) : String := (Files.Path.text ⟨"/", l⟩).toString

/-- What is at a location, and what is below it down to some depth. What cannot
    be looked at is not there. -/
def look (depth : Nat) (l : Location) : IO (List (Location × Entry)) := do
  try
    let path ← IO.FS.realPath (nameOf l)
    if ← path.isDir then
      match depth with
      | 0 => return [(l, .folder)]
      | depth + 1 =>
        let children ← path.readDir
        let below ← children.toList.mapM fun c => look depth (l ++ [Text.ofString c.fileName])
        return (l, .folder) :: below.flatten
    else return [(l, .file (← IO.FS.readBinFile path).toList)]
  catch _ => return []

/-- Adds to a tree what is along a path, and what is below its end down to some
    depth. -/
def lookAlong (here : Location) (depth : Nat) (t : Tree) (p : Files.Path) : IO Tree := do
  let names := p.absolute here
  let mut found ← look depth (Files.Path.simplify names)
  for n in List.range names.length do
    found := found ++ (← look 0 (Files.Path.simplify (names.take n)))
  return found.foldl (fun t e => if e.1 = [] then t else t.put e.1 e.2) t

/-- Changes the files of the system as a tree was changed: what is gone goes,
    the innermost first, and what is new comes, the outermost first. -/
def change (before after : Tree) : IO Unit := do
  let gone := before.entries.filter fun e => after.lookup e.1 = none
  for e in gone.mergeSort fun a b => b.1.length ≤ a.1.length do
    match e.2 with
    | .folder => IO.FS.removeDir (nameOf e.1)
    | .file _ => IO.FS.removeFile (nameOf e.1)
  let new := after.entries.filter fun e => before.lookup e.1 ≠ some e.2
  for e in new.mergeSort fun a b => a.1.length ≤ b.1.length do
    match e.2 with
    | .folder => IO.FS.createDir (nameOf e.1)
    | .file content =>
      IO.FS.writeBinFile (nameOf e.1) ⟨content.toArray⟩
      IO.setAccessRights (nameOf e.1) ⟨⟨true, true, false⟩, {}, {}⟩

/-! ## Surroundings -/

/-- The bytes between zeros. -/
def zeroPieces : Bytes → List Bytes
  | [] => [[]]
  | b :: bs =>
    match zeroPieces bs with
    | [] => [[b]]
    | p :: ps => if b = 0 then [] :: p :: ps else (b :: p) :: ps

/-- The variables of the process that are text. -/
def environment : IO (List (Text × Text)) := do
  let bytes ← IO.FS.readBinFile "/proc/self/environ"
  return (zeroPieces bytes.toList).filterMap fun p => (Utf8.decode p).toOption.bind (Text.cut '=')

/-- The width of the console: what the variable says, or else the usual one. -/
def columns (environment : List (Text × Text)) : Option Console.Width :=
  match (environment.find? fun v => v.1 = Text.ofString "COLUMNS").bind (Text.toNat? ·.2) with
  | none => some 80
  | some n => if h : 2 ≤ n then some ⟨n, h⟩ else none

/-- What the run finds around it. -/
def surroundings : IO Command.Surroundings := do
  let here := Files.Path.parse (← IO.currentDir).toString
  let now := (← Std.Time.Timestamp.now).toNanosecondsSinceUnixEpoch.val
  let drawn ← IO.rand 0 0xffffffff
  let inherited ← environment
  return {
    here := here.names
    environment := inherited
    now := Time.Timestamp.ofMicroseconds (now / 1000).toNat
    millis := now / 1000000
    suffix := fun n => Text.hex 8 ((drawn + n) % 0x100000000)
    reply := .failure "no way to the server"
    columns := columns inherited }

/-- How deep the folder of a build is looked at. -/
def buildDepth : Nat := 64

/-- The files that a run reaches. -/
def reachedFiles (s : Command.Surroundings) (words : List Text) : IO Tree := do
  let named := Files.Path.parse "." :: Command.reachedPaths s words
  let tree ← named.foldlM (lookAlong s.here 0) ⟨[]⟩
  match Command.reachedBuild? s words ⟨tree, 0⟩ with
  | some folder => lookAlong s.here buildDepth tree folder
  | none => return tree

/-! ## Running -/

/-- Runs the program on the words that it is called with and gives its exit code. -/
def run (words : List Text) : IO Nat := do
  let s ← surroundings
  let before ← reachedFiles s words
  let outcome := Command.run s words ⟨before, 0⟩
  (← IO.getStdout).putStr outcome.state.out.toString
  (← IO.getStderr).putStr outcome.state.err.toString
  if let some c := outcome.crash then
    (← IO.getStderr).putStrLn c.message.toString
  change before outcome.state.disk.tree
  return outcome.code

end Depot.Host

/-- Runs the program. -/
def main (args : List String) : IO UInt32 := do
  return UInt32.ofNat (← Depot.Host.run (args.map Depot.Text.ofString))
