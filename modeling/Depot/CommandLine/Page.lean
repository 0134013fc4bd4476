import Depot.CommandLine.Shape
import Depot.Text.Blank

/-!
# Pages that explain a command

A page has the line that shows how to call the command, what the command is for,
a table of its switches, and one of its subcommands if it has any. No line goes
beyond `pageWidth`, unless a word does.
-/

namespace Depot.CommandLine

/-- The most characters of a line. -/
def pageWidth : Nat := 80

/-! ## Lines -/

/-- The words of a text, each with the blanks in front of it. -/
def gapsAndWords : Text → List (Text × Text)
  | [] => []
  | c :: t =>
    match gapsAndWords t with
    | [] => if c = ' ' then [] else [([], [c])]
    | (gap, w) :: rest =>
      if c = ' ' then (' ' :: gap, w) :: rest
      else if gap = [] then ([], c :: w) :: rest
      else ([], [c]) :: (gap, w) :: rest

/-- The lines that words make, the first of which has started. -/
def fill (width : Nat) (line : Text) : List (Text × Text) → List Text
  | [] => if line = [] then [] else [line]
  | (gap, w) :: rest =>
    if line = [] then fill width w rest
    else if (line ++ gap ++ w).length ≤ width then fill width (line ++ gap ++ w) rest
    else line :: fill width w rest

/-- A text as lines of at most some width. -/
def wrap (width : Nat) (t : Text) : List Text := fill width [] (gapsAndWords t)

/-- A line moved to the right. -/
def indent (n : Nat) (line : Text) : Text := Text.repeated n ' ' ++ line

/-- The lines of a paragraph. -/
def Paragraph.toLines : Paragraph → List Text
  | .flowing t => (wrap (pageWidth - 2) t).map (indent 2)
  | .lines ls => ls.map (indent 2)

/-! ## Tables -/

/-- The widest first column whose rows share their lines with the second one. -/
def columnLimit : Nat := 30

/-- The width of the first column of a table. -/
def columnWidth (rows : List (Text × Text)) : Nat :=
  min ((rows.map fun r => r.1.length).foldl max 0) columnLimit

/-- The lines of a row. -/
def rowLines (column : Nat) (row : Text × Text) : List Text :=
  match wrap (pageWidth - column - 4) row.2 with
  | [] => [indent 2 row.1]
  | l :: ls =>
    let further := ls.map (indent (column + 4))
    if row.1.length ≤ column then
      indent 2 (row.1 ++ indent (column + 2 - row.1.length) l) :: further
    else indent 2 row.1 :: indent (column + 4) l :: further

/-- The lines of a table under a heading. -/
def tableLines (heading : Text) (rows : List (Text × Text)) : List Text :=
  [] :: (heading ++ ":") :: rows.flatMap (rowLines (columnWidth rows))

/-! ## What tables show -/

/-- How a value is shown after its switch. -/
def Operand.shown : Operand → Text
  | .nothing => []
  | .text => " TEXT"
  | .path => " PATH"
  | .file => " FILE"
  | .oneOf words => " [" ++ Text.joined "|" words ++ "]"

/-- Names of a switch, those with one dash first. -/
def shownNames (names : List Text) : Text :=
  let isLong := fun n => (Text.ofString "--").isPrefixOf n
  Text.joined ", " (names.filter (!isLong ·) ++ names.filter isLong)

/-- The row of a switch. -/
def Switch.row (s : Switch) : Text × Text :=
  let off : Text := if s.offNames = [] then [] else " / " ++ shownNames s.offNames
  let default : Text :=
    match s.shownDefault with
    | some d => "  [default: " ++ d ++ "]"
    | none => []
  (shownNames s.names ++ off ++ s.operand.shown, s.about ++ default)

/-- How a parameter is shown. -/
def Parameter.shown (p : Parameter) : Text :=
  let name := if p.needed then p.name else '[' :: (p.name ++ "]")
  if p.many then name ++ "..." else name

/-- The words up to the end of the first sentence. -/
def firstSentence : List Text → List Text
  | [] => []
  | w :: ws => if Text.endsWith '.' w then [w] else w :: firstSentence ws

/-- A line with as many further words as leave room for three dots. -/
def fitting (limit : Nat) (line : Text) : List Text → Text
  | [] => line
  | w :: ws =>
    let next := if line = [] then w else line ++ " " ++ w
    if next.length + 3 ≤ limit then fitting limit next ws else line

/-- The first sentence of a text, cut where it is too long. -/
def summary (limit : Nat) (t : Text) : Text :=
  let sentence := Text.joined " " (firstSentence (Text.words t))
  if sentence.length ≤ limit then sentence else fitting limit [] (Text.words t) ++ "..."

/-- What a command is for, in one line. -/
def Shape.summary (limit : Nat) (s : Shape) : Text :=
  match s.about with
  | .flowing t :: _ => CommandLine.summary limit t
  | _ => []

/-! ## Pages -/

/-- How a command is called. -/
def Shape.call (s : Shape) : Text :=
  Text.joined " " (Text.ofString "[OPTIONS]" :: s.parameters.map Parameter.shown)

/-- The line that shows how a command is called, and its subcommand if it has
    some. -/
def usageLine (program : Text) (s : Shape) (hasCommands : Bool) : Text :=
  let tail : Text := if hasCommands then " COMMAND [ARGS]..." else []
  "Usage: " ++ program ++ " " ++ s.call ++ tail

/-- The table of subcommands. -/
def commandRows (commands : List (Text × Shape)) : List (Text × Text) :=
  let longest := (commands.map fun c => c.1.length).foldl max 0
  commands.map fun c => (c.1, c.2.summary (pageWidth - 6 - longest))

/-- Paragraphs with an empty line between each two. -/
def paragraphLines (ps : List Paragraph) : List Text :=
  List.intercalate [[]] (ps.map Paragraph.toLines)

/-- The page of a command that is called by some words. -/
def page (program : Text) (s : Shape) (commands : List (Text × Shape)) : Text :=
  let table := if commands = [] then [] else tableLines "Commands" (commandRows commands)
  Text.joined "\n"
    (usageLine program s (commands ≠ []) :: [] :: (paragraphLines s.about ++
      tableLines "Options" (s.allSwitches.map Switch.row) ++ table))

end Depot.CommandLine
