import Depot.Console.CellTable
import Depot.Console.Emoji
import Depot.Text.Printable

/-!
# Cells of a terminal

A terminal shows a text in cells: most characters take one, some take two and
some none. Tab stops are counted in cells (`expandTabs`).

The character after a joiner belongs to the emoji before it and takes no cell of
its own. A symbol that is followed by the request to look like an emoji takes two
cells.
-/

namespace Depot.Console

/-- The character that joins the emoji around it to one. -/
def joiner : CodePoint := '\u200d'

/-- The number of cells that a character takes on its own. -/
def characterCells (c : CodePoint) : Nat :=
  let n := c.toNat
  if n < 0x20 ∨ (0x7f ≤ n ∧ n < 0xa0) then 0
  else if n < 0x7f then 1
  else if Text.inRanges emptyRanges n then 0
  else if Text.inRanges wideRanges n then 2
  else 1

/-- Whether a character takes a second cell when it looks like an emoji. -/
def widens (c : CodePoint) : Bool := Text.inRanges emojiRanges c.toNat

/-- The number of cells of a text after a character that can be asked to look like
    an emoji, if there is one. -/
def cellsAfter (last : Option CodePoint) : Text → Nat
  | [] => 0
  | c :: t =>
    if c = joiner then
      match t with
      | [] => 0
      | _ :: t => cellsAfter last t
    else if c = Emoji.emojiLook then (if last.any widens then 1 else 0) + cellsAfter none t
    else
      let n := characterCells c
      n + cellsAfter (if n = 0 then last else some c) t

/-- The number of cells that a text takes. -/
def cells (t : Text) : Nat := cellsAfter none t

/-! ## Tabs -/

/-- The distance between tab stops. -/
def tabStop : Nat := 8

/-- The parts of a line between its tabs, with blanks up to the next tab stop after
    each but the last. The first part starts in some cell. -/
def fillParts (cell : Nat) : List Text → Text
  | [] => []
  | [part] => part
  | part :: parts =>
    let next := cell + cells (part ++ " ")
    let more := (tabStop - next % tabStop) % tabStop
    part ++ " " ++ Text.repeated more ' ' ++ fillParts (next + more) parts

/-- The text with blanks in place of tabs. -/
def expandTabs (t : Text) : Text :=
  Text.joined "\n" ((Text.pieces '\n' t).map fun line => fillParts 0 (Text.pieces '\t' line))

end Depot.Console
