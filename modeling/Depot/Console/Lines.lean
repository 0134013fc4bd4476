import Depot.Console.Cells
import Depot.Text.Blank

/-!
# Lines of a console

A console has a width in cells, and a line that takes more of them goes on in the
next one (`broken`). It is broken in front of a word that does not fit; a word that
fits in no line starts in a new one and is broken between its signs (`chop`). A sign
is a character with those behind it that take no cell of their own (`signs`).

Blanks stay behind the word that they follow, and may reach beyond the width. Such a
line loses blanks at its end (`trimmed`) and what is too wide for it then (`crop`).

A console may also be so wide that it breaks no line. It has no `Width`.
-/

namespace Depot.Console

/-- The width of a console that breaks lines, with room for every character. -/
structure Width where
  /-- The number of cells. -/
  cells : Nat
  two_le : 2 ≤ cells

instance (n : Nat) : OfNat Width (n + 2) := ⟨⟨n + 2, Nat.le_add_left 2 n⟩⟩

/-! ## Signs -/

/-- What is shown in cells of its own: a character and those that belong to it. -/
structure Sign where
  text : Text
  /-- The number of cells that it takes. -/
  cells : Nat

/-- The signs of a text behind the start of the first one, given the character that can be
    asked to look like an emoji, if there is one. -/
def signsAfter (s : Sign) (last : Option CodePoint) : Text → List Sign
  | [] => [s]
  | c :: t =>
    if c = joiner then
      match t with
      | [] => [{ s with text := s.text ++ [c] }]
      | d :: t => signsAfter { s with text := s.text ++ [c, d] } last t
    else if c = Emoji.emojiLook then
      signsAfter ⟨s.text ++ [c], s.cells + if last.any widens then 1 else 0⟩ none t
    else
      let n := characterCells c
      if n = 0 then signsAfter { s with text := s.text ++ [c] } last t
      else s :: signsAfter ⟨[c], n⟩ (some c) t

/-- The signs of a text. -/
def signs : Text → List Sign
  | [] => []
  | c :: t =>
    let n := characterCells c
    signsAfter ⟨[c], n⟩ (if n = 0 then none else some c) t

/-- The parts that signs are put in, after one that is begun. A part has no more cells than
    a line. -/
def fill (width : Nat) (part : Text) (used : Nat) : List Sign → List Text
  | [] => [part]
  | s :: ss =>
    if used + s.cells ≤ width then fill width (part ++ s.text) (used + s.cells) ss
    else part :: fill width s.text s.cells ss

/-- The parts of a word that fits in no line. -/
def chop (width : Nat) (word : Text) : List Text := fill width [] 0 (signs word)

/-! ## Words -/

/-- Whether there is no word between two characters: the first one is no blank, or the
    second one is one. -/
def isWithin (c d : CodePoint) : Bool := !Text.isBlank c || Text.isBlank d

/-- The words of a line, each with the blanks behind it. Blanks in front of the first word
    belong to it. -/
def wordsOf (line : Text) : List Text :=
  match line.splitBy isWithin with
  | blanks :: word :: words =>
    if blanks.all Text.isBlank then (blanks ++ word) :: words else blanks :: word :: words
  | words => words

/-- The lines that words are put on, after one that is begun. A word is measured without the
    blanks behind it. -/
def place (width : Nat) (line : Text) (used : Nat) : List Text → List Text
  | [] => [line]
  | word :: words =>
    let size := cells (Text.stripEnd word)
    if used + size ≤ width then place width (line ++ word) (used + cells word) words
    else if size ≤ width then line :: place width word (cells word) words
    else
      -- The last part of the word is the start of a line.
      let parts := chop width word
      let last := parts.getLastD []
      (if line = [] then [] else [line]) ++ parts.dropLast ++ place width last (cells last) words

/-- A line as it is broken. -/
def broken (width : Nat) (line : Text) : List Text := place width [] 0 (wordsOf line)

/-! ## Ends of lines -/

/-- A line that has more characters than there are cells, without as many of the blanks at
    its end. -/
def trimmed (width : Nat) (line : Text) : Text :=
  let blanks := line.length - (Text.stripEnd line).length
  line.take (line.length - min blanks (line.length - width))

/-- What there is room for of some signs. A blank stands in for half a sign. -/
def fit (room : Nat) : List Sign → Text
  | [] => []
  | s :: ss =>
    if s.cells ≤ room then s.text ++ fit (room - s.cells) ss
    else if room = 0 then [] else [' ']

/-- What fits in a line. -/
def crop (width : Nat) (line : Text) : Text :=
  if cells line ≤ width then line else fit width (signs line)

/-- A line as it is printed. -/
def printedLine (width : Nat) (line : Text) : Text := crop width (trimmed width line)

/-- A text as it is printed. -/
def printed (columns : Option Width) (t : Text) : Text :=
  match columns with
  | none => t
  | some w =>
    Text.joined "\n" (((Text.pieces '\n' t).flatMap (broken w.cells)).map (printedLine w.cells))

/-! ## What is left of a text -/

/-- For each character of a line whether something is printed at its place. -/
def keptOf (width : Nat) (line : Text) : List Bool :=
  (broken width line).flatMap fun part =>
    let left := (printedLine width part).length
    List.replicate left true ++ List.replicate (part.length - left) false

/-- For each character of a text whether something is printed at its place in a line. -/
def kept (columns : Option Width) (t : Text) : List Bool :=
  List.intercalate [false] <| (Text.pieces '\n' t).map fun line =>
    match columns with
    | none => line.map fun _ => true
    | some w => keptOf w.cells line

/-- Whether a text is broken into several lines. -/
def isBroken (columns : Option Width) (t : Text) : Bool :=
  match columns with
  | none => false
  | some w => 1 < (broken w.cells t).length

end Depot.Console
