import Depot.Console.Colour
import Depot.Text.Blank
import Depot.Text.Case

/-!
# Styles

A style is written as words: attributes, which may be negated, a colour, a
background colour and a link. `Style.normal` is the one way of writing it, so
that two ways of writing a style are the same when their normal forms are. What
is no style is a name of its own, whatever its case; only a mixture of colours
that lacks a number is refused altogether.
-/

namespace Depot.Console

/-- What a style says. -/
structure Style where
  /-- The attributes it sets or takes back. -/
  attributes : List (Text × Bool) := []
  colour : Option Text := none
  background : Option Text := none
  link : Option Text := none

namespace Style

/-- The attributes in the order in which they are written. -/
def attributeNames : List Text :=
  ["bold", "dim", "italic", "underline", "blink", "blink2", "reverse", "conceal", "strike",
   "underline2", "frame", "encircle", "overline"]

/-- The short words for attributes. -/
def shortNames : List (Text × Text) :=
  [("b", "bold"), ("d", "dim"), ("i", "italic"), ("u", "underline"), ("r", "reverse"),
   ("c", "conceal"), ("s", "strike"), ("uu", "underline2"), ("o", "overline")]

/-- The attribute that a word names. -/
def attribute? (word : Text) : Option Text :=
  if attributeNames.contains word then some word
  else (shortNames.find? fun p => p.1 = word).map (·.2)

/-- The style with an attribute set or taken back. -/
def withAttribute (s : Style) (name : Text) (set : Bool) : Style :=
  { s with attributes := (name, set) :: s.attributes.filter fun p => p.1 ≠ name }

/-- Why words write no style. -/
inductive Fault where
  /-- One of them says nothing that belongs to a style. -/
  | unknown
  /-- One of them mixes a colour and lacks a number. -/
  | mixture
  deriving DecidableEq

/-- Goes on with a colour, unless the word is none. -/
def withColour {α : Type} (word : Text) (next : Except Fault α) : Except Fault α :=
  match colourWord word with
  | .colour => next
  | .broken => .error .mixture
  | .other => .error .unknown

/-- The style that words write, on top of what words before them have written. -/
def ofWords (s : Style) : List Text → Except Fault Style
  | [] => .ok s
  | w :: ws =>
    let word := Text.lower w
    if word = "on" then
      match ws with
      | c :: ws =>
        let colour := Text.lower c
        withColour colour (ofWords { s with background := some colour } ws)
      | [] => .error .unknown
    else if word = "not" then
      match ws with
      | a :: ws =>
        match attribute? a with
        | some name => ofWords (s.withAttribute name false) ws
        | none => .error .unknown
      | [] => .error .unknown
    else if word = "link" then
      match ws with
      | url :: ws => ofWords { s with link := some url } ws
      | [] => .error .unknown
    else
      match attribute? word with
      | some name => ofWords (s.withAttribute name true) ws
      | none => withColour word (ofWords { s with colour := some word } ws)

/-- The words that write a style. -/
def toWords (s : Style) : List Text :=
  let attributes := attributeNames.flatMap fun name =>
    match s.attributes.find? fun p => p.1 = name with
    | some (_, true) => [name]
    | some (_, false) => [Text.ofString "not", name]
    | none => []
  let background : List Text :=
    match s.background with
    | some c => ["on", c]
    | none => []
  let link : List Text :=
    match s.link with
    | some url => ["link", url]
    | none => []
  attributes ++ s.colour.toList ++ background ++ link

/-- The word for a style that says nothing. -/
def nothing : Text := "none"

/-- The style that a text writes. -/
def parse (t : Text) : Except Fault Style :=
  if Text.strip t = nothing then .ok {} else ofWords {} (Text.words t)

/-- The normal form of what is written as a style, unless it is refused. -/
def normal? (t : Text) : Option Text :=
  match parse t with
  | .ok s => some (if s.toWords = [] then nothing else Text.joined " " s.toWords)
  | .error .unknown => some (Text.lower (Text.strip t))
  | .error .mixture => none

/-- Whether a text is refused as a style. -/
def isRefused (t : Text) : Bool :=
  match parse t with
  | .error .mixture => true
  | _ => false

end Style

end Depot.Console
