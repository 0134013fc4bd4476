import Depot.Number.Double
import Depot.Text.Place
import Depot.Text.Quoted
import Depot.Time.Timestamp

/-!
# TOML values

A TOML document is a table: named values in the order in which they are written.
`Toml.Value` is one value; a table that a program builds may also hold
`Value.absent`, which no document writes.

What makes a text no document is a `Toml.Fault`. The functions that read a part
of a text return the value and the rest of the text; a refusal tells the text at
which it was found by its length.
-/

namespace Depot.Toml

/-- A value. -/
inductive Value where
  /-- No value. -/
  | absent
  | text (t : Text)
  | integer (n : Int)
  | float (d : Double)
  | boolean (b : Bool)
  | dateTime (t : Time.Timestamp)
  | date (d : Time.Date)
  | time (hour minute second microsecond : Nat)
  | list (items : List Value)
  | table (members : List (Text × Value))

/-- The members of a table, in order. -/
abbrev Members := List (Text × Value)

/-- The names that lead to a table, from the outermost one on. -/
abbrev Address := List Text

/-- What is given a value: a name in the table with an address. -/
structure Key where
  /-- The names in front. -/
  table : Address
  /-- The last name. -/
  name : Text
  deriving DecidableEq

/-- All names of a key. -/
def Key.address (k : Key) : Address := k.table ++ [k.name]

/-! ## Faults -/

/-- What makes a text no document. -/
inductive Fault where
  | statement
  | afterStatement
  | keyStart
  | equals
  | tableEnd
  | itemEnd
  | listEnd
  | inlineEnd
  | value
  | moment
  | openString
  | closingQuotes (quotes : Text)
  | character (c : CodePoint)
  | rawCharacter (c : CodePoint)
  | escape
  | hexadecimal
  | scalar
  | declaredTwice (table : Address)
  | redefined (table : Address)
  | closed (table : Address)
  | overwritten
  | repeated (name : Text)
  deriving DecidableEq

/-- An address as it is shown in a message. -/
def showAddress (a : Address) : Text :=
  match a with
  | [n] => '(' :: (Text.quoted n ++ ",)")
  | _ => '(' :: (Text.joined ", " (a.map Text.quoted) ++ ")")

/-- The fault in words. -/
def Fault.message : Fault → Text
  | .statement => "Invalid statement"
  | .afterStatement => "Expected newline or end of document after a statement"
  | .keyStart => "Invalid initial character for a key part"
  | .equals => "Expected '=' after a key in a key/value pair"
  | .tableEnd => "Expected ']' at the end of a table declaration"
  | .itemEnd => "Expected ']]' at the end of an array declaration"
  | .listEnd => "Unclosed array"
  | .inlineEnd => "Unclosed inline table"
  | .value => "Invalid value"
  | .moment => "Invalid date or datetime"
  | .openString => "Unterminated string"
  | .closingQuotes quotes => "Expected " ++ Text.quoted quotes
  | .character c => "Illegal character " ++ Text.quoted [c]
  | .rawCharacter c => "Found invalid character " ++ Text.quoted [c]
  | .escape => "Unescaped '\\' in a string"
  | .hexadecimal => "Invalid hex value"
  | .scalar => "Escaped character is not a Unicode scalar value"
  | .declaredTwice table => "Cannot declare " ++ showAddress table ++ " twice"
  | .redefined table => "Cannot redefine namespace " ++ showAddress table
  | .closed table => "Cannot mutate immutable namespace " ++ showAddress table
  | .overwritten => "Cannot overwrite a value"
  | .repeated name => "Duplicate inline table key " ++ Text.quoted name

/-- Why a text was refused. -/
inductive ReadError where
  /-- The text is no document; the place is missing when it is the end. -/
  | fault (fault : Fault) (place : Option Text.Place)
  /-- An integer has more digits than are read. -/
  | tooManyDigits (digits : Nat)
  /-- A list or an inline table is nested too deep. -/
  | tooDeep
  deriving DecidableEq

/-- The complaint about values that are nested too deep. -/
def tooDeepMessage : Text := "maximum recursion depth exceeded"

/-- Why the text was refused, in words. -/
def ReadError.message : ReadError → Text
  | .fault f none => f.message ++ " (at end of document)"
  | .fault f (some place) =>
    f.message ++ " (at line " ++ Text.ofNat place.line ++ ", column " ++
      Text.ofNat place.column ++ ")"
  | .tooManyDigits digits => Text.tooManyDigitsMessage digits
  | .tooDeep => tooDeepMessage

/-- A refusal before its place is known: the fault and the length of the text
    at which it was found. -/
inductive Refusal where
  | fault (fault : Fault) (remaining : Nat)
  | tooManyDigits (digits : Nat)
  | tooDeep

/-- What was read and the text after it. -/
abbrev Step (α : Type) := Except Refusal (α × Text)

/-- Refuses the text from here on. -/
def refuse {α : Type} (fault : Fault) (here : Text) : Except Refusal α :=
  .error (.fault fault here.length)

/-- The refusal of a text as an error that names its place. -/
def Refusal.inText (t : Text) : Refusal → ReadError
  | .fault f 0 => .fault f none
  | .fault f remaining => .fault f (some (Text.Place.ofRemaining t remaining))
  | .tooManyDigits digits => .tooManyDigits digits
  | .tooDeep => .tooDeep

/-! ## Blanks and comments -/

/-- Whether a character is a blank within a line. -/
def isBlank (c : CodePoint) : Bool := c = ' ' || c = '\t'

/-- The text after its blanks. -/
def skip (t : Text) : Text := t.dropWhile isBlank

/-- Whether a character may not stand as itself in a string or a comment of one
    line: the control characters other than the tab. -/
def isControl (c : CodePoint) : Bool := (c < ' ' && c ≠ '\t') || c = '\x7f'

/-- The text after a comment that may stand in front of it, from the end of the
    line on. -/
def skipComment : Text → Except Refusal Text
  | '#' :: t =>
    let comment := t.takeWhile (!Text.isLineFeed ·)
    let rest := t.dropWhile (!Text.isLineFeed ·)
    match comment.dropWhile fun c => !isControl c with
    | [] => .ok rest
    | c :: r => refuse (.rawCharacter c) (c :: r ++ rest)
  | t => .ok t

/-- The text after blanks, ends of lines and comments. -/
def skipLines (inComment : Bool) : Text → Except Refusal Text
  | [] => .ok []
  | c :: t =>
    if inComment then
      if c = '\n' then skipLines false t
      else if isControl c then refuse (.rawCharacter c) (c :: t)
      else skipLines true t
    else if c = '#' then skipLines true t
    else if isBlank c || c = '\n' then skipLines false t
    else .ok (c :: t)

end Depot.Toml
