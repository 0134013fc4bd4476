import Depot.Json.Basic
import Depot.Text
import Depot.Text.Place

/-!
# Reading JSON

`Json.read` reads a text as one JSON value, with the members of every object as
they are written, and `Json.parse` collapses repeated keys afterwards. Beside
the standard's values the words `NaN`, `Infinity` and `-Infinity` are numbers.

A text that is no JSON is refused with the fault found first and its place. The
functions that read a part of the text take the text from that part on and
return the rest of it; a fault is told by the text at which it was found, whose
length gives the place. Lists and objects may be nested to some depth and no
deeper.

A string may escape half of a surrogate pair. The escapes of the two halves of a
pair one after the other are the character they encode; a half alone stays what
it is, and so does a half that is not escaped.
-/

namespace Depot.Json

/-- What makes a text no JSON. -/
inductive Fault where
  | byteOrderMark
  | value
  | key
  | colon
  | comma
  | extra
  | openString
  | controlCharacter
  | escape
  | unicodeEscape
  deriving DecidableEq

/-- What holds other values. -/
inductive Container where
  | list
  | object
  deriving DecidableEq

/-- The complaint about a container that is nested too deep. -/
def Container.tooDeepMessage (c : Container) : Text :=
  let name : Text :=
    match c with
    | .list => "array"
    | .object => "object"
  "maximum recursion depth exceeded while decoding a JSON " ++ name ++ " from a unicode string"

/-- Why a text was refused. -/
inductive ReadError where
  /-- The text is no JSON. -/
  | syntaxFault (fault : Fault) (place : Text.Place)
  /-- An integer has more digits than are read. -/
  | tooManyDigits (digits : Nat)
  /-- A list or an object is nested too deep. -/
  | tooDeep (container : Container)
  deriving DecidableEq

/-- The fault in words. -/
def Fault.message : Fault → Text
  | .byteOrderMark => "Unexpected UTF-8 BOM (decode using utf-8-sig)"
  | .value => "Expecting value"
  | .key => "Expecting property name enclosed in double quotes"
  | .colon => "Expecting ':' delimiter"
  | .comma => "Expecting ',' delimiter"
  | .extra => "Extra data"
  | .openString => "Unterminated string starting at"
  | .controlCharacter => "Invalid control character at"
  | .escape => "Invalid \\escape"
  | .unicodeEscape => "Invalid \\uXXXX escape"

/-- Why the text was refused, in words. -/
def ReadError.message : ReadError → Text
  | .syntaxFault fault place =>
    fault.message ++ ": line " ++ Text.ofNat place.line ++ " column " ++ Text.ofNat place.column ++
      " (char " ++ Text.ofNat place.offset ++ ")"
  | .tooManyDigits digits => Text.tooManyDigitsMessage digits
  | .tooDeep container => container.tooDeepMessage

/-- A refusal before its place is known: the fault and the length of the text
    at which it was found. -/
inductive Refusal where
  | fault (fault : Fault) (remaining : Nat)
  | tooManyDigits (digits : Nat)
  | tooDeep (container : Container)

/-- What was read and the text after it. -/
abbrev Step (α : Type) := Except Refusal (α × Text)

/-- Refuses the text from here on. -/
def refuse {α : Type} (fault : Fault) (here : Text) : Step α :=
  .error (.fault fault here.length)

/-! ## Parts of the text -/

/-- Whether a character may stand between the parts of a text. -/
def isSpace (c : CodePoint) : Bool := c = ' ' || c = '\t' || c = '\n' || c = '\r'

/-- The text after its blanks. -/
def skip (t : Text) : Text := t.dropWhile isSpace

/-- The words that are values. -/
def words : List (Text × Json) :=
  [("null", .null), ("true", .bool true), ("false", .bool false), ("NaN", .double .nan),
   ("Infinity", .double (.infinity false)), ("-Infinity", .double (.infinity true))]

/-- The character that a letter after a backslash stands for. -/
def escaped? (c : CodePoint) : Option CodePoint :=
  match c with
  | '"' => some '"'
  | '\\' => some '\\'
  | '/' => some '/'
  | 'b' => some '\x08'
  | 'f' => some '\x0c'
  | 'n' => some '\n'
  | 'r' => some '\r'
  | 't' => some '\t'
  | _ => none

/-- The number that four hexadecimal digits write. -/
def codeUnit? (a b c d : CodePoint) : Option Nat := do
  let a ← Text.hexDigit? a
  let b ← Text.hexDigit? b
  let c ← Text.hexDigit? c
  let d ← Text.hexDigit? d
  pure (((a * 16 + b) * 16 + c) * 16 + d)

/-- A part of a string: a character, or a code unit of UTF-16 that was written as
    an escape. -/
inductive Piece where
  | char (c : CodePoint)
  | unit (n : Nat)

/-- The parts of a string up to its closing quote. `opening` is the text from the
    opening quote on. -/
def readPieces (opening : Text) : Text → Step (List Piece)
  | [] => refuse .openString opening
  | '"' :: rest => .ok ([], rest)
  | ['\\'] => refuse .openString opening
  | '\\' :: 'u' :: a :: b :: c :: d :: e :: rest =>
    match codeUnit? a b c d with
    | none => refuse .unicodeEscape ('u' :: a :: b :: c :: d :: e :: rest)
    | some n => (readPieces opening (e :: rest)).map fun p => (.unit n :: p.1, p.2)
  | '\\' :: 'u' :: rest => refuse .unicodeEscape ('u' :: rest)
  | '\\' :: c :: rest =>
    match escaped? c with
    | none => refuse .escape ('\\' :: c :: rest)
    | some e => (readPieces opening rest).map fun p => (.char e :: p.1, p.2)
  | c :: rest =>
    if c < ' ' then refuse .controlCharacter (c :: rest)
    else (readPieces opening rest).map fun p => (.char c :: p.1, p.2)

/-- The text of the parts of a string: two escapes of the halves of a surrogate
    pair, one after the other, are one character. -/
def ofPieces : List Piece → Text
  | [] => []
  | .char c :: rest => c :: ofPieces rest
  | .unit high :: .unit low :: rest =>
    if CodePoint.arePair high low then CodePoint.ofNat (CodePoint.ofPair high low) :: ofPieces rest
    else CodePoint.ofNat high :: ofPieces (.unit low :: rest)
  | .unit n :: rest => CodePoint.ofNat n :: ofPieces rest

/-- A string after its opening quote. -/
def readString (rest : Text) : Step Text :=
  (readPieces ('"' :: rest) rest).map fun p => (ofPieces p.1, p.2)

/-- The digits in front of a text, and the text after them. -/
def spanDigits (t : Text) : Text × Text :=
  t.span fun c => (Text.digit? c).isSome

/-- The number that digits write. -/
def ofDigits (t : Text) : Nat := (Text.toNat? t).getD 0

/-- The digits of the fraction in front of a text, none unless a digit follows
    the point. -/
def fraction : Text → Text × Text
  | '.' :: t =>
    let (digits, rest) := spanDigits t
    if digits = [] then ([], '.' :: t) else (digits, rest)
  | t => ([], t)

/-- The exponent in front of a text, if it has digits. -/
def exponent? : Text → Option Int × Text
  | [] => (none, [])
  | e :: t =>
    if e = 'e' ∨ e = 'E' then
      let (negative, t') : Bool × Text :=
        match t with
        | '-' :: t' => (true, t')
        | '+' :: t' => (false, t')
        | t' => (false, t')
      let (digits, rest) := spanDigits t'
      if digits = [] then (none, e :: t)
      else (some (if negative then -(ofDigits digits : Int) else ofDigits digits), rest)
    else (none, e :: t)

/-- The digits in front of a text, of which only the first may be a zero if it is
    the only one, and the text after them. -/
def wholeDigits : Text → Text × Text
  | '0' :: rest => (['0'], rest)
  | t => spanDigits t

/-- A number after its sign, if it has one: an integer, unless it has a fraction
    or an exponent. A text without digits is refused from the sign on. -/
def readUnsigned (negative : Bool) (start t : Text) : Step Json :=
  let (whole, rest) := wholeDigits t
  if whole = [] then refuse .value start
  else
    let (decimals, rest) := fraction rest
    let (power, rest) := exponent? rest
    if decimals = [] ∧ power = none then
      if Text.maxDigits < whole.length then .error (.tooManyDigits whole.length)
      else
        let n : Int := ofDigits whole
        .ok (.int (if negative then -n else n), rest)
    else
      let digits := ofDigits (whole ++ decimals)
      .ok (.double (Double.ofDecimal negative digits (power.getD 0 - decimals.length)), rest)

/-- A number. A text that starts with no number is refused as a whole. -/
def readNumber (t : Text) : Step Json :=
  match t with
  | '-' :: t' => readUnsigned true t t'
  | t' => readUnsigned false t t'

/-! ## Values -/

/-- How many lists and objects may lie around each other. -/
def maxDepth : Nat := 990

mutual

/-- The value in front of a text. The first argument bounds the nesting and the
    second the steps; twice the length of the text is enough, for no character
    takes more than two. -/
def readValue : Nat → Nat → Text → Step Json
  | _, 0, t => refuse .value t
  | depth, fuel + 1, t =>
    match t with
    | [] => refuse .value t
    | '"' :: rest => (readString rest).map fun p => (.text p.1, p.2)
    | '[' :: rest =>
      match depth with
      | 0 => .error (.tooDeep .list)
      | depth + 1 =>
        match skip rest with
        | ']' :: rest' => .ok (.list [], rest')
        | rest' => (readItems depth fuel rest').map fun p => (.list p.1, p.2)
    | '{' :: rest =>
      match depth with
      | 0 => .error (.tooDeep .object)
      | depth + 1 =>
        match skip rest with
        | '}' :: rest' => .ok (.object [], rest')
        | rest' => (readMembers depth fuel rest').map fun p => (.object p.1, p.2)
    | _ :: _ =>
      match words.findSome? fun w => (Text.after? w.1 t).map (w.2, ·) with
      | some found => .ok found
      | none => readNumber t

/-- The values of a list up to its closing bracket, at least one. -/
def readItems : Nat → Nat → Text → Step (List Json)
  | _, 0, t => refuse .value t
  | depth, fuel + 1, t =>
    match readValue depth fuel t with
    | .error e => .error e
    | .ok (v, rest) =>
      match skip rest with
      | ']' :: rest' => .ok ([v], rest')
      | ',' :: rest' => (readItems depth fuel (skip rest')).map fun p => (v :: p.1, p.2)
      | rest' => refuse .comma rest'

/-- The members of an object up to its closing brace, at least one. -/
def readMembers : Nat → Nat → Text → Step (List (Text × Json))
  | _, 0, t => refuse .key t
  | depth, fuel + 1, t =>
    match t with
    | '"' :: rest =>
      match readString rest with
      | .error e => .error e
      | .ok (k, rest) =>
        match skip rest with
        | ':' :: rest' =>
          match readValue depth fuel (skip rest') with
          | .error e => .error e
          | .ok (v, rest) =>
            match skip rest with
            | '}' :: rest' => .ok ([(k, v)], rest')
            | ',' :: rest' =>
              (readMembers depth fuel (skip rest')).map fun p => ((k, v) :: p.1, p.2)
            | rest' => refuse .comma rest'
        | rest' => refuse .colon rest'
    | t => refuse .key t

end

/-- A whole text as one value, with nothing but blanks around it. -/
def readAll (t : Text) : Except Refusal Json :=
  match readValue maxDepth (2 * t.length + 2) (skip t) with
  | .error e => .error e
  | .ok (v, rest) =>
    if skip rest = [] then .ok v else .error (.fault .extra (skip rest).length)

/-- The value that a text writes, with the members of its objects as written. -/
def read (t : Text) : Except ReadError Json :=
  match readAll t with
  | .ok v => .ok v
  | .error (.fault fault remaining) =>
    .error (.syntaxFault fault (Text.Place.ofRemaining t remaining))
  | .error (.tooManyDigits digits) => .error (.tooManyDigits digits)
  | .error (.tooDeep container) => .error (.tooDeep container)

/-- The value that a text stands for: repeated keys are collapsed. -/
def parse (t : Text) : Except ReadError Json := (read t).map collapse

/-- The value that the text of a file stands for. A byte order mark in front
    of it is a fault of its own. -/
def parseFile (t : Text) : Except ReadError Json :=
  if t.head? = some '\ufeff' then .error (.syntaxFault .byteOrderMark ⟨0, 1, 1⟩) else parse t

end Depot.Json
