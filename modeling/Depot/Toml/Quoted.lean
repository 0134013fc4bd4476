import Depot.Toml.Basic

/-!
# Quoted texts in TOML

A text stands between double quotes, with escapes, or between single ones, as it
is. Three quotes in place of one let it go over several lines; then one or two
more quotes at its end belong to it.

`quote` writes a text between double quotes on one line, and `readBasic` reads
every text so written.
-/

namespace Depot.Toml

/-! ## Writing -/

/-- A character between double quotes. -/
def escape (c : CodePoint) : Text :=
  if c = '"' then ['\\', '"']
  else if c = '\\' then ['\\', '\\']
  else if c = '\n' then ['\\', 'n']
  else if c = '\r' then ['\\', 'r']
  else if c = '\x08' then ['\\', 'b']
  else if c = '\x0c' then ['\\', 'f']
  else if isControl c then '\\' :: 'u' :: Text.hex 4 c.toNat
  else [c]

/-- A text between double quotes. -/
def quote (t : Text) : Text := '"' :: (t.flatMap escape ++ "\"")

/-! ## Reading -/

/-- The character that a letter after a backslash stands for. -/
def escaped? (c : CodePoint) : Option CodePoint :=
  match c with
  | '"' => some '"'
  | '\\' => some '\\'
  | 'b' => some '\x08'
  | 'f' => some '\x0c'
  | 'n' => some '\n'
  | 'r' => some '\r'
  | 't' => some '\t'
  | _ => none

/-- The number that hexadecimal digits write. -/
def hexNumber? (digits : Text) : Option Nat :=
  digits.foldl (fun n c => n.bind fun n => (Text.hexDigit? c).map (16 * n + ·)) (some 0)

/-- The character with the number that hexadecimal digits write. `rest` is the
    text behind them. -/
def scalar (digits rest : Text) : Except Refusal CodePoint :=
  match hexNumber? digits with
  | none => refuse .hexadecimal (digits ++ rest)
  | some n => if h : n.isValidChar then .ok (Char.ofNatAux n h) else refuse .scalar rest

/-- The reading of a text with a character in front. -/
def prepend (c : CodePoint) (r : Step Text) : Step Text := r.map fun p => (c :: p.1, p.2)

/-- The reading of a text with a character in front that may be refused. -/
def prependScalar (c : Except Refusal CodePoint) (r : Step Text) : Step Text :=
  match c with
  | .ok c => prepend c r
  | .error e => .error e

/-- A text of one line after its opening double quote. -/
def readBasic : Text → Step Text
  | [] => refuse .openString []
  | '"' :: rest => .ok ([], rest)
  | '\\' :: 'u' :: a :: b :: c :: d :: rest =>
    prependScalar (scalar [a, b, c, d] rest) (readBasic rest)
  | '\\' :: 'U' :: a :: b :: c :: d :: e :: f :: g :: h :: rest =>
    prependScalar (scalar [a, b, c, d, e, f, g, h] rest) (readBasic rest)
  | '\\' :: 'u' :: rest => refuse .hexadecimal rest
  | '\\' :: 'U' :: rest => refuse .hexadecimal rest
  | '\\' :: c :: rest =>
    match escaped? c with
    | some e => prepend e (readBasic rest)
    | none => refuse .escape rest
  | ['\\'] => refuse .escape []
  | c :: rest =>
    if isControl c then refuse (.character c) (c :: rest) else prepend c (readBasic rest)

/-- Up to two quotes that end a text of several lines from within. -/
def closing (quote : CodePoint) (t : Text) : Text × Text :=
  let more := (t.takeWhile (· = quote)).take 2
  (more, t.drop more.length)

/-- What a backslash at the end of a line leaves out: the rest of its line,
    which has to be blank, and then all blanks and ends of lines. -/
inductive Fold where
  | off
  | toLineEnd
  | toText

/-- A text of several lines after its opening double quotes. -/
def readBasicLines : Fold → Text → Step Text
  | _, [] => refuse .openString []
  | .toLineEnd, c :: rest =>
    if isBlank c then readBasicLines .toLineEnd rest
    else if c = '\n' then readBasicLines .toText rest
    else refuse .escape (c :: rest)
  | _, '"' :: '"' :: '"' :: rest => .ok (closing '"' rest)
  | _, '\\' :: 'u' :: a :: b :: c :: d :: rest =>
    prependScalar (scalar [a, b, c, d] rest) (readBasicLines .off rest)
  | _, '\\' :: 'U' :: a :: b :: c :: d :: e :: f :: g :: h :: rest =>
    prependScalar (scalar [a, b, c, d, e, f, g, h] rest) (readBasicLines .off rest)
  | _, '\\' :: 'u' :: rest => refuse .hexadecimal rest
  | _, '\\' :: 'U' :: rest => refuse .hexadecimal rest
  | _, '\\' :: c :: rest =>
    if isBlank c then readBasicLines .toLineEnd rest
    else if c = '\n' then readBasicLines .toText rest
    else
      match escaped? c with
      | some e => prepend e (readBasicLines .off rest)
      | none => refuse .escape rest
  | _, ['\\'] => refuse .escape []
  | .toText, c :: rest =>
    if isBlank c || c = '\n' then readBasicLines .toText rest
    else if isControl c then refuse (.character c) (c :: rest)
    else prepend c (readBasicLines .off rest)
  | .off, c :: rest =>
    if isControl c && c ≠ '\n' then refuse (.character c) (c :: rest)
    else prepend c (readBasicLines .off rest)

/-- A text of one line after its opening single quote. -/
def readLiteral (t : Text) : Step Text :=
  match Text.cut '\'' t with
  | none => refuse (.closingQuotes ['\'']) []
  | some (inside, rest) =>
    match inside.dropWhile fun c => !isControl c with
    | [] => .ok (inside, rest)
    | c :: r => refuse (.rawCharacter c) (c :: r ++ "'" ++ rest)

/-- The text before three single quotes and the text after them. -/
def cutQuotes : Text → Option (Text × Text)
  | '\'' :: '\'' :: '\'' :: rest => some ([], rest)
  | c :: rest => (cutQuotes rest).map fun p => (c :: p.1, p.2)
  | [] => none

/-- A text of several lines after its opening single quotes. -/
def readLiteralLines (t : Text) : Step Text :=
  match cutQuotes t with
  | none => refuse (.closingQuotes ['\'', '\'', '\'']) []
  | some (inside, rest) =>
    match inside.dropWhile fun c => !(isControl c && c ≠ '\n') with
    | [] =>
      let (more, rest) := closing '\'' rest
      .ok (inside ++ more, rest)
    | c :: r => refuse (.rawCharacter c) (c :: r ++ "'''" ++ rest)

/-- The text without an end of line in front. -/
def afterLineEnd : Text → Text
  | '\n' :: t => t
  | t => t

/-- The quoted text in front of a text, if it starts with a quote. -/
def quoted? (t : Text) : Option (Step Text) :=
  match t with
  | '"' :: '"' :: '"' :: rest => some (readBasicLines .off (afterLineEnd rest))
  | '"' :: rest => some (readBasic rest)
  | '\'' :: '\'' :: '\'' :: rest => some (readLiteralLines (afterLineEnd rest))
  | '\'' :: rest => some (readLiteral rest)
  | _ => none

end Depot.Toml
