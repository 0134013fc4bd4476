import Depot.Text.Case
import Depot.Text.CharacterName
import Depot.Text.Identifier

/-!
# Tokens of literals

A literal is read in tokens: numbers, texts, words, marks and the ends of its lines.
Lines end where no bracket is open; elsewhere, and behind a backslash, a literal goes on
in the next line. Blanks and comments stand between tokens.

What no literal has is a token as well (`Token.broken`, or a mark of that kind). Only
where it cannot be said what comes next the tokens end (`Token.stuck`): in a text without
its closing quote, say, or in a line that starts further in than the one before it.

A number may run into one of a few words. This is worth a warning (`warnings`).
-/

namespace Depot.Console.Literal

/-! ## Numbers -/

/-- How a number is written. -/
inductive NumberForm where
  | decimal
  | hexadecimal
  | octal
  | binary
  | imaginary
  deriving DecidableEq

/-- The word for a form. -/
def NumberForm.name : NumberForm → Text
  | .decimal => "decimal"
  | .hexadecimal => "hexadecimal"
  | .octal => "octal"
  | .binary => "binary"
  | .imaginary => "imaginary"

/-- A number without a sign. -/
structure Number where
  form : NumberForm
  /-- Whether it has no more digits than are read. -/
  sound : Bool := true

/-- Whether a character is a digit in a base. -/
def isDigit (base : Nat) (c : CodePoint) : Bool := (Text.hexDigit? c).any (· < base)

/-- Whether a text starts with a decimal digit. -/
def startsWithDigit (t : Text) : Bool := t.head?.any (isDigit 10)

/-- The digits in front of a text, and the text after them. A line may stand in front of
    a digit; there are no digits if it stands elsewhere. -/
def digits? (base : Nat) : Text → Option (Text × Text)
  | [] => some ([], [])
  | c :: t =>
    if isDigit base c then (digits? base t).map fun p => (c :: p.1, p.2)
    else if c = '_' then if t.head?.any (isDigit base) then digits? base t else none
    else some ([], c :: t)

/-- A number of a base other than ten, from behind its base on, and the text after it. -/
def numberInBase? (form : NumberForm) (base : Nat) (t : Text) : Option (Number × Text) :=
  match digits? base t with
  | some ([], _) | none => none
  | some (_, rest) => some (⟨form, true⟩, rest)

/-- Whether a letter is the one in front of exponents. -/
def isE (c : CodePoint) : Bool := c = 'e' || c = 'E'

/-- Whether a letter is the one behind imaginary numbers. -/
def isJ (c : CodePoint) : Bool := c = 'j' || c = 'J'

/-- Whether a character is the digit zero. -/
def isZero (c : CodePoint) : Bool := c = '0'

/-- The text after decimals in front of it, and whether there is a point before them. -/
def decimals? (t : Text) : Option (Bool × Text) :=
  match t with
  | '.' :: rest =>
    if startsWithDigit rest then (digits? 10 rest).map fun p => (true, p.2) else some (true, rest)
  | t => some (false, t)

/-- The text after an exponent in front of it, and whether there is one. -/
def exponent? (t : Text) : Option (Bool × Text) :=
  match t with
  | [] => some (false, [])
  | c :: power =>
    let signed := Text.startsWith '+' power || Text.startsWith '-' power
    let power := if signed then power.tail else power
    if !isE c then some (false, t)
    else if startsWithDigit power then (digits? 10 power).map fun p => (true, p.2)
    else if signed then none
    else some (false, t)

/-- A number of base ten and the text after it. An integer that starts with a zero is
    zero, unless a word follows that starts as an exponent does. -/
def decimal? (t : Text) : Option (Number × Text) := do
  let (whole, t) ← digits? 10 t
  let (pointed, t) ← decimals? t
  let (powered, t) ← exponent? t
  if t.head?.any isJ then some (⟨.imaginary, true⟩, t.tail)
  else if pointed || powered || whole.all isZero then some (⟨.decimal, true⟩, t)
  else if whole.head?.any isZero && !t.head?.any isE then none
  else some (⟨.decimal, whole.length ≤ Text.maxDigits⟩, t)

/-- The number in front of a text, and the text after it. -/
def number? (t : Text) : Option (Number × Text) :=
  match t with
  | '0' :: c :: rest =>
    if c = 'x' ∨ c = 'X' then numberInBase? .hexadecimal 16 rest
    else if c = 'o' ∨ c = 'O' then numberInBase? .octal 8 rest
    else if c = 'b' ∨ c = 'B' then numberInBase? .binary 2 rest
    else decimal? t
  | t => decimal? t

/-- Whether a character is a letter or digit of ASCII, or a line. -/
def isPlainPart (c : CodePoint) : Bool := c.isAlphanum || c = '_'

/-- Whether a character can be part of a word. -/
def isWordPart (c : CodePoint) : Bool := isPlainPart c || 0x80 ≤ c.toNat

/-- The words that a number may run into. -/
def tightWords : List Text := ["and", "else", "for", "not", "or"]

/-- The starts of words that a number may run into. -/
def tightStarts : List Text := ["if", "in", "is"]

/-- Whether a number may run into what a text starts with. -/
def isTight (t : Text) : Bool :=
  tightStarts.any (·.isPrefixOf t) ||
    tightWords.any fun w => (Text.after? w t).any fun rest => !rest.head?.any isWordPart

/-! ## Texts -/

/-- How a text is written. -/
structure Style where
  /-- A backslash stands for itself. -/
  raw : Bool := false
  /-- It stands for bytes, and holds ASCII alone. -/
  bytes : Bool := false
  /-- It has places that are filled in, and so is no literal. -/
  filled : Bool := false

/-- The letters that may stand in front of a quote. -/
def styles : List (Text × Style) :=
  [("", {}), ("r", ⟨true, false, false⟩), ("u", {}), ("b", ⟨false, true, false⟩),
   ("br", ⟨true, true, false⟩), ("rb", ⟨true, true, false⟩), ("f", ⟨false, false, true⟩),
   ("fr", ⟨true, false, true⟩), ("rf", ⟨true, false, true⟩)]

/-- Whether a character is a quote. -/
def isQuote (c : CodePoint) : Bool := c = '\'' || c = '"'

/-- How the text in front of a text is written, its quote, and the rest. -/
def style? (t : Text) : Option (Style × CodePoint × Text) :=
  styles.findSome? fun s =>
    match t.drop s.1.length with
    | q :: rest =>
      if isQuote q ∧ Text.lower (t.take s.1.length) = s.1 then some (s.2, q, rest) else none
    | [] => none

/-- What stands between quotes, and the rest after the closing ones, from behind the
    opening ones on. What follows a backslash closes nothing. -/
def untilQuotes? (quotes : Text) : Text → Option (Text × Text)
  | [] => none
  | '\\' :: c :: t => (untilQuotes? quotes t).map fun p => ('\\' :: c :: p.1, p.2)
  | c :: t =>
    if quotes.isPrefixOf (c :: t) then some ([], (c :: t).drop quotes.length)
    else if c = '\n' ∧ quotes.length = 1 then none
    else (untilQuotes? quotes t).map fun p => (c :: p.1, p.2)

/-- What stands between quotes, of which the first one is passed, and the rest. -/
def between? (quote : CodePoint) (t : Text) : Option (Text × Text) :=
  if [quote, quote].isPrefixOf t then untilQuotes? [quote, quote, quote] (t.drop 2)
  else untilQuotes? [quote] t

/-- The number that hexadecimal digits in front of a text write, so many of them. -/
def hex? (count : Nat) (t : Text) : Option Nat :=
  let ds := t.take count
  if ds.length < count then none
  else ds.foldl (fun n c => n.bind fun n => (Text.hexDigit? c).map (16 * n + ·)) (some 0)

/-- Whether a text starts with the name of a character in braces. -/
def namesCharacter (t : Text) : Bool :=
  match t with
  | '\x7b' :: t => (Text.cut '\x7d' t).any fun p => Text.CharacterName.isName p.1
  | _ => false

/-- Whether a backslash may stand before a letter and what follows it. -/
def isEscape (bytes : Bool) (c : CodePoint) (after : Text) : Bool :=
  if c = 'x' then (hex? 2 after).isSome
  else if bytes then true
  else if c = 'u' then (hex? 4 after).isSome
  else if c = 'U' then (hex? 8 after).any (· < 0x110000)
  else if c = 'N' then namesCharacter after
  else true

/-- Whether every backslash in a text may stand where it does. -/
def areEscapes (bytes : Bool) : Text → Bool
  | [] => true
  | '\\' :: c :: t => isEscape bytes c t && areEscapes bytes t
  | _ :: t => areEscapes bytes t

/-- Whether something may stand between the quotes of a text. -/
def isContent (s : Style) (t : Text) : Bool :=
  !s.filled && (!s.bytes || t.all fun c => c.toNat < 0x80) && (s.raw || areEscapes s.bytes t)

/-! ## Words and marks -/

/-- The bracket that closes another one. -/
def closing? (c : CodePoint) : Option CodePoint :=
  if c = '(' then some ')'
  else if c = '[' then some ']'
  else if c = '\x7b' then some '\x7d'
  else none

/-- Whether a character is a bracket that closes another one. -/
def isClosing (c : CodePoint) : Bool := c = ')' || c = ']' || c = '\x7d'

/-- Whether a character can be seen, and belongs to ASCII. -/
def isVisible (c : CodePoint) : Bool := '!' ≤ c && c ≤ '~'

/-! ## Tokens -/

/-- A token of a literal. -/
inductive Token where
  /-- A number, its line, and whether it runs into a word. -/
  | number (n : Number) (line : Nat) (tight : Bool)
  /-- A text, which may stand for bytes. -/
  | text (bytes : Bool)
  | word (t : Text)
  /-- A bracket, an operator, or what stands between values. -/
  | mark (c : CodePoint)
  /-- Three points. -/
  | ellipsis
  /-- The end of a line, where no bracket is open. -/
  | lineEnd
  /-- A text that is no literal. -/
  | broken
  /-- What comes next cannot be told. -/
  | stuck

/-- How many brackets may be open at one place. -/
def maxDepth : Nat := 200

/-- Whether a character is a blank within a line. -/
def isBlank (c : CodePoint) : Bool := c = ' ' || c = '\t' || c = '\x0c'

/-- How far in a line starts, by how many further lines the text goes on behind
    backslashes before it does, and the text from there on. The first backslash that does
    not stand at the left edge decides how far in the line starts. -/
def indentation? (column decided lines : Nat) : Text → Option (Nat × Nat × Text)
  | ' ' :: t => indentation? (column + 1) decided lines t
  | '\t' :: t => indentation? (column / 8 * 8 + 8) decided lines t
  | '\x0c' :: t => indentation? 0 decided lines t
  | '\\' :: '\n' :: c :: t =>
    indentation? column (if decided = 0 then column else decided) (lines + 1) (c :: t)
  | '\\' :: _ => none
  | t => some (if decided = 0 then column else decided, lines, t)

/-- Where the reading of tokens stands. -/
structure Place where
  /-- The number of the line. -/
  line : Nat := 1
  /-- Whether the line starts here. -/
  start : Bool := true
  /-- The brackets that close those that are open, the innermost first. -/
  brackets : Text := []

/-- The place after some text. -/
def Place.after (p : Place) (t : Text) : Place :=
  { p with line := p.line + t.countP Text.isLineFeed, start := false }

/-- The place where the next line starts. -/
def Place.nextLine (p : Place) : Place := { p with line := p.line + 1, start := true }

/-- What is found at a place where no line starts, in front of a text that is not empty and
    starts with no blank: a token or nothing, the place after it, and the text after it. -/
def next? (p : Place) (c : CodePoint) (t : Text) : Option (Option Token × Place × Text) :=
  let p := { p with start := false }
  if c = '#' then some (none, p, t.dropWhile (!Text.isLineFeed ·))
  else if c = '\n' then some (if p.brackets = [] then some .lineEnd else none, p.nextLine, t)
  else if c = '\\' then
    match t with
    -- A backslash joins two lines, and so it is no token at the end of the text.
    | '\n' :: rest => if rest = [] then none else some (none, { p with line := p.line + 1 }, rest)
    | _ => none
  else
    match style? (c :: t) with
    | some (style, quote, rest) =>
      match between? quote rest with
      | none => none
      | some (content, rest) =>
        let token := if isContent style content then Token.text style.bytes else .broken
        some (token, p.after content, rest)
    | none =>
      if isDigit 10 c || (c = '.' && startsWithDigit t) then
        match number? (c :: t) with
        | none => none
        | some (n, rest) =>
          -- What is part of a word may stand close to a number only if it is one of a few words.
          if isTight rest || !rest.head?.any isPlainPart then
            some (some (.number n p.line (isTight rest)), p, rest)
          else none
      else if isWordPart c then
        let word := (c :: t).takeWhile isWordPart
        if Text.isIdentifier word then some (some (.word word), p, t.drop (word.length - 1)) else none
      else if (".." : Text).isPrefixOf t ∧ c = '.' then some (some .ellipsis, p, t.drop 2)
      else
        match closing? c with
        | some close =>
          if p.brackets.length < maxDepth then
            some (some (.mark c), { p with brackets := close :: p.brackets }, t)
          else none
        | none =>
          if isClosing c then
            match p.brackets with
            | [] => none
            | close :: brackets =>
              if c = close then some (some (.mark c), { p with brackets := brackets }, t) else none
          else if isVisible c then some (some (.mark c), p, t)
          else none

/-- The tokens of a text from a place on. The first argument bounds the steps. -/
def tokensFrom : Nat → Place → Text → List Token
  | 0, _, _ => [.stuck]
  | steps + 1, p, t =>
    if p.start then
      match indentation? 0 0 0 t with
      | none => [.stuck]
      | some (column, lines, rest) =>
        let p := { p with line := p.line + lines, start := false }
        if p.brackets ≠ [] then tokensFrom steps p rest
        else
          match rest.head? with
          | none => if column = 0 then [] else [.stuck]
          | some c =>
            if c = '#' ∨ c = '\n' then
              match rest.dropWhile (!Text.isLineFeed ·) with
              | [] => []
              | _ :: rest => tokensFrom steps p.nextLine rest
            else if column = 0 then tokensFrom steps p rest
            else [.stuck]
    else
      match t.dropWhile isBlank with
      | [] => if p.brackets = [] then [] else [.stuck]
      | c :: rest =>
        match next? p c rest with
        | none => [.stuck]
        | some (token, p, rest) => token.toList ++ tokensFrom steps p rest

/-- The tokens of a text. Each character takes at most two steps. -/
def tokens (t : Text) : List Token :=
  let t := Text.unifyLines t
  if t.any fun c => c = .char '\x00' || c.isHalf then [.stuck]
  else tokensFrom (2 * t.length + 2) {} t

/-! ## Warnings -/

/-- The warning that a token is worth. -/
def Token.warning? : Token → Option Text
  | .number n line true =>
    some ("<unknown>:" ++ Text.ofNat line ++ ": SyntaxWarning: invalid " ++ n.form.name ++ " literal")
  | _ => none

/-- The warnings that tokens are worth. -/
def warnings (ts : List Token) : List Text := ts.filterMap Token.warning?

end Depot.Console.Literal
