import Depot.Console.Literal.Token
import Depot.Text.Blank
import Depot.Text.Word

/-!
# Literals in tags

A tag whose name starts with `@` names an action and may give it parameters, as in
`[@view=open('a.txt', 2)]`. The parameters have to be a literal (`isLiteral`): a
number, a text, a truth value, or a tuple, a set or a dictionary of literals.

Literals are read from left to right. Each function takes the tokens from its part
on and returns the rest of them, or nothing where the part is not there.
-/

namespace Depot.Console.Literal

/-- What kind of value a literal is, as far as it matters to what it stands in. -/
inductive Kind where
  /-- A number without a sign. -/
  | real
  /-- An imaginary number without a sign. -/
  | imaginary
  /-- A number with a sign. -/
  | signed
  /-- Another value that can be a key. -/
  | fixed
  /-- A value that can be no key: a set or a dictionary, or a tuple that has one. -/
  | changeable
  /-- The word for sets, which is no value until it is called. -/
  | setWord
  deriving DecidableEq

/-- Whether a kind is one of values. -/
def Kind.isValue (k : Kind) : Bool := k ≠ .setWord

/-- Whether a value can be a key or a member of a set. -/
def Kind.isKey (k : Kind) : Bool := k.isValue && k ≠ .changeable

/-- The kind of a tuple of values. -/
def Kind.ofTuple (kinds : List Kind) : Kind := if kinds.all Kind.isKey then .fixed else .changeable

/-! ## Simple values -/

/-- The words that are values. -/
def valueWords : List Text := ["None", "True", "False"]

/-- The characters that stand for the letters of the word for sets. -/
def setLetters : List Text := [
  "sſˢₛｓ𝐬𝑠𝒔𝓈𝓼𝔰𝕤𝖘𝗌𝘀𝘴𝙨𝚜", "eᵉₑℯⅇｅ𝐞𝑒𝒆𝓮𝔢𝕖𝖊𝖾𝗲𝘦𝙚𝚎", "tᵗₜｔ𝐭𝑡𝒕𝓉𝓽𝔱𝕥𝖙𝗍𝘁𝘵𝙩𝚝"]

/-- Whether a word is the one for sets, in letters of any look. -/
def isSetWord (t : Text) : Bool :=
  t.length = setLetters.length && (t.zip setLetters).all fun p => p.1 ∈ p.2

/-- The rest after further texts, which are joined to the one before them. -/
def moreTexts (bytes : Bool) : List Token → Option (List Token)
  | .text b :: ts => if b = bytes then moreTexts bytes ts else none
  | ts => some ts

/-- A value without parts, or the word for sets. -/
def readSimple : List Token → Option (Kind × List Token)
  | .number n _ _ :: ts =>
    if n.sound then some (if n.form = .imaginary then .imaginary else .real, ts) else none
  | .text bytes :: ts => (moreTexts bytes ts).map (Kind.fixed, ·)
  | .word t :: ts =>
    if valueWords.contains t then some (.fixed, ts)
    else if isSetWord t then some (.setWord, ts)
    else none
  | .ellipsis :: ts => some (.fixed, ts)
  | _ => none

/-- What a value becomes when it is called: a set is made by a call without arguments. -/
def called : Kind × List Token → Kind × List Token
  | (.setWord, .mark '(' :: .mark ')' :: ts) => (.changeable, ts)
  | found => found

/-! ## Values -/

/-- Whether a token is a sign. -/
def isSign : Token → Bool
  | .mark c => c = '+' || c = '-'
  | _ => false

mutual

/-- A value without an operator. The first argument bounds the steps. -/
def readAtom : Nat → List Token → Option (Kind × List Token)
  | 0, _ => none
  | _ + 1, .mark '(' :: .mark ')' :: ts => some (.fixed, ts)
  | steps + 1, .mark '(' :: ts =>
    match readItems steps ts with
    | some ([k], false, .mark ')' :: ts) => some (called (k, ts))
    | some (ks, _, .mark ')' :: ts) => if ks.all Kind.isValue then some (.ofTuple ks, ts) else none
    | _ => none
  | _ + 1, .mark '\x7b' :: .mark '\x7d' :: ts => some (.changeable, ts)
  | steps + 1, .mark '\x7b' :: ts =>
    match readValue steps ts with
    | some (k, .mark ':' :: ts) =>
      if k.isKey then (readPairs steps ts).map (Kind.changeable, ·) else none
    | some (k, ts) => if k.isKey then (readMembers steps ts).map (Kind.changeable, ·) else none
    | none => none
  | _ + 1, ts => (readSimple ts).map called

/-- A value, which may have a sign. -/
def readSigned : Nat → List Token → Option (Kind × List Token)
  | 0, _ => none
  | _ + 1, [] => none
  | steps + 1, t :: ts =>
    if isSign t then
      match readAtom steps ts with
      | some (.real, rest) => some (.signed, rest)
      | some (.imaginary, rest) => some (.fixed, rest)
      | _ => none
    else readAtom steps (t :: ts)

/-- A value, which may be the sum of a number and an imaginary one. -/
def readValue : Nat → List Token → Option (Kind × List Token)
  | 0, _ => none
  | steps + 1, ts =>
    match readSigned steps ts with
    | none => none
    | some (k, []) => some (k, [])
    | some (k, t :: rest) =>
      if isSign t then
        if k = .real ∨ k = .signed then
          match readAtom steps rest with
          | some (.imaginary, rest) => some (.fixed, rest)
          | _ => none
        else none
      else some (k, t :: rest)

/-- Values with commas between them, and whether there is a comma. -/
def readItems : Nat → List Token → Option (List Kind × Bool × List Token)
  | 0, _ => none
  | steps + 1, ts =>
    match readValue steps ts with
    | none => none
    | some (k, .mark ',' :: rest) =>
      match readItems steps rest with
      | some (ks, _, rest) => some (k :: ks, true, rest)
      | none => some ([k], true, rest)
    | some (k, rest) => some ([k], false, rest)

/-- The tokens after a set, from behind one of its members on. -/
def readMembers : Nat → List Token → Option (List Token)
  | 0, _ => none
  | _ + 1, .mark '\x7d' :: ts => some ts
  | _ + 1, .mark ',' :: .mark '\x7d' :: ts => some ts
  | steps + 1, .mark ',' :: ts =>
    match readValue steps ts with
    | some (k, ts) => if k.isKey then readMembers steps ts else none
    | none => none
  | _ + 1, _ => none

/-- The tokens after a dictionary, from behind one of its colons on. -/
def readPairs : Nat → List Token → Option (List Token)
  | 0, _ => none
  | steps + 1, ts =>
    match readValue steps ts with
    | none => none
    | some (v, ts) =>
      if v.isValue then
        match ts with
        | .mark '\x7d' :: ts => some ts
        | .mark ',' :: .mark '\x7d' :: ts => some ts
        | .mark ',' :: ts =>
          match readValue steps ts with
          | some (k, .mark ':' :: ts) => if k.isKey then readPairs steps ts else none
          | _ => none
        | _ => none
      else none

end

/-- Whether a token ends a line. -/
def Token.isLineEnd : Token → Bool
  | .lineEnd => true
  | _ => false

/-- Whether tokens are a literal, or several with commas between them. -/
def isLiteral (ts : List Token) : Bool :=
  (readItems (6 * ts.length + 6) ts).any fun (ks, _, rest) =>
    ks.all Kind.isValue && rest.all Token.isLineEnd

/-! ## Parameters -/

/-- What of the parameters of an action has to be a literal: all of them, or what stands in
    parentheses behind the name of another action; nothing for a name alone. -/
def literalPart? (t : Text) : Option Text :=
  let t := Text.strip t
  let rest := t.dropWhile fun c => Text.isWordCharacter c || c = '.'
  if rest = [] then none
  else if Text.startsWith '(' rest && Text.endsWith ')' rest && !rest.any Text.isLineFeed then
    some rest
  else some t

/-- The warnings that come with parameters which are refused; nothing for those that are
    not. -/
def refusal? (t : Text) : Option (List Text) :=
  match literalPart? t with
  | none => none
  | some t =>
    let ts := tokens t
    if isLiteral ts then none else some (warnings ts)

end Depot.Console.Literal
