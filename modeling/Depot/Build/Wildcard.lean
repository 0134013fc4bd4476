import Depot.Text

/-!
# Wildcards

Patterns for the names of environment variables. In a wildcard `*` stands for
any run of characters, `?` for any one character, and `[…]` for one character of
a set: single characters and ranges such as `a-z`, with a `!` in front for all
other characters. A `[` that is never closed stands for itself, and so does
everything else. Matching tells upper case from lower case.

`Wildcard.parse` takes a pattern apart into pieces, and `Wildcard.stands` keeps
all the texts that may remain after a piece, so that no pattern takes long.
-/

namespace Depot.Build

/-- What stands at one place of a wildcard. -/
inductive Piece where
  /-- Any run of characters. -/
  | run
  /-- One character that lies in one of some ranges, or in none of them. -/
  | one (negated : Bool) (ranges : List (CodePoint × CodePoint))
  deriving DecidableEq

namespace Wildcard

/-! ## Sets of characters -/

/-- What is between the brackets of a set, and the text after them; nothing
    when the brackets are not closed. A closing bracket in front, or after the
    `!` in front, belongs to the set. -/
def closed? (t : Text) : Option (Text × Text) :=
  let (bang, t) : Text × Text :=
    match t with
    | '!' :: t => (['!'], t)
    | t => ([], t)
  let (bracket, t) : Text × Text :=
    match t with
    | ']' :: t => ([']'], t)
    | t => ([], t)
  (Text.cut ']' t).map fun p => (bang ++ bracket ++ p.1, p.2)

/-- The texts between the hyphens that may make ranges. A hyphen makes none
    within the first `skip` characters of a text, for it lacks an end there. The
    first argument bounds their number; the length of the text is enough. -/
def spansFrom : Nat → Nat → Text → List Text
  | 0, _, t => [t]
  | fuel + 1, skip, t =>
    match Text.cut '-' (t.drop skip) with
    | none => [t]
    | some (a, rest) => (t.take skip ++ a) :: spansFrom fuel 2 rest

/-- The texts between the hyphens that may make ranges in a set. -/
def spans (content : Text) : List Text :=
  spansFrom content.length (if Text.startsWith '!' content then 2 else 1) content

/-- The spans with a hyphen at the very end put back, as it makes no range. -/
def restoreHyphen : List Text → List Text
  | [] => []
  | [s] => [s]
  | [s, []] => [s ++ "-"]
  | s :: ss => s :: restoreHyphen ss

/-- The spans with every range dropped that ends before it starts. -/
def dropEmpty : List Text → List Text
  | [] => []
  | s :: ss =>
    match dropEmpty ss with
    | [] => [s]
    | s' :: ss' =>
      match s.getLast?, s'.head? with
      | some a, some b => if b < a then (s.dropLast ++ s'.drop 1) :: ss' else s :: s' :: ss'
      | _, _ => s :: s' :: ss'

/-- The spans as one list of characters, with nothing for each hyphen that makes
    a range. -/
def marks : List Text → List (Option CodePoint)
  | [] => []
  | [s] => s.map some
  | s :: ss => s.map some ++ none :: marks ss

/-- The ranges of a set; a single character is a range of its own. -/
def ranges : List (Option CodePoint) → List (CodePoint × CodePoint)
  | some a :: none :: some b :: rest => (a, b) :: ranges rest
  | some a :: rest => (a, a) :: ranges rest
  | none :: rest => ('-', '-') :: ranges rest
  | [] => []

/-- The set that stands between brackets. -/
def set (content : Text) : Piece :=
  match marks (dropEmpty (restoreHyphen (spans content))) with
  | some '!' :: rest => .one true (ranges rest)
  | all => .one false (ranges all)

/-! ## Patterns -/

/-- A character that stands for itself. -/
def literal (c : CodePoint) : Piece := .one false [(c, c)]

/-- The pieces of a pattern. The first argument bounds their number; the length
    of the pattern is enough. -/
def parseFrom : Nat → Text → List Piece
  | 0, _ | _, [] => []
  | fuel + 1, c :: t =>
    if c = '*' then .run :: parseFrom fuel t
    else if c = '?' then .one true [] :: parseFrom fuel t
    else if c = '[' then
      match closed? t with
      | some (content, rest) => set content :: parseFrom fuel rest
      | none => literal '[' :: parseFrom fuel t
    else literal c :: parseFrom fuel t

/-- The pieces of a pattern. -/
def parse (p : Text) : List Piece := parseFrom p.length p

/-- Whether a character lies in a range. -/
def inRange (r : CodePoint × CodePoint) (c : CodePoint) : Bool :=
  r.1 ≤ c && c ≤ r.2

/-- Whether a character may stand at the place of a piece. -/
def accepts (negated : Bool) (rs : List (CodePoint × CodePoint)) (c : CodePoint) : Bool :=
  negated != rs.any (inRange · c)

/-- A text, what remains of it after one character, after two, and so on. -/
def suffixes : Text → List Text
  | [] => [[]]
  | c :: t => (c :: t) :: suffixes t

/-- What may remain after a piece, given what may remain before it, the longest
    text first in both. All of these are ends of one text, so a run leaves every
    end of the longest. -/
def advance (remaining : List Text) : Piece → List Text
  | .run => (remaining.head?.map suffixes).getD []
  | .one negated rs => remaining.filterMap fun t =>
    match t with
    | [] => none
    | c :: t => if accepts negated rs c then some t else none

/-- Whether a pattern stands for a text. -/
def stands (p t : Text) : Bool :=
  [] ∈ (parse p).foldl advance [t]

end Wildcard

end Depot.Build
