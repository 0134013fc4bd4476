import Depot.Json.Basic
import Depot.Text

/-!
# Writing JSON

The text of a JSON value in one of three layouts: `Layout.compact` without
blanks, `Layout.spaced` on one line, and `Layout.indented` with one member a
line. All of them write ASCII alone; a character beyond it is written by its
UTF-16 code units.
-/

namespace Depot.Json

/-- How the parts of a value are set off from each other. -/
structure Layout where
  /-- Between two members on one line. -/
  comma : Text
  /-- Between a key and its value. -/
  colon : Text
  /-- By how many blanks each level is indented, with a line for each member;
      nothing for a text on one line. -/
  indent : Option Nat

/-- Without any blanks. -/
def Layout.compact : Layout := ⟨",", ":", none⟩

/-- On one line, with a blank after each comma and colon. -/
def Layout.spaced : Layout := ⟨", ", ": ", none⟩

/-- A line for each member, indented by two blanks a level. -/
def Layout.indented : Layout := ⟨",", ": ", some 2⟩

/-- The start of a line at a level; nothing in a text on one line. -/
def Layout.line (l : Layout) (level : Nat) : Text :=
  match l.indent with
  | none => []
  | some n => '\n' :: Text.repeated (n * level) ' '

/-- What stands between two members at a level. -/
def Layout.between (l : Layout) (level : Nat) : Text := l.comma ++ l.line level

/-- A UTF-16 code unit as an escape. -/
def escapeUnit (n : Nat) : Text := '\\' :: 'u' :: Text.hex 4 n

/-- A character inside a JSON string. -/
def escape (c : CodePoint) : Text :=
  if c = '"' then ['\\', '"']
  else if c = '\\' then ['\\', '\\']
  else if c = '\n' then ['\\', 'n']
  else if c = '\r' then ['\\', 'r']
  else if c = '\t' then ['\\', 't']
  else if c = '\x08' then ['\\', 'b']
  else if c = '\x0c' then ['\\', 'f']
  else if ' ' ≤ c ∧ c ≤ '~' then [c]
  else if c.toNat < 0x10000 then escapeUnit (c.toNat)
  else
    let n := c.toNat - 0x10000
    escapeUnit (0xd800 + n / 0x400) ++ escapeUnit (0xdc00 + n % 0x400)

/-- A text as a JSON string, quotes included. -/
def quote (t : Text) : Text := '"' :: (t.flatMap escape ++ "\"")

/-- The spellings that stand where a number has no digits. -/
def doubleSpelling : Double.Spelling := ⟨"NaN", "Infinity"⟩

mutual

/-- The text of a value at a level of nesting, in front of another text. -/
def renderBefore (l : Layout) (level : Nat) : Json → Text → Text
  | .null, rest => "null" ++ rest
  | .bool true, rest => "true" ++ rest
  | .bool false, rest => "false" ++ rest
  | .int n, rest => Text.ofInt n ++ rest
  | .double d, rest => d.render doubleSpelling ++ rest
  | .text t, rest => quote t ++ rest
  | .list [], rest => "[]" ++ rest
  | .list (v :: vs), rest =>
    '[' :: (l.line (level + 1) ++ renderBefore l (level + 1) v
      (renderItems l (level + 1) vs (l.line level ++ "]" ++ rest)))
  | .object [], rest => "\x7b\x7d" ++ rest
  | .object ((k, v) :: ms), rest =>
    '{' :: (l.line (level + 1) ++ quote k ++ l.colon ++ renderBefore l (level + 1) v
      (renderMembers l (level + 1) ms (l.line level ++ "\x7d" ++ rest)))

/-- The texts of further values, each after a separator, in front of another
    text. -/
def renderItems (l : Layout) (level : Nat) : List Json → Text → Text
  | [], rest => rest
  | v :: vs, rest => l.between level ++ renderBefore l level v (renderItems l level vs rest)

/-- The texts of further members, each after a separator, in front of another
    text. -/
def renderMembers (l : Layout) (level : Nat) : List (Text × Json) → Text → Text
  | [], rest => rest
  | (k, v) :: ms, rest =>
    l.between level ++ quote k ++ l.colon ++ renderBefore l level v (renderMembers l level ms rest)

end

/-- The text of a value. -/
def render (l : Layout) (v : Json) : Text := renderBefore l 0 v []

end Depot.Json
