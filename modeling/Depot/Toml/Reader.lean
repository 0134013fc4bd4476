import Depot.Toml.Draft
import Depot.Toml.Moment
import Depot.Toml.Number
import Depot.Toml.Quoted
import Depot.Text.Utf8

/-!
# Reading TOML

`Toml.parse` reads a text as a document. It goes from statement to statement;
each of them changes a `Draft`, whose members are the document in the end.
-/

namespace Depot.Toml

/-! ## Keys -/

/-- Whether a character may stand in a name without quotes. -/
def isBare (c : CodePoint) : Bool :=
  ('a' ≤ c && c ≤ 'z') || ('A' ≤ c && c ≤ 'Z') || ('0' ≤ c && c ≤ '9') || c = '-' || c = '_'

/-- One name of a key. -/
def readName (t : Text) : Step Text :=
  match t with
  | '"' :: rest => readBasic rest
  | '\'' :: rest => readLiteral rest
  | c :: _ => if isBare c then .ok (t.takeWhile isBare, t.dropWhile isBare) else refuse .keyStart t
  | [] => refuse .keyStart t

/-- A key and the blanks after it. The first argument bounds the names; the
    length of the text is enough. -/
def readKey : Nat → Text → Step Key
  | 0, t => refuse .keyStart t
  | fuel + 1, t =>
    match readName t with
    | .error e => .error e
    | .ok (n, rest) =>
      match skip rest with
      | '.' :: rest' =>
        (readKey fuel (skip rest')).map fun p => (⟨n :: p.1.table, p.1.name⟩, p.2)
      | rest' => .ok (⟨[], n⟩, rest')

/-- A key up to the value that it is given. -/
def readAssigned (t : Text) : Step Key :=
  match readKey t.length t with
  | .error e => .error e
  | .ok (k, '=' :: rest) => .ok (k, skip rest)
  | .ok (_, rest) => refuse .equals rest

/-! ## Values -/

/-- The words that are values. -/
def words : List (Text × Value) := [("true", .boolean true), ("false", .boolean false)]

/-- The value in front of a text that is neither a list nor a table. -/
def readScalar (t : Text) : Step Value :=
  match quoted? t with
  | some step => step.map fun p => (.text p.1, p.2)
  | none =>
    match words.findSome? fun w => (Text.after? w.1 t).map (w.2, ·) with
    | some found => .ok found
    | none => (moment? t).getD (readNumber t)

/-- A change to what is read that may be refused here. -/
def atPlace {α : Type} (here : Text) : Except Fault α → Except Refusal α
  | .ok a => .ok a
  | .error f => refuse f here

/-- How deep lists and inline tables may be nested: a list is two deep, and an
    inline table three. -/
def maxDepth : Nat := 975

mutual

/-- The value in front of a text. The first argument bounds the nesting and the
    second the steps; twice the length of the text is enough, for no character
    takes more than two. -/
def readValue : Nat → Nat → Text → Step Value
  | _, 0, t => refuse .value t
  | depth, fuel + 1, t =>
    match t with
    | '[' :: rest =>
      if depth < 2 then .error .tooDeep
      else
        match skipLines false rest with
        | .error e => .error e
        | .ok (']' :: rest') => .ok (.list [], rest')
        | .ok rest' => (readItems (depth - 2) fuel rest').map fun p => (.list p.1, p.2)
    | '{' :: rest =>
      if depth < 3 then .error .tooDeep
      else
        match skip rest with
        | '}' :: rest' => .ok (.table [], rest')
        | rest' => (readInline (depth - 3) fuel ⟨[], []⟩ rest').map fun p => (.table p.1, p.2)
    | t => readScalar t

/-- The values of a list up to its closing bracket, at least one. -/
def readItems : Nat → Nat → Text → Step (List Value)
  | _, 0, t => refuse .value t
  | depth, fuel + 1, t =>
    match readValue depth fuel t with
    | .error e => .error e
    | .ok (v, rest) =>
      match skipLines false rest with
      | .error e => .error e
      | .ok (']' :: rest') => .ok ([v], rest')
      | .ok (',' :: rest') =>
        match skipLines false rest' with
        | .error e => .error e
        | .ok (']' :: rest'') => .ok ([v], rest'')
        | .ok rest'' => (readItems depth fuel rest'').map fun p => (v :: p.1, p.2)
      | .ok rest' => refuse .listEnd rest'

/-- The members of an inline table up to its closing brace, at least one. -/
def readInline : Nat → Nat → Inline → Text → Step Members
  | _, 0, _, t => refuse .keyStart t
  | depth, fuel + 1, d, t =>
    match readAssigned t with
    | .error e => .error e
    | .ok (k, rest) =>
      match readValue depth fuel rest with
      | .error e => .error e
      | .ok (v, rest) =>
        match atPlace rest (d.assign k v) with
        | .error e => .error e
        | .ok d =>
          match skip rest with
          | '}' :: rest' => .ok (d.members, rest')
          | ',' :: rest' => readInline depth fuel d (skip rest')
          | rest' => refuse .inlineEnd rest'

end

/-! ## Statements -/

/-- A header after its opening brackets: the draft it gives and the text behind
    the closing brackets, whose absence is a fault of its own. -/
def readHeader (make : Key → Draft → Except Fault Draft) (brackets : Text) (missing : Fault)
    (d : Draft) (t : Text) : Step Draft :=
  match readKey t.length (skip t) with
  | .error e => .error e
  | .ok (k, rest) =>
    match atPlace rest (make k d) with
    | .error e => .error e
    | .ok d =>
      match Text.after? brackets rest with
      | some rest => .ok (d, rest)
      | none => refuse missing rest

/-- The statement in front of a text that starts with no blank; nothing is one
    too at the end of a line or before a comment. -/
def readStatement (d : Draft) (t : Text) : Step Draft :=
  match t with
  | [] => .ok (d, [])
  | '\n' :: _ => .ok (d, t)
  | '#' :: _ => .ok (d, t)
  | '[' :: '[' :: rest => readHeader Draft.openItem [']', ']'] .itemEnd d rest
  | '[' :: rest => readHeader Draft.openTable [']'] .tableEnd d rest
  | c :: _ =>
    if isBare c || c = '"' || c = '\'' then
      match readAssigned t with
      | .error e => .error e
      | .ok (k, rest) =>
        match readValue maxDepth (2 * rest.length + 2) rest with
        | .error e => .error e
        | .ok (v, rest) => (atPlace rest (d.assign k v)).map fun d => (d, rest)
    else refuse .statement t

/-- The draft after all statements of a text. The first argument bounds the
    lines; one more than the length of the text is enough. -/
def readStatements : Nat → Draft → Text → Except Refusal Draft
  | 0, _, t => refuse .statement t
  | fuel + 1, d, t =>
    match readStatement d (skip t) with
    | .error e => .error e
    | .ok (d, rest) =>
      match skipComment (skip rest) with
      | .error e => .error e
      | .ok [] => .ok d
      | .ok ('\n' :: rest) => readStatements fuel d rest
      | .ok rest => refuse .afterStatement rest

/-- The text with one line feed for a line end of two characters. -/
def joinLineEnds : Text → Text
  | '\r' :: '\n' :: t => '\n' :: joinLineEnds t
  | c :: t => c :: joinLineEnds t
  | [] => []

/-- The document that a text writes. -/
def parse (t : Text) : Except ReadError Members :=
  let t := joinLineEnds t
  match readStatements (t.length + 1) .empty t with
  | .ok d => .ok d.root
  | .error r => .error (r.inText t)

end Depot.Toml
