import Depot.Glob

/-!
# Search patterns

A search pattern has the shape `repository/segment/…/name`: the repository is
the text before the first slash, a `*` stands for any run of characters, and
parentheses are decoration.

A pattern that names a repository alone, or ends in a slash, asks for
everything in it, which `Pattern.prepare` writes out as a final `*`.
-/

namespace Depot.Search.Pattern

/-- The pattern without its parentheses. -/
def stripParens (p : Text) : Text :=
  p.filter fun c => c != '(' && c != ')'

/-- The pattern with the `*` that its shape leaves unsaid, and without
    parentheses: `repo` and `repo/` both become `repo/*`. The shape is that of
    the pattern as it was written, parentheses included. -/
def prepare (p : Text) : Text :=
  let p := if .char '/' ∈ p then p else p ++ "/"
  let p := if Text.endsWith '/' p then p ++ [Glob.star] else p
  stripParens p

/-- The repository of a pattern and what the pattern says about its items:
    the texts before and after the first slash. -/
def splitRepository (p : Text) : Text × Text :=
  (Text.cut '/' p).getD (p, [])

/-- Whether a pattern may stand for more than one item: it holds a `*`, or
    `prepare` gives it one. -/
def isWildcard (p : Text) : Bool :=
  Glob.star ∈ p || Text.endsWith '/' p || .char '/' ∉ p

theorem stripParens_append (p q : Text) :
    stripParens (p ++ q) = stripParens p ++ stripParens q := by
  simp [stripParens]

/-- Parentheses are gone after they were removed once. -/
theorem stripParens_stripParens (p : Text) : stripParens (stripParens p) = stripParens p := by
  simp [stripParens]

end Depot.Search.Pattern
