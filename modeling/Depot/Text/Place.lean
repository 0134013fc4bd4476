import Depot.Text

/-!
# Places in a text

A reader of a format goes from a text to the rest of it, and tells where it
stands by the number of characters that remain. A `Text.Place` is what a message
shows of that: the line and the character in it.
-/

namespace Depot.Text

/-- A place in a text. -/
structure Place where
  /-- The number of characters before it. -/
  offset : Nat
  /-- The number of its line, from 1. -/
  line : Nat
  /-- The number of its character in the line, from 1. -/
  column : Nat
  deriving DecidableEq

/-- The place that leaves `remaining` characters of a text. -/
def Place.ofRemaining (t : Text) (remaining : Nat) : Place :=
  let passed := t.take (t.length - remaining)
  let inLine := (passed.reverse.takeWhile (!isLineFeed ·)).length
  ⟨passed.length, passed.countP isLineFeed + 1, inLine + 1⟩

end Depot.Text
