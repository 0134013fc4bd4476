import Depot.Text
import Depot.Text.Printable

/-!
# Quoted texts

A text as it is shown in a message: between quotes, with an escape for
everything that would not show as itself. The quotes are single ones, unless
the text has single quotes and no double ones.
-/

namespace Depot.Text

/-- The quote that a text is shown with. -/
def quoteFor (t : Text) : CodePoint :=
  if .char '\'' ∈ t ∧ .char '"' ∉ t then '"' else '\''

/-- A code point as an escape with its number. -/
def showNumber (n : Nat) : Text :=
  if n < 0x100 then '\\' :: 'x' :: hex 2 n
  else if n < 0x10000 then '\\' :: 'u' :: hex 4 n
  else '\\' :: 'U' :: hex 8 n

/-- A character between quotes. -/
def showBetween (quote c : CodePoint) : Text :=
  if c = quote ∨ c = '\\' then ['\\', c]
  else if c = '\t' then ['\\', 't']
  else if c = '\n' then ['\\', 'n']
  else if c = '\r' then ['\\', 'r']
  else if isPrintable c then [c]
  else showNumber c.toNat

/-- The text between quotes. -/
def quoted (t : Text) : Text :=
  let quote := quoteFor t
  quote :: (t.flatMap (showBetween quote) ++ [quote])

end Depot.Text
