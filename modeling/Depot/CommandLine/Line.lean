import Depot.Text

/-!
# Lines of words

A shell takes a line apart into words (`lineWords`): words are parted by blanks, quotes
hold blanks together and are no part of a word, and a backslash takes the character
behind it as it is. Between double quotes it does so for a double quote and a backslash
alone, between single quotes for nothing. A line that is still being written may end
anywhere: what there is of its last word is a word.
-/

namespace Depot.CommandLine

/-- Whether a character parts words. -/
def isGap (c : CodePoint) : Bool := c = ' ' || c = '\t' || c = '\r' || c = '\n'

/-- Where in a line the next character stands. -/
inductive Position where
  /-- Outside of quotes. -/
  | bare
  /-- Outside of quotes, behind a backslash. -/
  | escaped
  /-- Between quotes. -/
  | quoted (quote : CodePoint)
  /-- Between double quotes, behind a backslash. -/
  | quotedEscaped
  deriving DecidableEq

/-- The words of a line from a position on, where one of them may have started. -/
def wordsFrom : Position → Option Text → Text → List Text
  | _, word, [] => word.toList
  | .bare, word, c :: t =>
    let started := word.getD []
    if isGap c then word.toList ++ wordsFrom .bare none t
    else if c = '\\' then wordsFrom .escaped (some started) t
    else if c = '\'' ∨ c = '"' then wordsFrom (.quoted c) (some started) t
    else wordsFrom .bare (some (started ++ [c])) t
  | .escaped, word, c :: t => wordsFrom .bare (some (word.getD [] ++ [c])) t
  | .quoted quote, word, c :: t =>
    if c = quote then wordsFrom .bare word t
    else if c = '\\' ∧ quote = '"' then wordsFrom .quotedEscaped word t
    else wordsFrom (.quoted quote) (some (word.getD [] ++ [c])) t
  | .quotedEscaped, word, c :: t =>
    let meant : Text := if c = '\\' ∨ c = '"' then [c] else ['\\', c]
    wordsFrom (.quoted '"') (some (word.getD [] ++ meant)) t

/-- The words of a line. -/
def lineWords (line : Text) : List Text := wordsFrom .bare none line

end Depot.CommandLine
