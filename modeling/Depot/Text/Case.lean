import Depot.Text.CaseTable
import Depot.Text.Printable

/-!
# Lower case

`Text.lower` writes every letter of a text in lower case. All letters but two
have one lower-case form: a capital sigma becomes a final sigma at the end of a
word, and a capital I with a dot becomes an i followed by the dot.
-/

namespace Depot.Text

/-- The lower-case form of a letter; every other character is its own. -/
def lowerChar (c : CodePoint) : CodePoint :=
  let n := c.toNat
  match caseRuns.find? fun r => r.first ≤ n && n ≤ r.last && (n - r.first) % r.step == 0 with
  | some r => CodePoint.ofNat (r.lower + (n - r.first))
  | none => c

/-- Whether a character has case and counts for a sigma beside it. -/
def isCased (c : CodePoint) : Bool := inRanges casedRanges c.toNat

/-- Whether a sigma looks past a character. -/
def isCaseIgnorable (c : CodePoint) : Bool := inRanges caseIgnorableRanges c.toNat

/-- Whether the first character that a sigma does not look past has case. -/
def meetsCased (t : Text) : Bool :=
  (t.dropWhile isCaseIgnorable).head?.any isCased

/-- The lower-case form of a character between two texts, the one before it in
    reverse. -/
def lowerBetween (before : Text) (c : CodePoint) (after : Text) : Text :=
  if c = 'Σ' then [if meetsCased before && !meetsCased after then 'ς' else 'σ']
  else if c = 'İ' then ['i', '\u0307']
  else [lowerChar c]

/-- The lower-case form of a text that follows another one, given in reverse. -/
def lowerAfter (before : Text) : Text → Text
  | [] => []
  | c :: rest => lowerBetween before c rest ++ lowerAfter (c :: before) rest

/-- The text in lower case. -/
def lower (t : Text) : Text := lowerAfter [] t

end Depot.Text
