import Depot.Text

/-!
# Blanks

The characters that are blank in any script: the blank itself, the controls
that move the position, and the separators of Unicode.
-/

namespace Depot.Text

/-- Whether a character is blank. -/
def isBlank (c : CodePoint) : Bool :=
  let n := c.toNat
  (0x9 ≤ n && n ≤ 0xd) || (0x1c ≤ n && n ≤ 0x20) || n = 0x85 || n = 0xa0 || n = 0x1680 ||
    (0x2000 ≤ n && n ≤ 0x200a) || n = 0x2028 || n = 0x2029 || n = 0x202f || n = 0x205f || n = 0x3000

/-- The text without the blanks at its ends. -/
def strip (t : Text) : Text := trim isBlank t

/-- The text without the blanks at its end. -/
def stripEnd (t : Text) : Text := (t.reverse.dropWhile isBlank).reverse

/-- The words of a text: its longest parts without blanks. -/
def words : Text → List Text
  | [] => []
  | c :: t =>
    if isBlank c then words t
    else if (t.head?).all isBlank then [c] :: words t
    else
      match words t with
      | [] => [[c]]
      | w :: ws => (c :: w) :: ws

end Depot.Text
