import Depot.Text
import Depot.Text.CharacterNameTable

/-!
# Characters by name

A character can be written by its name (`CharacterName.isName`). The names of Korean
syllables and of the ideographs of East Asia follow from rules: the first are put
together from the names of their letters, the second end in a number. All other names
are in a table (`characterNameLines`), and are known in letters of any case.
-/

namespace Depot.Text.CharacterName

/-! ## Names by a rule -/

/-- The names of the letters that a Korean syllable can start with. -/
def initials : List Text :=
  ["", "G", "GG", "N", "D", "DD", "R", "M", "B", "BB", "S", "SS", "J", "JJ", "C", "K", "T", "P", "H"]

/-- The names of the vowels of a Korean syllable. -/
def vowels : List Text :=
  ["A", "AE", "YA", "YAE", "EO", "E", "YEO", "YE", "O", "WA", "WAE", "OE", "YO", "U", "WEO", "WE",
   "WI", "YU", "EU", "YI", "I"]

/-- The names of the letters that a Korean syllable can end with. -/
def finals : List Text :=
  ["", "G", "GG", "GS", "N", "NJ", "NH", "D", "L", "LG", "LM", "LB", "LS", "LT", "LP", "LH", "M",
   "B", "BS", "S", "SS", "NG", "J", "C", "K", "T", "P", "H"]

/-- Whether letters are those of a Korean syllable. -/
def isSyllable (t : Text) : Bool :=
  initials.any fun i => (after? i t).any fun t =>
    vowels.any fun v => (after? v t).any finals.contains

/-- The numbers of the unified ideographs. -/
def ideographs : List (Nat × Nat) := [
  (0x3400, 0x4dbf), (0x4e00, 0x9fff), (0x20000, 0x2a6df), (0x2a700, 0x2b738), (0x2b740, 0x2b81d),
  (0x2b820, 0x2cea1), (0x2ceb0, 0x2ebe0), (0x30000, 0x3134a)]

/-- The value of a hexadecimal digit that is no small letter. -/
def capitalHexDigit? (c : CodePoint) : Option Nat := if c < 'a' then hexDigit? c else none

/-- Whether four or five digits are the number of an ideograph. -/
def isIdeograph (t : Text) : Bool :=
  (t.length = 4 || t.length = 5) &&
    (t.foldl (fun n c => n.bind fun n => (capitalHexDigit? c).map (16 * n + ·)) (some 0)).any
      fun n => ideographs.any fun r => r.1 ≤ n && n ≤ r.2

/-! ## Names in the table -/

/-- What a letter counts in front of a name in a line. -/
def count? (c : CodePoint) : Option Nat :=
  if 'a' ≤ c ∧ c ≤ 'z' then some (c.toNat - CodePoint.toNat 'a') else none

/-- The names in a line, from behind the first characters of a name on, which come last
    character first. The number is what was counted for the next name. -/
def namesFrom (name : Text) : Option Nat → Text → List Text
  | _, [] => [name.reverse]
  | counted, c :: t =>
    match counted, count? c with
    | none, none => namesFrom (c :: name) none t
    | none, some n => name.reverse :: namesFrom name (some n) t
    | some k, some n => namesFrom name (some (k + n)) t
    | some k, none => namesFrom (c :: name.drop (name.length - k)) none t

/-- The names in a line. -/
def names (line : Text) : List Text := namesFrom [] none line

/-- The first name in a line. -/
def firstName (line : Text) : Text := line.takeWhile fun c => (count? c).isNone

/-- The line that a name is in, if it is in any: the last one that does not start with a
    later name. -/
def lineOf? (name : Text) : Option String :=
  (characterNameLines.takeWhile fun l : String => !before name (firstName l)).getLast?

/-- A letter of ASCII as a capital. -/
def capital (c : CodePoint) : CodePoint :=
  if (count? c).isSome then .ofNat (c.toNat - 0x20) else c

/-- Whether a name is in the table. -/
def isInTable (t : Text) : Bool :=
  let name := t.map capital
  (lineOf? name).any fun l : String => (names l).contains name

/-! ## All names -/

/-- Whether a text is the name of a character. -/
def isName (t : Text) : Bool :=
  match after? "HANGUL SYLLABLE " t, after? "CJK UNIFIED IDEOGRAPH-" t with
  | some syllable, _ => isSyllable syllable
  | none, some number => isIdeograph number
  | none, none => isInTable t

end Depot.Text.CharacterName
