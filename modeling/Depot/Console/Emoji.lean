import Depot.Console.EmojiTable
import Depot.Text.Blank
import Depot.Text.Case

/-!
# Emoji

A message names an emoji between two colons, in letters of any case: `:snake:`.
A name can end in the tone of the skin, and after it `-emoji` or `-text` asks
for one of two looks. What names no emoji stays as it is, with its colons
(`replace`).
-/

namespace Depot.Console.Emoji

/-! ## Names -/

/-- The value after a name in a list of names and values. -/
def valueOf? (name : Text) : List Text → Option Text
  | n :: v :: rest => if n = name then some v else valueOf? name rest
  | _ => none

/-- The emoji of a name in lines of names and emoji. -/
def find? (lines : List String) (name : Text) : Option Text :=
  lines.findSome? fun l : String => valueOf? name (Text.pieces ' ' l)

/-- The text in front of its end, if it has that end. -/
def beforeEnd? (ending t : Text) : Option Text :=
  if ending.isSuffixOf t then some (t.take (t.length - ending.length)) else none

/-- The character that asks for the look of an emoji. -/
def emojiLook : CodePoint := '\ufe0f'

/-- The character that asks for the look of text. -/
def textLook : CodePoint := '\ufe0e'

/-- The tones of the skin. -/
def tones : List (Text × CodePoint) :=
  [("light", '🏻'), ("medium-light", '🏼'), ("medium", '🏽'), ("medium-dark", '🏾'), ("dark", '🏿')]

/-- An emoji with a tone, which follows its first character. -/
def inTone (tone : CodePoint) : Text → Text
  | [] => []
  | c :: t => c :: tone :: (if t.head? = some emojiLook then t.tail else t)

/-- The emoji of a name that ends in a tone. -/
def findInTone? (name : Text) : Option Text :=
  tones.findSome? fun tone => do
    let person ← beforeEnd? ('_' :: (tone.1 ++ "_skin_tone")) name
    let emoji ← find? peopleLines person
    some (inTone tone.2 emoji)

/-- The emoji of a name. -/
def named? (name : Text) : Option Text :=
  (find? thingLines name).or ((find? peopleLines name).or (findInTone? name))

/-! ## Codes -/

/-- The emoji that a code, the text between the colons, stands for. -/
def ofCode? (code : Text) : Option Text :=
  match beforeEnd? "-emoji" code, beforeEnd? "-text" code with
  | some name, _ => (named? (Text.lower name)).map (· ++ [emojiLook])
  | none, some name => (named? (Text.lower name)).map (· ++ [textLook])
  | none, none => named? (Text.lower code)

/-- The text before the first colon, unless a blank comes first. -/
def upToColon? : Text → Option Text
  | [] => none
  | c :: t =>
    if c = ':' then some []
    else if Text.isBlank c then none
    else (upToColon? t).map (c :: ·)

/-- The code between the colon that a text starts with and the next one. -/
def code? : Text → Option Text
  | [] => none
  | c :: t => if c = ':' then upToColon? t else none

/-- The text with emoji in place of their codes, after some characters that belong
    to a code before. -/
def replaceFrom : Nat → Text → Text
  | _, [] => []
  | skipped + 1, _ :: t => replaceFrom skipped t
  | 0, c :: t =>
    match code? (c :: t) with
    | none => c :: replaceFrom 0 t
    | some code =>
      (ofCode? code).getD (':' :: (code ++ ":")) ++ replaceFrom (code.length + 1) t

/-- The text with emoji in place of their codes. -/
def replace (t : Text) : Text := replaceFrom 0 t

/-- A text in which no code starts stays as it is. -/
theorem replace_of_no_code {t : Text} (h : ∀ s, s <:+ t → code? s = none) : replace t = t := by
  have key : ∀ t : Text, (∀ s, s <:+ t → code? s = none) → replaceFrom 0 t = t := by
    intro t
    induction t with
    | nil => intro _; rfl
    | cons c t ih =>
      intro h
      have ht : replaceFrom 0 t = t := ih fun s hs => h s (hs.trans (List.suffix_cons c t))
      simp [replaceFrom, h (c :: t) (List.suffix_refl _), ht]
  exact key t h

end Depot.Console.Emoji
