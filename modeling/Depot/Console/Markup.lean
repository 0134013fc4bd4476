import Depot.Console.Lines
import Depot.Console.Literal
import Depot.Console.Style

/-!
# Markup

Messages are written in a markup: `[style]` opens a style, `[/style]` closes the
innermost open one of that name, and `[/]` closes the innermost one of all. A
style that starts with `@` is an action. What stands behind an equals sign are the
parameters of a tag. A tag starts with a lower-case letter or one of `#`, `/` and
`@`, and holds no opening bracket; other brackets are text. A backslash in front of
a tag makes it text, and of several backslashes each two are one.

A tag is looked for at each character of the text (`scan`). In the text between
two tags codes of emoji are replaced, and the tags found are matched against each
other (`close`). The styles of what is between them are looked up when the text is
shown. `plain` is what of a message is shown on a console without colours, which may
break its lines, if its tags and styles are in order.
-/

namespace Depot.Console

/-- What a message is made of. -/
inductive Token where
  | character (c : CodePoint)
  /-- The end of a stretch of text. -/
  | divider
  /-- The start of a style. -/
  | opening (style : Text) (parameters : Option Text)
  /-- The end of a style, or of the innermost one if there is no name. -/
  | closing (style : Text)
  deriving DecidableEq

/-- Why a message cannot be shown. -/
inductive Fault where
  /-- A tag closes what is not open. -/
  | unmatched
  /-- The parameters of an action are none; there may be warnings about them. -/
  | parameters (warnings : List Text)
  /-- A style mixes a colour and lacks a number. -/
  | mixture
  deriving DecidableEq

/-- Why a message cannot be shown, in words. -/
def Fault.message : Fault → Text
  | .unmatched => "A message closes a style that is not open"
  | .parameters _ => "A message has an action whose parameters are no literal"
  | .mixture => "A message has a style with a colour that lacks a number"

/-- The warnings that come with a fault. -/
def Fault.warnings : Fault → List Text
  | .parameters warnings => warnings
  | .unmatched | .mixture => []

/-! ## Tags -/

/-- Whether a tag may start with a character. -/
def startsTag (c : CodePoint) : Bool := ('a' ≤ c && c ≤ 'z') || c = '#' || c = '/' || c = '@'

/-- The text before the first closing bracket, unless an opening one comes
    first. -/
def upToBracket? : Text → Option Text
  | [] => none
  | c :: t =>
    if c = ']' then some []
    else if c = '[' then none
    else (upToBracket? t).map (c :: ·)

/-- The text of the tag that a text starts with, without its brackets. -/
def tag? : Text → Option Text
  | '[' :: c :: t => if startsTag c then (upToBracket? t).map (c :: ·) else none
  | _ => none

/-- The name of a tag, and its parameters behind an equals sign. -/
def tagParts (t : Text) : Text × Option Text :=
  match Text.cut '=' t with
  | some (name, parameters) => (name, some parameters)
  | none => (t, none)

/-- The token that the text of a tag stands for. -/
def tagToken (t : Text) : Token :=
  match tagParts t with
  | ('/' :: name, _) => .closing (Text.strip name)
  | (name, parameters) => .opening name parameters

/-! ## Scanning -/

/-- Whether a character is a backslash. -/
def isBackslash (c : CodePoint) : Bool := c = '\\'

/-- The characters of a text as tokens. -/
def characters (t : Text) : List Token := t.map .character

/-- What is found at a place in a text: its tokens, and by how many characters
    they go beyond the first one. -/
def found (c : CodePoint) (t : Text) : List Token × Nat :=
  let slashes := ((c :: t).takeWhile isBackslash).length
  match tag? ((c :: t).drop slashes) with
  | some tag =>
    let shown := characters (Text.repeated (slashes / 2) '\\')
    let rest :=
      if slashes % 2 = 1 then characters ('[' :: (tag ++ "]")) ++ [.divider] else [tagToken tag]
    (.divider :: (shown ++ .divider :: rest), slashes + tag.length + 1)
  | none =>
    if c = '\\' ∧ Text.startsWith '[' t then ([.character '['], 1) else ([.character c], 0)

/-- The tokens of a text after some characters that belong to tokens before. -/
def scan : Nat → Text → List Token
  | _, [] => []
  | skipped + 1, _ :: t => scan skipped t
  | 0, c :: t =>
    let (tokens, more) := found c t
    tokens ++ scan more t

/-- The tokens of a text. -/
def tokens (t : Text) : List Token := scan 0 t

/-! ## Emoji -/

/-- The tokens with emoji in place of their codes. The characters before them that
    belong to the same stretch of text come first, the last one in front. -/
def withEmojiFrom (before : Text) : List Token → List Token
  | [] => characters (Emoji.replace before.reverse)
  | .character c :: ts => withEmojiFrom (c :: before) ts
  | t :: ts => characters (Emoji.replace before.reverse) ++ t :: withEmojiFrom [] ts

/-- The tokens with emoji in place of their codes. -/
def withEmoji (ts : List Token) : List Token := withEmojiFrom [] ts

/-! ## Characters that are not shown -/

/-- Whether a character is left out when text is shown: the bell, and those that
    move the position by other than one step or line. -/
def isDropped (c : CodePoint) : Bool :=
  c = '\x07' || c = '\x08' || c = '\x0b' || c = '\x0c' || c = '\x0d'

/-- Whether a token is one of those that are shown, or no character. -/
def Token.isKept : Token → Bool
  | .character c => !isDropped c
  | _ => true

/-! ## Matching -/

/-- A style that is open. -/
structure OpenStyle where
  /-- The style in its normal form. -/
  style : Text
  parameters : Option Text
  /-- The number of characters in front of it. -/
  start : Nat
  deriving DecidableEq

/-- A stretch of a text in a style. -/
structure Stretch where
  /-- The text by which the style is looked up. -/
  style : Text
  /-- The number of characters in front of it. -/
  start : Nat
  /-- The number of characters up to its end. -/
  stop : Nat
  deriving DecidableEq

/-- Whether a style is an action. -/
def OpenStyle.isAction (o : OpenStyle) : Bool := Text.startsWith '@' o.style

/-- The warnings with which a style cannot be closed: the parameters of an action have to
    be some. -/
def OpenStyle.refusal? (o : OpenStyle) : Option (List Text) :=
  if o.isAction then (o.parameters.filter (· ≠ [])).bind Literal.refusal? else none

/-- The stretch of an open style up to its end. -/
def OpenStyle.until (o : OpenStyle) (stop : Nat) : Stretch :=
  ⟨match o.parameters with
    | some p => o.style ++ " " ++ p
    | none => o.style, o.start, stop⟩

/-- The innermost open style that a name closes, and the styles left. -/
def takeOpen? (name : Text) (stack : List OpenStyle) : Except Fault (OpenStyle × List OpenStyle) :=
  if name = [] then
    match stack with
    | [] => .error .unmatched
    | o :: stack => .ok (o, stack)
  else
    match Style.normal? name with
    | none => .error .mixture
    | some style =>
      match stack.find? fun o => o.style = style with
      | none => .error .unmatched
      | some o => .ok (o, stack.eraseP fun o => o.style = style)

/-- The characters of some tokens and the stretches in a style, given the styles that are
    open, the innermost first, and the number of characters before. An action that is
    closed has no style. -/
def close : List OpenStyle → Nat → List Token → Except Fault (Text × List Stretch)
  | stack, count, [] => .ok ([], stack.map (·.until count))
  | stack, count, .character c :: ts =>
    (close stack (count + 1) ts).map fun shown => (c :: shown.1, shown.2)
  | stack, count, .divider :: ts => close stack count ts
  | stack, count, .opening name parameters :: ts =>
    match Style.normal? name with
    | none => .error .mixture
    | some style => close (⟨style, parameters, count⟩ :: stack) count ts
  | stack, count, .closing name :: ts =>
    match takeOpen? name stack with
    | .error e => .error e
    | .ok (o, stack) =>
      match o.refusal? with
      | some warnings => .error (.parameters warnings)
      | none =>
        if o.isAction then close stack count ts
        else (close stack count ts).map fun shown => (shown.1, o.until count :: shown.2)

/-! ## Showing -/

/-- Whether a character parts a text: a tab, or the end of a line. -/
def isParting (c : CodePoint) : Bool := c = '\t' || Text.isLineFeed c

/-- The stretch in the text with its tabs expanded. -/
def Stretch.expanded (t : Text) (s : Stretch) : Stretch :=
  { s with
    start := (expandTabs (t.take s.start)).length
    stop := (expandTabs (t.take s.stop)).length }

/-- Whether the style of a stretch is looked up when a text is shown. A text with tabs or
    on several lines is shown part by part, and its stretches without a character that is
    printed are in no part. Of one line that loses its end, the stretches in front of what it
    loses are left. -/
def Stretch.isLookedUp (columns : Option Width) (t : Text) (s : Stretch) : Bool :=
  let expanded := expandTabs t
  if t.any isParting || isBroken columns expanded then
    let s := s.expanded t
    (((kept columns expanded).take s.stop).drop s.start).any id
  else
    let left := (printed columns expanded).length
    left = expanded.length || s.start < left

/-- What is shown of a message, if its tags are in order. -/
def plain (columns : Option Width) (t : Text) : Except Fault Text :=
  match close [] 0 ((withEmoji (tokens t)).filter Token.isKept) with
  | .error e => .error e
  | .ok (shown, stretches) =>
    if stretches.any fun s => Style.isRefused s.style && s.isLookedUp columns shown then
      .error .mixture
    else .ok (printed columns (expandTabs shown))

/-! ## Text without markup -/

/-- A text without brackets is shown as it is. -/
theorem tokens_of_no_bracket {t : Text} (h : .char '[' ∉ t) : tokens t = characters t := by
  have tag_none : ∀ t : Text, .char '[' ∉ t → tag? t = none := by
    intro t h
    unfold tag?
    split
    · simp at h
    · rfl
  have key : ∀ t : Text, .char '[' ∉ t → scan 0 t = characters t := by
    intro t
    induction t with
    | nil => intro _; rfl
    | cons c t ih =>
      intro h
      have ht : .char '[' ∉ t := fun m => h (List.mem_cons_of_mem _ m)
      have hd : ∀ n, tag? ((c :: t).drop n) = none := fun n =>
        tag_none _ fun m => h (List.mem_of_mem_drop m)
      have hh : ¬Text.startsWith '[' t := by
        simpa [Text.startsWith] using fun e => ht (List.mem_of_mem_head? e)
      simp [scan, found, hd, hh, characters, ih ht]
  exact key t h

end Depot.Console
