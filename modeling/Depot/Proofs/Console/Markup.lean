import Depot.Command.Session
import Depot.Proofs.Console.Ink
import Depot.Proofs.Text.Halves

/-!
# Messages as they are shown

The program writes its messages as a text in a style with more text behind it. Where
no tag is found in what it is told about, the tags of the style are the only ones
(`tokens_styled_append`), and so the message can be shown: it is `shownText` of its
parts, in which codes of emoji are replaced and a few control characters are left out
(`plain_styled_append`). No code goes beyond a blank (`shownText_append_blank`), and what
stands in front of the first tab stays in front (`prefix_expandTabs`).

An opening bracket in what the program is told about may be the start of a tag, and then
whether the message can be shown depends on the tag.

No half of a surrogate pair comes in when a text is shown (`isWhole_shownText`,
`isWhole_expandTabs`).
-/

namespace Depot.Console

open Command

variable {t u name style : Text} {c : CodePoint} {stack : List OpenStyle} {ts : List Token}

/-! ## Text between tags -/

theorem tag?_cons_of_ne (h : c ≠ '[') (t : Text) : tag? (c :: t) = none := by
  unfold tag?
  split
  · next heq => exact absurd (List.cons.inj heq).1 h
  · rfl

/-- Behind the backslashes that a text may start with, there is no tag when the text goes on
    without brackets. -/
theorem tag?_drop_backslashes (hne : t ≠ []) (ht : .char '[' ∉ t)
    (hend : Text.endsWith '\\' t = false) (u : Text) :
    tag? ((t ++ u).drop ((t ++ u).takeWhile isBackslash).length) = none := by
  induction t with
  | nil => exact absurd rfl hne
  | cons c t ih =>
    rw [List.mem_cons, not_or] at ht
    rw [List.cons_append]
    by_cases hc : isBackslash c
    · cases t with
      | nil => simp_all [isBackslash, Text.endsWith]
      | cons c' t =>
        rw [List.takeWhile_cons_of_pos hc, List.length_cons, List.drop_succ_cons]
        exact ih (List.cons_ne_nil c' t) ht.2 (by simpa [Text.endsWith] using hend)
    · rw [List.takeWhile_cons_of_neg hc, List.length_nil, List.drop_zero]
      exact tag?_cons_of_ne (Ne.symm ht.1) _

/-- The characters before a tag are as they are, unless a backslash takes the tag. -/
theorem scan_append (ht : .char '[' ∉ t) (hend : Text.endsWith '\\' t = false) (u : Text) :
    scan 0 (t ++ u) = characters t ++ scan 0 u := by
  induction t with
  | nil => rfl
  | cons c t ih =>
    have htag := tag?_drop_backslashes (List.cons_ne_nil c t) ht hend u
    rw [List.mem_cons, not_or] at ht
    have hfound : found c (t ++ u) = ([.character c], 0) := by
      rw [List.cons_append] at htag
      rw [found, htag]
      refine if_neg ?_
      -- A backslash takes the bracket behind it, and there is none.
      rintro ⟨hc, hstart⟩
      cases t with
      | nil => simp [Text.endsWith, hc] at hend
      | cons c' t =>
        simp only [List.cons_append, Text.startsWith, List.head?_cons, Option.some.injEq,
          decide_eq_true_eq] at hstart
        exact ht.2 (hstart ▸ List.mem_cons_self)
    have hrest : Text.endsWith '\\' t = false := by
      cases t with
      | nil => rfl
      | cons c' t => simpa [Text.endsWith] using hend
    rw [List.cons_append, scan, hfound]
    simp only [characters, List.map_cons, List.cons_append, List.nil_append, ih ht.2 hrest]

/-- Characters that belong to what was found before are passed over. -/
theorem scan_length_append (t u : Text) : scan t.length (t ++ u) = scan 0 u := by
  induction t with
  | nil => rfl
  | cons c t ih => exact ih

/-! ## Tags -/

theorem upToBracket?_append (hopen : .char '[' ∉ t) (hclose : .char ']' ∉ t) (u : Text) :
    upToBracket? (t ++ .char ']' :: u) = some t := by
  induction t with
  | nil => rfl
  | cons c t ih =>
    rw [List.mem_cons, not_or] at hopen hclose
    rw [List.cons_append, upToBracket?, if_neg (Ne.symm hclose.1), if_neg (Ne.symm hopen.1),
      ih hopen.2 hclose.2]
    rfl

/-- A tag without brackets in it is found where it stands. -/
theorem scan_tag (hstart : startsTag c = true) (hopen : .char '[' ∉ name)
    (hclose : .char ']' ∉ name) (u : Text) :
    scan 0 (.char '[' :: c :: (name ++ .char ']' :: u)) =
      .divider :: .divider :: tagToken (c :: name) :: scan 0 u := by
  have htag : tag? (.char '[' :: c :: (name ++ .char ']' :: u)) = some (c :: name) := by
    rw [tag?, if_pos hstart, upToBracket?_append hopen hclose]
    rfl
  have hfound : found '[' (c :: (name ++ .char ']' :: u)) =
      ([.divider, .divider, tagToken (c :: name)], (c :: (name ++ [.char ']'])).length) := by
    have hslashes : (.char '[' :: c :: (name ++ .char ']' :: u)).takeWhile isBackslash = [] :=
      List.takeWhile_cons_of_neg (by decide)
    rw [found, hslashes, List.length_nil, List.drop_zero, htag]
    simp [Text.repeated, characters]
  have hsplit : c :: (name ++ .char ']' :: u) = (c :: (name ++ [.char ']'])) ++ u := by simp
  rw [scan, hfound]
  simp only [List.cons_append, List.nil_append]
  rw [hsplit, scan_length_append]

/-- Whether what is written as a style says nothing that belongs to a style. -/
def Style.isUnknown (t : Text) : Bool :=
  match parse t with
  | .error .unknown => true
  | _ => false

theorem Style.parse_of_isUnknown (h : isUnknown t = true) : parse t = .error .unknown := by
  rw [isUnknown] at h
  split at h
  · assumption
  · contradiction

/-- A style that is a name of its own and may stand in tags. -/
structure IsName (style : Text) : Prop where
  starts : (style.head?.any fun c => startsTag c && c ≠ '/' && c ≠ '@') = true
  noOpen : .char '[' ∉ style
  noClose : .char ']' ∉ style
  noEquals : .char '=' ∉ style
  strip : Text.strip style = style
  lower : Text.lower style = style
  unknown : Style.isUnknown style = true

instance (style : Text) : Decidable (IsName style) :=
  decidable_of_iff ((style.head?.any fun c => startsTag c && c ≠ '/' && c ≠ '@') = true ∧
    .char '[' ∉ style ∧ .char ']' ∉ style ∧ .char '=' ∉ style ∧ Text.strip style = style ∧
    Text.lower style = style ∧ Style.isUnknown style = true)
    ⟨fun ⟨h₁, h₂, h₃, h₄, h₅, h₆, h₇⟩ => ⟨h₁, h₂, h₃, h₄, h₅, h₆, h₇⟩,
      fun ⟨h₁, h₂, h₃, h₄, h₅, h₆, h₇⟩ => ⟨h₁, h₂, h₃, h₄, h₅, h₆, h₇⟩⟩

theorem colourWord_ofString {s : String} (hname : s ∉ colourNames)
    (hother : Text.ofString s ≠ "default" ∧ (Text.ofString s).head? ≠ some (.char '#') ∧
      inParentheses? "color(" s = none ∧ inParentheses? "rgb(" s = none) :
    colourWord s = .other := by
  obtain ⟨hdefault, hnumber, hcolor, hrgb⟩ := hother
  have hnames : (colourNames.any fun n : String => Text.ofString s = n) = false := by
    rw [List.any_eq_false]
    exact fun n hn heq => hname (Text.ofString_inj.1 (of_decide_eq_true heq) ▸ hn)
  have hplain : isPlainColour s = false := by
    rw [isPlainColour.eq_def, hnames, hcolor, decide_eq_false hdefault]
    split
    · next heq => exact absurd (congrArg List.head? heq) hnumber
    · rfl
  rw [colourWord, hplain, hrgb]
  rfl

/-- A word that is neither an attribute nor a colour is unknown. -/
theorem Style.isUnknown_of_word (hword : Text.strip t ≠ nothing ∧ Text.words t = [t] ∧
    Text.lower t = t ∧ t ∉ (["on", "not", "link"] : List Text) ∧ attribute? t = none)
    (hcolour : colourWord t = .other) : isUnknown t = true := by
  obtain ⟨hnothing, hwords, hlower, hmem, hattribute⟩ := hword
  simp only [List.mem_cons, List.not_mem_nil, or_false, not_or] at hmem
  rw [isUnknown, parse, if_neg hnothing, hwords, ofWords, hlower, if_neg hmem.1, if_neg hmem.2.1,
    if_neg hmem.2.2, hattribute]
  simp only [withColour, hcolour]

/-- The styles of messages are names. -/
theorem isName_of_mem (h : style ∈ (["info", "success", "warning", "error"] : List Text)) :
    IsName style := by
  have hstyles : ∀ s ∈ ["info", "success", "warning", "error"], s ∉ colourNames := by decide
  -- Whether the word is a colour is left out here: the names of colours are many, and are
  -- compared with it as they are written.
  have hfacts : ∀ s ∈ ["info", "success", "warning", "error"],
      let t := Text.ofString s
      ((t.head?.any fun c => startsTag c && c ≠ '/' && c ≠ '@') = true ∧ .char '[' ∉ t ∧
        .char ']' ∉ t ∧ .char '=' ∉ t) ∧
      (t ≠ "default" ∧ t.head? ≠ some (.char '#') ∧ inParentheses? "color(" t = none ∧
        inParentheses? "rgb(" t = none) ∧
      Text.strip t = t ∧ Text.strip t ≠ Style.nothing ∧ Text.words t = [t] ∧ Text.lower t = t ∧
        t ∉ (["on", "not", "link"] : List Text) ∧ Style.attribute? t = none := by
    decide +kernel
  obtain ⟨s, hs, rfl⟩ : ∃ s ∈ ["info", "success", "warning", "error"], Text.ofString s = style := by
    rw [← List.mem_map]
    exact h
  obtain ⟨⟨hstarts, hopen, hclose, hequals⟩, hother, hstrip, hword⟩ := hfacts s hs
  exact ⟨hstarts, hopen, hclose, hequals, hstrip, hword.2.2.1,
    Style.isUnknown_of_word hword (colourWord_ofString (hstyles s hs) hother)⟩

theorem IsName.normal (h : IsName style) : Style.normal? style = some style := by
  rw [Style.normal?, Style.parse_of_isUnknown h.unknown, h.strip, h.lower]

theorem IsName.accepted (h : IsName style) : Style.isRefused style = false := by
  rw [Style.isRefused, Style.parse_of_isUnknown h.unknown]

theorem tagToken_of_isName (h : IsName style) : tagToken style = .opening style none := by
  have hstart := h.starts
  have hcut := Text.cut_eq_none_iff.2 h.noEquals
  cases style with
  | nil => contradiction
  | cons c name =>
    have hc : c ≠ '/' := by
      rintro rfl
      simp at hstart
    rw [tagToken, tagParts, hcut]
    split
    · next heq => exact absurd (List.cons.inj (Prod.mk.inj heq).1).1 hc
    · next heq =>
      obtain ⟨rfl, rfl⟩ := Prod.mk.inj heq
      rfl

theorem tagToken_slash_of_isName (h : IsName style) :
    tagToken (.char '/' :: style) = .closing style := by
  have hcut : Text.cut '=' (.char '/' :: style) = none :=
    Text.cut_eq_none_iff.2 (by simpa using h.noEquals)
  rw [tagToken, tagParts, hcut]
  exact congrArg Token.closing h.strip

/-- The tokens of a text without brackets in a style, with more text behind it. -/
theorem tokens_styled_append (h : IsName style) (ht : .char '[' ∉ t)
    (hend : Text.endsWith '\\' t = false) (u : Text) :
    tokens (styled style t ++ u) =
      .divider :: .divider :: .opening style none :: (characters t ++
        .divider :: .divider :: .closing style :: tokens u) := by
  have htoken := tagToken_of_isName h
  have hstart := h.starts
  have hopen := h.noOpen
  have hclose := h.noClose
  rw [tokens, tokens, ← tagToken_slash_of_isName h]
  cases style with
  | nil => contradiction
  | cons c name =>
    -- What is scanned one after the other: a tag, the text, a tag, and what is behind.
    have hsplit : styled (c :: name) t ++ u = .char '[' :: c :: (name ++ .char ']' ::
        (t ++ .char '[' :: .char '/' :: (c :: name ++ .char ']' :: u))) := by
      simp only [styled, List.cons_append, List.append_assoc]
      rfl
    simp only [Option.any_some, List.head?_cons, Bool.and_eq_true] at hstart
    rw [hsplit, scan_tag hstart.1.1 (fun h => hopen (List.mem_cons_of_mem c h))
      (fun h => hclose (List.mem_cons_of_mem c h)), htoken, scan_append ht hend,
      scan_tag (by decide) hopen hclose]

/-- A blank belongs to no tag. -/
theorem tokens_blank (t : Text) : tokens (.char ' ' :: t) = .character ' ' :: tokens t := by
  have hfound : found ' ' t = ([.character ' '], 0) := by
    have hslashes : (.char ' ' :: t).takeWhile isBackslash = [] :=
      List.takeWhile_cons_of_neg (by decide)
    rw [found, hslashes, List.length_nil, List.drop_zero, tag?_cons_of_ne (by decide)]
    exact if_neg fun h => absurd h.1 (by decide)
  rw [tokens, scan, hfound]
  rfl

/-! ## Showing -/

/-- Only control characters are left out, and no line break. -/
theorem lt_of_isDropped (h : isDropped c = true) : c.toNat < 0x20 ∧ c ≠ '\n' := by
  simp only [isDropped, Bool.or_eq_true, decide_eq_true_eq] at h
  obtain (((rfl | rfl) | rfl) | rfl) | rfl := h <;> decide

/-- The characters that are shown of a text without tags, before tabs are expanded. -/
def shownText (t : Text) : Text := (Emoji.replace t).filter fun c => !isDropped c

theorem withEmojiFrom_append (before t : Text) (ts : List Token) :
    withEmojiFrom before (characters t ++ ts) = withEmojiFrom (t.reverse ++ before) ts := by
  induction t generalizing before with
  | nil => rfl
  | cons c t ih =>
    rw [List.reverse_cons, List.append_assoc]
    exact ih (c :: before)

theorem filter_characters (t : Text) :
    (characters t).filter Token.isKept = characters (t.filter fun c => !isDropped c) := by
  rw [characters, List.filter_map]
  rfl

/-- Characters are shown in front of what comes after them. -/
theorem close_append (stack : List OpenStyle) (count : Nat) (t : Text) (ts : List Token) :
    close stack count (characters t ++ ts) =
      (close stack (count + t.length) ts).map fun shown => (t ++ shown.1, shown.2) := by
  induction t generalizing count with
  | nil =>
    change close stack count ts = (close stack count ts).map id
    rw [Except.map_id, id_eq]
  | cons c t ih =>
    have hcons := ih (count + 1)
    rw [Nat.add_assoc, Nat.add_comm 1] at hcons
    change (close stack (count + 1) (characters t ++ ts)).map _ = _
    rw [hcons, List.length_cons]
    cases close stack (count + (t.length + 1)) ts <;> rfl

/-- Emoji are replaced in each stretch of text on its own. -/
theorem withEmoji_characters (t : Text) :
    withEmoji (characters t) = characters (Emoji.replace t) := by
  rw [← List.append_nil (characters t), withEmoji, withEmojiFrom_append, withEmojiFrom,
    List.append_nil, List.reverse_reverse]

theorem withEmoji_closing (style t : Text) (ts : List Token) :
    withEmoji (characters t ++ .divider :: .divider :: .closing style :: ts) =
      characters (Emoji.replace t) ++ .divider :: .divider :: .closing style :: withEmoji ts := by
  have hnone : characters (Emoji.replace []) = [] := rfl
  rw [withEmoji, withEmojiFrom_append, List.append_nil, withEmojiFrom, List.reverse_reverse]
  · simp only [withEmojiFrom, List.reverse_nil, hnone, List.nil_append, withEmoji]
  · exact fun _ h => nomatch h

theorem withEmoji_styled (style t : Text) (ts : List Token) :
    withEmoji (.divider :: .divider :: .opening style none :: (characters t ++
        .divider :: .divider :: .closing style :: ts)) =
      .divider :: .divider :: .opening style none :: (characters (Emoji.replace t) ++
        .divider :: .divider :: .closing style :: withEmoji ts) := by
  have hnone : characters (Emoji.replace []) = [] := rfl
  rw [← withEmoji_closing]
  simp only [withEmoji, withEmojiFrom, List.reverse_nil, hnone, List.nil_append]

/-- The innermost style is closed by its name. -/
theorem takeOpen?_cons (h : IsName style) (count : Nat) (stack : List OpenStyle) :
    takeOpen? style (⟨style, none, count⟩ :: stack) = .ok (⟨style, none, count⟩, stack) := by
  have hne : style ≠ [] := by
    rintro rfl
    exact absurd h.starts (by decide)
  rw [takeOpen?, if_neg hne, h.normal]
  simp

theorem close_styled (h : IsName style) (t : Text) (ts : List Token) :
    close [] 0 (.divider :: .divider :: .opening style none :: (characters t ++
        .divider :: .divider :: .closing style :: ts)) =
      (close [] t.length ts).map fun shown =>
        (t ++ shown.1, ⟨style, 0, t.length⟩ :: shown.2) := by
  have haction : OpenStyle.isAction ⟨style, none, 0⟩ = false := by
    have hstart := h.starts
    cases style with
    | nil => contradiction
    | cons c name => simp_all [OpenStyle.isAction, Text.startsWith]
  simp only [close, h.normal, close_append, takeOpen?_cons h, OpenStyle.refusal?, haction,
    Nat.zero_add]
  cases close [] t.length ts <;> rfl

/-- The tokens of a text by which it is shown. -/
def keptTokens (t : Text) : List Token := (withEmoji (tokens t)).filter Token.isKept

/-- A text in a style is shown in front of what is shown of the text behind it. -/
theorem close_keptTokens (h : IsName style) (ht : .char '[' ∉ t)
    (hend : Text.endsWith '\\' t = false) (u : Text) :
    close [] 0 (keptTokens (styled style t ++ u)) =
      (close [] (shownText t).length (keptTokens u)).map fun shown =>
        (shownText t ++ shown.1, ⟨style, 0, (shownText t).length⟩ :: shown.2) := by
  rw [← close_styled h, keptTokens, tokens_styled_append h ht hend, withEmoji_styled,
    List.filter_cons_of_pos rfl, List.filter_cons_of_pos rfl, List.filter_cons_of_pos rfl,
    List.filter_append, List.filter_cons_of_pos rfl, List.filter_cons_of_pos rfl,
    List.filter_cons_of_pos rfl, filter_characters]
  rfl

/-- A message that has no tags but those of its style is shown without them. -/
theorem plain_styled_append (columns : Option Width) (h : IsName style) (ht : .char '[' ∉ t)
    (hend : Text.endsWith '\\' t = false) (hu : tokens u = characters u) :
    plain columns (styled style t ++ u) =
      .ok (printed columns (expandTabs (shownText t ++ shownText u))) := by
  have hkept : keptTokens u = characters (shownText u) ++ [] := by
    rw [keptTokens, hu, withEmoji_characters, filter_characters, List.append_nil]
    rfl
  have hclose := close_keptTokens h ht hend u
  rw [hkept, close_append, close] at hclose
  rw [plain, ← keptTokens, hclose]
  simp [Except.map, h.accepted]

/-- A message that closes a style behind its own one cannot be shown: no style is open. -/
theorem plain_of_closing (columns : Option Width) {v : Text} (h : IsName style) (ht : .char '[' ∉ t)
    (hend : Text.endsWith '\\' t = false) (hname : IsName name) (hu : .char '[' ∉ u)
    (hend' : Text.endsWith '\\' u = false) :
    plain columns (styled style t ++ (u ++ .char '[' :: .char '/' :: (name ++ .char ']' :: v))) =
      .error .unmatched := by
  have htokens : tokens (u ++ .char '[' :: .char '/' :: (name ++ .char ']' :: v)) =
      characters u ++ .divider :: .divider :: .closing name :: tokens v := by
    rw [tokens, scan_append hu hend', scan_tag (by decide) hname.noOpen hname.noClose,
      tagToken_slash_of_isName hname, tokens]
  -- The style in front has been closed, so there is none left to close.
  have hopen : takeOpen? name [] = .error .unmatched := by
    have hne : name ≠ [] := by
      rintro rfl
      exact absurd hname.starts (by decide)
    rw [takeOpen?, if_neg hne, hname.normal]
    rfl
  have hkept : keptTokens (u ++ .char '[' :: .char '/' :: (name ++ .char ']' :: v)) =
      characters (shownText u) ++ .divider :: .divider :: .closing name :: keptTokens v := by
    rw [keptTokens, htokens, withEmoji_closing, List.filter_append, filter_characters,
      List.filter_cons_of_pos rfl, List.filter_cons_of_pos rfl, List.filter_cons_of_pos rfl]
    rfl
  rw [plain, ← keptTokens, close_keptTokens h ht hend, hkept, close_append, close, close, close,
    hopen]
  rfl

/-! ## Tabs -/

theorem fillParts_singleton (cell : Nat) (part : Text) : fillParts cell [part] = part := rfl

/-- A text without tabs stays as it is. -/
theorem expandTabs_of_no_tab (h : .char '\t' ∉ t) : expandTabs t = t := by
  have hlines : (Text.pieces '\n' t).map (fun line => fillParts 0 (Text.pieces '\t' line)) =
      Text.pieces '\n' t := by
    refine (List.map_congr_left fun line hline => ?_).trans (List.map_id _)
    rw [Text.pieces_of_not_mem fun hmem => h (Text.subset_of_mem_pieces hline hmem),
      fillParts_singleton, id_eq]
  rw [expandTabs, hlines]
  exact Text.intercalate_pieces '\n' t

theorem mem_fillParts {parts : List Text} {cell : Nat} (h : c ∈ fillParts cell parts) :
    (∃ part ∈ parts, c ∈ part) ∨ c = ' ' := by
  induction parts generalizing cell with
  | nil => exact absurd h List.not_mem_nil
  | cons part parts ih =>
    cases parts with
    | nil => exact .inl ⟨part, List.mem_singleton_self part, h⟩
    | cons next parts =>
      simp only [fillParts, List.mem_append] at h
      rcases h with ((h | h) | h) | h
      · exact .inl ⟨part, List.mem_cons_self, h⟩
      · exact .inr (List.mem_singleton.1 h)
      · exact .inr (List.eq_of_mem_replicate h)
      · exact (ih h).imp_left fun ⟨p, hp, hc⟩ => ⟨p, List.mem_cons_of_mem part hp, hc⟩

/-- No character comes in with the tabs but blanks. -/
theorem mem_expandTabs (h : c ∈ expandTabs t) : c ∈ t ∨ c = ' ' ∨ c = '\n' := by
  have hbetween : ∀ c ∈ Text.ofString "\n", c ∈ t ∨ c = ' ' ∨ c = '\n' := fun c hc =>
    .inr (.inr (List.mem_singleton.1 hc))
  refine Text.forall_mem_joined hbetween (List.forall_mem_map.2 fun line hline d hd => ?_) c h
  refine (mem_fillParts hd).imp (fun ⟨part, hpart, hd⟩ => ?_) .inl
  exact Text.subset_of_mem_pieces hline (Text.subset_of_mem_pieces hpart hd)

theorem isWhole_expandTabs (h : t.IsWhole) : Text.IsWhole (expandTabs t) := by
  intro c hc
  rcases mem_expandTabs hc with hc | rfl | rfl
  · exact h c hc
  · rfl
  · rfl

theorem isSeparate_expandTabs (h : IsSeparate t) : IsSeparate (expandTabs t) := by
  intro c hc
  rcases mem_expandTabs hc with hc | rfl | rfl
  · exact h c hc
  · decide
  · decide

theorem ink_fillParts (cell : Nat) (parts : List Text) :
    Text.ink (fillParts cell parts) = (parts.map Text.ink).flatten := by
  have hblank : Text.ink (Text.ofString " ") = [] := by decide
  have hblanks (n : Nat) : Text.ink (Text.repeated n ' ') = [] :=
    Text.ink_eq_nil fun c hc => List.eq_of_mem_replicate hc ▸ (by decide)
  induction parts generalizing cell with
  | nil => rfl
  | cons part parts ih =>
    cases parts with
    | nil => simp [fillParts]
    | cons next parts =>
      simp only [fillParts, Text.ink_append, hblank, hblanks, ih, List.append_nil]
      rfl

/-- Tabs are blanks, and become blanks. -/
theorem ink_expandTabs (t : Text) : Text.ink (expandTabs t) = Text.ink t := by
  have hend : Text.ink (Text.ofString "\n") = [] := by decide
  have htab : Text.ink [.char '\t'] = [] := by decide
  have hline (line : Text) :
      (Text.ink ∘ fun line => fillParts 0 (Text.pieces '\t' line)) line = Text.ink line := by
    rw [Function.comp_apply, ink_fillParts, ← Text.ink_joined htab]
    exact congrArg Text.ink (Text.intercalate_pieces '\t' line)
  rw [expandTabs, Text.ink_joined hend, List.map_map, List.map_congr_left fun l _ => hline l,
    ← Text.ink_joined hend]
  exact congrArg Text.ink (Text.intercalate_pieces '\n' t)

/-- What stands in front of the first tab or line break stays in front. -/
theorem prefix_expandTabs (htab : .char '\t' ∉ t) (hline : .char '\n' ∉ t) (u : Text) :
    t <+: expandTabs (t ++ u) := by
  have hfill (parts : List Text) (p : Text) : t <+: fillParts 0 ((t ++ p) :: parts) := by
    cases parts with
    | nil => exact List.prefix_append t p
    | cons next parts =>
      simp only [fillParts, List.append_assoc]
      exact List.prefix_append t _
  obtain ⟨line, lines, hlines⟩ := Text.exists_pieces_append hline u
  obtain ⟨part, parts, hparts⟩ := Text.exists_pieces_append htab line
  rw [expandTabs, hlines, List.map_cons, hparts]
  cases lines with
  | nil =>
    rw [List.map_nil, Text.joined_singleton]
    exact hfill parts part
  | cons next lines =>
    rw [List.map_cons, Text.joined_cons_cons]
    exact (hfill parts part).trans (List.prefix_append _ _)

/-! ## Codes and blanks -/

theorem Emoji.upToColon?_append_blank (t u : Text) :
    upToColon? (t ++ .char ' ' :: u) = upToColon? t := by
  induction t with
  | nil => rfl
  | cons c t ih => rw [List.cons_append, upToColon?, upToColon?, ih]

theorem Emoji.length_lt_of_upToColon? {code : Text} (h : upToColon? t = some code) :
    code.length < t.length := by
  induction t generalizing code with
  | nil => contradiction
  | cons c t ih =>
    rw [upToColon?] at h
    split at h
    · exact Option.some.inj h ▸ Nat.zero_lt_succ _
    split at h
    · contradiction
    · obtain ⟨rest, hrest, rfl⟩ := Option.map_eq_some_iff.1 h
      exact Nat.succ_lt_succ (ih hrest)

/-- No code goes beyond a blank. -/
theorem Emoji.replace_append_blank (t u : Text) :
    replace (t ++ .char ' ' :: u) = replace t ++ .char ' ' :: replace u := by
  have key : ∀ (t : Text) (n : Nat), n ≤ t.length →
      replaceFrom n (t ++ .char ' ' :: u) = replaceFrom n t ++ .char ' ' :: replace u := by
    intro t
    induction t with
    | nil =>
      intro n hn
      obtain rfl := Nat.le_zero.1 hn
      rfl
    | cons c t ih =>
      intro n hn
      cases n with
      | succ n => exact ih n (Nat.le_of_succ_le_succ hn)
      | zero =>
        have hcode : code? (c :: (t ++ .char ' ' :: u)) = code? (c :: t) := by
          rw [code?, code?, upToColon?_append_blank]
        rw [List.cons_append, replaceFrom, replaceFrom, hcode]
        cases hfound : code? (c :: t) with
        | none => exact congrArg (c :: ·) (ih 0 (Nat.zero_le _))
        | some code =>
          -- The code and the colon behind it lie before the blank.
          rw [code?, Option.ite_none_right_eq_some] at hfound
          simp only [ih _ (length_lt_of_upToColon? hfound.2), List.append_assoc]
  exact key t 0 (Nat.zero_le _)

theorem shownText_append_blank (t u : Text) :
    shownText (t ++ .char ' ' :: u) = shownText t ++ .char ' ' :: shownText u := by
  rw [shownText, Emoji.replace_append_blank, List.filter_append, List.filter_cons_of_pos rfl]
  rfl

theorem shownText_nil : shownText [] = [] := rfl

/-- A blank belongs to no code. -/
theorem shownText_blank (t : Text) : shownText (.char ' ' :: t) = .char ' ' :: shownText t :=
  shownText_append_blank [] t

/-! ## Texts that are shown as they are -/

theorem Emoji.upToColon?_of_not_mem (h : .char ':' ∉ t) : upToColon? t = none := by
  induction t with
  | nil => rfl
  | cons c t ih =>
    rw [List.mem_cons, not_or] at h
    rw [upToColon?, if_neg (Ne.symm h.1), ih h.2, Option.map_none, ite_self]

/-- A lone colon starts no code. -/
theorem Emoji.replace_of_count_le_one (h : t.count (.char ':') ≤ 1) : replace t = t := by
  refine replace_of_no_code fun s hs => ?_
  cases s with
  | nil => rfl
  | cons c s =>
    rw [code?]
    split
    · next hc =>
      have hcount := Nat.le_trans (hs.sublist.count_le (CodePoint.char ':')) h
      rw [hc, List.count_cons_self] at hcount
      exact upToColon?_of_not_mem (List.count_eq_zero.1 (by omega))
    · rfl

/-- There is nothing in the text that is shown as something else. -/
structure IsVerbatim (t : Text) : Prop where
  noOpen : .char '[' ∉ t
  noCode : Emoji.replace t = t
  noDropped : ∀ c ∈ t, isDropped c = false
  noTab : .char '\t' ∉ t

instance (t : Text) : Decidable (IsVerbatim t) :=
  decidable_of_iff (.char '[' ∉ t ∧ Emoji.replace t = t ∧ (∀ c ∈ t, isDropped c = false) ∧
    .char '\t' ∉ t)
    ⟨fun ⟨h₁, h₂, h₃, h₄⟩ => ⟨h₁, h₂, h₃, h₄⟩, fun ⟨h₁, h₂, h₃, h₄⟩ => ⟨h₁, h₂, h₃, h₄⟩⟩

theorem IsVerbatim.shownText_eq (h : IsVerbatim t) : shownText t = t := by
  rw [shownText, h.noCode, List.filter_eq_self]
  exact fun c hc => by rw [h.noDropped c hc, Bool.not_false]

/-- A message without anything to be shown as something else is shown without its style. -/
theorem plain_styled (columns : Option Width) (h : IsName style) (ht : IsVerbatim t)
    (hend : Text.endsWith '\\' t = false) :
    plain columns (styled style t) = .ok (printed columns t) := by
  have hplain := plain_styled_append columns h ht.noOpen hend (u := []) rfl
  rwa [List.append_nil, shownText_nil, List.append_nil, ht.shownText_eq,
    expandTabs_of_no_tab ht.noTab] at hplain

/-- A message behind a label is shown behind it, if it has no tag. -/
theorem plain_labelled (columns : Option Width) {style label message : Text} (hstyle : IsName style)
    (hlabel : IsVerbatim label) (hend : Text.endsWith '\\' label = false)
    (h : tokens message = characters message) :
    plain columns (styled style label ++ " " ++ message) =
      .ok (printed columns (expandTabs (label ++ " " ++ shownText message))) := by
  have htokens : tokens (.char ' ' :: message) = characters (.char ' ' :: message) := by
    rw [tokens_blank, h]
    rfl
  have hplain := plain_styled_append columns hstyle hlabel.noOpen hend htokens
  rw [hlabel.shownText_eq, shownText_blank] at hplain
  rw [List.append_assoc, List.append_assoc]
  exact hplain

/-! ## Emoji -/

namespace Emoji

theorem isWhole_of_valueOf? {ws : List Text} (h : ∀ w ∈ ws, w.IsWhole)
    (ht : valueOf? name ws = some t) : t.IsWhole := by
  induction ws using valueOf?.induct name with
  | case1 v rest =>
    rw [valueOf?, if_pos rfl] at ht
    exact Option.some.inj ht ▸ h v (by simp)
  | case2 n v rest hn ih =>
    rw [valueOf?, if_neg hn] at ht
    exact ih (fun w hw => h w (by simp [hw])) ht
  | case3 ws hws =>
    rw [valueOf?] at ht
    · contradiction
    · exact hws

theorem isWhole_of_find? {lines : List String} (h : find? lines name = some t) : t.IsWhole := by
  obtain ⟨line, _, hline⟩ := List.exists_of_findSome?_eq_some h
  refine isWhole_of_valueOf? (fun word hword => ?_) hline
  exact (Text.isWhole_ofString line).subset (Text.subset_of_mem_pieces hword)

theorem isWhole_inTone {tone : CodePoint} (htone : tone.isHalf = false) (h : t.IsWhole) :
    Text.IsWhole (inTone tone t) := by
  cases t with
  | nil => exact Text.isWhole_nil
  | cons c t =>
    obtain ⟨hc, ht⟩ := Text.isWhole_cons.1 h
    refine Text.isWhole_cons.2 ⟨hc, Text.isWhole_cons.2 ⟨htone, ?_⟩⟩
    split
    · exact ht.subset (List.tail_sublist t).subset
    · exact ht

theorem isWhole_of_named? (h : named? name = some t) : t.IsWhole := by
  rw [named?, Option.or_eq_some_iff, Option.or_eq_some_iff] at h
  rcases h with h | ⟨_, h | ⟨_, h⟩⟩
  · exact isWhole_of_find? h
  · exact isWhole_of_find? h
  · obtain ⟨tone, htone, h⟩ := List.exists_of_findSome?_eq_some h
    have hwhole : ∀ tone ∈ tones, tone.2.isHalf = false := by decide
    simp only [bind, Option.bind_eq_some_iff, Option.some.injEq] at h
    obtain ⟨person, _, emoji, hemoji, rfl⟩ := h
    exact isWhole_inTone (hwhole tone htone) (isWhole_of_find? hemoji)

theorem isWhole_of_ofCode? (h : ofCode? name = some t) : t.IsWhole := by
  have hlook {look : CodePoint} {n : Text} (hlook : look.isHalf = false)
      (h : (named? n).map (· ++ [look]) = some t) : t.IsWhole := by
    obtain ⟨emoji, hemoji, rfl⟩ := Option.map_eq_some_iff.1 h
    exact Text.isWhole_append.2 ⟨isWhole_of_named? hemoji, by simpa [Text.IsWhole] using hlook⟩
  rw [ofCode?] at h
  split at h
  · exact hlook rfl h
  · exact hlook rfl h
  · exact isWhole_of_named? h

theorem upToColon?_subset {code : Text} (h : upToColon? t = some code) : code ⊆ t := by
  induction t generalizing code with
  | nil => contradiction
  | cons c t ih =>
    rw [upToColon?] at h
    split at h
    · exact Option.some.inj h ▸ List.nil_subset _
    split at h
    · contradiction
    · obtain ⟨rest, hrest, rfl⟩ := Option.map_eq_some_iff.1 h
      exact List.cons_subset_cons c (ih hrest)

theorem isWhole_replace (h : t.IsWhole) : Text.IsWhole (replace t) := by
  -- From any place on, for the characters of a code are passed over.
  have key : ∀ n, Text.IsWhole (replaceFrom n t) := by
    induction t with
    | nil => exact fun n => by cases n <;> exact Text.isWhole_nil
    | cons c t ih =>
      obtain ⟨hc, ht⟩ := Text.isWhole_cons.1 h
      intro n
      cases n with
      | succ n => exact ih ht n
      | zero =>
        rw [replaceFrom]
        cases hcode : code? (c :: t) with
        | none => exact Text.isWhole_cons.2 ⟨hc, ih ht 0⟩
        | some code =>
          have hsubset : code ⊆ t := by
            rw [code?, Option.ite_none_right_eq_some] at hcode
            exact upToColon?_subset hcode.2
          refine Text.isWhole_append.2 ⟨?_, ih ht _⟩
          cases hemoji : ofCode? code with
          | some emoji => exact isWhole_of_ofCode? hemoji
          | none =>
            exact Text.isWhole_cons.2 ⟨rfl, Text.isWhole_append.2
              ⟨ht.subset hsubset, Text.isWhole_ofString ":"⟩⟩
  exact key 0

end Emoji

theorem isWhole_shownText (h : t.IsWhole) : Text.IsWhole (shownText t) :=
  (Emoji.isWhole_replace h).subset List.filter_sublist.subset

/-! ## Control sequences -/

theorem withoutSequences_sublist (t : Text) : (withoutSequences t).Sublist t := by
  have key : ∀ n (t : Text), (dropSequences n t).Sublist t := by
    intro n t
    induction t generalizing n with
    | nil => cases n <;> exact List.Sublist.refl []
    | cons c t ih =>
      cases n with
      | succ n => exact (ih n).cons c
      | zero =>
        rw [dropSequences]
        split
        · next k _ => exact (ih (k - 1)).cons c
        · exact (ih 0).cons_cons c
  exact key 0 t

theorem flatMap_withoutSequences_sublist (ending : Text) (lines : List Text) :
    (lines.flatMap fun l => withoutSequences l ++ ending).Sublist
      (lines.flatMap fun l => l ++ ending) := by
  induction lines with
  | nil => exact List.Sublist.refl []
  | cons l lines ih =>
    exact ((withoutSequences_sublist l).append (List.Sublist.refl ending)).append ih

/-- Two parts of a text that are left as they are together are left so each. -/
theorem append_inj_of_sublist {a b a' b' : Text} (ha : a.Sublist a') (hb : b.Sublist b')
    (h : a ++ b = a' ++ b') : a = a' ∧ b = b' := by
  have hlength := congrArg List.length h
  have hle := ha.length_le
  have hle' := hb.length_le
  rw [List.length_append, List.length_append] at hlength
  exact ⟨ha.eq_of_length (by omega), hb.eq_of_length (by omega)⟩

/-- Lines stay as they are when control sequences are left out, only if there are none. -/
theorem flatMap_withoutSequences_eq_iff {ending : Text} {lines : List Text} :
    (lines.flatMap fun l => withoutSequences l ++ ending) = (lines.flatMap fun l => l ++ ending) ↔
      ∀ l ∈ lines, withoutSequences l = l := by
  induction lines with
  | nil => simp
  | cons l lines ih =>
    rw [List.flatMap_cons, List.flatMap_cons, List.forall_mem_cons, ← ih]
    constructor
    · intro h
      obtain ⟨hfirst, hrest⟩ := append_inj_of_sublist
        ((withoutSequences_sublist l).append (List.Sublist.refl ending))
        (flatMap_withoutSequences_sublist ending lines) h
      exact ⟨List.append_cancel_right hfirst, hrest⟩
    · rintro ⟨hsame, h⟩
      rw [hsame, h]

end Depot.Console
