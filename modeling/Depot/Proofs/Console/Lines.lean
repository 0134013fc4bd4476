import Depot.Console.Lines
import Depot.Proofs.Text.Halves
import Mathlib.Algebra.GroupWithZero.Nat
import Mathlib.Data.List.DropRight
import Mathlib.Data.List.SplitBy

/-!
# Texts that have room on a console

`room` is what the characters of a text take at the most, however they come together in
signs. A text whose lines have this room is printed as it is (`printed_of_fits`), and what a
line starts with stays in one piece if it has room by itself (`prefix_printed`). Wherever
lines are broken, nothing comes in but blanks and line ends (`mem_printed`).
-/

namespace Depot.Text

variable {t u : Text}

/-! ## Starts and ends of texts -/

theorem prefix_joined_cons (between t : Text) (ts : List Text) :
    t <+: joined between (t :: ts) := by
  cases ts with
  | nil => exact (joined_singleton between t).symm ▸ List.prefix_rfl
  | cons u ts =>
    rw [joined_cons_cons]
    exact List.prefix_append ..

theorem stripEnd_prefix (t : Text) : stripEnd t <+: t := List.rdropWhile_prefix isBlank t

/-- What a text ends with is blank. -/
theorem exists_eq_stripEnd_append (t : Text) :
    ∃ blanks, t = stripEnd t ++ blanks ∧ ∀ c ∈ blanks, isBlank c = true :=
  ⟨t.rtakeWhile isBlank, (List.rdropWhile_append_rtakeWhile ..).symm,
    fun _ => List.mem_rtakeWhile_imp⟩

theorem stripEnd_append_of_blank (h : ∀ c ∈ u, isBlank c = true) :
    stripEnd (t ++ u) = stripEnd t := by
  rw [stripEnd, List.reverse_append, List.dropWhile_append_of_pos (by simpa using h), stripEnd]

/-- The blanks at the end are behind the last character that is none. -/
theorem stripEnd_append (t u : Text) :
    stripEnd (t ++ u) = if stripEnd u = [] then stripEnd t else t ++ stripEnd u := by
  rw [stripEnd, List.reverse_append, List.dropWhile_append]
  have hnil : stripEnd u = [] ↔ (u.reverse.dropWhile isBlank).isEmpty = true := by
    rw [stripEnd, List.reverse_eq_nil_iff, List.isEmpty_iff]
  by_cases h : stripEnd u = []
  · rw [if_pos h, if_pos (hnil.1 h), stripEnd]
  · rw [if_neg h, if_neg (mt hnil.2 h), List.reverse_append, List.reverse_reverse, stripEnd]

end Depot.Text

namespace Depot.Console

variable {t u front blanks : Text} {c : CodePoint} {width used : Nat} {words ws : List Text}

/-! ## Room -/

/-- What the characters of a text take at the most. -/
def room (t : Text) : Nat := (t.map fun c => max 1 (characterCells c)).sum

/-- Every line of the text has room on the console. -/
def Fits (columns : Option Width) (t : Text) : Prop :=
  ∀ w ∈ columns, ∀ line ∈ Text.pieces '\n' t, room line ≤ w.cells

instance (columns : Option Width) (t : Text) : Decidable (Fits columns t) :=
  inferInstanceAs (Decidable (∀ w ∈ columns, _))

theorem room_append (t u : Text) : room (t ++ u) = room t + room u := by
  rw [room, List.map_append, List.sum_append, room, room]

theorem room_cons (c : CodePoint) (t : Text) : room (c :: t) = max 1 (characterCells c) + room t :=
  rfl

theorem room_mono (h : t <+: u) : room t ≤ room u := by
  obtain ⟨v, rfl⟩ := h
  rw [room_append]
  exact Nat.le_add_right ..

theorem length_le_room (t : Text) : t.length ≤ room t := by
  induction t with
  | nil => exact Nat.le_refl 0
  | cons c t ih =>
    rw [room_cons, List.length_cons]
    omega

theorem cellsAfter_le_room (last : Option CodePoint) (t : Text) : cellsAfter last t ≤ room t := by
  fun_induction cellsAfter last t with
  | case1 => exact Nat.zero_le _
  | case2 => exact Nat.zero_le _
  | case3 last d t ih =>
    simp only [room_cons]
    omega
  | case4 last t _ ih =>
    rw [room_cons]
    split <;> omega
  | case5 last c t _ _ n ih =>
    rw [room_cons]
    omega

theorem cells_le_room (t : Text) : cells t ≤ room t := cellsAfter_le_room none t

/-! ## Signs -/

/-- The signs of a text put together. -/
def textOf (ss : List Sign) : Text := ss.flatMap (·.text)

/-- The cells of signs beside each other. -/
def sizeOf (ss : List Sign) : Nat := (ss.map (·.cells)).sum

@[simp] theorem textOf_cons (s : Sign) (ss : List Sign) : textOf (s :: ss) = s.text ++ textOf ss :=
  rfl

@[simp] theorem sizeOf_cons (s : Sign) (ss : List Sign) : sizeOf (s :: ss) = s.cells + sizeOf ss :=
  rfl

theorem textOf_append (ss ss' : List Sign) : textOf (ss ++ ss') = textOf ss ++ textOf ss' :=
  List.flatMap_append

theorem signsAfter_cons (hjoiner : c ≠ joiner) (hlook : c ≠ Emoji.emojiLook) (s : Sign)
    (last : Option CodePoint) (t : Text) : signsAfter s last (c :: t) =
      if characterCells c = 0 then signsAfter { s with text := s.text ++ [c] } last t
      else s :: signsAfter ⟨[c], characterCells c⟩ (some c) t := by
  rw [signsAfter.eq_def]
  simp only [if_neg hjoiner, if_neg hlook]

theorem signsAfter_look (s : Sign) (last : Option CodePoint) (t : Text) :
    signsAfter s last (Emoji.emojiLook :: t) =
      signsAfter ⟨s.text ++ [Emoji.emojiLook], s.cells + if last.any widens then 1 else 0⟩
        none t := by
  have hne : Emoji.emojiLook ≠ joiner := by decide
  rw [signsAfter.eq_def]
  simp only [if_neg hne, if_true]

theorem textOf_signsAfter (s : Sign) (last : Option CodePoint) (t : Text) :
    textOf (signsAfter s last t) = s.text ++ t := by
  fun_induction signsAfter s last t with
  | case1 => simp [textOf]
  | case2 => simp [textOf]
  | case3 s last d t ih => simpa using ih
  | case4 s last t _ ih => simpa using ih
  | case5 s last c t _ _ n hn ih => simpa using ih
  | case6 s last c t _ _ n hn ih => exact congrArg (s.text ++ ·) ih

theorem textOf_signs (t : Text) : textOf (signs t) = t := by
  cases t with
  | nil => rfl
  | cons c t => exact textOf_signsAfter ..

theorem sizeOf_signsAfter_le (s : Sign) (last : Option CodePoint) (t : Text) :
    sizeOf (signsAfter s last t) ≤ s.cells + room t := by
  fun_induction signsAfter s last t with
  | case1 => simp [sizeOf]
  | case2 => simp [sizeOf]
  | case3 s last d t ih =>
    simp only [room_cons] at ih ⊢
    omega
  | case4 s last t _ ih =>
    have hone : (if last.any widens = true then 1 else 0) ≤ 1 := by split <;> decide
    rw [room_cons]
    simp only at ih
    omega
  | case5 s last c t _ _ n hn ih =>
    rw [room_cons]
    exact ih.trans (Nat.add_le_add_left (Nat.le_add_left ..) _)
  | case6 s last c t _ _ n hn ih =>
    have hcells : n ≤ max 1 (characterCells c) := Nat.le_max_right ..
    rw [room_cons, sizeOf_cons]
    simp only at ih
    omega

theorem sizeOf_signs_le (t : Text) : sizeOf (signs t) ≤ room t := by
  cases t with
  | nil => exact Nat.le_refl 0
  | cons c t =>
    refine (sizeOf_signsAfter_le _ _ t).trans ?_
    rw [room_cons]
    exact Nat.add_le_add_right (Nat.le_max_right ..) _

/-- A blank starts a sign of its own unless it is joined. -/
theorem signsAfter_append_blank (hjoiner : joiner ∉ t) (s : Sign) (last : Option CodePoint)
    (u : Text) : signsAfter s last (t ++ .char ' ' :: u) =
      signsAfter s last t ++ signs (.char ' ' :: u) := by
  induction t generalizing s last with
  | nil =>
    have hcells : characterCells ' ' ≠ 0 := by decide
    rw [List.nil_append, signsAfter_cons (by decide) (by decide), signs, if_neg hcells,
      if_neg hcells]
    rfl
  | cons c t ih =>
    rw [List.mem_cons, not_or] at hjoiner
    rw [List.cons_append]
    by_cases hlook : c = Emoji.emojiLook
    · rw [hlook, signsAfter_look, signsAfter_look, ih hjoiner.2]
    · rw [signsAfter_cons (Ne.symm hjoiner.1) hlook, signsAfter_cons (Ne.symm hjoiner.1) hlook,
        ih hjoiner.2, ih hjoiner.2]
      split <;> rfl

theorem signs_append_blank (hne : t ≠ []) (hjoiner : joiner ∉ t) (u : Text) :
    signs (t ++ .char ' ' :: u) = signs t ++ signs (.char ' ' :: u) := by
  cases t with
  | nil => exact absurd rfl hne
  | cons c t => exact signsAfter_append_blank (fun h => hjoiner (List.mem_cons_of_mem c h)) ..

/-! ## Ends of lines -/

/-- There is room for signs that are small enough, whatever comes behind them. -/
theorem fit_append {ss : List Sign} {space : Nat} (h : sizeOf ss ≤ space) (ss' : List Sign) :
    fit space (ss ++ ss') = textOf ss ++ fit (space - sizeOf ss) ss' := by
  induction ss generalizing space with
  | nil => rfl
  | cons s ss ih =>
    rw [sizeOf_cons] at h
    rw [List.cons_append, fit, if_pos (by omega), ih (by omega), textOf_cons, sizeOf_cons,
      Nat.sub_add_eq, List.append_assoc]

/-- What fits comes from the signs, but for a blank at the end. -/
theorem mem_fit {ss : List Sign} {space : Nat} (h : c ∈ fit space ss) :
    c ∈ textOf ss ∨ c = ' ' := by
  induction ss generalizing space with
  | nil => exact absurd h List.not_mem_nil
  | cons s ss ih =>
    rw [fit] at h
    split at h
    · rcases List.mem_append.1 h with h | h
      · exact .inl (List.mem_append_left _ h)
      · exact (ih h).imp_left (List.mem_append_right _)
    split at h
    · exact absurd h List.not_mem_nil
    · exact .inr (List.mem_singleton.1 h)

theorem mem_printedLine (h : c ∈ printedLine width t) : c ∈ t ∨ c = ' ' := by
  rw [printedLine, crop] at h
  split at h
  · exact .inl (List.mem_of_mem_take h)
  · have hfit := mem_fit h
    rw [textOf_signs] at hfit
    exact hfit.imp_left List.mem_of_mem_take

/-- A line loses nothing but blanks at its end. -/
theorem stripEnd_prefix_trimmed (width : Nat) (t : Text) : Text.stripEnd t <+: trimmed width t := by
  have hstrip := Text.stripEnd_prefix t
  have hle := hstrip.length_le
  rw [trimmed, List.prefix_take_iff]
  exact ⟨hstrip, by omega⟩

/-- A line that has room is printed as it is. -/
theorem printedLine_of_room (h : room t ≤ width) : printedLine width t = t := by
  have hlength : t.length ≤ width := (length_le_room t).trans h
  rw [printedLine, trimmed, Nat.sub_eq_zero_of_le hlength, Nat.min_zero, Nat.sub_zero,
    List.take_length, crop, if_pos ((cells_le_room t).trans h)]

/-- What has room and ends with no blank is printed in front of a blank as it is. -/
theorem prefix_printedLine (hne : front ≠ []) (hjoiner : joiner ∉ front)
    (hend : Text.stripEnd front = front) (h : room front ≤ width) (u : Text) :
    front <+: printedLine width (front ++ .char ' ' :: u) := by
  have hstripped : front <+: Text.stripEnd (front ++ .char ' ' :: u) := by
    rw [Text.stripEnd_append, hend]
    split
    · exact List.prefix_rfl
    · exact List.prefix_append ..
  obtain ⟨v, hv⟩ := hstripped.trans (stripEnd_prefix_trimmed width _)
  have hcut : v <+: .char ' ' :: u := by
    have htrimmed : trimmed width (front ++ .char ' ' :: u) <+: _ := List.take_prefix ..
    rwa [← hv, List.prefix_append_right_inj] at htrimmed
  rw [printedLine, ← hv, crop]
  split
  · exact List.prefix_append ..
  next hwide =>
  -- What is cut off starts behind the blank, as the text in front has room.
  cases v with
  | nil => exact absurd ((cells_le_room _).trans (by rwa [List.append_nil])) hwide
  | cons c v =>
    obtain ⟨rfl, _⟩ := List.cons_prefix_cons.1 hcut
    rw [signs_append_blank hne hjoiner, fit_append ((sizeOf_signs_le front).trans h), textOf_signs]
    exact List.prefix_append ..

/-! ## Words -/

theorem flatten_wordsOf (t : Text) : (wordsOf t).flatten = t := by
  have hflatten := List.flatten_splitBy isWithin t
  rw [wordsOf]
  split
  · next blanks word words heq =>
    rw [heq] at hflatten
    split
    · rw [← hflatten]
      simp
    · exact hflatten
  · exact hflatten

/-- Every word has ink in a line that starts with something else than a blank. -/
theorem exists_ink_of_mem_splitBy (hstart : t.head?.any Text.isBlank = false) {word : Text}
    (h : word ∈ t.splitBy isWithin) : ∃ c ∈ word, Text.isBlank c = false := by
  have hchain := List.isChain_getLast_head_splitBy isWithin t
  have hfirst : ∀ w ∈ (t.splitBy isWithin).head?, ∃ c ∈ w, Text.isBlank c = false := by
    intro w hw
    obtain ⟨ws, hws⟩ := List.head?_eq_some_iff.1 hw
    have hne : t ≠ [] := List.splitBy_ne_nil.1 (hws ▸ List.cons_ne_nil w ws)
    have hhead := List.head_head_splitBy isWithin hne
    simp only [hws, List.head_cons] at hhead
    rw [List.head?_eq_some_head hne, Option.any_some] at hstart
    exact ⟨t.head hne, hhead ▸ List.head_mem _, hstart⟩
  -- A later word starts behind a blank, with something else.
  generalize t.splitBy isWithin = ws at h hchain hfirst
  induction ws with
  | nil => exact absurd h List.not_mem_nil
  | cons w ws ih =>
    rw [List.isChain_cons] at hchain
    rcases List.mem_cons.1 h with rfl | h
    · exact hfirst word rfl
    · refine ih h hchain.2 fun w' hw' => ?_
      obtain ⟨_, hne, hwithin⟩ := hchain.1 w' hw'
      rw [isWithin, Bool.or_eq_false_iff] at hwithin
      exact ⟨w'.head hne, List.head_mem hne, hwithin.2⟩

theorem wordsOf_of_not_blank (hstart : t.head?.any Text.isBlank = false) :
    wordsOf t = t.splitBy isWithin := by
  rw [wordsOf]
  split
  · next blanks word words heq =>
    obtain ⟨c, hc, hink⟩ := exists_ink_of_mem_splitBy hstart (heq ▸ List.mem_cons_self)
    rw [heq, if_neg]
    intro hall
    rw [List.all_eq_true.1 hall c hc] at hink
    contradiction
  · rfl

/-- Blanks that something else comes behind are the end of a word. -/
theorem exists_wordsOf_eq (hstart : front.head?.any Text.isBlank = false) (hne : front ≠ [])
    (u : Text) : ∃ blanks words words', wordsOf (front ++ .char ' ' :: u) = words ++ words' ∧
      words.flatten = front ++ .char ' ' :: blanks ∧
      (∀ c ∈ CodePoint.char ' ' :: blanks, Text.isBlank c = true) ∧
      ∀ word ∈ words, ∃ c ∈ word, Text.isBlank c = false := by
  have hhead (v : Text) : (front ++ v).head?.any Text.isBlank = false := by
    rwa [List.head?_append_of_ne_nil _ hne]
  have hsplit : front ++ .char ' ' :: u =
      front ++ .char ' ' :: u.takeWhile Text.isBlank ++ u.dropWhile Text.isBlank := by
    rw [List.append_assoc, List.cons_append, List.takeWhile_append_dropWhile]
  have hblanks : ∀ c ∈ CodePoint.char ' ' :: u.takeWhile Text.isBlank, Text.isBlank c = true :=
    List.forall_mem_cons.2 ⟨by decide, fun c => List.mem_takeWhile_imp⟩
  refine ⟨u.takeWhile Text.isBlank,
    (front ++ .char ' ' :: u.takeWhile Text.isBlank).splitBy isWithin,
    (u.dropWhile Text.isBlank).splitBy isWithin, ?_, List.flatten_splitBy isWithin _, hblanks,
    fun word => exists_ink_of_mem_splitBy (hhead _)⟩
  rw [wordsOf_of_not_blank (hhead _), hsplit]
  refine List.splitBy_append fun x hx y hy => ?_
  have hx' : Text.isBlank x = true := by
    rw [List.getLast?_append_of_ne_nil _ (List.cons_ne_nil _ _)] at hx
    exact hblanks x (List.mem_of_getLast? hx)
  have hy' : Text.isBlank y = false := by
    have hdropped := List.head?_dropWhile_not Text.isBlank u
    rw [hy] at hdropped
    simpa using hdropped
  rw [isWithin, hx', hy']
  rfl

/-! ## Lines of words -/

/-- Put together, the lines are the words. -/
theorem flatten_fill (width : Nat) (part : Text) (used : Nat) (ss : List Sign) :
    (fill width part used ss).flatten = part ++ textOf ss := by
  induction ss generalizing part used with
  | nil => simp [fill, textOf]
  | cons s ss ih =>
    rw [fill]
    split
    · rw [ih, List.append_assoc, textOf_cons]
    · rw [List.flatten_cons, ih, textOf_cons]

theorem flatten_chop (width : Nat) (word : Text) : (chop width word).flatten = word := by
  rw [chop, flatten_fill, List.nil_append, textOf_signs]

theorem fill_ne_nil (width : Nat) (part : Text) (used : Nat) (ss : List Sign) :
    fill width part used ss ≠ [] := by
  induction ss generalizing part used with
  | nil => exact List.cons_ne_nil part []
  | cons s ss ih =>
    rw [fill]
    split
    · exact ih _ _
    · exact List.cons_ne_nil part _

/-- The parts of a word are those that are lines, and the start of another one. -/
theorem exists_chop_eq (width : Nat) (word : Text) :
    ∃ parts last, chop width word = parts ++ [last] ∧ (chop width word).getLastD [] = last ∧
      (chop width word).dropLast = parts := by
  obtain h | ⟨parts, last, h⟩ := List.eq_nil_or_concat (chop width word)
  · exact absurd h (fill_ne_nil width [] 0 _)
  · refine ⟨parts, last, by simpa using h, ?_, ?_⟩ <;> simp [h]

theorem flatten_place (width : Nat) (line : Text) (used : Nat) (words : List Text) :
    (place width line used words).flatten = line ++ words.flatten := by
  induction words generalizing line used with
  | nil => simp [place]
  | cons word words ih =>
    obtain ⟨parts, last, hparts, hlast, hinit⟩ := exists_chop_eq width word
    have hword : parts.flatten ++ last = word := by
      rw [← flatten_chop width word, hparts]
      simp
    rw [place]
    dsimp only
    split
    · rw [ih, List.append_assoc, List.flatten_cons]
    split
    · rw [List.flatten_cons, ih, List.flatten_cons]
    · rw [hlast, hinit, List.flatten_append, List.flatten_append, ih, List.flatten_cons, ← hword]
      split
      · next h => simp [h]
      · simp

theorem flatten_broken (width : Nat) (t : Text) : (broken width t).flatten = t := by
  rw [broken, flatten_place, List.nil_append, flatten_wordsOf]

theorem subset_of_mem_broken (h : u ∈ broken width t) : u ⊆ t := fun c hc => by
  rw [← flatten_broken width t]
  exact List.mem_flatten_of_mem h hc

/-- Words that have room together are on one line. -/
theorem place_of_room (h : used + room words.flatten ≤ width) (line : Text) :
    place width line used words = [line ++ words.flatten] := by
  induction words generalizing line used with
  | nil => simp [place]
  | cons word words ih =>
    rw [List.flatten_cons, room_append] at h
    have hcells := cells_le_room word
    have hsize : cells (Text.stripEnd word) ≤ room word :=
      (cells_le_room _).trans (room_mono (Text.stripEnd_prefix word))
    rw [place]
    dsimp only
    rw [if_pos (by omega), ih (by omega), List.append_assoc, List.flatten_cons]

/-- Words whose ink has room are put on the line, and the blanks behind them. -/
theorem place_append_of_room (h : used + room front ≤ width)
    (hwords : words.flatten = front ++ blanks) (hblanks : ∀ c ∈ blanks, Text.isBlank c = true)
    (hink : ∀ word ∈ words, ∃ c ∈ word, Text.isBlank c = false) (line : Text) (ws : List Text) :
    ∃ used', place width line used (words ++ ws) =
      place width (line ++ (front ++ blanks)) used' ws := by
  induction words generalizing front line used with
  | nil =>
    rw [← hwords]
    exact ⟨used, by simp⟩
  | cons word words ih =>
    obtain ⟨_, hwordsInk⟩ := List.forall_mem_cons.1 hink
    have hcells := cells_le_room word
    have hstep (hsize : cells (Text.stripEnd word) ≤ room front) :
        place width line used (word :: words ++ ws) =
          place width (line ++ word) (used + cells word) (words ++ ws) := by
      rw [List.cons_append, place]
      exact if_pos (by omega)
    rw [List.flatten_cons] at hwords
    rcases List.append_eq_append_iff.1 hwords with ⟨v, rfl, hrest⟩ | ⟨v, rfl, hrest⟩
    · -- The word ends in front of the blanks.
      have hsize : cells (Text.stripEnd word) ≤ room (word ++ v) :=
        (cells_le_room _).trans (room_mono
          ((Text.stripEnd_prefix word).trans (List.prefix_append word v)))
      rw [room_append] at h
      have hroom : used + cells word + room v ≤ width := by omega
      obtain ⟨used', hplace⟩ := ih hroom hrest hwordsInk (line ++ word)
      exact ⟨used', by rw [hstep hsize, hplace, List.append_assoc, List.append_assoc]⟩
    · -- The word goes on with the blanks, and there is no other one.
      have hv : ∀ c ∈ v, Text.isBlank c = true := fun c hc =>
        hblanks c (hrest ▸ List.mem_append_left _ hc)
      have hsize : cells (Text.stripEnd (front ++ v)) ≤ room front := by
        rw [Text.stripEnd_append_of_blank hv]
        exact (cells_le_room _).trans (room_mono (Text.stripEnd_prefix front))
      have hnone : words = [] := by
        refine List.eq_nil_iff_forall_not_mem.2 fun w hw => ?_
        obtain ⟨c, hc, hnot⟩ := hwordsInk w hw
        rw [hblanks c (hrest ▸ List.mem_append_right _ (List.mem_flatten_of_mem hw hc))] at hnot
        contradiction
      subst hnone
      rw [List.flatten_nil, List.append_nil] at hrest
      exact ⟨_, by rw [hstep hsize, hrest, List.nil_append]⟩

/-- What is on a line stays at its start. -/
theorem exists_place_eq (hne : t ≠ []) (width used : Nat) (words : List Text) :
    ∃ more lines, place width t used words = (t ++ more) :: lines := by
  induction words generalizing t used with
  | nil => exact ⟨[], [], by simp [place]⟩
  | cons word words ih =>
    rw [place]
    dsimp only
    split
    · obtain ⟨more, lines, h⟩ := ih (t := t ++ word) (by simp [hne]) (used + cells word)
      exact ⟨word ++ more, lines, by rw [h, List.append_assoc]⟩
    split
    · exact ⟨[], _, by rw [List.append_nil]⟩
    · exact ⟨[], _, by rw [List.append_nil]; rfl⟩

/-! ## Texts that have room -/

theorem broken_of_room (h : room t ≤ width) : broken width t = [t] := by
  rw [broken, place_of_room (by rwa [flatten_wordsOf, Nat.zero_add]), flatten_wordsOf,
    List.nil_append]

theorem printed_of_fits {columns : Option Width} (h : Fits columns t) : printed columns t = t := by
  cases columns with
  | none => rfl
  | some w =>
    have hlines : ((Text.pieces '\n' t).flatMap (broken w.cells)).map (printedLine w.cells) =
        Text.pieces '\n' t := by
      have hroom := h w rfl
      generalize Text.pieces '\n' t = lines at hroom
      induction lines with
      | nil => rfl
      | cons line lines ih =>
        obtain ⟨hline, hlines⟩ := List.forall_mem_cons.1 hroom
        rw [List.flatMap_cons, broken_of_room hline, List.map_append, ih hlines, List.map_singleton,
          printedLine_of_room hline]
        rfl
    rw [printed, hlines]
    exact Text.intercalate_pieces '\n' t

/-- What a text starts with stays in one piece in front of a blank, if it has room. -/
theorem prefix_printed {columns : Option Width} (hne : front ≠ [])
    (hstart : front.head?.any Text.isBlank = false) (hend : Text.stripEnd front = front)
    (hjoiner : joiner ∉ front) (hline : .char '\n' ∉ front) (h : Fits columns front) (u : Text) :
    front <+: printed columns (front ++ .char ' ' :: u) := by
  cases columns with
  | none => exact List.prefix_append ..
  | some w =>
    have hroom : room front ≤ w.cells := h w rfl front (by
      rw [Text.pieces_of_not_mem hline]
      exact List.mem_singleton_self front)
    have hblank : .char '\n' ∉ front ++ [.char ' '] := by simpa using hline
    obtain ⟨v, lines, hlines⟩ := Text.exists_pieces_append hblank u
    rw [List.append_assoc, List.append_assoc, List.singleton_append, List.singleton_append]
      at hlines
    obtain ⟨blanks, words, words', hwords, hflatten, hblanks, hink⟩ :=
      exists_wordsOf_eq hstart hne v
    have hused : 0 + room front ≤ w.cells := by rwa [Nat.zero_add]
    obtain ⟨used, hplace⟩ := place_append_of_room hused hflatten hblanks hink [] words'
    obtain ⟨more, others, hfirst⟩ := exists_place_eq (t := [] ++ (front ++ .char ' ' :: blanks))
      (by simp) w.cells used words'
    have hprinted := prefix_printedLine hne hjoiner hend hroom (blanks ++ more)
    rw [printed, hlines, List.flatMap_cons, broken, hwords, hplace, hfirst]
    simp only [List.nil_append, List.append_assoc, List.cons_append, List.map_cons]
    exact hprinted.trans (Text.prefix_joined_cons ..)

/-! ## Characters of broken lines -/

/-- No character comes in but blanks and line ends. -/
theorem mem_printed {columns : Option Width} (h : c ∈ printed columns t) :
    c ∈ t ∨ c = ' ' ∨ c = '\n' := by
  cases columns with
  | none => exact .inl h
  | some w =>
    have hbetween : ∀ c ∈ Text.ofString "\n", c ∈ t ∨ c = ' ' ∨ c = '\n' := fun c hc =>
      .inr (.inr (List.mem_singleton.1 hc))
    refine Text.forall_mem_joined hbetween (List.forall_mem_map.2 fun line hline d hd => ?_) c h
    obtain ⟨piece, hpiece, hline⟩ := List.mem_flatMap.1 hline
    exact (mem_printedLine hd).imp
      (fun hd => Text.subset_of_mem_pieces hpiece (subset_of_mem_broken hline hd)) .inl

theorem isWhole_printed (columns : Option Width) (h : t.IsWhole) :
    Text.IsWhole (printed columns t) := by
  intro c hc
  rcases mem_printed hc with hc | rfl | rfl
  · exact h c hc
  · rfl
  · rfl

end Depot.Console
