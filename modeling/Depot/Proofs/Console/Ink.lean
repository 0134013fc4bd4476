import Depot.Proofs.Console.Lines

/-!
# What is left of broken lines

Where a line is broken, blanks go and line ends come. They are all that changes in a text
whose characters take cells of their own (`IsSeparate`): what else there is, its `ink`, is
the same in the same order (`ink_printed`). It rests on two facts about the lines that words
are placed on: put together they are the words (`flatten_place`), and each of them fits but
for the blanks at its end (`cells_stripEnd_le_of_mem_place`). These go where the line is cut
at the width of the console, and so no line is wider (`cells_le_of_mem_printed`).
-/

namespace Depot.Text

variable {c : CodePoint} {t : Text}

/-! ## Ink -/

/-- The characters of a text that are no blanks. -/
def ink (t : Text) : Text := t.filter fun c => !isBlank c

theorem ink_append (t u : Text) : ink (t ++ u) = ink t ++ ink u := List.filter_append ..

theorem ink_flatten (ts : List Text) : ink ts.flatten = (ts.map ink).flatten :=
  List.filter_flatten ..

/-- The numbers of the halves of surrogate pairs lie apart from those of the blanks. -/
theorem isBlank_eq_false_of_isHalf (h : c.isHalf = true) : isBlank c = false := by
  cases c with
  | char c => contradiction
  | half n =>
    have hlow : 0xd800 ≤ (CodePoint.half n).toNat := Nat.le_add_right ..
    simp only [isBlank, Bool.or_eq_false_iff, Bool.and_eq_false_iff, decide_eq_false_iff_not]
    have hhigh : (CodePoint.half n).toNat < 0xe000 := Nat.add_lt_add_left n.isLt 0xd800
    omega

theorem ink_eq_nil (h : ∀ c ∈ t, isBlank c = true) : ink t = [] :=
  List.filter_eq_nil_iff.2 fun c hc => by simp [h c hc]

theorem ink_joined {between : Text} (h : ink between = []) (ts : List Text) :
    ink (joined between ts) = (ts.map ink).flatten := by
  induction ts with
  | nil => rfl
  | cons t ts ih =>
    cases ts with
    | nil => simp [joined_singleton]
    | cons u ts =>
      rw [joined_cons_cons, ink_append, ink_append, h, ih]
      rfl

end Depot.Text

namespace Depot.Console

variable {t u blanks : Text} {c : CodePoint} {width used : Nat} {words : List Text}

/-! ## Characters with cells of their own -/

/-- Every character takes cells of its own: none joins others, and none changes how another
    one looks. -/
def IsSeparate (t : Text) : Prop := ∀ c ∈ t, c ≠ joiner ∧ c ≠ Emoji.emojiLook

instance (t : Text) : Decidable (IsSeparate t) := inferInstanceAs (Decidable (∀ c ∈ t, _))

theorem isSeparate_append : IsSeparate (t ++ u) ↔ IsSeparate t ∧ IsSeparate u :=
  List.forall_mem_append

theorem IsSeparate.subset (h : IsSeparate t) (hu : u ⊆ t) : IsSeparate u := fun c hc => h c (hu hc)

theorem characterCells_le_two (c : CodePoint) : characterCells c ≤ 2 := by
  rw [characterCells]
  split
  · decide
  split
  · decide
  split
  · decide
  split <;> decide

theorem cellsAfter_of_isSeparate (h : IsSeparate t) (last : Option CodePoint) :
    cellsAfter last t = (t.map characterCells).sum := by
  induction t generalizing last with
  | nil => rfl
  | cons c t ih =>
    obtain ⟨⟨hjoiner, hlook⟩, ht⟩ := List.forall_mem_cons.1 h
    rw [cellsAfter.eq_def]
    simp only [if_neg hjoiner, if_neg hlook, ih ht]
    rfl

theorem cells_append (h : IsSeparate (t ++ u)) : cells (t ++ u) = cells t + cells u := by
  obtain ⟨ht, hu⟩ := isSeparate_append.1 h
  rw [cells, cells, cells, cellsAfter_of_isSeparate h, cellsAfter_of_isSeparate ht,
    cellsAfter_of_isSeparate hu, List.map_append, List.sum_append]

theorem cells_mono (h : IsSeparate u) (ht : t <+: u) : cells t ≤ cells u := by
  obtain ⟨v, rfl⟩ := ht
  rw [cells_append h]
  exact Nat.le_add_right ..

theorem cells_cons (h : IsSeparate (c :: t)) : cells (c :: t) = characterCells c + cells t := by
  rw [cells, cells, cellsAfter_of_isSeparate h,
    cellsAfter_of_isSeparate (List.forall_mem_cons.1 h).2]
  rfl

/-- Blanks behind a text come behind its signs. -/
theorem exists_signsAfter_append (h : IsSeparate (t ++ blanks)) (s : Sign)
    (last : Option CodePoint) : ∃ ss ss', signsAfter s last (t ++ blanks) = ss ++ ss' ∧
      sizeOf ss = s.cells + cells t ∧ ∀ c ∈ textOf ss', c ∈ blanks := by
  induction t generalizing s last with
  | nil =>
    -- Those that take no cell go with the last sign.
    induction blanks generalizing s last with
    | nil => exact ⟨[s], [], rfl, rfl, List.forall_mem_nil _⟩
    | cons c blanks ih =>
      obtain ⟨⟨hjoiner, hlook⟩, hblanks⟩ := List.forall_mem_cons.1 h
      rw [List.nil_append, signsAfter_cons hjoiner hlook]
      split
      · obtain ⟨ss, ss', heq, hsize, hmem⟩ := ih hblanks { s with text := s.text ++ [c] } last
        exact ⟨ss, ss', heq, hsize, fun d hd => List.mem_cons_of_mem c (hmem d hd)⟩
      · refine ⟨[s], _, rfl, rfl, fun d hd => ?_⟩
        rwa [textOf_signsAfter] at hd
  | cons c t ih =>
    obtain ⟨⟨hjoiner, hlook⟩, ht⟩ := List.forall_mem_cons.1 h
    have hcells := cells_cons (isSeparate_append.1 h).1
    rw [List.cons_append, signsAfter_cons hjoiner hlook]
    split
    · next hzero =>
      obtain ⟨ss, ss', heq, hsize, hmem⟩ := ih ht { s with text := s.text ++ [c] } last
      exact ⟨ss, ss', heq, by simp only at hsize; omega, hmem⟩
    · obtain ⟨ss, ss', heq, hsize, hmem⟩ := ih ht ⟨[c], characterCells c⟩ (some c)
      exact ⟨s :: ss, ss', by rw [heq]; rfl, by rw [sizeOf_cons]; simp only at hsize; omega, hmem⟩

theorem exists_signs_append (h : IsSeparate (t ++ blanks)) :
    ∃ ss ss', signs (t ++ blanks) = ss ++ ss' ∧ sizeOf ss = cells t ∧
      ∀ c ∈ textOf ss', c ∈ blanks := by
  cases t with
  | nil => exact ⟨[], signs blanks, rfl, rfl, fun c hc => by rwa [textOf_signs] at hc⟩
  | cons c t =>
    obtain ⟨ss, ss', heq, hsize, hmem⟩ := exists_signsAfter_append (List.forall_mem_cons.1 h).2
      ⟨[c], characterCells c⟩ (if characterCells c = 0 then none else some c)
    exact ⟨ss, ss', heq, hsize.trans (cells_cons (isSeparate_append.1 h).1).symm, hmem⟩

/-! ## What is lost where lines are broken -/

/-- A line that fits without the blanks at its end loses only blanks. -/
theorem ink_printedLine (h : IsSeparate t) (hcells : cells (Text.stripEnd t) ≤ width) :
    Text.ink (printedLine width t) = Text.ink t := by
  obtain ⟨blanks, ht, hblanks⟩ := Text.exists_eq_stripEnd_append t
  obtain ⟨v, hv⟩ := stripEnd_prefix_trimmed width t
  have htrimmed : trimmed width t <+: t := List.take_prefix ..
  have hvblank : ∀ c ∈ v, Text.isBlank c = true := by
    rw [← hv] at htrimmed
    conv at htrimmed => rhs; rw [ht]
    exact fun c hc => hblanks c (((List.prefix_append_right_inj _).1 htrimmed).subset hc)
  have hink : Text.ink t = Text.ink (Text.stripEnd t) := by
    conv_lhs => rw [ht]
    rw [Text.ink_append, Text.ink_eq_nil hblanks, List.append_nil]
  rw [printedLine, crop, hink]
  split
  · rw [← hv, Text.ink_append, Text.ink_eq_nil hvblank, List.append_nil]
  · have hsep : IsSeparate (Text.stripEnd t ++ v) := hv ▸ h.subset htrimmed.subset
    obtain ⟨ss, ss', heq, hsize, hmem⟩ := exists_signs_append hsep
    have hsigns := congrArg (fun ss => Text.ink (textOf ss)) heq
    simp only [textOf_signs, textOf_append, Text.ink_append] at hsigns
    have hrest : Text.ink (textOf ss') = [] := Text.ink_eq_nil fun c hc => hvblank c (hmem c hc)
    have hcut : Text.ink (fit (width - sizeOf ss) ss') = [] := Text.ink_eq_nil fun c hc => by
      rcases mem_fit hc with hc | rfl
      · exact hvblank c (hmem c hc)
      · decide
    rw [← hv, heq, fit_append (hsize ▸ hcells), Text.ink_append, hcut, ← hrest, ← hsigns,
      Text.ink_eq_nil hvblank, List.append_nil]

/-- The signs of such a text have the cells of their texts, two at the most. -/
theorem cells_of_mem_signsAfter (h : IsSeparate t) {s s' : Sign} {last : Option CodePoint}
    (hs : IsSeparate s.text) (hcells : cells s.text = s.cells) (htwo : s.cells ≤ 2)
    (hmem : s' ∈ signsAfter s last t) :
    IsSeparate s'.text ∧ cells s'.text = s'.cells ∧ s'.cells ≤ 2 := by
  induction t generalizing s last with
  | nil =>
    obtain rfl := List.mem_singleton.1 hmem
    exact ⟨hs, hcells, htwo⟩
  | cons c t ih =>
    obtain ⟨hc, ht⟩ := List.forall_mem_cons.1 h
    have hone : IsSeparate [c] := List.forall_mem_singleton.2 hc
    rw [signsAfter_cons hc.1 hc.2] at hmem
    split at hmem
    · next hzero =>
      have hall : IsSeparate (s.text ++ [c]) := isSeparate_append.2 ⟨hs, hone⟩
      have hcell : cells [c] = 0 := (cells_cons hone).trans (by rw [hzero]; rfl)
      have hsize : cells (s.text ++ [c]) = s.cells := by
        rw [cells_append hall, hcells, hcell, Nat.add_zero]
      exact ih (s := { s with text := s.text ++ [c] }) ht hall hsize htwo hmem
    · rcases List.mem_cons.1 hmem with rfl | hmem
      · exact ⟨hs, hcells, htwo⟩
      · exact ih ht hone (cells_cons hone) (characterCells_le_two c) hmem

theorem cells_of_mem_signs (h : IsSeparate t) {s : Sign} (hmem : s ∈ signs t) :
    IsSeparate s.text ∧ cells s.text = s.cells ∧ s.cells ≤ 2 := by
  cases t with
  | nil => exact absurd hmem List.not_mem_nil
  | cons c t =>
    obtain ⟨hc, ht⟩ := List.forall_mem_cons.1 h
    have hone : IsSeparate [c] := List.forall_mem_singleton.2 hc
    exact cells_of_mem_signsAfter ht hone (cells_cons hone) (characterCells_le_two c) hmem

/-- The parts of a word fit, each in a line. -/
theorem cells_le_of_mem_fill {ss : List Sign} {part : Text} (htwo : 2 ≤ width)
    (hss : ∀ s ∈ ss, IsSeparate s.text ∧ cells s.text = s.cells ∧ s.cells ≤ 2)
    (hpart : IsSeparate part) (hcells : cells part = used) (hused : used ≤ width)
    (hmem : t ∈ fill width part used ss) : cells t ≤ width := by
  induction ss generalizing part used with
  | nil => rwa [List.mem_singleton.1 hmem, hcells]
  | cons s ss ih =>
    obtain ⟨⟨hs, hsize, hle⟩, hss⟩ := List.forall_mem_cons.1 hss
    rw [fill] at hmem
    split at hmem
    · next hfits =>
      have hall : IsSeparate (part ++ s.text) := isSeparate_append.2 ⟨hpart, hs⟩
      exact ih hss hall (by rw [cells_append hall, hcells, hsize]) hfits hmem
    · rcases List.mem_cons.1 hmem with rfl | hmem
      · rwa [hcells]
      · exact ih hss hs hsize (hle.trans htwo) hmem

/-- Lines of words fit but for the blanks at their ends. -/
theorem cells_stripEnd_le_of_mem_place {line : Text} (htwo : 2 ≤ width) (hsep : IsSeparate line)
    (hwords : ∀ word ∈ words, IsSeparate word) (hcells : cells line = used)
    (hline : cells (Text.stripEnd line) ≤ width) (hmem : t ∈ place width line used words) :
    cells (Text.stripEnd t) ≤ width := by
  induction words generalizing line used with
  | nil => rwa [List.mem_singleton.1 hmem]
  | cons word words ih =>
    obtain ⟨hword, hwords⟩ := List.forall_mem_cons.1 hwords
    have hboth : IsSeparate (line ++ word) := isSeparate_append.2 ⟨hsep, hword⟩
    rw [place] at hmem
    dsimp only at hmem
    split at hmem
    · next hfits =>
      refine ih hboth hwords (by rw [cells_append hboth, hcells]) ?_ hmem
      rw [Text.stripEnd_append]
      split
      · exact hline
      · have hstripped : IsSeparate (line ++ Text.stripEnd word) :=
          isSeparate_append.2 ⟨hsep, hword.subset (Text.stripEnd_prefix word).subset⟩
        rwa [cells_append hstripped, hcells]
    split at hmem
    · next hfits =>
      rcases List.mem_cons.1 hmem with rfl | hmem
      · exact hline
      · exact ih hword hwords rfl hfits hmem
    -- The word is broken into parts that fit, of which the last one starts a line.
    obtain ⟨parts, last, hparts, hlast, hinit⟩ := exists_chop_eq width word
    have hfits : ∀ part ∈ parts ++ [last], IsSeparate part ∧ cells part ≤ width := by
      rw [← hparts]
      refine fun part hpart => ⟨hword.subset fun c hc => ?_, ?_⟩
      · rw [← flatten_chop width word]
        exact List.mem_flatten_of_mem hpart hc
      · exact cells_le_of_mem_fill htwo (fun s => cells_of_mem_signs hword)
          (List.forall_mem_nil _) rfl (Nat.zero_le _) hpart
    have hstripped (part : Text) (hpart : part ∈ parts ++ [last]) :
        cells (Text.stripEnd part) ≤ width :=
      (cells_mono (hfits part hpart).1 (Text.stripEnd_prefix part)).trans
        (hfits part hpart).2
    have hend : last ∈ parts ++ [last] := by simp
    rw [hlast, hinit, List.append_assoc, List.mem_append, List.mem_append] at hmem
    rcases hmem with hmem | hmem | hmem
    · split at hmem
      · exact absurd hmem List.not_mem_nil
      · rwa [List.mem_singleton.1 hmem]
    · exact hstripped t (List.mem_append_left _ hmem)
    · exact ih (hfits last hend).1 hwords rfl (hstripped last hend) hmem

theorem ink_broken (w : Width) (h : IsSeparate t) :
    (((broken w.cells t).map (printedLine w.cells)).map Text.ink).flatten = Text.ink t := by
  have hwords : ∀ word ∈ wordsOf t, IsSeparate word := fun word hword => h.subset fun c hc => by
    rw [← flatten_wordsOf t]
    exact List.mem_flatten_of_mem hword hc
  have hlines : ∀ line ∈ broken w.cells t,
      (Text.ink ∘ printedLine w.cells) line = Text.ink line := by
    intro line hline
    exact ink_printedLine (h.subset (subset_of_mem_broken hline)) (cells_stripEnd_le_of_mem_place w.two_le (List.forall_mem_nil _)
      hwords rfl (Nat.zero_le _) hline)
  rw [List.map_map, List.map_congr_left hlines, ← Text.ink_flatten, flatten_broken]

/-- Breaking lines changes blanks alone. -/
theorem ink_printed (columns : Option Width) (h : IsSeparate t) :
    Text.ink (printed columns t) = Text.ink t := by
  cases columns with
  | none => rfl
  | some w =>
    have hbetween : Text.ink (Text.ofString "\n") = [] := by decide
    have hpieces : ∀ piece ∈ Text.pieces '\n' t, IsSeparate piece := fun piece hpiece =>
      h.subset (Text.subset_of_mem_pieces hpiece)
    have ht : Text.ink t = ((Text.pieces '\n' t).map Text.ink).flatten := by
      conv_lhs => rw [← Text.intercalate_pieces '\n' t]
      exact Text.ink_joined hbetween _
    rw [printed, Text.ink_joined hbetween, ht]
    generalize Text.pieces '\n' t = pieces at hpieces
    induction pieces with
    | nil => rfl
    | cons piece pieces ih =>
      obtain ⟨hpiece, hpieces⟩ := List.forall_mem_cons.1 hpieces
      rw [List.flatMap_cons, List.map_append, List.map_append, List.flatten_append,
        ink_broken w hpiece, ih hpieces]
      rfl

/-! ## Lines as wide as the console -/

/-- What there is room for takes no more. -/
theorem cells_fit_le {ss : List Sign}
    (hss : ∀ s ∈ ss, IsSeparate s.text ∧ cells s.text = s.cells ∧ s.cells ≤ 2) (space : Nat) :
    IsSeparate (fit space ss) ∧ cells (fit space ss) ≤ space := by
  induction ss generalizing space with
  | nil => exact ⟨List.forall_mem_nil _, Nat.zero_le _⟩
  | cons s ss ih =>
    obtain ⟨⟨hs, hsize, _⟩, hss⟩ := List.forall_mem_cons.1 hss
    rw [fit]
    split
    · next hle =>
      obtain ⟨hrest, hcells⟩ := ih hss (space - s.cells)
      have hall : IsSeparate (s.text ++ fit (space - s.cells) ss) :=
        isSeparate_append.2 ⟨hs, hrest⟩
      exact ⟨hall, by rw [cells_append hall, hsize]; omega⟩
    split
    · exact ⟨List.forall_mem_nil _, Nat.zero_le _⟩
    · next hne => exact ⟨by decide, Nat.one_le_iff_ne_zero.2 hne⟩

theorem cells_printedLine_le (h : IsSeparate t) (width : Nat) :
    cells (printedLine width t) ≤ width := by
  have hsep : IsSeparate (trimmed width t) := h.subset (List.take_subset _ _)
  rw [printedLine, crop]
  split
  · assumption
  · exact (cells_fit_le (fun s => cells_of_mem_signs hsep) width).2

/-- No line that is printed is wider than the console. -/
theorem cells_le_of_mem_printed {w : Width} {line : Text} (h : IsSeparate t)
    (hline : line ∈ Text.pieces '\n' (printed (some w) t)) : cells line ≤ w.cells := by
  let lines := ((Text.pieces '\n' t).flatMap (broken w.cells)).map (printedLine w.cells)
  have hlines : ∀ line ∈ lines, .char '\n' ∉ line ∧ cells line ≤ w.cells := by
    refine List.forall_mem_map.2 fun part hpart => ?_
    obtain ⟨piece, hpiece, hpart⟩ := List.mem_flatMap.1 hpart
    have hsubset := subset_of_mem_broken hpart
    refine ⟨fun hend => ?_, cells_printedLine_le
      (h.subset (List.Subset.trans hsubset (Text.subset_of_mem_pieces hpiece))) _⟩
    rcases mem_printedLine hend with hend | hend
    · exact Text.not_mem_of_mem_pieces hpiece (hsubset hend)
    · contradiction
  change line ∈ Text.pieces '\n' (Text.joined ['\n'] lines) at hline
  by_cases hnil : lines = []
  · rw [hnil] at hline
    rw [List.mem_singleton.1 hline]
    exact Nat.zero_le _
  · rw [Text.pieces_joined hnil fun line hline => (hlines line hline).1] at hline
    exact (hlines line hline).2

end Depot.Console
