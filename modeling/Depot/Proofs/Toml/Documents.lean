import Depot.Proofs.Text.Halves
import Depot.Proofs.Toml.Values

/-!
# Reading sections back

Sections whose names, and the names of whose settings, need no quotes and are distinct are
read back from their text (`parse_render`).

A document under way `Holds` the sections read so far. The header of a section opens a new
table behind them (`Holds.openTable`), and a line of a setting adds to the last of them
(`Holds.assign`); what may not be added to are only lists, at addresses of two names. So the
text of a section leads from a document that holds the sections before it to one that holds
this one too (`leadsTo_render`), and the whole text to one that holds all of them.
-/

namespace Depot.Toml

variable {d d' : Draft} {ss : List Section} {name k : Text} {s : Setting}
  {ps : List (Text × Setting)} {ms inner : Members} {f : Members → Option Members} {t rest : Text}

/-! ## Tables with a name -/

/-- A table that is missing is made behind the others. -/
theorem update_of_not_mem (h : name ∉ ms.map (·.1)) :
    update f [name] ms = (f []).map fun inner => ms ++ [(name, .table inner)] := by
  have hfind : ms.find? (fun m => m.1 = name) = none := by
    rw [List.find?_eq_none]
    exact fun m hm heq => h (of_decide_eq_true heq ▸ List.mem_map_of_mem hm)
  simp only [update, hfind, Option.map_none]

/-- The last table is changed in its place. -/
theorem update_append (h : name ∉ ms.map (·.1)) :
    update f [name] (ms ++ [(name, .table inner)]) =
      (f inner).map fun inner => ms ++ [(name, .table inner)] := by
  have hne : ∀ m ∈ ms, m.1 ≠ name := fun m hm heq => h (heq ▸ List.mem_map_of_mem hm)
  have hfind : (ms ++ [(name, Value.table inner)]).find? (fun m => m.1 = name) =
      some (name, .table inner) := by
    rw [List.find?_append, List.find?_eq_none.2 fun m hm => by simpa using hne m hm]
    simp
  have hreplace (v : Value) :
      update.replace name v (ms ++ [(name, .table inner)]) = ms ++ [(name, v)] := by
    rw [update.replace, List.map_append]
    congr 1
    · exact (List.map_congr_left fun m hm => if_neg (hne m hm)).trans (List.map_id ms)
    · simp
  simp only [update, hfind, Option.map_some, hreplace]

/-! ## Documents under way -/

/-- The members of a document under way are these sections, and nothing is on the way that
    keeps further sections or settings from being added. -/
structure Draft.Holds (d : Draft) (ss : List Section) : Prop where
  root : d.root = ss.map Section.toMember
  declared : ∀ a ∈ d.declared, ∃ s ∈ ss, a = [s.name]
  pending : d.pending = []
  closed : ∀ a ∈ d.closed, a.length = 2

namespace Draft.Holds

theorem empty : Draft.empty.Holds [] where
  root := rfl
  declared := List.forall_mem_nil _
  pending := rfl
  closed := List.forall_mem_nil _

/-- A section may be added to. -/
theorem isClosed_eq_false (h : d.Holds ss) (name : Text) : d.isClosed [name] = false := by
  rw [Draft.isClosed, List.any_eq_false]
  intro a ha hprefix
  have hle := (List.isPrefixOf_iff_prefix.1 hprefix).length_le
  rw [h.closed a ha, List.length_singleton] at hle
  exact absurd hle (by decide)

theorem not_mem_root (h : d.Holds ss) (hname : name ∉ ss.map (·.name)) :
    name ∉ d.root.map (·.1) := by
  rw [h.root, List.map_map]
  exact hname

theorem endSection (h : d.Holds ss) : d.endSection = d := by
  have hpending := h.pending
  obtain ⟨root, header, declared, closed, pending⟩ := d
  subst hpending
  rfl

/-- A header with a new name opens a section. -/
theorem openTable (h : d.Holds ss) (hname : name ∉ ss.map (·.name)) :
    ∃ d', d.openTable ⟨[], name⟩ = .ok d' ∧ d'.Holds (ss ++ [⟨name, []⟩]) ∧
      d'.header = [name] := by
  have hdeclared : [name] ∉ d.declared := fun hmem => by
    obtain ⟨s, hs, heq⟩ := h.declared _ hmem
    exact hname ((List.cons.inj heq).1 ▸ List.mem_map_of_mem hs)
  refine ⟨{ d with
    root := d.root ++ [(name, .table [])], header := [name], declared := [name] :: d.declared },
    ?opens, ⟨?root, ?declared, h.pending, h.closed⟩, rfl⟩
  case opens =>
    have hfree : ¬([name] ∈ d.declared ∨ d.isClosed [name]) := by
      simp [hdeclared, h.isClosed_eq_false]
    simp only [Draft.openTable, h.endSection, Key.address, List.nil_append, if_neg hfree,
      update_of_not_mem (h.not_mem_root hname), Option.map_some]
  case root =>
    rw [h.root, List.map_append]
    rfl
  case declared =>
    intro a ha
    rcases List.mem_cons.1 ha with rfl | ha
    · exact ⟨⟨name, []⟩, List.mem_append_right _ List.mem_cons_self, rfl⟩
    · obtain ⟨s, hs, heq⟩ := h.declared a ha
      exact ⟨s, List.mem_append_left _ hs, heq⟩

/-- A setting with a new name is added to the last section. -/
theorem assign (h : d.Holds (ss ++ [⟨name, ps⟩])) (hheader : d.header = [name])
    (hname : name ∉ ss.map (·.name)) (hk : k ∉ ps.map (·.1)) (s : Setting) :
    ∃ d', d.assign ⟨[], k⟩ s.toValue = .ok d' ∧ d'.Holds (ss ++ [⟨name, ps ++ [(k, s)]⟩]) ∧
      d'.header = [name] := by
  have hroot : d.root = ss.map Section.toMember ++
      [(name, .table (ps.map fun p => (p.1, p.2.toValue)))] := by
    rw [h.root, List.map_append]
    rfl
  have hdefine : define k s.toValue (ps.map fun p => (p.1, p.2.toValue)) =
      some ((ps ++ [(k, s)]).map fun p => (p.1, p.2.toValue)) := by
    rw [define, if_neg, List.map_append]
    · rfl
    · rw [List.any_map, Bool.not_eq_true, List.any_eq_false]
      exact fun p hp heq => hk (of_decide_eq_true heq ▸ List.mem_map_of_mem hp)
  have hupdate : update (define k s.toValue) [name] d.root =
      some ((ss ++ [Section.mk name (ps ++ [(k, s)])]).map Section.toMember) := by
    rw [hroot, update_append (by rw [List.map_map]; exact hname), hdefine]
    simp [Section.toMember]
  refine ⟨{ d with
    root := (ss ++ [Section.mk name (ps ++ [(k, s)])]).map Section.toMember
    -- A list is closed at its own address, which has two names: no section is closed with it.
    closed := if Draft.closes s.toValue then [name, k] :: d.closed else d.closed },
    ?assign, ⟨rfl, ?declared, h.pending, ?closed⟩, hheader⟩
  case assign =>
    simp only [Draft.assign, List.length_nil, List.range_zero, List.map_nil, List.find?_nil,
      hheader, List.append_nil, h.isClosed_eq_false, hupdate, Key.address, List.nil_append,
      List.singleton_append]
    rfl
  case declared =>
    intro a ha
    obtain ⟨s', hs', rfl⟩ := h.declared a ha
    rcases List.mem_append.1 hs' with hs' | hs'
    · exact ⟨s', List.mem_append_left _ hs', rfl⟩
    · obtain rfl := List.mem_singleton.1 hs'
      exact ⟨_, List.mem_append_right _ List.mem_cons_self, rfl⟩
  case closed =>
    intro a ha
    split at ha
    · rcases List.mem_cons.1 ha with rfl | ha
      · rfl
      · exact h.closed a ha
    · exact h.closed a ha

end Draft.Holds

/-! ## Statements -/

theorem ne_of_isBare {c a : CodePoint} (hc : isBare c) (ha : isBare a = false) : c ≠ a :=
  fun h => Bool.noConfusion (ha.symm.trans (h ▸ hc))

theorem skip_of_isBare (h : IsBare name) (rest : Text) : skip (name ++ rest) = name ++ rest := by
  obtain ⟨c, t, rfl, hc⟩ := h.exists_cons
  have hblank : ¬isBlank c := by
    simp [isBlank, ne_of_isBare hc (a := .char ' ') rfl, ne_of_isBare hc (a := .char '\t') rfl]
  exact List.dropWhile_cons_of_neg hblank

theorem readStatement_header (h : IsBare name) (hopen : d.openTable ⟨[], name⟩ = .ok d')
    (rest : Text) :
    readStatement d (.char '[' :: (name ++ "]\n" ++ rest)) = .ok (d', .char '\n' :: rest) := by
  have hread : readStatement d (.char '[' :: (name ++ "]\n" ++ rest)) =
      readHeader Draft.openTable [.char ']'] .tableEnd d (name ++ ("]\n" ++ rest)) := by
    obtain ⟨c, t, rfl, hc⟩ := h.exists_cons
    have hne : c ≠ '[' := ne_of_isBare hc rfl
    rw [List.append_assoc, readStatement.eq_def]
    split <;> simp_all
  obtain ⟨fuel, hfuel⟩ : ∃ fuel, (name ++ ("]\n" ++ rest)).length = fuel + 1 :=
    Nat.exists_eq_add_one_of_ne_zero (by simp [h.1])
  have hskip : skip ("]\n" ++ rest) = .char ']' :: .char '\n' :: rest := rfl
  rw [hread, readHeader, skip_of_isBare h, hfuel,
    readKey_of_isBare h rfl (by simp [hskip]) fuel, hskip]
  simp only [hopen, atPlace]
  rfl

/-- A line gives a setting its value. -/
theorem readStatement_setting (h : IsBare k) (hassign : d.assign ⟨[], k⟩ s.toValue = .ok d')
    (rest : Text) :
    readStatement d (renderSetting (k, s) ++ rest) = .ok (d', .char '\n' :: rest) := by
  have htext : renderSetting (k, s) ++ rest = k ++ " = " ++ (s.render ++ .char '\n' :: rest) := by
    simp only [renderSetting, List.append_assoc]
    rfl
  have hassigned : readAssigned (renderSetting (k, s) ++ rest) =
      .ok (⟨[], k⟩, s.render ++ .char '\n' :: rest) := by
    rw [htext, readAssigned_of_isBare h, skip_render_append]
  have hvalue : readValue maxDepth (2 * (s.render ++ .char '\n' :: rest).length + 2)
      (s.render ++ .char '\n' :: rest) = .ok (s.toValue, .char '\n' :: rest) :=
    readValue_render s rest (by decide) (by rw [List.length_append]; omega)
  obtain ⟨c, t, rfl, hc⟩ := h.exists_cons
  have hline : c ≠ '\n' := ne_of_isBare hc rfl
  have hcomment : c ≠ '#' := ne_of_isBare hc rfl
  have hheader : c ≠ '[' := ne_of_isBare hc rfl
  rw [htext] at hassigned ⊢
  -- No other statement starts with a character of a bare key.
  rw [readStatement.eq_def]
  split
  case h_6 heq =>
    obtain rfl := (List.cons.inj heq).1
    rw [if_pos (by simp [hc]), hassigned]
    simp only [hvalue, hassign, atPlace]
    rfl
  all_goals simp_all

/-! ## Lines -/

/-- The lines of a text lead from one document under way to another. -/
def LeadsTo (d : Draft) (t : Text) (d' : Draft) : Prop :=
  ∀ fuel, t.length < fuel → readStatements fuel d t = .ok d'

theorem leadsTo_nil (d : Draft) : LeadsTo d [] d
  | 0, hf => absurd hf (Nat.lt_irrefl 0)
  | _ + 1, _ => rfl

/-- What comes behind the line of a statement is led on from there. -/
theorem LeadsTo.line {d'' : Draft} (hskip : skip t = t)
    (hread : readStatement d t = .ok (d', .char '\n' :: rest)) (hlt : rest.length < t.length)
    (h : LeadsTo d' rest d'') : LeadsTo d t d'' := by
  intro fuel hf
  obtain _ | fuel := fuel
  · omega
  rw [readStatements, hskip, hread]
  exact h fuel (by omega)

theorem LeadsTo.lineEnd (h : LeadsTo d rest d') : LeadsTo d (.char '\n' :: rest) d' :=
  .line rfl rfl (Nat.lt_succ_self _) h

/-- The lines of settings lead on to a document that holds them too. -/
theorem leadsTo_settings (qs : List (Text × Setting)) (h : d.Holds (ss ++ [⟨name, ps⟩]))
    (hheader : d.header = [name]) (hname : name ∉ ss.map (·.name))
    (hbare : ∀ q ∈ qs, IsBare q.1) (hnodup : ((ps ++ qs).map (·.1)).Nodup) :
    ∃ d', d'.Holds (ss ++ [⟨name, ps ++ qs⟩]) ∧
      ∀ rest d'', LeadsTo d' rest d'' → LeadsTo d (qs.flatMap renderSetting ++ rest) d'' := by
  induction qs generalizing d ps with
  | nil => exact ⟨d, by rwa [List.append_nil], fun _ _ hrest => hrest⟩
  | cons q qs ih =>
    obtain ⟨k, s⟩ := q
    have hk : k ∉ ps.map (·.1) := fun hmem => by
      rw [List.map_append] at hnodup
      exact (List.nodup_append.1 hnodup).2.2 _ hmem _ List.mem_cons_self rfl
    have hkbare : IsBare k := hbare _ List.mem_cons_self
    -- The line in front is read in the document given, the others in the one it leads to.
    obtain ⟨d₁, hassign, h₁, hheader₁⟩ := h.assign hheader hname hk s
    obtain ⟨d', h', hleads⟩ := ih h₁ hheader₁ (fun q hq => hbare q (List.mem_cons_of_mem _ hq))
      (by rwa [List.append_assoc])
    refine ⟨d', by rwa [List.append_assoc] at h', fun rest d'' hrest => ?_⟩
    rw [List.flatMap_cons, List.append_assoc]
    refine .line ?_ (readStatement_setting hkbare hassign _) ?_ (hleads rest d'' hrest)
    · rw [renderSetting, List.append_assoc, List.append_assoc]
      exact skip_of_isBare hkbare _
    · have hpos : 0 < k.length := List.length_pos_iff.2 hkbare.1
      simp only [renderSetting, List.length_append]
      omega

/-! ## Sections -/

/-- A section whose names need no quotes, with one setting for each name. -/
structure Section.IsPlain (s : Section) : Prop where
  name : IsBare s.name
  settings : ∀ p ∈ s.settings, IsBare p.1
  nodup : (s.settings.map (·.1)).Nodup

/-- The text of a section leads on to a document that holds it too. -/
theorem leadsTo_section {s : Section} (h : d.Holds ss) (hs : s.IsPlain)
    (hname : s.name ∉ ss.map (·.name)) :
    ∃ d', d'.Holds (ss ++ [s]) ∧
      ∀ rest d'', LeadsTo d' rest d'' → LeadsTo d (s.render ++ rest) d'' := by
  obtain ⟨d₁, hopen, h₁, hheader⟩ := h.openTable hname
  obtain ⟨d', h', hleads⟩ := leadsTo_settings s.settings h₁ hheader hname hs.settings hs.nodup
  refine ⟨d', h', fun rest d'' hrest => ?_⟩
  rw [Section.render, List.cons_append, List.append_assoc]
  refine .line rfl (readStatement_header hs.name hopen _) ?_ (hleads rest d'' hrest)
  simp only [List.length_cons, List.length_append]
  omega

theorem leadsTo_render (ss' : List Section) (h : d.Holds ss) (hplain : ∀ s ∈ ss', s.IsPlain)
    (hnodup : ((ss ++ ss').map (·.name)).Nodup) :
    ∃ d', d'.Holds (ss ++ ss') ∧ LeadsTo d (render ss') d' := by
  induction ss' generalizing d ss with
  | nil => exact ⟨d, by rwa [List.append_nil], leadsTo_nil d⟩
  | cons s ss' ih =>
    have hname : s.name ∉ ss.map (·.name) := fun hmem => by
      rw [List.map_append] at hnodup
      exact (List.nodup_append.1 hnodup).2.2 _ hmem _ List.mem_cons_self rfl
    obtain ⟨d₁, h₁, hleads⟩ := leadsTo_section h (hplain s List.mem_cons_self) hname
    obtain ⟨d', h', hrest⟩ := ih h₁ (fun s hs => hplain s (List.mem_cons_of_mem _ hs))
      (by rwa [List.append_assoc])
    refine ⟨d', by rwa [List.append_assoc] at h', ?_⟩
    -- There is an empty line between two sections.
    cases ss' with
    | nil =>
      rw [render, List.map_singleton, Text.joined_singleton, ← List.append_nil s.render]
      exact hleads [] d' hrest
    | cons s' ss' =>
      have htext : render (s :: s' :: ss') = s.render ++ .char '\n' :: render (s' :: ss') :=
        Text.joined_cons_cons _ _ _ _
      rw [htext]
      exact hleads _ d' hrest.lineEnd

/-! ## The text of sections -/

/-- A character that can be seen in a text of ASCII. -/
def IsVisible (c : CodePoint) : Prop := ' ' ≤ c ∧ c ≤ '~'

instance (c : CodePoint) : Decidable (IsVisible c) :=
  inferInstanceAs (Decidable (' ' ≤ c ∧ c ≤ '~'))

/-- A character of an escape is the character itself or can be seen. -/
theorem mem_escape {c e : CodePoint} (h : e ∈ escape c) :
    IsVisible e ∨ (e = c ∧ isControl c = false) := by
  rw [escape] at h
  iterate 6
    split at h
    · refine .inl ?_
      revert e
      decide
  split at h
  · next hc =>
    obtain ⟨k, rfl, hk⟩ := exists_char_of_isControl hc
    have hdigit : ∀ n < 16, IsVisible (.char (Nat.digitChar n)) := by decide
    have hall : ∀ e ∈ Text.hex 4 k.toNat, IsVisible e := by
      rw [Text.hex_four hk]
      simp only [List.forall_mem_cons]
      exact ⟨hdigit _ (by omega), hdigit _ (by omega), hdigit _ (by omega), hdigit _ (by omega),
        List.forall_mem_nil _⟩
    rcases List.mem_cons.1 h with rfl | h
    · exact .inl (by decide)
    rcases List.mem_cons.1 h with rfl | h
    · exact .inl (by decide)
    · exact .inl (hall e h)
  · next hc => exact .inr ⟨List.mem_singleton.1 h, Bool.eq_false_iff.2 hc⟩

/-- The texts in a setting. -/
def Setting.contents : Setting → List Text
  | .text t => [t]
  | .boolean _ => []
  | .texts ts => ts

theorem isVisible_of_isBare {c : CodePoint} (h : isBare c) : IsVisible c := by
  simp only [isBare, Bool.or_eq_true, Bool.and_eq_true, decide_eq_true_eq] at h
  rcases h with (((h | h) | h) | rfl) | rfl
  · exact ⟨Nat.le_trans (by decide) h.1, Nat.le_trans h.2 (by decide)⟩
  · exact ⟨Nat.le_trans (by decide) h.1, Nat.le_trans h.2 (by decide)⟩
  · exact ⟨Nat.le_trans (by decide) h.1, Nat.le_trans h.2 (by decide)⟩
  · decide
  · decide

section

variable {P : CodePoint → Prop} (hline : P '\n') (hvisible : ∀ c, IsVisible c → P c)

include hvisible

theorem forall_mem_quote (htext : ∀ c ∈ t, isControl c = false → P c) : ∀ c ∈ quote t, P c := by
  have hquote : P '"' := hvisible _ (by decide)
  rw [quote, List.forall_mem_cons, List.forall_mem_append]
  refine ⟨hquote, fun e he => ?_, List.forall_mem_singleton.2 hquote⟩
  obtain ⟨c, hc, he⟩ := List.mem_flatMap.1 he
  rcases mem_escape he with he | ⟨rfl, hcontrol⟩
  · exact hvisible e he
  · exact htext e hc hcontrol

include hline

theorem forall_mem_render_setting {s : Setting}
    (htexts : ∀ t ∈ s.contents, ∀ c ∈ t, isControl c = false → P c) : ∀ c ∈ s.render, P c := by
  have hmarks {u : Text} (hu : ∀ c ∈ u, c = '\n' ∨ IsVisible c) : ∀ c ∈ u, P c := fun c hc =>
    (hu c hc).elim (fun h => h ▸ hline) (hvisible c)
  match s with
  | .text t => exact forall_mem_quote hvisible (htexts t List.mem_cons_self)
  | .boolean true => exact hmarks (by decide)
  | .boolean false => exact hmarks (by decide)
  | .texts [] => exact hmarks (by decide)
  | .texts (t :: ts) =>
    have hitems : ∀ c ∈ (t :: ts).flatMap renderItem, P c := by
      intro c hc
      obtain ⟨u, hu, hc⟩ := List.mem_flatMap.1 hc
      have hitem : ∀ c ∈ "    " ++ (quote u ++ (",\n" : Text)), P c := by
        rw [List.forall_mem_append, List.forall_mem_append]
        exact ⟨hmarks (by decide), forall_mem_quote hvisible (htexts u hu), hmarks (by decide)⟩
      exact hitem c hc
    change ∀ c ∈ ("[\n" : Text) ++ ((t :: ts).flatMap renderItem ++ "]"), P c
    rw [List.forall_mem_append, List.forall_mem_append]
    exact ⟨hmarks (by decide), hitems, hmarks (by decide)⟩

/-- What holds of the ends of lines, of the characters that can be seen and of those in the
    settings that are no control characters holds of all in the text of sections. -/
theorem forall_mem_render (hplain : ∀ s ∈ ss, s.IsPlain)
    (htexts : ∀ s ∈ ss, ∀ p ∈ s.settings, ∀ t ∈ p.2.contents, ∀ c ∈ t, isControl c = false → P c) :
    ∀ c ∈ render ss, P c := by
  have hmarks {u : Text} (hu : ∀ c ∈ u, c = '\n' ∨ IsVisible c) : ∀ c ∈ u, P c := fun c hc =>
    (hu c hc).elim (fun h => h ▸ hline) (hvisible c)
  have hbare {n : Text} (hn : IsBare n) : ∀ c ∈ n, P c := fun c hc =>
    hvisible c (isVisible_of_isBare (hn.2 c hc))
  refine Text.forall_mem_joined (hmarks (by decide)) (List.forall_mem_map.2 fun s hs => ?_)
  rw [Section.render, List.forall_mem_cons, List.forall_mem_append, List.forall_mem_append]
  refine ⟨hvisible _ (by decide), ⟨hbare (hplain s hs).name, hmarks (by decide)⟩, fun c hc => ?_⟩
  obtain ⟨p, hp, hc⟩ := List.mem_flatMap.1 hc
  have hsetting : ∀ c ∈ renderSetting p, P c := by
    rw [renderSetting, List.forall_mem_append, List.forall_mem_append, List.forall_mem_append]
    exact ⟨⟨hbare ((hplain s hs).settings p hp), hmarks (by decide)⟩,
      forall_mem_render_setting hline hvisible (htexts s hs p hp), hmarks (by decide)⟩
  exact hsetting c hc

end

theorem joinLineEnds_eq (h : .char '\r' ∉ t) : joinLineEnds t = t := by
  induction t with
  | nil => rfl
  | cons c t ih =>
    rw [List.mem_cons, not_or] at h
    rw [joinLineEnds.eq_def]
    split
    · simp_all
    · next heq =>
      obtain ⟨rfl, rfl⟩ := List.cons.inj heq
      rw [ih h.2]
    · contradiction

/-- Plain sections with a name each are read back from their text. -/
theorem parse_render (hplain : ∀ s ∈ ss, s.IsPlain) (hnodup : (ss.map (·.name)).Nodup) :
    parse (render ss) = .ok (ss.map Section.toMember) := by
  have hvisible (c : CodePoint) (hc : IsVisible c) : c ≠ '\r' := by
    rintro rfl
    exact absurd hc (by decide)
  have hcontrol (c : CodePoint) (hc : isControl c = false) : c ≠ '\r' := by
    rintro rfl
    exact absurd hc (by decide)
  have hreturn : .char '\r' ∉ render ss := fun h =>
    forall_mem_render (P := (· ≠ .char '\r')) (by decide) hvisible hplain
      (fun _ _ _ _ _ _ c _ hc => hcontrol c hc) _ h rfl
  obtain ⟨d, hd, hleads⟩ := leadsTo_render ss .empty hplain hnodup
  rw [parse, joinLineEnds_eq hreturn, hleads _ (Nat.lt_succ_self _)]
  exact congrArg Except.ok hd.root

end Depot.Toml
