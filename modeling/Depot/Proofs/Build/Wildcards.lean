import Depot.Build.Wildcard
import Mathlib.Data.List.Forall2

/-!
# What wildcards stand for

A wildcard is taken apart into pieces, and a text matches when it can be cut into one part for
each of them (`Fits`). The matcher keeps all the ends of the text that may remain, and finds
such a cut exactly when there is one (`stands_iff`).

* `forall₂_parse_map`: a renaming of characters that keeps the signs of wildcards apart from
  everything else renames a wildcard piece by piece;
* `set_of_not_mem`: what a set stands for that lists its characters.
-/

namespace Depot.Build.Wildcard

/-! ## Texts that fit -/

/-- A text fits some pieces when it can be cut into one part for each of them. -/
inductive Fits : List Piece → Text → Prop
  | nil : Fits [] []
  | run {qs : List Piece} {t : Text} (a : Text) (h : Fits qs t) : Fits (.run :: qs) (a ++ t)
  | one {negated : Bool} {rs : List (CodePoint × CodePoint)} {qs : List Piece} {c : CodePoint}
      {t : Text} (hc : accepts negated rs c) (h : Fits qs t) : Fits (.one negated rs :: qs) (c :: t)

variable {c : CodePoint} {t u p : Text} {qs : List Piece} {negated : Bool}
  {rs : List (CodePoint × CodePoint)}

theorem fits_run_iff : Fits (.run :: qs) t ↔ ∃ a b, t = a ++ b ∧ Fits qs b := by
  constructor
  · rintro (_ | ⟨a, h⟩)
    exact ⟨a, _, rfl, h⟩
  · rintro ⟨a, b, rfl, h⟩
    exact .run a h

theorem fits_one_iff :
    Fits (.one negated rs :: qs) t ↔ ∃ c u, t = c :: u ∧ accepts negated rs c ∧ Fits qs u := by
  constructor
  · rintro (_ | _ | ⟨hc, h⟩)
    exact ⟨_, _, rfl, hc, h⟩
  · rintro ⟨c, u, rfl, hc, h⟩
    exact .one hc h

theorem mem_suffixes_iff : u ∈ suffixes t ↔ u <:+ t := by
  induction t with
  | nil => simp [suffixes]
  | cons c t ih => rw [suffixes, List.mem_cons, ih, List.suffix_cons_iff]

theorem pairwise_suffixes (t : Text) : (suffixes t).Pairwise fun a b => b <:+ a := by
  induction t with
  | nil => exact List.pairwise_singleton _ _
  | cons c t ih =>
    refine List.pairwise_cons.2 ⟨fun u hu => ?_, ih⟩
    exact (mem_suffixes_iff.1 hu).trans (List.suffix_cons c t)

theorem mem_advance_one_iff {remaining : List Text} :
    u ∈ advance remaining (.one negated rs) ↔ ∃ c, (c :: u) ∈ remaining ∧ accepts negated rs c := by
  rw [advance, List.mem_filterMap]
  constructor
  · rintro ⟨_ | ⟨c, t⟩, ht, heq⟩
    · contradiction
    · obtain ⟨hc, heq⟩ := Option.ite_none_right_eq_some.1 heq
      obtain rfl := Option.some.inj heq
      exact ⟨c, ht, hc⟩
  · rintro ⟨c, ht, hc⟩
    exact ⟨c :: u, ht, if_pos hc⟩

/-- What remains after a piece that takes one character are ends of each other still. -/
theorem pairwise_advance_one {remaining : List Text} (h : remaining.Pairwise fun a b => b <:+ a) :
    (advance remaining (.one negated rs)).Pairwise fun a b => b <:+ a := by
  refine h.filterMap _ fun t t' hsuffix u hu u' hu' => ?_
  cases t with
  | nil => contradiction
  | cons c t =>
    cases t' with
    | nil => contradiction
    | cons c' t' =>
      obtain rfl := Option.some.inj (Option.ite_none_right_eq_some.1 hu).2
      obtain rfl := Option.some.inj (Option.ite_none_right_eq_some.1 hu').2
      rcases List.suffix_cons_iff.1 hsuffix with heq | hsuffix
      · exact (List.cons.inj heq).2 ▸ List.suffix_rfl
      · exact (List.suffix_cons c' t').trans hsuffix

/-- What may remain after some pieces, of texts that are ends of one text. -/
theorem nil_mem_foldl_advance_iff {remaining : List Text}
    (h : remaining.Pairwise fun a b => b <:+ a) :
    [] ∈ qs.foldl advance remaining ↔ ∃ t ∈ remaining, Fits qs t := by
  induction qs generalizing remaining with
  | nil =>
    refine ⟨fun h => ⟨[], h, .nil⟩, fun ⟨t, ht, hfits⟩ => ?_⟩
    cases hfits
    exact ht
  | cons q qs ih =>
    rw [List.foldl_cons]
    cases q with
    | run =>
      cases remaining with
      | nil =>
        rw [show advance [] .run = [] from rfl, ih List.Pairwise.nil]
        exact iff_of_false nofun nofun
      | cons longest remaining =>
        -- A run goes on from the longest text only: all others are ends of it.
        rw [show advance (longest :: remaining) .run = suffixes longest from rfl,
          ih (pairwise_suffixes longest)]
        simp only [fits_run_iff, mem_suffixes_iff]
        constructor
        · rintro ⟨u, ⟨a, ha⟩, hfits⟩
          exact ⟨longest, List.mem_cons_self, a, u, ha.symm, hfits⟩
        · rintro ⟨t, ht, a, u, rfl, hfits⟩
          refine ⟨u, ?_, hfits⟩
          rcases List.mem_cons.1 ht with rfl | ht
          · exact List.suffix_append a u
          · exact (List.suffix_append a u).trans (List.rel_of_pairwise_cons h ht)
    | one negated rs =>
      rw [ih (pairwise_advance_one h)]
      simp only [mem_advance_one_iff, fits_one_iff]
      constructor
      · rintro ⟨u, ⟨c, ht, hc⟩, hfits⟩
        exact ⟨c :: u, ht, c, u, rfl, hc, hfits⟩
      · rintro ⟨_, ht, c, u, rfl, hc, hfits⟩
        exact ⟨u, ⟨c, ht, hc⟩, hfits⟩

/-- A wildcard stands for what fits its pieces. -/
theorem stands_iff : stands p t ↔ Fits (parse p) t := by
  rw [stands, decide_eq_true_iff, nil_mem_foldl_advance_iff (List.pairwise_singleton _ _)]
  simp

/-! ## Pieces of a pattern -/

/-- A renaming of characters that keeps the signs of wildcards apart from everything else. -/
structure KeepsSigns (f : CodePoint → CodePoint) : Prop where
  eq_iff : ∀ d ∈ (['*', '?', '[', ']', '!', '-'] : List CodePoint), ∀ c, f c = d ↔ c = d

variable {f : CodePoint → CodePoint} {R : Piece → Piece → Prop}

theorem cut_map {sep : CodePoint} (hsep : ∀ c, f c = sep ↔ c = sep) (t : Text) :
    Text.cut sep (t.map f) = (Text.cut sep t).map fun s => (s.1.map f, s.2.map f) := by
  induction t with
  | nil => rfl
  | cons c t ih =>
    rw [List.map_cons, Text.cut, Text.cut, ih]
    by_cases hc : c = sep
    · rw [if_pos hc, if_pos ((hsep c).2 hc)]
      rfl
    · rw [if_neg hc, if_neg (mt (hsep c).1 hc), Option.map_map, Option.map_map]
      rfl

theorem KeepsSigns.apply_eq (hf : KeepsSigns f) {d : CodePoint}
    (hd : d ∈ (['*', '?', '[', ']', '!', '-'] : List CodePoint)) : f d = d :=
  (hf.eq_iff d hd d).2 rfl

theorem KeepsSigns.map_ne_cons (hf : KeepsSigns f) {d : CodePoint}
    (hd : d ∈ (['*', '?', '[', ']', '!', '-'] : List CodePoint)) (ht : ¬∃ u, t = d :: u)
    (u : Text) : t.map f ≠ d :: u := by
  intro h
  obtain ⟨c, v, rfl, hc, -⟩ := List.map_eq_cons_iff.1 h
  obtain rfl := (hf.eq_iff d hd c).1 hc
  exact ht ⟨v, rfl⟩

/-- The signs in front of a set do not close it. -/
theorem exists_closed?_eq (t : Text) : ∃ signs u, t = signs ++ u ∧ ∀ f, KeepsSigns f →
    signs.map f = signs ∧ closed? (t.map f) =
      (Text.cut ']' (u.map f)).map fun s => (signs ++ s.1, s.2) := by
  by_cases hbang : ∃ u, t = .char '!' :: u
  · obtain ⟨u, rfl⟩ := hbang
    by_cases hbracket : ∃ v, u = .char ']' :: v
    · obtain ⟨v, rfl⟩ := hbracket
      refine ⟨['!', ']'], v, rfl, fun f hf => ?_⟩
      simp only [List.map_cons, List.map_nil, hf.apply_eq (d := '!') (by decide),
        hf.apply_eq (d := ']') (by decide)]
      exact ⟨trivial, closed?.eq_1 _⟩
    · refine ⟨['!'], u, rfl, fun f hf => ?_⟩
      simp only [List.map_cons, List.map_nil, hf.apply_eq (d := '!') (by decide)]
      exact ⟨trivial, closed?.eq_2 _ (hf.map_ne_cons (by decide) hbracket)⟩
  · by_cases hbracket : ∃ v, t = .char ']' :: v
    · obtain ⟨v, rfl⟩ := hbracket
      refine ⟨[']'], v, rfl, fun f hf => ?_⟩
      simp only [List.map_cons, List.map_nil, hf.apply_eq (d := ']') (by decide)]
      exact ⟨trivial, closed?.eq_3 _⟩
    · exact ⟨[], t, rfl, fun f hf => ⟨rfl, closed?.eq_4 _ (hf.map_ne_cons (by decide) hbang)
        (hf.map_ne_cons (by decide) hbracket)⟩⟩

theorem closed?_map (hf : KeepsSigns f) (t : Text) :
    closed? (t.map f) = (closed? t).map fun s => (s.1.map f, s.2.map f) := by
  obtain ⟨signs, u, rfl, h⟩ := exists_closed?_eq t
  have hid : KeepsSigns id := ⟨fun d _ c => Iff.rfl⟩
  obtain ⟨-, hclosed⟩ := h id hid
  rw [List.map_id, List.map_id] at hclosed
  obtain ⟨hsigns, hmap⟩ := h f hf
  rw [hmap, hclosed, cut_map (hf.eq_iff _ (by decide)), Option.map_map, Option.map_map]
  congr 1
  funext s
  simp [hsigns]

/-- The set of a pattern and what is behind it are parts of the pattern. -/
theorem eq_of_closed? {content rest : Text} (h : closed? t = some (content, rest)) :
    t = content ++ .char ']' :: rest := by
  obtain ⟨signs, u, rfl, hu⟩ := exists_closed?_eq t
  obtain ⟨-, hclosed⟩ := hu id ⟨fun d _ c => Iff.rfl⟩
  rw [List.map_id, List.map_id, h, eq_comm, Option.map_eq_some_iff] at hclosed
  obtain ⟨s, hs, heq⟩ := hclosed
  obtain ⟨rfl, rfl⟩ := Prod.mk.inj heq
  rw [Text.append_of_cut hs, List.append_assoc]

/-- The pieces of a renamed pattern are those of the pattern, one by one. -/
theorem forall₂_parse_map (hf : KeepsSigns f) (hrun : R .run .run)
    (hany : .char '?' ∈ p → R (.one true []) (.one true []))
    (hliteral : ∀ c ∈ p, R (literal c) (literal (f c)))
    (hset : .char '[' ∈ p → ∀ content ⊆ p, R (set content) (set (content.map f))) :
    List.Forall₂ R (parse p) (parse (p.map f)) := by
  rw [parse, parse, List.length_map]
  -- Behind a set the pieces go on, so the induction is on the steps and what is assumed is
  -- passed on to what is left of the pattern.
  generalize p.length = fuel
  induction fuel generalizing p with
  | zero => exact .nil
  | succ fuel ih =>
    cases p with
    | nil => exact .nil
    | cons c p =>
      have ih (rest : Text) (hrest : rest ⊆ c :: p) :
          List.Forall₂ R (parseFrom fuel rest) (parseFrom fuel (rest.map f)) :=
        ih (fun h => hany (hrest h)) (fun d hd => hliteral d (hrest hd))
          fun h content hcontent => hset (hrest h) content (List.Subset.trans hcontent hrest)
      have htail := ih p (List.subset_cons_self c p)
      rw [List.map_cons, parseFrom, parseFrom]
      simp only [hf.eq_iff '*' (by decide), hf.eq_iff '?' (by decide), hf.eq_iff '[' (by decide),
        closed?_map hf]
      split
      · exact .cons hrun htail
      split
      · next hc => exact .cons (hany (hc ▸ List.mem_cons_self)) htail
      split
      · next hc =>
        cases hclosed : closed? p with
        | none =>
          have hsign := hliteral '[' (hc ▸ List.mem_cons_self)
          rw [hf.apply_eq (by decide)] at hsign
          exact .cons hsign htail
        | some s =>
          have hp := eq_of_closed? hclosed
          refine .cons (hset (hc ▸ List.mem_cons_self) s.1 fun d hd => ?_) (ih s.2 fun d hd => ?_)
          · rw [hp]; simp [hd]
          · rw [hp]; simp [hd]
      · exact .cons (hliteral c List.mem_cons_self) htail

/-! ## Sets -/

theorem ranges_map_some (t : Text) : ranges (t.map some) = t.map fun c => (c, c) := by
  induction t with
  | nil => rfl
  | cons c t ih =>
    rw [List.map_cons, List.map_cons, ← ih]
    cases t <;> rfl

/-- A set without hyphens and without a `!` in front is its characters. -/
theorem set_of_not_mem {content : Text} (hhyphen : .char '-' ∉ content)
    (hbang : .char '!' ∉ content) : set content = .one false (content.map fun c => (c, c)) := by
  have hspans : spans content = [content] := by
    rw [spans]
    generalize (if Text.startsWith '!' content then 2 else 1) = skip
    cases content with
    | nil => rfl
    | cons c content =>
      have hcut : Text.cut '-' ((c :: content).drop skip) = none :=
        Text.cut_eq_none_iff.2 fun h => hhyphen (List.mem_of_mem_drop h)
      rw [List.length_cons, spansFrom, hcut]
  have hmarks : marks (dropEmpty (restoreHyphen [content])) = content.map some := rfl
  rw [set, hspans, hmarks]
  split
  · next rest heq =>
    obtain ⟨c, _, rfl, hc, -⟩ := List.map_eq_cons_iff.1 heq
    exact absurd (Option.some.inj hc ▸ List.mem_cons_self) hbang
  · rw [ranges_map_some]

theorem inRange_self_iff {a : CodePoint} : inRange (a, a) c ↔ c = a := by
  rw [inRange, Bool.and_eq_true, decide_eq_true_iff, decide_eq_true_iff]
  exact ⟨fun h => Std.le_antisymm h.2 h.1, fun h => h ▸ ⟨Std.le_refl c, Std.le_refl c⟩⟩

theorem accepts_characters_iff : accepts false (t.map fun c => (c, c)) c ↔ c ∈ t := by
  simp [accepts, inRange_self_iff]

end Depot.Build.Wildcard
