import Depot.Build.Environment
import Depot.Proofs.Build.Wildcards
import Depot.Proofs.Text.Case

/-!
# What wildcards withhold

Wildcards withhold variables whatever the case of both, and to this end wildcard and name are
written in lower case before they are matched. That can withhold less than matching them as
they are: the range `A-_` ends before it starts in lower case, and `[!a]` takes `A` and not `a`.

`Keeps p c` says that every piece of `p` that takes `c` still takes it in lower case. Of
wildcards whose characters have one lower-case form each, `Environment.dropExcluded_ignores_case`
tells exactly what is lost:

* `stands_lower`: a wildcard that keeps the characters of a name withholds it if it stands for it;
* `keeps_of_no_set`, `keeps_of_no_range`: wildcards without sets, or with sets that list their
  characters, keep everything that has one lower-case form;
* `exists_not_fits_lower`: a character that is not kept is in a name that is not withheld.
-/

namespace Depot.Build.Wildcard

variable {c : CodePoint} {t p : Text} {qs qs' : List Piece}

/-! ## Lower case -/

theorem keepsSigns_lowerChar : KeepsSigns Text.lowerChar where
  eq_iff d hd c := by
    have hall : ∀ d ∈ (['*', '?', '[', ']', '!', '-'] : List CodePoint),
        d.toNat < 'a'.toNat ∧ Text.lowerChar d = d := by decide +kernel
    exact Text.lowerChar_eq_iff (hall d hd).1 (hall d hd).2

/-- What takes the place of a piece in lower case takes a character that the piece takes,
    whichever lower-case form it has. -/
def Piece.Keeps (c : CodePoint) : Piece → Piece → Prop
  | .run, .run => True
  | .one negated rs, .one negated' rs' => accepts negated rs c → ∀ before after,
      ∃ d, Text.lowerBetween before c after = [d] ∧ accepts negated' rs' d
  | _, _ => False

/-- Every piece of a wildcard still takes a character when the case of both is ignored. -/
def Keeps (p : Text) (c : CodePoint) : Prop :=
  List.Forall₂ (Piece.Keeps c) (parse p) (parse (Text.lower p))

/-- Two pieces that take as many characters. -/
def Piece.Resembles : Piece → Piece → Prop
  | .run, .run | .one _ _, .one _ _ => True
  | _, _ => False

theorem exists_set_eq (content : Text) : ∃ negated rs, set content = .one negated rs := by
  rw [set]
  split
  · exact ⟨_, _, rfl⟩
  · exact ⟨_, _, rfl⟩

theorem resembles_parse_lower (hp : ∀ c ∈ p, Text.IsSteady c) :
    List.Forall₂ Piece.Resembles (parse p) (parse (Text.lower p)) := by
  rw [Text.lower_eq_map hp]
  refine forall₂_parse_map keepsSigns_lowerChar trivial (fun _ => trivial) (fun _ _ => trivial)
    fun _ content _ => ?_
  obtain ⟨_, _, h⟩ := exists_set_eq content
  obtain ⟨_, _, h'⟩ := exists_set_eq (content.map Text.lowerChar)
  rw [h, h']
  trivial

theorem keeps_literal {a : CodePoint} (ha : Text.IsSteady a) :
    Piece.Keeps c (literal a) (literal (Text.lowerChar a)) := by
  intro hc before after
  obtain rfl : c = a := by simpa [accepts, inRange_self_iff] using hc
  exact ⟨_, ha.lowerBetween_eq, by simp [accepts, inRange_self_iff]⟩

theorem keeps_any (hc : c ≠ 'İ') : Piece.Keeps c (.one true []) (.one true []) := by
  intro _ before after
  obtain ⟨d, hd⟩ : ∃ d, Text.lowerBetween before c after = [d] := Text.exists_lowerBetween_eq hc
  exact ⟨d, hd, rfl⟩

/-- A wildcard without sets keeps everything but the letter that becomes two characters. -/
theorem keeps_of_no_set (hp : ∀ c ∈ p, Text.IsSteady c) (hset : .char '[' ∉ p)
    (hc : c ≠ 'İ' ∨ .char '?' ∉ p) : Keeps p c := by
  rw [Keeps, Text.lower_eq_map hp]
  exact forall₂_parse_map keepsSigns_lowerChar trivial
    (fun hany => keeps_any (hc.resolve_right (not_not_intro hany)))
    (fun a ha => keeps_literal (hp a ha)) fun h => absurd h hset

/-- A wildcard whose sets list their characters keeps everything that has one lower-case form. -/
theorem keeps_of_no_range (hp : ∀ c ∈ p, Text.IsSteady c) (hhyphen : .char '-' ∉ p)
    (hbang : .char '!' ∉ p) (hc : Text.IsSteady c) : Keeps p c := by
  rw [Keeps, Text.lower_eq_map hp]
  refine forall₂_parse_map keepsSigns_lowerChar trivial (fun _ => keeps_any hc.2)
    (fun a ha => keeps_literal (hp a ha)) fun _ content hcontent => ?_
  have hsign {d : CodePoint} (hd : d ∈ (['*', '?', '[', ']', '!', '-'] : List CodePoint))
      (hp : d ∉ p) : d ∉ content.map Text.lowerChar := by
    rintro h
    obtain ⟨a, ha, heq⟩ := List.mem_map.1 h
    obtain rfl := (keepsSigns_lowerChar.eq_iff d hd a).1 heq
    exact hp (hcontent ha)
  rw [set_of_not_mem (fun h => hhyphen (hcontent h)) fun h => hbang (hcontent h),
    set_of_not_mem (hsign (by decide) hhyphen) (hsign (by decide) hbang)]
  intro haccepts before after
  refine ⟨_, hc.lowerBetween_eq, accepts_characters_iff.2 ?_⟩
  exact List.mem_map_of_mem (accepts_characters_iff.1 haccepts)

/-! ## Matching in lower case -/

theorem fits_lowerAfter {before : Text} (hsame : List.Forall₂ Piece.Resembles qs qs')
    (hkeeps : ∀ c ∈ t, List.Forall₂ (Piece.Keeps c) qs qs') (h : Fits qs t) :
    Fits qs' (Text.lowerAfter before t) := by
  induction h generalizing qs' before with
  | nil =>
    cases hsame
    exact .nil
  | @run qs t a h ih =>
    -- A run takes whatever its characters become, however many these are.
    obtain ⟨s, hs⟩ := Text.exists_lowerAfter_append before a t
    rw [hs]
    cases hsame with
    | @cons _ q' _ qs' hq hsame =>
      cases q' with
      | one => cases hq
      | run =>
        refine .run s (ih hsame fun c hc => ?_)
        exact (List.forall₂_cons.1 (hkeeps c (List.mem_append_right a hc))).2
  | @one negated rs qs c t hc h ih =>
    cases hsame with
    | @cons _ q' _ qs' hq hsame =>
      cases q' with
      | run => cases hq
      | one negated' rs' =>
        obtain ⟨hkeep, -⟩ := List.forall₂_cons.1 (hkeeps c List.mem_cons_self)
        obtain ⟨d, hd, hd'⟩ := hkeep hc before t
        rw [Text.lowerAfter, hd, List.singleton_append]
        refine .one hd' (ih hsame fun c hc => ?_)
        exact (List.forall₂_cons.1 (hkeeps c (List.mem_cons_of_mem _ hc))).2

/-- A wildcard that keeps all characters of a text stands for it in lower case as well. -/
theorem stands_lower (hp : ∀ c ∈ p, Text.IsSteady c) (hkeeps : ∀ c ∈ t, Keeps p c)
    (h : stands p t) : stands (Text.lower p) (Text.lower t) :=
  stands_iff.2 (fits_lowerAfter (resembles_parse_lower hp) hkeeps (stands_iff.1 h))

/-! ## What is not kept -/

/-- Where a text fits there is one with nothing for the runs, and what fits pieces that take as
    many characters is no shorter. -/
theorem exists_shortest (hsame : List.Forall₂ Piece.Resembles qs qs') (h : Fits qs t) :
    ∃ k ⊆ t, Fits qs k ∧ ∀ u, Fits qs' u → k.length ≤ u.length := by
  induction h generalizing qs' with
  | nil => exact ⟨[], List.Subset.refl _, .nil, fun u _ => Nat.zero_le _⟩
  | @run qs t a h ih =>
    cases hsame with
    | @cons _ q' _ qs' hq hsame =>
      cases q' with
      | one => cases hq
      | run =>
        obtain ⟨k, hk, hfits, hshort⟩ := ih hsame
        refine ⟨k, List.Subset.trans hk (List.subset_append_right a t), .run [] hfits,
          fun u hu => ?_⟩
        obtain ⟨b, v, rfl, hv⟩ := fits_run_iff.1 hu
        exact Nat.le_trans (hshort v hv) (by simp)
  | @one negated rs qs c t hc h ih =>
    cases hsame with
    | @cons _ q' _ qs' hq hsame =>
      cases q' with
      | run => cases hq
      | one =>
        obtain ⟨k, hk, hfits, hshort⟩ := ih hsame
        refine ⟨c :: k, List.cons_subset_cons c hk, .one hc hfits, fun u hu => ?_⟩
        obtain ⟨d, v, rfl, -, hv⟩ := fits_one_iff.1 hu
        exact Nat.succ_le_succ (hshort v hv)

/-- A character that some piece does not keep is in a text that fits, and does not fit in lower
    case. -/
theorem exists_not_fits_lower (hsame : List.Forall₂ Piece.Resembles qs qs') (h : Fits qs t)
    (ht : ∀ c ∈ t, Text.IsSteady c) (hc : Text.IsSteady c)
    (hkeeps : ¬List.Forall₂ (Piece.Keeps c) qs qs') :
    ∃ k, (∀ c ∈ k, Text.IsSteady c) ∧ Fits qs k ∧ (∀ u, Fits qs' u → k.length ≤ u.length) ∧
      ¬Fits qs' (k.map Text.lowerChar) := by
  induction h generalizing qs' with
  | nil =>
    cases hsame
    exact absurd .nil hkeeps
  | @run qs t a h ih =>
    cases hsame with
    | @cons _ q' _ qs' hq hsame =>
      cases q' with
      | one => cases hq
      | run =>
        obtain ⟨k, hsteady, hfits, hshort, hnot⟩ := ih hsame
          (fun c hc => ht c (List.mem_append_right a hc)) fun h => hkeeps (.cons trivial h)
        refine ⟨k, hsteady, .run [] hfits, fun u hu => ?_, fun h => ?_⟩
        · obtain ⟨b, v, rfl, hv⟩ := fits_run_iff.1 hu
          exact Nat.le_trans (hshort v hv) (by simp)
        · -- There is nothing to spare for the run.
          obtain ⟨b, v, heq, hv⟩ := fits_run_iff.1 h
          have hlength := congrArg List.length heq
          rw [List.length_map, List.length_append] at hlength
          have hb : b = [] := List.length_eq_zero_iff.1 (by have := hshort v hv; omega)
          rw [hb, List.nil_append] at heq
          exact hnot (heq ▸ hv)
  | @one negated rs qs d t hd h ih =>
    cases hsame with
    | @cons _ q' _ qs' hq hsame =>
      cases q' with
      | run => cases hq
      | one negated' rs' =>
        obtain ⟨hd', ht⟩ := List.forall_mem_cons.1 ht
        have hshorter {e : CodePoint} {k : Text} (hk : ∀ u, Fits qs' u → k.length ≤ u.length)
            (u : Text) (hu : Fits (.one negated' rs' :: qs') u) :
            (e :: k).length ≤ u.length := by
          obtain ⟨e', v, rfl, -, hv⟩ := fits_one_iff.1 hu
          exact Nat.succ_le_succ (hk v hv)
        by_cases htail : List.Forall₂ (Piece.Keeps c) qs qs'
        · -- The piece in front is the one: it takes `c` and nothing for it in lower case.
          have hhead : ¬Piece.Keeps c (.one negated rs) (.one negated' rs') :=
            fun h => hkeeps (.cons h htail)
          obtain ⟨haccepts, hnot⟩ := Classical.not_imp.1 hhead
          obtain ⟨k, hk, hfits, hshort⟩ := exists_shortest hsame h
          refine ⟨c :: k, List.forall_mem_cons.2 ⟨hc, fun a ha => ht a (hk ha)⟩,
            .one haccepts hfits, hshorter hshort, fun h => hnot fun before after => ?_⟩
          obtain ⟨e, v, heq, he, -⟩ := fits_one_iff.1 h
          obtain ⟨rfl, -⟩ := List.cons.inj heq
          exact ⟨_, hc.lowerBetween_eq, he⟩
        · obtain ⟨k, hsteady, hfits, hshort, hnot⟩ := ih hsame ht htail
          refine ⟨d :: k, List.forall_mem_cons.2 ⟨hd', hsteady⟩, .one hd hfits, hshorter hshort,
            fun h => ?_⟩
          obtain ⟨e, v, heq, -, hv⟩ := fits_one_iff.1 h
          obtain ⟨-, rfl⟩ := List.cons.inj heq
          exact hnot hv

end Depot.Build.Wildcard

namespace Depot.Build.Environment

open Wildcard

variable {p : Text}

/-- A wildcard withholds a variable that it stands for as soon as it keeps the characters of the
    name when case is ignored, and in any case when it has no sets, or sets that list their
    characters. A character that it does not keep is in a name that it stands for and does not
    withhold. -/
theorem dropExcluded_ignores_case (hp : ∀ c ∈ p, Text.IsSteady c) :
    (∀ (withhold : List Text) (env : List (Text × Json)) (key : Text), p ∈ withhold → stands p key →
      (∀ c ∈ key, Keeps p c) → ∀ v ∈ dropExcluded withhold env, v.1 ≠ key) ∧
    (∀ c : CodePoint, .char '[' ∉ p → c ≠ 'İ' ∨ .char '?' ∉ p → Keeps p c) ∧
    (∀ c, .char '-' ∉ p → .char '!' ∉ p → Text.IsSteady c → Keeps p c) ∧
    ∀ c t, Text.IsSteady c → ¬Keeps p c → (∀ c ∈ t, Text.IsSteady c) → stands p t →
      ∃ key, (∀ c ∈ key, Text.IsSteady c) ∧ stands p key ∧
        ∀ v : Json, dropExcluded [p] [(key, v)] = [(key, v)] := by
  refine ⟨fun withhold env key hmem hstands hkeeps v hv => ?_,
    fun c hset hc => keeps_of_no_set hp hset hc,
    fun c hhyphen hbang hc => keeps_of_no_range hp hhyphen hbang hc,
    fun c t hc hkeeps ht hstands => ?_⟩
  · rintro rfl
    have hexcluded : excluded withhold v.1 :=
      List.any_eq_true.2 ⟨p, hmem, stands_lower hp hkeeps hstands⟩
    obtain ⟨-, hnot⟩ := List.mem_filter.1 hv
    rw [hexcluded] at hnot
    contradiction
  · obtain ⟨key, hkey, hfits, -, hnot⟩ :=
      exists_not_fits_lower (resembles_parse_lower hp) (stands_iff.1 hstands) ht hc hkeeps
    refine ⟨key, hkey, stands_iff.2 hfits, fun v => ?_⟩
    rw [← Text.lower_eq_map hkey, ← stands_iff] at hnot
    simp [dropExcluded, excluded, hnot]

theorem dropExcluded_ignores_case_token :
    let p : Text := "*_[tT]oken?"
    let env : List (Text × Json) := [("HOME", .text "/root"), ("API_Token1", .text "x")]
    (∀ c ∈ p, Text.IsSteady c) ∧ stands p "API_Token1" ∧
      ∀ v ∈ dropExcluded ["*KEY*", p] env, v.1 ≠ "API_Token1" := by
  intro p env
  have hp : ∀ c ∈ p, Text.IsSteady c := by decide
  have hkey : ∀ c ∈ ("API_Token1" : Text), Text.IsSteady c := by decide
  have hstands : stands p "API_Token1" := by decide
  obtain ⟨hwithheld, -, hkeeps, -⟩ := dropExcluded_ignores_case hp
  exact ⟨hp, hstands, hwithheld _ env _ (List.mem_cons_of_mem _ List.mem_cons_self) hstands
    fun c hc => hkeeps c (by decide) (by decide) (hkey c hc)⟩

/-- The wildcard for all names that start with no small letter withholds none of them. -/
theorem capitals_are_not_withheld :
    let p : Text := "[!a-z]*"
    let env : List (Text × Json) := [("SECRET", .text "x")]
    stands p "SECRET" ∧ dropExcluded [p] env = env := by decide +kernel

end Depot.Build.Environment
