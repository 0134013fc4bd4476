import Depot.Glob

/-!
# What a glob stands for

A derivation of `Glob.Matches` goes through the glob from left to right, so what
it says of a glob is said here of its parts:

* `matches_append_iff`: a glob in two parts stands for a text in two parts;
* `Matches.mem`: what a glob spells out is in every text it stands for;
* `matches_append_cons_iff`: a character in the middle of a text is either
  spelled out by the glob or inside the run of one of its `*`, which then
  reaches into both sides;
* `matches_append_cons_iff_of_not`: a character that no run may hold is spelled
  out, and `Matches.count_eq`: the glob has it as often as the text.

The third one is what a search on two fields rests on: with the slash between
path and name for the character, it tells where the glob has to be cut.
-/

namespace Depot.Glob

variable {ok : CodePoint → Prop}

/-! ## Inversion -/

theorem matches_nil_iff {t : Text} : Matches ok [] t ↔ t = [] := by
  constructor
  · intro h
    cases h
    rfl
  · rintro rfl
    exact .nil

theorem matches_cons_iff {c : CodePoint} (hc : c ≠ star) {g t : Text} :
    Matches ok (c :: g) t ↔ ∃ t', t = c :: t' ∧ Matches ok g t' := by
  constructor
  · intro h
    cases h with
    | char _ h => exact ⟨_, rfl, h⟩
    | star _ _ => exact absurd rfl hc
  · rintro ⟨t', rfl, h⟩
    exact .char hc h

theorem matches_star_cons_iff {g t : Text} :
    Matches ok (star :: g) t ↔ ∃ run t', t = run ++ t' ∧ (∀ c ∈ run, ok c) ∧ Matches ok g t' := by
  constructor
  · intro h
    cases h with
    | char hc _ => exact absurd rfl hc
    | star hr h => exact ⟨_, _, rfl, hr, h⟩
  · rintro ⟨run, t', rfl, hr, h⟩
    exact .star hr h

/-- A bare `*` stands for the runs it may hold. -/
theorem matches_star_iff {t : Text} : Matches ok [star] t ↔ ∀ c ∈ t, ok c := by
  rw [matches_star_cons_iff]
  constructor
  · rintro ⟨run, t', rfl, hr, h⟩
    rw [matches_nil_iff.1 h, List.append_nil]
    exact hr
  · exact fun h => ⟨t, [], (List.append_nil t).symm, h, .nil⟩

/-- Where a run may hold everything, a bare `*` stands for every text. -/
theorem matches_star (t : Text) : Matches AnyChar [star] t :=
  matches_star_iff.2 fun _ _ => trivial

/-! ## Parts -/

/-- A glob in two parts stands for the texts in two parts. -/
theorem matches_append_iff {g g' t : Text} :
    Matches ok (g ++ g') t ↔ ∃ a b, t = a ++ b ∧ Matches ok g a ∧ Matches ok g' b := by
  constructor
  · intro h
    induction g generalizing t with
    | nil => exact ⟨[], t, rfl, .nil, h⟩
    | cons c g ih =>
      by_cases hc : c = star
      · subst hc
        obtain ⟨run, t', rfl, hr, h'⟩ := matches_star_cons_iff.1 h
        obtain ⟨a, b, rfl, ha, hb⟩ := ih h'
        exact ⟨run ++ a, b, (List.append_assoc _ _ _).symm, .star hr ha, hb⟩
      · obtain ⟨t', rfl, h'⟩ := (matches_cons_iff hc).1 h
        obtain ⟨a, b, rfl, ha, hb⟩ := ih h'
        exact ⟨c :: a, b, rfl, .char hc ha, hb⟩
  · rintro ⟨a, b, rfl, ha, hb⟩
    exact ha.append hb

/-- A `*` at the end leaves the rest of a text open. -/
theorem matches_append_star_iff {g t : Text} :
    Matches AnyChar (g ++ [star]) t ↔ ∃ a b, t = a ++ b ∧ Matches AnyChar g a := by
  rw [matches_append_iff]
  exact ⟨fun ⟨a, b, ht, ha, _⟩ => ⟨a, b, ht, ha⟩,
    fun ⟨a, b, ht, ha⟩ => ⟨a, b, ht, ha, matches_star b⟩⟩

/-- What a glob spells out is in every text it stands for. -/
theorem Matches.mem {c : CodePoint} (hc : c ≠ Glob.star) {g t : Text} (h : Matches ok g t)
    (hg : c ∈ g) : c ∈ t := by
  induction h with
  | nil => exact hg
  | char _ _ ih =>
    rcases List.mem_cons.1 hg with rfl | hg
    · exact List.mem_cons_self
    · exact List.mem_cons_of_mem _ (ih hg)
  | star _ _ ih =>
    rcases List.mem_cons.1 hg with rfl | hg
    · exact absurd rfl hc
    · exact List.mem_append_right _ (ih hg)

/-- Runs are parts of the text, so a condition on its characters is one on them. -/
theorem Matches.of_forall_mem {ok' : CodePoint → Prop} {g t : Text} (h : Matches ok g t)
    (ht : ∀ c ∈ t, ok' c) : Matches ok' g t := by
  induction h with
  | nil => exact .nil
  | char hc _ ih => exact .char hc (ih fun c hm => ht c (List.mem_cons_of_mem _ hm))
  | star _ _ ih =>
    exact .star (fun c hm => ht c (List.mem_append_left _ hm))
      (ih fun c hm => ht c (List.mem_append_right _ hm))

/-- In a text without slash no run has one. -/
theorem matches_noSlash_iff {g t : Text} (ht : .char '/' ∉ t) :
    Matches NoSlash g t ↔ Matches AnyChar g t :=
  ⟨fun h => h.mono fun _ _ => trivial, fun h => h.of_forall_mem fun _ hc hs => ht (hs ▸ hc)⟩

/-! ## Characters outside of runs -/

/-- A character that no run may hold is in a text as often as in the glob. -/
theorem Matches.count_eq {c : CodePoint} (hc : c ≠ Glob.star) (hok : ¬ok c) {g t : Text}
    (h : Matches ok g t) : t.count c = g.count c := by
  induction h with
  | nil => rfl
  | char _ _ ih => rw [List.count_cons, List.count_cons, ih]
  | star hr _ ih =>
    have hrun := List.count_eq_zero.2 fun hm => hok (hr c hm)
    rw [List.count_append, hrun, ih, List.count_cons_of_ne (Ne.symm hc), Nat.zero_add]

/-- A character that no run may hold parts the glob as it parts the text. -/
theorem matches_append_cons_iff_of_not {c : CodePoint} (hc : c ≠ star) (hok : ¬ok c)
    {g p n : Text} :
    Matches ok g (p ++ c :: n) ↔ ∃ u v, g = u ++ c :: v ∧ Matches ok u p ∧ Matches ok v n := by
  constructor
  · intro h
    induction g generalizing p with
    | nil => exact absurd (matches_nil_iff.1 h) (by simp)
    | cons d g ih =>
      by_cases hd : d = star
      · subst hd
        obtain ⟨run, t, ht, hr, h'⟩ := matches_star_cons_iff.1 h
        -- The run ends before the character.
        rcases List.append_eq_append_iff.1 ht with ⟨q, rfl, hn⟩ | ⟨q, rfl, rfl⟩
        · cases q with
          | nil =>
            rw [List.nil_append] at hn
            obtain ⟨u, v, rfl, hu, hv⟩ := ih (p := []) (by rw [List.nil_append, hn]; exact h')
            refine ⟨star :: u, v, rfl, ?_, hv⟩
            simpa using Matches.star hr hu
          | cons e q =>
            obtain ⟨rfl, -⟩ := List.cons.inj hn
            exact absurd (hr _ (List.mem_append_right p List.mem_cons_self)) hok
        · obtain ⟨u, v, rfl, hu, hv⟩ := ih h'
          exact ⟨star :: u, v, rfl, .star hr hu, hv⟩
      · obtain ⟨t, ht, h'⟩ := (matches_cons_iff hd).1 h
        cases p with
        | nil =>
          obtain ⟨rfl, rfl⟩ := List.cons.inj ht
          exact ⟨[], g, rfl, .nil, h'⟩
        | cons e p =>
          obtain ⟨rfl, rfl⟩ := List.cons.inj ht
          obtain ⟨u, v, rfl, hu, hv⟩ := ih h'
          exact ⟨e :: u, v, rfl, .char hd hu, hv⟩
  · rintro ⟨u, v, rfl, hu, hv⟩
    exact hu.append (.char hc hv)

/-! ## A character in the middle -/

/-- What a character `c` of a text takes from a glob: the glob spells it out, or
    it is inside the run of a `*`, whose two halves belong to the two sides. -/
theorem matches_append_cons_iff {c : CodePoint} (hc : c ≠ star) {g p n : Text} :
    Matches AnyChar g (p ++ c :: n) ↔
      (∃ u v, g = u ++ c :: v ∧ Matches AnyChar u p ∧ Matches AnyChar v n) ∨
        ∃ u v, g = u ++ star :: v ∧ Matches AnyChar (u ++ [star]) p ∧
          Matches AnyChar (star :: v) n := by
  constructor
  · intro h
    induction g generalizing p with
    | nil => exact absurd (matches_nil_iff.1 h) (by simp)
    | cons d g ih =>
      by_cases hd : d = star
      · subst hd
        obtain ⟨run, t, ht, _, h'⟩ := matches_star_cons_iff.1 h
        -- Either the run ends before the character, or the character is in it.
        rcases List.append_eq_append_iff.1 ht with ⟨q, hrun, hn⟩ | ⟨q, rfl, rfl⟩
        · cases q with
          | nil =>
            rw [List.nil_append] at hn
            subst hn
            rcases ih (p := []) h' with ⟨u, v, rfl, hu, hv⟩ | ⟨u, v, rfl, hu, hv⟩
            · refine .inl ⟨star :: u, v, rfl, ?_, hv⟩
              simpa using (matches_star p).append hu
            · refine .inr ⟨star :: u, v, rfl, ?_, hv⟩
              simpa using (matches_star p).append hu
          | cons e q =>
            obtain ⟨rfl, rfl⟩ := List.cons.inj hn
            exact .inr ⟨[], g, rfl, matches_star p, .star (fun _ _ => trivial) h'⟩
        · rcases ih h' with ⟨u, v, rfl, hu, hv⟩ | ⟨u, v, rfl, hu, hv⟩
          · exact .inl ⟨star :: u, v, rfl, .star (fun _ _ => trivial) hu, hv⟩
          · exact .inr ⟨star :: u, v, rfl, .star (fun _ _ => trivial) hu, hv⟩
      · obtain ⟨t, ht, h⟩ := (matches_cons_iff hd).1 h
        cases p with
        | nil =>
          obtain ⟨rfl, rfl⟩ := List.cons.inj ht
          exact .inl ⟨[], g, rfl, .nil, h⟩
        | cons e p =>
          obtain ⟨rfl, rfl⟩ := List.cons.inj ht
          rcases ih h with ⟨u, v, rfl, hu, hv⟩ | ⟨u, v, rfl, hu, hv⟩
          · exact .inl ⟨e :: u, v, rfl, .char hd hu, hv⟩
          · exact .inr ⟨e :: u, v, rfl, .char hd hu, hv⟩
  · rintro (⟨u, v, rfl, hu, hv⟩ | ⟨u, v, rfl, hu, hv⟩)
    · exact hu.append (.char hc hv)
    · -- The halves of the run and the character between them are one run.
      obtain ⟨a, b, rfl, ha, _⟩ := matches_append_iff.1 hu
      obtain ⟨run, t, rfl, _, ht⟩ := matches_star_cons_iff.1 hv
      have := ha.append (@Matches.star AnyChar (b ++ c :: run) _ _ (fun _ _ => trivial) ht)
      simpa using this

end Depot.Glob
