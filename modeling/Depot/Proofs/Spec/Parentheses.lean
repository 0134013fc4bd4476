import Depot.Proofs.Spec.Compilation

/-!
# Parentheses in patterns

Parentheses are decoration: a pattern stands for the same items without them. They
are removed only after the shape of the pattern was looked at, though, and so they
are decoration as long as they leave its shape alone. The one thing they can do to it
is to stand behind a slash that ends the pattern otherwise (`Pattern.HidesSlash`):
`libs/` asks for everything in `libs`, while `(libs/)` asks for an item without name.

What is to be added to a pattern (`Pattern.unsaid`) decides both how it is written
out (`Pattern.prepare_eq_append`) and whether it is one for many items
(`Pattern.isWildcard_iff`). `Entry.compile_bare_iff` has the consequences for
entries: a hidden slash changes the text of every search for files that compiles,
and nothing else does.
-/

namespace Depot

open Search Glob

namespace Search

namespace Pattern

variable {p : Text}

/-! ## The shape of a pattern -/

/-- What the shape of a pattern leaves unsaid. -/
def unsaid (p : Text) : Text :=
  if .char '/' ∈ p then if Text.endsWith '/' p then [star] else [] else "/*"

/-- Only parentheses, at least one, stand behind the last slash of the pattern. -/
def HidesSlash (p : Text) : Prop :=
  ∃ u d, p = u ++ .char '/' :: d ∧ d ≠ [] ∧ stripParens d = []

theorem mem_stripParens_iff {c : CodePoint} (hc : c ≠ '(' ∧ c ≠ ')') :
    c ∈ stripParens p ↔ c ∈ p := by
  simp [stripParens, hc]

theorem prepare_eq_append (p : Text) : prepare p = stripParens p ++ unsaid p := by
  have hslash : Text.endsWith '/' (p ++ "/") := Text.endsWith_iff.2 ⟨p, rfl⟩
  simp only [prepare, unsaid]
  by_cases h : .char '/' ∈ p
  · rw [if_pos h, if_pos h]
    by_cases hend : Text.endsWith '/' p
    · rw [if_pos hend, if_pos hend, stripParens_append]
      rfl
    · rw [if_neg hend, if_neg hend, List.append_nil]
  · rw [if_neg h, if_neg h, if_pos hslash, List.append_assoc, stripParens_append]
    rfl

theorem isWildcard_iff : isWildcard p ↔ star ∈ p ∨ unsaid p ≠ [] := by
  have hboth : Text.ofString "/*" ≠ [] := by decide
  rw [isWildcard, unsaid, Bool.or_eq_true, Bool.or_eq_true, decide_eq_true_iff,
    decide_eq_true_iff, or_assoc]
  by_cases h : .char '/' ∈ p
  · by_cases hend : Text.endsWith '/' p <;> simp [h, hend]
  · simp [h, hboth]

/-! ## Hidden slashes -/

theorem endsWith_stripParens_iff :
    Text.endsWith '/' (stripParens p) ↔ Text.endsWith '/' p ∨ HidesSlash p := by
  rw [Text.endsWith_iff, Text.endsWith_iff]
  constructor
  · rintro ⟨q, hq⟩
    -- What is left of the pattern ends in a slash: `d` is what was removed behind it.
    obtain ⟨s, t, rfl, -, ht⟩ := List.filter_eq_append_iff.1 hq
    obtain ⟨u, d, rfl, -, -, hd⟩ := List.filter_eq_cons_iff.1 ht
    by_cases hnil : d = []
    · subst hnil
      exact .inl ⟨s ++ u, (List.append_assoc _ _ _).symm⟩
    · exact .inr ⟨s ++ u, d, (List.append_assoc _ _ _).symm, hnil, hd⟩
  · rintro (⟨u, rfl⟩ | ⟨u, d, rfl, -, hd⟩)
    · exact ⟨stripParens u, stripParens_append u _⟩
    · refine ⟨stripParens u, ?_⟩
      rw [List.append_cons, stripParens_append, stripParens_append, hd, List.append_nil]
      rfl

theorem HidesSlash.not_endsWith (h : HidesSlash p) : ¬Text.endsWith '/' p := by
  obtain ⟨u, d, rfl, hne, hd⟩ := h
  rw [List.append_cons, Text.endsWith_append _ _ hne, Text.endsWith_iff]
  rintro ⟨v, rfl⟩
  -- The last parenthesis would be a slash.
  have hmem : .char '/' ∈ stripParens (v ++ [.char '/']) :=
    (mem_stripParens_iff (by decide)).2 (List.mem_append_right v List.mem_cons_self)
  rw [hd] at hmem
  exact absurd hmem List.not_mem_nil

theorem unsaid_stripParens (h : ¬HidesSlash p) : unsaid (stripParens p) = unsaid p := by
  have hmem : .char '/' ∈ stripParens p ↔ .char '/' ∈ p := mem_stripParens_iff (by decide)
  simp only [unsaid, hmem, endsWith_stripParens_iff, h, or_false]

/-- Without parentheses the slash asks for everything behind it. -/
theorem HidesSlash.unsaid_eq (h : HidesSlash p) :
    unsaid p = [] ∧ unsaid (stripParens p) = [star] := by
  have hmem : .char '/' ∈ p := by
    obtain ⟨u, d, rfl, -⟩ := h
    exact List.mem_append_right u List.mem_cons_self
  have hmem' : .char '/' ∈ stripParens p := (mem_stripParens_iff (by decide)).2 hmem
  rw [unsaid, unsaid, if_pos hmem, if_pos hmem', if_neg h.not_endsWith,
    if_pos (endsWith_stripParens_iff.2 (.inr h))]
  exact ⟨rfl, rfl⟩

theorem isWildcard_stripParens_iff :
    isWildcard (stripParens p) = isWildcard p ↔ ¬HidesSlash p ∨ star ∈ p := by
  have hstar : star ∈ stripParens p ↔ star ∈ p := mem_stripParens_iff (by decide)
  rw [Bool.eq_iff_iff, isWildcard_iff, isWildcard_iff, hstar]
  by_cases h : HidesSlash p
  · simp [h, h.unsaid_eq]
  · simp [h, unsaid_stripParens h]

/-- Without a hidden slash a pattern is written out as it is without parentheses. -/
theorem prepare_stripParens (h : ¬HidesSlash p) : prepare (stripParens p) = prepare p := by
  rw [prepare_eq_append, prepare_eq_append, stripParens_stripParens, unsaid_stripParens h]

/-- A hidden slash is the end of the pattern that is written out, and it is not
    without parentheses. -/
theorem HidesSlash.prepare_eq (h : HidesSlash p) :
    Text.endsWith '/' (prepare p) ∧ prepare (stripParens p) = prepare p ++ [star] := by
  rw [prepare_eq_append, prepare_eq_append, stripParens_stripParens, h.unsaid_eq.1,
    h.unsaid_eq.2, List.append_nil]
  exact ⟨endsWith_stripParens_iff.2 (.inr h), rfl⟩

/-- What is put behind a pattern with a slash is not about its repository. -/
theorem splitRepository_append (h : .char '/' ∈ p) (t : Text) :
    splitRepository (p ++ t) = ((splitRepository p).1, (splitRepository p).2 ++ t) := by
  rw [splitRepository, splitRepository, Text.cut_append h]
  cases hcut : Text.cut '/' p with
  | none => exact absurd h (Text.cut_eq_none_iff.1 hcut)
  | some s => rfl

/-- A slash at the end of a pattern is the one behind its repository, or the end of
    what it says about the items. -/
theorem splitRepository_endsWith (h : Text.endsWith '/' p) :
    (splitRepository p).2 = [] ∨ Text.endsWith '/' (splitRepository p).2 := by
  rw [splitRepository]
  cases hcut : Text.cut '/' p with
  | none => exact .inl rfl
  | some s =>
    rw [Text.append_of_cut hcut] at h
    by_cases hs : s.2 = []
    · exact .inl hs
    · rw [List.append_cons, Text.endsWith_append _ _ hs] at h
      exact .inr h

end Pattern

/-! ## The first location -/

namespace Location

/-- Behind a slash, or by itself, the empty name and the `*` start with different
    locations. -/
theorem exists_ofFilePattern_concat_star {r : Text} (hr : r = [] ∨ Text.endsWith '/' r)
    (recursive recursive' : Bool) :
    ∃ path path' ls ls', ofFilePattern r recursive = ⟨path, []⟩ :: ls ∧
      ofFilePattern (r ++ [star]) recursive' = ⟨path', [star]⟩ :: ls' ∧
      (path = path' ∨ path = rootPath ∧ path' = [star]) := by
  have hne : r ≠ [star] := by
    rintro rfl
    exact absurd hr (by decide)
  obtain ⟨ls, hls⟩ := exists_ofFilePattern_eq_cons hne recursive
  rcases hr with rfl | hr
  · refine ⟨rootPath, if recursive' then [star] else rootPath, ls, [], hls, ?_, ?_⟩
    · rw [List.nil_append, ofFilePattern, if_pos rfl]
    · -- A bare `*` is for the whole repository, or for its root.
      cases recursive' with
      | false => exact .inl rfl
      | true => exact .inr ⟨rfl, rfl⟩
  · obtain ⟨path, rfl⟩ := Text.endsWith_iff.1 hr
    have hne' : path ++ [CodePoint.char '/'] ++ [Glob.star] ≠ [Glob.star] := fun h =>
      absurd (congrArg List.length h) (by simp)
    have hdirect : direct (path ++ [CodePoint.char '/']) = ⟨path, []⟩ := by
      rw [direct, Text.cutLast_append_cons List.not_mem_nil]
    have hdirect' : direct (path ++ [CodePoint.char '/'] ++ [Glob.star]) = ⟨path, [star]⟩ := by
      rw [direct, ← List.append_cons, Text.cutLast_append_cons (by decide)]
    obtain ⟨ls', hls'⟩ := exists_ofFilePattern_eq_cons hne' recursive'
    rw [hdirect] at hls
    rw [hdirect'] at hls'
    exact ⟨path, path, ls, ls', hls, hls', .inl rfl⟩

end Location

theorem compared_inj_iff {key operator value value' t t' : Text} :
    compared key operator value t = compared key operator value' t' ↔
      value ++ .char '"' :: .char '}' :: t = value' ++ .char '"' :: .char '}' :: t' := by
  simp [compared]

/-- The first location of a search for files stands in front of the others. -/
theorem Query.exists_render_eq {f : Filter} {l : Location} {ls : List Location}
    (hlocations : f.locations = l :: ls) (htype : f.itemType = []) (fields : List Text) :
    ∃ rest, (⟨.generated f, fields⟩ : Query).render =
      f.beforeLocations ++ (Text.ofString "\x7b\"$and\": [\x7b" ++
        compared "path" "$match" l.path (.char ',' :: compared "name" "$match" l.name rest)) := by
  obtain ⟨more, hmore⟩ : ∃ more, Text.joined ","
      (f.locations.map fun l => "\x7b" ++ l.condition f.itemType ++ "\x7d") =
        "\x7b" ++ (l.condition [] ++ more) := by
    rw [hlocations, htype, List.map_cons]
    cases ls with
    | nil => exact ⟨_, by rw [List.map_nil, Text.joined_singleton, List.append_assoc]⟩
    | cons l' ls =>
      exact ⟨_, by rw [List.map_cons, Text.joined_cons_cons, List.append_assoc, List.append_assoc]⟩
  rw [Query.render_eq_append, hmore, List.append_assoc, List.append_assoc,
    Location.condition_append]
  exact ⟨_, rfl⟩

/-- Two queries differ if one of them asks for the empty name first and the other one
    for any name. -/
theorem Query.render_ne_of_heads {f f' : Filter} {path path' : Text} {ls ls' : List Location}
    (hbefore : f.beforeLocations = f'.beforeLocations)
    (hf : f.locations = ⟨path, []⟩ :: ls) (hf' : f'.locations = ⟨path', [star]⟩ :: ls')
    (htype : f.itemType = []) (htype' : f'.itemType = [])
    (hpath : path = path' ∨ path = rootPath ∧ path' = [star]) (fields : List Text) :
    (⟨.generated f, fields⟩ : Query).render ≠ (⟨.generated f', fields⟩ : Query).render := by
  obtain ⟨rest, hrender⟩ := exists_render_eq hf htype fields
  obtain ⟨rest', hrender'⟩ := exists_render_eq hf' htype' fields
  rw [hrender, hrender', hbefore]
  intro h
  have hpaths := compared_inj_iff.1 (List.append_cancel_left (List.append_cancel_left h))
  -- The texts part at the first path, or behind it at the first name.
  rcases hpath with rfl | ⟨rfl, rfl⟩
  · simp only [List.append_cancel_left_eq, List.cons.injEq, true_and, compared_inj_iff] at hpaths
    exact absurd (List.cons.inj hpaths).1 (by decide)
  · exact absurd (List.cons.inj hpaths).1 (by decide)

/-- A hidden slash tells the pattern from the one without parentheses in every search
    for files. -/
theorem Pattern.HidesSlash.render_files_ne {p : Text} (h : HidesSlash p)
    (recursive recursive' : Bool) (ps : List Property) (fields : List Text) :
    (⟨.generated (Filter.files p recursive ps), fields⟩ : Query).render ≠
      (⟨.generated (Filter.files (stripParens p) recursive' ps), fields⟩ : Query).render := by
  obtain ⟨hend, hstar⟩ := h.prepare_eq
  have hslash : .char '/' ∈ prepare p := by
    obtain ⟨u, hu⟩ := Text.endsWith_iff.1 hend
    simp [hu]
  obtain ⟨path, path', ls, ls', hls, hls', hpath⟩ :=
    Location.exists_ofFilePattern_concat_star (splitRepository_endsWith hend) recursive recursive'
  -- The queries are the same up to their first locations.
  have hbefore : (Filter.files p recursive ps).beforeLocations =
      (Filter.files (stripParens p) recursive' ps).beforeLocations := by
    simp only [Filter.beforeLocations, Filter.files, hstar, splitRepository_append hslash]
  have hlocations : (Filter.files p recursive ps).locations = ⟨path, []⟩ :: ls := by
    simp only [Filter.files, hls]
  have hlocations' :
      (Filter.files (stripParens p) recursive' ps).locations = ⟨path', [star]⟩ :: ls' := by
    simp only [Filter.files, hstar, splitRepository_append hslash, hls']
  exact Query.render_ne_of_heads hbefore hlocations hlocations' rfl rfl hpath fields

end Search

namespace Spec.Entry

/-! ## Entries without parentheses -/

/-- The entry with the parentheses of its pattern removed. -/
def bare (e : Entry) : Entry := { e with pattern := Pattern.stripParens e.pattern }

variable {e : Entry}

theorem pattern_ne_nil_of_bare (he : e.bare.pattern ≠ []) : e.pattern ≠ [] := by
  intro h
  rw [bare, h] at he
  exact he rfl

theorem kind_bare_iff (he : e.bare.pattern ≠ []) :
    e.bare.kind? = e.kind? ↔ ¬Pattern.HidesSlash e.pattern ∨ star ∈ e.pattern := by
  rw [← Pattern.isWildcard_stripParens_iff, kind?, kind?, if_pos he,
    if_pos (pattern_ne_nil_of_bare he), bare]
  cases Pattern.isWildcard e.pattern <;>
    cases Pattern.isWildcard (Pattern.stripParens e.pattern) <;> simp

theorem compile_bare_folders (he : e.bare.pattern ≠ []) (fields : List Text) :
    e.bare.compile fields true = e.compile fields true := by
  rw [compile, compile, query_folders_of_pattern he,
    query_folders_of_pattern (pattern_ne_nil_of_bare he), bare, Query.folders, Query.folders,
    Pattern.stripParens_stripParens]

theorem compile_bare_files_iff (he : e.bare.pattern ≠ []) (fields : List Text) :
    e.bare.compile fields false = e.compile fields false ↔
      ¬Pattern.HidesSlash e.pattern ∨ ∃ m, Property.parseList e.properties = .error m := by
  rw [compile_files_of_pattern he, compile_files_of_pattern (pattern_ne_nil_of_bare he), bare]
  cases hps : Property.parseList e.properties with
  | error m => simp
  | ok ps =>
    simp only [Except.ok.injEq, reduceCtorEq, exists_false, or_false]
    constructor
    · exact fun h hhides => hhides.render_files_ne _ _ ps fields h.symm
    · intro hhides
      have hwild := Pattern.isWildcard_stripParens_iff.2 (.inl hhides)
      simp only [hwild, Filter.files, Pattern.prepare_stripParens hhides]

/-- Parentheses are decoration, unless they hide the slash that ends a pattern. Then
    the pattern is of another kind without them, but for one with a `*`, and another
    text comes of every search for files that compiles. -/
theorem compile_bare_iff (he : e.bare.pattern ≠ []) :
    (e.bare.kind? = e.kind? ↔ ¬Pattern.HidesSlash e.pattern ∨ star ∈ e.pattern) ∧
      ∀ (fields : List Text) (folders : Bool),
        e.bare.compile fields folders = e.compile fields folders ↔
          ¬Pattern.HidesSlash e.pattern ∨ folders = true ∨
            ∃ m, Property.parseList e.properties = .error m := by
  refine ⟨kind_bare_iff he, fun fields folders => ?_⟩
  cases folders with
  | true => exact iff_of_true (compile_bare_folders he fields) (.inr (.inl rfl))
  | false =>
    rw [compile_bare_files_iff he fields]
    simp

theorem compile_bare_iff_library :
    let e : Entry := ⟨"(libs/(a*)/b.jar)", [], "status=ok", true, false, false, []⟩
    let e' : Entry := ⟨"(libs/a*/)", [], "status=ok", true, false, false, []⟩
    e.bare.pattern ≠ [] ∧ e'.bare.pattern ≠ [] ∧ e.bare.kind? = e.kind? ∧
      e.bare.compile defaultFields false = e.compile defaultFields false ∧
      e'.bare.kind? = e'.kind? ∧
      e'.bare.compile defaultFields false ≠ e'.compile defaultFields false := by
  intro e e'
  have he : e.bare.pattern ≠ [] := by decide
  have he' : e'.bare.pattern ≠ [] := by decide
  have hshows : ¬Pattern.HidesSlash e.pattern := fun h =>
    absurd (Pattern.endsWith_stripParens_iff.2 (.inr h)) (by decide)
  have hhides : Pattern.HidesSlash e'.pattern := ⟨"(libs/a*", ")", rfl, by decide, rfl⟩
  have hparse : Property.parseList e'.properties = .ok [⟨"status", "ok"⟩] := rfl
  obtain ⟨hkind, hcompile⟩ := compile_bare_iff he
  obtain ⟨hkind', hcompile'⟩ := compile_bare_iff he'
  refine ⟨he, he', hkind.2 (.inl hshows), (hcompile _ _).2 (.inl hshows),
    hkind'.2 (.inr (by decide)), fun h => ?_⟩
  rcases (hcompile' _ _).1 h with h | h | ⟨m, h⟩
  · exact h hhides
  · exact absurd h (by decide)
  · exact absurd h (by simp [hparse])

/-- `libs/` is a search for everything in `libs`; in parentheses it is one for an item
    without name. -/
theorem hidden_slash_changes_query :
    let e : Entry := ⟨"(libs/)", [], [], true, false, false, []⟩
    e.bare.pattern ≠ [] ∧ e.kind? = some .simple ∧ e.bare.kind? = some .wildcard ∧
      e.query [] false = .ok ⟨.generated ⟨"libs", [⟨".", []⟩], [], []⟩, []⟩ ∧
      e.bare.query [] false = .ok ⟨.generated ⟨"libs", [⟨"*", "*"⟩], [], []⟩, []⟩ ∧
      e.bare.compile [] false ≠ e.compile [] false :=
  ⟨by decide, rfl, rfl, rfl, rfl, fun h => absurd (Except.ok.inj h) (by decide)⟩

end Spec.Entry

end Depot
