import Depot.Search.Location

/-!
# Paths in their shortest form

The shortest form of a path is made from the slashes in front of it (`leading`)
and from the stack of components that simplifying leaves (`components`). A
component of that stack is a name or `..`, neither empty nor `.`
(`mem_components`), and so the form is `.` only when there is nothing in front
and nothing on the stack (`simplify_eq_rootPath_iff`).

Joining one more segment to a path puts it on the stack (`join_eq`). For folders
with names of their own this is to write one path behind the other
(`join_of_isClean`).
-/

namespace Depot.Search.Location

/-! ## Components -/

/-- A segment that the shortest form of a path keeps. -/
def IsClean (s : Text) : Prop := s ≠ [] ∧ s ≠ "." ∧ s ≠ ".."

/-- The slashes in front of the shortest form of a path. -/
def leading (p : Text) : Text :=
  let slashes := (p.takeWhile Text.isSlash).length
  Text.repeated (if slashes = 2 then 2 else min slashes 1) '/'

/-- The components of the shortest form of a path, the last one first. -/
def components (p : Text) : List Text :=
  (Text.pieces '/' p).foldl (pushComponent (leading p ≠ [])) []

theorem simplify_eq (p : Text) :
    simplify p =
      let simple := leading p ++ Text.joined "/" (components p).reverse
      if simple = [] then rootPath else simple :=
  rfl

theorem pushComponent_of_isClean {s : Text} (hs : IsClean s) (absolute : Bool)
    (stack : List Text) : pushComponent absolute stack s = s :: stack := by
  rw [pushComponent.eq_def, if_neg, if_pos hs.2.2]
  rintro (h | h)
  · exact hs.1 h
  · exact hs.2.1 h

theorem foldl_pushComponent {ss : List Text} (h : ∀ s ∈ ss, IsClean s) (absolute : Bool)
    (stack : List Text) : ss.foldl (pushComponent absolute) stack = ss.reverse ++ stack := by
  induction ss generalizing stack with
  | nil => rfl
  | cons s ss ih =>
    rw [List.foldl_cons, pushComponent_of_isClean (h s List.mem_cons_self),
      ih fun s hs => h s (List.mem_cons_of_mem _ hs)]
    simp

/-- A step of simplifying puts at most its own component on the stack, and no
    empty one and no `.`. -/
theorem mem_pushComponent {absolute : Bool} {stack : List Text} {s c : Text}
    (h : c ∈ pushComponent absolute stack s) : c ∈ stack ∨ c = s ∧ c ≠ [] ∧ c ≠ "." := by
  rw [pushComponent.eq_def] at h
  by_cases hskip : s = [] ∨ s = "."
  · rw [if_pos hskip] at h
    exact .inl h
  rw [if_neg hskip] at h
  rw [not_or] at hskip
  by_cases hup : s ≠ ".."
  · rw [if_pos hup] at h
    rcases List.mem_cons.1 h with rfl | h
    · exact .inr ⟨rfl, hskip⟩
    · exact .inl h
  rw [if_neg hup] at h
  -- A `..` takes the component before it away, unless there is none to take.
  cases stack with
  | nil =>
    cases absolute with
    | true => exact .inl h
    | false =>
      obtain rfl := List.mem_singleton.1 h
      exact .inr ⟨rfl, hskip⟩
  | cons top below =>
    simp only at h
    split at h
    · rcases List.mem_cons.1 h with rfl | h
      · exact .inr ⟨rfl, hskip⟩
      · exact .inl h
    · exact .inl (List.mem_cons_of_mem _ h)

theorem mem_foldl_pushComponent {absolute : Bool} {stack ss : List Text} {c : Text}
    (h : c ∈ ss.foldl (pushComponent absolute) stack) : c ∈ stack ∨ c ∈ ss ∧ c ≠ [] ∧ c ≠ "." := by
  induction ss generalizing stack with
  | nil => exact .inl h
  | cons s ss ih =>
    rcases ih h with h | ⟨h, hc⟩
    · rcases mem_pushComponent h with h | ⟨rfl, hc⟩
      · exact .inl h
      · exact .inr ⟨List.mem_cons_self, hc⟩
    · exact .inr ⟨List.mem_cons_of_mem _ h, hc⟩

theorem mem_components {p c : Text} (h : c ∈ components p) : c ≠ [] ∧ c ≠ "." ∧ .char '/' ∉ c := by
  rcases mem_foldl_pushComponent h with h | ⟨h, hne, hdot⟩
  · exact absurd h List.not_mem_nil
  · exact ⟨hne, hdot, Text.not_mem_of_mem_pieces h⟩

theorem slash_mem_leading {p : Text} (h : leading p ≠ []) : .char '/' ∈ leading p := by
  obtain ⟨c, t, ht⟩ := List.exists_cons_of_ne_nil h
  have hc : c ∈ leading p := ht ▸ List.mem_cons_self
  exact List.eq_of_mem_replicate hc ▸ hc

/-- Components do not make up the path of the root, whose `.` would be one of them. -/
theorem joined_components_ne_rootPath (p : Text) :
    Text.joined "/" (components p).reverse ≠ rootPath := by
  intro h
  have hne : (components p).reverse ≠ [] := fun hc => by
    rw [hc] at h
    exact absurd h (by decide)
  have hpieces : Text.pieces '/' (Text.joined "/" (components p).reverse) =
      (components p).reverse :=
    Text.pieces_joined hne fun c hc => (mem_components (List.mem_reverse.1 hc)).2.2
  rw [h] at hpieces
  have hdot : rootPath ∈ (components p).reverse := hpieces ▸ List.mem_singleton.2 rfl
  exact (mem_components (List.mem_reverse.1 hdot)).2.1 rfl

/-- The shortest form of a path is the root when the path has neither slashes in
    front nor components. -/
theorem simplify_eq_rootPath_iff {p : Text} :
    simplify p = rootPath ↔ leading p = [] ∧ components p = [] := by
  constructor
  · intro h
    have hempty : [] ∉ (components p).reverse := fun hm =>
      (mem_components (List.mem_reverse.1 hm)).1 rfl
    rw [simplify_eq] at h
    by_cases hsimple : leading p ++ Text.joined "/" (components p).reverse = []
    · obtain ⟨hl, hj⟩ := List.append_eq_nil_iff.1 hsimple
      exact ⟨hl, List.reverse_eq_nil_iff.1 ((Text.joined_eq_nil_iff hempty).1 hj)⟩
    · simp only [if_neg hsimple] at h
      -- A slash in front would be in the shortest form, and the root has none in it.
      have hl : leading p = [] := Decidable.byContradiction fun hne => by
        have hs := List.mem_append_left (Text.joined "/" (components p).reverse)
          (slash_mem_leading hne)
        rw [h] at hs
        exact absurd hs (by decide)
      rw [hl, List.nil_append] at h
      exact absurd h (joined_components_ne_rootPath p)
  · rintro ⟨hl, hc⟩
    rw [simplify_eq, hl, hc]
    rfl

/-! ## Joining -/

/-- A path and a segment, before they are simplified. -/
def beside (path segment : Text) : Text :=
  if path = [] ∨ Text.endsWith '/' path then path ++ segment else path ++ "/" ++ segment

theorem join_eq_simplify (path segment : Text) :
    join path segment = simplify (beside path segment) :=
  rfl

variable {path s : Text} (hs : IsClean s) (hslash : .char '/' ∉ s)

include hs hslash

theorem takeWhile_beside :
    (beside path s).takeWhile Text.isSlash = path.takeWhile Text.isSlash := by
  have hfront : s.takeWhile Text.isSlash = [] := by
    obtain ⟨c, t, rfl⟩ := List.exists_cons_of_ne_nil hs.1
    have hc : c ≠ '/' := fun h => hslash (h ▸ List.mem_cons_self)
    simp [Text.isSlash, hc]
  rw [beside]
  split
  · rw [List.takeWhile_append, hfront, List.append_nil]
    split
    · next h => exact ((List.takeWhile_prefix _).eq_of_length h).symm
    · rfl
  · next h =>
    rw [not_or] at h
    rw [List.append_assoc, List.takeWhile_append, if_neg]
    -- The path has a last character, which is no slash.
    intro hall
    have hlast : path.getLast h.1 ∈ path.takeWhile Text.isSlash := by
      rw [(List.takeWhile_prefix Text.isSlash).eq_of_length hall]
      exact List.getLast_mem h.1
    have hend : Text.isSlash (path.getLast h.1) = true :=
      List.all_eq_true.1 List.all_takeWhile _ hlast
    rw [Text.isSlash, decide_eq_true_iff] at hend
    exact h.2 (decide_eq_true (by rw [List.getLast?_eq_some_getLast h.1, hend]))

theorem leading_beside : leading (beside path s) = leading path := by
  rw [leading, leading, takeWhile_beside hs hslash]

/-- One more segment is one more component. -/
theorem components_beside : components (beside path s) = s :: components path := by
  have hpiece : Text.pieces '/' s = [s] := Text.pieces_of_not_mem hslash
  rw [components, leading_beside hs hslash, beside]
  split
  · next h =>
    rcases h with rfl | h
    · rw [List.nil_append, hpiece, List.foldl_cons, pushComponent_of_isClean hs]
      rfl
    · obtain ⟨q, rfl⟩ := Text.endsWith_iff.1 h
      have hlast : Text.pieces '/' [] = [[]] := rfl
      rw [List.append_assoc, List.singleton_append, Text.pieces_append_cons, hpiece, components,
        Text.pieces_append_cons, hlast]
      simp only [List.foldl_append, List.foldl_cons, List.foldl_nil, pushComponent_of_isClean hs]
      rfl
  · rw [List.append_assoc, show path ++ (("/" : String) ++ s) = path ++ .char '/' :: s from rfl,
      Text.pieces_append_cons, hpiece, List.foldl_append, List.foldl_cons, List.foldl_nil,
      pushComponent_of_isClean hs, components]

/-- A segment with a name of its own is put behind the shortest form of a path. -/
theorem join_eq :
    join path s = leading path ++ Text.joined "/" ((components path).reverse ++ [s]) := by
  have hne : Text.joined "/" ((components path).reverse ++ [s]) ≠ [] := by
    rw [Ne, Text.joined_eq_nil_iff]
    · simp
    · simp only [List.mem_append, List.mem_reverse, List.mem_singleton, not_or]
      exact ⟨fun h => (mem_components h).1 rfl, Ne.symm hs.1⟩
  rw [join_eq_simplify, simplify_eq, leading_beside hs hslash, components_beside hs hslash,
    List.reverse_cons]
  exact if_neg fun h => hne (List.append_eq_nil_iff.1 h).2

/-- What is joined to a path has a slash before it, unless the path is the root. -/
theorem slash_mem_join (h : simplify path ≠ rootPath) : .char '/' ∈ join path s := by
  rw [join_eq hs hslash, List.mem_append]
  by_cases hl : leading path = []
  · right
    have hc : (components path).reverse ≠ [] := fun hc =>
      h (simplify_eq_rootPath_iff.2 ⟨hl, List.reverse_eq_nil_iff.1 hc⟩)
    rw [Text.joined_concat _ _ hc]
    exact List.mem_append_right _ List.mem_cons_self
  · exact .inl (slash_mem_leading hl)

/-- A path that comes to the root is left out in front of a segment. -/
theorem join_of_simplify_eq_rootPath (h : simplify path = rootPath) : join path s = s := by
  obtain ⟨hl, hc⟩ := simplify_eq_rootPath_iff.1 h
  rw [join_eq hs hslash, hl, hc, List.reverse_nil, List.nil_append, List.nil_append,
    Text.joined_singleton]

omit hs hslash

/-- The segments of a path that begins with a slash begin with an empty one. -/
theorem takeWhile_isSlash_of_isClean {t : Text} (h : ∀ s ∈ Text.pieces '/' t, IsClean s) :
    t.takeWhile Text.isSlash = [] := by
  cases t with
  | nil => rfl
  | cons c t =>
    have hc : c ≠ '/' := by
      rintro rfl
      exact (h [] (by simp [Text.pieces])).1 rfl
    simp [Text.isSlash, hc]

/-- A path of clean segments is continued by a slash and the next segment. -/
theorem join_of_isClean {path s : Text} (hp : ∀ s ∈ Text.pieces '/' path, IsClean s)
    (hs : IsClean s) (hslash : .char '/' ∉ s) : join path s = path ++ .char '/' :: s := by
  have hl : leading path = [] := by
    rw [leading, takeWhile_isSlash_of_isClean hp]
    rfl
  have hc : (components path).reverse = Text.pieces '/' path := by
    rw [components, foldl_pushComponent hp, List.append_nil, List.reverse_reverse]
  have hpath : Text.joined "/" (Text.pieces '/' path) = path := Text.intercalate_pieces '/' path
  rw [join_eq hs hslash, hl, hc, Text.joined_concat _ _ (Text.pieces_ne_nil _ _), hpath]
  rfl

/-- The path of the root is left out in front of a segment. -/
theorem join_rootPath {s : Text} (hs : IsClean s) (hslash : .char '/' ∉ s) :
    join rootPath s = s :=
  join_of_simplify_eq_rootPath hs hslash rfl

end Depot.Search.Location
