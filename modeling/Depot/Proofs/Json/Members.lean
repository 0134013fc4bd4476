import Depot.Json.Basic
import Mathlib.Data.List.Basic

/-!
# Members of objects

Of members that are given one after the other, an object has the last one with each key
(`find?_ofMembers`) in the place of the first one, and no others (`mem_of_mem_ofMembers`).
Its value may be any other one without changing anything else of the object
(`exists_ofMembers_eq`).

A text stands for what it writes with repeated keys collapsed. The member that counts for a
key after this, also when the keys are renamed and collapsed again, is one member of the text
(`exists_of_find?_collapsed`, `exists_of_find?_renamed`).
-/

namespace Depot.Json

/-! ## Lookup -/

variable {key : Text} {ms : List (Text × Json)}

theorem find?_append (key : Text) (ms ms' : List (Text × Json)) :
    find? key (ms ++ ms') = (find? key ms).or (find? key ms') := by
  rw [find?, List.find?_append, Option.map_or]
  rfl

theorem find?_cons (key : Text) (m : Text × Json) (ms : List (Text × Json)) :
    find? key (m :: ms) = if m.1 = key then some m.2 else find? key ms := by
  by_cases hm : m.1 = key <;> simp [find?, hm]

theorem find?_eq_none_iff : find? key ms = none ↔ key ∉ ms.map (·.1) := by
  rw [find?, Option.map_eq_none_iff, List.find?_eq_none, List.mem_map, not_exists]
  refine forall_congr' fun m => ?_
  rw [not_and, decide_eq_true_eq]

theorem find?_filter (p : Text → Bool) (key : Text) (ms : List (Text × Json)) :
    find? key (ms.filter fun m => p m.1) = if p key then find? key ms else none := by
  induction ms with
  | nil => exact (ite_self none).symm
  | cons m ms ih =>
    rw [List.filter_cons, find?_cons]
    by_cases hm : m.1 = key
    · subst hm
      by_cases hp : p m.1
      · rw [if_pos hp, if_pos hp, if_pos rfl, find?_cons, if_pos rfl]
      · rw [if_neg hp, if_neg hp, ih, if_neg hp]
    · rw [if_neg hm]
      split
      · rw [find?_cons, if_neg hm, ih]
      · exact ih

/-- Of members given one after the other, the last one with a key counts. -/
theorem find?_ofMembers (key : Text) (ms : List (Text × Json)) :
    find? key (ofMembers ms) = find? key ms.reverse := by
  have hfold : ∀ acc, find? key (ms.foldl (fun ms m => insert m.1 m.2 ms) acc) =
      (find? key ms.reverse).or (find? key acc) := by
    induction ms with
    | nil => exact fun _ => rfl
    | cons m ms ih =>
      intro acc
      have hinsert : find? key (insert m.1 m.2 acc) = (find? key [m]).or (find? key acc) := by
        by_cases hm : key = m.1
        · rw [hm, find?_insert_self]
          simp [find?]
        · rw [find?_insert_of_ne hm]
          simp [find?, Ne.symm hm]
      rw [List.foldl_cons, ih, hinsert, List.reverse_cons, find?_append, Option.or_assoc]
  rw [ofMembers, hfold]
  exact Option.or_none

/-- Filtering by key goes past giving a key a value. -/
theorem filter_insert {α : Type} (p : Text → Bool) (key : Text) (value : α)
    (ms : List (Text × α)) :
    (insert key value ms).filter (fun m => p m.1) =
      if p key then insert key value (ms.filter fun m => p m.1)
      else ms.filter fun m => p m.1 := by
  induction ms with
  | nil => by_cases hp : p key <;> simp [insert, hp]
  | cons m ms ih =>
    by_cases hm : m.1 = key
    · by_cases hp : p key <;> simp [insert, hm, hp]
    · rw [insert, if_neg hm, List.filter_cons, List.filter_cons, ih]
      by_cases hp : p m.1
      · rw [if_pos hp, if_pos hp]
        split
        · rw [insert, if_neg hm]
        · rfl
      · rw [if_neg hp, if_neg hp]

/-- Members can be filtered by key before they are put together to an object. -/
theorem filter_ofMembers {α : Type} (p : Text → Bool) (ms : List (Text × α)) :
    (ofMembers ms).filter (fun m => p m.1) = ofMembers (ms.filter fun m => p m.1) := by
  have hfold : ∀ acc : List (Text × α),
      (ms.foldl (fun ms m => insert m.1 m.2 ms) acc).filter (fun m => p m.1) =
        (ms.filter fun m => p m.1).foldl (fun ms m => insert m.1 m.2 ms)
          (acc.filter fun m => p m.1) := by
    induction ms with
    | nil => exact fun _ => rfl
    | cons m ms ih =>
      intro acc
      rw [List.foldl_cons, ih, filter_insert, List.filter_cons]
      split <;> rfl
  exact hfold []

/-! ## What objects are put together of -/

theorem mem_of_mem_insert {α : Type} {key : Text} {value : α} {ms : List (Text × α)}
    {m : Text × α} (h : m ∈ insert key value ms) : m = (key, value) ∨ m ∈ ms := by
  induction ms with
  | nil => exact .inl (List.mem_singleton.1 h)
  | cons m' ms ih =>
    rw [insert] at h
    split at h
    · exact (List.mem_cons.1 h).imp_right (List.mem_cons_of_mem _)
    · rcases List.mem_cons.1 h with rfl | h
      · exact .inr List.mem_cons_self
      · exact (ih h).imp_right (List.mem_cons_of_mem _)

/-- An object has no other members than it was given. -/
theorem mem_of_mem_ofMembers {α : Type} {ms : List (Text × α)} {m : Text × α}
    (h : m ∈ ofMembers ms) : m ∈ ms := by
  have hfold : ∀ acc : List (Text × α),
      m ∈ ms.foldl (fun ms m => insert m.1 m.2 ms) acc → m ∈ ms ∨ m ∈ acc := by
    clear h
    induction ms with
    | nil => exact fun _ h => .inr h
    | cons m' ms ih =>
      intro acc h
      rcases ih (insert m'.1 m'.2 acc) h with h | h
      · exact .inl (List.mem_cons_of_mem _ h)
      · rcases mem_of_mem_insert h with rfl | h
        · exact .inl List.mem_cons_self
        · exact .inr h
  exact (hfold [] h).resolve_right List.not_mem_nil

theorem collapseItems_eq_map (vs : List Json) : collapseItems vs = vs.map collapse := by
  induction vs with
  | nil => rfl
  | cons v vs ih => rw [collapseItems, ih, List.map_cons]

theorem collapseMembers_eq_map (ms : List (Text × Json)) :
    collapseMembers ms = ms.map fun m => (m.1, collapse m.2) := by
  induction ms with
  | nil => rfl
  | cons m ms ih => rw [collapseMembers, ih, List.map_cons]

theorem collapse_eq_list {v : Json} {vs : List Json} (h : v.collapse = .list vs) :
    ∃ ws, v = .list ws ∧ ws.map collapse = vs := by
  cases v with
  | list ws =>
    rw [collapse, collapseItems_eq_map] at h
    exact ⟨ws, rfl, Json.list.inj h⟩
  | _ => simp [collapse] at h

theorem collapse_eq_object {v : Json} (h : v.collapse = .object ms) :
    ∃ ms', v = .object ms' ∧ ofMembers (collapseMembers ms') = ms := by
  cases v with
  | object ms' =>
    rw [collapse] at h
    exact ⟨ms', rfl, Json.object.inj h⟩
  | _ => simp [collapse] at h

/-! ## Values that are collapsed -/

theorem collapseItems_eq_self_iff {vs : List Json} :
    collapseItems vs = vs ↔ ∀ v ∈ vs, collapse v = v := by
  have h := List.map_inj_left (l := vs) (f := collapse) (g := id)
  rwa [List.map_id, ← collapseItems_eq_map] at h

theorem collapseMembers_eq_self_iff :
    collapseMembers ms = ms ↔ ∀ m ∈ ms, collapse m.2 = m.2 := by
  have h := List.map_inj_left (l := ms) (f := fun m => (m.1, collapse m.2)) (g := id)
  rw [List.map_id, ← collapseMembers_eq_map] at h
  exact h.trans (forall₂_congr fun m _ => (Prod.ext_iff.trans (and_iff_right rfl)))

mutual

/-- A value is collapsed once and for all. -/
theorem collapse_collapse : ∀ v : Json, v.collapse.collapse = v.collapse
  | .null | .bool _ | .int _ | .double _ | .text _ => rfl
  | .list vs => by
    rw [collapse, collapse, collapseItems_eq_self_iff.2 (collapse_of_mem_items vs)]
  | .object ms => by
    rw [collapse, collapse, collapseMembers_eq_self_iff.2 fun m hm =>
      collapse_of_mem_members ms m (mem_of_mem_ofMembers hm),
      ofMembers_of_nodup (nodup_ofMembers _)]

theorem collapse_of_mem_items : ∀ (vs : List Json), ∀ v ∈ collapseItems vs, collapse v = v
  | [] => fun _ hv => nomatch hv
  | v :: vs => List.forall_mem_cons.2 ⟨collapse_collapse v, collapse_of_mem_items vs⟩

theorem collapse_of_mem_members :
    ∀ (ms : List (Text × Json)), ∀ m ∈ collapseMembers ms, collapse m.2 = m.2
  | [] => fun _ hm => nomatch hm
  | (_, v) :: ms => List.forall_mem_cons.2 ⟨collapse_collapse v, collapse_of_mem_members ms⟩

end

theorem collapse_list_eq_iff {vs : List Json} :
    collapse (.list vs) = .list vs ↔ ∀ v ∈ vs, collapse v = v := by
  rw [collapse, list.injEq, collapseItems_eq_self_iff]

/-- An object is collapsed when its keys are distinct and its values are collapsed. -/
theorem collapse_object_eq_iff :
    collapse (.object ms) = .object ms ↔ (ms.map (·.1)).Nodup ∧ ∀ m ∈ ms, collapse m.2 = m.2 := by
  rw [collapse, object.injEq]
  constructor
  · intro h
    exact ⟨h ▸ nodup_ofMembers _, fun m hm =>
      collapse_of_mem_members ms m (mem_of_mem_ofMembers (h.symm ▸ hm))⟩
  · rintro ⟨hnodup, hvalues⟩
    rw [collapseMembers_eq_self_iff.2 hvalues, ofMembers_of_nodup hnodup]

/-! ## The member that counts -/

/-- The last member with a key, among the others. -/
theorem exists_of_find?_reverse {v : Json} (h : find? key ms.reverse = some v) :
    ∃ before after, ms = before ++ (key, v) :: after ∧ key ∉ after.map (·.1) := by
  induction ms with
  | nil => cases h
  | cons m ms ih =>
    rw [List.reverse_cons, find?_append, Option.or_eq_some_iff] at h
    rcases h with h | ⟨hnone, h⟩
    · obtain ⟨before, after, rfl, hafter⟩ := ih h
      exact ⟨m :: before, after, rfl, hafter⟩
    · rw [find?_cons] at h
      obtain ⟨rfl, hv⟩ := Option.ite_none_right_eq_some.1 h
      obtain rfl := Option.some.inj hv
      refine ⟨[], ms, rfl, ?_⟩
      rw [find?_eq_none_iff, List.map_reverse, List.mem_reverse] at hnone
      exact hnone

theorem exists_insert_eq {α : Type} (key : Text) (ms : List (Text × α)) :
    ∃ before after, ∀ value, insert key value ms = before ++ (key, value) :: after := by
  induction ms with
  | nil => exact ⟨[], [], fun _ => rfl⟩
  | cons m ms ih =>
    by_cases hm : m.1 = key
    · exact ⟨[], ms, fun value => by rw [insert, if_pos hm]; rfl⟩
    · obtain ⟨before, after, h⟩ := ih
      exact ⟨m :: before, after, fun value => by rw [insert, if_neg hm, h]; rfl⟩

theorem exists_insert_append_eq {α : Type} {other : Text} (h : key ≠ other) (value : α)
    (before after : List (Text × α)) :
    ∃ before' after', ∀ v, insert other value (before ++ (key, v) :: after) =
      before' ++ (key, v) :: after' := by
  induction before with
  | nil =>
    exact ⟨[], insert other value after,
      fun v => by rw [List.nil_append, insert, if_neg h]; rfl⟩
  | cons m before ih =>
    by_cases hm : m.1 = other
    · exact ⟨(other, value) :: before, after,
        fun v => by rw [List.cons_append, insert, if_pos hm]; rfl⟩
    · obtain ⟨before', after', h'⟩ := ih
      exact ⟨m :: before', after', fun v => by rw [List.cons_append, insert, if_neg hm, h']; rfl⟩

/-- Whatever the value of the last member with a key, it has the same place in the object, among
    the same members. -/
theorem exists_ofMembers_eq {α : Type} {after : List (Text × α)} (h : key ∉ after.map (·.1))
    (before : List (Text × α)) :
    ∃ before' after', ∀ v, ofMembers (before ++ (key, v) :: after) =
      before' ++ (key, v) :: after' := by
  -- What comes after the member has other keys, and so it leaves the member where it is.
  have hfold : ∀ before' after' : List (Text × α), ∃ before'' after'', ∀ v,
      after.foldl (fun ms m => insert m.1 m.2 ms) (before' ++ (key, v) :: after') =
        before'' ++ (key, v) :: after'' := by
    induction after with
    | nil => exact fun before' after' => ⟨before', after', fun _ => rfl⟩
    | cons m after ih =>
      rw [List.map_cons, List.mem_cons, not_or] at h
      intro before' after'
      obtain ⟨before₁, after₁, hinsert⟩ := exists_insert_append_eq h.1 m.2 before' after'
      obtain ⟨before₂, after₂, hfold⟩ := ih h.2 before₁ after₁
      exact ⟨before₂, after₂, fun v => by rw [List.foldl_cons, hinsert, hfold]⟩
  obtain ⟨before₁, after₁, hinsert⟩ := exists_insert_eq key (ofMembers before)
  obtain ⟨before₂, after₂, hfold⟩ := hfold before₁ after₁
  refine ⟨before₂, after₂, fun v => ?_⟩
  rw [← hfold, ← hinsert, ofMembers, List.foldl_append]
  rfl

/-- The member that counts for a key once repeated keys are collapsed. -/
theorem exists_of_find?_collapsed {v : Json}
    (h : find? key (ofMembers (collapseMembers ms)) = some v) :
    ∃ before w after, ms = before ++ (key, w) :: after ∧ w.collapse = v ∧
      ∃ before' after', ∀ w', ofMembers (collapseMembers (before ++ (key, w') :: after)) =
        before' ++ (key, w'.collapse) :: after' := by
  rw [find?_ofMembers, collapseMembers_eq_map] at h
  obtain ⟨before', after', heq, hafter⟩ := exists_of_find?_reverse h
  rw [List.map_eq_append_iff] at heq
  obtain ⟨before, rest, rfl, rfl, heq⟩ := heq
  rw [List.map_eq_cons_iff] at heq
  obtain ⟨m, after, rfl, hm, rfl⟩ := heq
  obtain ⟨rfl, rfl⟩ := Prod.mk.inj hm
  refine ⟨before, m.2, after, rfl, rfl, ?_⟩
  obtain ⟨before', after', h⟩ := exists_ofMembers_eq hafter
    (before.map fun m => (m.1, m.2.collapse))
  refine ⟨before', after', fun w' => ?_⟩
  rw [← h, collapseMembers_eq_map, List.map_append, List.map_cons]

/-- The members with their keys renamed, repeated ones collapsed. -/
def renamed (f : Text → Text) (ms : List (Text × Json)) : List (Text × Json) :=
  ofMembers (ms.map fun m => (f m.1, m.2))

theorem renamed_id (ms : List (Text × Json)) :
    renamed id (ofMembers (collapseMembers ms)) = ofMembers (collapseMembers ms) := by
  have hmap : (ofMembers (collapseMembers ms)).map (fun m => (id m.1, m.2)) =
      ofMembers (collapseMembers ms) := List.map_id _
  rw [renamed, hmap, ofMembers_of_nodup (nodup_ofMembers _)]

theorem find?_renamed (f : Text → Text) (key other : Text) (v : Json)
    (before after : List (Text × Json)) :
    find? other (renamed f (before ++ (key, v) :: after)) =
      (find? other (renamed f after)).or
        (if f key = other then some v else find? other (renamed f before)) := by
  simp only [renamed, find?_ofMembers, List.map_append, List.map_cons, List.reverse_append,
    List.reverse_cons, find?_append, Option.or_assoc]
  congr 1
  rw [find?_cons]
  split <;> rfl

/-- The member that counts for a key once keys are renamed: its value may be any other one, and
    the other keys have the values they had. -/
theorem exists_of_find?_renamed {f : Text → Text} {v : Json}
    (h : find? key (renamed f (ofMembers (collapseMembers ms))) = some v) :
    ∃ before k w after, ms = before ++ (k, w) :: after ∧ w.collapse = v ∧
      ∀ w' other, find? other (renamed f (ofMembers (collapseMembers
        (before ++ (k, w') :: after)))) = if other = key then some w'.collapse else
          find? other (renamed f (ofMembers (collapseMembers ms))) := by
  have hlast := h
  rw [renamed, find?_ofMembers] at hlast
  obtain ⟨before', rest, heq, hafter⟩ := exists_of_find?_reverse hlast
  obtain ⟨before₀, rest₀, htop, rfl, hrest⟩ := List.map_eq_append_iff.1 heq
  obtain ⟨⟨k, u⟩, after₀, rfl, hm, rfl⟩ := List.map_eq_cons_iff.1 hrest
  obtain ⟨rfl, rfl⟩ := Prod.mk.inj hm
  have hnone : find? (f k) (renamed f after₀) = none := by
    rwa [renamed, find?_ofMembers, find?_eq_none_iff, List.map_reverse, List.mem_reverse]
  -- The object has each key once, and so the member is the one that counts for its own key.
  have hnodup := nodup_ofMembers (collapseMembers ms)
  rw [htop, List.map_append, List.map_cons] at hnodup
  have hbefore : k ∉ before₀.map (·.1) := fun hmem =>
    (List.nodup_append.1 hnodup).2.2 _ hmem _ List.mem_cons_self rfl
  have hafter₀ : k ∉ after₀.map (·.1) :=
    (List.nodup_cons.1 (List.nodup_append.1 hnodup).2.1).1
  have hself : find? k (ofMembers (collapseMembers ms)) = some u := by
    rw [htop, find?_append, find?_eq_none_iff.2 hbefore, find?_cons, if_pos rfl, Option.none_or]
  obtain ⟨before, w, after, rfl, rfl, before₁, after₁, hplace⟩ := exists_of_find?_collapsed hself
  obtain ⟨rfl, _, rfl⟩ := (List.append_cons_inj_of_notMem
    (fun hmem => hbefore (List.mem_map_of_mem hmem))
    (fun hmem => hafter₀ (List.mem_map_of_mem hmem))).1 (htop.symm.trans (hplace w))
  refine ⟨before, k, w, after, rfl, rfl, fun w' other => ?_⟩
  rw [hplace, hplace, find?_renamed, find?_renamed]
  by_cases hother : other = f k
  · rw [if_pos hother, hother, hnone, if_pos rfl, Option.none_or]
  · rw [if_neg hother, if_neg (Ne.symm hother), if_neg (Ne.symm hother)]

end Depot.Json
