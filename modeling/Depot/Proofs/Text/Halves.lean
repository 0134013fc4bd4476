import Depot.Text

/-!
# Texts without halves of surrogate pairs

A text that is printed, or written to a file, must not have half of a surrogate pair.
`Text.IsWhole` says that it has none; string literals are whole, and so is what is cut
out of whole texts or joined from them.
-/

namespace Depot.Text

variable {t u between : Text} {ts : List Text} {c sep : CodePoint}

/-- There is no half of a surrogate pair in the text. -/
def IsWhole (t : Text) : Prop := ∀ c ∈ t, c.isHalf = false

theorem any_isHalf_eq_false_iff : t.any CodePoint.isHalf = false ↔ t.IsWhole := by
  simp only [List.any_eq_false, Bool.not_eq_true, IsWhole]

instance (t : Text) : Decidable t.IsWhole := decidable_of_iff _ any_isHalf_eq_false_iff

theorem isWhole_nil : IsWhole [] := List.forall_mem_nil _

theorem isWhole_cons : IsWhole (c :: t) ↔ c.isHalf = false ∧ t.IsWhole := List.forall_mem_cons

theorem isWhole_append : IsWhole (t ++ u) ↔ t.IsWhole ∧ u.IsWhole := List.forall_mem_append

theorem IsWhole.subset (h : t.IsWhole) (hu : u ⊆ t) : u.IsWhole := fun c hc => h c (hu hc)

/-- String literals have characters alone. -/
theorem isWhole_ofString (s : String) : IsWhole (ofString s) := by
  intro c hc
  obtain ⟨_, _, rfl⟩ := List.mem_map.1 hc
  rfl

/-- Different strings are different texts. -/
theorem ofString_inj {a b : String} : ofString a = ofString b ↔ a = b := by
  rw [ofString, ofString, ofChars, ofChars, List.map_inj_right fun _ _ h => CodePoint.char.inj h,
    String.toList_inj]

theorem subset_of_mem_pieces (h : u ∈ pieces sep t) : u ⊆ t := by
  induction t generalizing u with
  | nil => exact List.mem_singleton.1 h ▸ List.Subset.refl []
  | cons c t ih =>
    rw [pieces] at h
    split at h
    · rcases List.mem_cons.1 h with rfl | h
      · exact List.nil_subset _
      · exact List.Subset.trans (ih h) (List.subset_cons_self c t)
    · cases hp : pieces sep t with
      | nil => exact absurd hp (pieces_ne_nil sep t)
      | cons p ps =>
        rw [hp] at h ih
        rcases List.mem_cons.1 h with rfl | h
        · exact List.cons_subset_cons c (ih List.mem_cons_self)
        · exact List.Subset.trans (ih (List.mem_cons_of_mem p h)) (List.subset_cons_self c t)

theorem forall_mem_joined {P : CodePoint → Prop} (hbetween : ∀ c ∈ between, P c)
    (h : ∀ t ∈ ts, ∀ c ∈ t, P c) : ∀ c ∈ joined between ts, P c := by
  induction ts with
  | nil => exact List.forall_mem_nil _
  | cons t ts ih =>
    cases ts with
    | nil => exact (joined_singleton between t).symm ▸ h t List.mem_cons_self
    | cons u us =>
      rw [joined_cons_cons, List.forall_mem_append, List.forall_mem_append]
      exact ⟨h t List.mem_cons_self, hbetween, ih fun v hv => h v (List.mem_cons_of_mem t hv)⟩

end Depot.Text
