import Depot.Proofs.Search.Files
import Depot.Proofs.Spec.Parentheses

/-!
# Kinds of entries and their queries

The kind of an entry is read off its pattern as it is written, and its query is made
from the pattern as it is written out. The two agree: an entry is one for many items
when its pattern written out has a `*` (`Entry.kind_eq_wildcard_iff`), and this `*` is
found again in the repository or in a location of the query, whether the search
recurses or not (`Filter.hasStar_files_iff`).

Nothing is cut in a pattern without `*` (`Location.ofFilePattern_of_not_mem`). So an
entry for one item has one location, and the search for it does not go by whether it
is to recurse (`Entry.kind_agrees`).
-/

namespace Depot

open Search Glob

namespace Search

variable {p : Text} {l : Location}

/-! ## The star of a pattern -/

/-- There is a `*` in the path or in the name. -/
def Location.HasStar (l : Location) : Prop := star ∈ l.path ∨ star ∈ l.name

/-- There is a `*` in the repository or in a location. -/
def Filter.HasStar (f : Filter) : Prop := star ∈ f.repository ∨ ∃ l ∈ f.locations, l.HasStar

namespace Pattern

theorem star_mem_unsaid_iff : star ∈ unsaid p ↔ unsaid p ≠ [] := by
  rw [unsaid]
  split
  · split
    · exact iff_of_true List.mem_cons_self (List.cons_ne_nil _ _)
    · exact iff_of_false List.not_mem_nil (fun h => h rfl)
  · decide

/-- A pattern is one for many items if it has a `*` when it is written out. -/
theorem isWildcard_iff_star_mem_prepare : isWildcard p ↔ star ∈ prepare p := by
  rw [isWildcard_iff, prepare_eq_append, List.mem_append, mem_stripParens_iff (by decide),
    star_mem_unsaid_iff]

theorem star_mem_splitRepository_iff :
    star ∈ (splitRepository p).1 ∨ star ∈ (splitRepository p).2 ↔ star ∈ p := by
  rw [splitRepository]
  cases h : Text.cut '/' p with
  | none => exact or_iff_left List.not_mem_nil
  | some s =>
    have hslash : star ≠ .char '/' := by decide
    rw [Text.append_of_cut h, List.mem_append, List.mem_cons, or_iff_right hslash, Option.getD_some]

end Pattern

namespace Location

theorem hasStar_direct_iff : (direct p).HasStar ↔ star ∈ p := by
  rw [direct, HasStar]
  cases h : Text.cutLast '/' p with
  | none => exact or_iff_right (by decide : star ∉ rootPath)
  | some s =>
    have hslash : star ≠ .char '/' := by decide
    rw [Text.append_of_cutLast h, List.mem_append, List.mem_cons, or_iff_right hslash]

/-- Without a `*` there is nothing to cut. -/
theorem ofFilePattern_of_not_mem (h : star ∉ p) (recursive : Bool) :
    ofFilePattern p recursive = [direct p] := by
  cases recursive with
  | false => exact ofFilePattern_false p
  | true =>
    have hp : p ≠ [star] := fun hp => h (hp ▸ List.mem_cons_self)
    have hname : star ∉ (direct p).name := fun hm => h (hasStar_direct_iff.1 (.inr hm))
    have hname' : (direct p).name ≠ [star] := fun hn => hname (hn ▸ List.mem_cons_self)
    have hcuts : cuts [] (direct p).name = [] := by
      refine List.eq_nil_iff_forall_not_mem.2 fun c hc => hname ?_
      obtain ⟨u, v, huv, -⟩ := mem_cuts_iff.1 hc
      exact huv ▸ List.mem_append_right u List.mem_cons_self
    rw [ofFilePattern, if_neg hp]
    simp [hname', cutsBetween_pieces, hcuts]

/-- A search for files neither brings a `*` into a pattern nor loses the one that is
    there. -/
theorem exists_hasStar_ofFilePattern_iff (recursive : Bool) :
    (∃ l ∈ ofFilePattern p recursive, l.HasStar) ↔ star ∈ p := by
  by_cases h : star ∈ p
  · refine iff_of_true ?_ h
    by_cases hp : p = [star]
    · rw [hp, ofFilePattern, if_pos rfl]
      exact ⟨_, List.mem_cons_self, .inr List.mem_cons_self⟩
    · obtain ⟨ls, hls⟩ := exists_ofFilePattern_eq_cons hp recursive
      exact ⟨direct p, hls ▸ List.mem_cons_self, hasStar_direct_iff.2 h⟩
  · rw [ofFilePattern_of_not_mem h, ← hasStar_direct_iff]
    simp

end Location

/-- The `*` of a pattern that is written out is the one of its search for files. -/
theorem Filter.hasStar_files_iff (recursive : Bool) (ps : List Property) :
    (Filter.files p recursive ps).HasStar ↔ star ∈ Pattern.prepare p := by
  rw [HasStar, files, Location.exists_hasStar_ofFilePattern_iff,
    Pattern.star_mem_splitRepository_iff]

end Search

namespace Spec.Entry

variable {e : Entry}

/-! ## Kinds -/

/-- The kind of an entry with a pattern goes by the pattern that is written out. -/
theorem kind_of_pattern (he : e.pattern ≠ []) :
    e.kind? = some (if star ∈ Pattern.prepare e.pattern then .wildcard else .simple) := by
  rw [kind?, if_pos he]
  simp only [Pattern.isWildcard_iff_star_mem_prepare]

theorem kind_eq_wildcard_iff (he : e.pattern ≠ []) :
    e.kind? = some .wildcard ↔ star ∈ Pattern.prepare e.pattern := by
  by_cases h : star ∈ Pattern.prepare e.pattern <;> simp [kind_of_pattern he, h]

theorem kind_eq_simple_iff (he : e.pattern ≠ []) :
    e.kind? = some .simple ↔ star ∉ Pattern.prepare e.pattern := by
  by_cases h : star ∈ Pattern.prepare e.pattern <;> simp [kind_of_pattern he, h]

/-- The query for a single item is the same whether it is to recurse or not. -/
theorem query_of_simple (he : e.pattern ≠ []) (hkind : e.kind? = some .simple) (recursive : Bool)
    (fields : List Text) (folders : Bool) :
    ({ e with recursive := recursive }).query fields folders = e.query fields folders := by
  have he' : ({ e with recursive := recursive } : Entry).pattern ≠ [] := he
  cases folders with
  | true => rw [query_folders_of_pattern he', query_folders_of_pattern he]
  | false =>
    have hwild : Pattern.isWildcard e.pattern = false := by
      rw [← Bool.not_eq_true, Pattern.isWildcard_iff_star_mem_prepare]
      exact (kind_eq_simple_iff he).1 hkind
    rw [query_files_of_pattern he', query_files_of_pattern he, hwild, Bool.and_false,
      Bool.and_false]

/-- The kind of an entry agrees with its search for files: it is one for many items
    exactly when there is a `*` in the pattern that is written out, and so in the query
    of either flag. For a single item there is one location, no `*` in it and in the
    repository, and one query whether the search is to recurse or not. -/
theorem kind_agrees (he : e.pattern ≠ []) :
    (e.kind? = some .wildcard ↔ star ∈ Pattern.prepare e.pattern) ∧
    (e.kind? = some .simple ↔ star ∉ Pattern.prepare e.pattern) ∧
    (∀ (recursive : Bool) (properties : Text) (ps : List Property) (fields : List Text),
      Property.parseList properties = .ok ps →
        ∃ f, Query.files e.pattern recursive properties fields = .ok ⟨.generated f, fields⟩ ∧
          (star ∈ Pattern.prepare e.pattern ↔ f.HasStar)) ∧
    (e.kind? = some .simple →
      (∃ (repository : Text) (l : Location), star ∉ repository ∧ star ∉ l.path ∧ star ∉ l.name ∧
        ∀ (recursive : Bool) (properties : Text) (fields : List Text),
          Query.files e.pattern recursive properties fields =
            (Property.parseList properties).map fun ps =>
              ⟨.generated ⟨repository, [l], ps, []⟩, fields⟩) ∧
      ∀ (recursive : Bool) (fields : List Text) (folders : Bool),
        ({ e with recursive := recursive }).query fields folders = e.query fields folders ∧
          ({ e with recursive := recursive }).compile fields folders =
            e.compile fields folders) := by
  refine ⟨kind_eq_wildcard_iff he, kind_eq_simple_iff he, ?_, ?_⟩
  · intro recursive properties ps fields hps
    refine ⟨Filter.files e.pattern recursive ps, ?_, (Filter.hasStar_files_iff recursive ps).symm⟩
    rw [Query.files_eq, hps]
    rfl
  · intro hkind
    have hstar := (kind_eq_simple_iff he).1 hkind
    rw [← Pattern.star_mem_splitRepository_iff, not_or] at hstar
    obtain ⟨hrepository, hrest⟩ := hstar
    -- Without a star in the pattern there is none in its direct location.
    have hlocation := mt Location.hasStar_direct_iff.1 hrest
    rw [Location.HasStar, not_or] at hlocation
    refine ⟨⟨_, _, hrepository, hlocation.1, hlocation.2, fun recursive properties fields => ?_⟩,
      fun recursive fields folders => ?_⟩
    · simp only [Query.files_eq, Filter.files, Location.ofFilePattern_of_not_mem hrest]
    · have hquery := query_of_simple he hkind recursive fields folders
      exact ⟨hquery, congrArg (·.map Query.render) hquery⟩

theorem kind_agrees_library :
    let e : Entry := ⟨"(libs)/a(/)b.jar", [], "status=ok", true, false, false, []⟩
    let e' : Entry := ⟨"libs/(a)/", [], "status=ok", true, false, false, []⟩
    e.pattern ≠ [] ∧ e'.pattern ≠ [] ∧ e.kind? = some .simple ∧
      Property.parseList e'.properties = .ok [⟨"status", "ok"⟩] ∧ e'.kind? = some .wildcard ∧
      (∃ f, Query.files e'.pattern false e'.properties [] = .ok ⟨.generated f, []⟩ ∧ f.HasStar) ∧
      ({ e with recursive := false }).compile defaultFields false =
        e.compile defaultFields false := by
  intro e e'
  have he : e.pattern ≠ [] := by decide
  have he' : e'.pattern ≠ [] := by decide
  have hkind : e.kind? = some .simple := rfl
  have hstar : star ∈ Pattern.prepare e'.pattern := by decide
  have hparse : Property.parseList e'.properties = .ok [⟨"status", "ok"⟩] := rfl
  obtain ⟨-, -, -, single⟩ := kind_agrees he
  obtain ⟨wildcard, -, queries, -⟩ := kind_agrees he'
  obtain ⟨f, hf, hstarred⟩ := queries false e'.properties _ [] hparse
  exact ⟨he, he', hkind, hparse, wildcard.2 hstar, ⟨f, hf, hstarred.1 hstar⟩,
    ((single hkind).2 false defaultFields false).2⟩

end Spec.Entry

end Depot
