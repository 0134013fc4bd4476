import Depot.Proofs.Search.Rendering
import Depot.Spec.Entry

/-!
# Compiling entries

A list of entries is compiled one entry after the other (`compileFrom_append`), and
the first entry that does not compile stops it (`compileAll_of_error`).

An entry with a pattern is a search for files or one for folders. The search for
files has the properties of the entry as conditions of its own
(`query_files_of_pattern`, `Query.render_eq_append`), and does not compile without them.
The search for folders does not look at them, and so a property list goes unheard
exactly where it is written on an entry that is compiled for folders
(`keepsProperties_iff`).
-/

namespace Depot

open Search

namespace Search

/-! ## Queries with properties -/

/-- The filter for the files that a pattern stands for. -/
def Filter.files (pattern : Text) (recursive : Bool) (properties : List Property) : Filter :=
  let s := Pattern.splitRepository (Pattern.prepare pattern)
  ⟨s.1, Location.ofFilePattern s.2 recursive, properties, []⟩

theorem Query.files_eq (pattern : Text) (recursive : Bool) (properties : Text)
    (fields : List Text) :
    Query.files pattern recursive properties fields =
      (Property.parseList properties).map fun ps =>
        ⟨.generated (Filter.files pattern recursive ps), fields⟩ := by
  rw [Query.files]
  cases Property.parseList properties <;> rfl

/-- The text of a query that comes before its locations. -/
def Filter.beforeLocations (f : Filter) : Text :=
  "items.find(\x7b\"repo\": \"" ++ f.repository ++ "\"," ++ Property.clauses f.properties ++
    "\"$or\": ["

/-- The conditions on properties stand in front of the locations. -/
theorem Query.render_eq_append (f : Filter) (fields : List Text) :
    (⟨.generated f, fields⟩ : Query).render =
      f.beforeLocations ++ (Text.joined ","
        (f.locations.map fun l => "\x7b" ++ l.condition f.itemType ++ "\x7d") ++
          ("]\x7d" ++ (").include(" ++ (Text.joined "," fields ++ ")")))) := by
  rw [render_generated, Filter.render, renderFilter, Filter.beforeLocations]
  simp only [List.append_assoc]
  rfl

/-- A property list that is not empty has a property, if it can be read. -/
theorem Property.parseList_ne_nil {t : Text} {ps : List Property} (ht : t ≠ [])
    (h : parseList t = .ok ps) : ps ≠ [] := by
  rw [parseList, if_neg ht] at h
  cases hpieces : Text.pieces ';' t with
  | nil => exact absurd hpieces (Text.pieces_ne_nil ';' t)
  | cons piece pieces =>
    rw [hpieces, List.mapM_cons] at h
    cases hp : parse piece with
    | error m => simp [hp, bind, Except.bind] at h
    | ok p =>
      cases hps : pieces.mapM parse with
      | error m => simp [hp, hps, bind, Except.bind] at h
      | ok ps' =>
        simp only [hp, hps, bind, Except.bind, pure, Except.pure, Except.ok.injEq] at h
        exact h ▸ List.cons_ne_nil p ps'

end Search

namespace Spec.Entry

/-! ## Lists of entries -/

variable {fields : List Text} {folders : Bool} {e : Entry}

theorem compileFrom_cons_eq_ok_iff {index : Nat} {es : List Entry} {qs : List Text} :
    compileFrom index fields folders (e :: es) = .ok qs ↔
      ∃ q qs', e.compile fields folders = .ok q ∧
        compileFrom (index + 1) fields folders es = .ok qs' ∧ q :: qs' = qs := by
  rw [compileFrom]
  cases e.compile fields folders with
  | error fault => simp
  | ok q => cases compileFrom (index + 1) fields folders es <;> simp [Except.map]

theorem compileFrom_cons_eq_error_iff {index : Nat} {es : List Entry} {f : Failure} :
    compileFrom index fields folders (e :: es) = .error f ↔
      (∃ fault, e.compile fields folders = .error fault ∧ ⟨index, fault.fragment e, fault⟩ = f) ∨
        ∃ q, e.compile fields folders = .ok q ∧
          compileFrom (index + 1) fields folders es = .error f := by
  rw [compileFrom]
  cases e.compile fields folders with
  | error fault => simp
  | ok q => cases compileFrom (index + 1) fields folders es <;> simp [Except.map]

/-- The second of two lists is compiled after the first one, with its entries
    counted on. -/
theorem compileFrom_append (index : Nat) (xs ys : List Entry) :
    compileFrom index fields folders (xs ++ ys) =
      match compileFrom index fields folders xs with
      | .error f => .error f
      | .ok qs => (compileFrom (index + xs.length) fields folders ys).map (qs ++ ·) := by
  induction xs generalizing index with
  | nil =>
    rw [List.nil_append, compileFrom, List.length_nil, Nat.add_zero]
    cases compileFrom index fields folders ys <;> rfl
  | cons x xs ih =>
    rw [List.cons_append, compileFrom, compileFrom]
    cases x.compile fields folders with
    | error fault => rfl
    | ok q =>
      simp only [ih, List.length_cons, Nat.add_assoc, Nat.add_comm 1]
      cases compileFrom (index + 1) fields folders xs with
      | error f => rfl
      | ok qs => cases compileFrom (index + (xs.length + 1)) fields folders ys <;> rfl

/-- Entries that are counted on fail as they do when they are counted from the start, but for
    the place. -/
theorem compileFrom_add (index k : Nat) (es : List Entry) :
    compileFrom (index + k) fields folders es =
      (compileFrom k fields folders es).mapError fun f => { f with index := index + f.index } := by
  induction es generalizing k with
  | nil => rfl
  | cons e es ih =>
    have hes := ih (k + 1)
    rw [← Nat.add_assoc] at hes
    rw [compileFrom, compileFrom]
    cases e.compile fields folders with
    | error fault => rfl
    | ok q =>
      simp only [hes]
      cases compileFrom (k + 1) fields folders es <;> rfl

/-- Two lists one after the other compile to the queries of both, or fail as the first one
    does, or as the second one with its place counted on. -/
theorem compileAll_append (xs ys : List Entry) :
    compileAll (xs ++ ys) fields folders =
      match compileAll xs fields folders, compileAll ys fields folders with
      | .error f, _ => .error f
      | .ok _, .error f => .error { f with index := xs.length + f.index }
      | .ok qs, .ok qs' => .ok (qs ++ qs') := by
  have hys : compileFrom xs.length fields folders ys = _ := compileFrom_add xs.length 0 ys
  rw [compileAll, compileAll, compileAll, compileFrom_append, Nat.zero_add, hys]
  cases compileFrom 0 fields folders xs with
  | error f => rfl
  | ok qs => cases compileFrom 0 fields folders ys <;> rfl

/-- The entry that stops a list is one of the list. -/
theorem index_lt_of_compileFrom {index : Nat} {es : List Entry} {f : Failure}
    (h : compileFrom index fields folders es = .error f) : f.index < index + es.length := by
  induction es generalizing index with
  | nil => contradiction
  | cons e es ih =>
    rw [List.length_cons]
    rcases compileFrom_cons_eq_error_iff.1 h with ⟨fault, _, rfl⟩ | ⟨q, _, hes⟩
    · exact Nat.lt_add_of_pos_right (Nat.zero_lt_succ _)
    · have := ih hes
      omega

/-- An entry that does not compile stops every list with it, unless an entry before
    it does. -/
theorem compileAll_of_error {fault : Fault} (h : e.compile fields folders = .error fault)
    (before after : List Entry) :
    ∃ f, compileAll (before ++ e :: after) fields folders = .error f ∧
      (f.index < before.length ∨ f = ⟨before.length, fault.fragment e, fault⟩) := by
  rw [compileAll, compileFrom_append]
  cases hbefore : compileFrom 0 fields folders before with
  | error f => exact ⟨f, rfl, .inl (by simpa using index_lt_of_compileFrom hbefore)⟩
  | ok qs =>
    refine ⟨_, ?_, .inr rfl⟩
    rw [compileFrom, h, Nat.zero_add]
    rfl

/-- The failure of an entry at a place, if it does not compile on its own. -/
def failureAt? (fields : List Text) (folders : Bool) (p : Entry × Nat) : Option Failure :=
  match p.1.compile fields folders with
  | .error fault => some ⟨p.2, fault.fragment p.1, fault⟩
  | .ok _ => none

/-- The failures of the entries that do not compile on their own, with their places. -/
def failuresFrom (index : Nat) (fields : List Text) (folders : Bool) (es : List Entry) :
    List Failure :=
  (es.zipIdx index).filterMap (failureAt? fields folders)

theorem failuresFrom_cons_of_error {fault : Fault} (h : e.compile fields folders = .error fault)
    (index : Nat) (es : List Entry) : failuresFrom index fields folders (e :: es) =
      ⟨index, fault.fragment e, fault⟩ :: failuresFrom (index + 1) fields folders es := by
  rw [failuresFrom, List.zipIdx_cons, List.filterMap_cons, failureAt?, h]
  rfl

theorem failuresFrom_cons_of_ok {q : Text} (h : e.compile fields folders = .ok q) (index : Nat)
    (es : List Entry) : failuresFrom index fields folders (e :: es) =
      failuresFrom (index + 1) fields folders es := by
  rw [failuresFrom, List.zipIdx_cons, List.filterMap_cons, failureAt?, h]
  rfl

theorem index_of_mem_failuresFrom {index : Nat} {es : List Entry} {f : Failure}
    (h : f ∈ failuresFrom index fields folders es) : index ≤ f.index := by
  obtain ⟨p, hp, hf⟩ := List.mem_filterMap.1 h
  rw [failureAt?] at hf
  split at hf
  · obtain rfl := Option.some.inj hf
    exact List.le_snd_of_mem_zipIdx hp
  · contradiction

/-- A list is stopped by the first entry that does not compile on its own. -/
theorem compileFrom_eq_error_iff {index : Nat} {es : List Entry} {f : Failure} :
    compileFrom index fields folders es = .error f ↔
      (failuresFrom index fields folders es).head? = some f := by
  induction es generalizing index with
  | nil => simp [compileFrom, failuresFrom]
  | cons e es ih =>
    rw [compileFrom_cons_eq_error_iff]
    cases he : e.compile fields folders with
    | error fault => simp [failuresFrom_cons_of_error he]
    | ok q => simp [failuresFrom_cons_of_ok he, ← ih]

/-! ## Entries with a pattern -/

theorem query_folders_of_pattern (he : e.pattern ≠ []) :
    e.query fields true = .ok (Query.folders e.pattern fields) := by
  rw [query, kind?, if_pos he]
  cases Pattern.isWildcard e.pattern <;> rfl

/-- A search for files goes into subfolders if the entry asks for it and its pattern
    stands for more than one item. -/
theorem query_files_of_pattern (he : e.pattern ≠ []) :
    e.query fields false =
      (Query.files e.pattern (e.recursive && Pattern.isWildcard e.pattern) e.properties
        fields).mapError .property := by
  rw [query, kind?, if_pos he]
  cases Pattern.isWildcard e.pattern with
  | true =>
    simp only [if_true, Bool.false_eq_true, if_false, decide_true]
    cases Query.files e.pattern (e.recursive && true) e.properties fields <;> rfl
  | false =>
    have hkind : decide (Kind.simple = Kind.wildcard) = false := rfl
    simp only [Bool.false_eq_true, if_false, hkind]
    cases Query.files e.pattern (e.recursive && false) e.properties fields <;> rfl

/-- The text of the query for files, or what is wrong with its properties. -/
theorem compile_files_of_pattern (he : e.pattern ≠ []) :
    e.compile fields false =
      match Property.parseList e.properties with
      | .error m => .error (.property m)
      | .ok ps => .ok (⟨.generated (Filter.files e.pattern
          (e.recursive && Pattern.isWildcard e.pattern) ps), fields⟩ : Query).render := by
  rw [compile, query_files_of_pattern he, Query.files_eq]
  cases Property.parseList e.properties <;> rfl

/-! ## Properties -/

/-- The property list of an entry is not passed over: a malformed one is an error,
    for the entry and for every list with it, and of any other one each property
    is a condition of the query. -/
structure KeepsProperties (e : Entry) (fields : List Text) (folders : Bool) : Prop where
  /-- A malformed list stops the compilation, at the entry or before it. -/
  stops : ∀ m, Property.parseList e.properties = .error m → ∀ before after,
    ∃ f, compileAll (before ++ e :: after) fields folders = .error f ∧
      (f.index < before.length ∨ f = ⟨before.length, (Fault.property m).fragment e, .property m⟩)
  /-- The properties are those of the query, and their conditions stand in front of
      the locations. -/
  carries : ∀ ps, Property.parseList e.properties = .ok ps →
    ∃ f : Filter, e.query fields folders = .ok ⟨.generated f, fields⟩ ∧ f.properties = ps ∧
      ∃ rest, e.compile fields folders = .ok ("items.find(\x7b\"repo\": \"" ++ f.repository ++
        "\"," ++ Property.clauses ps ++ "\"$or\": [" ++ rest)

theorem keepsProperties_files (he : e.pattern ≠ []) : e.KeepsProperties fields false := by
  refine ⟨fun m hm before after => ?_, fun ps hps => ?_⟩
  · refine compileAll_of_error ?_ before after
    rw [compile_files_of_pattern he, hm]
  · refine ⟨Filter.files e.pattern (e.recursive && Pattern.isWildcard e.pattern) ps, ?_, rfl, ?_⟩
    · rw [query_files_of_pattern he, Query.files_eq, hps]
      rfl
    · rw [compile_files_of_pattern he, hps]
      exact ⟨_, congrArg Except.ok (Query.render_eq_append _ fields)⟩

/-- Without properties a search for folders has none to pass over. -/
theorem keepsProperties_of_no_properties (he : e.pattern ≠ []) (h : e.properties = []) :
    e.KeepsProperties fields true := by
  have hparse : Property.parseList e.properties = .ok [] := by
    rw [h]
    rfl
  refine ⟨fun m hm => ?_, fun ps hps => ?_⟩
  · rw [hparse] at hm
    exact absurd hm (by simp)
  · rw [hparse] at hps
    obtain rfl := Except.ok.inj hps
    refine ⟨_, query_folders_of_pattern he, rfl, ?_⟩
    rw [compile, query_folders_of_pattern he]
    exact ⟨_, congrArg Except.ok (Query.render_eq_append _ fields)⟩

/-- A search for folders compiles whatever the properties are, and asks for none. -/
theorem not_keepsProperties_of_properties (he : e.pattern ≠ []) (h : e.properties ≠ []) :
    ¬e.KeepsProperties fields true := by
  intro hkeeps
  cases hparse : Property.parseList e.properties with
  | error m =>
    obtain ⟨f, hf, -⟩ := hkeeps.stops m hparse [] []
    rw [List.nil_append, compileAll, compileFrom, compile, query_folders_of_pattern he] at hf
    exact absurd hf (by simp [Except.map, compileFrom])
  | ok ps =>
    obtain ⟨f, hf, hps, -⟩ := hkeeps.carries ps hparse
    rw [query_folders_of_pattern he] at hf
    obtain ⟨hsource, -⟩ := Query.mk.inj (Except.ok.inj hf)
    obtain rfl := Source.generated.inj hsource
    exact Property.parseList_ne_nil h hparse hps.symm

/-- An entry with a pattern keeps its properties in every search for files; in a
    search for folders it does so only when it has none. -/
theorem keepsProperties_iff (he : e.pattern ≠ []) (fields : List Text) (folders : Bool) :
    e.KeepsProperties fields folders ↔ folders = false ∨ e.properties = [] := by
  cases folders with
  | false => exact iff_of_true (keepsProperties_files he) (.inl rfl)
  | true =>
    by_cases h : e.properties = []
    · exact iff_of_true (keepsProperties_of_no_properties he h) (.inr h)
    · exact iff_of_false (not_keepsProperties_of_properties he h) (by simp [h])

theorem keepsProperties_iff_status :
    (⟨"libs/*.jar", [], "status=ok;status=new", true, false, false, []⟩ : Entry).pattern ≠ [] ∧
      (⟨"libs/*.jar", [], "status=ok;status=new", true, false, false, []⟩ : Entry).KeepsProperties
        defaultFields false ∧
      ¬(⟨"libs/*.jar", [], "status=ok;status=new", true, false, false, []⟩ : Entry).KeepsProperties
        defaultFields true := by
  have he : (⟨"libs/*.jar", [], "status=ok;status=new", true, false, false, []⟩ :
      Entry).pattern ≠ [] := by decide
  refine ⟨he, (keepsProperties_iff he _ _).2 (.inl rfl), fun h => ?_⟩
  exact absurd ((keepsProperties_iff he _ _).1 h) (by decide)

/-- A search for the folders `libs/a*` with the property `status=ok` asks for no
    property. -/
theorem folders_pass_over_properties :
    Property.parseList "status=ok" = .ok [⟨"status", "ok"⟩] ∧
      (⟨"libs/a*", [], "status=ok", true, false, false, []⟩ : Entry).query [] true =
        .ok ⟨.generated ⟨"libs", [⟨".", "a*"⟩, ⟨"a*", "*"⟩], [], folderType⟩, []⟩ :=
  ⟨rfl, rfl⟩

end Spec.Entry

end Depot
