import Depot.Build.Document
import Depot.Proofs.Json.Members
import Mathlib.Data.List.Nodup

/-!
# What a document tells of its partials

The contents of a document are gathered from one partial after the other
(`Contents.collect_eq`). Of each partial one section counts: its artifacts, else its
dependencies, else its variables.

* `document_properties`: which variables are published, and with which values. It makes
  no difference whether each partial is filtered before the partials are merged, or what
  they are merged to is filtered once.
* `document_sections`: which artifacts, dependencies and variables are in a document, and
  just when nothing of the partials is missing in it.
-/

namespace Depot.Json

variable {key : Text} {ms : List (Text × Json)}

/-- The member of an object; other values have none. -/
def member? (key : Text) : Json → Option Json
  | .object members => find? key members
  | _ => none

end Depot.Json

namespace Depot.Build

variable {b : Build} {s : Selection} {ps : List Partial} {key : Text} {value : Json}

/-! ## What counts of a partial -/

namespace Partial

/-- The dependencies of a partial that has no artifacts. -/
def ownDependencies (p : Partial) : List Json :=
  match p.artifacts with
  | some _ => []
  | none => p.dependencies.getD []

/-- The variables of a partial that has neither artifacts nor dependencies. -/
def ownVariables (p : Partial) : List (Text × Json) :=
  match p.artifacts, p.dependencies with
  | none, none => p.env.getD []
  | _, _ => []

/-- The value of a variable of the partial; the last one counts. -/
def value? (p : Partial) (key : Text) : Option Json := Json.find? key p.ownVariables.reverse

end Partial

/-- A variable is published when it matches a wildcard of those to keep it, and in lower case
    none of those to withhold it. -/
def Selection.Publishes (s : Selection) (key : Text) : Prop :=
  (∃ w ∈ s.keep, Wildcard.stands w key) ∧
    ∀ w ∈ s.withhold, ¬Wildcard.stands (Text.lower w) (Text.lower key)

instance (s : Selection) (key : Text) : Decidable (s.Publishes key) :=
  inferInstanceAs (Decidable (_ ∧ _))

theorem publishable_eq_filter (s : Selection) (env : List (Text × Json)) :
    Environment.publishable s.keep s.withhold env = env.filter fun v => s.Publishes v.1 := by
  rw [Environment.publishable, Environment.dropExcluded, Environment.keepIncluded,
    List.filter_filter]
  refine List.filter_congr fun v _ => ?_
  rw [Bool.eq_iff_iff, Bool.and_eq_true, decide_eq_true_eq, Selection.Publishes, and_comm]
  simp [Environment.included, Environment.excluded]

/-! ## Merging -/

/-- Environments merged one after the other. -/
def mergeAll (envs : List (List (Text × Json))) : List (Text × Json) := envs.foldl mergeEnv []

theorem mergeAll_eq (envs : List (List (Text × Json))) :
    mergeAll envs = Json.ofMembers envs.flatten := by
  rw [mergeAll, Json.ofMembers, List.foldl_flatten]
  rfl

/-- What is published of merged environments is what is published of each, merged. -/
theorem mergeAll_publishable (s : Selection) (envs : List (List (Text × Json))) :
    mergeAll (envs.map (Environment.publishable s.keep s.withhold)) =
      Environment.publishable s.keep s.withhold (mergeAll envs) := by
  have hmap : envs.map (Environment.publishable s.keep s.withhold) =
      envs.map (List.filter fun v => s.Publishes v.1) :=
    List.map_congr_left fun env _ => publishable_eq_filter s env
  rw [publishable_eq_filter, mergeAll_eq, mergeAll_eq, Json.filter_ofMembers fun k => s.Publishes k,
    List.filter_flatten, hmap]

/-! ## Contents -/

/-- What one more partial adds. -/
theorem Contents.add_eq (s : Selection) (c : Contents) (p : Partial) :
    c.add s p = ⟨c.artifacts ++ p.artifacts.getD [], c.dependencies ++ p.ownDependencies,
      mergeEnv c.env (Environment.publishable s.keep s.withhold p.ownVariables)⟩ := by
  obtain ⟨timestamp, artifacts, dependencies, env⟩ := p
  have hnone (e : List (Text × Json)) :
      mergeEnv e (Environment.publishable s.keep s.withhold []) = e := rfl
  cases artifacts <;> cases dependencies <;> cases env <;>
    simp [Contents.add, Partial.ownDependencies, Partial.ownVariables, hnone]

/-- The contents of partials, section by section. -/
theorem Contents.collect_eq (s : Selection) (ps : List Partial) :
    Contents.collect s ps = ⟨ps.flatMap (·.artifacts.getD []), ps.flatMap (·.ownDependencies),
      Environment.publishable s.keep s.withhold (mergeAll (ps.map (·.ownVariables)))⟩ := by
  have hfold : ∀ c, ps.foldl (Contents.add s) c =
      ⟨c.artifacts ++ ps.flatMap (·.artifacts.getD []),
        c.dependencies ++ ps.flatMap (·.ownDependencies),
        (ps.map fun p => Environment.publishable s.keep s.withhold p.ownVariables).foldl mergeEnv
          c.env⟩ := by
    induction ps with
    | nil => simp
    | cons p ps ih =>
      intro c
      rw [List.foldl_cons, ih, Contents.add_eq]
      simp
  rw [Contents.collect, hfold, ← mergeAll_publishable, List.map_map]
  rfl

/-- The last partial with a variable tells its value. -/
theorem find?_reverse_flatMap_ownVariables :
    Json.find? key (ps.flatMap (·.ownVariables)).reverse = some value ↔
      ∃ before p after, ps = before ++ p :: after ∧ p.value? key = some value ∧
        ∀ q ∈ after, key ∉ q.ownVariables.map (·.1) := by
  induction ps with
  | nil => simp [Json.find?]
  | cons p ps ih =>
    have hnone : Json.find? key (ps.flatMap (·.ownVariables)).reverse = none ↔
        ∀ q ∈ ps, key ∉ q.ownVariables.map (·.1) := by
      rw [Json.find?_eq_none_iff, List.map_reverse, List.mem_reverse, List.map_flatMap]
      simp
    -- Turned round, the first partial stands at the end: it counts when no other has the key.
    rw [List.flatMap_cons, List.reverse_append, Json.find?_append, Option.or_eq_some_iff, ih, hnone]
    constructor
    · rintro (⟨before, p', after, rfl, hvalue, hlast⟩ | ⟨hlast, hvalue⟩)
      · exact ⟨p :: before, p', after, rfl, hvalue, hlast⟩
      · exact ⟨[], p, ps, rfl, hvalue, hlast⟩
    · rintro ⟨before, p', after, hps, hvalue, hlast⟩
      cases before with
      | nil =>
        obtain ⟨rfl, rfl⟩ := List.cons.inj hps
        exact .inr ⟨hlast, hvalue⟩
      | cons q before =>
        obtain ⟨_, rfl⟩ := List.cons.inj hps
        exact .inl ⟨before, p', after, rfl, hvalue, hlast⟩

/-! ## Documents -/

/-- What a document publishes as the value of a variable. -/
def property? (d : Json) (key : Text) : Option Json :=
  (d.member? "properties").bind (Json.member? key)

/-- The items of a list that may not be there. -/
def itemsOf : Option Json → List Json
  | some (.list items) => items
  | _ => []

/-- What the module of a document lists under a key. -/
def moduleItems (key : Text) (d : Json) : List Json :=
  match d.member? "modules" with
  | some (.list [m]) => itemsOf (m.member? key)
  | _ => []

section

variable (b : Build) (text : Text) (c : Contents)

theorem member?_properties_documentOf : (documentOf b text c).member? "properties" =
    if c.env = [] then none else some (.object c.env) := by
  have hfirst : Text.ofString "properties" ∉
      (["name", "number", "agent", "buildAgent", "started", "modules"] : List Text) := by decide
  rw [documentOf, Json.member?]
  change Json.find? _ ([_, _, _, _, _, _] ++ properties c.env) = _
  rw [Json.find?_append, Json.find?_eq_none_iff.2 hfirst, Option.none_or, properties]
  split
  · rfl
  · exact Json.find?_cons ..

theorem property?_documentOf (key : Text) :
    property? (documentOf b text c) key = Json.find? key c.env := by
  rw [property?, member?_properties_documentOf]
  split
  · next henv => rw [henv]; rfl
  · rfl

/-- Without properties there is a value for no variable, and only then. -/
theorem member?_properties_documentOf_eq_none_iff :
    (documentOf b text c).member? "properties" = none ↔
      ∀ key, property? (documentOf b text c) key = none := by
  have hnone : (documentOf b text c).member? "properties" = none ↔ c.env = [] := by
    rw [member?_properties_documentOf]
    split <;> simp [*]
  rw [hnone]
  constructor
  · intro henv key
    rw [property?_documentOf, henv]
    rfl
  · intro hkeys
    refine List.eq_nil_iff_forall_not_mem.2 fun v hv => ?_
    have hkey := hkeys v.1
    rw [property?_documentOf, Json.find?_eq_none_iff] at hkey
    exact hkey (List.mem_map_of_mem hv)

theorem member?_modules_documentOf :
    (documentOf b text c).member? "modules" = some (.list [moduleOf b c]) := by
  have hfirst : Text.ofString "modules" ∉
      (["name", "number", "agent", "buildAgent", "started"] : List Text) := by decide
  rw [documentOf, Json.member?]
  change Json.find? _ ([_, _, _, _, _] ++ _ :: _) = _
  rw [Json.find?_append, Json.find?_eq_none_iff.2 hfirst, Option.none_or, Json.find?_cons,
    if_pos rfl]

theorem itemsOf_find?_listed (key : Text) (items : List Json) :
    itemsOf (Json.find? key (listed key items)) = items := by
  rw [listed]
  split
  · next h => exact h.symm
  · rw [Json.find?_cons, if_pos rfl]
    rfl

theorem find?_listed_of_ne {key key' : Text} (h : key' ≠ key) (items : List Json) :
    Json.find? key (listed key' items) = none := by
  rw [listed]
  split
  · rfl
  · rw [Json.find?_cons, if_neg h]
    rfl

theorem moduleItems_artifacts : moduleItems "artifacts" (documentOf b text c) = c.artifacts := by
  have hid : Text.ofString "id" ≠ "artifacts" := by decide
  have hother : Text.ofString "dependencies" ≠ "artifacts" := by decide
  rw [moduleItems, member?_modules_documentOf]
  simp only
  rw [moduleOf, Json.member?, Json.find?_cons, if_neg hid, Json.find?_append,
    find?_listed_of_ne hother, Option.or_none, itemsOf_find?_listed]

theorem moduleItems_dependencies :
    moduleItems "dependencies" (documentOf b text c) = c.dependencies := by
  have hid : Text.ofString "id" ≠ "dependencies" := by decide
  have hother : Text.ofString "artifacts" ≠ "dependencies" := by decide
  rw [moduleItems, member?_modules_documentOf]
  simp only
  rw [moduleOf, Json.member?, Json.find?_cons, if_neg hid, Json.find?_append,
    find?_listed_of_ne hother, Option.none_or, itemsOf_find?_listed]

end

/-! ## Nothing withheld is published, nothing kept is lost -/

theorem property?_collect (b : Build) (text : Text) (s : Selection) (ps : List Partial)
    (key : Text) : property? (documentOf b text (.collect s ps)) key =
      if s.Publishes key then Json.find? key (ps.flatMap (·.ownVariables)).reverse else none := by
  rw [property?_documentOf, Contents.collect_eq]
  simp only
  rw [publishable_eq_filter, Json.find?_filter fun k => s.Publishes k, mergeAll_eq,
    Json.find?_ofMembers, List.flatMap]
  simp only [decide_eq_true_eq]

theorem property?_collect_ne_none_iff (b : Build) (text : Text) (s : Selection)
    (ps : List Partial) (key : Text) : property? (documentOf b text (.collect s ps)) key ≠ none ↔
      s.Publishes key ∧ ∃ p ∈ ps, key ∈ p.ownVariables.map (·.1) := by
  rw [property?_collect, Ne, ite_eq_right_iff, Json.find?_eq_none_iff, Classical.not_imp,
    Classical.not_not, List.map_reverse, List.mem_reverse, List.map_flatMap, List.mem_flatMap]

/-- The variables that a document publishes, for every list of partials.

    They are those of the partials that have nothing else, as far as they are selected, each
    with the value that the last such partial has for it. There are no properties just when
    no variable is selected. The same comes of it when everything is merged and then
    filtered once. -/
theorem document_properties {started : Time.Timestamp} {zone : Time.Zone} {text : Text}
    (htext : started.format zone = .ok text) (b : Build) (ps : List Partial) (s : Selection) :
    ∃ d, document b started ps s zone = .ok d ∧
      (∀ key, property? d key ≠ none ↔
        s.Publishes key ∧ ∃ p ∈ ps, key ∈ p.ownVariables.map (·.1)) ∧
      (∀ key value, property? d key = some value ↔
        s.Publishes key ∧ ∃ before p after, ps = before ++ p :: after ∧
          p.value? key = some value ∧ ∀ q ∈ after, key ∉ q.ownVariables.map (·.1)) ∧
      (d.member? "properties" = none ↔
        ¬∃ key, s.Publishes key ∧ ∃ p ∈ ps, key ∈ p.ownVariables.map (·.1)) ∧
      (∀ env, d.member? "properties" = some env → env = .object (mergeAll
        (ps.map fun p => Environment.publishable s.keep s.withhold p.ownVariables))) ∧
      mergeAll (ps.map fun p => Environment.publishable s.keep s.withhold p.ownVariables) =
        Environment.publishable s.keep s.withhold (mergeAll (ps.map (·.ownVariables))) := by
  have hd : document b started ps s zone = .ok (documentOf b text (.collect s ps)) := by
    rw [document, htext]
  have henv : (Contents.collect s ps).env =
      mergeAll (ps.map fun p => Environment.publishable s.keep s.withhold p.ownVariables) := by
    rw [Contents.collect_eq, ← mergeAll_publishable, List.map_map]
    rfl
  refine ⟨_, hd, property?_collect_ne_none_iff b text s ps, fun key value => ?_, ?_, ?_, ?_⟩
  · rw [property?_collect, Option.ite_none_right_eq_some, find?_reverse_flatMap_ownVariables]
  · rw [member?_properties_documentOf_eq_none_iff, not_exists]
    exact forall_congr' fun key =>
      Classical.not_not.symm.trans (not_congr (property?_collect_ne_none_iff b text s ps key))
  · intro env hmember
    rw [member?_properties_documentOf, henv, Option.ite_none_left_eq_some] at hmember
    exact (Option.some.inj hmember.2).symm
  · rw [← mergeAll_publishable, List.map_map]
    rfl

/-- A variable of a later partial takes its new value, a secret is withheld whatever its case,
    and what a partial with artifacts has for a variable does not count. -/
theorem document_properties_secret :
    let started : Time.Timestamp := ⟨⟨2024, 1, 2⟩, 3, 4, 5, 0, some 0⟩
    let secret : Partial :=
      { timestamp := 1, env := some [("A", .text "1"), ("DB_PASSWORD", .text "x")] }
    let mixed : Partial := { timestamp := 2, artifacts := some [], env := some [("A", .text "2")] }
    let later : Partial := { timestamp := 3, env := some [("B", .null), ("A", .text "3")] }
    let s : Selection := ⟨["*"], ["*password*"]⟩
    started.format = .ok "2024-01-02T03:04:05.000+0000" ∧
      ∃ d, document ⟨"app", "1"⟩ started [secret, mixed, later] s = .ok d ∧
        property? d "A" = some (.text "3") ∧ property? d "B" = some .null ∧
        property? d "DB_PASSWORD" = none := by
  intro started secret mixed later s
  have htext : started.format = .ok "2024-01-02T03:04:05.000+0000" := by decide +kernel
  obtain ⟨d, hd, hkeys, hvalues, _⟩ :=
    document_properties htext ⟨"app", "1"⟩ [secret, mixed, later] s
  refine ⟨htext, d, hd, (hvalues _ _).2 ⟨by decide +kernel, ?_⟩,
    (hvalues _ _).2 ⟨by decide +kernel, ?_⟩, Classical.not_not.1 fun hmem => ?_⟩
  · exact ⟨[secret, mixed], later, [], rfl, by decide +kernel, List.forall_mem_nil _⟩
  · exact ⟨[secret, mixed], later, [], rfl, by decide +kernel, List.forall_mem_nil _⟩
  · have hwithheld : ¬s.Publishes "DB_PASSWORD" := by decide +kernel
    exact hwithheld ((hkeys _).1 hmem).1

/-! ## What is missing in a document -/

theorem ownDependencies_sublist (p : Partial) :
    p.ownDependencies.Sublist (p.dependencies.getD []) := by
  rw [Partial.ownDependencies]
  split
  · exact List.nil_sublist _
  · exact .refl _

theorem length_flatMap_ownDependencies_le (ps : List Partial) :
    (ps.flatMap (·.ownDependencies)).length ≤ (ps.flatMap (·.dependencies.getD [])).length := by
  induction ps with
  | nil => exact Nat.le_refl _
  | cons p ps ih =>
    rw [List.flatMap_cons, List.flatMap_cons, List.length_append, List.length_append]
    exact Nat.add_le_add (ownDependencies_sublist p).length_le ih

/-- No dependencies are left out just when no partial with artifacts has any. -/
theorem flatMap_ownDependencies_eq_iff : ps.flatMap (·.ownDependencies) =
      ps.flatMap (·.dependencies.getD []) ↔
    ∀ p ∈ ps, p.artifacts ≠ none → p.dependencies.getD [] = [] := by
  have hown (p : Partial) : p.ownDependencies = p.dependencies.getD [] ↔
      (p.artifacts ≠ none → p.dependencies.getD [] = []) := by
    rcases hartifacts : p.artifacts with _ | artifacts
    · rw [Partial.ownDependencies, hartifacts]
      exact iff_of_true rfl fun h => absurd rfl h
    · rw [Partial.ownDependencies, hartifacts]
      exact ⟨fun h _ => h.symm, fun h => (h (Option.some_ne_none _)).symm⟩
  induction ps with
  | nil => exact iff_of_true rfl (List.forall_mem_nil _)
  | cons p ps ih =>
    have hcons : p.ownDependencies ++ ps.flatMap (·.ownDependencies) =
          p.dependencies.getD [] ++ ps.flatMap (·.dependencies.getD []) ↔
        p.ownDependencies = p.dependencies.getD [] ∧
          ps.flatMap (·.ownDependencies) = ps.flatMap (·.dependencies.getD []) := by
      refine ⟨fun h => ?_, fun ⟨hp, hps⟩ => by rw [hp, hps]⟩
      -- Neither part can be longer on the side of the document.
      have hlength := congrArg List.length h
      rw [List.length_append, List.length_append] at hlength
      have hp := (ownDependencies_sublist p).length_le
      have hps := length_flatMap_ownDependencies_le ps
      exact List.append_inj h (by omega)
    rw [List.flatMap_cons, List.flatMap_cons, List.forall_mem_cons]
    exact hcons.trans (and_congr (hown p) ih)

/-- What a document has of every list of partials, and what it leaves out.

    It has all artifacts, and the dependencies of the partials without artifacts. So it has
    all dependencies just when no partial with artifacts has any, and all variables that
    are selected just when each one of a partial with artifacts or dependencies is in some
    partial that has nothing else. -/
theorem document_sections {started : Time.Timestamp} {zone : Time.Zone} {text : Text}
    (htext : started.format zone = .ok text) (b : Build) (ps : List Partial) (s : Selection) :
    ∃ d, document b started ps s zone = .ok d ∧
      moduleItems "artifacts" d = ps.flatMap (·.artifacts.getD []) ∧
      moduleItems "dependencies" d = ps.flatMap (·.ownDependencies) ∧
      (moduleItems "dependencies" d = ps.flatMap (·.dependencies.getD []) ↔
        ∀ p ∈ ps, p.artifacts ≠ none → p.dependencies.getD [] = []) ∧
      ((∀ p ∈ ps, ∀ v ∈ p.env.getD [], s.Publishes v.1 → property? d v.1 ≠ none) ↔
        ∀ p ∈ ps, p.artifacts ≠ none ∨ p.dependencies ≠ none → ∀ v ∈ p.env.getD [],
          s.Publishes v.1 → ∃ q ∈ ps, v.1 ∈ q.ownVariables.map (·.1)) := by
  have hd : document b started ps s zone = .ok (documentOf b text (.collect s ps)) := by
    rw [document, htext]
  have hdependencies : moduleItems "dependencies" (documentOf b text (.collect s ps)) =
      ps.flatMap (·.ownDependencies) := by
    rw [moduleItems_dependencies, Contents.collect_eq]
  refine ⟨_, hd, ?_, hdependencies, ?_, ?_⟩
  · rw [moduleItems_artifacts, Contents.collect_eq]
  · rw [hdependencies, flatMap_ownDependencies_eq_iff]
  · constructor
    · intro hkept p hp _ v hv hpublished
      exact ((property?_collect_ne_none_iff b text s ps v.1).1 (hkept p hp v hv hpublished)).2
    · intro hother p hp v hv hpublished
      refine (property?_collect_ne_none_iff b text s ps v.1).2 ⟨hpublished, ?_⟩
      by_cases hmixed : p.artifacts ≠ none ∨ p.dependencies ≠ none
      · exact hother p hp hmixed v hv hpublished
      · -- The partial has nothing else, so its own variables count.
        rw [not_or, Classical.not_not, Classical.not_not] at hmixed
        have hvariables : p.ownVariables = p.env.getD [] := by
          rw [Partial.ownVariables, hmixed.1, hmixed.2]
        exact ⟨p, hp, hvariables ▸ List.mem_map_of_mem hv⟩

/-- Nothing is missing of partials that have one section each. -/
theorem document_sections_separate :
    let started : Time.Timestamp := ⟨⟨2024, 1, 2⟩, 3, 4, 5, 0, some 0⟩
    let first : Partial := { timestamp := 1, artifacts := some [.text "a"] }
    let second : Partial := { timestamp := 2, dependencies := some [.text "b", .text "c"] }
    let third : Partial := { timestamp := 3, artifacts := some [.text "d"] }
    started.format = .ok "2024-01-02T03:04:05.000+0000" ∧
      ∃ d, document ⟨"app", "1"⟩ started [first, second, third] ⟨["*"], []⟩ = .ok d ∧
        moduleItems "artifacts" d = [.text "a", .text "d"] ∧
        moduleItems "dependencies" d = [.text "b", .text "c"] := by
  intro started first second third
  have htext : started.format = .ok "2024-01-02T03:04:05.000+0000" := by decide +kernel
  obtain ⟨d, hd, hartifacts, hdependencies, _⟩ :=
    document_sections htext ⟨"app", "1"⟩ [first, second, third] ⟨["*"], []⟩
  exact ⟨htext, d, hd, hartifacts.trans rfl, hdependencies.trans rfl⟩

/-- Of a partial with artifacts the dependencies and the variables are missing in the
    document, also when the variables are selected. -/
theorem document_mixed_partial :
    let started : Time.Timestamp := ⟨⟨2024, 1, 2⟩, 3, 4, 5, 0, some 0⟩
    let mixed : Partial :=
      ⟨1, some [.object [("name", .text "a")]], some [.object [("id", .text "b")]],
        some [("C", .text "c")]⟩
    let s : Selection := ⟨["*"], []⟩
    ∃ d, document ⟨"app", "1"⟩ started [mixed] s = .ok d ∧
      moduleItems "dependencies" d ≠ [mixed].flatMap (·.dependencies.getD []) ∧
      s.Publishes "C" ∧ property? d "C" = none := by
  intro started mixed s
  have hd : document ⟨"app", "1"⟩ started [mixed] s =
      .ok (documentOf ⟨"app", "1"⟩ "2024-01-02T03:04:05.000+0000" (.collect s [mixed])) := by
    decide +kernel
  exact ⟨_, hd, by decide +kernel, by decide +kernel, by decide +kernel⟩

end Depot.Build
