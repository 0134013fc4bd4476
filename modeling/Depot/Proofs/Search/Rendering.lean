import Depot.Proofs.Json.Reading
import Depot.Search.Query

/-!
# The text of a query

A generated filter is written by putting texts one after the other, and what is
written is JSON as long as the texts of the filter may stand between quotes:
`Filter.reads_render` reads the filter back as the value `Filter.toJson`, in front
of any other text. So a query says all that its filter says, and two queries with
the same text ask for the same (`Query.render_faithful`).
-/

namespace Depot.Search

open Json

/-! ## Filters as values -/

/-- The condition that an operator makes of a text. -/
def comparison (operator value : Text) : Json := .object [(operator, .text value)]

/-- The condition on a field as a member. -/
def constraint (field operator value : Text) : Text × Json := (field, comparison operator value)

/-- The condition of a location as a value, in which a field may stand twice. -/
def Location.toJson (itemType : Text) (l : Location) : Json :=
  let notRoot := if itemType = "folder" ∧ l = ⟨"*", "*"⟩ then [constraint "path" "$ne" "."] else []
  let ofType := if itemType = [] then [] else [constraint "type" "$eq" itemType]
  let fields := constraint "path" "$match" l.path ::
    (notRoot ++ constraint "name" "$match" l.name :: ofType)
  .object [(Text.ofString "$and", .list [.object fields])]

/-- The condition of a property as a member. -/
def Property.toMember (p : Property) : Text × Json :=
  constraint (.char '@' :: p.key) "$match" p.value

/-- A filter as a value: its repository, its properties, and its locations. -/
def Filter.toJson (f : Filter) : Json :=
  .object ((Text.ofString "repo", .text f.repository) :: (f.properties.map Property.toMember ++
    [(Text.ofString "$or", .list (f.locations.map (Location.toJson f.itemType)))]))

/-- No text of the filter has a quote, a backslash or a control character. -/
structure Filter.IsPlain (f : Filter) : Prop where
  repository : Json.IsPlain f.repository
  key : ∀ p ∈ f.properties, Json.IsPlain p.key
  value : ∀ p ∈ f.properties, Json.IsPlain p.value
  path : ∀ l ∈ f.locations, Json.IsPlain l.path
  name : ∀ l ∈ f.locations, Json.IsPlain l.name
  itemType : Json.IsPlain f.itemType

theorem Location.coversRoot_iff {l : Location} : l.coversRoot ↔ l = ⟨"*", "*"⟩ := by
  obtain ⟨path, name⟩ := l
  rw [coversRoot, Bool.and_eq_true, decide_eq_true_iff, decide_eq_true_iff, Location.mk.injEq]
  rfl

/-! ## Reading a filter back -/

variable {d : Nat} {key operator value rest t : Text} {ms : List (Text × Json)}

/-- A member with a comparison, in front of another text. -/
def compared (key operator value t : Text) : Text :=
  .char '"' :: (key ++ .char '"' :: .char ':' :: .char ' ' :: .char '{' :: .char '"' :: (operator ++
    .char '"' :: .char ':' :: .char ' ' :: .char '"' :: (value ++ .char '"' :: .char '}' :: t)))

theorem reads_comparison (ho : Json.IsPlain operator) (hv : Json.IsPlain value) (rest : Text) :
    Reads (d + 1) (.char ' ' :: .char '{' :: .char '"' :: (operator ++ .char '"' :: .char ':' ::
      .char ' ' :: .char '"' :: (value ++ .char '"' :: .char '}' :: rest)))
      (comparison operator value) rest := by
  have blank : ∀ c ∈ [CodePoint.char ' '], isSpace c := by simp [isSpace]
  have hvalue := Reads.text (d := d) (readsString_of_isPlain hv (.char '}' :: rest))
  exact (Reads.object (.last (readsString_of_isPlain ho _) rfl (hvalue.blank blank) rfl)).blank
    blank

theorem readsMembers_compared_last (hk : Json.IsPlain key) (ho : Json.IsPlain operator)
    (hv : Json.IsPlain value) (rest : Text) :
    ReadsMembers (d + 1) (compared key operator value (.char '}' :: rest))
      [(key, comparison operator value)] rest :=
  .last (readsString_of_isPlain hk _) rfl (reads_comparison ho hv _) rfl

theorem readsMembers_compared_cons (hk : Json.IsPlain key) (ho : Json.IsPlain operator)
    (hv : Json.IsPlain value) (h : ReadsMembers (d + 1) t ms rest) :
    ReadsMembers (d + 1) (compared key operator value (.char ',' :: t))
      ((key, comparison operator value) :: ms) rest :=
  .cons (readsString_of_isPlain hk _) rfl (reads_comparison ho hv _) rfl h

namespace Location

/-- The exclusion of the root in front of another text. -/
def notRoot (itemType : Text) (l : Location) (t : Text) : Text :=
  if itemType = folderType ∧ l.coversRoot then compared "path" "$ne" "." (.char ',' :: t) else t

/-- The condition on the type of an item in front of another text. -/
def ofType (itemType t : Text) : Text :=
  if itemType = [] then t else .char ',' :: compared "type" "$eq" itemType t

theorem condition_append (itemType : Text) (l : Location) (t : Text) :
    l.condition itemType ++ t =
      .char '"' :: (Text.ofString "$and" ++ .char '"' :: .char ':' :: .char ' ' :: .char '[' ::
        .char '{' :: compared "path" "$match" l.path (.char ',' :: notRoot itemType l
          (compared "name" "$match" l.name (ofType itemType (.char '}' :: .char ']' :: t))))) := by
  rw [condition, notRoot, ofType]
  split <;> split <;> simp only [compared, List.append_assoc] <;> rfl

variable {itemType : Text} {l : Location}

theorem readsMembers_name (hn : Json.IsPlain l.name) (ht : Json.IsPlain itemType) (rest : Text) :
    ReadsMembers (d + 1) (compared "name" "$match" l.name (ofType itemType (.char '}' :: rest)))
      (constraint "name" "$match" l.name ::
        if itemType = [] then [] else [constraint "type" "$eq" itemType]) rest := by
  have hname : Json.IsPlain "name" := by decide
  have hmatch : Json.IsPlain "$match" := by decide
  rw [ofType]
  split
  · exact readsMembers_compared_last hname hmatch hn rest
  · refine readsMembers_compared_cons hname hmatch hn ?_
    exact readsMembers_compared_last (by decide) (by decide) ht rest

theorem readsMembers_notRoot (h : ReadsMembers (d + 1) t ms rest) :
    ReadsMembers (d + 1) (notRoot itemType l t)
      ((if itemType = "folder" ∧ l = ⟨"*", "*"⟩ then [constraint "path" "$ne" "."] else []) ++ ms)
      rest := by
  simp only [notRoot, coversRoot_iff, folderType]
  split
  · exact readsMembers_compared_cons (by decide) (by decide)
      (by decide) h
  · exact h

theorem readsMembers_fields (hp : Json.IsPlain l.path) (hn : Json.IsPlain l.name)
    (ht : Json.IsPlain itemType) (rest : Text) :
    ReadsMembers (d + 1)
      (compared "path" "$match" l.path (.char ',' :: notRoot itemType l
        (compared "name" "$match" l.name (ofType itemType (.char '}' :: rest)))))
      (constraint "path" "$match" l.path ::
        ((if itemType = "folder" ∧ l = ⟨"*", "*"⟩ then [constraint "path" "$ne" "."] else []) ++
          constraint "name" "$match" l.name ::
            if itemType = [] then [] else [constraint "type" "$eq" itemType])) rest :=
  readsMembers_compared_cons (by decide) (by decide) hp
    (readsMembers_notRoot (readsMembers_name hn ht rest))

/-- The condition of a location is read as its value. -/
theorem reads_condition (hp : Json.IsPlain l.path) (hn : Json.IsPlain l.name)
    (ht : Json.IsPlain itemType) (rest : Text) :
    Reads (d + 4) (.char '{' :: (l.condition itemType ++ .char '}' :: rest))
      (l.toJson itemType) rest := by
  have blank : ∀ c ∈ [CodePoint.char ' '], isSpace c := by simp [isSpace]
  have hand : Json.IsPlain "$and" := by decide
  have hfields := readsMembers_fields (d := d) hp hn ht (.char ']' :: .char '}' :: rest)
  have hlist := Reads.list (.last (.object hfields) rfl)
  rw [condition_append]
  exact .object (.last (readsString_of_isPlain hand _) rfl (hlist.blank blank) rfl)

/-- The conditions of some locations are read as their values. -/
theorem readsItems_conditions (ht : Json.IsPlain itemType) (rest : Text) {ls : List Location}
    (hne : ls ≠ []) (hp : ∀ l ∈ ls, Json.IsPlain l.path) (hn : ∀ l ∈ ls, Json.IsPlain l.name) :
    ReadsItems (d + 4)
      (Text.joined "," (ls.map fun l => "\x7b" ++ l.condition itemType ++ "\x7d") ++
        .char ']' :: rest)
      (ls.map (toJson itemType)) rest := by
  induction ls with
  | nil => exact absurd rfl hne
  | cons l ls ih =>
    have hl := reads_condition (d := d) (hp l List.mem_cons_self) (hn l List.mem_cons_self) ht
    cases ls with
    | nil =>
      rw [List.map_singleton, Text.joined_singleton, List.append_assoc, List.append_assoc]
      exact .last (hl _) rfl
    | cons l' ls =>
      rw [List.map_cons, List.map_cons, Text.joined_cons_cons]
      simp only [List.append_assoc]
      refine .cons (hl _) rfl ?_
      exact ih (List.cons_ne_nil l' ls) (fun l h => hp l (List.mem_cons_of_mem _ h))
        fun l h => hn l (List.mem_cons_of_mem _ h)

/-- The value of a location tells the location and the type of its items. -/
theorem toJson_inj {itemType' : Text} {l' : Location}
    (h : l.toJson itemType = l'.toJson itemType') : l = l' ∧ itemType = itemType' := by
  obtain ⟨path, name⟩ := l
  obtain ⟨path', name'⟩ := l'
  simp only [toJson, Json.object.injEq, List.cons.injEq, Prod.mk.injEq, Json.list.injEq,
    and_true, true_and] at h
  obtain ⟨hpath, h⟩ := h
  obtain rfl : path = path' := by simpa [constraint, comparison] using hpath
  have hfolder : Text.ofString "folder" ≠ [] := by decide
  have hname : Text.ofString "name" ≠ Text.ofString "path" := by decide
  -- The number of fields tells which of the optional ones are there.
  split at h <;> split at h <;> split at h <;> split at h <;>
    simp_all [constraint, comparison]

end Location

/-! ### Properties and the whole filter -/

theorem readsMembers_clauses {ps : List Property} (hk : ∀ p ∈ ps, Json.IsPlain p.key)
    (hv : ∀ p ∈ ps, Json.IsPlain p.value) (h : ReadsMembers (d + 1) t ms rest) :
    ReadsMembers (d + 1) (Property.clauses ps ++ t) (ps.map Property.toMember ++ ms) rest := by
  induction ps with
  | nil => exact h
  | cons p ps ih =>
    have hps := ih (fun p hp => hk p (List.mem_cons_of_mem _ hp))
      fun p hp => hv p (List.mem_cons_of_mem _ hp)
    have hkey : Json.IsPlain (.char '@' :: p.key) := by
      intro c hc
      rcases List.mem_cons.1 hc with rfl | hc
      · decide
      · exact hk p List.mem_cons_self c hc
    have htext : Property.clauses (p :: ps) ++ t =
        compared (.char '@' :: p.key) "$match" p.value
          (.char ',' :: (Property.clauses ps ++ t)) := by
      simp only [Property.clauses, List.flatMap_cons, Property.clause, compared, List.append_assoc]
      rfl
    rw [htext]
    exact readsMembers_compared_cons hkey (by decide) (hv p List.mem_cons_self) hps

namespace Filter

theorem render_append (f : Filter) (t : Text) :
    f.render ++ t = .char '{' :: .char '"' :: (Text.ofString "repo" ++ .char '"' :: .char ':' ::
      .char ' ' :: .char '"' :: (f.repository ++ .char '"' :: .char ',' ::
        (Property.clauses f.properties ++ .char '"' :: (Text.ofString "$or" ++ .char '"' ::
          .char ':' :: .char ' ' :: .char '[' :: (Text.joined ","
            (f.locations.map fun l => "\x7b" ++ l.condition f.itemType ++ "\x7d") ++
              .char ']' :: .char '}' :: t))))) := by
  simp only [render, renderFilter, List.append_assoc]
  rfl

variable {f : Filter} (hf : f.IsPlain)

include hf

theorem reads_locations (rest : Text) :
    Reads (d + 5) (.char '[' :: (Text.joined ","
      (f.locations.map fun l => "\x7b" ++ l.condition f.itemType ++ "\x7d") ++ .char ']' :: rest))
      (.list (f.locations.map (Location.toJson f.itemType))) rest := by
  by_cases hl : f.locations = []
  · rw [hl]
    exact .emptyList rfl
  · exact .list (Location.readsItems_conditions hf.itemType rest hl hf.path hf.name)

/-- In front of any text, the text of a filter is read as its value. -/
theorem reads_render (rest : Text) : Reads (d + 6) (f.render ++ rest) f.toJson rest := by
  have blank : ∀ c ∈ [CodePoint.char ' '], isSpace c := by simp [isSpace]
  have hrepo : Json.IsPlain "repo" := by decide
  have hor : Json.IsPlain "$or" := by decide
  have hlocations := (reads_locations (d := d) hf (.char '}' :: rest)).blank blank
  have hlast := ReadsMembers.last (readsString_of_isPlain hor (.char ':' :: _)) rfl hlocations rfl
  have hclauses := readsMembers_clauses hf.key hf.value hlast
  have hrepository (t : Text) :=
    Reads.text (d := d + 5) (readsString_of_isPlain hf.repository (.char ',' :: t))
  rw [render_append]
  exact .object (.cons (readsString_of_isPlain hrepo _) rfl ((hrepository _).blank blank) rfl
    hclauses)

omit hf

/-- The value of a filter with locations tells the filter. -/
theorem toJson_inj {f' : Filter} (hne : f.locations ≠ []) (h : f.toJson = f'.toJson) : f = f' := by
  obtain ⟨repository, locations, properties, itemType⟩ := f
  obtain ⟨repository', locations', properties', itemType'⟩ := f'
  simp only [toJson, Json.object.injEq, List.cons.injEq, Prod.mk.injEq, Json.text.injEq,
    true_and] at h
  obtain ⟨rfl, h⟩ := h
  -- The locations are the last member, so what is before them are the properties.
  obtain ⟨hproperties, hor⟩ := List.append_inj' h rfl
  have hproperty : ∀ p p' : Property, p.toMember = p'.toMember → p = p' := by
    intro ⟨key, value⟩ ⟨key', value'⟩ h
    simpa [Property.toMember, constraint, comparison] using h
  obtain rfl := (List.map_inj_right hproperty).1 hproperties
  have hlocations : locations.map (Location.toJson itemType) =
      locations'.map (Location.toJson itemType') := by simpa using hor
  cases locations with
  | nil => exact absurd rfl hne
  | cons l ls =>
    cases locations' with
    | nil => cases hlocations
    | cons l' ls' =>
      obtain ⟨rfl, rfl⟩ := Location.toJson_inj (List.cons.inj hlocations).1
      have hls := (List.map_inj_right fun _ _ h => (Location.toJson_inj h).1).1 hlocations
      rw [hls]

end Filter

/-! ## Queries -/

theorem render_generated (f : Filter) (fields : List Text) :
    (⟨.generated f, fields⟩ : Query).render =
      "items.find(" ++ (f.render ++ (").include(" ++ (Text.joined "," fields ++ ")"))) := by
  simp only [Query.render, renderBody, List.append_assoc]

/-- A generated query has its filter as JSON, member by member, between its
    parentheses, and a query with locations can be told from its text. Fields
    are told from each other by their commas; only an empty field by itself
    looks like no field at all. -/
theorem Query.render_faithful {f : Filter} (hf : f.IsPlain) (fields : List Text) :
    (∃ body, (⟨.generated f, fields⟩ : Query).render =
        "items.find(" ++ body ++ ").include(" ++ Text.joined "," fields ++ ")" ∧
      Json.read body = .ok f.toJson) ∧
    ∀ (f' : Filter) (fields' : List Text), f'.IsPlain → f.locations ≠ [] →
      (∀ t ∈ fields, .char ',' ∉ t) → (∀ t ∈ fields', .char ',' ∉ t) →
      (fields ≠ [] ∧ fields' ≠ [] ∨ [] ∉ fields ∧ [] ∉ fields') →
      (⟨.generated f, fields⟩ : Query).render = (⟨.generated f', fields'⟩ : Query).render →
      (⟨.generated f, fields⟩ : Query) = ⟨.generated f', fields'⟩ := by
  refine ⟨⟨f.render, rfl, ?_⟩, ?_⟩
  · have h := Filter.reads_render (d := 984) hf []
    rw [List.append_nil] at h
    exact read_of_reads h rfl
  · intro f' fields' hf' hl hcomma hcomma' hfields h
    rw [render_generated, render_generated] at h
    have hbody := List.append_cancel_left h
    -- Both filters are read from the front of one text.
    have hread := Filter.reads_render (d := 0) hf (").include(" ++ (Text.joined "," fields ++ ")"))
    rw [hbody] at hread
    obtain ⟨hjson, hrest⟩ := hread.unique (Filter.reads_render hf' _)
    obtain rfl := Filter.toJson_inj hl hjson
    have hjoined := List.append_cancel_right (List.append_cancel_left hrest)
    rw [Text.joined_inj hcomma hcomma' hfields hjoined]

theorem Query.render_faithful_libraries :
    let f : Filter := ⟨"libs", [⟨"*", "*"⟩, ⟨"a/b", "c*"⟩], [⟨"k", "v"⟩, ⟨"k", "w"⟩], "folder"⟩
    let f' : Filter := ⟨"libs", [⟨"*", "*"⟩, ⟨"a/b", "c*"⟩], [⟨"k", "w"⟩, ⟨"k", "v"⟩], "folder"⟩
    f.IsPlain ∧ f'.IsPlain ∧
    (∃ body, (⟨.generated f, ["name", "size"]⟩ : Query).render =
        "items.find(" ++ body ++ ").include(name,size)" ∧ Json.read body = .ok f.toJson) ∧
    (⟨.generated f, ["name", "size"]⟩ : Query).render ≠
      (⟨.generated f', ["name", "size"]⟩ : Query).render := by
  intro f f'
  have hf : f.IsPlain := by constructor <;> decide
  have hf' : f'.IsPlain := by constructor <;> decide
  obtain ⟨⟨body, hbody, hread⟩, hinj⟩ := Query.render_faithful hf ["name", "size"]
  refine ⟨hf, hf', ⟨body, ?_, hread⟩, fun h => ?_⟩
  · simp only [hbody, List.append_assoc]
    rfl
  · have heq := hinj f' _ hf' (by decide) (by decide) (by decide) (by decide) h
    revert heq
    decide

end Depot.Search
