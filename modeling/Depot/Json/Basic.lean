import Depot.Number.Double

/-!
# JSON values

A JSON value with everything that its text can tell: the members of an object
keep their order, integers have any size, and a number with a fraction or an
exponent is a `Double`.

In the text of an object a key may be repeated. `Json.collapse` gives the
object that such a text stands for: a repeated key keeps its first place and
takes its last value.
-/

namespace Depot

/-- A JSON value. -/
inductive Json where
  | null
  | bool (b : Bool)
  | int (n : Int)
  | double (d : Double)
  | text (t : Text)
  | list (items : List Json)
  | object (members : List (Text × Json))

namespace Json

mutual

/-- Equality of JSON values is decided member by member. -/
def decEq : (a b : Json) → Decidable (a = b)
  | .null, .null => .isTrue rfl
  | .bool a, .bool b => decidable_of_iff (a = b) (by simp)
  | .int a, .int b => decidable_of_iff (a = b) (by simp)
  | .double a, .double b => decidable_of_iff (a = b) (by simp)
  | .text a, .text b => decidable_of_iff (a = b) (by simp)
  | .list a, .list b =>
    match decEqItems a b with
    | .isTrue h => .isTrue (by rw [h])
    | .isFalse h => .isFalse (by simpa using h)
  | .object a, .object b =>
    match decEqMembers a b with
    | .isTrue h => .isTrue (by rw [h])
    | .isFalse h => .isFalse (by simpa using h)
  | .null, .bool _ | .null, .int _ | .null, .double _ | .null, .text _ | .null, .list _
  | .null, .object _ | .bool _, .null | .bool _, .int _ | .bool _, .double _ | .bool _, .text _
  | .bool _, .list _ | .bool _, .object _ | .int _, .null | .int _, .bool _ | .int _, .double _
  | .int _, .text _ | .int _, .list _ | .int _, .object _ | .double _, .null | .double _, .bool _
  | .double _, .int _ | .double _, .text _ | .double _, .list _ | .double _, .object _
  | .text _, .null | .text _, .bool _ | .text _, .int _ | .text _, .double _ | .text _, .list _
  | .text _, .object _ | .list _, .null | .list _, .bool _ | .list _, .int _ | .list _, .double _
  | .list _, .text _ | .list _, .object _ | .object _, .null | .object _, .bool _
  | .object _, .int _ | .object _, .double _ | .object _, .text _ | .object _, .list _ =>
    .isFalse nofun

/-- Equality of lists of values. -/
def decEqItems : (a b : List Json) → Decidable (a = b)
  | [], [] => .isTrue rfl
  | [], _ :: _ | _ :: _, [] => .isFalse nofun
  | x :: a, y :: b =>
    match decEq x y, decEqItems a b with
    | .isTrue h, .isTrue h' => .isTrue (by rw [h, h'])
    | .isFalse h, _ => .isFalse (by simp [h])
    | _, .isFalse h => .isFalse (by simp [h])

/-- Equality of lists of members. -/
def decEqMembers : (a b : List (Text × Json)) → Decidable (a = b)
  | [], [] => .isTrue rfl
  | [], _ :: _ | _ :: _, [] => .isFalse nofun
  | (k, x) :: a, (l, y) :: b =>
    match decEq x y, decEqMembers a b with
    | .isTrue h, .isTrue h' => decidable_of_iff (k = l) (by simp [h, h'])
    | .isFalse h, _ => .isFalse (by simp [h])
    | _, .isFalse h => .isFalse (by simp [h])

end

instance : DecidableEq Json := decEq

/-! ## Members -/

/-- The value of the first member with a key. -/
def find? (key : Text) (members : List (Text × Json)) : Option Json :=
  (members.find? fun m => m.1 = key).map (·.2)

/-- The members after giving a key a value: in the place of the key if there is
    one, else at the end. -/
def insert {α : Type} (key : Text) (value : α) : List (Text × α) → List (Text × α)
  | [] => [(key, value)]
  | m :: ms => if m.1 = key then (key, value) :: ms else m :: insert key value ms

/-- Members given one after the other, as far as one object can hold them. -/
def ofMembers {α : Type} (members : List (Text × α)) : List (Text × α) :=
  members.foldl (fun ms m => insert m.1 m.2 ms) []

mutual

/-- The value with every key of an object at most once. -/
def collapse : Json → Json
  | .list items => .list (collapseItems items)
  | .object members => .object (ofMembers (collapseMembers members))
  | v => v

/-- Every value of a list with its keys at most once. -/
def collapseItems : List Json → List Json
  | [] => []
  | v :: vs => collapse v :: collapseItems vs

/-- Every value of some members with its keys at most once. -/
def collapseMembers : List (Text × Json) → List (Text × Json)
  | [] => []
  | (k, v) :: ms => (k, collapse v) :: collapseMembers ms

end

/-- Whether a value counts as not given: null, false, zero, and what is empty. -/
def isBlank : Json → Bool
  | .null => true
  | .bool b => !b
  | .int n => n = 0
  | .double d => d.isZero
  | .text t => t.isEmpty
  | .list items => items.isEmpty
  | .object members => members.isEmpty

/-! ## Lookup after insertion -/

theorem find?_insert_self (key : Text) (value : Json) (ms : List (Text × Json)) :
    find? key (insert key value ms) = some value := by
  induction ms with
  | nil => simp [insert, find?]
  | cons m ms ih =>
    by_cases h : m.1 = key
    · simp [insert, find?, h]
    · simpa [insert, find?, h] using ih

theorem find?_insert_of_ne {key other : Text} (h : other ≠ key) (value : Json)
    (ms : List (Text × Json)) : find? other (insert key value ms) = find? other ms := by
  induction ms with
  | nil => simp [insert, find?, Ne.symm h]
  | cons m ms ih =>
    by_cases hm : m.1 = key
    · simp [insert, find?, hm, Ne.symm h]
    · by_cases ho : m.1 = other
      · subst ho
        simp [insert, find?, hm]
      · simpa [insert, find?, hm, ho] using ih

/-! ## Distinct keys -/

theorem insert_of_not_mem {α : Type} {key : Text} {ms : List (Text × α)}
    (h : key ∉ ms.map (·.1)) (value : α) : insert key value ms = ms ++ [(key, value)] := by
  induction ms with
  | nil => rfl
  | cons m ms ih =>
    rw [List.map_cons, List.mem_cons, not_or] at h
    rw [insert, if_neg (Ne.symm h.1), ih h.2, List.cons_append]

theorem map_fst_insert_of_mem {α : Type} {key : Text} {ms : List (Text × α)}
    (h : key ∈ ms.map (·.1)) (value : α) : (insert key value ms).map (·.1) = ms.map (·.1) := by
  induction ms with
  | nil => cases h
  | cons m ms ih =>
    rw [insert]
    split
    · next hm => rw [List.map_cons, List.map_cons, hm]
    · next hm =>
      rw [List.map_cons, List.mem_cons] at h
      rw [List.map_cons, List.map_cons, ih (h.resolve_left (Ne.symm hm))]

theorem nodup_insert {α : Type} {ms : List (Text × α)} (h : (ms.map (·.1)).Nodup) (key : Text)
    (value : α) : ((insert key value ms).map (·.1)).Nodup := by
  by_cases hmem : key ∈ ms.map (·.1)
  · rw [map_fst_insert_of_mem hmem]
    exact h
  · rw [insert_of_not_mem hmem, List.map_append, List.nodup_append]
    refine ⟨h, List.nodup_cons.2 ⟨List.not_mem_nil, List.nodup_nil⟩, ?_⟩
    rintro k hk _ hkey rfl
    rw [List.map_singleton, List.mem_singleton] at hkey
    rw [hkey] at hk
    exact hmem hk

theorem foldl_insert_of_nodup {α : Type} {ms ms' : List (Text × α)}
    (h : ((ms ++ ms').map (·.1)).Nodup) :
    ms'.foldl (fun ms m => insert m.1 m.2 ms) ms = ms ++ ms' := by
  induction ms' generalizing ms with
  | nil => simp
  | cons m ms' ih =>
    have hm : m.1 ∉ ms.map (·.1) := by
      rw [List.map_append, List.nodup_append] at h
      exact fun hmem => h.2.2 m.1 hmem m.1 List.mem_cons_self rfl
    rw [List.foldl_cons, insert_of_not_mem hm, ih (by rwa [List.append_assoc]), List.append_assoc]
    rfl

/-- Members with distinct keys are an object as they are. -/
theorem ofMembers_of_nodup {α : Type} {ms : List (Text × α)} (h : (ms.map (·.1)).Nodup) :
    ofMembers ms = ms := foldl_insert_of_nodup h

/-- An object has distinct keys. -/
theorem nodup_ofMembers {α : Type} (ms : List (Text × α)) : ((ofMembers ms).map (·.1)).Nodup := by
  have hfold : ∀ acc : List (Text × α), (acc.map (·.1)).Nodup →
      ((ms.foldl (fun ms m => insert m.1 m.2 ms) acc).map (·.1)).Nodup := by
    induction ms with
    | nil => exact fun _ h => h
    | cons m ms ih => exact fun acc h => ih _ (nodup_insert h m.1 m.2)
  exact hfold [] List.nodup_nil

end Json

end Depot
