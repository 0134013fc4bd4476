import Depot.Proofs.Results
import Depot.Spec.Document

/-!
# What the elements of a document describe

Each element of a document is an object, and what an entry takes from it is given by the
members that it has. A member answers with a value or with a defect (`Answers`), and both are
told from what stands there. `entryOf` is the entry that an element describes, if it describes
one:

* `Entry.ofJson_eq_ok_iff`: which elements describe an entry, and which one;
* `ofJson_eq_ok_iff`: which documents can be read, and what they give.
-/

namespace Depot.Spec

open Json (find?)

variable {key : Text} {index : Nat} {ms : List (Text × Json)} {v : Json} {vs : List Json}
  {e : Entry} {es : List Entry}

/-! ## Members -/

/-- What may stand where a text is wanted. -/
def CanBeText (v : Json) : Prop := (∃ t, v = .text t) ∨ v.isBlank

/-- What may stand where a truth value is wanted. -/
def CanBeTruth (v : Json) : Prop :=
  v = .null ∨ (∃ b, v = .bool b) ∨
    ∃ t, v = .text t ∧ (t = [] ∨ Text.lower t = "true" ∨ Text.lower t = "false")

/-- What may stand where a query body is wanted. -/
def CanBeBody (v : Json) : Prop :=
  v.isBlank ∨ ∃ inner, v = .object inner ∧ (find? bodyKey inner).isSome

/-- The text of a member. -/
def textOf (key : Text) (ms : List (Text × Json)) : Text :=
  match find? key ms with
  | some (.text t) => t
  | _ => []

/-- The truth value of a member. -/
def truthOf (key : Text) (default : Bool) (ms : List (Text × Json)) : Bool :=
  match find? key ms with
  | some (.bool b) => b
  | some (.text t) => if t = [] then default else Text.lower t = "true"
  | _ => default

/-- The query body of a member. -/
def bodyOf (key : Text) (ms : List (Text × Json)) : Text :=
  match find? key ms with
  | some (.object inner) => ((find? bodyKey inner).map (·.render .compact)).getD []
  | _ => []

/-- What a member answers, if anything stands there: a value where it can be taken, and a defect
    where it cannot. -/
inductive Answers {α : Type} (o : Option Json) (Takes : Json → Prop) (a : α)
    (defect : Json → Defect) : Except Defect α → Prop
  | ok (h : ∀ v ∈ o, Takes v) : Answers o Takes a defect (.ok a)
  | error {v : Json} (hv : o = some v) (h : ¬Takes v) : Answers o Takes a defect (.error (defect v))

section

variable {α : Type} {o : Option Json} {Takes : Json → Prop} {a b : α} {defect : Json → Defect}
  {d : Defect} {r : Except Defect α}

theorem Answers.eq_ok_iff (h : Answers o Takes a defect r) :
    r = .ok b ↔ (∀ v ∈ o, Takes v) ∧ a = b := by
  cases h with
  | ok htakes => exact ⟨fun h => ⟨htakes, Except.ok.inj h⟩, fun ⟨_, h⟩ => congrArg _ h⟩
  | error hv hnot => exact ⟨fun h => (nomatch h), fun ⟨htakes, _⟩ => absurd (htakes _ hv) hnot⟩

theorem Answers.eq_error_iff (h : Answers o Takes a defect r) :
    r = .error d ↔ ∃ v, o = some v ∧ ¬Takes v ∧ defect v = d := by
  cases h with
  | ok htakes => exact ⟨fun h => (nomatch h), fun ⟨v, hv, hnot, _⟩ => absurd (htakes v hv) hnot⟩
  | error hv hnot => simp [hv, hnot]

end

theorem answers_textMember (index : Nat) (ms : List (Text × Json)) (key : Text) :
    Answers (find? key ms) CanBeText (textOf key ms) (fun _ => .notText index key)
      (textMember index ms key) := by
  rw [textMember, textOf]
  cases find? key ms with
  | none => exact .ok (by simp)
  | some v =>
    cases v with
    | text t => exact .ok (by simp [CanBeText])
    | _ =>
      simp only
      split
      · next hblank => exact .ok (by simpa using .inr hblank)
      · next hblank => exact .error rfl (by simpa [CanBeText] using hblank)

theorem answers_truthMember (index : Nat) (ms : List (Text × Json)) (key : Text)
    (default : Bool) :
    Answers (find? key ms) CanBeTruth (truthOf key default ms) (.notTruth index key)
      (truthMember index ms key default) := by
  rw [truthMember, truthOf]
  cases find? key ms with
  | none => exact .ok (by simp)
  | some v =>
    cases v with
    | null => exact .ok (by simp [CanBeTruth])
    | bool b => exact .ok (by simp [CanBeTruth])
    | text t =>
      have htaken (h : t = [] ∨ Text.lower t = "true" ∨ Text.lower t = "false") :
          ∀ v ∈ some (Json.text t), CanBeTruth v := by
        simpa using .inr (.inr ⟨t, rfl, h⟩)
      simp only
      split
      · next hnil => exact .ok (htaken (.inl hnil))
      split
      · next htrue =>
        rw [decide_eq_true htrue]
        exact .ok (htaken (.inr (.inl htrue)))
      split
      · next htrue hfalse =>
        rw [decide_eq_false htrue]
        exact .ok (htaken (.inr (.inr hfalse)))
      · next hnil htrue hfalse => exact .error rfl (by simp [CanBeTruth, hnil, htrue, hfalse])
    | _ => exact .error rfl (by simp [CanBeTruth])

theorem answers_bodyMember (index : Nat) (ms : List (Text × Json)) (key : Text) :
    Answers (find? key ms) CanBeBody (bodyOf key ms) (fun _ => .notBody index)
      (bodyMember index ms key) := by
  rw [bodyMember, bodyOf]
  cases find? key ms with
  | none => exact .ok (by simp)
  | some v =>
    cases v with
    | object inner =>
      -- An object without members counts as empty, and so does not need the key.
      cases inner with
      | nil => exact .ok (by simp [CanBeBody, Json.isBlank])
      | cons m inner =>
        have hblank : (Json.object (m :: inner)).isBlank = false := rfl
        simp only [hblank, Bool.false_eq_true, if_false]
        cases hbody : find? bodyKey (m :: inner) with
        | none => exact .error rfl (by simp [CanBeBody, hblank, hbody])
        | some body => exact .ok (by simp [CanBeBody, hbody])
    | _ =>
      simp only
      split
      · next hblank => exact .ok (by simpa using .inl hblank)
      · next hblank => exact .error rfl (by simpa [CanBeBody] using hblank)

theorem textMember_eq_ok_iff {t : Text} : textMember index ms key = .ok t ↔
    (∀ v ∈ find? key ms, CanBeText v) ∧ textOf key ms = t :=
  (answers_textMember index ms key).eq_ok_iff

theorem truthMember_eq_ok_iff {default b : Bool} : truthMember index ms key default = .ok b ↔
    (∀ v ∈ find? key ms, CanBeTruth v) ∧ truthOf key default ms = b :=
  (answers_truthMember index ms key default).eq_ok_iff

theorem bodyMember_eq_ok_iff {t : Text} : bodyMember index ms key = .ok t ↔
    (∀ v ∈ find? key ms, CanBeBody v) ∧ bodyOf key ms = t :=
  (answers_bodyMember index ms key).eq_ok_iff

/-! ## Elements -/

/-- The members of an element that describes an entry, with their keys in lower case. -/
structure IsReadable (ms : List (Text × Json)) : Prop where
  texts : ∀ key ∈ (["pattern", "target", "props"] : List Text), ∀ v ∈ find? key ms, CanBeText v
  truths : ∀ key ∈ (["recursive", "flat", "regexp"] : List Text), ∀ v ∈ find? key ms, CanBeTruth v
  body : ∀ v ∈ find? "aql" ms, CanBeBody v

/-- An element of a document that describes an entry. -/
def IsElement (v : Json) : Prop := ∃ ms, v = .object ms ∧ IsReadable (lowerKeys ms)

/-- The entry that the members of an element describe. -/
def entryOfMembers (ms : List (Text × Json)) : Entry where
  pattern := textOf "pattern" ms
  target := textOf "target" ms
  properties := textOf "props" ms
  recursive := truthOf "recursive" true ms
  flat := truthOf "flat" false ms
  regexp := truthOf "regexp" false ms
  body := bodyOf "aql" ms

/-- The entry that an element describes. -/
def entryOf : Json → Entry
  | .object ms => entryOfMembers (lowerKeys ms)
  | _ => {}

/-- Which elements describe an entry, and which one. -/
theorem Entry.ofJson_eq_ok_iff : Entry.ofJson index v = .ok e ↔ IsElement v ∧ entryOf v = e := by
  cases v with
  | object ms =>
    simp only [Entry.ofJson, bind_eq_ok_iff, textMember_eq_ok_iff, truthMember_eq_ok_iff,
      bodyMember_eq_ok_iff, IsElement, Json.object.injEq, entryOf]
    constructor
    · rintro ⟨_, ⟨hpattern, rfl⟩, _, ⟨htarget, rfl⟩, _, ⟨hprops, rfl⟩, _, ⟨hrecursive, rfl⟩, _,
        ⟨hflat, rfl⟩, _, ⟨hregexp, rfl⟩, _, ⟨hbody, rfl⟩, h⟩
      refine ⟨⟨ms, rfl, ?_, ?_, hbody⟩, Except.ok.inj h⟩
      · simp only [List.mem_cons, List.not_mem_nil, or_false, forall_eq_or_imp, forall_eq]
        exact ⟨hpattern, htarget, hprops⟩
      · simp only [List.mem_cons, List.not_mem_nil, or_false, forall_eq_or_imp, forall_eq]
        exact ⟨hrecursive, hflat, hregexp⟩
    · rintro ⟨⟨_, rfl, htexts, htruths, hbody⟩, rfl⟩
      exact ⟨_, ⟨htexts _ (by simp), rfl⟩, _, ⟨htexts _ (by simp), rfl⟩, _,
        ⟨htexts _ (by simp), rfl⟩, _, ⟨htruths _ (by simp), rfl⟩, _,
        ⟨htruths _ (by simp), rfl⟩, _, ⟨htruths _ (by simp), rfl⟩, _, ⟨hbody, rfl⟩, rfl⟩
  | _ => simp [Entry.ofJson, IsElement]

/-! ## Documents -/

theorem entriesFrom_eq_ok_iff : entriesFrom index vs = .ok es ↔
    (∀ v ∈ vs, IsElement v) ∧ vs.map entryOf = es := by
  induction vs generalizing index es with
  | nil => simp [entriesFrom]
  | cons v vs ih =>
    simp only [entriesFrom, bind_eq_ok_iff, Entry.ofJson_eq_ok_iff, ih, List.forall_mem_cons,
      List.map_cons]
    constructor
    · rintro ⟨_, ⟨hv, rfl⟩, _, ⟨hvs, rfl⟩, h⟩
      exact ⟨⟨hv, hvs⟩, Except.ok.inj h⟩
    · rintro ⟨⟨hv, hvs⟩, rfl⟩
      exact ⟨_, ⟨hv, rfl⟩, _, ⟨hvs, rfl⟩, rfl⟩

/-- Which documents can be read, and what they give. -/
theorem ofJson_eq_ok_iff : ofJson v = .ok es ↔
    ∃ ms vs, v = .object ms ∧ find? "files" (lowerKeys ms) = some (.list vs) ∧ vs ≠ [] ∧
      (∀ v ∈ vs, IsElement v) ∧ vs.map entryOf = es := by
  cases v with
  | object ms =>
    rw [ofJson]
    constructor
    · intro h
      split at h
      · contradiction
      · next vs hne hfiles =>
        obtain ⟨hvs, hes⟩ := entriesFrom_eq_ok_iff.1 h
        exact ⟨ms, vs, rfl, hfiles, hne, hvs, hes⟩
      · contradiction
    · rintro ⟨_, vs, heq, hfiles, hne, hvs, hes⟩
      obtain rfl := Json.object.inj heq
      obtain ⟨u, vs, rfl⟩ := List.exists_cons_of_ne_nil hne
      rw [hfiles]
      exact entriesFrom_eq_ok_iff.2 ⟨hvs, hes⟩
  | _ => simp [ofJson]

end Depot.Spec
