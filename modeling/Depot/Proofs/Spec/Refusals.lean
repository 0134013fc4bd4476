import Depot.Proofs.Json.Limits
import Depot.Proofs.Spec.Grammar

/-!
# Documents that are refused

A document may be any bytes. If it is no spec, what is wrong is told by a defect: the text is
no JSON, the value is no object with a list of elements, or the first element that describes
no entry has a member that an entry cannot take (`IsWrong`). The members are looked at in the
order of `wanted`, and the first one that cannot be taken is named.

* `ofJson_eq_error_iff`: which defect a value has;
* `parseBytes_eq_defect_iff`: which defect a document has.

Bytes that are no text, and texts beyond the reader of JSON, are refused without a defect
(`IsBeyond`, `isBeyond_iff`). Both are told from the bytes and the text alone
(`IsBeyond.shows`).
-/

namespace Depot.Spec

open Json (find?)

variable {key t : Text} {index : Nat} {ms : List (Text × Json)} {v w : Json} {vs : List Json}
  {d : Defect} {es : List Entry} {bytes : Bytes}

/-! ## Members -/

/-- A member that an entry takes. -/
structure Wanted where
  /-- Its key in lower case. -/
  key : Text
  /-- What may stand there. -/
  Takes : Json → Prop
  /-- What is said of anything else in the element at a place. -/
  defect : Nat → Json → Defect

/-- A member that is a text. -/
def Wanted.text (key : Text) : Wanted := ⟨key, CanBeText, fun index _ => .notText index key⟩

/-- A member that is a truth value. -/
def Wanted.truth (key : Text) : Wanted := ⟨key, CanBeTruth, fun index v => .notTruth index key v⟩

/-- A member that holds the body of a query. -/
def Wanted.body (key : Text) : Wanted := ⟨key, CanBeBody, fun index _ => .notBody index⟩

/-- The members that an entry takes, in the order in which they are looked at. -/
def wanted : List Wanted := [
  .text "pattern", .text "target", .text "props",
  .truth "recursive", .truth "flat", .truth "regexp",
  .body "aql"]

/-- The members of an object have nothing else in the place of the one that is wanted. -/
def Wanted.IsMet (m : Wanted) (ms : List (Text × Json)) : Prop :=
  ∀ v ∈ lastValue? m.key ms, m.Takes v

/-- The members of an object have something else there, of which this is said. -/
def Wanted.IsMissed (m : Wanted) (index : Nat) (ms : List (Text × Json)) (d : Defect) : Prop :=
  ∃ v, lastValue? m.key ms = some v ∧ ¬m.Takes v ∧ m.defect index v = d

/-- Of the members that are wanted, the first one that cannot be taken has this defect. -/
def IsFirstMissed (wanted : List Wanted) (index : Nat) (ms : List (Text × Json)) (d : Defect) :
    Prop :=
  ∃ before m after, wanted = before ++ m :: after ∧ (∀ b ∈ before, b.IsMet ms) ∧
    m.IsMissed index ms d

theorem isFirstMissed_nil : ¬IsFirstMissed [] index ms d := by
  rintro ⟨before, m, after, h, _⟩
  exact absurd h.symm (by simp)

theorem isFirstMissed_cons {m : Wanted} {wanted : List Wanted} :
    IsFirstMissed (m :: wanted) index ms d ↔
      m.IsMissed index ms d ∨ m.IsMet ms ∧ IsFirstMissed wanted index ms d := by
  constructor
  · rintro ⟨_ | ⟨b, before⟩, m', after, h, hbefore, hm'⟩
    · obtain ⟨rfl, rfl⟩ := List.cons.inj h
      exact .inl hm'
    · obtain ⟨rfl, rfl⟩ := List.cons.inj h
      obtain ⟨hb, hbefore⟩ := List.forall_mem_cons.1 hbefore
      exact .inr ⟨hb, before, m', after, rfl, hbefore, hm'⟩
  · rintro (hm | ⟨hm, before, m', after, rfl, hbefore, hm'⟩)
    · exact ⟨[], m, wanted, rfl, List.forall_mem_nil _, hm⟩
    · exact ⟨m :: before, m', after, rfl, List.forall_mem_cons.2 ⟨hm, hbefore⟩, hm'⟩

theorem textMember_eq_error_iff : textMember index (lowerKeys ms) key = .error d ↔
    (Wanted.text key).IsMissed index ms d := by
  rw [Wanted.IsMissed, ← find?_lowerKeys]
  exact (answers_textMember index (lowerKeys ms) key).eq_error_iff

theorem truthMember_eq_error_iff {default : Bool} :
    truthMember index (lowerKeys ms) key default = .error d ↔
      (Wanted.truth key).IsMissed index ms d := by
  rw [Wanted.IsMissed, ← find?_lowerKeys]
  exact (answers_truthMember index (lowerKeys ms) key default).eq_error_iff

theorem bodyMember_eq_error_iff : bodyMember index (lowerKeys ms) key = .error d ↔
    (Wanted.body key).IsMissed index ms d := by
  rw [Wanted.IsMissed, ← find?_lowerKeys]
  exact (answers_bodyMember index (lowerKeys ms) key).eq_error_iff

/-! ## Elements -/

/-- The element at a place describes no entry, for this reason. -/
inductive IsWrongElement (index : Nat) : Json → Defect → Prop
  /-- It is no object. -/
  | notObject {v : Json} (h : ∀ ms, v ≠ .object ms) :
      IsWrongElement index v (.elementNotObject index)
  /-- A member cannot be taken. -/
  | member {ms : List (Text × Json)} {d : Defect} (h : IsFirstMissed wanted index ms d) :
      IsWrongElement index (.object ms) d

theorem Entry.ofJson_eq_error_iff : Entry.ofJson index v = .error d ↔ IsWrongElement index v d := by
  cases v with
  | object ms =>
    have htext (key : Text) : (∃ t, textMember index (lowerKeys ms) key = .ok t) ↔
        (Wanted.text key).IsMet ms := by
      simp only [textMember_eq_ok_iff, exists_and_left, find?_lowerKeys, exists_eq', and_true]
      rfl
    have htruth (key : Text) (default : Bool) :
        (∃ b, truthMember index (lowerKeys ms) key default = .ok b) ↔
          (Wanted.truth key).IsMet ms := by
      simp only [truthMember_eq_ok_iff, exists_and_left, find?_lowerKeys, exists_eq', and_true]
      rfl
    have hobject : IsWrongElement index (.object ms) d ↔ IsFirstMissed wanted index ms d := by
      refine ⟨fun h => ?_, .member⟩
      cases h with
      | notObject h => exact absurd rfl (h ms)
      | member h => exact h
    rw [hobject, wanted]
    -- Each step is reached when those before it have found what they want.
    simp only [isFirstMissed_cons, isFirstMissed_nil, and_false, or_false, Entry.ofJson,
      bind_eq_error_iff, textMember_eq_error_iff, truthMember_eq_error_iff,
      bodyMember_eq_error_iff, pure, Except.pure, reduceCtorEq, exists_false, exists_and_right,
      htext, htruth]
  | _ =>
    simp only [Entry.ofJson, Except.error.injEq]
    constructor
    · rintro rfl
      exact .notObject fun _ => by simp
    · intro h
      cases h
      rfl

/-! ## Documents -/

theorem entriesFrom_eq_error_iff : entriesFrom index vs = .error d ↔
    ∃ before w after, vs = before ++ w :: after ∧ (∀ v ∈ before, IsElement v) ∧
      IsWrongElement (index + before.length) w d := by
  -- That an element gives some entry only says that it describes one.
  have helement {i : Nat} {v : Json} {p : Prop} :
      (∃ e, Entry.ofJson i v = .ok e ∧ p) ↔ IsElement v ∧ p := by
    simp only [Entry.ofJson_eq_ok_iff, exists_and_right, exists_and_left, exists_eq', and_true]
  induction vs generalizing index with
  | nil => simp [entriesFrom]
  | cons v vs ih =>
    rw [entriesFrom, bind_eq_error_iff]
    simp only [bind_pure_eq_error_iff, helement, Entry.ofJson_eq_error_iff, ih]
    constructor
    · rintro (hv | ⟨hv, before, w, after, rfl, hbefore, hw⟩)
      · exact ⟨[], v, vs, rfl, List.forall_mem_nil _, hv⟩
      · refine ⟨v :: before, w, after, rfl, List.forall_mem_cons.2 ⟨hv, hbefore⟩, ?_⟩
        rwa [List.length_cons, Nat.add_comm before.length 1, ← Nat.add_assoc]
    · rintro ⟨_ | ⟨u, before⟩, w, after, h, hbefore, hw⟩
      · obtain ⟨rfl, rfl⟩ := List.cons.inj h
        exact .inl hw
      · obtain ⟨rfl, rfl⟩ := List.cons.inj h
        obtain ⟨hv, hbefore⟩ := List.forall_mem_cons.1 hbefore
        rw [List.length_cons, Nat.add_comm before.length 1, ← Nat.add_assoc] at hw
        exact .inr ⟨hv, before, w, after, rfl, hbefore, hw⟩

/-- The value is no spec, for this reason. -/
inductive IsWrong : Json → Defect → Prop
  /-- It is no object. -/
  | notObject {v : Json} (h : ∀ ms, v ≠ .object ms) : IsWrong v .notObject
  /-- It has no list of elements. -/
  | noFiles {ms : List (Text × Json)} (h : ∀ vs, lastValue? "files" ms ≠ some (.list vs)) :
      IsWrong (.object ms) .noFiles
  /-- There are no elements in the list. -/
  | emptyFiles {ms : List (Text × Json)} (h : lastValue? "files" ms = some (.list [])) :
      IsWrong (.object ms) .emptyFiles
  /-- The elements before a wrong one describe entries. -/
  | element {ms : List (Text × Json)} {before after : List Json} {w : Json} {d : Defect}
      (h : lastValue? "files" ms = some (.list (before ++ w :: after)))
      (hbefore : ∀ v ∈ before, ∃ ms, v = .object ms ∧ Describes ms)
      (hw : IsWrongElement before.length w d) : IsWrong (.object ms) d

/-- What is wrong with a value that is no spec. -/
theorem ofJson_eq_error_iff : ofJson v = .error d ↔ IsWrong v d := by
  constructor
  · intro h
    cases v with
    | object ms =>
      rw [ofJson, find?_lowerKeys] at h
      split at h
      · next hfiles =>
        obtain rfl := Except.error.inj h
        exact .emptyFiles hfiles
      · next vs _ hfiles =>
        obtain ⟨before, w, after, rfl, hbefore, hw⟩ := entriesFrom_eq_error_iff.1 h
        rw [Nat.zero_add] at hw
        exact .element hfiles (fun v hv => isElement_iff.1 (hbefore v hv)) hw
      · next hother =>
        obtain rfl := Except.error.inj h
        exact .noFiles hother
    | _ =>
      obtain rfl := Except.error.inj h
      exact .notObject fun _ => by simp
  · rintro (hobject | hnone | hempty | ⟨hfiles, hbefore, hw⟩)
    · cases v with
      | object ms => exact absurd rfl (hobject ms)
      | _ => rfl
    · rw [ofJson, find?_lowerKeys]
      split
      · next hfiles => exact absurd hfiles (hnone _)
      · next hfiles => exact absurd hfiles (hnone _)
      · rfl
    · rw [ofJson, find?_lowerKeys, hempty]
    · rw [ofJson, find?_lowerKeys, hfiles]
      split
      · next heq => exact absurd (Json.list.inj (Option.some.inj heq)) (by simp)
      · next heq =>
        obtain rfl := Json.list.inj (Option.some.inj heq)
        exact entriesFrom_eq_error_iff.2 ⟨_, _, _, rfl,
          fun v hv => isElement_iff.2 (hbefore v hv), (Nat.zero_add _).symm ▸ hw⟩
      · next hother => exact absurd rfl (hother _)

/-! ## Bytes -/

/-- The bytes are no text in their encoding, or the text is not read as JSON for another reason
    than a fault in it. -/
def IsBeyond (bytes : Bytes) : Prop :=
  (∃ e, Encoding.decodeDocument bytes = .error e) ∨
    ∃ t, Encoding.decodeDocument bytes = .ok t ∧
      ((∃ n, Json.parse t = .error (.tooManyDigits n)) ∨
        ∃ container, Json.parse t = .error (.tooDeep container))

/-- The document is no spec, for this reason. -/
def IsWrongDocument (bytes : Bytes) (d : Defect) : Prop :=
  ∃ t, Encoding.decodeDocument bytes = .ok t ∧
    ((∃ fault place, Json.parse t = .error (.syntaxFault fault place) ∧ d = .json fault place) ∨
      ∃ v, Json.parse t = .ok v ∧ IsWrong v d)

theorem parseBytes_eq_ok_iff : parseBytes bytes = .ok es ↔ ∃ t v vs,
    Encoding.decodeDocument bytes = .ok t ∧ Json.parse t = .ok v ∧ Lists v vs ∧
      vs.map entryOf = es := by
  rw [parseBytes]
  cases Encoding.decodeDocument bytes with
  | error e => simp
  | ok t => simp only [ofRead_eq_ok_iff, Except.ok.injEq, exists_and_left, exists_eq_left']

/-- Which documents are refused with a defect, and with which one. -/
theorem parseBytes_eq_defect_iff :
    parseBytes bytes = .error (.defect d) ↔ IsWrongDocument bytes d := by
  rw [parseBytes, IsWrongDocument]
  cases Encoding.decodeDocument bytes with
  | error e => simp
  | ok t =>
    simp only [Except.ok.injEq, exists_eq_left', ← ofJson_eq_error_iff]
    cases Json.parse t with
    | error e => cases e <;> simp [ofRead, eq_comm]
    | ok v => cases hv : ofJson v <;> simp [ofRead, hv]

/-- Which documents are refused without a defect. -/
theorem isBeyond_iff :
    IsBeyond bytes ↔ ∃ e, parseBytes bytes = .error e ∧ ∀ d, e ≠ .defect d := by
  rw [parseBytes, IsBeyond]
  cases Encoding.decodeDocument bytes with
  | error e => simp
  | ok t =>
    simp only [reduceCtorEq, exists_false, false_or, Except.ok.injEq, exists_eq_left']
    cases Json.parse t with
    | error e => cases e <;> simp [ofRead]
    | ok v => cases hv : ofJson v <;> simp [ofRead, hv]

/-- What is beyond the reader shows in the bytes or in the text. -/
theorem IsBeyond.shows (h : IsBeyond bytes) :
    (∃ e, Encoding.decodeDocument bytes = .error e) ∨
      ∃ t, Encoding.decodeDocument bytes = .ok t ∧
        (Json.maxDepth < Json.openings t ∨ Json.HasManyDigits t) := by
  refine h.imp_right fun ⟨t, ht, hbeyond⟩ => ⟨t, ht, ?_⟩
  obtain ⟨e, he, hfault⟩ : ∃ e, Json.parse t = .error e ∧ ∀ fault place,
      e ≠ .syntaxFault fault place := by
    rcases hbeyond with ⟨n, hn⟩ | ⟨container, hcontainer⟩
    · exact ⟨_, hn, fun _ => by simp⟩
    · exact ⟨_, hcontainer, fun _ => by simp⟩
  -- Within the limits, what is wrong with a text is a fault in it.
  by_contra hplain
  rw [not_or, Nat.not_lt] at hplain
  obtain ⟨hopen, hdigits⟩ := hplain
  obtain ⟨fault, place, rfl⟩ := Json.exists_fault_of_parse he hopen hdigits
  exact hfault _ _ rfl

/-- A list of elements is not empty, and so is what is read of it. -/
theorem ne_nil_of_parseBytes (h : parseBytes bytes = .ok es) : es ≠ [] := by
  obtain ⟨_, v, vs, _, _, ⟨_, _, _, hne, _⟩, rfl⟩ := parseBytes_eq_ok_iff.1 h
  exact fun hnil => hne (List.map_eq_nil_iff.1 hnil)

/-- A document is read as entries, or it has a defect, or it is beyond the reader. -/
theorem parseBytes_cases (bytes : Bytes) :
    match parseBytes bytes with
    | .ok es => es ≠ [] ∧ ¬IsBeyond bytes
    | .error (.defect d) => IsWrongDocument bytes d ∧ ¬IsBeyond bytes
    | .error _ => IsBeyond bytes := by
  have hbeyond : IsBeyond bytes ↔ _ := isBeyond_iff
  split
  · next es h =>
    refine ⟨ne_nil_of_parseBytes h, ?_⟩
    rw [hbeyond, h]
    rintro ⟨_, heq, _⟩
    contradiction
  · next d h =>
    refine ⟨parseBytes_eq_defect_iff.1 h, ?_⟩
    rw [hbeyond, h]
    rintro ⟨_, heq, hother⟩
    exact hother d (Except.error.inj heq).symm
  · next e hother h => exact hbeyond.2 ⟨e, h, fun d he => hother d he⟩

end Depot.Spec
