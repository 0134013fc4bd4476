import Depot.Proofs.Spec.RawBodies
import Depot.Proofs.Text.Case
import Mathlib.Data.List.Forall2
import Mathlib.Data.List.Nodup

/-!
# Which documents are specs

A spec is an object with a list of elements, and each of these is an object whose members
can be what an entry takes from them (`Lists`, `Describes`). For every key in lower case the
last member counts that has it (`lastValue?`).

* `parse_eq_ok_iff`: the documents that are read are those whose text can be read as a spec,
  and they give one entry for each element, which only depends on the element;
* `parse_of_recased`: the case of letters in the keys of the document and of its elements
  says nothing, as long as it does not tell keys apart;
* `parse_exact`: both.
-/

namespace Depot.Spec

open Json (find?)

variable {t t' key : Text} {ms ms' : List (Text × Json)} {v v' : Json} {vs vs' : List Json}
  {es : List Entry}

/-! ## The grammar -/

/-- The value of the last member whose key is this one in lower case. -/
def lastValue? (key : Text) (ms : List (Text × Json)) : Option Json :=
  (ms.reverse.find? fun m => Text.lower m.1 = key).map (·.2)

/-- The members of an object can be what an entry takes from them. -/
structure Describes (ms : List (Text × Json)) : Prop where
  texts : ∀ key ∈ (["pattern", "target", "props"] : List Text),
    ∀ v ∈ lastValue? key ms, CanBeText v
  truths : ∀ key ∈ (["recursive", "flat", "regexp"] : List Text),
    ∀ v ∈ lastValue? key ms, CanBeTruth v
  body : ∀ v ∈ lastValue? "aql" ms, CanBeBody v

/-- The value is a spec with these elements. -/
def Lists (v : Json) (vs : List Json) : Prop :=
  ∃ ms, v = .object ms ∧ lastValue? "files" ms = some (.list vs) ∧ vs ≠ [] ∧
    ∀ v ∈ vs, ∃ ms, v = .object ms ∧ Describes ms

theorem find?_lowerKeys (key : Text) (ms : List (Text × Json)) :
    find? key (lowerKeys ms) = lastValue? key ms := by
  rw [lowerKeys, Json.find?_ofMembers, find?, ← List.map_reverse, List.find?_map, Option.map_map]
  rfl

theorem describes_iff : Describes ms ↔ IsReadable (lowerKeys ms) := by
  constructor
  · rintro ⟨htexts, htruths, hbody⟩
    simp only [← find?_lowerKeys] at htexts htruths hbody
    exact ⟨htexts, htruths, hbody⟩
  · rintro ⟨htexts, htruths, hbody⟩
    simp only [find?_lowerKeys] at htexts htruths hbody
    exact ⟨htexts, htruths, hbody⟩

theorem isElement_iff : IsElement v ↔ ∃ ms, v = .object ms ∧ Describes ms :=
  exists_congr fun _ => and_congr_right fun _ => describes_iff.symm

theorem ofJson_eq_ok_iff_lists : ofJson v = .ok es ↔ ∃ vs, Lists v vs ∧ vs.map entryOf = es := by
  simp only [ofJson_eq_ok_iff, find?_lowerKeys, isElement_iff]
  constructor
  · rintro ⟨ms, vs, hv, hfiles, hne, hvs, hes⟩
    exact ⟨vs, ⟨ms, hv, hfiles, hne, hvs⟩, hes⟩
  · rintro ⟨vs, ⟨ms, hv, hfiles, hne, hvs⟩, hes⟩
    exact ⟨ms, vs, hv, hfiles, hne, hvs, hes⟩

/-! ## Reading -/

theorem ofRead_eq_ok_iff {r : Except Json.ReadError Json} :
    ofRead r = .ok es ↔ ∃ v vs, r = .ok v ∧ Lists v vs ∧ vs.map entryOf = es := by
  cases r with
  | error e => cases e <;> simp [ofRead]
  | ok v =>
    have hv : ofRead (.ok v) = .ok es ↔ ofJson v = .ok es := by
      rw [ofRead]
      cases ofJson v <;> simp
    simp only [hv, ofJson_eq_ok_iff_lists, Except.ok.injEq, exists_and_left, exists_eq_left']

/-- The documents that are read, and what they give. -/
theorem parse_eq_ok_iff : Spec.parse t = .ok es ↔
    ∃ v vs, Json.parse t = .ok v ∧ Lists v vs ∧ vs.map entryOf = es := by
  have hmark (v : Json) : Json.parseFile t = .ok v ↔ Json.parse t = .ok v := by
    refine ⟨fun h => ?_, parseFile_of_parse⟩
    rw [Json.parseFile] at h
    split at h
    · contradiction
    · exact h
  simp only [Spec.parse, ofRead_eq_ok_iff, hmark]

/-! ## Keys in another case -/

/-- The keys are equal but for the case of letters of ASCII. -/
def IsRecased (k k' : Text) : Prop := k.map Text.toSmall = k'.map Text.toSmall

instance (k k' : Text) : Decidable (IsRecased k k') := inferInstanceAs (Decidable (_ = _))

/-- No two keys of the object are equal but for the case of letters. -/
def HasDistinctKeys (ms : List (Text × Json)) : Prop :=
  (ms.map fun m => m.1.map Text.toSmall).Nodup

instance (ms : List (Text × Json)) : Decidable (HasDistinctKeys ms) :=
  inferInstanceAs (Decidable (List.Nodup _))

/-- The members have their keys in another case, and values that are related. -/
def RecasedMembers (R : Text → Json → Json → Prop) (ms ms' : List (Text × Json)) : Prop :=
  List.Forall₂ (fun m m' => IsRecased m.1 m'.1 ∧ R (Text.lower m.1) m.2 m'.2) ms ms'

/-- An element with its keys in another case. -/
def RecasedElement (v v' : Json) : Prop :=
  v = v' ∨ ∃ ms ms', v = .object ms ∧ v' = .object ms' ∧ HasDistinctKeys ms ∧
    RecasedMembers (fun _ v v' => v = v') ms ms'

/-- A value of a document whose elements have their keys in another case. -/
def RecasedValue (key : Text) (v v' : Json) : Prop :=
  v = v' ∨ key = "files" ∧ ∃ vs vs', v = .list vs ∧ v' = .list vs' ∧
    List.Forall₂ RecasedElement vs vs'

/-- A document with its keys and those of its elements in another case. Where keys change, no
    two keys are equal but for their case. -/
def Recased (v v' : Json) : Prop :=
  ∃ ms ms', v = .object ms ∧ v' = .object ms' ∧ HasDistinctKeys ms ∧
    RecasedMembers RecasedValue ms ms'

theorem IsRecased.lower_eq {k k' : Text} (h : IsRecased k k') : Text.lower k = Text.lower k' := by
  rw [← Text.lower_map_toSmall k, h, Text.lower_map_toSmall]

theorem RecasedMembers.map_lower_eq (h : RecasedMembers (fun _ v v' => v = v') ms ms') :
    ms.map (fun m => (Text.lower m.1, m.2)) = ms'.map (fun m => (Text.lower m.1, m.2)) := by
  induction h with
  | nil => rfl
  | cons hm _ ih => rw [List.map_cons, List.map_cons, ih, hm.1.lower_eq, hm.2]

/-- The last value of a key is that of the same member in another case. -/
theorem RecasedMembers.lastValue? {R : Text → Json → Json → Prop} (h : RecasedMembers R ms ms')
    (key : Text) : Option.Rel (R key) (lastValue? key ms) (lastValue? key ms') := by
  -- The last member of a key is the first one from behind.
  have hreverse := List.forall₂_reverse_iff.2 h
  rw [Spec.lastValue?, Spec.lastValue?]
  generalize ms.reverse = us at hreverse ⊢
  generalize ms'.reverse = us' at hreverse ⊢
  induction hreverse with
  | nil => exact .none
  | cons hm _ ih =>
    rw [List.find?_cons, List.find?_cons, ← hm.1.lower_eq]
    split
    · next hkey => exact .some (of_decide_eq_true hkey ▸ hm.2)
    · exact ih

theorem RecasedElement.ofJson_eq (h : RecasedElement v v') (index : Nat) :
    Entry.ofJson index v = Entry.ofJson index v' := by
  obtain rfl | ⟨ms, ms', rfl, rfl, _, hms⟩ := h
  · rfl
  · simp only [Entry.ofJson, lowerKeys, hms.map_lower_eq]

theorem entriesFrom_eq_of_recased (h : List.Forall₂ RecasedElement vs vs') (index : Nat) :
    entriesFrom index vs = entriesFrom index vs' := by
  induction h generalizing index with
  | nil => rfl
  | cons hv _ ih => rw [entriesFrom, entriesFrom, hv.ofJson_eq, ih]

/-- A document says the same with its keys in another case. -/
theorem Recased.ofJson_eq (h : Recased v v') : ofJson v = ofJson v' := by
  obtain ⟨ms, ms', rfl, rfl, _, hms⟩ := h
  have hfiles := hms.lastValue? "files"
  rw [← find?_lowerKeys, ← find?_lowerKeys] at hfiles
  rw [ofJson, ofJson]
  generalize find? "files" (lowerKeys ms) = files at hfiles ⊢
  generalize find? "files" (lowerKeys ms') = files' at hfiles ⊢
  cases hfiles with
  | none => rfl
  | some hv =>
    obtain rfl | ⟨_, vs, vs', rfl, rfl, hvs⟩ := hv
    · rfl
    · -- An empty list is a defect of its own.
      cases hvs with
      | nil => rfl
      | cons hv hvs => exact entriesFrom_eq_of_recased (.cons hv hvs) 0

/-! ## Texts with keys in another case -/

/-- Keys that are distinct in any case stay distinct. -/
theorem RecasedMembers.nodup {R : Text → Json → Json → Prop} (h : RecasedMembers R ms ms')
    (hdistinct : HasDistinctKeys ms) : (ms'.map (·.1)).Nodup := by
  have hkeys : ms.map (fun m => m.1.map Text.toSmall) =
      (ms'.map (·.1)).map (List.map Text.toSmall) := by
    induction h with
    | nil => rfl
    | cons hm _ ih =>
      rw [List.map_cons, List.map_cons, List.map_cons, ← hm.1, ih (List.nodup_cons.1 hdistinct).2]
  rw [HasDistinctKeys, hkeys] at hdistinct
  exact hdistinct.of_map _

/-- The values of an object are collapsed if they are those of a collapsed one, or are made of
    these by something that keeps them so. -/
theorem RecasedMembers.collapse_eq {R : Text → Json → Json → Prop} (h : RecasedMembers R ms ms')
    (hdistinct : HasDistinctKeys ms)
    (hR : ∀ key v v', R key v v' → v.collapse = v → v'.collapse = v')
    (hv : (Json.object ms).collapse = .object ms) :
    (Json.object ms').collapse = .object ms' := by
  refine Json.collapse_object_eq_iff.2 ⟨h.nodup hdistinct, ?_⟩
  have hvalues := (Json.collapse_object_eq_iff.1 hv).2
  -- What is left is a fact about each value, whatever the keys are.
  clear hdistinct hv
  induction h with
  | nil => exact List.forall_mem_nil _
  | cons hm _ ih =>
    obtain ⟨hfirst, hrest⟩ := List.forall_mem_cons.1 hvalues
    exact List.forall_mem_cons.2 ⟨hR _ _ _ hm.2 hfirst, ih hrest⟩

theorem RecasedElement.collapse_eq (h : RecasedElement v v') (hv : v.collapse = v) :
    v'.collapse = v' := by
  obtain rfl | ⟨ms, ms', rfl, rfl, hdistinct, hms⟩ := h
  · exact hv
  · exact hms.collapse_eq hdistinct (fun _ _ _ heq h => heq ▸ h) hv

theorem RecasedValue.collapse_eq (h : RecasedValue key v v') (hv : v.collapse = v) :
    v'.collapse = v' := by
  obtain rfl | ⟨_, vs, vs', rfl, rfl, hvs⟩ := h
  · exact hv
  · rw [Json.collapse_list_eq_iff] at hv ⊢
    induction hvs with
    | nil => exact List.forall_mem_nil _
    | cons hv' _ ih =>
      obtain ⟨hfirst, hrest⟩ := List.forall_mem_cons.1 hv
      exact List.forall_mem_cons.2 ⟨hv'.collapse_eq hfirst, ih hrest⟩

theorem Recased.collapse_eq (h : Recased v v') (hv : v.collapse = v) : v'.collapse = v' := by
  obtain ⟨ms, ms', rfl, rfl, hdistinct, hms⟩ := h
  exact hms.collapse_eq hdistinct (fun _ _ _ => RecasedValue.collapse_eq) hv

/-- What is read has no repeated keys. -/
theorem collapse_eq_of_parse (h : Json.parse t = .ok v) : v.collapse = v := by
  rw [Json.parse] at h
  obtain ⟨raw, _, rfl⟩ := exists_of_map_eq_ok h
  exact Json.collapse_collapse raw

/-- The text of a document with its keys in another case gives what the document gives. -/
theorem parse_of_recased (h : Json.parse t = .ok v) (hv : Recased v v')
    (h' : Json.parse t' = .ok v'.collapse) : Spec.parse t' = Spec.parse t := by
  rw [hv.collapse_eq (collapse_eq_of_parse h)] at h'
  rw [Spec.parse, parseFile_of_parse h', Spec.parse, parseFile_of_parse h]
  simp only [ofRead, hv.ofJson_eq]

/-! ## The whole law -/

/-- A text that can be read as JSON is read as entries when it is a spec, all elements of it or
    none, and each element gives an entry of its own. Keys in another case say the same. -/
theorem parse_exact (h : Json.parse t = .ok v) :
    ((∃ es, Spec.parse t = .ok es) ↔ ∃ vs, Lists v vs) ∧
    (∀ es, Spec.parse t = .ok es ↔ ∃ vs, Lists v vs ∧ vs.map entryOf = es) ∧
    ∀ v' t', Recased v v' → Json.parse t' = .ok v'.collapse → Spec.parse t' = Spec.parse t := by
  have hread (es : List Entry) :
      Spec.parse t = .ok es ↔ ∃ vs, Lists v vs ∧ vs.map entryOf = es := by
    rw [parse_eq_ok_iff]
    simp only [h, Except.ok.injEq, exists_and_left, exists_eq_left']
  refine ⟨⟨?_, ?_⟩, hread, fun v' t' hv h' => parse_of_recased h hv h'⟩
  · rintro ⟨es, hes⟩
    obtain ⟨vs, hvs, _⟩ := (hread es).1 hes
    exact ⟨vs, hvs⟩
  · rintro ⟨vs, hvs⟩
    exact ⟨_, (hread _).2 ⟨vs, hvs, rfl⟩⟩

/-- A document with capitals in its keys, and one with small letters. -/
theorem parse_exact_capitals :
    let capitals : Text :=
      "\x7b\"FILES\": [\x7b\"Pattern\": \"libs/a\", \"FLAT\": \"True\"\x7d]\x7d"
    let small : Text :=
      "\x7b\"files\": [\x7b\"pattern\": \"libs/a\", \"flat\": \"True\"\x7d]\x7d"
    Spec.parse capitals = .ok [{ pattern := "libs/a", flat := true }] ∧
      Spec.parse small = Spec.parse capitals := by
  intro capitals small
  let document (files pattern flat : Text) : Json :=
    .object [(files, .list [.object [(pattern, .text "libs/a"), (flat, .text "True")]])]
  have hcapitals : Json.parse capitals = .ok (document "FILES" "Pattern" "FLAT") := by
    decide +kernel
  have hsmall : Json.parse small = .ok (document "files" "pattern" "flat").collapse := by
    decide +kernel
  have hentries : ofJson (document "FILES" "Pattern" "FLAT") =
      .ok [{ pattern := "libs/a", flat := true }] := by
    decide +kernel
  have helement : RecasedElement
      (.object [("Pattern", .text "libs/a"), ("FLAT", .text "True")])
      (.object [("pattern", .text "libs/a"), ("flat", .text "True")]) :=
    .inr ⟨_, _, rfl, rfl, by decide +kernel,
      .cons ⟨by decide +kernel, rfl⟩ (.cons ⟨by decide +kernel, rfl⟩ .nil)⟩
  have hrecased : Recased (document "FILES" "Pattern" "FLAT") (document "files" "pattern" "flat") :=
    ⟨_, _, rfl, rfl, by decide +kernel, .cons ⟨by decide +kernel,
      .inr ⟨by decide +kernel, _, _, rfl, rfl, .cons helement .nil⟩⟩ .nil⟩
  -- From here on nothing is evaluated.
  clear_value capitals small document
  obtain ⟨_, hread, hsame⟩ := parse_exact hcapitals
  exact ⟨(hread _).2 (ofJson_eq_ok_iff_lists.1 hentries), hsame _ _ hrecased hsmall⟩

/-- A spec may have an integer that is too long. Then none of it is read. -/
theorem spec_is_refused_for_an_integer :
    let n : Nat := 10 ^ Text.maxDigits
    (∃ vs, Lists (bodyDocument (.int n)) vs) ∧
      Spec.parse ((bodyDocument (.int n)).render .compact) =
        .error (.tooManyDigits (Text.ofNat n).length) := by
  intro n
  refine ⟨?_, parse_bodyDocument_of_tooManyDigits (Text.lt_length_ofNat (Nat.le_refl n))⟩
  generalize (n : Int) = i
  -- The body is the only member of the element.
  have hother (key : Text) (hkey : Text.lower "aql" ≠ key) (v : Json)
      (hv : v ∈ lastValue? key [("aql", .object [(bodyKey, .int i)])]) : False := by
    simp [lastValue?, hkey] at hv
  have htexts : ∀ key ∈ (["pattern", "target", "props"] : List Text), Text.lower "aql" ≠ key := by
    decide
  have htruths : ∀ key ∈ (["recursive", "flat", "regexp"] : List Text),
      Text.lower "aql" ≠ key := by
    decide
  refine ⟨_, _, rfl, rfl, List.cons_ne_nil _ _, List.forall_mem_singleton.2 ⟨_, rfl, ?_, ?_, ?_⟩⟩
  · exact fun key hkey v hv => (hother key (htexts key hkey) v hv).elim
  · exact fun key hkey v hv => (hother key (htruths key hkey) v hv).elim
  · rintro _ ⟨⟩
    exact .inr ⟨_, rfl, rfl⟩

end Depot.Spec
