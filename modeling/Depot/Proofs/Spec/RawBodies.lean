import Depot.Proofs.Json.Places
import Depot.Proofs.Spec.Elements

/-!
# Bodies of queries in documents

An element of a document without a pattern is described by the value under `items.find`: the
body of its query is this value written without blanks.

* `exists_holds_body`: the value has a place of its own in the document;
* `raw_body`: the element compiles to its value and to nothing else, and any other value in
  this place gives another body and changes nothing else.

An integer can be too long to be read. Then the document has no value and its elements no
queries (`parse_bodyDocument_of_tooManyDigits`).
-/

namespace Depot.Spec

open Json

variable {t : Text} {i : Nat} {top entry entry' inner : List (Text × Json)} {v raw : Json}
  {elements : List Json} {e : Entry} {es : List Entry} {fields : List Text} {folders : Bool}

/-! ## The body of an element -/

theorem bodyOf_of_find? {key : Text} {ms : List (Text × Json)}
    (h : find? key ms = some (.object inner)) (hbody : find? bodyKey inner = some v) :
    bodyOf key ms = v.render .compact := by
  simp only [bodyOf, h, hbody, Option.map_some, Option.getD_some]

theorem textOf_of_isBlank {key : Text} {ms : List (Text × Json)}
    (h : ∀ v ∈ find? key ms, v.isBlank) : textOf key ms = [] := by
  rw [textOf]
  split
  · next t ht => exact List.isEmpty_iff.1 (h _ ht)
  · rfl

/-- Another body leaves an element readable, and changes nothing else of its entry. -/
theorem isElement_of_body (h : IsElement (.object entry))
    (hother : ∀ key : Text, key ≠ "aql" →
      find? key (lowerKeys entry') = find? key (lowerKeys entry))
    (haql : find? "aql" (lowerKeys entry') = some (.object inner))
    (hbody : find? bodyKey inner = some v) :
    IsElement (.object entry') ∧ entryOf (.object entry') =
      { entryOf (.object entry) with body := v.render .compact } := by
  obtain ⟨_, heq, htexts, htruths, _⟩ := h
  obtain rfl := Json.object.inj heq
  refine ⟨⟨entry', rfl, ?_, ?_, ?_⟩, ?_⟩
  · intro key hkey
    rw [hother key (by rintro rfl; revert hkey; decide)]
    exact htexts key hkey
  · intro key hkey
    rw [hother key (by rintro rfl; revert hkey; decide)]
    exact htruths key hkey
  · intro v' hv'
    rw [haql] at hv'
    obtain rfl := Option.some.inj hv'
    exact .inr ⟨inner, rfl, by rw [hbody]; rfl⟩
  -- Members are looked up by their keys, and only one of these is `aql`.
  · have htext (key : Text) (hkey : key ≠ "aql") :
        textOf key (lowerKeys entry') = textOf key (lowerKeys entry) := by
      rw [textOf, hother key hkey, textOf]
    have htruth (key : Text) (default : Bool) (hkey : key ≠ "aql") :
        truthOf key default (lowerKeys entry') = truthOf key default (lowerKeys entry) := by
      rw [truthOf, hother key hkey, truthOf]
    simp only [entryOf, entryOfMembers, Entry.mk.injEq]
    exact ⟨htext _ (by decide), htext _ (by decide), htext _ (by decide), htruth _ _ (by decide),
      htruth _ _ (by decide), htruth _ _ (by decide), bodyOf_of_find? haql hbody⟩

/-- An entry with nothing but a body is a query in the words of its author, whatever else it
    has. -/
theorem Entry.compile_of_body (fields : List Text) (folders : Bool) (hpattern : e.pattern = [])
    (hbody : e.body ≠ []) : e.kind? = some .raw ∧ e.compile fields folders =
      .ok ("items.find(" ++ e.body ++ ").include(" ++ Text.joined "," fields ++ ")") := by
  have hkind : e.kind? = some .raw := by
    rw [Entry.kind?, if_neg (by simp [hpattern]), if_pos hbody]
  refine ⟨hkind, ?_⟩
  rw [Entry.compile, Entry.query, hkind]
  rfl

/-! ## The place of a body -/

/-- The value that becomes a body has a place of its own in the document. Another value there
    is the body of the same element, and the document has the same elements otherwise. -/
theorem exists_holds_body (hraw : raw.collapse = .object top)
    (hfiles : find? "files" (lowerKeys top) = some (.list elements))
    (hentry : elements[i]? = some (.object entry))
    (haql : find? "aql" (lowerKeys entry) = some (.object inner))
    (hbody : find? bodyKey inner = some v) :
    ∃ f w, raw = f w ∧ w.collapse = v ∧ Holds 4 f w ∧ ∀ w', ∃ top' entry' inner',
      (f w').collapse = .object top' ∧
      find? "files" (lowerKeys top') = some (.list (elements.set i (.object entry'))) ∧
      (∀ key : Text, key ≠ "aql" → find? key (lowerKeys entry') = find? key (lowerKeys entry)) ∧
      find? "aql" (lowerKeys entry') = some (.object inner') ∧
      find? bodyKey inner' = some w'.collapse := by
  obtain ⟨f₁, w₁, rfl, hw₁, hholds₁, hfill₁⟩ := Json.exists_holds_renamed hraw hfiles
  obtain ⟨f₂, w₂, rfl, hw₂, hholds₂, hfill₂⟩ := Json.exists_holds_list hw₁ hentry
  obtain ⟨f₃, w₃, rfl, hw₃, hholds₃, hfill₃⟩ := Json.exists_holds_renamed hw₂ haql
  obtain ⟨f₄, w₄, rfl, hw₄, hholds₄, hfill₄⟩ := Json.exists_holds_object hw₃ hbody
  -- The four ways down are one way, four levels deep.
  have hholds := ((hholds₁.trans (g := f₂) hholds₂).trans (g := f₃) hholds₃).trans (g := f₄) hholds₄
  refine ⟨fun w => f₁ (f₂ (f₃ (f₄ w))), w₄, rfl, hw₄, hholds, fun w' => ?_⟩
  obtain ⟨inner', hinner', hbody'⟩ := hfill₄ w'
  obtain ⟨entry', hentry', hother'⟩ := hfill₃ (f₄ w')
  obtain ⟨top', htop', hfiles'⟩ := hfill₁ (f₂ (f₃ (f₄ w')))
  refine ⟨top', entry', inner', htop', ?_, fun key hkey => ?_, ?_, hbody'⟩
  · rw [← hentry', ← hfill₂]
    exact (hfiles' _).trans (if_pos rfl)
  · exact (hother' key).trans (if_neg hkey)
  · rw [← hinner']
    exact (hother' _).trans (if_pos rfl)

/-! ## Documents -/

/-- What a document gives, as a text and as bytes of any encoding. -/
structure Gives (t : Text) (es : List Entry) : Prop where
  text : Spec.parse t = .ok es
  bytes : ∀ bs, Encoding.decodeDocument bs = .ok t → parseBytes bs = .ok es

/-- A text that can be read has no byte order mark in front. -/
theorem parseFile_of_parse (h : Json.parse t = .ok v) : Json.parseFile t = .ok v := by
  rw [Json.parseFile, if_neg, h]
  intro hmark
  cases t with
  | nil => contradiction
  | cons c t =>
    obtain rfl := Option.some.inj hmark
    contradiction

theorem gives_of_parse (hparse : Json.parse t = .ok (.object top))
    (hfiles : find? "files" (lowerKeys top) = some (.list elements)) (hne : elements ≠ [])
    (hvalid : ∀ v ∈ elements, IsElement v) : Gives t (elements.map entryOf) := by
  have hjson : ofJson (.object top) = .ok (elements.map entryOf) :=
    ofJson_eq_ok_iff.2 ⟨top, elements, rfl, hfiles, hne, hvalid, rfl⟩
  constructor
  · rw [Spec.parse, parseFile_of_parse hparse]
    simp only [ofRead, hjson]
  · intro bs hbs
    simp only [parseBytes, hbs, hparse, ofRead, hjson]

theorem render_ne_nil {d : Nat} (h : Faithful d v) : v.render .compact ≠ [] := by
  have hshorter := (h.spells_render.reads d [] (Nat.le_refl d) rfl).shorter
  intro hnil
  rw [hnil] at hshorter
  contradiction

/-- The body of an element without a pattern is the value under `items.find`, whatever the
    document looks like and whatever else the element says. Its text stands for the value, with
    its members in order. In the place of the value in the document this text gives the same
    entries, and that of any other value gives the entries with this value as the body. -/
theorem raw_body (hparse : Json.parse t = .ok (.object top))
    (hfiles : find? "files" (lowerKeys top) = some (.list elements))
    (hvalid : ∀ v ∈ elements, IsElement v)
    (hentry : elements[i]? = some (.object entry))
    (hpattern : ∀ v ∈ find? "pattern" (lowerKeys entry), v.isBlank)
    (haql : find? "aql" (lowerKeys entry) = some (.object inner))
    (hbody : find? bodyKey inner = some v) (hv : IsExact v) :
    Json.parse (v.render .compact) = .ok v ∧
    ∃ es e, Gives t es ∧ es[i]? = some e ∧ e.kind? = some .raw ∧
      (∀ fields folders, e.compile fields folders =
        .ok ("items.find(" ++ v.render .compact ++ ").include(" ++ Text.joined "," fields ++ ")")) ∧
      ∃ pre x post, t = pre ++ (x ++ post) ∧ Json.parse x = .ok v ∧
        Gives (pre ++ (v.render .compact ++ post)) es ∧
        ∀ u, Faithful (maxDepth - 4) u → Gives (pre ++ (u.render .compact ++ post))
          (es.set i { e with body := u.render .compact }) := by
  obtain ⟨b, y, b', raw, rfl, hb, hb', hy, hraw⟩ := Json.exists_spells_of_parse hparse
  obtain ⟨f, w, rfl, rfl, hholds, hfill⟩ := exists_holds_body hraw hfiles hentry haql hbody
  obtain ⟨pre, x, post, rfl, hx, hplace⟩ := hholds (maxDepth - 4) y hy
  have hfaithful := hx.faithful hv
  have helement := hvalid _ (List.mem_of_getElem? hentry)
  have hne : elements ≠ [] := List.ne_nil_of_mem (List.mem_of_getElem? hentry)
  -- What the document gives with the text of another value in this place.
  have hgives {x' : Text} {w' : Json} (hx' : Spells (maxDepth - 4) x' w') :
      Gives (b ++ pre ++ (x' ++ (post ++ b'))) ((elements.map entryOf).set i
        { entryOf (.object entry) with body := w'.collapse.render .compact }) := by
    obtain ⟨top', entry', inner', htop', hfiles', hother', haql', hbody'⟩ := hfill w'
    obtain ⟨helement', hentry'⟩ := isElement_of_body helement hother' haql' hbody'
    have hparse' := (hplace x' w' hx').parse_blanks (Nat.le_refl _) hb hb'
    rw [htop'] at hparse'
    have htext : b ++ pre ++ (x' ++ (post ++ b')) = b ++ (pre ++ (x' ++ post) ++ b') := by simp
    rw [htext, ← hentry', ← List.map_set]
    refine gives_of_parse hparse' hfiles' (by simpa using hne) fun v hv => ?_
    rcases List.mem_or_eq_of_mem_set hv with hv | rfl
    · exact hvalid v hv
    · exact helement'
  have hes : (elements.map entryOf)[i]? = some (entryOf (.object entry)) := by
    rw [List.getElem?_map, hentry, Option.map_some]
  have hbodyOf : (entryOf (.object entry)).body = w.collapse.render .compact :=
    bodyOf_of_find? haql hbody
  have hpatternOf : (entryOf (.object entry)).pattern = [] :=
    textOf_of_isBlank hpattern
  have hcompile (fields : List Text) (folders : Bool) :=
    Entry.compile_of_body fields folders hpatternOf (hbodyOf ▸ render_ne_nil hfaithful)
  have hsame : (elements.map entryOf).set i
      { entryOf (.object entry) with body := w.collapse.render .compact } =
        elements.map entryOf := by
    rw [← hbodyOf]
    obtain ⟨hi, he⟩ := List.getElem?_eq_some_iff.1 hes
    exact (congrArg _ he.symm).trans (List.set_getElem_self hi)
  have hdepth : maxDepth - 4 ≤ maxDepth := Nat.sub_le _ _
  refine ⟨(hfaithful.mono hdepth).parse_render Json.isPlain_compact, elements.map entryOf,
    entryOf (.object entry), gives_of_parse hparse hfiles hne hvalid, hes, ?_,
    fun fields folders => ?_, b ++ pre, x, post ++ b', by simp, hx.parse hdepth, ?_, fun u hu => ?_⟩
  · exact (hcompile [] false).1
  · exact hbodyOf ▸ (hcompile fields folders).2
  · have h := hgives hfaithful.spells_render
    rwa [hfaithful.collapse_eq, hsame] at h
  · have h := hgives hu.spells_render
    rwa [hu.collapse_eq] at h

/-- The keys of the document may be in any case, other members say nothing to a query, and `{}`
    is a body. -/
theorem raw_body_empty :
    let t : Text :=
      "\x7b\"Files\": [\x7b\"AQL\": \x7b\"items.find\": \x7b\x7d \x7d, \"props\": \"bad\"\x7d]\x7d"
    ∃ es e, Gives t es ∧ es[0]? = some e ∧ e.kind? = some .raw ∧
      e.compile ["name"] true = .ok "items.find(\x7b\x7d).include(name)" := by
  intro t
  let element : Json := .object [("AQL", .object [(bodyKey, .object [])]), ("props", .text "bad")]
  have hparse : Json.parse t = .ok (.object [("Files", .list [element])]) := by decide +kernel
  have hfiles :
      find? "files" (lowerKeys [("Files", .list [element])]) = some (.list [element]) := by
    decide +kernel
  have helement : Entry.ofJson 0 element = .ok { properties := "bad", body := "\x7b\x7d" } := by
    decide +kernel
  have hvalid : ∀ v ∈ [element], IsElement v :=
    List.forall_mem_singleton.2 (Entry.ofJson_eq_ok_iff.1 helement).1
  have haql : find? "aql" (lowerKeys [("AQL", .object [(bodyKey, .object [])]),
      ("props", .text "bad")]) = some (.object [(bodyKey, .object [])]) := by
    decide +kernel
  obtain ⟨_, es, e, hgives, he, hkind, hcompile, _⟩ := raw_body hparse hfiles hvalid (i := 0) rfl
    (by decide +kernel) haql rfl (.object (List.forall_mem_nil _) (List.forall_mem_nil _))
  exact ⟨es, e, hgives, he, hkind, hcompile _ _⟩

/-! ## Integers that are too long -/

/-- The document of one element, with a value as its body. -/
def bodyDocument (v : Json) : Json :=
  .object [("files", .list [.object [("aql", .object [(bodyKey, v)])]])]

/-- A body with an integer of too many digits is not read. -/
theorem parse_bodyDocument_of_tooManyDigits {n : Nat}
    (hn : Text.maxDigits < (Text.ofNat n).length) :
    Spec.parse ((bodyDocument (.int n)).render .compact) =
      .error (.tooManyDigits (Text.ofNat n).length) := by
  have hrender : (bodyDocument (.int n)).render .compact =
      "\x7b\"files\":[\x7b\"aql\":\x7b\"items.find\":" ++ (Text.ofNat n ++ "\x7d\x7d]\x7d") := rfl
  generalize htail : Text.ofNat n ++ "\x7d\x7d]\x7d" = tail at hrender
  -- From the integer outwards: each level fails as the one in it does.
  have hread (d fuel : Nat) : readValue d (fuel + 1) (skip tail) =
      .error (.tooManyDigits (Text.ofNat n).length) := by
    rw [← htail]
    exact readValue_of_tooManyDigits (i := n) hn rfl
  have hfind (d fuel : Nat) :
      readValue (d + 1) (fuel + 3) ("\x7b\"items.find\":" ++ tail) = _ :=
    readValue_object_of_error rfl (readMembers_of_error rfl rfl (hread d fuel))
  have haql (d fuel : Nat) :
      readValue (d + 2) (fuel + 5) ("\x7b\"aql\":\x7b\"items.find\":" ++ tail) = _ :=
    readValue_object_of_error rfl (readMembers_of_error rfl rfl (hfind d fuel))
  have hfiles (d fuel : Nat) :
      readValue (d + 4) (fuel + 9) ("\x7b\"files\":[\x7b\"aql\":\x7b\"items.find\":" ++ tail) = _ :=
    readValue_object_of_error rfl (readMembers_of_error rfl rfl
      (readValue_list_of_error rfl (haql d fuel)))
  have hlength : 9 ≤ 2 * ("\x7b\"files\":[\x7b\"aql\":\x7b\"items.find\":" ++ tail).length + 2 := by
    have hle := Nat.le_add_right 31 tail.length
    rw [List.length_append]
    exact Nat.le_trans (show 9 ≤ 2 * 31 + 2 by decide)
      (Nat.add_le_add_right (Nat.mul_le_mul_left 2 hle) 2)
  have hmark : ("\x7b\"files\":[\x7b\"aql\":\x7b\"items.find\":" ++ tail).head? ≠ some '\ufeff' :=
    show some (CodePoint.char '{') ≠ some '\ufeff' by decide
  rw [Spec.parse, hrender, parseFile, if_neg hmark, parse_of_tooManyDigits hlength (hfiles 986)]
  rfl

/-- The body is an integer with one digit more than are read: there is no entry and no query. -/
theorem long_integer_is_not_read :
    let n : Nat := 10 ^ Text.maxDigits
    IsExact (.int n) ∧ Spec.parse ((bodyDocument (.int n)).render .compact) =
      .error (.tooManyDigits (Text.ofNat n).length) := by
  intro n
  exact ⟨.int n, parse_bodyDocument_of_tooManyDigits (Text.lt_length_ofNat (Nat.le_refl n))⟩

end Depot.Spec
