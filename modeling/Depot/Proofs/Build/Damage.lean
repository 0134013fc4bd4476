import Depot.Proofs.Build.Recording
import Depot.Proofs.Json.Limits
import Depot.Proofs.Results
import Depot.Proofs.Text.Utf8

/-!
# Damaged records

What is in the files of a recorded build may be anything. A file that cannot be read is to be
reported as damaged (`Failure.isDataFailure`), with its path (`Failure.file?`), but the
readers let some failures through (`Escapes`):

* bytes that are no text, integers with too many digits and values that are nested too deep,
  in any of the files (`IsUnread`);
* an infinite timestamp in a partial (`IsEndless`);
* a path of the folder of the partials that the system refuses.

These are all: `escapes_read_iff` tells by what is in the files when something else than
damage ends the reading. The files are read in order, the partials first, and so the first
file that is not read decides. Files whose bytes are a text with few brackets and without
long rows of digits never let anything through (`HasPlainFiles.not_escapes`).
-/

namespace Depot.Build

open Files
open Utf8 (IsTextOf isTextOf_iff forall_not_isTextOf_iff)

variable {here : Location} {t : Tree} {root folder path : Path} {b : Build} {bytes : Bytes}
  {e : Failure}

/-! ## Steps that fail -/

/-- The step ends in a failure that is not reported as damage. -/
def Escapes {α : Type} (x : Except Failure α) : Prop := ∃ e, x = .error e ∧ e.isDataFailure = false

section

variable {α β : Type} {x : Except Failure α}

theorem escapes_error_iff : Escapes (.error e : Except Failure α) ↔ e.isDataFailure = false := by
  simp [Escapes]

theorem not_escapes_ok (a : α) : ¬Escapes (.ok a : Except Failure α) := by
  simp [Escapes]

theorem escapes_bind_iff {f : α → Except Failure β} :
    Escapes (x >>= f) ↔ Escapes x ∨ ∃ a, x = .ok a ∧ Escapes (f a) := by
  simp only [Escapes, bind_eq_error_iff]
  grind

theorem escapes_mapError_iff {ε : Type} {y : Except ε α} {f : ε → Failure} :
    Escapes (y.mapError f) ↔ ∃ fault, y = .error fault ∧ (f fault).isDataFailure = false := by
  simp only [Escapes, mapError_eq_error_iff]
  grind

/-- Of steps one after the other, the first one that fails decides. -/
theorem escapes_mapM_iff {f : β → Except Failure α} {ys : List β} :
    Escapes (ys.mapM f) ↔ ∃ before y after, ys = before ++ y :: after ∧
      (∀ z ∈ before, ∃ a, f z = .ok a) ∧ Escapes (f y) := by
  simp only [Escapes, mapM_eq_error_iff]
  grind

end

/-! ## What is in a file -/

/-- What the text of a data file stands for, whatever ends its lines. -/
def valueOf (text : Text) : Except Json.ReadError Json := Json.parseFile (Text.unifyLines text)

/-- A file with these bytes is not read, and what is wrong with it is not told as damage. -/
inductive IsUnread (bytes : Bytes) : Prop
  /-- The bytes are no text. -/
  | noText (h : ∀ text, ¬IsTextOf text bytes)
  /-- The text has an integer with too many digits. -/
  | tooManyDigits {text : Text} {digits : Nat} (htext : IsTextOf text bytes)
      (h : valueOf text = .error (.tooManyDigits digits))
  /-- The text has a value that is nested too deep. -/
  | tooDeep {text : Text} {container : Json.Container} (htext : IsTextOf text bytes)
      (h : valueOf text = .error (.tooDeep container))

/-- The bytes are those of a partial whose timestamp is infinite. -/
def IsEndless (bytes : Bytes) : Prop :=
  ∃ text members negative, IsTextOf text bytes ∧ valueOf text = .ok (.object members) ∧
    Json.find? "timestamp" members = some (.double (.infinity negative))

/-- The bytes are those of a text that is not beyond the reader: it has no more brackets than
    may lie around each other, and no more digits in a row than are read. -/
def IsPlain (bytes : Bytes) : Prop :=
  ∃ text, IsTextOf text bytes ∧ Json.openings text ≤ Json.maxDepth ∧ ¬Json.HasManyDigits text

/-- A plain file is read, or what is wrong with it is told. -/
theorem IsPlain.not_isUnread (h : IsPlain bytes) : ¬IsUnread bytes := by
  obtain ⟨text, htext, hopen, hdigits⟩ := h
  have hfault {e : Json.ReadError} (he : valueOf text = .error e) :
      ∃ fault place, e = .syntaxFault fault place :=
    Json.exists_fault_of_parseFile he (Json.openings_unifyLines text ▸ hopen) fun hmany =>
      hdigits hmany.of_unifyLines
  rintro (hnone | ⟨htext', he⟩ | ⟨htext', he⟩)
  · exact hnone text htext
  · obtain rfl := htext.unique htext'
    obtain ⟨_, _, heq⟩ := hfault he
    contradiction
  · obtain rfl := htext.unique htext'
    obtain ⟨_, _, heq⟩ := hfault he
    contradiction

/-! ## One file -/

/-- The value in a file that is there. -/
theorem readJson_of_isTextOf {text : Text} (hbytes : t.read here path = .ok bytes)
    (htext : IsTextOf text bytes) :
    readJson here t path =
      match valueOf text with
      | .ok v => .ok v
      | .error (.syntaxFault fault place) => .error (.notJson path fault place)
      | .error (.tooManyDigits digits) => .error (.tooManyDigits digits)
      | .error (.tooDeep container) => .error (.tooDeep container) := by
  rw [readJson, hbytes]
  simp only [isTextOf_iff.1 htext]
  rfl

theorem readJson_eq_ok_iff {v : Json} :
    readJson here t path = .ok v ↔
      ∃ bytes text, t.read here path = .ok bytes ∧ IsTextOf text bytes ∧ valueOf text = .ok v := by
  constructor
  · intro h
    rw [readJson] at h
    split at h
    · contradiction
    next bytes hbytes =>
    split at h
    · contradiction
    next text hdecode =>
    refine ⟨bytes, text, hbytes, isTextOf_iff.2 hdecode, ?_⟩
    rw [valueOf]
    split at h
    · next hvalue => rw [hvalue, Except.ok.inj h]
    all_goals contradiction
  · rintro ⟨bytes, text, hbytes, htext, hvalue⟩
    rw [readJson_of_isTextOf hbytes htext, hvalue]

theorem escapes_readJson_iff :
    Escapes (readJson here t path) ↔ ∃ bytes, t.read here path = .ok bytes ∧ IsUnread bytes := by
  cases hbytes : t.read here path with
  | error e =>
    rw [readJson, hbytes]
    simp [escapes_error_iff, Failure.isDataFailure]
  | ok bytes =>
  simp only [Except.ok.injEq, exists_eq_left']
  cases hdecode : Utf8.decode bytes with
  | error e =>
    have hnone : ∀ text, ¬IsTextOf text bytes := forall_not_isTextOf_iff.2 ⟨e, hdecode⟩
    rw [readJson, hbytes]
    simp only [hdecode]
    exact iff_of_true (escapes_error_iff.2 rfl) (.noText hnone)
  | ok text =>
    have htext : IsTextOf text bytes := isTextOf_iff.2 hdecode
    rw [readJson_of_isTextOf hbytes htext]
    -- The bytes are those of one text only, so it is the text that is looked at.
    have hunread : IsUnread bytes ↔ (∃ digits, valueOf text = .error (.tooManyDigits digits)) ∨
        ∃ container, valueOf text = .error (.tooDeep container) := by
      constructor
      · rintro (hnone | ⟨htext', he⟩ | ⟨htext', he⟩)
        · exact absurd htext (hnone text)
        · exact .inl ⟨_, htext.unique htext' ▸ he⟩
        · exact .inr ⟨_, htext.unique htext' ▸ he⟩
      · rintro (⟨_, he⟩ | ⟨_, he⟩)
        · exact .tooManyDigits htext he
        · exact .tooDeep htext he
    rw [hunread]
    cases valueOf text with
    | ok v => simpa using not_escapes_ok v
    | error e => cases e <;> simp [escapes_error_iff, Failure.isDataFailure]

theorem integerOfText_ne_infinity (text : Text) :
    Json.integerOfText text ≠ .error .infinity := by
  rw [Json.integerOfText]
  split
  dsimp only
  split_ifs <;> simp

/-- Only infinite numbers are beyond all integers. -/
theorem toInteger_eq_infinity_iff {v : Json} :
    v.toInteger = .error .infinity ↔ ∃ negative, v = .double (.infinity negative) := by
  cases v with
  | text text => simpa [Json.toInteger] using integerOfText_ne_infinity text
  | double d => cases d <;> simp [Json.toInteger]
  | _ => simp [Json.toInteger]

theorem listMember_ne_timestamp {members : List (Text × Json)} {key : Text}
    {fault : Json.IntegerFault} : Partial.listMember members key ≠ .error (.timestamp fault) := by
  rw [Partial.listMember]
  split <;> simp

theorem objectMember_ne_timestamp {members : List (Text × Json)} {key : Text}
    {fault : Json.IntegerFault} : Partial.objectMember members key ≠ .error (.timestamp fault) := by
  rw [Partial.objectMember]
  split <;> simp

/-- A partial has an infinite timestamp where its value says so. -/
theorem ofJson_eq_infinity_iff {v : Json} :
    Partial.ofJson v = .error (.timestamp .infinity) ↔ ∃ members negative, v = .object members ∧
      Json.find? "timestamp" members = some (.double (.infinity negative)) := by
  cases v with
  | object members =>
    have hinfinite : (∃ members' negative, Json.object members = .object members' ∧
        Json.find? "timestamp" members' = some (.double (.infinity negative))) ↔
        ((Json.find? "timestamp" members).getD (.int 0)).toInteger = .error .infinity := by
      simp only [toInteger_eq_infinity_iff, Json.object.injEq, exists_and_left, exists_eq_left']
      cases Json.find? "timestamp" members <;> simp
    rw [hinfinite, Partial.ofJson]
    cases ((Json.find? "timestamp" members).getD (.int 0)).toInteger with
    | error fault => simp
    | ok timestamp =>
      -- What is wrong with the other members is not the timestamp.
      refine iff_of_false (fun h => ?_) (by simp)
      rcases bind_eq_error_iff.1 h with h | ⟨_, _, h⟩
      · exact listMember_ne_timestamp h
      rcases bind_eq_error_iff.1 h with h | ⟨_, _, h⟩
      · exact listMember_ne_timestamp h
      rcases bind_eq_error_iff.1 h with h | ⟨_, _, h⟩
      · exact objectMember_ne_timestamp h
      contradiction
  | _ => simp [Partial.ofJson]

/-- A partial is the value in its file, if that has the form of one. -/
theorem readPartial_eq : readPartial here t path =
    readJson here t path >>= fun v => (Partial.ofJson v).mapError (.partialFault path) := by
  rw [readPartial]
  cases readJson here t path with
  | error e => rfl
  | ok v => cases hv : Partial.ofJson v <;> simp [bind, Except.bind, Except.mapError, hv]

/-- The start of a build is in the value of its file, if that has the form of details. -/
theorem readDetails_eq : readDetails here t folder =
    readJson here t (detailsPath folder) >>= fun v =>
      (startedOf v).mapError (.details folder) := by
  rw [readDetails]
  cases readJson here t (detailsPath folder) with
  | error e => rfl
  | ok v => cases hv : startedOf v <;> simp [bind, Except.bind, Except.mapError, hv]

theorem escapes_readPartial_iff :
    Escapes (readPartial here t path) ↔
      ∃ bytes, t.read here path = .ok bytes ∧ (IsUnread bytes ∨ IsEndless bytes) := by
  rw [readPartial_eq, escapes_bind_iff, escapes_readJson_iff]
  have hendless : (∃ v, readJson here t path = .ok v ∧
      Partial.ofJson v = .error (.timestamp .infinity)) ↔
      ∃ bytes, t.read here path = .ok bytes ∧ IsEndless bytes := by
    simp only [readJson_eq_ok_iff, ofJson_eq_infinity_iff, IsEndless]
    grind
  have hescapes (v : Json) : Escapes ((Partial.ofJson v).mapError (.partialFault path)) ↔
      Partial.ofJson v = .error (.timestamp .infinity) := by
    rw [escapes_mapError_iff]
    constructor
    · rintro ⟨fault, hfault, h⟩
      obtain rfl : fault = .timestamp .infinity := by simpa [Failure.isDataFailure] using h
      exact hfault
    · exact fun h => ⟨_, h, rfl⟩
  simp only [hescapes, hendless, and_or_left, exists_or]

theorem escapes_readDetails_iff :
    Escapes (readDetails here t folder) ↔
      ∃ bytes, t.read here (detailsPath folder) = .ok bytes ∧ IsUnread bytes := by
  rw [readDetails_eq, escapes_bind_iff, escapes_readJson_iff]
  refine or_iff_left ?_
  rintro ⟨v, _, h⟩
  obtain ⟨fault, _, hfault⟩ := escapes_mapError_iff.1 h
  contradiction

/-! ## Whole records -/

/-- The files of a build are listed, unless the system refuses the way to them. -/
theorem escapes_partialPaths_iff : Escapes (partialPaths here t folder) ↔
    t.locate here (partialsPath folder) = .error .nameTooLong := by
  rw [partialPaths, Tree.isFolder?, Tree.test, Tree.stat]
  cases hlocate : t.locate here (partialsPath folder) with
  | error e => cases e <;> simp [Escapes, Failure.isDataFailure]
  | ok l =>
    cases hl : t.lookup l with
    | none => simp [hl, Escapes]
    | some entry => cases entry <;> simp [hl, Escapes]

/-- The reading of a build ends in something else than damage: at the way to its files, at
    the first partial that is not read, or else at the details. -/
inductive IsUnreported (here : Location) (t : Tree) (folder : Path) : Prop
  | way (h : t.locate here (partialsPath folder) = .error .nameTooLong)
  | inPartial {before after : List Path} {path : Path} {bytes : Bytes}
      (hpaths : partialPaths here t folder = .ok (before ++ path :: after))
      (hbefore : ∀ p ∈ before, ∃ x, readPartial here t p = .ok x)
      (hbytes : t.read here path = .ok bytes) (h : IsUnread bytes ∨ IsEndless bytes)
  | inDetails {paths : List Path} {bytes : Bytes} (hpaths : partialPaths here t folder = .ok paths)
      (hne : paths ≠ []) (hread : ∀ p ∈ paths, ∃ x, readPartial here t p = .ok x)
      (hbytes : t.read here (detailsPath folder) = .ok bytes) (h : IsUnread bytes)

theorem escapes_readFolder_iff : Escapes (readFolder here t b folder) ↔
    IsUnreported here t folder := by
  rw [readFolder, escapes_bind_iff, escapes_partialPaths_iff]
  constructor
  · rintro (hway | ⟨paths, hpaths, h⟩)
    · exact .way hway
    split at h
    · exact absurd (escapes_error_iff.1 h) (by simp [Failure.isDataFailure])
    next hne =>
    -- The partials are read first, so the details count only when all of them are read.
    rcases escapes_bind_iff.1 h with h | ⟨partials, hpartials, h⟩
    · obtain ⟨before, path, after, rfl, hbefore, h⟩ := escapes_mapM_iff.1 h
      obtain ⟨bytes, hbytes, h⟩ := escapes_readPartial_iff.1 h
      exact .inPartial hpaths hbefore hbytes h
    rcases escapes_bind_iff.1 h with h | ⟨started, _, h⟩
    · obtain ⟨bytes, hbytes, h⟩ := escapes_readDetails_iff.1 h
      exact .inDetails hpaths hne (exists_mapM_eq_ok_iff.1 ⟨partials, hpartials⟩) hbytes h
    · exact absurd h (not_escapes_ok _)
  · rintro (hway | ⟨hpaths, hbefore, hbytes, h⟩ | ⟨hpaths, hne, hread, hbytes, h⟩)
    · exact .inl hway
    · refine .inr ⟨_, hpaths, ?_⟩
      rw [if_neg (by simp), escapes_bind_iff]
      exact .inl (escapes_mapM_iff.2
        ⟨_, _, _, rfl, hbefore, escapes_readPartial_iff.2 ⟨_, hbytes, h⟩⟩)
    · refine .inr ⟨_, hpaths, ?_⟩
      obtain ⟨partials, hpartials⟩ := exists_mapM_eq_ok_iff.2 hread
      rw [if_neg hne, escapes_bind_iff]
      refine .inr ⟨partials, hpartials, escapes_bind_iff.2 (.inl ?_)⟩
      exact escapes_readDetails_iff.2 ⟨_, hbytes, h⟩

/-- A name that cannot be turned into bytes is no damage either: then there are no files. -/
theorem escapes_read_iff :
    Escapes (read here t root b) ↔ ¬b.IsWhole ∨ IsUnreported here t (folderOf root b) := by
  by_cases hwhole : b.IsWhole
  · rw [read_of_isWhole hwhole, escapes_readFolder_iff, or_iff_right (not_not_intro hwhole)]
  · obtain ⟨e, _, he⟩ := exists_read_eq_error root hwhole
    rw [he, escapes_error_iff]
    simp [hwhole, Failure.isDataFailure]

/-- The files of a build are plain: the system does not refuse the way to them, and none of
    them is beyond the reader. -/
structure HasPlainFiles (here : Location) (t : Tree) (folder : Path) : Prop where
  way : t.locate here (partialsPath folder) ≠ .error .nameTooLong
  plain : ∀ paths, partialPaths here t folder = .ok paths → ∀ path ∈ detailsPath folder :: paths,
    ∀ bytes, t.read here path = .ok bytes → IsPlain bytes
  finite : ∀ paths, partialPaths here t folder = .ok paths → ∀ path ∈ paths,
    ∀ bytes, t.read here path = .ok bytes → ¬IsEndless bytes

/-- Whatever is wrong with plain files is told as damage. -/
theorem HasPlainFiles.not_escapes (h : HasPlainFiles here t (folderOf root b))
    (hwhole : b.IsWhole) : ¬Escapes (read here t root b) := by
  rw [escapes_read_iff, or_iff_right (not_not_intro hwhole)]
  rintro (hway | ⟨hpaths, _, hbytes, hpartial⟩ | ⟨hpaths, _, _, hbytes, hdetails⟩)
  · exact h.way hway
  · rcases hpartial with hunread | hendless
    · exact (h.plain _ hpaths _ (by simp) _ hbytes).not_isUnread hunread
    · exact h.finite _ hpaths _ (by simp) _ hbytes hendless
  · exact (h.plain _ hpaths _ List.mem_cons_self _ hbytes).not_isUnread hdetails

/-! ## What is told -/

/-- The data file that a failure is about. -/
def Failure.file? : Failure → Option Path
  | .unopened path _ | .notJson path _ _ | .partialFault path _ => some path
  | .details folder _ => some (detailsPath folder)
  | .file _ | .notText _ | .tooManyDigits _ | .tooDeep _ | .moment _ | .notFound _ => none

theorem file?_of_readJson (h : readJson here t path = .error e) (hdata : e.isDataFailure = true) :
    e.file? = some path := by
  rw [readJson] at h
  split at h
  · cases h
    rfl
  split at h
  · cases h
    contradiction
  split at h
  · contradiction
  · cases h
    rfl
  all_goals
    cases h
    contradiction

theorem file?_of_readPartial (h : readPartial here t path = .error e)
    (hdata : e.isDataFailure = true) : e.file? = some path := by
  rw [readPartial_eq] at h
  rcases bind_eq_error_iff.1 h with hjson | ⟨v, _, h⟩
  · exact file?_of_readJson hjson hdata
  · obtain ⟨fault, _, rfl⟩ := mapError_eq_error_iff.1 h
    rfl

theorem file?_of_readDetails (h : readDetails here t folder = .error e)
    (hdata : e.isDataFailure = true) : e.file? = some (detailsPath folder) := by
  rw [readDetails_eq] at h
  rcases bind_eq_error_iff.1 h with hjson | ⟨v, _, h⟩
  · exact file?_of_readJson hjson hdata
  · obtain ⟨fault, _, rfl⟩ := mapError_eq_error_iff.1 h
    rfl

theorem isDataFailure_of_partialPaths (h : partialPaths here t folder = .error e) :
    e.isDataFailure = false := by
  rw [partialPaths] at h
  split at h
  · cases h
    rfl
  · contradiction
  split at h
  · cases h
    rfl
  · contradiction

/-- What is told as damage is about one of the files, unless there are no partials. -/
theorem file?_of_read (h : read here t root b = .error e) (hdata : e.isDataFailure = true) :
    ∃ paths, partialPaths here t (folderOf root b) = .ok paths ∧
      (paths = [] ∧ e = .notFound b ∨
        paths ≠ [] ∧ ∃ path ∈ detailsPath (folderOf root b) :: paths, e.file? = some path) := by
  by_cases hwhole : b.IsWhole
  case neg =>
    obtain ⟨_, _, he⟩ := exists_read_eq_error root hwhole
    cases h.symm.trans (he here t)
    contradiction
  rw [read_of_isWhole hwhole, readFolder] at h
  rcases bind_eq_error_iff.1 h with hway | ⟨paths, hpaths, h⟩
  · rw [isDataFailure_of_partialPaths hway] at hdata
    contradiction
  refine ⟨paths, hpaths, ?_⟩
  split at h
  · next hnil => exact .inl ⟨hnil, (Except.error.inj h).symm⟩
  next hne =>
  refine .inr ⟨hne, ?_⟩
  rcases bind_eq_error_iff.1 h with h | ⟨_, _, h⟩
  · obtain ⟨before, path, after, rfl, _, hpath⟩ := mapM_eq_error_iff.1 h
    exact ⟨path, by simp, file?_of_readPartial hpath hdata⟩
  rcases bind_eq_error_iff.1 h with h | ⟨_, _, h⟩
  · exact ⟨_, List.mem_cons_self, file?_of_readDetails h hdata⟩
  · contradiction

end Depot.Build
