import Depot.Config.File
import Depot.Proofs.Results
import Depot.Proofs.Text.Utf8

/-!
# Configuration files that are refused

A configuration file may hold anything. Where it is refused, the trouble is to be told as an
error of the configuration (`Failure.isConfigError`): the file is no TOML, or a setting has a
value of the wrong kind. `Reported` tells by the bytes of a file which of these failures come
of it, and `Unreported` which others do (`load_eq_error_iff`).

The settings are looked for one after the other (`wanted`), and the first one that cannot
be taken decides (`ofTables_eq_error_iff`). In a section that is a table it is told. A section
of another kind is no error of the configuration but of the program, unless it is a text or a
list in which the name of no setting is found: such a section is passed over (`Refuses`).
-/

namespace Depot.Config

open Files (Path Location Tree)
open Toml (Value Members)
open Utf8 (IsTextOf isTextOf_iff)

variable {here : Location} {home : Text} {t : Tree} {path : Path} {p source : Option Path}
  {url : Option Text} {bytes : Bytes} {data : Members} {e : Failure} {c d : Config}

/-- Whether a failure is told as an error of the configuration. -/
def Failure.isConfigError : Failure → Bool
  | .notToml .. | .invalid .. => true
  | .homeless | .file _ | .notText _ | .tooManyDigits _ | .tooDeep | .unsearchable _
  | .textSection | .listSection => false

/-! ## Settings -/

/-- A setting that is looked for. -/
structure Wanted where
  /-- The name of its section. -/
  group : Text
  name : Text
  /-- Whether a value is of the kind that it takes. -/
  takes : Value → Bool
  /-- What is told of another value. -/
  expected : Text

/-- Whether the value is a text, or none. -/
def takesOptional : Value → Bool
  | .absent | .text _ => true
  | _ => false

/-- Whether the value is a text. -/
def takesText : Value → Bool
  | .text _ => true
  | _ => false

/-- Whether the value is a list of texts. -/
def takesTexts : Value → Bool
  | .list vs => vs.all takesText
  | _ => false

/-- Whether the value is a truth value. -/
def takesBoolean : Value → Bool
  | .boolean _ => true
  | _ => false

/-- The settings, in the order in which they are looked for. -/
def wanted : List Wanted := [
  ⟨"server", "url", takesOptional, "must be a string or null"⟩,
  ⟨"server", "user", takesOptional, "must be a string or null"⟩,
  ⟨"server", "password", takesOptional, "must be a string or null"⟩,
  ⟨"server", "api_key", takesOptional, "must be a string or null"⟩,
  ⟨"query", "return_fields", takesTexts, "must be a list of strings"⟩,
  ⟨"build", "root", takesText, "must be a string path"⟩,
  ⟨"build", "env_include", takesText, "must be a string"⟩,
  ⟨"build", "env_exclude", takesText, "must be a string"⟩,
  ⟨"display", "colored_output", takesBoolean, "must be a boolean"⟩]

/-- Whether something may be found in a section. -/
def isSearchable : Value → Bool
  | .table _ | .text _ | .list _ => true
  | _ => false

/-- The section of the setting is a table, and has this value for it. -/
def IsGiven (data : Members) (w : Wanted) (v : Value) : Prop :=
  ∃ ms, part data w.group = .table ms ∧ get? w.name ms = some v

/-- Looking for a name in a section fails like this. -/
inductive Hides (name : Text) : Value → Failure → Prop
  /-- The section is a text in which the name occurs. -/
  | text {u : Text} (h : Text.contains name u) : Hides name (.text u) .textSection
  /-- The section is a list of values, and the name is one of them. -/
  | list {vs : List Value} (h : .text name ∈ vs) : Hides name (.list vs) .listSection
  /-- The section is a value in which nothing can be looked for. -/
  | other {v : Value} (h : isSearchable v = false) : Hides name v (.unsearchable (kindName v))

/-- The document cannot give the setting, and fails like this. -/
inductive Refuses (data : Members) (w : Wanted) : Failure → Prop
  /-- The setting cannot be looked for. -/
  | hidden {e : Failure} (h : Hides w.name (part data w.group) e) : Refuses data w e
  /-- The setting has a value of the wrong kind. -/
  | value {v : Value} (hv : IsGiven data w v) (h : w.takes v = false) :
      Refuses data w (.invalid (fullName w.group w.name) w.expected)

theorem any_isText_iff {name : Text} {vs : List Value} :
    vs.any (isText name) = true ↔ .text name ∈ vs := by
  rw [List.any_eq_true]
  constructor
  · rintro ⟨v, hv, h⟩
    cases v with
    | text u =>
      obtain rfl : name = u := of_decide_eq_true h
      exact hv
    | _ => contradiction
  · exact fun h => ⟨_, h, decide_eq_true rfl⟩

theorem setting?_eq_error_iff {name : Text} {v : Value} :
    setting? v name = .error e ↔ Hides name v e := by
  constructor
  · intro h
    cases v with
    | table ms => contradiction
    | text u =>
      rw [setting?] at h
      -- A text hides a setting as a part of it, and a list as one of its items.
      split at h
      · next hcontains =>
        obtain rfl := Except.error.inj h
        exact .text hcontains
      · contradiction
    | list vs =>
      rw [setting?] at h
      split at h
      · next hany =>
        obtain rfl := Except.error.inj h
        exact .list (any_isText_iff.1 hany)
      · contradiction
    | _ =>
      obtain rfl := Except.error.inj h
      exact .other rfl
  · rintro (hcontains | hmem | hother)
    · exact if_pos hcontains
    · exact if_pos (any_isText_iff.2 hmem)
    · cases v with
      | table | text | list => contradiction
      | _ => rfl

/-- Only in a table a setting can have a value. -/
theorem setting?_eq_some_iff {name : Text} {v w : Value} :
    setting? v name = .ok (some w) ↔ ∃ ms, v = .table ms ∧ get? name ms = some w := by
  cases v with
  | table ms => simp [setting?]
  | text u =>
    rw [setting?]
    split <;> simp
  | list vs =>
    rw [setting?]
    split <;> simp
  | _ => simp [setting?]

/-- Looks for a setting, and sees whether its value can be taken. -/
def Wanted.check (data : Members) (w : Wanted) : Except Failure Unit :=
  match setting? (part data w.group) w.name with
  | .error e => .error e
  | .ok none => .ok ()
  | .ok (some v) =>
    if w.takes v then .ok () else .error (.invalid (fullName w.group w.name) w.expected)

theorem check_eq_error_iff {w : Wanted} : w.check data = .error e ↔ Refuses data w e := by
  rw [Wanted.check]
  constructor
  · intro h
    split at h
    · next hhidden =>
      obtain rfl := Except.error.inj h
      exact .hidden (setting?_eq_error_iff.1 hhidden)
    · contradiction
    · next v hv =>
      split at h
      · contradiction
      · next htakes =>
        obtain rfl := Except.error.inj h
        exact .value (setting?_eq_some_iff.1 hv) (Bool.not_eq_true _ ▸ htakes)
  · rintro (hhidden | ⟨hv, htakes⟩)
    · rw [setting?_eq_error_iff.2 hhidden]
    · rw [setting?_eq_some_iff.2 hv]
      exact if_neg (by simp [htakes])

/-! ## Documents -/

section

variable {group name expected : Text}

/-- Each reader of a setting fails where the value cannot be taken. -/
theorem map_optionalText : (optionalText data group name).map (fun _ => ()) =
    Wanted.check data ⟨group, name, takesOptional, "must be a string or null"⟩ := by
  rw [optionalText, Wanted.check]
  rcases setting? (part data group) name with e | _ | v
  · rfl
  · rfl
  · cases v <;> rfl

theorem map_text? : (text? data group name expected).map (fun _ => ()) =
    Wanted.check data ⟨group, name, takesText, expected⟩ := by
  rw [text?, Wanted.check]
  rcases setting? (part data group) name with e | _ | v
  · rfl
  · rfl
  · cases v <;> rfl

theorem textsOf?_isSome (vs : List Value) : (textsOf? vs).isSome = vs.all takesText := by
  induction vs with
  | nil => rfl
  | cons v vs ih => cases v <;> simp [textsOf?, takesText, ih]

theorem map_texts? : (texts? data group name).map (fun _ => ()) =
    Wanted.check data ⟨group, name, takesTexts, "must be a list of strings"⟩ := by
  rw [texts?, Wanted.check]
  rcases setting? (part data group) name with e | _ | v
  · rfl
  · rfl
  · cases v with
    | list vs =>
      have htakes := textsOf?_isSome vs
      cases hts : textsOf? vs <;> simp [takesTexts, ← htakes, hts, Except.map]
    | _ => rfl

theorem map_boolean? : (boolean? data group name).map (fun _ => ()) =
    Wanted.check data ⟨group, name, takesBoolean, "must be a boolean"⟩ := by
  rw [boolean?, Wanted.check]
  rcases setting? (part data group) name with e | _ | v
  · rfl
  · rfl
  · cases v <;> rfl

end

/-- One setting more does not change whether the others can be taken. -/
theorem bind_eq_error_iff_of_map {α β : Type} {x : Except Failure α} {y : Except Failure Unit}
    (h : x.map (fun _ => ()) = y) {f : α → Except Failure β} {g : Except Failure (List Unit)}
    (hf : ∀ a, f a = .error e ↔ g = .error e) :
    (x >>= f) = .error e ↔ (y >>= fun u => g >>= fun us => pure (u :: us)) = .error e := by
  subst h
  cases x with
  | error e' => simp [Except.map, bind, Except.bind]
  | ok a =>
    refine (hf a).trans ?_
    cases g <;> simp [Except.map, bind, Except.bind, pure, Except.pure]

theorem ofTables_eq_error_iff_mapM (hstandard : standard home = .ok d) :
    ofTables home source data = .error e ↔ wanted.mapM (Wanted.check data) = .error e := by
  rw [ofTables, hstandard]
  simp only [wanted, List.mapM_cons]
  refine bind_eq_error_iff_of_map map_optionalText fun _ => ?_
  refine bind_eq_error_iff_of_map map_optionalText fun _ => ?_
  refine bind_eq_error_iff_of_map map_optionalText fun _ => ?_
  refine bind_eq_error_iff_of_map map_optionalText fun _ => ?_
  refine bind_eq_error_iff_of_map map_texts? fun _ => ?_
  refine bind_eq_error_iff_of_map map_text? fun _ => ?_
  refine bind_eq_error_iff_of_map map_text? fun _ => ?_
  refine bind_eq_error_iff_of_map map_text? fun _ => ?_
  refine bind_eq_error_iff_of_map map_boolean? fun _ => ?_
  exact iff_of_false nofun nofun

/-- All settings that are looked for before this one can be taken. -/
def IsReached (data : Members) (w : Wanted) : Prop :=
  ∃ before after, wanted = before ++ w :: after ∧ ∀ v ∈ before, ∀ e, ¬Refuses data v e

theorem exists_check_eq_ok_iff {w : Wanted} :
    (∃ u, w.check data = .ok u) ↔ ∀ e, ¬Refuses data w e := by
  simp only [← check_eq_error_iff]
  cases w.check data <;> simp

/-- The first setting that cannot be taken decides. -/
theorem ofTables_eq_error_iff (hstandard : standard home = .ok d) :
    ofTables home source data = .error e ↔ ∃ w, IsReached data w ∧ Refuses data w e := by
  rw [ofTables_eq_error_iff_mapM hstandard, mapM_eq_error_iff]
  simp only [exists_check_eq_ok_iff, check_eq_error_iff, IsReached]
  grind

/-- A document states a configuration if all settings can be taken. -/
theorem exists_ofTables_iff (hstandard : standard home = .ok d) :
    (∃ c, ofTables home source data = .ok c) ↔ ∀ w ∈ wanted, ∀ e, ¬Refuses data w e := by
  have herror (e : Failure) :
      ofTables home source data = .error e ↔ wanted.mapM (Wanted.check data) = .error e :=
    ofTables_eq_error_iff_mapM hstandard
  simp only [← exists_check_eq_ok_iff, ← exists_mapM_eq_ok_iff]
  cases htables : ofTables home source data with
  | ok c =>
    cases hall : wanted.mapM (Wanted.check data) with
    | ok us => simp
    | error e => simpa [htables] using (herror e).2 hall
  | error e => simp [(herror e).1 htables]

theorem ofTables_eq_error_of_standard (hstandard : standard home = .error e) :
    ofTables home source data = .error e := by
  rw [ofTables, hstandard]
  rfl

/-- The folder of the builds that a document names, or else the standard one. -/
def rootOf (d : Config) (data : Members) : Path :=
  match setting? (part data "build") "root" with
  | .ok (some (.text u)) => Path.parse u
  | _ => d.buildRoot

theorem buildRoot_of_ofTables (hstandard : standard home = .ok d)
    (h : ofTables home source data = .ok c) : c.buildRoot = rootOf d data := by
  rw [ofTables, hstandard] at h
  obtain ⟨_, hd, h⟩ := bind_eq_ok_iff.1 h
  obtain rfl := Except.ok.inj hd
  obtain ⟨_, _, h⟩ := bind_eq_ok_iff.1 h
  obtain ⟨_, _, h⟩ := bind_eq_ok_iff.1 h
  obtain ⟨_, _, h⟩ := bind_eq_ok_iff.1 h
  obtain ⟨_, _, h⟩ := bind_eq_ok_iff.1 h
  obtain ⟨_, _, h⟩ := bind_eq_ok_iff.1 h
  obtain ⟨root, hroot, h⟩ := bind_eq_ok_iff.1 h
  obtain ⟨_, _, h⟩ := bind_eq_ok_iff.1 h
  obtain ⟨_, _, h⟩ := bind_eq_ok_iff.1 h
  obtain ⟨_, _, h⟩ := bind_eq_ok_iff.1 h
  obtain rfl := Except.ok.inj h
  -- Of all the settings only the folder is looked at further.
  rw [text?] at hroot
  rw [rootOf]
  split at hroot
  · contradiction
  · next hnone => rw [hnone, ← Except.ok.inj hroot]; rfl
  · next hsome => rw [hsome, ← Except.ok.inj hroot]; rfl
  · contradiction

/-! ## Files -/

/-- The file that a configuration is loaded from. -/
def fileOf (here : Location) (home : Text) (p : Option Path) : Except Failure Path :=
  p.elim (defaultPath home) .ok >>= settle here home

/-- The bytes of a file are no configuration, and that is told as an error of the
    configuration. -/
inductive Reported (home : Text) (path : Path) (bytes : Bytes) : Failure → Prop
  /-- The text is no TOML. -/
  | noToml {u : Text} {fault : Toml.Fault} {place : Option Text.Place} (htext : IsTextOf u bytes)
      (h : Toml.parse u = .error (.fault fault place)) :
      Reported home path bytes (.notToml path fault place)
  /-- The first setting that cannot be taken has a value of the wrong kind in its section. -/
  | value {u : Text} {data : Members} {d : Config} {w : Wanted} {v : Value}
      (htext : IsTextOf u bytes) (hdata : Toml.parse u = .ok data)
      (hstandard : standard home = .ok d) (hreached : IsReached data w) (hv : IsGiven data w v)
      (h : w.takes v = false) :
      Reported home path bytes (.invalid (fullName w.group w.name) w.expected)

/-- The bytes of a file are no configuration, and that is not told as an error of the
    configuration. -/
inductive Unreported (home : Text) (bytes : Bytes) : Failure → Prop
  /-- The bytes are no text. -/
  | noText {e : DecodeError} (h : Utf8.decode bytes = .error e) : Unreported home bytes (.notText e)
  /-- The text has an integer with too many digits. -/
  | tooManyDigits {u : Text} {digits : Nat} (htext : IsTextOf u bytes)
      (h : Toml.parse u = .error (.tooManyDigits digits)) :
      Unreported home bytes (.tooManyDigits digits)
  /-- The text has a value that is nested too deep. -/
  | tooDeep {u : Text} (htext : IsTextOf u bytes) (h : Toml.parse u = .error .tooDeep) :
      Unreported home bytes .tooDeep
  /-- The first setting that cannot be taken cannot be looked for in its section. -/
  | hidden {u : Text} {data : Members} {d : Config} {w : Wanted} {e : Failure}
      (htext : IsTextOf u bytes) (hdata : Toml.parse u = .ok data)
      (hstandard : standard home = .ok d) (hreached : IsReached data w)
      (h : Hides w.name (part data w.group) e) : Unreported home bytes e
  /-- The home folder is not known. -/
  | noHome {u : Text} {data : Members} {e : Failure} (htext : IsTextOf u bytes)
      (hdata : Toml.parse u = .ok data) (h : standard home = .error e) : Unreported home bytes e
  /-- The folder of the builds starts at a home folder that nobody knows. -/
  | homeless {u : Text} {data : Members} {d : Config} (htext : IsTextOf u bytes)
      (hdata : Toml.parse u = .ok data) (hstandard : standard home = .ok d)
      (hwanted : ∀ w ∈ wanted, ∀ e, ¬Refuses data w e)
      (h : (rootOf d data).expand? home = none) : Unreported home bytes .homeless

theorem Hides.isConfigError {name : Text} {v : Value} (h : Hides name v e) :
    e.isConfigError = false := by
  cases h <;> rfl

theorem expand_eq_error_iff {q : Path} :
    expand home q = .error e ↔ q.expand? home = none ∧ e = .homeless := by
  rw [expand]
  cases q.expand? home <;> simp [eq_comm]

theorem eq_homeless_of_standard (h : standard home = .error e) : e = .homeless :=
  (expand_eq_error_iff.1 (error_of_map (error_of_map h))).2

theorem Reported.isConfigError (h : Reported home path bytes e) : e.isConfigError = true := by
  cases h <;> rfl

theorem Unreported.isConfigError (h : Unreported home bytes e) : e.isConfigError = false := by
  cases h with
  | noText | tooManyDigits | tooDeep | homeless => rfl
  | hidden _ _ _ _ h => exact h.isConfigError
  | noHome _ _ h =>
    rw [eq_homeless_of_standard h]
    rfl

/-- A file that is there is read as its bytes say, and then validated. -/
theorem load_eq_of_read (hfile : fileOf here home p = .ok path)
    (hread : t.read here path = .ok bytes) (url : Option Text) :
    load here home t p url = ofBytes home path bytes >>= fun c =>
      validate home { c with serverUrl := url.orElse fun _ => c.serverUrl } := by
  have hload : load here home t p url = fileOf here home p >>= fun q =>
      readFile home t here q >>= fun r =>
        validate home { r.1 with serverUrl := url.orElse fun _ => r.1.serverUrl } >>= fun v =>
          pure (v.1, r.2 ++ v.2) := by
    cases p with
    | some p => rfl
    | none =>
      rw [fileOf, Option.elim_none, load]
      cases defaultPath home <;> rfl
  -- A file that is not there is taken as empty, so it has to be seen that it is there.
  have hexists : t.exists? here path = .ok true := by
    rw [Tree.read] at hread
    rw [Tree.exists?, Tree.test]
    cases hstat : t.stat here path with
    | error e =>
      rw [hstat] at hread
      contradiction
    | ok entry => rfl
  have hreadFile : readFile home t here path =
      (ofBytes home path bytes).map fun c => (c, []) := by
    rw [readFile, hexists]
    simp only [hread]
  rw [hload, hfile]
  change (readFile home t here path >>= _) = _
  rw [hreadFile]
  cases ofBytes home path bytes with
  | error e => rfl
  | ok c =>
    change (validate home _ >>= fun v => pure (v.1, [] ++ v.2)) = validate home _
    cases validate home { c with serverUrl := url.orElse fun _ => c.serverUrl } <;> rfl

theorem ofBytes_of_isTextOf {u : Text} (htext : IsTextOf u bytes) :
    ofBytes home path bytes =
      match Toml.parse u with
      | .error (.fault fault place) => .error (.notToml path fault place)
      | .error (.tooManyDigits digits) => .error (.tooManyDigits digits)
      | .error .tooDeep => .error .tooDeep
      | .ok data => ofTables home (some path) data := by
  have hdecode := isTextOf_iff.1 htext
  cases hparse : Toml.parse u with
  | error fault => cases fault <;> simp only [ofBytes, hdecode, hparse]
  | ok data => simp only [ofBytes, hdecode, hparse]

theorem validate_eq_error_iff :
    validate home c = .error e ↔ c.buildRoot.expand? home = none ∧ e = .homeless := by
  rw [validate, ← expand_eq_error_iff]
  exact ⟨error_of_map, fun h => by rw [h]; rfl⟩

/-- The bytes of a file are a configuration, but for its folder of builds. -/
theorem refused_of_ofBytes (h : ofBytes home path bytes = .error e) :
    Reported home path bytes e ∨ Unreported home bytes e := by
  cases hdecode : Utf8.decode bytes with
  | error f =>
    rw [ofBytes, hdecode] at h
    obtain rfl := Except.error.inj h
    exact .inr (.noText hdecode)
  | ok u =>
  have htext := isTextOf_iff.2 hdecode
  rw [ofBytes_of_isTextOf htext] at h
  split at h
  · next hparse =>
    obtain rfl := Except.error.inj h
    exact .inl (.noToml htext hparse)
  · next hparse =>
    obtain rfl := Except.error.inj h
    exact .inr (.tooManyDigits htext hparse)
  · next hparse =>
    obtain rfl := Except.error.inj h
    exact .inr (.tooDeep htext hparse)
  · next data hdata =>
    cases hstandard : standard home with
    | error e' =>
      rw [ofTables_eq_error_of_standard hstandard] at h
      obtain rfl := Except.error.inj h
      exact .inr (.noHome htext hdata hstandard)
    | ok d =>
      obtain ⟨w, hreached, hrefuses⟩ := (ofTables_eq_error_iff hstandard).1 h
      cases hrefuses with
      | hidden hhides => exact .inr (.hidden htext hdata hstandard hreached hhides)
      | value hv htakes => exact .inl (.value htext hdata hstandard hreached hv htakes)

theorem exists_of_ofBytes (h : ofBytes home path bytes = .ok c) :
    ∃ u data d, IsTextOf u bytes ∧ Toml.parse u = .ok data ∧ standard home = .ok d ∧
      ofTables home (some path) data = .ok c := by
  cases hdecode : Utf8.decode bytes with
  | error f =>
    rw [ofBytes, hdecode] at h
    contradiction
  | ok u =>
  have htext := isTextOf_iff.2 hdecode
  rw [ofBytes_of_isTextOf htext] at h
  split at h
  · contradiction
  · contradiction
  · contradiction
  · next data hdata =>
    cases hstandard : standard home with
    | error e =>
      rw [ofTables_eq_error_of_standard hstandard] at h
      contradiction
    | ok d => exact ⟨u, data, d, htext, hdata, rfl, h⟩

/-- A file that is there is refused for what is in it, and for nothing else. -/
theorem load_eq_error_iff (hfile : fileOf here home p = .ok path)
    (hread : t.read here path = .ok bytes) :
    load here home t p url = .error e ↔ Reported home path bytes e ∨ Unreported home bytes e := by
  rw [load_eq_of_read hfile hread, bind_eq_error_iff]
  simp only [validate_eq_error_iff]
  -- Either the bytes are refused, or they are a configuration whose folder cannot be found.
  constructor
  · rintro (h | ⟨c, hc, hroot, rfl⟩)
    · exact refused_of_ofBytes h
    · obtain ⟨u, data, d, htext, hdata, hstandard, htables⟩ := exists_of_ofBytes hc
      rw [buildRoot_of_ofTables hstandard htables] at hroot
      exact .inr (.homeless htext hdata hstandard ((exists_ofTables_iff hstandard).1 ⟨c, htables⟩)
        hroot)
  · rintro (hreported | hunreported)
    · refine .inl ?_
      cases hreported with
      | noToml htext h => rw [ofBytes_of_isTextOf htext, h]
      | value htext hdata hstandard hreached hv h =>
        rw [ofBytes_of_isTextOf htext, hdata]
        exact (ofTables_eq_error_iff hstandard).2 ⟨_, hreached, .value hv h⟩
    · cases hunreported with
      | noText h => exact .inl (by rw [ofBytes, h])
      | tooManyDigits htext h => exact .inl (by rw [ofBytes_of_isTextOf htext, h])
      | tooDeep htext h => exact .inl (by rw [ofBytes_of_isTextOf htext, h])
      | hidden htext hdata hstandard hreached h =>
        refine .inl ?_
        rw [ofBytes_of_isTextOf htext, hdata]
        exact (ofTables_eq_error_iff hstandard).2 ⟨_, hreached, .hidden h⟩
      | noHome htext hdata h =>
        refine .inl ?_
        rw [ofBytes_of_isTextOf htext, hdata]
        exact ofTables_eq_error_of_standard h
      | homeless htext hdata hstandard hwanted h =>
        obtain ⟨c, htables⟩ := (exists_ofTables_iff hstandard).2 hwanted
        refine .inr ⟨c, ?_, ?_, rfl⟩
        · rw [ofBytes_of_isTextOf htext, hdata]
          exact htables
        · rw [buildRoot_of_ofTables hstandard htables]
          exact h

/-- In sections that are tables, only a value of the wrong kind is refused. -/
theorem exists_isGiven_of_refuses {w : Wanted} {ms : Members}
    (hpart : part data w.group = .table ms) (h : Refuses data w e) :
    ∃ v, IsGiven data w v ∧ w.takes v = false ∧
      e = .invalid (fullName w.group w.name) w.expected := by
  cases h with
  | hidden h =>
    rw [hpart] at h
    cases h with
    | other h => contradiction
  | value hv htakes => exact ⟨_, hv, htakes, rfl⟩

theorem IsReached.mem {w : Wanted} (h : IsReached data w) : w ∈ wanted := by
  obtain ⟨before, after, heq, _⟩ := h
  rw [heq]
  simp

/-- A configuration file that is there is loaded and validated, whatever bytes are in it and
    whichever URL is given, or:

    * why it is refused is told by its bytes and the home folder, and by nothing else;
    * it is an error of the configuration where the text of the file is no TOML, or the first
      setting that cannot be taken has a value of the wrong kind in a section that is a table
      (`Reported`), and none in the other cases (`Unreported`);
    * a document whose sections are all tables is a configuration if each setting that is
      given has a value of its kind, and the folder of the builds can be found; otherwise
      a setting with a value of another kind is told. -/
theorem load_of_read (hfile : fileOf here home p = .ok path) (hread : t.read here path = .ok bytes)
    (url : Option Text) :
    let o := load here home t p url
    (∀ e, o = .error e ↔ Reported home path bytes e ∨ Unreported home bytes e) ∧
      (∀ e, o = .error e → (e.isConfigError = true ↔ Reported home path bytes e)) ∧
      ∀ u data d, IsTextOf u bytes → Toml.parse u = .ok data → standard home = .ok d →
        (rootOf d data).expand? home ≠ none →
        (∀ w ∈ wanted, ∃ ms, part data w.group = .table ms) →
        (∀ w ∈ wanted, ∀ v, IsGiven data w v → w.takes v = true) ∧ (∃ c ws, o = .ok (c, ws)) ∨
          ∃ w ∈ wanted, ∃ v, IsGiven data w v ∧ w.takes v = false ∧
            o = .error (.invalid (fullName w.group w.name) w.expected) := by
  intro o
  have hrefused (e : Failure) : o = .error e ↔ _ := load_eq_error_iff hfile hread
  refine ⟨hrefused, fun e he => ⟨fun hconfig => ?_, fun h => h.isConfigError⟩, ?_⟩
  · refine ((hrefused e).1 he).resolve_right fun hunreported => ?_
    rw [hunreported.isConfigError] at hconfig
    contradiction
  intro u data d htext hdata hstandard hroot hsections
  have hbytes : ofBytes home path bytes = ofTables home (some path) data := by
    rw [ofBytes_of_isTextOf htext, hdata]
  cases htables : ofTables home (some path) data with
  | error e =>
    obtain ⟨w, hreached, hrefuses⟩ := (ofTables_eq_error_iff hstandard).1 htables
    obtain ⟨ms, hpart⟩ := hsections w hreached.mem
    obtain ⟨v, hv, htakes, rfl⟩ := exists_isGiven_of_refuses hpart hrefuses
    refine .inr ⟨w, hreached.mem, v, hv, htakes, ?_⟩
    exact (load_eq_of_read hfile hread url).trans
      (bind_eq_error_iff.2 (.inl (hbytes.trans htables)))
  | ok c =>
    have htaken := (exists_ofTables_iff hstandard).1 ⟨c, htables⟩
    refine .inl ⟨fun w hw v hv => ?_, ?_⟩
    · rw [← Bool.not_eq_false]
      exact fun htakes => htaken w hw _ (.value hv htakes)
    · cases ho : o with
      | ok loaded => exact ⟨loaded.1, loaded.2, rfl⟩
      | error e =>
        have hload := (load_eq_of_read hfile hread url).symm.trans ho
        rw [hbytes, htables] at hload
        obtain ⟨hnone, _⟩ := validate_eq_error_iff.1 hload
        rw [← buildRoot_of_ofTables hstandard htables] at hroot
        exact absurd hnone hroot

theorem load_of_read_number :
    let t : Tree := ⟨[(["c.toml"], .file (Utf8.encode "[server]\nurl = 5\n"))]⟩
    let path := Path.parse "/c.toml"
    fileOf [] "/h" (some path) = .ok path ∧
      t.read [] path = .ok (Utf8.encode "[server]\nurl = 5\n") ∧
      load [] "/h" t (some path) none = .error (.invalid "server.url" "must be a string or null") ∧
      Reported "/h" path (Utf8.encode "[server]\nurl = 5\n")
        (.invalid "server.url" "must be a string or null") := by
  intro t path
  have hfile : fileOf [] "/h" (some path) = .ok path := by decide +kernel
  have hread : t.read [] path = .ok (Utf8.encode "[server]\nurl = 5\n") := by decide +kernel
  have hload : load [] "/h" t (some path) none =
      .error (.invalid "server.url" "must be a string or null") := by
    decide +kernel
  obtain ⟨_, hconfig, _⟩ := load_of_read hfile hread none
  exact ⟨hfile, hread, hload, (hconfig _ hload).1 rfl⟩

/-- A file of one byte that is no text, and a section that is a number, are no errors of the
    configuration; a section that is a text is passed over. -/
theorem load_refuses_otherwise :
    let t : Tree := ⟨[(["a.toml"], .file [0xff]), (["b.toml"], .file (Utf8.encode "server = 5\n")),
      (["c.toml"], .file (Utf8.encode "server = \"\"\n"))]⟩
    let loaded (path : Text) := load [] "/h" t (some (Path.parse path)) none
    loaded "/a.toml" = .error (.notText ⟨"utf-8", 0, [0xff], "invalid start byte"⟩) ∧
      (Failure.notText ⟨"utf-8", 0, [0xff], "invalid start byte"⟩).isConfigError = false ∧
      loaded "/b.toml" = .error (.unsearchable "int") ∧
      (Failure.unsearchable "int").isConfigError = false ∧
      loaded "/c.toml" =
        (standard "/h").map fun c => ({ c with source := some (Path.parse "/c.toml") }, []) := by
  intro t loaded
  exact ⟨by decide +kernel, rfl, by decide +kernel, rfl, by decide +kernel⟩

end Depot.Config
