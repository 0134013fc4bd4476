import Depot.Config.File
import Depot.Proofs.Files.Changes
import Depot.Proofs.Files.Paths
import Depot.Proofs.Text.Utf8
import Depot.Proofs.Toml.Documents

/-!
# Configurations written and read

A configuration that was validated `IsSettled`: its URL ends in a slash and its folder of
builds starts at no home folder. Such a configuration, saved to a file and loaded from there,
is the same but for the file it was read from (`load_save`), whatever is known about the
server, whatever its texts are and however many fields it asks for.

* The document that is written is read back (`parse_render`), and the configuration that it
  states is the one written (`ofTables_toSections`): what is not known about the server is not
  in the document, and everything else is.
* Whether a file can be written does not depend on what is written to it (`writeFile_of_ok`),
  and what was written is what is read.
* The second validation finds nothing to change and the same to warn about
  (`validate_of_isSettled`).
-/

namespace Depot.Config

open Files (Path Location Tree)
open Toml (Value Members Section Setting)

variable {c c' : Config} {home name : Text} {ws : List Warning} {t t' : Tree} {here : Location}
  {p path : Path} {content : Text}

/-! ## Validated configurations -/

/-- A configuration in the form that `validate` brings it into. -/
structure IsSettled (c : Config) : Prop where
  url : ∀ u ∈ c.serverUrl, Text.endsWith '/' u
  root : c.buildRoot.IsProper
  noHome : Text.startsWith '~' c.buildRoot.text = false

theorem endsWith_withSlash (u : Text) : Text.endsWith '/' (withSlash u) := by
  rw [withSlash]
  split
  · assumption
  · exact Text.endsWith_iff.2 ⟨u, rfl⟩

/-- What was validated is settled, unless the home folder itself has a `~` in front. -/
theorem isSettled_of_validate (h : c.validate home = .ok (c', ws)) (hroot : c.buildRoot.IsProper)
    (hhome : Text.startsWith '~' c'.buildRoot.text = false) : c'.IsSettled := by
  rw [validate, expand] at h
  cases hexpand : c.buildRoot.expand? home with
  | none =>
    rw [hexpand] at h
    contradiction
  | some q =>
    rw [hexpand] at h
    obtain ⟨rfl, rfl⟩ := Prod.mk.inj (Except.ok.inj h)
    refine ⟨fun u hu => ?_, hroot.expand? hexpand, hhome⟩
    obtain ⟨v, _, rfl⟩ := Option.map_eq_some_iff.1 hu
    exact endsWith_withSlash v

/-- There is nothing to change in a settled configuration. -/
theorem validate_of_isSettled (h : c.IsSettled) (home : Text) :
    c.validate home = .ok (c, c.warnings) := by
  have hurl : c.serverUrl.map withSlash = c.serverUrl := by
    cases hu : c.serverUrl with
    | none => rfl
    | some u => exact congrArg some (if_pos (h.url u hu))
  rw [validate, expand, Path.expand?_of_not_startsWith h.noHome]
  exact congrArg (fun u => Except.ok ({ c with serverUrl := u }, c.warnings)) hurl

/-! ## The document -/

/-- The texts of a configuration. -/
def texts (c : Config) : List Text :=
  c.fields ++ [c.buildRoot.text, c.keep, c.withhold] ++
    [c.serverUrl, c.user, c.password, c.apiKey].filterMap id

theorem contents_known_subset_texts {value : Option Text}
    (h : value ∈ [c.serverUrl, c.user, c.password, c.apiKey]) :
    ∀ q ∈ known name value, ∀ u ∈ q.2.contents, u ∈ c.texts := by
  cases value with
  | none => exact List.forall_mem_nil _
  | some v =>
    have hv : v ∈ c.texts := List.mem_append_right _ (List.mem_filterMap.2 ⟨some v, h, rfl⟩)
    exact List.forall_mem_singleton.2 (List.forall_mem_singleton.2 hv)

theorem contents_subset_texts :
    ∀ s ∈ c.toSections, ∀ q ∈ s.settings, ∀ u ∈ q.2.contents, u ∈ c.texts := by
  have hfields : ∀ u ∈ c.fields, u ∈ c.texts := fun u hu =>
    List.mem_append_left _ (List.mem_append_left _ hu)
  have hbuild : ∀ u ∈ [c.buildRoot.text, c.keep, c.withhold], u ∈ c.texts := fun u hu =>
    List.mem_append_left _ (List.mem_append_right _ hu)
  simp only [List.forall_mem_cons] at hbuild
  have hserver : ∀ q ∈ c.serverSettings, ∀ u ∈ q.2.contents, u ∈ c.texts := by
    rw [serverSettings, List.forall_mem_append, List.forall_mem_append, List.forall_mem_append]
    exact ⟨⟨⟨contents_known_subset_texts (by simp), contents_known_subset_texts (by simp)⟩,
      contents_known_subset_texts (by simp)⟩, contents_known_subset_texts (by simp)⟩
  rw [toSections]
  split
  · simp only [List.append_nil, List.forall_mem_cons, Setting.contents]
    exact ⟨⟨hfields, List.forall_mem_nil _⟩, by simpa using hbuild, by simp⟩
  · simp only [List.cons_append, List.nil_append, List.forall_mem_cons, Setting.contents]
    exact ⟨⟨hfields, List.forall_mem_nil _⟩, by simpa using hbuild, by simp, hserver,
      List.forall_mem_nil _⟩

theorem sublist_serverSettings (c : Config) :
    (c.serverSettings.map (·.1)).Sublist (["url", "user", "password", "api_key"] : List Text) := by
  have hknown (name : Text) (value : Option Text) :
      ((known name value).map (·.1)).Sublist [name] := by
    cases value with
    | none => exact List.nil_sublist _
    | some v => exact .refl _
  simp only [serverSettings, List.map_append]
  exact (((hknown "url" _).append (hknown "user" _)).append (hknown "password" _)).append
    (hknown "api_key" _)

theorem isPlain_of_mem_toSections : ∀ s ∈ c.toSections, s.IsPlain := by
  have hplain (name : Text) {ps : List (Text × Setting)} (names : List Text)
      (hnames : (∀ n ∈ name :: names, Toml.IsBare n) ∧ names.Nodup)
      (h : (ps.map (·.1)).Sublist names) : (Section.mk name ps).IsPlain :=
    ⟨hnames.1 name List.mem_cons_self,
      fun q hq => hnames.1 _ (List.mem_cons_of_mem _ (h.subset (List.mem_map_of_mem hq))),
      hnames.2.sublist h⟩
  rw [toSections, List.forall_mem_append, List.forall_mem_cons, List.forall_mem_cons,
    List.forall_mem_singleton]
  refine ⟨⟨hplain "query" ["return_fields"] (by decide) (.refl _),
    hplain "build" ["root", "env_include", "env_exclude"] (by decide) (.refl _),
    hplain "display" ["colored_output"] (by decide) (.refl _)⟩, ?_⟩
  split
  · exact List.forall_mem_nil _
  · exact List.forall_mem_singleton.2 (hplain "server" ["url", "user", "password", "api_key"]
      (by decide) c.sublist_serverSettings)

theorem nodup_toSections (c : Config) : (c.toSections.map (·.name)).Nodup := by
  have hfour : (["query", "build", "display", "server"] : List Text).Nodup := by decide
  have hthree : (["query", "build", "display"] : List Text).Nodup := by decide
  rw [toSections]
  split
  · exact hthree
  · exact hfour

/-- The document is one of whole characters if the texts are. -/
theorem isHalf_of_isVisible {e : CodePoint} (h : Toml.IsVisible e) : e.isHalf = false := by
  cases e with
  | char _ => rfl
  | half n => exact absurd h.2 (Nat.not_le.2 (Nat.lt_add_right _ (by decide)))

theorem isWhole_render (h : ∀ t ∈ c.texts, t.IsWhole) : c.render.IsWhole :=
  Toml.forall_mem_render (P := fun c => c.isHalf = false) rfl
    (fun _ he => isHalf_of_isVisible he)
    isPlain_of_mem_toSections fun s hs q hq t ht e he _ =>
      h t (contents_subset_texts s hs q hq t ht) e he

/-! ## The configuration that a document states -/

/-- The settings as members of a table. -/
def members (ps : List (Text × Setting)) : Members := ps.map fun p => (p.1, p.2.toValue)

theorem get?_known_append (name : Text) (value : Option Text) (ps : List (Text × Setting))
    (n : Text) : get? n (members (known name value ++ ps)) =
      if name = n then (value.map Value.text).or (get? n (members ps))
      else get? n (members ps) := by
  cases value with
  | none => simp [known]
  | some v =>
    by_cases hn : name = n
    · simp [known, members, get?, hn, Setting.toValue]
    · simp [known, members, get?, hn]

section

variable {data : Members} {group n : Text} {ms : Members}

theorem optionalText_of_get? {value : Option Text} (hpart : part data group = .table ms)
    (h : get? n ms = value.map .text) : optionalText data group n = .ok value := by
  rw [optionalText, hpart, setting?, h]
  cases value with
  | none => rfl
  | some _ => rfl

theorem textsOf?_map_text (ts : List Text) : textsOf? (ts.map .text) = some ts := by
  induction ts with
  | nil => rfl
  | cons t ts ih =>
    rw [List.map_cons, textsOf?, ih]
    rfl

theorem texts?_of_get? {ts : List Text} (hpart : part data group = .table ms)
    (h : get? n ms = some (.list (ts.map .text))) : texts? data group n = .ok (some ts) := by
  rw [texts?, hpart, setting?, h]
  simp only [textsOf?_map_text]

end

theorem part_server (c : Config) :
    part (c.toSections.map Section.toMember) "server" = .table (members c.serverSettings) := by
  rw [toSections]
  split
  · next h =>
    rw [h]
    rfl
  · rfl

/-- What is known about the server is read back, and nothing else. -/
theorem get?_serverSettings (c : Config) :
    get? "url" (members c.serverSettings) = c.serverUrl.map .text ∧
      get? "user" (members c.serverSettings) = c.user.map .text ∧
      get? "password" (members c.serverSettings) = c.password.map .text ∧
      get? "api_key" (members c.serverSettings) = c.apiKey.map .text := by
  have hassoc : c.serverSettings = known "url" c.serverUrl ++ (known "user" c.user ++
      (known "password" c.password ++ (known "api_key" c.apiKey ++ []))) := by
    simp only [serverSettings, List.append_assoc, List.append_nil]
  have hnil (n : Text) : get? n (members []) = none := rfl
  simp +decide only [hassoc, get?_known_append, hnil, if_true, if_false, Option.or_none, and_self]

/-- The document of a configuration states the configuration. -/
theorem ofTables_toSections (hroot : c.buildRoot.IsProper) (home : Text) (source : Option Path) :
    ofTables home source (c.toSections.map Section.toMember) =
      (standard home).map fun _ => { c with source := source } := by
  generalize hdata : c.toSections.map Section.toMember = data
  obtain ⟨hurl, huser, hpassword, hkey⟩ := c.get?_serverSettings
  have hserver : part data "server" = .table (members c.serverSettings) := hdata ▸ c.part_server
  have hfields : texts? data "query" "return_fields" = .ok (some c.fields) :=
    texts?_of_get? (by subst hdata; rfl) rfl
  have hfolder : text? data "build" "root" "must be a string path" =
    .ok (some c.buildRoot.text) := by subst hdata; rfl
  have hkeep : text? data "build" "env_include" "must be a string" = .ok (some c.keep) := by
    subst hdata; rfl
  have hwithhold : text? data "build" "env_exclude" "must be a string" =
    .ok (some c.withhold) := by subst hdata; rfl
  have hcolored : boolean? data "display" "colored_output" = .ok (some c.colored) := by
    subst hdata; rfl
  -- Every setting that is written is found again, so no default is left in its place.
  rw [ofTables, optionalText_of_get? hserver hurl, optionalText_of_get? hserver huser,
    optionalText_of_get? hserver hpassword, optionalText_of_get? hserver hkey, hfields, hfolder,
    hkeep, hwithhold, hcolored]
  have hparse : (Option.map Path.parse (some c.buildRoot.text)) = some c.buildRoot :=
    congrArg some (Path.parse_text hroot)
  cases standard home with
  | error e => rfl
  | ok d =>
    change Except.ok { c with
      source := source
      buildRoot := (Option.map Path.parse (some c.buildRoot.text)).getD d.buildRoot } = _
    rw [hparse]
    rfl

/-! ## Files -/

/-- A file is written and read whatever its text, if any text can be written to it. -/
theorem exists_read_of_writeFile (hup : Path.up ∉ path.absolute here)
    (h : (writeFile here t path content).1 = .ok ()) (content' : Text) :
    ∃ t', writeFile here t path content' = (.ok (), t') ∧ t'.exists? here path = .ok true ∧
      t'.read here path = .ok (Utf8.encode content') := by
  rw [writeFile] at h ⊢
  cases hfolders : t.ensureFolders here path.parent with
  | mk t₁ trouble =>
    cases trouble with
    | some e =>
      rw [hfolders] at h
      contradiction
    | none =>
      simp only [hfolders] at h ⊢
      cases hlocate : t₁.locate here path with
      | error e =>
        rw [Tree.write_of_error hlocate] at h
        contradiction
      | ok l =>
        by_cases hfolder : t₁.lookup l = some .folder
        · simp only [Tree.write, hlocate, if_pos hfolder] at h
          contradiction
        · have hne : l ≠ [] := fun hnil => hfolder (hnil ▸ rfl)
          -- The way to the file does not go through the file.
          have hthere : (t₁.put l (.file (Utf8.encode content'))).stat here path =
              .ok (.file (Utf8.encode content')) :=
            Tree.stat_of_lookup (Tree.leadsTo_of_prefix hup hlocate (List.prefix_refl l) _
              (.put (List.prefix_refl l) _ _)) (Tree.lookup_put_self hne _)
          refine ⟨t₁.put l (.file (Utf8.encode content')), ?_, ?_, ?_⟩
          · rw [Tree.write_of_locate hlocate hfolder]
          · rw [Tree.exists?, Tree.test, hthere]
          · rw [Tree.read, hthere]

theorem up_not_mem_resolve (here : Location) (q : Path) :
    Path.up ∉ (q.resolve here).absolute here := by
  have hfold (ns stack : List Text) (h : Path.up ∉ stack) : Path.up ∉
      ns.foldl (fun stack n => if n = Path.up then stack.drop 1 else n :: stack) stack := by
    induction ns generalizing stack with
    | nil => exact h
    | cons n ns ih =>
      rw [List.foldl_cons]
      refine ih _ ?_
      split
      · exact fun hmem => h (List.mem_of_mem_drop hmem)
      · next hn =>
        rw [List.mem_cons, not_or]
        exact ⟨Ne.symm hn, h⟩
  have hroot : (q.resolve here).absolute here = Path.simplify (q.absolute here) :=
    if_neg (List.cons_ne_nil _ _)
  rw [hroot, Path.simplify, List.mem_reverse]
  exact hfold _ [] List.not_mem_nil

theorem up_not_mem_of_settle {absolute : Path} (h : settle here home p = .ok absolute) :
    Path.up ∉ absolute.absolute here := by
  rw [settle] at h
  split at h
  · contradiction
  split at h
  · contradiction
  obtain rfl := Except.ok.inj h
  exact up_not_mem_resolve here _

/-- A text can be written to a file in a folder that is made for it. -/
def IsWritable (here : Location) (home : Text) (t : Tree) (p : Path) : Prop :=
  ∃ absolute, settle here home p = .ok absolute ∧ (writeFile here t absolute []).1 = .ok ()

theorem save_eq (here : Location) (home : Text) (t : Tree) (c : Config) (p : Path) :
    save here home t c (some p) = match settle here home p with
      | .error e => (.error e, t)
      | .ok q => writeFile here t q c.render := rfl

theorem load_eq (here : Location) (home : Text) (t : Tree) (p : Path) :
    load here home t (some p) none = settle here home p >>= fun q =>
      readFile home t here q >>= fun r =>
        validate home { r.1 with serverUrl := none.orElse fun _ => r.1.serverUrl } >>= fun v =>
          pure (v.1, r.2 ++ v.2) := rfl

/-- Whether a configuration can be saved to a file depends on the file only. -/
theorem save_eq_ok_iff : (save here home t c (some p)).1 = .ok () ↔ IsWritable here home t p := by
  rw [save_eq]
  cases hsettle : settle here home p with
  | error e =>
    refine iff_of_false (by simp) ?_
    rintro ⟨q, hq, _⟩
    rw [hsettle] at hq
    contradiction
  | ok absolute =>
    have hup := up_not_mem_of_settle hsettle
    constructor
    · intro h
      obtain ⟨t', hwrite, _⟩ := exists_read_of_writeFile hup h []
      exact ⟨absolute, hsettle, congrArg Prod.fst hwrite⟩
    · rintro ⟨q, hq, hwrite⟩
      obtain rfl := Except.ok.inj (hsettle.symm.trans hq)
      obtain ⟨t', hsaved, _⟩ := exists_read_of_writeFile hup hwrite c.render
      exact congrArg Prod.fst hsaved

/-- The home folder is known unless its own path starts with a `~`. -/
theorem exists_standard (h : Text.startsWith '~' home = false) : ∃ d, standard home = .ok d := by
  have hprefix : (home.reverse.dropWhile Text.isSlash).reverse <+: home := by
    rw [← List.reverse_suffix, List.reverse_reverse]
    exact List.dropWhile_suffix _
  -- Without the slashes at its end the home folder still does not start with a `~`.
  have hstripped : Text.startsWith '~' (home.reverse.dropWhile Text.isSlash).reverse = false := by
    obtain ⟨u, hu⟩ := hprefix
    cases hs : (home.reverse.dropWhile Text.isSlash).reverse with
    | nil => rfl
    | cons e es =>
      rw [← hu, hs] at h
      exact h
  have hexpand : ∃ q, expand home (Path.parse "~") = .ok q := by
    have htilde : Path.parse "~" = ⟨[], ["~"]⟩ := by decide
    have hsome : Path.expand? home ⟨[], ["~"]⟩ ≠ none := by
      change (if Text.startsWith '~' _ = true then none else some _) ≠ none
      rw [hstripped]
      exact Option.some_ne_none _
    rw [expand, htilde]
    obtain ⟨q, hq⟩ := Option.ne_none_iff_exists'.1 hsome
    exact ⟨q, by rw [hq]⟩
  obtain ⟨q, hq⟩ := hexpand
  rw [standard, belowHome, hq]
  exact ⟨_, rfl⟩

/-- A settled configuration whose texts have no halves of surrogate pairs can be saved to
    every file that can be written. Loaded from there it is the same but for the file it was
    read from, which is the one it was saved to, and the warnings are those of a validation of
    the one that was saved. Nothing is loaded only where the home folder is not known, for
    then no configuration is. -/
theorem load_save (here : Location) (home : Text) (t : Tree) (p : Path) (hsettled : c.IsSettled)
    (hwhole : ∀ u ∈ c.texts, u.IsWhole) (hwritable : IsWritable here home t p) :
    ∃ absolute t', settle here home p = .ok absolute ∧
      save here home t c (some p) = (.ok (), t') ∧
      c.validate home = .ok (c, c.warnings) ∧
      (Text.startsWith '~' home = false →
        load here home t' (some p) none = .ok ({ c with source := some absolute }, c.warnings)) ∧
      load here home t' (some p) none =
        (standard home).map fun _ => ({ c with source := some absolute }, c.warnings) := by
  obtain ⟨absolute, hsettle, hwrite⟩ := hwritable
  obtain ⟨t', hsaved, hthere, hread⟩ :=
    exists_read_of_writeFile (up_not_mem_of_settle hsettle) hwrite c.render
  have hsave : save here home t c (some p) = (.ok (), t') := by rw [save_eq, hsettle, ← hsaved]
  have hdocument : Toml.parse c.render = .ok (c.toSections.map Section.toMember) :=
    Toml.parse_render isPlain_of_mem_toSections c.nodup_toSections
  have hfile : readFile home t' here absolute = (standard home).map fun _ =>
      ({ c with source := some absolute }, []) := by
    rw [readFile, hthere, hread]
    simp only [ofBytes, Utf8.decode_encode (isWhole_render hwhole), hdocument,
      ofTables_toSections hsettled.root]
    cases standard home <;> rfl
  have hvalidate := validate_of_isSettled (c := { c with source := some absolute })
    ⟨hsettled.url, hsettled.root, hsettled.noHome⟩ home
  have hload : load here home t' (some p) none =
      (standard home).map fun _ => ({ c with source := some absolute }, c.warnings) := by
    rw [load_eq, hsettle]
    change (readFile home t' here absolute >>= _) = _
    rw [hfile]
    cases standard home with
    | error e => rfl
    | ok d =>
      change (validate home { c with source := some absolute } >>= _) = _
      rw [hvalidate]
      rfl
  refine ⟨absolute, t', hsettle, hsave, validate_of_isSettled hsettled home, fun hhome => ?_, hload⟩
  obtain ⟨d, hd⟩ := exists_standard hhome
  rw [hload, hd]
  rfl

/-- All that can be known about a server, no fields, and texts that have to be escaped. -/
theorem load_save_escaped :
    let c : Config := {
      serverUrl := some "repo.example.com/"
      user := some []
      password := some "a \"b\" \\ c\r\n\t\x00"
      apiKey := some "ключ"
      fields := []
      buildRoot := ⟨['/', '/'], ["b", "~"]⟩
      keep := "*"
      withhold := []
      colored := false }
    ∃ t', save [] "/h" ⟨[]⟩ c (some ⟨[], ["~", "x", "..", "c.toml"]⟩) = (.ok (), t') ∧
      load [] "/h" t' (some ⟨[], ["~", "x", "..", "c.toml"]⟩) none =
        .ok ({ c with source := some ⟨['/'], ["h", "c.toml"]⟩ },
          [.noScheme "repo.example.com/", .twoSecrets, .noFields]) := by
  intro c
  have hsettled : c.IsSettled := ⟨by decide, ⟨by decide, by decide⟩, by decide⟩
  obtain ⟨absolute, t', hsettle, hsave, _, hload, _⟩ :=
    load_save [] "/h" ⟨[]⟩ ⟨[], ["~", "x", "..", "c.toml"]⟩ hsettled (by decide)
      ⟨_, rfl, by decide +kernel⟩
  obtain rfl : ⟨['/'], ["h", "c.toml"]⟩ = absolute := Except.ok.inj hsettle
  exact ⟨t', hsave, hload (by decide)⟩

end Depot.Config
