import Depot.Proofs.Json.Doubles
import Depot.Proofs.Json.Printing
import Depot.Proofs.Results

/-!
# One value in several layouts

A layout is plain if it has nothing but blanks around commas and colons
(`Layout.IsPlain`). What is read of the text of a value is the same for every plain layout,
and blanks behind the text make no difference (`parse_render_eq`). It need not be the value that
was written: halves of surrogate pairs that stand side by side are joined, a double is read
from its shortest digits, and a value is refused for an integer with too many digits or for
its depth. But it is never refused for a fault of its text.

`ReadsAs d v r` says this of one value: `r` is what comes of its text, wherever that
stands. It holds of a list or an object when it holds of what is in it (`ReadsAs.list`,
`ReadsAs.object`), and so something comes of every value (`exists_readsAs`).
-/

namespace Depot.Json

/-- A layout with nothing but blanks around commas and colons. -/
structure Layout.IsPlain (l : Layout) : Prop where
  comma : ∃ b : Text, l.comma = .char ',' :: b ∧ ∀ c ∈ b, isSpace c
  colon : ∃ b : Text, l.colon = .char ':' :: b ∧ ∀ c ∈ b, isSpace c

theorem isPlain_compact : Layout.compact.IsPlain := ⟨⟨[], rfl, by simp⟩, ⟨[], rfl, by simp⟩⟩

theorem isPlain_spaced : Layout.spaced.IsPlain :=
  ⟨⟨[.char ' '], rfl, by decide⟩, ⟨[.char ' '], rfl, by decide⟩⟩

theorem isPlain_indented : Layout.indented.IsPlain :=
  ⟨⟨[], rfl, by simp⟩, ⟨[.char ' '], rfl, by decide⟩⟩

variable {l l' : Layout} {d level : Nat} {v : Json} {vs : List Json} {ms : List (Text × Json)}
  {k rest t b b' : Text} {r : Except Refusal Json} {e : Refusal}

/-! ## Layouts -/

theorem isSpace_of_mem_line (l : Layout) (level : Nat) : ∀ c ∈ l.line level, isSpace c := by
  intro c hc
  rw [Layout.line] at hc
  split at hc
  · cases hc
  · rcases List.mem_cons.1 hc with rfl | hc
    · rfl
    · rw [List.eq_of_mem_replicate hc]
      rfl

/-- Blanks and what ends a number behind them end it as well. -/
theorem endsNumber_blank_append (hb : ∀ c ∈ b, isSpace c) (h : t.head?.all endsNumber) :
    (b ++ t).head?.all endsNumber := by
  cases b with
  | nil => exact h
  | cons c b => simp [endsNumber, hb c List.mem_cons_self]

theorem endsNumber_line_append (h : t.head?.all endsNumber) :
    (l.line level ++ t).head?.all endsNumber :=
  endsNumber_blank_append (isSpace_of_mem_line l level) h

theorem quote_append (k t : Text) :
    quote k ++ t = .char '"' :: (k.flatMap escape ++ .char '"' :: t) := by
  rw [quote, List.cons_append, List.append_assoc]
  rfl

section

variable (hl : l.IsPlain)

include hl

theorem endsNumber_renderItems (level : Nat) (vs : List Json) (h : t.head?.all endsNumber) :
    (renderItems l level vs t).head?.all endsNumber := by
  cases vs with
  | nil => exact h
  | cons v vs =>
    obtain ⟨b, hb, _⟩ := hl.comma
    simp [renderItems, Layout.between, hb, endsNumber]

theorem endsNumber_renderMembers (level : Nat) (ms : List (Text × Json))
    (h : t.head?.all endsNumber) :
    (renderMembers l level ms t).head?.all endsNumber := by
  cases ms with
  | nil => exact h
  | cons m ms =>
    obtain ⟨b, hb, _⟩ := hl.comma
    simp [renderMembers, Layout.between, hb, endsNumber]

end

/-! ## Texts of values -/

theorem render_append (l : Layout) (v : Json) (rest : Text) :
    v.render l ++ rest = renderBefore l 0 v rest := by
  rw [render, ← renderBefore_append, List.nil_append]

theorem renderBefore_ne_nil (l : Layout) (level : Nat) (v : Json) :
    renderBefore l level v [] ≠ [] := by
  cases v with
  | null => exact List.cons_ne_nil _ _
  | bool b => cases b <;> exact List.cons_ne_nil _ _
  | int i =>
    rw [renderBefore, List.append_nil]
    obtain ⟨s, c, t, h, _⟩ := Text.exists_ofInt_eq i
    simp [h]
  | double x =>
    obtain ⟨y, hy⟩ := exists_reads_double x
    exact List.ne_nil_of_length_pos (hy 0 [] rfl).shorter
  | text t => exact List.cons_ne_nil _ _
  | list vs => cases vs <;> exact List.cons_ne_nil _ _
  | object ms => cases ms <;> exact List.cons_ne_nil _ _

theorem length_lt_renderBefore (l : Layout) (level : Nat) (v : Json) (rest : Text) :
    rest.length < (renderBefore l level v rest).length := by
  have hpos := List.length_pos_iff.2 (renderBefore_ne_nil l level v)
  have happend := renderBefore_append l level v [] rest
  rw [List.nil_append] at happend
  rw [happend, List.length_append]
  omega

/-! ## What comes of a value -/

/-- `r` is what comes of the text of the value `v` where values may be nested `d` deep, in
    every plain layout and whatever ends the text. -/
structure ReadsAs (d : Nat) (v : Json) (r : Except Refusal Json) : Prop where
  gives : ∀ {l : Layout}, l.IsPlain → ∀ level rest, rest.head?.all endsNumber →
    Gives d (renderBefore l level v rest) rest r
  isLimit : ∀ e, r = .error e → e.IsLimit

/-- A value that is read. -/
theorem readsAs_of_reads {w : Json} (h : ∀ {l : Layout}, l.IsPlain → ∀ level rest,
    rest.head?.all endsNumber → Reads d (renderBefore l level v rest) w rest) :
    ReadsAs d v (.ok w) where
  gives hl level rest hrest := (h hl level rest hrest).read
  isLimit _ he := nomatch he

/-- A value that is refused where it begins. -/
theorem readsAs_of_error (he : e.IsLimit) (h : ∀ (l : Layout) level rest fuel,
    rest.head?.all endsNumber →
      readValue d (fuel + 1) (skip (renderBefore l level v rest)) = .error e) :
    ReadsAs d v (.error e) where
  gives {l} _ level rest hrest fuel hf := by
    have hlt := length_lt_renderBefore l level v rest
    obtain ⟨fuel, rfl⟩ := Nat.exists_eq_add_one_of_ne_zero (by omega : fuel ≠ 0)
    exact h l level rest fuel hrest
  isLimit _ he' := Except.error.inj he' ▸ he

/-! ## Values without parts -/

theorem readsAs_null : ReadsAs d .null (.ok .null) :=
  readsAs_of_reads fun _ _ _ _ => reads_of_readValue (by decide) fun _ => rfl

theorem readsAs_bool (b : Bool) : ReadsAs d (.bool b) (.ok (.bool b)) := by
  refine readsAs_of_reads fun _ _ _ _ => ?_
  cases b with
  | false => exact reads_of_readValue (s := "false") (by decide) fun _ => rfl
  | true => exact reads_of_readValue (s := "true") (by decide) fun _ => rfl

theorem readsAs_int {i : Int} (h : (Text.ofNat i.natAbs).length ≤ Text.maxDigits) :
    ReadsAs d (.int i) (.ok (.int i)) :=
  readsAs_of_reads fun _ _ _ hrest => reads_ofInt h hrest

theorem readsAs_int_of_tooManyDigits {i : Int}
    (h : Text.maxDigits < (Text.ofNat i.natAbs).length) :
    ReadsAs d (.int i) (.error (.tooManyDigits (Text.ofNat i.natAbs).length)) :=
  readsAs_of_error trivial fun _ _ _ _ hrest => readValue_of_tooManyDigits h hrest

theorem exists_readsAs_double (d : Nat) (x : Double) :
    ∃ y, ReadsAs d (.double x) (.ok (.double y)) :=
  have ⟨y, hy⟩ := exists_reads_double x
  ⟨y, readsAs_of_reads fun _ _ rest hrest => hy d rest hrest⟩

theorem readsAs_text (t : Text) : ReadsAs d (.text t) (.ok (.text (reread t))) := by
  refine readsAs_of_reads fun _ _ rest _ => ?_
  rw [renderBefore, quote_append]
  exact .text (readsString_reread t rest)

/-- A list or an object where no values may be nested. -/
theorem exists_readsAs_zero (h : (∃ vs, v = .list vs) ∨ ∃ ms, v = .object ms) :
    ∃ e, ReadsAs 0 v (.error (.tooDeep e)) := by
  rcases h with ⟨_ | ⟨v, vs⟩, rfl⟩ | ⟨_ | ⟨m, ms⟩, rfl⟩ <;>
    exact ⟨_, readsAs_of_error trivial fun _ _ _ _ _ => rfl⟩

/-! ## Lists -/

variable {f : Json → Except Refusal Json} {g : Text × Json → Except Refusal Json}

/-- The items of a list up to its bracket. -/
theorem itemsGive_renderItems (hl : l.IsPlain) (hv : ReadsAs d v (f v))
    (hvs : ∀ v ∈ vs, ReadsAs d v (f v)) (level outer : Nat) (rest : Text) :
    ItemsGive d (renderBefore l level v
      (renderItems l level vs (l.line outer ++ "]" ++ rest))) rest ((v :: vs).mapM f) := by
  have hend : (l.line outer ++ "]" ++ rest).head?.all endsNumber := by
    rw [List.append_assoc]
    exact endsNumber_line_append rfl
  -- An item may be a number, and what is printed behind it has to end it.
  have hread := hv.gives hl level _ (endsNumber_renderItems hl level vs hend)
  induction vs generalizing v with
  | nil =>
    have hclose : skip (l.line outer ++ "]" ++ rest) = .char ']' :: rest := by
      rw [List.append_assoc, skip_append (isSpace_of_mem_line l outer)]
      rfl
    have hlast := ItemsGive.last hread hclose
    rw [List.mapM_cons, List.mapM_nil]
    cases hr : f v <;> exact hr ▸ hlast
  | cons v' vs ih =>
    obtain ⟨b, hb, hblank⟩ := hl.comma
    have hv' := hvs v' List.mem_cons_self
    have hrest := ih hv' (fun v hv => hvs v (List.mem_cons_of_mem _ hv))
      (hv'.gives hl level _ (endsNumber_renderItems hl level vs hend))
    rw [List.mapM_cons]
    refine .cons hread (length_lt_renderBefore l level v _) ?_
      (.blank hblank (.blank (isSpace_of_mem_line l level) hrest))
    rw [renderItems, Layout.between, hb, List.append_assoc]
    rfl

/-- A list is read item by item. -/
theorem ReadsAs.list (h : ∀ v ∈ vs, ReadsAs d v (f v)) :
    ReadsAs (d + 1) (.list vs) ((vs.mapM f).map .list) where
  gives {l} hl level rest _ := by
    cases vs with
    | nil => exact (Reads.emptyList rfl).read
    | cons v vs =>
      have hitems := itemsGive_renderItems hl (h v List.mem_cons_self)
        (fun v hv => h v (List.mem_cons_of_mem _ hv)) (level + 1) level rest
      refine Gives.list (.blank (isSpace_of_mem_line l (level + 1)) hitems) fun e he => ?_
      obtain ⟨_, v, _, hmem, _, he⟩ := mapM_eq_error_iff.1 he
      exact (h v (hmem ▸ List.mem_append_right _ List.mem_cons_self)).isLimit e he
  isLimit e he := by
    obtain ⟨_, v, _, rfl, _, he⟩ := mapM_eq_error_iff.1 (error_of_map he)
    exact (h v (List.mem_append_right _ List.mem_cons_self)).isLimit e he

/-! ## Objects -/

/-- The members of an object up to its brace. -/
theorem membersGive_renderMembers (hl : l.IsPlain) (hv : ReadsAs d v (g (k, v)))
    (hms : ∀ m ∈ ms, ReadsAs d m.2 (g m)) (level outer : Nat) (rest : Text) :
    MembersGive d (quote k ++ l.colon ++ renderBefore l level v
      (renderMembers l level ms (l.line outer ++ "\x7d" ++ rest))) rest
      (((k, v) :: ms).mapM fun m => (g m).map fun w => (reread m.1, w)) := by
  have hend : (l.line outer ++ "\x7d" ++ rest).head?.all endsNumber := by
    rw [List.append_assoc]
    exact endsNumber_line_append rfl
  obtain ⟨b, hb, hblank⟩ := hl.colon
  have hread := hv.gives hl level _ (endsNumber_renderMembers hl level ms hend)
  rw [List.append_assoc, quote_append, hb]
  induction ms generalizing k v with
  | nil =>
    have hclose : skip (l.line outer ++ "\x7d" ++ rest) = .char '}' :: rest := by
      rw [List.append_assoc, skip_append (isSpace_of_mem_line l outer)]
      rfl
    have hresult : [(k, v)].mapM (fun m => (g m).map fun w => (reread m.1, w)) =
        (g (k, v)).map fun w => [(reread k, w)] := by
      rw [List.mapM_cons, List.mapM_nil]
      cases g (k, v) <;> rfl
    rw [hresult]
    exact .last (readsString_reread k _) rfl (.blank hblank hread) hclose
  | cons m ms ih =>
    obtain ⟨b', hb', hblank'⟩ := hl.comma
    have hm := hms m List.mem_cons_self
    have hrest := ih hm (fun m hm => hms m (List.mem_cons_of_mem _ hm))
      (hm.gives hl level _ (endsNumber_renderMembers hl level ms hend))
    have hshorter := length_lt_append (length_lt_renderBefore l level v
      (renderMembers l level (m :: ms) (l.line outer ++ "\x7d" ++ rest))) b
    have hresult : ((k, v) :: m :: ms).mapM (fun m => (g m).map fun w => (reread m.1, w)) =
        do return (reread k, ← g (k, v)) ::
          (← (m :: ms).mapM fun m => (g m).map fun w => (reread m.1, w)) := by
      rw [List.mapM_cons]
      cases g (k, v) <;> rfl
    rw [hresult]
    refine .cons (readsString_reread k _) rfl (.blank hblank hread) hshorter ?_
      (.blank hblank' (.blank (isSpace_of_mem_line l level) hrest))
    rw [renderMembers, Layout.between, hb', hb]
    simp only [List.append_assoc]
    rw [quote_append]
    rfl

/-- An object is read member by member. -/
theorem ReadsAs.object (h : ∀ m ∈ ms, ReadsAs d m.2 (g m)) :
    ReadsAs (d + 1) (.object ms)
      ((ms.mapM fun m => (g m).map fun w => (reread m.1, w)).map .object) where
  gives {l} hl level rest _ := by
    cases ms with
    | nil => exact (Reads.emptyObject rfl).read
    | cons m ms =>
      have hmembers := membersGive_renderMembers hl (h m List.mem_cons_self)
        (fun m hm => h m (List.mem_cons_of_mem _ hm)) (level + 1) level rest
      have hall := Gives.object (.blank (isSpace_of_mem_line l (level + 1)) hmembers) fun e he => by
        obtain ⟨_, m, _, hmem, _, he⟩ := mapM_eq_error_iff.1 he
        exact (h m (hmem ▸ List.mem_append_right _ List.mem_cons_self)).isLimit e (error_of_map he)
      simp only [List.append_assoc] at hall
      simp only [renderBefore, List.append_assoc]
      exact hall
  isLimit e he := by
    obtain ⟨_, m, _, rfl, _, he⟩ := mapM_eq_error_iff.1 (error_of_map he)
    exact (h m (List.mem_append_right _ List.mem_cons_self)).isLimit e (error_of_map he)

/-! ## Every value -/

mutual

/-- Something comes of the text of a value, the same in every layout. -/
theorem exists_readsAs : ∀ (d : Nat) (v : Json), ∃ r, ReadsAs d v r
  | _, .null => ⟨_, readsAs_null⟩
  | _, .bool b => ⟨_, readsAs_bool b⟩
  | _, .int i =>
    if h : (Text.ofNat i.natAbs).length ≤ Text.maxDigits then ⟨_, readsAs_int h⟩
    else ⟨_, readsAs_int_of_tooManyDigits (Nat.lt_of_not_le h)⟩
  | d, .double x => have ⟨_, hy⟩ := exists_readsAs_double d x; ⟨_, hy⟩
  | _, .text t => ⟨_, readsAs_text t⟩
  | 0, .list vs => have ⟨_, he⟩ := exists_readsAs_zero (.inl ⟨vs, rfl⟩); ⟨_, he⟩
  | 0, .object ms => have ⟨_, he⟩ := exists_readsAs_zero (.inr ⟨ms, rfl⟩); ⟨_, he⟩
  | d + 1, .list vs => by
    have : Nonempty (Except Refusal Json) := ⟨.ok .null⟩
    choose! f hf using exists_readsAs_items d vs
    exact ⟨_, .list hf⟩
  | d + 1, .object ms => by
    have : Nonempty (Except Refusal Json) := ⟨.ok .null⟩
    choose! g hg using exists_readsAs_members d ms
    exact ⟨_, .object hg⟩

theorem exists_readsAs_items : ∀ (d : Nat) (vs : List Json), ∀ v ∈ vs, ∃ r, ReadsAs d v r
  | _, [] => List.forall_mem_nil _
  | d, v :: vs => List.forall_mem_cons.2 ⟨exists_readsAs d v, exists_readsAs_items d vs⟩

theorem exists_readsAs_members :
    ∀ (d : Nat) (ms : List (Text × Json)), ∀ m ∈ ms, ∃ r, ReadsAs d m.2 r
  | _, [] => List.forall_mem_nil _
  | d, (_, v) :: ms => List.forall_mem_cons.2 ⟨exists_readsAs d v, exists_readsAs_members d ms⟩

end

/-! ## Whole texts -/

/-- A whole text with a value in it is read, or refused for a reason that is no fault. -/
theorem ReadsAs.readAll_eq (h : ReadsAs maxDepth v r) (hl : l.IsPlain) (hb : ∀ c ∈ b, isSpace c) :
    readAll (v.render l ++ b) = r := by
  have hskip : skip b = [] := by
    have := skip_append hb []
    rwa [List.append_nil] at this
  have hend : b.head?.all endsNumber := by
    have := endsNumber_blank_append hb (t := []) rfl
    rwa [List.append_nil] at this
  have hread := h.gives hl 0 b hend (2 * (renderBefore l 0 v b).length + 2) (by omega)
  rw [render_append, readAll, hread]
  cases r with
  | error e => rfl
  | ok w => simp only [Except.map, hskip, if_true]

/-- A value is read alike from its texts in two layouts, whatever blanks stand behind them. -/
theorem parse_render_eq (hl : l.IsPlain) (hl' : l'.IsPlain) (hb : ∀ c ∈ b, isSpace c)
    (hb' : ∀ c ∈ b', isSpace c) (v : Json) :
    Json.parse (v.render l ++ b) = Json.parse (v.render l' ++ b') := by
  obtain ⟨r, hr⟩ := exists_readsAs maxDepth v
  -- Only a fault is told by its place, which would depend on the layout.
  simp only [parse, Json.read, hr.readAll_eq hl hb, hr.readAll_eq hl' hb']
  cases r with
  | ok w => rfl
  | error e =>
    have hlimit := hr.isLimit e rfl
    cases e with
    | fault => exact hlimit.elim
    | tooManyDigits => rfl
    | tooDeep => rfl

end Depot.Json
