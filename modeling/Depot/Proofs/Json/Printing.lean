import Depot.Json.Printer
import Depot.Proofs.Text.Numbers

/-!
# What is in the text of a value

Whatever a value holds, its text is made of printable ASCII characters and line feeds
(`isPrinted_render`): characters beyond ASCII, control characters and halves of
surrogate pairs are escaped.
-/

namespace Depot.Json

variable {l : Layout} {s t rest : Text} {c : CodePoint}

/-- A value is written in front of a text as it is written alone. -/
theorem renderBefore_append (l : Layout) (level : Nat) (v : Json) (rest s : Text) :
    renderBefore l level v (rest ++ s) = renderBefore l level v rest ++ s := by
  refine renderBefore.induct l
    (fun level v rest => renderBefore l level v (rest ++ s) = renderBefore l level v rest ++ s)
    (fun level ms rest => renderMembers l level ms (rest ++ s) = renderMembers l level ms rest ++ s)
    (fun level vs rest => renderItems l level vs (rest ++ s) = renderItems l level vs rest ++ s)
    ?null ?true ?false ?int ?double ?text ?emptyList ?list ?emptyObject ?object
    ?noItems ?items ?noMembers ?members level v rest
  -- Only values with parts need what is known of the parts.
  case list =>
    intro level v vs rest hvs hv
    simp only [renderBefore, List.append_assoc, List.cons_append] at hvs hv ⊢
    rw [hvs, hv]
  case object =>
    intro level k v ms rest hms hv
    simp only [renderBefore, List.append_assoc, List.cons_append] at hms hv ⊢
    rw [hms, hv]
  case items =>
    intro level v vs rest hvs hv
    simp only [renderItems, List.append_assoc] at hvs hv ⊢
    rw [hvs, hv]
  case members =>
    intro level k v ms rest hms hv
    simp only [renderMembers, List.append_assoc] at hms hv ⊢
    rw [hms, hv]
  all_goals
    intros
    simp only [renderBefore, renderItems, renderMembers, List.append_assoc]

/-- A text of printable ASCII characters and line feeds. -/
def IsPrinted (t : Text) : Prop := ∀ c ∈ t, c = '\n' ∨ .char ' ' ≤ c ∧ c ≤ .char '~'

instance (t : Text) : Decidable (IsPrinted t) :=
  inferInstanceAs (Decidable (∀ c ∈ t, c = .char '\n' ∨ .char ' ' ≤ c ∧ c ≤ .char '~'))

theorem isPrinted_append : IsPrinted (s ++ t) ↔ IsPrinted s ∧ IsPrinted t :=
  List.forall_mem_append

theorem isPrinted_cons :
    IsPrinted (c :: t) ↔ (c = '\n' ∨ .char ' ' ≤ c ∧ c ≤ .char '~') ∧ IsPrinted t :=
  List.forall_mem_cons

theorem IsPrinted.subset (h : IsPrinted t) (hs : s ⊆ t) : IsPrinted s := fun c hc => h c (hs hc)

theorem IsPrinted.toNat_lt (h : IsPrinted t) (hc : c ∈ t) : c.toNat < 0x7f := by
  rcases h c hc with rfl | ⟨_, hle⟩
  · decide
  · exact Nat.lt_succ_of_le hle

theorem IsPrinted.isHalf_eq_false (h : IsPrinted t) : ∀ c ∈ t, c.isHalf = false := by
  intro c hc
  have hlt := h.toNat_lt hc
  cases c with
  | char c => rfl
  | half n =>
    rw [CodePoint.toNat, CodePoint.firstHalf] at hlt
    omega

/-! ## Numbers -/

theorem isPrinted_repeated (n : Nat) (hc : .char ' ' ≤ c ∧ c ≤ .char '~') :
    IsPrinted (Text.repeated n c) := fun c' hc' => by
  rw [List.eq_of_mem_replicate hc']
  exact .inr hc

theorem isPrinted_ofNat (n : Nat) : IsPrinted (Text.ofNat n) := by
  intro c hc
  have hdigit := Text.isSome_digit?_of_mem_ofNat hc
  rw [Text.digit?] at hdigit
  split at hdigit
  · next h => exact .inr ⟨Std.le_trans (by decide) h.1, Std.le_trans h.2 (by decide)⟩
  · contradiction

theorem isPrinted_ofInt (i : Int) : IsPrinted (Text.ofInt i) := by
  cases i with
  | ofNat n => exact isPrinted_ofNat n
  | negSucc n => exact isPrinted_cons.2 ⟨by decide, isPrinted_ofNat (n + 1)⟩

theorem isPrinted_ofNatPadded (width n : Nat) : IsPrinted (Text.ofNatPadded width n) :=
  isPrinted_append.2 ⟨isPrinted_repeated _ (by decide), isPrinted_ofNat n⟩

theorem isPrinted_signOf (negative : Bool) : IsPrinted (Double.signOf negative) := by
  cases negative <;> decide

theorem isPrinted_double (d : Double) : IsPrinted (d.render doubleSpelling) := by
  have hzeros (n : Nat) : IsPrinted (Text.repeated n '0') := isPrinted_repeated n (by decide)
  cases d with
  | nan => decide
  | infinity negative => exact isPrinted_append.2 ⟨isPrinted_signOf negative, by decide⟩
  | finite negative mantissa exponent =>
    rw [Double.render]
    simp only
    generalize Double.shortest mantissa exponent = shortest
    have hdigits := isPrinted_ofNat shortest.1
    have htake (n : Nat) := hdigits.subset (List.take_subset n _)
    have hdrop (n : Nat) := hdigits.subset (List.drop_subset n _)
    generalize Text.ofNat shortest.1 = digits at hdigits htake hdrop
    split
    · exact isPrinted_append.2 ⟨isPrinted_signOf negative, by decide⟩
    refine isPrinted_append.2 ⟨isPrinted_signOf negative, ?_⟩
    split
    · -- The point stands before, behind or between the digits.
      split
      · exact isPrinted_append.2 ⟨isPrinted_append.2 ⟨by decide, hzeros _⟩, hdigits⟩
      split
      · exact isPrinted_append.2 ⟨isPrinted_append.2 ⟨hdigits, hzeros _⟩, by decide⟩
      · exact isPrinted_append.2 ⟨isPrinted_append.2 ⟨htake _, by decide⟩, hdrop _⟩
    · have hfraction :
          IsPrinted (if digits.length = 1 then [] else .char '.' :: digits.drop 1) := by
        split
        · decide
        · exact isPrinted_cons.2 ⟨by decide, hdrop 1⟩
      have hpower (power : Int) : IsPrinted (if power < 0 then "e-" else "e+" : Text) := by
        split <;> decide
      exact isPrinted_append.2 ⟨isPrinted_append.2 ⟨isPrinted_append.2 ⟨htake 1, hfraction⟩,
        hpower _⟩, isPrinted_ofNatPadded 2 _⟩

/-! ## Texts -/

theorem isPrinted_escapeUnit {n : Nat} (h : n < 0x10000) : IsPrinted (escapeUnit n) := by
  have hdigit {n : Nat} (h : n < 16) : IsPrinted [.char n.digitChar] := by
    have hall : ∀ n : Fin 16, IsPrinted [.char n.val.digitChar] := by decide
    exact hall ⟨n, h⟩
  have hdigits (n₁ n₂ n₃ n₄ : Nat) (h₁ : n₁ < 16) (h₂ : n₂ < 16) (h₃ : n₃ < 16) (h₄ : n₄ < 16) :
      IsPrinted [.char n₁.digitChar, .char n₂.digitChar, .char n₃.digitChar, .char n₄.digitChar] :=
    isPrinted_append.2 ⟨hdigit h₁, isPrinted_append.2 ⟨hdigit h₂, isPrinted_append.2 ⟨hdigit h₃,
      hdigit h₄⟩⟩⟩
  rw [escapeUnit, Text.hex_four h]
  exact isPrinted_append.2 ⟨(by decide : IsPrinted ['\\', 'u']),
    hdigits _ _ _ _ (by omega) (by omega) (by omega) (by omega)⟩

/-- The characters that are escaped by a letter, or by themselves, behind a backslash. -/
def lettered : List CodePoint := ['"', '\\', '\n', '\r', '\t', '\x08', '\x0c']

/-- Any other character stands as it is, or as one or two code units. -/
theorem escape_of_not_mem (h : c ∉ lettered) :
    escape c =
      if ' ' ≤ c ∧ c ≤ '~' then [c]
      else if c.toNat < 0x10000 then escapeUnit c.toNat
      else
        escapeUnit (0xd800 + (c.toNat - 0x10000) / 0x400) ++
          escapeUnit (0xdc00 + (c.toNat - 0x10000) % 0x400) := by
  simp only [lettered, List.mem_cons, List.not_mem_nil, or_false, not_or] at h
  obtain ⟨hquote, hback, hline, hreturn, htab, herase, hpage⟩ := h
  rw [escape, if_neg hquote, if_neg hback, if_neg hline, if_neg hreturn, if_neg htab, if_neg herase,
    if_neg hpage]

theorem isPrinted_escape (c : CodePoint) : IsPrinted (escape c) := by
  by_cases hletter : c ∈ lettered
  · have hall : ∀ c ∈ lettered, IsPrinted (escape c) := by decide
    exact hall c hletter
  rw [escape_of_not_mem hletter]
  split
  · next h => exact List.forall_mem_singleton.2 (.inr h)
  split
  · next h => exact isPrinted_escapeUnit h
  · have := c.toNat_lt
    exact isPrinted_append.2 ⟨isPrinted_escapeUnit (by omega), isPrinted_escapeUnit (by omega)⟩

theorem isPrinted_quote (t : Text) : IsPrinted (quote t) := by
  have hchars : IsPrinted (t.flatMap escape) := by
    intro c hc
    obtain ⟨c', _, hmem⟩ := List.mem_flatMap.1 hc
    exact isPrinted_escape c' c hmem
  exact isPrinted_cons.2 ⟨by decide, isPrinted_append.2 ⟨hchars, by decide⟩⟩

/-! ## Values -/

theorem isPrinted_line (l : Layout) (level : Nat) : IsPrinted (l.line level) := by
  rw [Layout.line]
  split
  · exact List.forall_mem_nil _
  · exact isPrinted_cons.2 ⟨by decide, isPrinted_repeated _ (by decide)⟩

/-- What is put in front of printed characters for a value is printed as well. -/
theorem isPrinted_renderBefore (hcomma : IsPrinted l.comma) (hcolon : IsPrinted l.colon)
    (level : Nat) (v : Json) (rest : Text) :
    IsPrinted rest → IsPrinted (renderBefore l level v rest) := by
  have hline (level : Nat) := isPrinted_line l level
  have hbetween (level : Nat) : IsPrinted (l.between level) :=
    isPrinted_append.2 ⟨hcomma, hline level⟩
  have hclose {close : Text} (hclose : IsPrinted close) (level : Nat) {rest : Text}
      (hrest : IsPrinted rest) : IsPrinted (l.line level ++ close ++ rest) :=
    isPrinted_append.2 ⟨isPrinted_append.2 ⟨hline level, hclose⟩, hrest⟩
  -- Along the printer, which puts what it prints in front of what comes after it.
  refine renderBefore.induct l (fun level v rest => IsPrinted rest →
      IsPrinted (renderBefore l level v rest))
    (fun level ms rest => IsPrinted rest → IsPrinted (renderMembers l level ms rest))
    (fun level vs rest => IsPrinted rest → IsPrinted (renderItems l level vs rest))
    ?null ?true ?false ?int ?double ?text ?emptyList ?list ?emptyObject ?object
    ?noItems ?items ?noMembers ?members level v rest
  case null => exact fun _ _ hrest => isPrinted_append.2 ⟨by decide, hrest⟩
  case true => exact fun _ _ hrest => isPrinted_append.2 ⟨by decide, hrest⟩
  case false => exact fun _ _ hrest => isPrinted_append.2 ⟨by decide, hrest⟩
  case int => exact fun _ n _ hrest => isPrinted_append.2 ⟨isPrinted_ofInt n, hrest⟩
  case double => exact fun _ d _ hrest => isPrinted_append.2 ⟨isPrinted_double d, hrest⟩
  case text => exact fun _ t _ hrest => isPrinted_append.2 ⟨isPrinted_quote t, hrest⟩
  case emptyList => exact fun _ _ hrest => isPrinted_append.2 ⟨by decide, hrest⟩
  case list =>
    intro level v vs rest hvs hv hrest
    exact isPrinted_cons.2 ⟨by decide, isPrinted_append.2 ⟨hline (level + 1),
      hv (hvs (hclose (by decide) level hrest))⟩⟩
  case emptyObject => exact fun _ _ hrest => isPrinted_append.2 ⟨by decide, hrest⟩
  case object =>
    intro level k v ms rest hms hv hrest
    exact isPrinted_cons.2 ⟨by decide, isPrinted_append.2 ⟨isPrinted_append.2
      ⟨isPrinted_append.2 ⟨hline (level + 1), isPrinted_quote k⟩, hcolon⟩,
      hv (hms (hclose (by decide) level hrest))⟩⟩
  case noItems => exact fun _ _ hrest => hrest
  case items =>
    exact fun level _ _ _ hvs hv hrest => isPrinted_append.2 ⟨hbetween level, hv (hvs hrest)⟩
  case noMembers => exact fun _ _ hrest => hrest
  case members =>
    intro level k v ms rest hms hv hrest
    exact isPrinted_append.2 ⟨isPrinted_append.2 ⟨isPrinted_append.2 ⟨hbetween level,
      isPrinted_quote k⟩, hcolon⟩, hv (hms hrest)⟩

/-- The text of a value is made of printed characters. -/
theorem isPrinted_render (hcomma : IsPrinted l.comma) (hcolon : IsPrinted l.colon) (v : Json) :
    IsPrinted (v.render l) :=
  isPrinted_renderBefore hcomma hcolon 0 v [] (List.forall_mem_nil _)

end Depot.Json
