import Depot.Proofs.Json.Layouts
import Depot.Proofs.Json.Members
import Depot.Proofs.Text.Utf8

/-!
# Reading what was written

`Faithful d v`: the text of the value `v` tells all of it. There are no doubles in
it and no halves of surrogate pairs, integers have no more digits than are read,
an object has each key once, and nothing is nested deeper than `d`. Whatever the
layout, such a value is read back (`Faithful.readsAs`), also from a file with its
text (`Faithful.parseFile_render`).
-/

namespace Depot.Json

/-- Values that are written as a text and read back from it. -/
inductive Faithful : Nat → Json → Prop
  | null {d : Nat} : Faithful d .null
  | bool {d : Nat} (b : Bool) : Faithful d (.bool b)
  | int {d : Nat} {i : Int} (h : (Text.ofNat i.natAbs).length ≤ Text.maxDigits) :
      Faithful d (.int i)
  | text {d : Nat} {t : Text} (h : ∀ c ∈ t, c.isHalf = false) : Faithful d (.text t)
  | list {d : Nat} {vs : List Json} (h : ∀ v ∈ vs, Faithful d v) : Faithful (d + 1) (.list vs)
  | object {d : Nat} {ms : List (Text × Json)} (hk : ∀ m ∈ ms, ∀ c ∈ m.1, c.isHalf = false)
      (distinct : (ms.map (·.1)).Nodup) (h : ∀ m ∈ ms, Faithful d m.2) :
      Faithful (d + 1) (.object ms)

variable {l : Layout} {d level : Nat} {v : Json} {rest t : Text}

/-! ## Values -/

/-- What is written of a value is read as the value. -/
theorem Faithful.readsAs (h : Faithful d v) : ReadsAs d v (.ok v) := by
  induction h with
  | null => exact readsAs_null
  | bool b => exact readsAs_bool b
  | int h => exact readsAs_int h
  | @text d t h =>
    have hread := readsAs_text (d := d) t
    rwa [reread_eq_self h] at hread
  | @list d vs h ih =>
    have hall := ReadsAs.list ih
    have hitems : vs.mapM (Except.ok (ε := Refusal)) = .ok (vs.map id) := mapM_eq_ok fun _ _ => rfl
    rwa [hitems, List.map_id] at hall
  | @object d ms hk _ h ih =>
    have hall := ReadsAs.object (g := fun m => .ok m.2) ih
    have hmembers : ∀ m ∈ ms, (Except.ok m.2 : Except Refusal Json).map (fun w => (reread m.1, w)) =
        .ok (id m) := fun m hm => by
      rw [Except.map, reread_eq_self (hk m hm)]
      rfl
    rwa [mapM_eq_ok hmembers, List.map_id] at hall

theorem Faithful.reads (h : Faithful d v) (hl : l.IsPlain) (level : Nat) (rest : Text)
    (hrest : rest.head?.all endsNumber) : Reads d (renderBefore l level v rest) v rest :=
  ⟨length_lt_renderBefore l level v rest, h.readsAs.gives hl level rest hrest⟩

/-! ## Whole texts -/

theorem Faithful.collapse_eq (h : Faithful d v) : collapse v = v := by
  induction h with
  | null => rfl
  | bool => rfl
  | int => rfl
  | text => rfl
  | list h ih => exact collapse_list_eq_iff.2 ih
  | object _ distinct _ ih => exact collapse_object_eq_iff.2 ⟨distinct, ih⟩

/-- The value that a text stands for is the one it was written of. -/
theorem Faithful.parse_render (hl : l.IsPlain) (h : Faithful maxDepth v) :
    Json.parse (v.render l) = .ok v := by
  have hread : Json.read (v.render l) = .ok v := read_of_reads (h.reads hl 0 [] rfl) rfl
  rw [parse, hread]
  exact congrArg Except.ok h.collapse_eq

/-! ## Texts in files -/

/-- A text that a file with line ends of any kind gives back: ASCII without carriage
    returns. -/
def IsKept (t : Text) : Prop := ∀ c ∈ t, c.toNat < 0x80 ∧ c ≠ '\r'

instance (t : Text) : Decidable (IsKept t) :=
  inferInstanceAs (Decidable (∀ c ∈ t, c.toNat < 0x80 ∧ c ≠ '\r'))

theorem isKept_append {s t : Text} : IsKept (s ++ t) ↔ IsKept s ∧ IsKept t := List.forall_mem_append

theorem isKept_cons {c : CodePoint} : IsKept (c :: t) ↔ (c.toNat < 0x80 ∧ c ≠ '\r') ∧ IsKept t :=
  List.forall_mem_cons

theorem IsKept.isHalf_eq_false (h : IsKept t) : ∀ c ∈ t, c.isHalf = false := by
  intro c hc
  have := (h c hc).1
  cases c with
  | char c => rfl
  | half n =>
    rw [CodePoint.toNat, CodePoint.firstHalf] at this
    omega

theorem IsKept.decode_encode (h : IsKept t) : Utf8.decode (Utf8.encode t) = .ok t :=
  Utf8.decode_encode h.isHalf_eq_false

theorem IsKept.unifyLines (h : IsKept t) : Text.unifyLines t = t :=
  Text.unifyLines_of_not_mem fun hc => (h _ hc).2 rfl

theorem IsKept.parseFile (h : IsKept t) : Json.parseFile t = Json.parse t := by
  rw [Json.parseFile, if_neg]
  intro hhead
  have := (h _ (List.mem_of_mem_head? hhead)).1
  revert this
  decide

theorem IsPrinted.isKept (h : IsPrinted t) : IsKept t := by
  refine fun c hc => ⟨Nat.lt_succ_of_lt (h.toNat_lt hc), ?_⟩
  rintro rfl
  exact absurd (h _ hc) (by decide)

theorem isKept_ofNatPadded (width n : Nat) : IsKept (Text.ofNatPadded width n) :=
  (isPrinted_ofNatPadded width n).isKept

/-- The value that the bytes of a file with a value in it are read as. -/
theorem Faithful.parseFile_render (h : Faithful maxDepth v) :
    ∃ t, Utf8.decode (Utf8.encode (v.render .indented)) = .ok t ∧
      Json.parseFile (Text.unifyLines t) = .ok v := by
  have hkept : IsKept (v.render .indented) := (isPrinted_render (by decide) (by decide) v).isKept
  refine ⟨_, hkept.decode_encode, ?_⟩
  rw [hkept.unifyLines, hkept.parseFile, h.parse_render isPlain_indented]

end Depot.Json
