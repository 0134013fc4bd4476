import Depot.CodePoint

/-!
# Text

Text is a list of code points, so that whatever is done to it is a recursion on
the list that a proof can follow. String literals are read as texts.

The operations here cut a text at a character: at its first occurrence
(`Text.cut`), at its last one (`Text.cutLast`) or at all of them
(`Text.pieces`, undone by `List.intercalate`). Numbers are written in decimal
by `Text.ofNat` and `Text.ofInt`, and read by `Text.toNat?`.
-/

namespace Depot

/-- A text: its code points in order. -/
abbrev Text := List CodePoint

namespace Text

/-- Characters as a text. -/
def ofChars (cs : List Char) : Text := cs.map .char

/-- The characters of a string. -/
def ofString (s : String) : Text := ofChars s.toList

instance : Coe String Text := ⟨ofString⟩

/-- A text as a string, which has no halves of surrogate pairs. -/
def toString (t : Text) : String :=
  String.ofList <| t.map fun
    | .char c => c
    | .half _ => '\ufffd'

/-- A text of one code point, so many times. -/
def repeated (n : Nat) (c : CodePoint) : Text := List.replicate n c

/-- Some texts with another one between each two of them. -/
def joined (between : Text) (ts : List Text) : Text := List.intercalate between ts

/-! ## Cutting -/

/-- The text before the first `sep` and the text after it; nothing when `sep`
    does not occur. -/
def cut (sep : CodePoint) : Text → Option (Text × Text)
  | [] => none
  | c :: t =>
    if c = sep then some ([], t)
    else (cut sep t).map fun p => (c :: p.1, p.2)

/-- The text before the last `sep` and the text after it; nothing when `sep`
    does not occur. -/
def cutLast (sep : CodePoint) : Text → Option (Text × Text)
  | [] => none
  | c :: t =>
    match cutLast sep t with
    | some (a, b) => some (c :: a, b)
    | none => if c = sep then some ([], t) else none

/-- The texts between the occurrences of `sep`: one more than there are
    occurrences. -/
def pieces (sep : CodePoint) : Text → List Text
  | [] => [[]]
  | c :: t =>
    if c = sep then [] :: pieces sep t
    else
      match pieces sep t with
      | [] => [[c]]
      | p :: ps => (c :: p) :: ps

theorem cut_eq_none_iff {sep : CodePoint} {t : Text} : cut sep t = none ↔ sep ∉ t := by
  induction t with
  | nil => simp [cut]
  | cons c t ih =>
    by_cases h : c = sep
    · simp [cut, h]
    · simp [cut, h, ih, Ne.symm h]

theorem append_of_cut {sep : CodePoint} {t a b : Text} (h : cut sep t = some (a, b)) :
    t = a ++ sep :: b := by
  induction t generalizing a with
  | nil => simp [cut] at h
  | cons c t ih =>
    by_cases hc : c = sep
    · simp only [cut, hc, if_true, Option.some.injEq, Prod.mk.injEq] at h
      simp [← h.1, h.2, hc]
    · simp only [cut, hc, if_false, Option.map_eq_some_iff] at h
      obtain ⟨⟨a', b'⟩, h', he⟩ := h
      simp only [Prod.mk.injEq] at he
      obtain ⟨rfl, rfl⟩ := he
      rw [ih h', List.cons_append]

theorem not_mem_of_cut {sep : CodePoint} {t a b : Text} (h : cut sep t = some (a, b)) :
    sep ∉ a := by
  induction t generalizing a with
  | nil => contradiction
  | cons c t ih =>
    by_cases hc : c = sep
    · simp only [cut, hc, if_true, Option.some.injEq, Prod.mk.injEq] at h
      exact h.1 ▸ List.not_mem_nil
    · simp only [cut, hc, if_false, Option.map_eq_some_iff, Prod.mk.injEq] at h
      obtain ⟨s, hs, rfl, rfl⟩ := h
      rw [List.mem_cons, not_or]
      exact ⟨Ne.symm hc, ih hs⟩

theorem cutLast_eq_none_iff {sep : CodePoint} {t : Text} : cutLast sep t = none ↔ sep ∉ t := by
  induction t with
  | nil => simp [cutLast]
  | cons c t ih =>
    rw [cutLast]
    split <;> rename_i h
    · have : sep ∈ t := by
        rw [← Decidable.not_not (p := sep ∈ t), ← ih, h]
        simp
      simp [this]
    · by_cases hc : c = sep
      · simp [hc]
      · simp [hc, ih.1 h, Ne.symm hc]

theorem append_of_cutLast {sep : CodePoint} {t a b : Text} (h : cutLast sep t = some (a, b)) :
    t = a ++ sep :: b := by
  induction t generalizing a with
  | nil => simp [cutLast] at h
  | cons c t ih =>
    rw [cutLast] at h
    split at h <;> rename_i h'
    · simp only [Option.some.injEq, Prod.mk.injEq] at h
      obtain ⟨rfl, rfl⟩ := h
      rw [ih h', List.cons_append]
    · split at h <;> simp_all

theorem not_mem_of_cutLast {sep : CodePoint} {t a b : Text} (h : cutLast sep t = some (a, b)) :
    sep ∉ b := by
  induction t generalizing a with
  | nil => simp [cutLast] at h
  | cons c t ih =>
    rw [cutLast] at h
    split at h <;> rename_i h'
    · simp only [Option.some.injEq, Prod.mk.injEq] at h
      obtain ⟨rfl, rfl⟩ := h
      exact ih h'
    · split at h <;> simp_all [cutLast_eq_none_iff]

/-- A text is cut at the first separator. -/
theorem cut_append_cons {sep : CodePoint} {a : Text} (h : sep ∉ a) (b : Text) :
    cut sep (a ++ sep :: b) = some (a, b) := by
  induction a with
  | nil => simp [cut]
  | cons c a ih =>
    rw [List.mem_cons, not_or] at h
    simp [cut, Ne.symm h.1, ih h.2]

/-- What is put behind a text with a separator is behind the first one too. -/
theorem cut_append {sep : CodePoint} {t : Text} (h : sep ∈ t) (u : Text) :
    cut sep (t ++ u) = (cut sep t).map fun s => (s.1, s.2 ++ u) := by
  induction t with
  | nil => exact absurd h List.not_mem_nil
  | cons c t ih =>
    rw [List.cons_append, cut, cut]
    by_cases hc : c = sep
    · rw [if_pos hc, if_pos hc, Option.map_some]
    · rw [if_neg hc, if_neg hc, ih ((List.mem_cons.1 h).resolve_left (Ne.symm hc)),
        Option.map_map, Option.map_map]
      rfl

/-- Where the first separator is tells the two texts around it. -/
theorem append_cons_inj {sep : CodePoint} {a a' b b' : Text} (ha : sep ∉ a) (ha' : sep ∉ a')
    (h : a ++ sep :: b = a' ++ sep :: b') : a = a' ∧ b = b' := by
  have hcut := congrArg (cut sep) h
  rw [cut_append_cons ha, cut_append_cons ha'] at hcut
  exact Prod.mk.inj (Option.some.inj hcut)

/-- A text is cut at the last separator. -/
theorem cutLast_append_cons {sep : CodePoint} {b : Text} (h : sep ∉ b) (a : Text) :
    cutLast sep (a ++ sep :: b) = some (a, b) := by
  induction a with
  | nil => simp [cutLast, cutLast_eq_none_iff.2 h]
  | cons c a ih => simp [cutLast, ih]

/-- What is put behind a text without being a separator goes to its last part. -/
theorem cutLast_concat {sep c : CodePoint} (hc : c ≠ sep) (t : Text) :
    cutLast sep (t ++ [c]) = (cutLast sep t).map fun s => (s.1, s.2 ++ [c]) := by
  cases h : cutLast sep t with
  | none =>
    have ht : sep ∉ t ++ [c] := by simpa [Ne.symm hc] using cutLast_eq_none_iff.1 h
    rw [cutLast_eq_none_iff.2 ht, Option.map_none]
  | some s =>
    have hs : sep ∉ s.2 ++ [c] := by simpa [Ne.symm hc] using not_mem_of_cutLast h
    rw [append_of_cutLast h, List.append_assoc, List.cons_append, cutLast_append_cons hs,
      Option.map_some]

theorem pieces_ne_nil (sep : CodePoint) (t : Text) : pieces sep t ≠ [] := by
  cases t with
  | nil => simp [pieces]
  | cons c t =>
    rw [pieces]
    split
    · simp
    · split <;> simp

/-- A text without the separator is one piece. -/
theorem pieces_of_not_mem {sep : CodePoint} {t : Text} (h : sep ∉ t) : pieces sep t = [t] := by
  induction t with
  | nil => rfl
  | cons c t ih =>
    rw [List.mem_cons, not_or] at h
    simp [pieces, Ne.symm h.1, ih h.2]

/-- No piece of a text has the separator. -/
theorem not_mem_of_mem_pieces {sep : CodePoint} {t piece : Text} (h : piece ∈ pieces sep t) :
    sep ∉ piece := by
  induction t generalizing piece with
  | nil =>
    rw [List.mem_singleton.1 h]
    exact List.not_mem_nil
  | cons c t ih =>
    rw [pieces] at h
    by_cases hc : c = sep
    · rw [if_pos hc] at h
      rcases List.mem_cons.1 h with rfl | h
      · exact List.not_mem_nil
      · exact ih h
    · rw [if_neg hc] at h
      cases hp : pieces sep t with
      | nil => exact absurd hp (pieces_ne_nil sep t)
      | cons p ps =>
        rw [hp] at h ih
        rcases List.mem_cons.1 h with rfl | h
        · rw [List.mem_cons, not_or]
          exact ⟨Ne.symm hc, ih List.mem_cons_self⟩
        · exact ih (List.mem_cons_of_mem _ h)

/-- A separator ends one piece and starts the next. -/
theorem pieces_append_cons (sep : CodePoint) (a b : Text) :
    pieces sep (a ++ sep :: b) = pieces sep a ++ pieces sep b := by
  induction a with
  | nil => simp [pieces]
  | cons c a ih =>
    rw [List.cons_append, pieces, pieces, ih]
    cases h : pieces sep a with
    | nil => exact absurd h (pieces_ne_nil sep a)
    | cons p ps => split <;> rfl

/-- What has no separator in it belongs to the first piece. -/
theorem exists_pieces_append {sep : CodePoint} {a : Text} (h : sep ∉ a) (b : Text) :
    ∃ p ps, pieces sep (a ++ b) = (a ++ p) :: ps := by
  induction a with
  | nil => exact List.exists_cons_of_ne_nil (pieces_ne_nil sep b)
  | cons c a ih =>
    rw [List.mem_cons, not_or] at h
    obtain ⟨p, ps, hp⟩ := ih h.2
    exact ⟨p, ps, by rw [List.cons_append, pieces, if_neg (Ne.symm h.1), hp]; rfl⟩

/-- Nothing is lost in cutting a text into its pieces. -/
theorem intercalate_pieces (sep : CodePoint) (t : Text) :
    List.intercalate [sep] (pieces sep t) = t := by
  induction t with
  | nil => rfl
  | cons c t ih =>
    rw [pieces]
    cases h : pieces sep t with
    | nil => exact absurd h (pieces_ne_nil sep t)
    | cons p ps =>
      rw [h] at ih
      by_cases hc : c = sep
      · simp [hc, ← ih, List.intercalate]
      · cases ps <;> simp_all [List.intercalate]

theorem joined_singleton (between t : Text) : joined between [t] = t := by
  simp [joined, List.intercalate]

theorem joined_cons_cons (between t u : Text) (ts : List Text) :
    joined between (t :: u :: ts) = t ++ (between ++ joined between (u :: ts)) := by
  simp [joined, List.intercalate]

theorem joined_concat (between t : Text) {ts : List Text} (h : ts ≠ []) :
    joined between (ts ++ [t]) = joined between ts ++ (between ++ t) := by
  induction ts with
  | nil => contradiction
  | cons u ts ih =>
    cases ts with
    | nil => rw [List.singleton_append, joined_cons_cons, joined_singleton, joined_singleton]
    | cons v ts =>
      have hts := ih (List.cons_ne_nil v ts)
      rw [List.cons_append] at hts
      rw [List.cons_append, List.cons_append, joined_cons_cons, joined_cons_cons, hts]
      simp only [List.append_assoc]

/-- Texts without the separator are what they are joined from. -/
theorem pieces_joined {sep : CodePoint} {ts : List Text} (hne : ts ≠ []) (h : ∀ t ∈ ts, sep ∉ t) :
    pieces sep (joined [sep] ts) = ts := by
  induction ts with
  | nil => exact absurd rfl hne
  | cons t ts ih =>
    have ht := pieces_of_not_mem (h t List.mem_cons_self)
    cases ts with
    | nil => rw [joined_singleton, ht]
    | cons u ts =>
      rw [joined_cons_cons, List.singleton_append, pieces_append_cons, ht,
        ih (List.cons_ne_nil u ts) fun t ht => h t (List.mem_cons_of_mem _ ht)]
      rfl

/-- A joined text is empty only when there is nothing to join, unless an empty
    text was joined. -/
theorem joined_eq_nil_iff {between : Text} {ts : List Text} (h : [] ∉ ts) :
    joined between ts = [] ↔ ts = [] := by
  cases ts with
  | nil => simp [joined]
  | cons t ts =>
    have ht : t ≠ [] := fun he => h (he ▸ List.mem_cons_self)
    cases ts with
    | nil => simp [joined_singleton, ht]
    | cons u ts => simp [joined_cons_cons, ht]

/-- Texts without the separator can be told from what they are joined to. -/
theorem joined_inj {sep : CodePoint} {ts us : List Text} (hts : ∀ t ∈ ts, sep ∉ t)
    (hus : ∀ u ∈ us, sep ∉ u) (hne : ts ≠ [] ∧ us ≠ [] ∨ [] ∉ ts ∧ [] ∉ us)
    (h : joined [sep] ts = joined [sep] us) : ts = us := by
  have hnil : ts = [] ↔ us = [] := by
    rcases hne with ⟨ht, hu⟩ | ⟨ht, hu⟩
    · exact iff_of_false ht hu
    · rw [← joined_eq_nil_iff ht, h, joined_eq_nil_iff hu]
  by_cases ht : ts = []
  · rw [ht, hnil.1 ht]
  · rw [← pieces_joined ht hts, h, pieces_joined (mt hnil.2 ht) hus]

/-! ## Comparing -/

/-- Texts are ordered by the code points of their characters. -/
def before (a b : Text) : Bool := decide (a < b)

theorem not_before_iff {a b : Text} : (!before b a) = true ↔ a ≤ b := by
  rw [Bool.not_eq_true', before, decide_eq_false_iff_not, List.not_lt]

/-- Sorting by a text makes the texts go up. -/
theorem pairwise_mergeSort {α : Type} (f : α → Text) (es : List α) :
    (es.mergeSort fun a b => !before (f b) (f a)).Pairwise fun a b => f a ≤ f b := by
  have hsorted : (es.mergeSort fun a b => !before (f b) (f a)).Pairwise fun a b =>
      (!before (f b) (f a)) = true :=
    List.pairwise_mergeSort
      (fun a b c => by simpa only [not_before_iff] using List.le_trans)
      (fun a b => by
        simpa only [Bool.or_eq_true, not_before_iff] using List.le_total (f a) (f b)) es
  exact hsorted.imp not_before_iff.1

/-- Whether `part` occurs somewhere in the text. -/
def contains (part : Text) : Text → Bool
  | [] => part.isEmpty
  | c :: t => part.isPrefixOf (c :: t) || contains part t

/-- The text after a word, if it starts with it. -/
def after? (word t : Text) : Option Text :=
  if word.isPrefixOf t then some (t.drop word.length) else none

/-- Whether the first code point of the text is this one. -/
def startsWith (c : CodePoint) (t : Text) : Bool := t.head? = some c

/-- Whether the last code point of the text is this one. -/
def endsWith (c : CodePoint) (t : Text) : Bool := t.getLast? = some c

theorem endsWith_iff {c : CodePoint} {t : Text} : endsWith c t ↔ ∃ u, t = u ++ [c] := by
  rw [endsWith, decide_eq_true_iff, List.getLast?_eq_some_iff]

/-- What is put behind a text is its end. -/
theorem endsWith_append (c : CodePoint) (t : Text) {u : Text} (h : u ≠ []) :
    endsWith c (t ++ u) = endsWith c u := by
  rw [endsWith, endsWith, List.getLast?_append, List.getLast?_eq_some_getLast h, Option.some_or]

/-- Whether a code point is a slash. -/
def isSlash (c : CodePoint) : Bool := c = '/'

/-- Whether a code point ends a line. -/
def isLineFeed (c : CodePoint) : Bool := c = '\n'

/-- The text without the characters at its two ends that satisfy `p`. -/
def trim (p : CodePoint → Bool) (t : Text) : Text :=
  ((t.dropWhile p).reverse.dropWhile p).reverse

/-- The text with every end of a line written as one line feed. -/
def unifyLines : Text → Text
  | '\r' :: '\n' :: t => '\n' :: unifyLines t
  | '\r' :: t => '\n' :: unifyLines t
  | c :: t => c :: unifyLines t
  | [] => []

theorem unifyLines_of_not_mem {t : Text} (h : .char '\r' ∉ t) : unifyLines t = t := by
  induction t with
  | nil => rfl
  | cons c t ih =>
    rw [List.mem_cons, not_or] at h
    rw [unifyLines.eq_def]
    split
    · next heq => exact absurd (List.cons.inj heq).1.symm h.1
    · next heq => exact absurd (List.cons.inj heq).1.symm h.1
    · next heq =>
      obtain ⟨rfl, rfl⟩ := List.cons.inj heq
      rw [ih h.2]
    · contradiction

/-! ## Numbers -/

/-- A natural number in decimal. -/
def ofNat (n : Nat) : Text := ofChars (Nat.toDigits 10 n)

/-- An integer in decimal, with a sign only when it is negative. -/
def ofInt : Int → Text
  | .ofNat n => ofNat n
  | .negSucc n => '-' :: ofNat (n + 1)

/-- A natural number in decimal, filled up with zeros to `width` digits. -/
def ofNatPadded (width n : Nat) : Text :=
  let digits := ofNat n
  repeated (width - digits.length) '0' ++ digits

/-- The value of an ASCII digit. -/
def digit? (c : CodePoint) : Option Nat :=
  if '0' ≤ c ∧ c ≤ '9' then some (c.toNat - '0'.toNat) else none

/-- The value of a hexadecimal digit in either case. -/
def hexDigit? (c : CodePoint) : Option Nat :=
  if '0' ≤ c ∧ c ≤ '9' then some (c.toNat - '0'.toNat)
  else if 'a' ≤ c ∧ c ≤ 'f' then some (c.toNat - 'a'.toNat + 10)
  else if 'A' ≤ c ∧ c ≤ 'F' then some (c.toNat - 'A'.toNat + 10)
  else none

/-- The number that a text of ASCII digits writes, digit after digit. -/
def toNat? (t : Text) : Option Nat :=
  if t.isEmpty then none
  else t.foldl (fun n c => n.bind fun n => (digit? c).map (10 * n + ·)) (some 0)

/-- The most digits of an integer that is read. -/
def maxDigits : Nat := 4300

/-- The complaint about an integer with too many digits. -/
def tooManyDigitsMessage (digits : Nat) : Text :=
  "Exceeds the limit (" ++ ofNat maxDigits ++
    " digits) for integer string conversion: value has " ++ ofNat digits ++
    " digits; use sys.set_int_max_str_digits() to increase the limit"

/-- The lower-case hexadecimal digits of a number, at least `width` of them. -/
def hex (width n : Nat) : Text :=
  let digits := ofChars (Nat.toDigits 16 n)
  repeated (width - digits.length) '0' ++ digits

end Text

end Depot
