import Depot.Files.Path
import Depot.Proofs.Text.Halves

/-!
# Paths and their texts

A path `IsProper` when it has one or two slashes or none in front and names that a folder can
hold. The path that a text writes is proper, and what is written of a proper path is read as
the path (`parse_text`).
-/

namespace Depot.Files.Path

variable {p : Path} {home t : Text} {n : Text}

/-- A path with no more than two slashes in front whose names are no empty ones and no `.`,
    without slashes in them. -/
structure IsProper (p : Path) : Prop where
  root : p.root = [] ∨ p.root = "/" ∨ p.root = "//"
  names : ∀ n ∈ p.names, n ≠ [] ∧ n ≠ "." ∧ .char '/' ∉ n

/-! ## Reading -/

/-- A path that a text writes has no characters that the text has not, but for slashes and a
    dot. -/
theorem mem_text_parse {c : CodePoint} (h : c ∈ (parse t).text) :
    c = '/' ∨ c = '.' ∨ c ∈ t := by
  have hnames : ∀ c ∈ Text.joined "/" (parse t).names, c = '/' ∨ c ∈ t := by
    refine Text.forall_mem_joined (fun c hc => .inl (List.mem_singleton.1 hc)) fun n hn c hc => ?_
    exact .inr (Text.subset_of_mem_pieces (List.mem_filter.1 hn).1 hc)
  rw [text] at h
  split at h
  · exact .inr (.inl (List.mem_singleton.1 h))
  · rcases List.mem_append.1 h with hroot | hc
    · exact .inl (List.eq_of_mem_replicate hroot)
    · exact (hnames c hc).imp_right .inr

theorem isProper_parse (t : Text) : (parse t).IsProper where
  root := by
    have hroot : ∀ k ≤ 2, Text.repeated k '/' = [] ∨ Text.repeated k '/' = "/" ∨
        Text.repeated k '/' = "//" := by decide
    exact hroot _ (by split <;> omega)
  names n hn := by
    obtain ⟨hn, hkept⟩ := List.mem_filter.1 hn
    have hne : n ≠ [] ∧ n ≠ "." := by simpa using hkept
    exact ⟨hne.1, hne.2, Text.not_mem_of_mem_pieces hn⟩

theorem exists_joined_cons (between n : Text) (ns : List Text) :
    ∃ t, Text.joined between (n :: ns) = n ++ t := by
  cases ns with
  | nil => exact ⟨[], by rw [Text.joined_singleton, List.append_nil]⟩
  | cons m ms => exact ⟨_, Text.joined_cons_cons between n m ms⟩

/-- As many slashes are read in front as are written there. -/
theorem takeWhile_text (h : p.IsProper) (k : Nat) :
    (Text.repeated k '/' ++ Text.joined "/" p.names).takeWhile Text.isSlash =
      Text.repeated k '/' := by
  have hslashes : ∀ c ∈ Text.repeated k '/', Text.isSlash c := fun c hc => by
    rw [List.eq_of_mem_replicate hc]
    rfl
  have hnames : (Text.joined "/" p.names).takeWhile Text.isSlash = [] := by
    cases hp : p.names with
    | nil => rfl
    | cons n ns =>
      obtain ⟨hne, _, hslash⟩ := h.names n (hp ▸ List.mem_cons_self)
      obtain ⟨c, n, rfl⟩ := List.exists_cons_of_ne_nil hne
      obtain ⟨t, ht⟩ := exists_joined_cons "/" (c :: n) ns
      have hc : ¬Text.isSlash c := fun hc =>
        hslash (of_decide_eq_true hc ▸ List.mem_cons_self)
      rw [ht, List.cons_append, List.takeWhile_cons_of_neg hc]
  rw [List.takeWhile_append_of_pos hslashes, hnames, List.append_nil]

theorem pieces_repeated_append (k : Nat) (t : Text) :
    Text.pieces '/' (Text.repeated k '/' ++ t) = List.replicate k [] ++ Text.pieces '/' t := by
  induction k with
  | zero => rfl
  | succ k ih =>
    have hone := Text.pieces_append_cons '/' [] (Text.repeated k '/' ++ t)
    rw [ih] at hone
    exact hone

/-- The text of a proper path writes the path. -/
theorem parse_text (h : p.IsProper) : parse p.text = p := by
  obtain ⟨root, names⟩ := p
  obtain ⟨k, hk, rfl⟩ : ∃ k ≤ 2, root = Text.repeated k '/' := by
    rcases h.root with hroot | hroot | hroot
    · exact ⟨0, by decide, hroot⟩
    · exact ⟨1, by decide, hroot⟩
    · exact ⟨2, by decide, hroot⟩
  -- Taking the names apart gives them back, for none is empty, a dot or has a slash in it.
  have hfilter : (Text.pieces '/' (Text.joined "/" names)).filter (fun n => n ≠ [] && n ≠ ".") =
      names := by
    by_cases hnil : names = []
    · rw [hnil]
      rfl
    · have hpieces : Text.pieces '/' (Text.joined "/" names) = names :=
        Text.pieces_joined hnil fun n hn => (h.names n hn).2.2
      rw [hpieces, List.filter_eq_self]
      exact fun n hn => by simpa using ⟨(h.names n hn).1, (h.names n hn).2.1⟩
  rw [text]
  split
  · next hnone =>
    obtain ⟨hroot, rfl⟩ := hnone
    simp only at hroot
    rw [hroot]
    rfl
  · have hslashes := takeWhile_text h k
    have hroot : (if k = 2 then 2 else min k 1) = k := by
      split <;> omega
    have hempty : (List.replicate k ([] : Text)).filter (fun n => n ≠ [] && n ≠ ".") = [] := by
      rw [List.filter_eq_nil_iff]
      exact fun n hn => by simp [List.eq_of_mem_replicate hn]
    simp only at hslashes
    rw [parse, hslashes, pieces_repeated_append, List.filter_append, hempty, hfilter]
    simp only [Text.repeated, List.length_replicate, hroot, List.nil_append]

/-! ## Home folders -/

/-- A path that does not start with a `~` has no home folder put into it. -/
theorem expand?_of_not_startsWith (h : Text.startsWith '~' p.text = false) :
    p.expand? home = some p := by
  rw [expand?]
  split
  · next hroot =>
    split
    · next user rest hnames =>
      obtain ⟨t, ht⟩ := exists_joined_cons "/" ('~' :: user) rest
      rw [text, hroot, hnames, ht] at h
      contradiction
    · rfl
  · rfl

theorem IsProper.expand? {q : Path} (h : p.IsProper) (hq : p.expand? home = some q) :
    q.IsProper := by
  rw [Path.expand?] at hq
  split at hq
  · split at hq
    · next user rest hnames =>
      have hrest : ∀ n ∈ rest, n ≠ [] ∧ n ≠ "." ∧ .char '/' ∉ n := fun n hn =>
        h.names n (hnames ▸ List.mem_cons_of_mem _ hn)
      split at hq
      · simp only at hq
        split at hq
        · contradiction
        · obtain rfl := Option.some.inj hq
          have hfolder := isProper_parse (if (home.reverse.dropWhile Text.isSlash).reverse = []
            then ['/'] else (home.reverse.dropWhile Text.isSlash).reverse)
          exact ⟨hfolder.root, List.forall_mem_append.2 ⟨hfolder.names, hrest⟩⟩
      · split at hq
        · obtain rfl := Option.some.inj hq
          exact ⟨.inr (.inl rfl), List.forall_mem_cons.2 ⟨by decide, hrest⟩⟩
        · contradiction
    · obtain rfl := Option.some.inj hq
      exact h
  · obtain rfl := Option.some.inj hq
    exact h

end Depot.Files.Path
