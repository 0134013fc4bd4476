import Depot.Text

/-!
# Similar texts

How much two texts have in common: the longest run of characters that occurs in
both is taken out, and the same is done with what is left on either side of it
(`Text.common`). `Text.closeMatches` lists the texts that have most in common
with a given one, such as the words that somebody may have meant.
-/

namespace Depot.Text

/-- The number of characters in front of two texts that are the same. -/
def commonStart : Text → Text → Nat
  | a :: s, b :: t => if a = b then commonStart s t + 1 else 0
  | _, _ => 0

/-- A run of characters that occurs in two texts: where it starts in each of
    them, and how long it is. -/
structure Run where
  left : Nat
  right : Nat
  length : Nat
  deriving DecidableEq

/-- The longer one of two runs, the first one if they are equally long. -/
def Run.longer (a b : Run) : Run := if a.length < b.length then b else a

/-- The longest run of two texts; of several the one that starts first in the
    left text, and of those the one that starts first in the right one. -/
def longestRun (s t : Text) : Run :=
  (List.range s.length).foldl
    (fun best i =>
      (List.range t.length).foldl
        (fun best j => best.longer ⟨i, j, commonStart (s.drop i) (t.drop j)⟩) best)
    ⟨0, 0, 0⟩

/-- The number of characters that two texts have in common. The first argument
    bounds the steps; the length of the left text is enough, for no step leaves
    all of it. -/
def commonWithin : Nat → Text → Text → Nat
  | 0, _, _ => 0
  | steps + 1, s, t =>
    let run := longestRun s t
    if run.length = 0 then 0
    else
      commonWithin steps (s.take run.left) (t.take run.right) + run.length +
        commonWithin steps (s.drop (run.left + run.length)) (t.drop (run.right + run.length))

/-- The number of characters that two texts have in common, in runs of the same
    order in both. -/
def common (s t : Text) : Nat := commonWithin s.length s t

/-- How similar two texts are: what they have in common, over what there is. -/
structure Similarity where
  /-- Twice the number of characters in common. -/
  shared : Nat
  /-- The number of characters of both texts. -/
  total : Nat
  deriving DecidableEq

/-- How similar two texts are. -/
def similarity (s t : Text) : Similarity := ⟨2 * common s t, s.length + t.length⟩

/-- Whether texts are similar enough to be taken for each other: three fifths of
    them are the same. -/
def Similarity.isClose (a : Similarity) : Bool := 3 * a.total ≤ 5 * a.shared

/-- Whether texts are less similar than others. -/
def Similarity.less (a b : Similarity) : Bool := a.shared * b.total < b.shared * a.total

/-- Whether a candidate comes after another one: it is less similar, or equally
    similar and before it in order. -/
def isWorse (a b : Text × Similarity) : Bool :=
  a.2.less b.2 || (!b.2.less a.2 && before a.1 b.1)

/-- How many texts are proposed in place of one. -/
def maxProposals : Nat := 3

/-- How similar two texts are at most: the shorter one may be in common. -/
def mostSimilarity (s t : Text) : Similarity :=
  ⟨2 * min s.length t.length, s.length + t.length⟩

/-- The candidates that are most similar to a text, at most three of them, in
    their order as texts. Those that are too long or too short to be close are
    passed over. -/
def closeMatches (candidates : List Text) (t : Text) : List Text :=
  let near := candidates.filter fun c => (mostSimilarity c t).isClose
  let close := (near.map fun c => (c, similarity c t)).filter fun c => c.2.isClose
  let best := (close.mergeSort fun a b => !isWorse a b).take maxProposals
  (best.map fun c => c.1).mergeSort fun a b => !before b a

end Depot.Text
