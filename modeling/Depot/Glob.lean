import Depot.Text

/-!
# Globs

A glob is a text in which each `*` stands for any run of characters and every
other character for itself. `Glob.Matches` says which texts a glob stands for,
with a condition on the characters a `*` may stand for: `Glob.AnyChar` where a
run may hold everything, `Glob.NoSlash` where it may not leave a folder.
-/

namespace Depot.Glob

/-- The character that stands for any run of characters. -/
def star : CodePoint := '*'

/-- `Matches ok g t`: the text `t` is what remains of the glob `g` when each
    `*` is replaced by a run of characters satisfying `ok`. -/
inductive Matches (ok : CodePoint → Prop) : Text → Text → Prop
  | nil : Matches ok [] []
  | char {c : CodePoint} {g t : Text} : c ≠ star → Matches ok g t → Matches ok (c :: g) (c :: t)
  | star {run g t : Text} : (∀ c ∈ run, ok c) → Matches ok g t → Matches ok (star :: g) (run ++ t)

/-- Every character may stand in a run. -/
def AnyChar (_ : CodePoint) : Prop := True

/-- Every character but the slash may stand in a run. -/
def NoSlash (c : CodePoint) : Prop := c ≠ '/'

/-- A glob without `*` stands for itself. -/
theorem Matches.refl_of_not_mem {ok : CodePoint → Prop} :
    ∀ {g : Text}, Glob.star ∉ g → Matches ok g g
  | [], _ => .nil
  | _ :: _, h =>
    .char (fun hc => h (hc ▸ List.mem_cons_self))
      (refl_of_not_mem fun hg => h (List.mem_cons_of_mem _ hg))

/-- Globs put one after the other stand for the texts put one after the other. -/
theorem Matches.append {ok : CodePoint → Prop} {g t g' t' : Text} (h : Matches ok g t)
    (h' : Matches ok g' t') : Matches ok (g ++ g') (t ++ t') := by
  induction h with
  | nil => exact h'
  | char hc _ ih => exact .char hc ih
  | star hr _ ih => rw [List.append_assoc]; exact .star hr ih

/-- A run that may hold more stands for more. -/
theorem Matches.mono {ok ok' : CodePoint → Prop} (hok : ∀ c, ok c → ok' c) {g t : Text}
    (h : Matches ok g t) : Matches ok' g t := by
  induction h with
  | nil => exact .nil
  | char hc _ ih => exact .char hc ih
  | star hr _ ih => exact .star (fun c hc => hok c (hr c hc)) ih

end Depot.Glob
