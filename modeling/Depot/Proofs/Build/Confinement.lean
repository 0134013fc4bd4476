import Depot.Proofs.Build.Isolation
import Depot.Proofs.Files.Paths

/-!
# Builds stay in the build root

Whatever a build is called, its folder is one name in the build root. The name is spelled
with letters, digits and a few signs, among them no slash, and it has the underscore between
name and number of the build, so it is neither empty nor one of the two names that lead to
another folder (`isComponent_folderName`). It can be read back.

A removal takes away what is at this name in the root, or some of what is below it, and
nothing else (`losesUnder_of_locate`): neither the root nor anything beside it. So a build
has nothing outside of the root, be it called `../..` (`folderOf_isConfined`).
-/

namespace Depot.Build

open Files

variable {b : Build} {root : Path} {here l : Location} {t t' : Tree}

/-- A name that is one component of a path, and no way to another folder. -/
structure IsComponent (n : Text) : Prop where
  isWritten : ∀ c ∈ n, Text.Percent.IsWritten c
  ne_nil : n ≠ []
  ne_here : n ≠ "."
  ne_up : n ≠ ".."
  /-- Read as a path it is this name alone. -/
  parse_eq : Path.parse n = ⟨[], [n]⟩

theorem isComponent_folderName (b : Build) : IsComponent (folderName b) := by
  have hwritten : ∀ c ∈ folderName b, Text.Percent.IsWritten c := fun c hc =>
    Text.Percent.isWritten_of_mem_encode hc
  have hne {n : Text} (hn : .char '_' ∉ n) : folderName b ≠ n := fun h =>
    hn (h ▸ underscore_mem_folderName b)
  have hslash : .char '/' ∉ folderName b := fun h => absurd (hwritten _ h) (by decide)
  have hnil := hne (n := []) (by decide)
  have hhere := hne (n := ".") (by decide)
  have hproper : Path.IsProper ⟨[], [folderName b]⟩ :=
    ⟨.inl rfl, List.forall_mem_singleton.2 ⟨hnil, hhere, hslash⟩⟩
  have htext : Path.text ⟨[], [folderName b]⟩ = folderName b := by
    rw [Path.text, if_neg (by simp), List.nil_append, Text.joined_singleton]
  have hparse := Path.parse_text hproper
  rw [htext] at hparse
  exact ⟨hwritten, hnil, hhere, folderName_ne_up b, hparse⟩

/-- What is in the first tree and not in the second one is at a name in the folder that a
    path leads to, or below it. Everything else is the same in both. -/
def LosesUnder (here : Location) (p : Path) (n : Text) (t t' : Tree) : Prop :=
  ∀ l, t'.lookup l ≠ t.lookup l →
    t'.lookup l = none ∧ ∃ m ns, t.locate here p = .ok m ∧ l = m ++ n :: ns

theorem losesUnder_self (here : Location) (p : Path) (n : Text) (t : Tree) :
    LosesUnder here p n t t := fun _ h => absurd rfl h

/-- The folder of a build is in the folder that the path of the root leads to. -/
theorem losesUnder_of_locate (h : t.locate here (folderOf root b) = .ok l)
    (hloses : Tree.LosesAt l t t') : LosesUnder here root (folderName b) t t' := by
  obtain ⟨m, hm, -, rfl⟩ := Tree.exists_locate_of_child (folderName_ne_up b) h
  intro l hne
  rcases hloses l with hsame | ⟨⟨ns, hns⟩, hnone⟩
  · exact absurd hsame hne
  · refine ⟨hnone, m, ns, hm, ?_⟩
    rw [← hns, List.append_assoc]
    rfl

theorem losesUnder_remove (s : Setting) (root : Path) (b : Build) (d : Disk) :
    LosesUnder s.folder root (folderName b) d.tree (remove s root b d).2.tree := by
  rcases remove_eq_or s root b d with hsame | ⟨l, hl, hgone⟩
  · rw [hsame]
    exact losesUnder_self _ _ _ _
  · rw [hgone]
    exact losesUnder_of_locate hl (.prune d.tree l)

/-- A removal that stops on its way stays in the root as well. -/
theorem losesUnder_removeSome (here : Location) (root : Path) (b : Build) (t : Tree)
    (gone : Location → Bool) :
    LosesUnder here root (folderName b) t (t.removeSome here (folderOf root b) gone) := by
  rcases Tree.removeSome_eq_or t here (folderOf root b) gone with hsame | ⟨l, hl, hloses⟩
  · rw [hsame]
    exact losesUnder_self _ _ _ _
  · exact losesUnder_of_locate hl hloses

/-- The folder of a build is one component behind the root, from which the name and the number
    of the build can be read back, joined by an underscore. So builds share a folder only if
    they are joined to the same text, and nothing but what is in the folder of a build goes
    when it is removed. -/
theorem folderOf_isConfined (hname : b.name.IsWhole) (hnumber : b.number.IsWhole)
    (root : Path) :
    ∃ n, folder? root b = .ok (root.child n) ∧ folderOf root b = root.child n ∧
      IsComponent n ∧
      Text.Percent.decode n = .ok (b.name ++ "_" ++ b.number) ∧
      (∀ b' : Build, folderOf root b' = folderOf root b ↔
        b'.name ++ "_" ++ b'.number = b.name ++ "_" ++ b.number) ∧
      (∀ (s : Setting) (d : Disk), LosesUnder s.folder root n d.tree (remove s root b d).2.tree) ∧
      ∀ (here : Location) (t : Tree) (gone : Location → Bool),
        LosesUnder here root n t (t.removeSome here (folderOf root b) gone) := by
  have hjoined : (b.name ++ "_" ++ b.number).IsWhole :=
    Text.isWhole_append.2 ⟨Text.isWhole_append.2 ⟨hname, Text.isWhole_ofString "_"⟩, hnumber⟩
  exact ⟨folderName b, folder?_of_isWhole ⟨hname, hnumber⟩, rfl, isComponent_folderName b,
    Text.Percent.decode_encode hjoined,
    fun b' => folderOf_eq_iff root, fun s d => losesUnder_remove s root b d,
    fun here t gone => losesUnder_removeSome here root b t gone⟩

/-- A build with a way out of the root for its name. -/
theorem folderOf_isConfined_way_out :
    let b : Build := ⟨"../../etc", "/."⟩
    let root : Path := ⟨[], ["builds"]⟩
    b.name.IsWhole ∧ b.number.IsWhole ∧
      folderOf root b = root.child "..%2F..%2Fetc_%2F." ∧ IsComponent "..%2F..%2Fetc_%2F." ∧
      Text.Percent.decode "..%2F..%2Fetc_%2F." = .ok "../../etc_/." := by
  intro b root
  have hname : b.name.IsWhole := by decide
  have hnumber : b.number.IsWhole := by decide
  obtain ⟨n, -, hfolder, hcomponent, hdecode, -⟩ := folderOf_isConfined hname hnumber root
  have hplace : folderOf root b = root.child "..%2F..%2Fetc_%2F." := by decide +kernel
  obtain rfl : n = "..%2F..%2Fetc_%2F." := by
    simpa [Path.child] using hfolder.symm.trans hplace
  exact ⟨hname, hnumber, hplace, hcomponent, hdecode⟩

end Depot.Build
