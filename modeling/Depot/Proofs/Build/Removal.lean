import Depot.Proofs.Build.Recording
import Depot.Proofs.Files.Changes

/-!
# Removing what is recorded for a build

What is recorded for a build can be read only when its folder is there
(`exists_folder_of_read`), and then the folder can be removed (`remove_of_read`).
Afterwards the folder is not there, and nothing is found of the build: neither is a
failure of the system, wherever the path of the build root leads.
-/

namespace Depot.Build

open Files

variable {t : Tree} {l : Location} {here : Location} {root : Path} {b : Build} {record : Record}

/-- A removal changes nothing, or takes away the folder of the build. -/
theorem remove_eq_or (s : Setting) (root : Path) (b : Build) (d : Disk) :
    (remove s root b d).2 = d ∨ ∃ l, d.tree.locate s.folder (folderOf root b) = .ok l ∧
      (remove s root b d).2 = { d with tree := d.tree.prune l } := by
  by_cases hwhole : b.IsWhole
  · rw [remove, folder?_of_isWhole hwhole]
    dsimp only
    split
    · next t' h =>
      rcases Tree.remove_eq_ok h with rfl | ⟨l, hl, rfl⟩
      · exact .inl rfl
      · exact .inr ⟨l, hl, rfl⟩
    · exact .inl rfl
  · obtain ⟨e, _, he⟩ := exists_folder?_eq_error root hwhole
    rw [remove, he]
    exact .inl rfl

/-- A build that can be read has partials in a folder of their own. -/
theorem isFolder?_of_read (h : read here t root b = .ok record) :
    t.isFolder? here (partialsPath (folderOf root b)) = .ok true := by
  rw [read_of_isWhole (isWhole_of_read h), readFolder] at h
  cases hfolder : t.isFolder? here (partialsPath (folderOf root b)) with
  | error e => simp [partialPaths, hfolder, bind, Except.bind] at h
  | ok isThere =>
    cases isThere with
    | true => rfl
    | false => simp [partialPaths, hfolder, bind, Except.bind] at h

/-- A whole build without a folder for partials is not found. -/
theorem read_of_isFolder?_eq_false (hwhole : b.IsWhole)
    (h : t.isFolder? here (partialsPath (folderOf root b)) = .ok false) :
    read here t root b = .error (.notFound b) := by
  rw [read_of_isWhole hwhole, readFolder]
  simp [partialPaths, h, bind, Except.bind]

/-- The folder of a build that can be read is there. -/
theorem exists_folder_of_read (h : read here t root b = .ok record) :
    ∃ l m, t.locate here (folderOf root b) = .ok l ∧ l ≠ [] ∧ t.lookup l = some .folder ∧
      t.locate here ((folderOf root b).below [partialsName]) = .ok m := by
  have hfolder := isFolder?_of_read h
  cases hpartials : t.locate here (partialsPath (folderOf root b)) with
  | error e =>
    rw [Tree.isFolder?, Tree.test, Tree.stat_of_error hpartials] at hfolder
    cases e <;> simp at hfolder
  | ok m =>
    obtain ⟨l, hl, hlookup, -⟩ := Tree.exists_locate_of_child (by decide) hpartials
    -- The last name on the way is a name of a file.
    obtain ⟨_, -, -, rfl⟩ := Tree.exists_locate_of_child (folderName_ne_up b) hl
    exact ⟨_, m, hl, by simp, hlookup, hpartials⟩

/-- What can be read can be removed. Then the folder of the build is not there, and nothing
    is found of the build. -/
theorem remove_of_read (h : read here t root b = .ok record) :
    ∃ l, t.locate here (folderOf root b) = .ok l ∧ t.lookup l = some .folder ∧
      t.remove here (folderOf root b) = .ok (t.prune l) ∧
      (t.prune l).exists? here (folderOf root b) = .ok false ∧
      read here (t.prune l) root b = .error (.notFound b) := by
  obtain ⟨l, m, hplace, hne, hfolder, hpartials⟩ := exists_folder_of_read h
  have hself : (folderOf root b).below [] = folderOf root b := by simp [Path.below]
  refine ⟨l, hplace, hfolder, ?_, ?_, ?_⟩
  · rw [Tree.remove, Tree.stat_of_lookup hplace hfolder, hplace]
  · have := Tree.test_below_prune hplace hne (hself.symm ▸ hplace) fun _ => true
    rwa [hself] at this
  · exact read_of_isFolder?_eq_false (isWhole_of_read h)
      (Tree.test_below_prune hplace hne hpartials _)

end Depot.Build
