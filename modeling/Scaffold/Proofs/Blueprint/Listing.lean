import Mathlib
import Scaffold.Blueprint.Load
import Scaffold.Proofs.FileTree.Listing
import Scaffold.Proofs.FileTree.Written

/-!
# The files of a blueprint

The files of a blueprint are all files below its directory but two kinds: those whose way leads
through a directory of version control or of installed packages, and the configuration files in the
directory itself. They are listed by their written paths, which are sorted as texts, the slash
counting like any other character. No two files have one written path, because no name has a slash
in it.
-/

namespace Scaffold.Blueprint

variable {tree found : FileTree} {directory : Path} {names : List String}

/-- The names lead from a directory to a file of its blueprint. -/
structure IsListed (tree : FileTree) (directory : Path) (names : List String) : Prop where
  /-- It is below the directory. -/
  ne_nil : names ≠ []
  /-- There is a file. -/
  hasFile : tree.hasFile ⟨directory.parts ++ names⟩ = true
  /-- No directory on the way is left out. -/
  way : ∀ name ∈ names.dropLast, name ∉ ignoredDirectories
  /-- It is no configuration file of the blueprint. -/
  ne_config : ∀ name ∈ Config.fileNames, names ≠ [name]

theorem isConfigFile_iff :
    isConfigFile names = true ↔ ∃ name ∈ Config.fileNames, names = [name] := by
  unfold isConfigFile
  split
  · next name => simp
  · next hnames =>
    refine iff_of_false Bool.false_ne_true ?_
    rintro ⟨name, -, rfl⟩
    exact hnames name rfl

/-! ## Written paths -/

/-- Names without slashes are told by what is written for them. -/
theorem intercalate_injOn {others : List String} (hne : names ≠ []) (hne' : others ≠ [])
    (hslash : ∀ name ∈ names, '/' ∉ name.toList) (hslash' : ∀ name ∈ others, '/' ∉ name.toList)
    (h : String.intercalate "/" names = String.intercalate "/" others) : names = others := by
  obtain ⟨first, rest, rfl⟩ := List.exists_cons_of_ne_nil hne
  obtain ⟨first', rest', rfl⟩ := List.exists_cons_of_ne_nil hne'
  rw [← Path.components_intercalate hslash, h, Path.components_intercalate hslash']

theorem pairwise_lt_mergeSort {paths : List String} (h : paths.Nodup) :
    (paths.mergeSort fun a b ↦ decide (a ≤ b)).Pairwise (· < ·) := by
  have hsorted : (paths.mergeSort fun a b ↦ decide (a ≤ b)).Pairwise fun a b ↦
      decide (a ≤ b) = true := by
    refine List.pairwise_mergeSort (fun a b c hab hbc ↦ ?_) (fun a b ↦ ?_) paths
    · rw [decide_eq_true_eq] at hab hbc ⊢
      exact hab.trans hbc
    · rw [Bool.or_eq_true, decide_eq_true_eq, decide_eq_true_eq]
      exact le_total a b
  have hnodup := (List.mergeSort_perm paths fun a b ↦ decide (a ≤ b)).nodup_iff.2 h
  exact (hsorted.and hnodup).imp fun ⟨hle, hne⟩ ↦ lt_of_le_of_ne (of_decide_eq_true hle) hne

/-! ## The files below a directory -/

theorem mem_filter_files_iff (h : found.IsNamed) :
    names ∈ (found.files ignoredDirectories.contains).filter (!isConfigFile ·) ↔
      IsListed found ⟨[]⟩ names := by
  rw [List.mem_filter, h.mem_files_iff, Bool.not_eq_true', ← Bool.not_eq_true, isConfigFile_iff]
  constructor
  · rintro ⟨⟨hne, hfile, hway⟩, hconfig⟩
    refine ⟨hne, FileTree.hasFile_iff.2 hfile, fun name hname ↦ ?_, fun name hname heq ↦ ?_⟩
    · rw [← List.contains_iff_mem, hway name hname]
      exact Bool.false_ne_true
    · exact hconfig ⟨name, hname, heq⟩
  · rintro ⟨hne, hfile, hway, hconfig⟩
    refine ⟨⟨hne, FileTree.hasFile_iff.1 hfile, fun name hname ↦ ?_⟩, ?_⟩
    · rw [← Bool.not_eq_true, List.contains_iff_mem]
      exact hway name hname
    · rintro ⟨name, hname, heq⟩
      exact hconfig name hname heq

theorem filesIn_spec (h : found.IsNamed) :
    (filesIn found).Pairwise (· < ·) ∧ ∀ path, path ∈ filesIn found ↔
      ∃ names, IsListed found ⟨[]⟩ names ∧ path = String.intercalate "/" names := by
  have hslash : ∀ names, IsListed found ⟨[]⟩ names → ∀ name ∈ names, '/' ∉ name.toList := by
    intro names hnames
    obtain ⟨bytes, executable, hat⟩ := FileTree.hasFile_iff.1 hnames.hasFile
    exact h.notMem_of_at? hat
  constructor
  · refine pairwise_lt_mergeSort (List.Nodup.map_on (fun names hnames others hothers ↦ ?_)
      ((h.nodup_files _).filter _))
    rw [mem_filter_files_iff h] at hnames hothers
    exact intercalate_injOn hnames.ne_nil hothers.ne_nil (hslash _ hnames) (hslash _ hothers)
  · intro path
    rw [filesIn, List.mem_mergeSort, List.mem_map]
    exact exists_congr fun names ↦ and_congr (mem_filter_files_iff h) eq_comm

theorem isListed_iff_of_find? (h : tree.find? directory = .ok found) :
    IsListed tree directory names ↔ IsListed found ⟨[]⟩ names := by
  have hat : tree.at? (directory.parts ++ names) = found.at? names := by
    rw [FileTree.at?_append, ← FileTree.find?, h]
    rfl
  have hfile : tree.hasFile ⟨directory.parts ++ names⟩ = found.hasFile ⟨names⟩ := by
    rw [FileTree.hasFile, FileTree.hasFile, FileTree.find?, FileTree.find?, hat]
  constructor
  · rintro ⟨hne, hhas, hway, hconfig⟩
    exact ⟨hne, hfile.symm.trans hhas, hway, hconfig⟩
  · rintro ⟨hne, hhas, hway, hconfig⟩
    exact ⟨hne, hfile.trans hhas, hway, hconfig⟩

/-- The listing of a directory is strictly increasing and holds the written paths of the files of
its blueprint, and nothing else. -/
theorem listFiles_exact (h : tree.IsNamed) (directory : Path) :
    (listFiles tree directory).Pairwise (· < ·) ∧ ∀ path, path ∈ listFiles tree directory ↔
      ∃ names, IsListed tree directory names ∧ path = String.intercalate "/" names := by
  rw [listFiles]
  split
  · next found hfound =>
    simp only [isListed_iff_of_find? hfound]
    exact filesIn_spec (h.of_at? hfound)
  · next fault hfault =>
    refine ⟨List.Pairwise.nil, fun path ↦ iff_of_false List.not_mem_nil ?_⟩
    rintro ⟨names, ⟨-, hfile, -, -⟩, -⟩
    obtain ⟨bytes, executable, hat⟩ := FileTree.hasFile_iff.1 hfile
    rw [FileTree.at?_append, ← FileTree.find?, hfault] at hat
    cases hat

/-- A blueprint with a configuration and a history, and with a directory in which there is a file of
the name of a configuration. -/
def shelfTree : FileTree :=
  .directory [("bp", .directory
    [("a", .directory [("skem.config.json", .file .empty false)]), ("a-b", .file .empty false),
      (".git", .directory [("config", .file .empty false)]),
      ("skem.config.json", .file .empty false)])]

theorem isNamed_shelfTree : shelfTree.IsNamed := by
  have hfile : FileTree.IsNamed (.file .empty false) := .file _ _
  have hbelow : FileTree.IsNamed (.directory [("skem.config.json", .file .empty false)]) :=
    .directory (by decide) (by decide) (by decide) (List.forall_mem_singleton.2 hfile)
  have hhistory : FileTree.IsNamed (.directory [("config", .file .empty false)]) :=
    .directory (by decide) (by decide) (by decide) (List.forall_mem_singleton.2 hfile)
  refine .directory (by decide) (by decide) (by decide) (List.forall_mem_singleton.2 ?_)
  refine .directory (by decide) (by decide) (by decide) ?_
  exact List.forall_mem_cons.2 ⟨hbelow, List.forall_mem_cons.2 ⟨hfile, List.forall_mem_cons.2
    ⟨hhistory, List.forall_mem_singleton.2 hfile⟩⟩⟩

/-- The file in the directory and the one beside it are listed, the history is not. -/
theorem listFiles_exact_shelfTree :
    shelfTree.IsNamed ∧ (listFiles shelfTree ⟨["bp"]⟩).Pairwise (· < ·) ∧
      "a/skem.config.json" ∈ listFiles shelfTree ⟨["bp"]⟩ ∧
      "a-b" ∈ listFiles shelfTree ⟨["bp"]⟩ ∧ ".git/config" ∉ listFiles shelfTree ⟨["bp"]⟩ := by
  obtain ⟨hsorted, hmem⟩ := listFiles_exact isNamed_shelfTree ⟨["bp"]⟩
  refine ⟨isNamed_shelfTree, hsorted, (hmem _).2 ⟨["a", "skem.config.json"], ?_, rfl⟩,
    (hmem _).2 ⟨["a-b"], ?_, rfl⟩, fun hlisted ↦ ?_⟩
  · exact ⟨by decide, by decide, by decide, by decide⟩
  · exact ⟨by decide, by decide, by decide, by decide⟩
  · obtain ⟨names, hnames, hpath⟩ := (hmem _).1 hlisted
    obtain ⟨_, _, hat⟩ := FileTree.hasFile_iff.1 hnames.hasFile
    have hslash := isNamed_shelfTree.notMem_of_at? hat
    have heq : names = [".git", "config"] :=
      intercalate_injOn hnames.ne_nil (List.cons_ne_nil _ _)
        (fun name hname ↦ hslash name (List.mem_append_right _ hname)) (by decide) hpath.symm
    subst heq
    exact hnames.way ".git" List.mem_cons_self (by decide)

end Scaffold.Blueprint
