import Mathlib
import Scaffold.FileTree.Listing
import Scaffold.Proofs.Bindings

/-!
# Which files are listed

In a tree as file systems have it, no two entries of a directory have one name, and a name has no
slash in it and is not too long. The files of such a tree are listed each once, and they are those
that stand at the end of their names, on a way through no directory that is skipped. Only the
directories on the way are asked for, not the file itself: a file may have the name of a directory
that is skipped.
-/

namespace Scaffold.FileTree

variable {tree sub : FileTree} {entries : List (String × FileTree)} {skip : String → Bool}
  {name : String} {names : List String}

/-- A tree with names as file systems have them. -/
inductive IsNamed : FileTree → Prop where
  /-- There are no names in a file. -/
  | file (bytes : ByteArray) (executable : Bool) : IsNamed (file bytes executable)
  /-- The names in a directory are different, have no slash in them and are not too long. -/
  | directory {entries : List (String × FileTree)} (hnodup : (entries.map Prod.fst).Nodup)
    (hslash : ∀ entry ∈ entries, '/' ∉ entry.1.toList)
    (hshort : ∀ entry ∈ entries, isTooLong entry.1 = false)
    (htrees : ∀ entry ∈ entries, IsNamed entry.2) : IsNamed (directory entries)

/-! ## What stands below an entry -/

theorem at?_append (tree : FileTree) (above names : List String) :
    tree.at? (above ++ names) = (tree.at? above).bind (·.at? names) := by
  induction above generalizing tree with
  | nil =>
    rw [List.nil_append, at?]
    rfl
  | cons name above ih =>
    cases tree with
    | file bytes executable => rfl
    | directory entries =>
      rw [List.cons_append, at?, at?]
      split
      · rfl
      · cases entries.lookup name with
        | none => rfl
        | some sub => exact ih sub

theorem hasFile_iff {path : Path} : tree.hasFile path = true ↔
    ∃ bytes executable, tree.at? path.parts = .ok (.file bytes executable) := by
  rw [hasFile, find?]
  split
  · next bytes executable hat => exact iff_of_true rfl ⟨bytes, executable, hat⟩
  · next hat =>
    refine iff_of_false Bool.false_ne_true ?_
    rintro ⟨bytes, executable, hfile⟩
    exact hat bytes executable hfile

theorem IsNamed.at?_cons (h : (FileTree.directory entries).IsNamed) :
    (FileTree.directory entries).at? (name :: names) = .ok sub ↔
      ∃ tree, (name, tree) ∈ entries ∧ tree.at? names = .ok sub := by
  obtain ⟨⟩ | ⟨hnodup, -, hshort, -⟩ := h
  rw [at?]
  constructor
  · intro hat
    split at hat
    · cases hat
    · split at hat
      · next tree htree => exact ⟨tree, (lookup_eq_some_iff_mem hnodup).1 htree, hat⟩
      · cases hat
  · rintro ⟨tree, hmem, hat⟩
    rw [hshort _ hmem, (lookup_eq_some_iff_mem hnodup).2 hmem]
    exact hat

/-- What stands anywhere in such a tree is such a tree. -/
theorem IsNamed.of_at? (h : tree.IsNamed) (hat : tree.at? names = .ok sub) : sub.IsNamed := by
  induction h generalizing names with
  | file bytes executable =>
    cases names with
    | nil =>
      cases hat
      exact .file bytes executable
    | cons name names => cases hat
  | @directory entries hnodup hslash hshort htrees ih =>
    have hnamed : (FileTree.directory entries).IsNamed := .directory hnodup hslash hshort htrees
    cases names with
    | nil =>
      cases hat
      exact hnamed
    | cons name names =>
      obtain ⟨tree, hmem, hat⟩ := hnamed.at?_cons.1 hat
      exact ih _ hmem hat

/-- The names that lead to something have no slash in them. -/
theorem IsNamed.notMem_of_at? (h : tree.IsNamed) (hat : tree.at? names = .ok sub) :
    ∀ name ∈ names, '/' ∉ name.toList := by
  induction names generalizing tree with
  | nil => exact List.forall_mem_nil _
  | cons name names ih =>
    cases tree with
    | file bytes executable => cases hat
    | directory entries =>
      obtain ⟨tree, hmem, hat⟩ := h.at?_cons.1 hat
      obtain ⟨⟩ | ⟨-, hslash, -, htrees⟩ := h
      exact List.forall_mem_cons.2 ⟨hslash _ hmem, ih (htrees _ hmem) hat⟩

/-! ## The files of an entry -/

/-- The files in an entry of a directory, as the names that lead to them from the directory. -/
def filesOfEntry (skip : String → Bool) (entry : String × FileTree) : List (List String) :=
  match entry.2 with
  | file _ _ => [[entry.1]]
  | directory entries => if skip entry.1 then [] else (filesOf skip entries).map (entry.1 :: ·)

theorem filesOf_eq_flatMap (skip : String → Bool) (entries : List (String × FileTree)) :
    filesOf skip entries = entries.flatMap (filesOfEntry skip) := by
  induction entries with
  | nil => rw [filesOf, List.flatMap_nil]
  | cons entry rest ih =>
    obtain ⟨name, _ | _⟩ := entry
    · rw [filesOf, ih]
      rfl
    · rw [filesOf, ih]
      rfl

theorem mem_filesOfEntry_iff {entry : String × FileTree} :
    names ∈ filesOfEntry skip entry ↔
      ((∃ bytes executable, entry.2 = file bytes executable) ∧ names = [entry.1]) ∨
        ∃ entries below, entry.2 = directory entries ∧ skip entry.1 = false ∧
          below ∈ filesOf skip entries ∧ names = entry.1 :: below := by
  obtain ⟨name, _ | entries⟩ := entry
  · simp [filesOfEntry]
  · cases hskip : skip name with
    | false => simp [filesOfEntry, hskip, eq_comm]
    | true => simp [filesOfEntry, hskip]

theorem head?_of_mem_filesOfEntry {entry : String × FileTree}
    (h : names ∈ filesOfEntry skip entry) : names.head? = some entry.1 := by
  obtain ⟨-, rfl⟩ | ⟨entries, below, -, -, -, rfl⟩ := mem_filesOfEntry_iff.1 h
  · rfl
  · rfl

/-! ## The files of a tree -/

/-- The files of a tree stand at the end of their names, the way to them being through directories
that are not skipped. -/
theorem IsNamed.mem_files_iff (h : tree.IsNamed) :
    names ∈ tree.files skip ↔ names ≠ [] ∧
      (∃ bytes executable, tree.at? names = .ok (.file bytes executable)) ∧
      ∀ name ∈ names.dropLast, skip name = false := by
  induction h generalizing names with
  | file bytes executable =>
    cases names with
    | nil => simp [files]
    | cons name names => simp [files, at?]
  | @directory entries hnodup hslash hshort htrees ih =>
    have hnamed : (FileTree.directory entries).IsNamed := .directory hnodup hslash hshort htrees
    rw [files, filesOf_eq_flatMap, List.mem_flatMap]
    constructor
    · rintro ⟨⟨name, tree⟩, hmem, hfiles⟩
      obtain ⟨⟨bytes, executable, rfl⟩, rfl⟩ | ⟨sub, below, rfl, hskip, hbelow, rfl⟩ :=
        mem_filesOfEntry_iff.1 hfiles
      · refine ⟨List.cons_ne_nil _ _, ⟨bytes, executable, ?_⟩, List.forall_mem_nil _⟩
        exact hnamed.at?_cons.2 ⟨_, hmem, rfl⟩
      · obtain ⟨hne, ⟨bytes, executable, hat⟩, hway⟩ := (ih _ hmem).1 hbelow
        refine ⟨List.cons_ne_nil _ _, ⟨bytes, executable, ?_⟩, ?_⟩
        · exact hnamed.at?_cons.2 ⟨_, hmem, hat⟩
        · rw [List.dropLast_cons_of_ne_nil hne]
          exact List.forall_mem_cons.2 ⟨hskip, hway⟩
    · rintro ⟨hne, ⟨bytes, executable, hat⟩, hway⟩
      obtain ⟨name, names, rfl⟩ := List.exists_cons_of_ne_nil hne
      obtain ⟨tree, hmem, hat⟩ := hnamed.at?_cons.1 hat
      refine ⟨(name, tree), hmem, mem_filesOfEntry_iff.2 ?_⟩
      cases tree with
      | file bytes' executable' =>
        cases names with
        | nil => exact .inl ⟨⟨bytes', executable', rfl⟩, rfl⟩
        | cons next names => cases hat
      | directory sub =>
        have hbelow : names ≠ [] := by
          rintro rfl
          cases hat
        rw [List.dropLast_cons_of_ne_nil hbelow, List.forall_mem_cons] at hway
        exact .inr ⟨sub, names, rfl, hway.1,
          (ih _ hmem).2 ⟨hbelow, ⟨bytes, executable, hat⟩, hway.2⟩, rfl⟩

/-- Each file is listed once. -/
theorem IsNamed.nodup_files (h : tree.IsNamed) (skip : String → Bool) :
    (tree.files skip).Nodup := by
  induction h with
  | file bytes executable => exact List.nodup_nil
  | @directory entries hnodup hslash hshort htrees ih =>
    rw [files, filesOf_eq_flatMap, List.nodup_flatMap]
    constructor
    · rintro ⟨name, _ | sub⟩ hmem
      · exact List.nodup_singleton _
      · have hsub : (filesOf skip sub).Nodup := ih _ hmem
        simp only [filesOfEntry]
        split
        · exact List.nodup_nil
        · exact hsub.map List.cons_injective
    · -- the files of different entries begin with different names
      refine (List.pairwise_map.1 hnodup).imp fun hne names hfirst hsecond ↦ hne ?_
      exact Option.some.inj ((head?_of_mem_filesOfEntry hfirst).symm.trans
        (head?_of_mem_filesOfEntry hsecond))

end Scaffold.FileTree
