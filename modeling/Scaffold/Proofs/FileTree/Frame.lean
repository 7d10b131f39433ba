import Mathlib
import Scaffold.FileTree.Basic
import Scaffold.Proofs.Bindings

/-!
# What stays in a file tree

Operations on a file tree change it at one place and below. What is kept elsewhere is said place by
place: a file stays as it is, bytes and being executable, and a directory stays a directory, though
there may be more in it. Putting something where nothing is keeps all places; putting a file in the
place of a file keeps all others.
-/

namespace Scaffold.FileTree

variable {tree old new : FileTree} {names path : List String}

/-- What stands at a place of the old tree is kept in the new one. -/
structure KeepsAt (old new : FileTree) (names : List String) : Prop where
  /-- A file stays as it is. -/
  file : ∀ bytes executable, old.at? names = .ok (.file bytes executable) →
    new.at? names = .ok (.file bytes executable)
  /-- A directory stays a directory. -/
  directory : ∀ entries, old.at? names = .ok (.directory entries) →
    ∃ entries', new.at? names = .ok (.directory entries')

/-- All that is in the old tree is kept in the new one. -/
def Keeps (old new : FileTree) : Prop := ∀ names, KeepsAt old new names

theorem KeepsAt.refl (tree : FileTree) (names : List String) : KeepsAt tree tree names :=
  ⟨fun _ _ h ↦ h, fun entries h ↦ ⟨entries, h⟩⟩

theorem KeepsAt.trans {middle : FileTree} (h : KeepsAt old middle names)
    (h' : KeepsAt middle new names) : KeepsAt old new names := by
  refine ⟨fun bytes executable hfile ↦ h'.file _ _ (h.file _ _ hfile), fun entries hentries ↦ ?_⟩
  obtain ⟨entries', hentries'⟩ := h.directory entries hentries
  exact h'.directory entries' hentries'

theorem KeepsAt.of_eq (h : new.at? names = old.at? names) : KeepsAt old new names :=
  ⟨fun _ _ hfile ↦ h.trans hfile, fun entries hentries ↦ ⟨entries, h.trans hentries⟩⟩

theorem KeepsAt.of_error {fault : FileFault} (h : old.at? names = .error fault) :
    KeepsAt old new names :=
  ⟨by simp [h], by simp [h]⟩

theorem Keeps.refl (tree : FileTree) : Keeps tree tree := KeepsAt.refl tree

theorem Keeps.trans {middle : FileTree} (h : Keeps old middle) (h' : Keeps middle new) :
    Keeps old new :=
  fun names ↦ (h names).trans (h' names)

/-! ## Putting -/

/-- An entry of a directory is set as a name is bound. -/
theorem setEntry_eq_bindEntry (name : String) (tree : FileTree)
    (entries : List (String × FileTree)) :
    setEntry name tree entries = bindEntry name tree entries := by
  induction entries with
  | nil => rfl
  | cons entry rest ih =>
    obtain ⟨key, old⟩ := entry
    rw [setEntry, bindEntry, ih]

theorem lookup_setEntry {name other : String} {entries : List (String × FileTree)} :
    (setEntry name tree entries).lookup other =
      if other = name then some tree else entries.lookup other := by
  rw [setEntry_eq_bindEntry, lookup_bindEntry]

/-- There is nothing at the place, or a file. -/
def IsPuttable (tree : FileTree) (path : List String) : Prop :=
  tree.at? path = .error .missing ∨ ∃ bytes executable, tree.at? path = .ok (.file bytes executable)

theorem keepsAt_put {item : FileTree} (h : tree.IsPuttable path) (hne : names ≠ path) :
    KeepsAt tree (put item path tree) names := by
  induction path generalizing tree names with
  | nil =>
    -- the place is a file, below which there is nothing to keep
    cases tree with
    | file bytes executable =>
      cases names with
      | nil => exact absurd rfl hne
      | cons name names => exact .of_error rfl
    | directory entries => simp [IsPuttable, at?] at h
  | cons name path ih =>
    cases tree with
    | file bytes executable => simp [IsPuttable, at?] at h
    | directory entries =>
      rw [put]
      cases names with
      | nil => exact ⟨by simp [at?], fun _ _ ↦ ⟨_, rfl⟩⟩
      | cons other names =>
        by_cases hlong : isTooLong other = true
        · exact .of_error (by rw [at?, if_pos hlong])
        by_cases hother : other = name
        · subst hother
          cases hlookup : entries.lookup other with
          | none => exact .of_error (by rw [at?, if_neg hlong, hlookup])
          | some sub =>
            have hsub : sub.IsPuttable path := by
              rwa [IsPuttable, at?, if_neg hlong, hlookup] at h
            have hkeep := ih hsub (fun heq ↦ hne (heq ▸ rfl))
            refine ⟨fun bytes executable hfile ↦ ?_, fun sub' hdirectory ↦ ?_⟩
            · rw [at?, if_neg hlong, hlookup] at hfile
              rw [at?, if_neg hlong, lookup_setEntry, if_pos rfl]
              exact hkeep.file _ _ hfile
            · rw [at?, if_neg hlong, hlookup] at hdirectory
              rw [at?, if_neg hlong, lookup_setEntry, if_pos rfl]
              exact hkeep.directory _ hdirectory
        -- the way to the other place leads through an entry that stays
        · refine .of_eq ?_
          rw [at?, at?, lookup_setEntry, if_neg hother]

theorem keeps_put_of_missing {item : FileTree} (h : tree.at? path = .error .missing) :
    Keeps tree (put item path tree) := by
  intro names
  by_cases hne : names = path
  · exact .of_error (hne ▸ h)
  · exact keepsAt_put (.inl h) hne

/-! ## Operations -/

theorem keeps_makeDirectories (tree : FileTree) (above names : List String) :
    Keeps tree (tree.makeDirectories above names).1 := by
  fun_induction makeDirectories tree above names with
  | case1 tree above entries hat => exact .refl tree
  | case2 tree above bytes executable hat => exact .refl tree
  | case3 tree above fault hat => exact .refl tree
  | case4 tree above name names hmissing ih => exact (keeps_put_of_missing hmissing).trans ih
  | case5 tree above name names fault hfault hat => exact .refl tree
  | case6 tree above name names found hat ih => exact ih

theorem keepsAt_writeFile {place : Path} {bytes : ByteArray}
    (h : tree.writeFile place bytes = .ok new) (hne : names ≠ place.parts) :
    KeepsAt tree new names := by
  unfold writeFile at h
  split at h
  · cases h
  · next old executable hfile =>
    cases h
    exact keepsAt_put (.inr ⟨old, executable, hfile⟩) hne
  · next hmissing =>
    split at h
    · cases h
      exact keepsAt_put (.inl hmissing) hne
    · cases h
    · cases h
  · cases h

theorem keepsAt_setExecutable {place : Path} {executable : Bool} (hne : names ≠ place.parts) :
    KeepsAt tree (tree.setExecutable place executable) names := by
  unfold setExecutable
  split
  · next bytes old hfile => exact keepsAt_put (.inr ⟨bytes, old, hfile⟩) hne
  · exact .refl tree names

theorem exists_fault_of_occupied {place : Path} (h : tree.occupied place = .ok false) :
    ∃ fault, tree.at? place.parts = .error fault := by
  unfold occupied at h
  split at h
  · cases h
  · cases h
  · next fault _ hfind => exact ⟨fault, hfind⟩

end Scaffold.FileTree
