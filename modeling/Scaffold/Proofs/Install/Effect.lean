import Mathlib
import Scaffold.Proofs.FileTree.Sight
import Scaffold.Proofs.Install.Frame

/-!
# What writing changes

A rendered file is written in two parts: the directories on the way to it are made, then the file is
set in its place. Each place is thus seen as it was before, but for the directories that were not
there and for the target itself. This is said once for one file and carried over to all of them, of
which each finds the tree as the ones before have left it: what is there stays what it is, and what
is seen at a place changes only if the place is a target or a new directory on the way to one.
-/

namespace Scaffold.Progress

open FileTree

variable {mode : WriteMode} {p : Progress} {item : RenderedFile} {items : List RenderedFile}
  {tree : FileTree}

/-! ## One file -/

/-- The tree is as it was before but for directories on the way to the target, and for a file at the
target. -/
structure Wrote (old new : FileTree) (item : RenderedFile) : Prop where
  /-- The target was no directory. -/
  target : old.look item.target.parts ≠ .directory
  /-- There is a file at the target, with the content that has been rendered. -/
  file : ∃ executable, new.look item.target.parts = .file item.content.toBytes executable
  /-- All that is new elsewhere is directories on the way to the target. -/
  other : ∀ names, names ≠ item.target.parts → new.look names = old.look names ∨
    (names <+: item.target.parts ∧ old.look names = .nothing ∧ new.look names = .directory)

theorem Wrote.stays {old new : FileTree} (h : Wrote old new item) : Stays old new := by
  intro names
  by_cases hne : names = item.target.parts
  · subst hne
    obtain ⟨executable, hfile⟩ := h.file
    rw [hfile]
    cases hold : old.look item.target.parts with
    | nothing => exact .nothing _
    | directory => exact absurd hold h.target
    | file bytes executable' => exact .file _ _ _ _
  · rcases h.other names hne with hsame | ⟨-, hnothing, -⟩
    · rw [hsame]
      exact .refl _
    · rw [hnothing]
      exact .nothing _

/-- What there is to see after a file has been written: what there was before, the file, and the
directories above it. -/
theorem Wrote.look_ne_nothing_iff {old new : FileTree} (h : Wrote old new item)
    {names : List String} :
    new.look names ≠ .nothing ↔ old.look names ≠ .nothing ∨ names <+: item.target.parts := by
  constructor
  · intro hnew
    by_cases hne : names = item.target.parts
    · exact .inr (hne ▸ List.prefix_rfl)
    · rcases h.other names hne with hsame | ⟨hway, -, -⟩
      · exact .inl (hsame ▸ hnew)
      · exact .inr hway
  · rintro (hold | hway)
    · exact (h.stays names).ne_nothing hold
    · obtain ⟨executable, hfile⟩ := h.file
      refine look_ne_nothing_of_prefix ?_ hway
      rw [hfile]
      exact Sight.noConfusion

/-- The directories on the way to the target are made. -/
theorem made_parent (tree : FileTree) (item : RenderedFile) :
    Made tree (tree.makeDirectories [] item.target.parent.parts).1 item.target.parent.parts := by
  have htop : tree.look [] ≠ .nothing := by
    rw [look_nil]
    exact tree.top_ne_nothing
  exact made_makeDirectories htop

/-- The file is set after the directories on the way to it have been made. -/
theorem wrote_of_made {old made new : FileTree} (hmade : Made old made item.target.parent.parts)
    (htarget : made.look item.target.parts ≠ .directory)
    (hlook : ∃ executable, ∀ names, new.look names = if names = item.target.parts
      then .file item.content.toBytes executable else made.look names) :
    Wrote old new item := by
  obtain ⟨executable, hlook⟩ := hlook
  refine ⟨?_, ⟨executable, ?_⟩, ?_⟩
  · intro hold
    have hstays := hmade.stays item.target.parts
    rw [hold] at hstays
    generalize made.look item.target.parts = s at hstays htarget
    cases hstays
    exact htarget rfl
  · rw [hlook, if_pos rfl]
  · intro names hne
    rw [hlook, if_neg hne]
    exact hmade.mono (List.dropLast_prefix _) names

/-- What becomes of writing a file: it is not written and only directories have been made, or it is
written. In the second case nothing can fail but reading the source afterwards. -/
theorem writeItem_cases (tree : FileTree) (item : RenderedFile) :
    (∃ fault, (writeItem tree item).2 = .error fault ∧
        Made tree (writeItem tree item).1 item.target.parent.parts) ∨
      (Wrote tree (writeItem tree item).1 item ∧
        ∀ fault, (writeItem tree item).2 = .error fault →
          (writeItem tree item).1.readFile item.source = .error fault) := by
  have hmade := made_parent tree item
  unfold writeItem
  split
  · next made fault hresult =>
    rw [hresult] at hmade
    exact .inl ⟨fault, rfl, hmade⟩
  · next made hresult =>
    rw [hresult] at hmade
    split
    · next fault hwrite => exact .inl ⟨fault, rfl, hmade⟩
    · next written hwrite =>
      obtain ⟨htarget, hlook⟩ := look_writeFile hwrite
      split
      · next fault hread =>
        refine .inr ⟨wrote_of_made hmade htarget hlook, ?_⟩
        intro fault' hfault
        cases hfault
        exact hread
      · next bytes executable' hread =>
        obtain ⟨executable, hlook⟩ := hlook
        have hfile : written.look item.target.parts = .file item.content.toBytes executable := by
          rw [hlook, if_pos rfl]
        refine .inr ⟨wrote_of_made hmade htarget ⟨executable', ?_⟩, ?_⟩
        · intro names
          rw [look_setExecutable hfile executable']
          split
          · rfl
          · next hne => rw [hlook, if_neg hne]
        · intro fault hfault
          cases hfault

theorem stays_writeItem (tree : FileTree) (item : RenderedFile) :
    Stays tree (writeItem tree item).1 := by
  rcases writeItem_cases tree item with ⟨_, -, hmade⟩ | ⟨hwrote, -⟩
  · exact hmade.stays
  · exact hwrote.stays

theorem wrote_of_writeItem {new : FileTree} (h : writeItem tree item = (new, .ok ())) :
    Wrote tree new item := by
  rcases writeItem_cases tree item with ⟨fault, hfault, -⟩ | ⟨hwrote, -⟩
  · rw [h] at hfault
    cases hfault
  · rwa [h] at hwrote

/-- A place that is seen to change has changed for the sake of a file: it is the target, or a new
directory on the way to the target. -/
def IsChange (old new : FileTree) (names : List String) (item : RenderedFile) : Prop :=
  names = item.target.parts ∨
    (names <+: item.target.parts ∧ old.look names = .nothing ∧ new.look names = .directory)

theorem isChange_of_writeItem {names : List String}
    (h : (writeItem tree item).1.look names ≠ tree.look names) :
    IsChange tree (writeItem tree item).1 names item := by
  rcases writeItem_cases tree item with ⟨_, -, hmade⟩ | ⟨hwrote, -⟩
  · exact .inr ((hmade.mono (List.dropLast_prefix _) names).resolve_left h)
  · by_cases hne : names = item.target.parts
    · exact .inl hne
    · exact .inr ((hwrote.other names hne).resolve_left h)

/-! ## One step -/

/-- A step leaves the tree as it is, or is the writing of its file. -/
theorem tree_step (mode : WriteMode) (p : Progress) (item : RenderedFile) :
    (p.step mode item).1.tree = p.tree ∨
      (mode.rehearsal = false ∧ (p.step mode item).1.tree = (writeItem p.tree item).1) := by
  unfold step
  split
  · exact .inl rfl
  · split
    · exact .inl rfl
    · split
      · exact .inl rfl
      · next hrehearsal =>
        refine .inr ⟨Bool.eq_false_iff.2 hrehearsal, ?_⟩
        split
        · next hwrite => rw [hwrite]
        · next hwrite => rw [hwrite]

theorem tree_step_of_rehearsal (hrehearsal : mode.rehearsal = true) :
    (p.step mode item).1.tree = p.tree := by
  rcases tree_step mode p item with hsame | ⟨hwriting, -⟩
  · exact hsame
  · rw [hrehearsal] at hwriting
    cases hwriting

theorem stays_step (mode : WriteMode) (p : Progress) (item : RenderedFile) :
    Stays p.tree (p.step mode item).1.tree := by
  rcases tree_step mode p item with hsame | ⟨-, hwrite⟩
  · rw [hsame]
    exact .refl _
  · rw [hwrite]
    exact stays_writeItem _ _

theorem isChange_of_step {names : List String}
    (h : (p.step mode item).1.tree.look names ≠ p.tree.look names) :
    IsChange p.tree (p.step mode item).1.tree names item := by
  rcases tree_step mode p item with hsame | ⟨-, hwrite⟩
  · rw [hsame] at h
    exact absurd rfl h
  · rw [hwrite] at h ⊢
    exact isChange_of_writeItem h

/-! ## All files -/

/-- The next file is written and the others after it, unless it cannot be written. -/
theorem run_cons (mode : WriteMode) (p : Progress) (item : RenderedFile)
    (items : List RenderedFile) :
    p.run mode (item :: items) =
      match (p.step mode item).2 with
      | .ok () => (p.step mode item).1.run mode items
      | .error fault => ((p.step mode item).1, .error fault) := by
  rw [run]
  rcases p.step mode item with ⟨q, fault | _⟩ <;> rfl

/-- However the writing ends, what was there before has stayed. -/
theorem stays_run (mode : WriteMode) (p : Progress) (items : List RenderedFile) :
    Stays p.tree (p.run mode items).1.tree := by
  induction items generalizing p with
  | nil => exact .refl _
  | cons item items ih =>
    rw [run_cons]
    split
    · exact (stays_step mode p item).trans (ih _)
    · exact stays_step mode p item

/-- What the later files change, all of them together do, since what was there before has stayed. -/
theorem IsChange.of_stays {old middle new : FileTree} {names : List String}
    (hstays : Stays old middle) (h : IsChange middle new names item) :
    IsChange old new names item := by
  rcases h with htarget | ⟨hway, hnothing, hdirectory⟩
  · exact .inl htarget
  · refine .inr ⟨hway, ?_, hdirectory⟩
    by_contra hold
    exact (hstays names).ne_nothing hold hnothing

/-- What one file changes is changed in the end if the later files leave it as it is. -/
theorem IsChange.of_look_eq {old middle new : FileTree} {names : List String}
    (hsame : new.look names = middle.look names) (h : IsChange old middle names item) :
    IsChange old new names item := by
  rcases h with htarget | ⟨hway, hnothing, hdirectory⟩
  · exact .inl htarget
  · exact .inr ⟨hway, hnothing, hsame.trans hdirectory⟩

/-- Whatever is seen to change has changed for the sake of one of the files. -/
theorem isChange_of_run {names : List String}
    (h : (p.run mode items).1.tree.look names ≠ p.tree.look names) :
    ∃ item ∈ items, IsChange p.tree (p.run mode items).1.tree names item := by
  -- each step accounts for what it changes itself
  induction items generalizing p with
  | nil => exact absurd rfl h
  | cons item items ih =>
    rw [run_cons] at h ⊢
    have hstays := stays_step mode p item
    split at h
    · by_cases hlater : ((p.step mode item).1.run mode items).1.tree.look names =
          (p.step mode item).1.tree.look names
      · -- it was the first file, since the others have left the place as it was
        rw [hlater] at h
        exact ⟨item, List.mem_cons_self, (isChange_of_step h).of_look_eq hlater⟩
      · obtain ⟨later, hmem, hchange⟩ := ih hlater
        exact ⟨later, List.mem_cons_of_mem _ hmem, hchange.of_stays hstays⟩
    · exact ⟨item, List.mem_cons_self, isChange_of_step h⟩

/-- Each file finds what was there at the beginning. -/
theorem stays_of_mem_turns {turn : RenderedFile × FileTree} (h : turn ∈ turns mode p items) :
    Stays p.tree turn.2 := by
  induction items generalizing p with
  | nil => cases h
  | cons item items ih =>
    rcases List.mem_cons.1 h with rfl | h
    · exact .refl _
    · exact (stays_step mode p item).trans (ih h)

/-- In a rehearsal each file finds the tree as it was at the beginning. -/
theorem turns_of_rehearsal (hrehearsal : mode.rehearsal = true) :
    turns mode p items = items.map (·, p.tree) := by
  induction items generalizing p with
  | nil => rfl
  | cons item items ih =>
    have htree : (p.step mode item).1.tree = p.tree := tree_step_of_rehearsal hrehearsal
    rw [turns, ih, htree, List.map_cons]

theorem tree_run_of_rehearsal (hrehearsal : mode.rehearsal = true) :
    (p.run mode items).1.tree = p.tree := by
  induction items generalizing p with
  | nil => rfl
  | cons item items ih =>
    have htree : (p.step mode item).1.tree = p.tree := tree_step_of_rehearsal hrehearsal
    rw [run_cons]
    split
    · rw [ih, htree]
    · exact htree

end Scaffold.Progress
