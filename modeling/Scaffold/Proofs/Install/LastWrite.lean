import Mathlib
import Scaffold.Proofs.Install.Rehearsal

/-!
# What is found in the end

Where several files have been written to one place, the last of them is found there in the end: each
step leaves all files but its own as they are. Without overwriting there is only ever one, because
the place of a file that has been written is not free any more. With overwriting two files of one
installation may be rendered to one place, and then both are reported to have been written.
-/

namespace Scaffold

open FileTree (Stays)

namespace Progress

variable {mode : WriteMode} {p : Progress} {item : RenderedFile} {items : List RenderedFile}
  {start : FileTree}

/-! ## The files that are written -/

/-- A rendered file is written in its turn if its place is free then or may be overwritten. -/
def isWritten (mode : WriteMode) (turn : RenderedFile × FileTree) : Bool :=
  mode.force || isFree turn

/-- The rendered files that are written, in their order. -/
def writes (mode : WriteMode) (p : Progress) (items : List RenderedFile) : List RenderedFile :=
  ((turns mode p items).filter (isWritten mode)).map Prod.fst

theorem writes_cons : writes mode p (item :: items) =
    if isWritten mode (item, p.tree) then item :: writes mode (p.step mode item).1 items
    else writes mode (p.step mode item).1 items := by
  rw [writes, turns, List.filter_cons]
  split <;> rfl

/-- With overwriting all files are written. -/
theorem writes_of_force (hforce : mode.force = true) : writes mode p items = items := by
  have hall : ∀ turn ∈ turns mode p items, isWritten mode turn = true := by
    intro turn _
    rw [isWritten, hforce, Bool.true_or]
  rw [writes, List.filter_eq_self.2 hall, map_fst_turns]

theorem isWritten_eq {there : Bool} (h : p.tree.occupied item.target = .ok there) :
    isWritten mode (item, p.tree) = !(there && !mode.force) := by
  rw [isWritten, isFree, h]
  cases there <;> cases mode.force <;> rfl

/-- A step that comes to its end writes its file and reports it, or does neither. -/
theorem isWritten_cases (hwriting : mode.rehearsal = false) (h : (p.step mode item).2 = .ok ()) :
    (isWritten mode (item, p.tree) = true ∧ Wrote p.tree (p.step mode item).1.tree item ∧
        (p.step mode item).1.written = p.written ++ [item.target] ∧
        (p.step mode item).1.events = p.events ++ [.writing item.target]) ∨
      (isWritten mode (item, p.tree) = false ∧ (p.step mode item).1.tree = p.tree ∧
        (p.step mode item).1.written = p.written ∧
        (p.step mode item).1.events = p.events ++ [.skipped item.target]) := by
  obtain ⟨there, hthere⟩ := exists_occupied_of_step h
  rw [isWritten_eq hthere]
  simp only [step, hthere] at h ⊢
  by_cases hpass : (there && !mode.force) = true
  · rw [if_pos hpass, hpass]
    exact .inr ⟨rfl, rfl, rfl, rfl⟩
  · rw [if_neg hpass, if_neg (Bool.eq_false_iff.1 hwriting)] at h ⊢
    rw [Bool.eq_false_iff.2 hpass]
    split at h
    · next hwrite => exact .inl ⟨rfl, wrote_of_writeItem hwrite, rfl, rfl⟩
    · cases h

/-- The places that are reported are those of the files that are written. -/
theorem written_run_eq (hwriting : mode.rehearsal = false) (h : (p.run mode items).2 = .ok ()) :
    (p.run mode items).1.written = p.written ++ (writes mode p items).map (·.target) := by
  induction items generalizing p with
  | nil => exact (List.append_nil _).symm
  | cons item items ih =>
    rw [run_cons] at h ⊢
    split at h
    · next hstep =>
      rw [ih h, writes_cons]
      rcases isWritten_cases hwriting hstep with ⟨hwritten, -, hreport, -⟩ |
        ⟨hpassed, -, hreport, -⟩
      · rw [hreport, if_pos hwritten, List.append_assoc, List.singleton_append, List.map_cons]
      · rw [hreport, if_neg (Bool.eq_false_iff.1 hpassed)]
    · cases h

/-! ## What becomes of a file that has been written -/

/-- The writing of one file leaves the others as they are. -/
theorem Wrote.look_of_ne {old new : FileTree} (h : Wrote old new item) {names : List String}
    {bytes : ByteArray} {executable : Bool} (hne : names ≠ item.target.parts)
    (hfile : old.look names = .file bytes executable) : new.look names = .file bytes executable := by
  rcases h.other names hne with hsame | ⟨-, hnothing, -⟩
  · rw [hsame, hfile]
  · rw [hfile] at hnothing
    cases hnothing

/-- A file at a place where nothing is written stays as it is. -/
theorem look_run_of_forall_ne (hwriting : mode.rehearsal = false)
    (h : (p.run mode items).2 = .ok ()) {place : Path} {bytes : ByteArray} {executable : Bool}
    (hfile : p.tree.look place.parts = .file bytes executable)
    (hother : ∀ item ∈ writes mode p items, item.target ≠ place) :
    (p.run mode items).1.tree.look place.parts = .file bytes executable := by
  induction items generalizing p with
  | nil => exact hfile
  | cons item items ih =>
    rw [run_cons] at h ⊢
    rw [writes_cons] at hother
    split at h
    · next hstep =>
      rcases isWritten_cases hwriting hstep with ⟨hwritten, hwrote, -⟩ | ⟨hpassed, hsame, -⟩
      · rw [if_pos hwritten, List.forall_mem_cons] at hother
        have hne : place.parts ≠ item.target.parts :=
          fun hparts ↦ hother.1 (congrArg Path.mk hparts).symm
        exact ih h (hwrote.look_of_ne hne hfile) hother.2
      · rw [if_neg (Bool.eq_false_iff.1 hpassed)] at hother
        exact ih h (hsame ▸ hfile) hother
    · cases h

/-- The last file that is written to a place is there in the end. -/
theorem look_run_of_last (hwriting : mode.rehearsal = false) (h : (p.run mode items).2 = .ok ())
    {before after : List RenderedFile} (hsplit : writes mode p items = before ++ item :: after)
    (hlast : ∀ later ∈ after, later.target ≠ item.target) :
    ∃ executable,
      (p.run mode items).1.tree.look item.target.parts = .file item.content.toBytes executable := by
  induction items generalizing p before with
  | nil => cases before <;> cases hsplit
  | cons first items ih =>
    rw [run_cons] at h ⊢
    rw [writes_cons] at hsplit
    split at h
    · next hstep =>
      rcases isWritten_cases hwriting hstep with ⟨hwritten, hwrote, -⟩ | ⟨hpassed, -, -⟩
      · rw [if_pos hwritten] at hsplit
        cases before with
        | nil =>
          obtain ⟨rfl, rfl⟩ := List.cons.inj hsplit
          obtain ⟨executable, hfile⟩ := hwrote.file
          exact ⟨executable, look_run_of_forall_ne hwriting h hfile hlast⟩
        | cons _ before => exact ih h (List.cons.inj hsplit).2
      · rw [if_neg (Bool.eq_false_iff.1 hpassed)] at hsplit
        exact ih h hsplit
    · cases h

/-! ## Distinct places -/

/-- Without overwriting no place is written twice. -/
theorem nodup_written_run (hforce : mode.force = false) (hwriting : mode.rehearsal = false)
    (hcovers : Covers start p) (hstays : Stays start p.tree) (hnodup : p.written.Nodup)
    (h : (p.run mode items).2 = .ok ()) : (p.run mode items).1.written.Nodup := by
  induction items generalizing p with
  | nil => exact hnodup
  | cons item items ih =>
    rw [run_cons] at h ⊢
    split at h
    · next hstep =>
      refine ih (covers_step hforce hwriting hcovers hstep)
        (hstays.trans (stays_step mode p item)) ?_ h
      rcases isWritten_cases hwriting hstep with ⟨hwritten, -, hreport, -⟩ | ⟨-, -, hreport, -⟩
      · -- a free place is none of those that have been written
        have hfree : isFree (item, p.tree) = true := by
          rwa [isWritten, hforce, Bool.false_or] at hwritten
        obtain ⟨-, hapart⟩ := (isFree_iff_of_covers hcovers hstays (isFree_iff.1 hfree)).1 hfree
        rw [hreport, List.nodup_append_comm]
        exact List.nodup_cons.2 ⟨fun hmem ↦ hapart _ hmem List.prefix_rfl, hnodup⟩
      · rwa [hreport]
    · cases h

/-- No place is reported twice just if files are not overwritten, or each goes to a place of its
own. -/
theorem nodup_written_run_iff (hwriting : mode.rehearsal = false) {tree : FileTree}
    (h : ((Progress.start tree).run mode items).2 = .ok ()) :
    ((Progress.start tree).run mode items).1.written.Nodup ↔
      mode.force = false ∨ (items.map (·.target)).Nodup := by
  cases hforce : mode.force with
  | false =>
    have hnodup := nodup_written_run hforce hwriting (covers_start tree) (.refl tree) .nil h
    exact iff_of_true hnodup (.inl rfl)
  | true =>
    rw [written_run_eq hwriting h, writes_of_force hforce, or_iff_right Bool.noConfusion]
    exact Iff.rfl

end Progress

namespace Blueprint

/-! ## Whole installations -/

/-- An installation that comes to its end reports the places of the files that it has written, and at
each of them the last file that was written there is found, as it was rendered. No place is reported
twice just if files are not overwritten or go to different places; then all that has been written is
found. -/
theorem install_last_write (b : Blueprint) (request : InstallRequest) (prompter : Prompter)
    (tree : FileTree) (base : Path) (c : Conversation) (result : InstallResult)
    (hwriting : request.mode.rehearsal = false)
    (h : (b.install request prompter tree base c).outcome = .ok result) :
    ∃ destination selected items,
      destinationOf tree base request.destination = .ok destination ∧
      b.select request.pick = .ok selected ∧
      (b.render tree selected (result.values.lookup ·) destination).outcome = .ok items ∧
      items.map (·.source) = (b.selection selected).map (b.sourceOf ·.1) ∧
      result.written = (Progress.writes request.mode (.start tree) items).map (·.target) ∧
      (∀ before item after,
        Progress.writes request.mode (.start tree) items = before ++ item :: after →
        (∀ later ∈ after, later.target ≠ item.target) →
        ∃ executable, (b.install request prompter tree base c).tree.look item.target.parts =
          .file item.content.toBytes executable) ∧
      (result.written.Nodup ↔ request.mode.force = false ∨ (items.map (·.target)).Nodup) ∧
      (result.written.Nodup → ∀ item ∈ Progress.writes request.mode (.start tree) items,
        ∃ executable, (b.install request prompter tree base c).tree.look item.target.parts =
          .file item.content.toBytes executable) := by
  rcases install_cases b request prompter tree base c with
    ⟨c', e, hfailed⟩ | ⟨values, items, c', hprepares⟩
  · rw [hfailed] at h
    cases h
  · rw [install_of_prepares hprepares] at h ⊢
    obtain ⟨hrun, rfl⟩ := outcome_writeRendered_eq_ok_iff.1 h
    obtain ⟨destination, selected, d, hdestination, hselected, -, hrender, -⟩ := hprepares
    have hwritten := Progress.written_run_eq hwriting hrun
    have hlast : ∀ before item after,
        Progress.writes request.mode (.start tree) items = before ++ item :: after →
        (∀ later ∈ after, later.target ≠ item.target) →
        ∃ executable, (writeRendered request.mode values tree c' items).tree.look
          item.target.parts = .file item.content.toBytes executable :=
      fun _ _ _ ↦ Progress.look_run_of_last hwriting hrun
    refine ⟨destination, selected, items, hdestination, hselected, hrender,
      map_source_of_render hrender, hwritten, hlast,
      Progress.nodup_written_run_iff hwriting hrun, fun hnodup item hitem ↦ ?_⟩
    obtain ⟨before, after, hsplit⟩ := List.append_of_mem hitem
    refine hlast before item after hsplit fun later hlater heq ↦ ?_
    -- a later file with the same place would be reported there again
    rw [hwritten, hsplit, List.map_append, List.map_cons] at hnodup
    have hafter := (List.nodup_cons.1 (List.nodup_append.1 (List.nodup_append.1 hnodup).2.1).2.1).1
    exact hafter (heq ▸ List.mem_map_of_mem hlater)

/-- With overwriting, two files under different names are both found. -/
theorem install_last_write_twins :
    (∃ executable, (twins.install (twinsRequest "one" "two" ⟨true, false⟩) .nobody twinsTree ⟨[]⟩
      (.start [])).tree.look ["out", "one"] = .file "one".toUTF8 executable) ∧
    ∃ executable, (twins.install (twinsRequest "one" "two" ⟨true, false⟩) .nobody twinsTree ⟨[]⟩
      (.start [])).tree.look ["out", "two"] = .file "two".toUTF8 executable := by
  have houtcome : (twins.install (twinsRequest "one" "two" ⟨true, false⟩) .nobody twinsTree ⟨[]⟩
      (.start [])).outcome =
      .ok ⟨twinNames "one" "two", [⟨["out", "one"]⟩, ⟨["out", "two"]⟩], []⟩ := by
    rw [install_twins]
    rfl
  obtain ⟨destination, selected, items, hdestination, hselected, hrender, -, -, -, -, hall⟩ :=
    install_last_write twins (twinsRequest "one" "two" ⟨true, false⟩) .nobody twinsTree ⟨[]⟩
      (.start []) _ rfl houtcome
  cases hdestination
  cases hselected
  have hitems : items = twinsRendered "one" "two" :=
    Except.ok.inj (hrender.symm.trans render_twins)
  have hdistinct : [(⟨["out", "one"]⟩ : Path), ⟨["out", "two"]⟩].Nodup := by decide
  rw [Progress.writes_of_force rfl, hitems] at hall
  obtain ⟨hone, htwo⟩ := List.forall_mem_cons.1 (hall hdistinct)
  exact ⟨hone, htwo _ (List.mem_singleton_self _)⟩

/-- With overwriting, two files under one name are both reported to have been written, but only the
second of them is found. -/
theorem install_overwrite_twins_same :
    (twins.install (twinsRequest "same" "same" ⟨true, false⟩) .nobody twinsTree ⟨[]⟩
        (.start [])).outcome =
      .ok ⟨twinNames "same" "same", [⟨["out", "same"]⟩, ⟨["out", "same"]⟩], []⟩ ∧
    (twins.render twinsTree twins.files ((twinNames "same" "same").lookup ·) ⟨["out"]⟩).outcome =
      .ok (twinsRendered "same" "same") ∧
    (twins.install (twinsRequest "same" "same" ⟨true, false⟩) .nobody twinsTree ⟨[]⟩
        (.start [])).tree.look ["out", "same"] = .file "two".toUTF8 false := by
  refine ⟨?_, rfl, ?_⟩
  · rw [install_twins]
    decide +kernel
  · rw [install_twins]
    decide +kernel

end Blueprint

end Scaffold
