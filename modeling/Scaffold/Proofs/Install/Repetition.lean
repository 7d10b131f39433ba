import Mathlib
import Scaffold.Proofs.Install.Inside
import Scaffold.Proofs.Resolution.Silence

/-!
# Installing once more

An installation that has come to its end without overwriting can be done once more, and then does
nothing. The values of the variables are the same, because with nobody to ask they depend neither on
the tree nor on the conversation. The sources have been kept, even if they are in the destination,
so the same files are rendered. At the place of each of them there is something by now: it has been
written, or something was there before. So all of them are left alone.

The destination has to be a directory before. Otherwise the first installation may have made a file
of it, in which nothing can be installed any more.
-/

namespace Scaffold

open FileTree (Keeps)

namespace Progress

variable {mode : WriteMode} {p : Progress} {item : RenderedFile} {items : List RenderedFile}

/-! ## Places that are taken -/

/-- The progress after rendered files have been left alone. -/
def passed (p : Progress) (items : List RenderedFile) : Progress :=
  { p with
    skipped := p.skipped ++ items.map (·.target)
    events := p.events ++ items.map (.skipped ·.target) }

theorem passed_passed (p : Progress) (items more : List RenderedFile) :
    (p.passed items).passed more = p.passed (items ++ more) := by
  simp only [passed, List.map_append, List.append_assoc]

/-- A file is left alone if there is something at its place. -/
theorem step_of_occupied (hforce : mode.force = false)
    (h : p.tree.occupied item.target = .ok true) :
    p.step mode item = (p.passed [item], .ok ()) := by
  simp only [step, h, hforce, Bool.not_false, Bool.and_true, if_true]
  rfl

/-- If there is something at all of the places, all files are left alone. -/
theorem run_of_forall_occupied (hforce : mode.force = false)
    (h : ∀ item ∈ items, p.tree.occupied item.target = .ok true) :
    p.run mode items = (p.passed items, .ok ()) := by
  induction items generalizing p with
  | nil => simp only [run, passed, List.map_nil, List.append_nil]
  | cons item items ih =>
    obtain ⟨hitem, hitems⟩ := List.forall_mem_cons.1 h
    have hrest : (p.passed [item]).run mode items = ((p.passed [item]).passed items, .ok ()) :=
      ih hitems
    rw [run, step_of_occupied hforce hitem]
    simp only
    rw [hrest, passed_passed, List.singleton_append]

/-- After the writing there is something at all of the places. -/
theorem occupied_of_run (hwriting : mode.rehearsal = false) (h : (p.run mode items).2 = .ok ()) :
    ∀ item ∈ items, (p.run mode items).1.tree.occupied item.target = .ok true :=
  fun item hitem ↦ FileTree.occupied_eq_true_iff.2 (look_run_ne_nothing hwriting h item hitem)

end Progress

namespace Blueprint

variable {b : Blueprint} {request : InstallRequest} {old new tree : FileTree}
  {base destination place : Path} {values : String → Option String} {items : List RenderedFile}

/-! ## Preparing once more -/

theorem destinationOf_of_hasDirectory (hplace : Path.resolve base request.destination = .ok place)
    (h : tree.hasDirectory place = true) :
    destinationOf tree base request.destination = .ok place := by
  unfold FileTree.hasDirectory at h
  unfold destinationOf
  rw [hplace]
  split at h
  · next hfind => simp only [hfind]
  · cases h

theorem hasDirectory_of_keeps (h : Keeps old new) (hold : old.hasDirectory place = true) :
    new.hasDirectory place = true := by
  unfold FileTree.hasDirectory at hold
  split at hold
  · next entries hfind =>
    obtain ⟨entries', hfind'⟩ := (h place.parts).directory entries hfind
    rw [FileTree.hasDirectory, FileTree.find?, hfind']
  · cases hold

/-- What has been rendered is rendered in the same way from a tree that has kept the sources. -/
theorem renderFile_of_keeps {nameWrapper : Wrapper} {file : String} {names : List String}
    {item : RenderedFile} (h : Keeps old new)
    (hold : (b.renderFile old values destination nameWrapper file names).outcome = .ok item) :
    (b.renderFile new values destination nameWrapper file names).outcome = .ok item := by
  obtain ⟨name, place, bytes, executable, content, hname, hplace, hread, hcontent, hitem⟩ :=
    outcome_renderFile_eq_ok_iff.1 hold
  refine outcome_renderFile_eq_ok_iff.2
    ⟨name, place, bytes, executable, content, hname, hplace, ?_, hcontent, hitem⟩
  rw [FileTree.readFile_eq_ok_iff, FileTree.look_eq_file_iff] at hread ⊢
  exact (h _).file bytes executable hread

theorem renderAll_of_keeps {nameWrapper : Wrapper} {selection : List (String × List String)}
    (h : Keeps old new)
    (hold : (b.renderAll old values destination nameWrapper selection).outcome = .ok items) :
    (b.renderAll new values destination nameWrapper selection).outcome = .ok items := by
  induction selection generalizing items with
  | nil => exact hold
  | cons file selection ih =>
    obtain ⟨item, hitem, hold⟩ := Traced.outcome_bind_eq_ok_iff.1 hold
    obtain ⟨rest, hrest, hold⟩ := Traced.outcome_bind_eq_ok_iff.1 hold
    exact Traced.outcome_bind_eq_ok_iff.2 ⟨item, renderFile_of_keeps h hitem,
      Traced.outcome_bind_eq_ok_iff.2 ⟨rest, ih hrest, hold⟩⟩

theorem render_of_keeps {selected : List String} (h : Keeps old new)
    (hold : (b.render old selected values destination).outcome = .ok items) :
    (b.render new selected values destination).outcome = .ok items := by
  unfold render at hold ⊢
  split
  · next hwrapper =>
    rw [hwrapper] at hold
    cases hold
  · next nameWrapper hwrapper =>
    rw [hwrapper] at hold
    exact renderAll_of_keeps h hold

/-! ## Whole installations -/

/-- An installation into a directory that has come to its end without overwriting, with nobody to
ask, comes to the same values when it is done once more, writes nothing, leaves all selected files
alone, and leaves the tree as it is. -/
theorem install_again (b : Blueprint) (request : InstallRequest) (tree : FileTree)
    (base place : Path) (c c' : Conversation) (result : InstallResult)
    (hforce : request.mode.force = false) (hwriting : request.mode.rehearsal = false)
    (hplace : Path.resolve base request.destination = .ok place)
    (hdirectory : tree.hasDirectory place = true)
    (h : (b.install request .nobody tree base c).outcome = .ok result) :
    ∃ selected items, b.select request.pick = .ok selected ∧
      (b.render tree selected (result.values.lookup ·) place).outcome = .ok items ∧
      items.map (·.source) = (b.selection selected).map (b.sourceOf ·.1) ∧
      (b.install request .nobody (b.install request .nobody tree base c).tree base c').outcome =
        .ok ⟨result.values, [], items.map (·.target)⟩ ∧
      (b.install request .nobody (b.install request .nobody tree base c).tree base c').tree =
        (b.install request .nobody tree base c).tree := by
  have hkeeps : Keeps tree (b.install request .nobody tree base c).tree := keeps_install hforce
  rcases install_cases b request .nobody tree base c with
    ⟨c', e, hfailed⟩ | ⟨values, items, d, hprepares⟩
  · rw [hfailed] at h
    cases h
  · have hinstall := install_of_prepares hprepares
    obtain ⟨destination, selected, e, hdestination, hselected, hresolve, hrender, -⟩ := hprepares
    rw [destinationOf_of_hasDirectory hplace hdirectory] at hdestination
    cases hdestination
    rw [hinstall] at h hkeeps ⊢
    rw [tree_writeRendered] at hkeeps ⊢
    obtain ⟨hrun, rfl⟩ := outcome_writeRendered_eq_ok_iff.1 h
    -- the second installation is prepared from what the first has kept
    obtain ⟨e', hresolve'⟩ := Resolution.isSilent_resolve.exists_yields hresolve c'
    have hprepares : b.Prepares request .nobody
        ((Progress.start tree).run request.mode items).1.tree base c' values items _ :=
      ⟨place, selected, e',
        destinationOf_of_hasDirectory hplace (hasDirectory_of_keeps hkeeps hdirectory), hselected,
        hresolve', render_of_keeps hkeeps hrender, rfl⟩
    -- and it comes to places all of which are taken
    have hpassed := Progress.run_of_forall_occupied
      (p := .start ((Progress.start tree).run request.mode items).1.tree) hforce
      (Progress.occupied_of_run hwriting hrun)
    refine ⟨selected, items, hselected, hrender, map_source_of_render hrender, ?_, ?_⟩
    · rw [install_of_prepares hprepares, outcome_writeRendered_eq_ok_iff, hpassed]
      exact ⟨rfl, rfl⟩
    · rw [install_of_prepares hprepares, tree_writeRendered, hpassed]
      rfl

/-- The second letter has been sent by now, and both are left alone. -/
theorem install_again_letters :
    (letters.install ⟨"sent", fun _ ↦ none, none, ⟨false, false⟩⟩ .nobody
        (letters.install ⟨"sent", fun _ ↦ none, none, ⟨false, false⟩⟩ .nobody lettersTree ⟨[]⟩
          (.start [])).tree ⟨[]⟩ (.start [])).outcome =
      .ok ⟨[], [], [⟨["sent", "one"]⟩, ⟨["sent", "two"]⟩]⟩ := by
  obtain ⟨selected, items, hselected, hrender, -, hagain, -⟩ :=
    install_again letters ⟨"sent", fun _ ↦ none, none, ⟨false, false⟩⟩ lettersTree ⟨[]⟩ ⟨["sent"]⟩
      (.start []) (.start []) _ rfl rfl rfl rfl install_letters
  cases hselected
  have hitems : items.map (·.target) = [⟨["sent", "one"]⟩, ⟨["sent", "two"]⟩] :=
    congrArg (List.map (·.target)) (Except.ok.inj hrender).symm
  rw [hagain, hitems]

end Blueprint

end Scaffold
