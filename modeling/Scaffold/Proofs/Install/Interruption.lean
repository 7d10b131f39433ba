import Mathlib
import Scaffold.Proofs.Install.Confinement
import Scaffold.Proofs.Install.LastWrite

/-!
# What an interrupted installation leaves behind

When the file system refuses, the writing stops at the file whose turn it is. The files before it
have been written or left alone, as in an installation that comes to its end, and those after it have
no turn. Of the file itself nothing is there but directories on the way to its place.

What has been written by then is reported if the file could not be written. It is not if it could not
even be asked whether there is something at its place, as at a place with a name that is too long.
-/

namespace Scaffold

open FileTree (Made Stays)

namespace Progress

variable {mode : WriteMode} {p : Progress} {item : RenderedFile} {items : List RenderedFile}
  {tree : FileTree} {fault : FileFault}

/-! ## Where the writing stops -/

/-- Writing that fails does so at one of the files, after those before it have had their turn. -/
theorem exists_step_of_run (h : (p.run mode items).2 = .error fault) :
    ∃ before item after, items = before ++ item :: after ∧ (p.run mode before).2 = .ok () ∧
      (p.run mode before).1.step mode item = ((p.run mode items).1, .error fault) := by
  induction items generalizing p with
  | nil => cases h
  | cons first items ih =>
    rw [run_cons] at h ⊢
    split at h
    · next hstep =>
      obtain ⟨before, item, after, rfl, hbefore, hitem⟩ := ih h
      refine ⟨first :: before, item, after, rfl, ?_⟩
      rw [run_cons, hstep]
      exact ⟨hbefore, hitem⟩
    · next fault' hstep =>
      cases h
      exact ⟨[], first, items, rfl, rfl, Prod.ext rfl hstep⟩

/-- A step fails because it cannot be asked whether there is something at the place, or because the
file cannot be written. Only the second is reported. -/
theorem step_eq_error_cases (hwriting : mode.rehearsal = false)
    (h : (p.step mode item).2 = .error fault) :
    (p.tree.occupied item.target = .error fault ∧ (p.step mode item).1 = p) ∨
      ((∃ there, p.tree.occupied item.target = .ok there) ∧
        (writeItem p.tree item).2 = .error fault ∧
        (p.step mode item).1 = { p with
          tree := (writeItem p.tree item).1
          events := p.events ++ [.writing item.target, .writeFailed item.target p.written] }) := by
  unfold step at h ⊢
  split at h
  · next fault' hoccupied =>
    cases h
    exact .inl ⟨hoccupied, rfl⟩
  · next there hoccupied =>
    split at h
    · cases h
    · next hpass =>
      rw [if_neg (Bool.eq_false_iff.1 hwriting)] at h
      rw [if_neg hpass, if_neg (Bool.eq_false_iff.1 hwriting)]
      split at h
      · cases h
      · next new fault' hwrite =>
        cases h
        rw [hwrite]
        exact .inr ⟨⟨there, hoccupied⟩, rfl, rfl⟩

/-! ## What has been reported by then -/

/-- What is reported of a file that has had its turn. -/
def report (mode : WriteMode) (turn : RenderedFile × FileTree) : Event :=
  if isWritten mode turn then .writing turn.1.target else .skipped turn.1.target

/-- It is no error that a file has been written or left alone. -/
theorem level?_report (mode : WriteMode) (turn : RenderedFile × FileTree) :
    (report mode turn).level? ≠ some .error := by
  rw [report]
  split
  · exact nofun
  · exact nofun

theorem events_step (hwriting : mode.rehearsal = false) (h : (p.step mode item).2 = .ok ()) :
    (p.step mode item).1.events = p.events ++ [report mode (item, p.tree)] := by
  rw [report]
  rcases isWritten_cases hwriting h with ⟨hwritten, -, -, hevents⟩ | ⟨hpassed, -, -, hevents⟩
  · rw [hevents, if_pos hwritten]
  · rw [hevents, if_neg (Bool.eq_false_iff.1 hpassed)]

theorem events_run (hwriting : mode.rehearsal = false) (h : (p.run mode items).2 = .ok ()) :
    (p.run mode items).1.events = p.events ++ (turns mode p items).map (report mode) := by
  induction items generalizing p with
  | nil => exact (List.append_nil _).symm
  | cons item items ih =>
    rw [run_cons] at h ⊢
    split at h
    · next hstep =>
      rw [ih h, events_step hwriting hstep, List.append_assoc]
      rfl
    · cases h

/-! ## What is there by then -/

/-- When all files have had their turn, whatever is seen to change has changed for the sake of a file
that has been written. -/
theorem exists_mem_writes_of_run (hwriting : mode.rehearsal = false)
    (h : (p.run mode items).2 = .ok ()) {names : List String}
    (hne : (p.run mode items).1.tree.look names ≠ p.tree.look names) :
    ∃ item ∈ writes mode p items,
      IsChange p.tree (p.run mode items).1.tree names item := by
  induction items generalizing p with
  | nil => exact absurd rfl hne
  | cons item items ih =>
    rw [run_cons] at h hne ⊢
    rw [writes_cons]
    split at h
    · next hstep =>
      rw [hstep] at hne
      simp only at hne ⊢
      rcases isWritten_cases hwriting hstep with ⟨hwritten, -, -⟩ | ⟨hpassed, hsame, -⟩
      · rw [if_pos hwritten]
        by_cases hlater : ((p.step mode item).1.run mode items).1.tree.look names =
            (p.step mode item).1.tree.look names
        · -- it was this file, since the others have left the place as it was
          rw [hlater] at hne
          exact ⟨item, List.mem_cons_self, (isChange_of_step hne).of_look_eq hlater⟩
        · obtain ⟨later, hmem, hchange⟩ := ih h hlater
          exact ⟨later, List.mem_cons_of_mem _ hmem,
            hchange.of_stays (stays_step mode p item)⟩
      · rw [if_neg (Bool.eq_false_iff.1 hpassed)]
        rw [← hsame] at hne ⊢
        exact ih h hne
    · cases h

/-- A file that cannot be written leaves nothing but directories on the way to its place. Its source
has been read before, so that nothing fails once the file is there. -/
theorem made_writeItem_of_error
    (hsource : ∃ content, tree.readFile item.source = .ok content)
    (h : (writeItem tree item).2 = .error fault) :
    Made tree (writeItem tree item).1 item.target.parent.parts := by
  rcases writeItem_cases tree item with ⟨_, -, hmade⟩ | ⟨-, hread⟩
  · exact hmade
  · obtain ⟨content, hcontent⟩ := Blueprint.readFile_of_stays (stays_writeItem tree item) hsource
    rw [hread fault h] at hcontent
    cases hcontent

/-! ## Interruption -/

/-- The writing has been interrupted at one file, after those before it have had their turn. It has
reported this and has left the tree so. -/
structure Interrupted (mode : WriteMode) (tree new : FileTree) (before : List RenderedFile)
    (item : RenderedFile) (fault : FileFault) (events : List Event) : Prop where
  /-- The files before have been written or left alone. -/
  begun : ((Progress.start tree).run mode before).2 = .ok ()
  /-- Either it cannot be asked whether there is something at the place of the file, and this is not
  reported, or the file cannot be written, which is reported with all that has been written. -/
  refused :
    (((Progress.start tree).run mode before).1.tree.occupied item.target = .error fault ∧
      new = ((Progress.start tree).run mode before).1.tree ∧
      events = (turns mode (.start tree) before).map (report mode)) ∨
    ((∃ there, ((Progress.start tree).run mode before).1.tree.occupied item.target = .ok there) ∧
      writeItem ((Progress.start tree).run mode before).1.tree item = (new, .error fault) ∧
      events = (turns mode (.start tree) before).map (report mode) ++ [.writing item.target,
        .writeFailed item.target ((writes mode (.start tree) before).map (·.target))])
  /-- Of the files that have been written, the last at each place is there. -/
  last : ∀ first file later, writes mode (.start tree) before = first ++ file :: later →
    (∀ other ∈ later, other.target ≠ file.target) →
    ∃ executable, new.look file.target.parts = .file file.content.toBytes executable
  /-- All else that has changed is new directories, on the way to one of these files or to the one
  that could not be written. -/
  changed : ∀ names, new.look names ≠ tree.look names →
    (∃ file ∈ writes mode (.start tree) before, IsChange tree new names file) ∨
      (names <+: item.target.parent.parts ∧ tree.look names = .nothing ∧
        new.look names = .directory)

theorem made_step_of_error (hwriting : mode.rehearsal = false)
    (hsource : ∃ content, p.tree.readFile item.source = .ok content)
    (h : (p.step mode item).2 = .error fault) :
    Made p.tree (p.step mode item).1.tree item.target.parent.parts := by
  rcases step_eq_error_cases hwriting h with ⟨-, hsame⟩ | ⟨-, hwrite, htree⟩
  · rw [hsame]
    exact .refl _ _
  · rw [htree]
    exact made_writeItem_of_error hsource hwrite

/-- When one of the files fails after others have had their turn, the writing is interrupted there. -/
theorem interrupted_of_step (hwriting : mode.rehearsal = false)
    (hsource : ∃ content, tree.readFile item.source = .ok content)
    (hbefore : ((Progress.start tree).run mode items).2 = .ok ())
    (h : (((Progress.start tree).run mode items).1.step mode item).2 = .error fault) :
    Interrupted mode tree (((Progress.start tree).run mode items).1.step mode item).1.tree items item
      fault (((Progress.start tree).run mode items).1.step mode item).1.events := by
  have hstays : Stays tree ((Progress.start tree).run mode items).1.tree := stays_run mode (.start tree) items
  have hmade := made_step_of_error hwriting (Blueprint.readFile_of_stays hstays hsource) h
  refine ⟨hbefore, ?refused, ?last, ?changed⟩
  case refused =>
    have hevents : ((Progress.start tree).run mode items).1.events =
        (turns mode (.start tree) items).map (report mode) := events_run hwriting hbefore
    have hwritten : ((Progress.start tree).run mode items).1.written =
        (writes mode (.start tree) items).map (·.target) := written_run_eq hwriting hbefore
    rw [← hevents, ← hwritten]
    rcases step_eq_error_cases hwriting h with ⟨hoccupied, hsame⟩ | ⟨hoccupied, hwrite, hreport⟩
    · exact .inl ⟨hoccupied, congrArg Progress.tree hsame, congrArg events hsame⟩
    · have htree := congrArg Progress.tree hreport
      exact .inr ⟨hoccupied, Prod.ext htree.symm hwrite, congrArg events hreport⟩
  case last =>
    intro first file later hsplit hlast
    obtain ⟨executable, hfile⟩ := look_run_of_last hwriting hbefore hsplit hlast
    exact ⟨executable, hmade.look_eq_file hfile⟩
  case changed =>
    intro names hne
    by_cases hsame : (((Progress.start tree).run mode items).1.step mode item).1.tree.look names =
        ((Progress.start tree).run mode items).1.tree.look names
    · -- the files before have changed it
      rw [hsame] at hne
      obtain ⟨file, hmem, hchange⟩ := exists_mem_writes_of_run hwriting hbefore hne
      exact .inl ⟨file, hmem, IsChange.of_look_eq hsame hchange⟩
    · obtain ⟨hway, hnothing, hdirectory⟩ := (hmade names).resolve_left hsame
      refine .inr ⟨hway, ?_, hdirectory⟩
      by_contra hold
      exact (hstays names).ne_nothing hold hnothing

/-- Writing that fails is interrupted at one of the files. -/
theorem exists_interrupted_of_run (hwriting : mode.rehearsal = false)
    (hsources : ∀ item ∈ items, ∃ content, tree.readFile item.source = .ok content)
    (h : ((Progress.start tree).run mode items).2 = .error fault) :
    ∃ before item after, items = before ++ item :: after ∧
      Interrupted mode tree ((Progress.start tree).run mode items).1.tree before item fault
        ((Progress.start tree).run mode items).1.events := by
  obtain ⟨before, item, after, hitems, hbefore, hstep⟩ := exists_step_of_run h
  have hmem : item ∈ items := by
    rw [hitems]
    exact List.mem_append_right _ List.mem_cons_self
  have hinterrupted := interrupted_of_step hwriting (hsources item hmem) hbefore
    (congrArg Prod.snd hstep)
  rw [hstep] at hinterrupted
  exact ⟨before, item, after, hitems, hinterrupted⟩

/-- An error is reported just if it could be asked whether there is something at the place. -/
theorem Interrupted.exists_error_iff {new : FileTree} {events : List Event}
    (h : Interrupted mode tree new items item fault events) :
    (∃ event ∈ events, event.level? = some .error) ↔
      ∃ there,
        ((Progress.start tree).run mode items).1.tree.occupied item.target = .ok there := by
  have hturns : ¬∃ event ∈ (turns mode (.start tree) items).map (report mode),
      event.level? = some .error := by
    rintro ⟨event, hevent, hlevel⟩
    obtain ⟨turn, -, rfl⟩ := List.mem_map.1 hevent
    exact level?_report mode turn hlevel
  rcases h.refused with ⟨hoccupied, -, rfl⟩ | ⟨hoccupied, -, rfl⟩
  · refine iff_of_false hturns ?_
    rintro ⟨there, hthere⟩
    rw [hoccupied] at hthere
    cases hthere
  · refine iff_of_true ⟨_, List.mem_append_right _ (List.mem_cons_of_mem _ List.mem_cons_self), ?_⟩
      hoccupied
    rfl

end Progress

namespace Blueprint

open Progress (Interrupted)

/-! ## Whole installations -/

/-- An installation that fails before the writing has written nothing. One that fails later has been
interrupted at one of the rendered files, and the error that tells what has been written is reported
just if it could be asked whether there is something at the place of this file. -/
theorem install_interrupted (b : Blueprint) (request : InstallRequest) (prompter : Prompter)
    (tree : FileTree) (base : Path) (c : Conversation) (e : InstallFailure)
    (hwriting : request.mode.rehearsal = false)
    (h : (b.install request prompter tree base c).outcome = .error e) :
    ((¬∃ values items c', b.Prepares request prompter tree base c values items c') →
        (b.install request prompter tree base c).tree = tree) ∧
      ∀ values items c', b.Prepares request prompter tree base c values items c' →
        ∃ before item after fault events, items = before ++ item :: after ∧ .system fault = e ∧
          (b.install request prompter tree base c).conversation = c'.report events ∧
          Interrupted request.mode tree (b.install request prompter tree base c).tree before item
            fault events ∧
          ((∃ event ∈ events, event.level? = some .error) ↔
            ∃ there, ((Progress.start tree).run request.mode before).1.tree.occupied item.target =
              .ok there) := by
  constructor
  · intro hunprepared
    rcases install_cases b request prompter tree base c with ⟨c', e', hfailed⟩ | hprepares
    · rw [hfailed]
    · exact absurd hprepares hunprepared
  · intro values items c' hprepares
    have hinstall := install_of_prepares hprepares
    obtain ⟨fault, hrun, hfault⟩ := outcome_writeRendered_eq_error_iff.1 (hinstall ▸ h)
    have hsources : ∀ item ∈ items, ∃ content, tree.readFile item.source = .ok content := by
      obtain ⟨_, _, _, -, -, -, hrender, -⟩ := hprepares
      exact readFile_source_of_render hrender
    obtain ⟨before, item, after, hitems, hinterrupted⟩ :=
      Progress.exists_interrupted_of_run hwriting hsources hrun
    rw [hinstall]
    exact ⟨before, item, after, fault, _, hitems, hfault, rfl, hinterrupted,
      hinterrupted.exists_error_iff⟩

/-- The second file would go below the first, which is reported to have been written. -/
theorem install_interrupted_twins :
    (twins.install (twinsRequest "one" "one/two" ⟨false, false⟩) .nobody twinsTree ⟨[]⟩
        (.start [])).outcome = .error (.system .isFile) ∧
      (twins.install (twinsRequest "one" "one/two" ⟨false, false⟩) .nobody twinsTree ⟨[]⟩
        (.start [])).conversation = (Conversation.start []).report
          [.writing ⟨["out", "one"]⟩, .writing ⟨["out", "one", "two"]⟩,
            .writeFailed ⟨["out", "one", "two"]⟩ [⟨["out", "one"]⟩]] ∧
      ∃ executable, (twins.install (twinsRequest "one" "one/two" ⟨false, false⟩) .nobody twinsTree
        ⟨[]⟩ (.start [])).tree.look ["out", "one"] = .file "one".toUTF8 executable := by
  have houtcome : (twins.install (twinsRequest "one" "one/two" ⟨false, false⟩) .nobody twinsTree
      ⟨[]⟩ (.start [])).outcome = .error (.system .isFile) := by
    rw [install_twins]
    decide +kernel
  have hprepares : twins.Prepares (twinsRequest "one" "one/two" ⟨false, false⟩) .nobody twinsTree
      ⟨[]⟩ (.start []) (twinNames "one" "one/two")
      [⟨⟨["twins", "___aa___"]⟩, ⟨["out", "one"]⟩, .text "one"⟩,
        ⟨⟨["twins", "___bb___"]⟩, ⟨["out", "one", "two"]⟩, .text "two"⟩] (.start []) :=
    ⟨⟨["out"]⟩, twins.files, .start [], destinationOf_twins, select_twins,
      yields_resolve_twins "one" "one/two", rfl, rfl⟩
  obtain ⟨before, item, after, fault, events, hitems, hfault, hconversation, hinterrupted, -⟩ :=
    (install_interrupted twins (twinsRequest "one" "one/two" ⟨false, false⟩) .nobody twinsTree
      ⟨[]⟩ (.start []) _ rfl houtcome).2 _ _ _ hprepares
  cases hfault
  rcases before with - | ⟨first, - | ⟨second, before⟩⟩
  · -- the first file could be written
    cases hitems
    rcases hinterrupted.refused with ⟨hoccupied, -⟩ | ⟨-, hwrite, -⟩
    · cases hoccupied
    · exact absurd (congrArg Prod.snd hwrite) (by decide +kernel)
  · cases hitems
    refine ⟨houtcome, ?_, hinterrupted.last [] _ [] rfl nofun⟩
    rcases hinterrupted.refused with ⟨hoccupied, -⟩ | ⟨-, -, rfl⟩
    · exact absurd hoccupied (by decide +kernel)
    · exact hconversation
  · cases before <;> cases hitems

/-- A name that is too long for a file. -/
def longName : String := String.ofList (List.replicate 256 'b')

theorem target_longName : target ⟨["out"]⟩ longName = .ok ⟨["out", longName]⟩ := by
  have hlong : longName.toList = List.replicate 256 'b' := String.toList_ofList
  have hchars : ∀ c ∈ longName.toList, c = 'b' :=
    fun c hc ↦ List.eq_of_mem_replicate (hlong ▸ hc)
  refine target_of_isNormal (by decide) (fun name hname ↦ ?_) fun hnull ↦ ?_
  · obtain rfl := List.mem_singleton.1 hname
    refine ⟨by decide +kernel, by decide +kernel, by decide +kernel, fun hslash ↦ ?_⟩
    exact absurd (hchars _ hslash) (by decide)
  · exact absurd (hchars _ hnull) (by decide)

/-- The name of the second file is too long. The first has been written, and no error is reported. -/
theorem install_twins_unreported :
    (twins.install (twinsRequest "one" longName ⟨false, false⟩) .nobody twinsTree ⟨[]⟩
        (.start [])).outcome = .error (.system .nameTooLong) ∧
      twinsTree.look ["out", "one"] = .nothing ∧
      (twins.install (twinsRequest "one" longName ⟨false, false⟩) .nobody twinsTree ⟨[]⟩
        (.start [])).tree.look ["out", "one"] = .file "one".toUTF8 false ∧
      ∀ event ∈ (twins.install (twinsRequest "one" longName ⟨false, false⟩) .nobody twinsTree ⟨[]⟩
        (.start [])).conversation.events, event.level? ≠ some .error := by
  have hone : target ⟨["out"]⟩ "one" = .ok ⟨["out", "one"]⟩ := by decide +kernel
  have hrender := render_twins_of_target hone target_longName
  have hinstall : twins.install (twinsRequest "one" longName ⟨false, false⟩) .nobody twinsTree ⟨[]⟩
      (.start []) = writeRendered ⟨false, false⟩ (twinNames "one" longName) twinsTree (.start [])
        (twinsRendered "one" longName) := by
    rw [install_twins, installWith]
    simp only [hrender]
    rfl
  rw [hinstall]
  decide +kernel

end Blueprint

end Scaffold
