import Mathlib
import Scaffold.Proofs.Install.Confinement
import Scaffold.Proofs.Install.LastWrite

/-!
# What is written below the destination

A rendered file goes to the destination or below it. One that goes below it has the destination made
a directory. One that goes to the destination itself, as a file does whose name is empty or a single
dot, is left alone or cannot be written where there is a directory, but is written where there is
nothing. The destination is a file then, and nothing can be made below it any more.

Which of the two happens is read off the tree in the end, because what is there stays what it is:
there is something at the place of every file that has had its turn, and a file at every place that
has been written.
-/

namespace Scaffold

/-- This place is below `p` and is not `p` itself. -/
def Path.IsBelow (q p : Path) : Prop := p.parts <+: q.parts ∧ q ≠ p

theorem Path.IsBelow.exists_eq_append {q p : Path} (h : q.IsBelow p) :
    ∃ name names, q.parts = p.parts ++ name :: names := by
  obtain ⟨⟨names, hparts⟩, hne⟩ := h
  cases names with
  | nil =>
    rw [List.append_nil] at hparts
    exact absurd (congrArg Path.mk hparts).symm hne
  | cons name names => exact ⟨name, names, hparts.symm⟩

/-- What is above something is a directory. -/
theorem FileTree.look_eq_directory_of_isBelow {tree : FileTree} {q p : Path} (hbelow : q.IsBelow p)
    (h : tree.look q.parts ≠ .nothing) : tree.look p.parts = .directory := by
  obtain ⟨name, names, hparts⟩ := hbelow.exists_eq_append
  rw [hparts] at h
  exact look_eq_directory_of_append h

namespace Progress

variable {mode : WriteMode} {p : Progress} {item : RenderedFile} {items : List RenderedFile}
  {destination : Path}

/-! ## The places of files -/

/-- A file that has had its turn has something at its place: it has been written, or there was
something before. -/
theorem look_step_ne_nothing (hwriting : mode.rehearsal = false)
    (h : (p.step mode item).2 = .ok ()) :
    (p.step mode item).1.tree.look item.target.parts ≠ .nothing := by
  rcases isWritten_cases hwriting h with ⟨-, hwrote, -⟩ | ⟨hpassed, hsame, -⟩
  · exact hwrote.look_ne_nothing_iff.2 (.inr List.prefix_rfl)
  · obtain ⟨there, hthere⟩ := exists_occupied_of_step h
    have hnotfree : ¬ isFree (item, p.tree) = true := by
      rw [isWritten, Bool.or_eq_false_iff] at hpassed
      rw [hpassed.2]
      exact Bool.false_ne_true
    rw [hsame]
    exact mt (isFree_iff_look hthere).2 hnotfree

theorem look_run_ne_nothing (hwriting : mode.rehearsal = false)
    (h : (p.run mode items).2 = .ok ()) :
    ∀ item ∈ items, (p.run mode items).1.tree.look item.target.parts ≠ .nothing := by
  induction items generalizing p with
  | nil => simp
  | cons first items ih =>
    rw [run_cons] at h ⊢
    split at h
    · next hstep =>
      refine List.forall_mem_cons.2 ⟨?_, ih h⟩
      exact (stays_run mode _ items first.target.parts).ne_nothing
        (look_step_ne_nothing hwriting hstep)
    · cases h

/-- At a place that has been written there is a file, be it the first written there or a later
one. -/
theorem exists_look_run_eq_file (hwriting : mode.rehearsal = false)
    (h : (p.run mode items).2 = .ok ()) (hitem : item ∈ writes mode p items) :
    ∃ bytes executable,
      (p.run mode items).1.tree.look item.target.parts = .file bytes executable := by
  induction items generalizing p with
  | nil => cases hitem
  | cons first items ih =>
    rw [run_cons] at h ⊢
    rw [writes_cons] at hitem
    split at h
    · next hstep =>
      rcases isWritten_cases hwriting hstep with ⟨hwritten, hwrote, -⟩ | ⟨hpassed, -, -⟩
      · rw [if_pos hwritten] at hitem
        rcases List.mem_cons.1 hitem with rfl | hitem
        · obtain ⟨executable, hfile⟩ := hwrote.file
          exact (stays_run mode _ items).exists_look_eq_file hfile
        · exact ih h hitem
      · rw [if_neg (Bool.eq_false_iff.1 hpassed)] at hitem
        exact ih h hitem
    · cases h

/-- The first file is written if there is nothing at its place. -/
theorem mem_writes_of_look_eq_nothing (h : (p.run mode (item :: items)).2 = .ok ())
    (hnothing : p.tree.look item.target.parts = .nothing) :
    item ∈ writes mode p (item :: items) := by
  obtain ⟨there, hthere⟩ := exists_occupied_of_run h (item, p.tree) List.mem_cons_self
  have hwritten : isWritten mode (item, p.tree) = true := by
    rw [isWritten, (isFree_iff_look hthere).2 hnothing, Bool.or_true]
  rw [writes_cons, if_pos hwritten]
  exact List.mem_cons_self

/-! ## What becomes of the destination -/

theorem mem_of_mem_writes (h : item ∈ writes mode p items) : item ∈ items := by
  obtain ⟨turn, hturn, rfl⟩ := List.mem_map.1 h
  have hfirst := List.mem_map_of_mem (f := Prod.fst) (List.mem_filter.1 hturn).1
  rwa [map_fst_turns] at hfirst

/-- When the destination is a directory in the end, all that has been written is below it. -/
theorem isBelow_of_look_run_eq_directory (hwriting : mode.rehearsal = false)
    (h : (p.run mode items).2 = .ok ())
    (hinside : ∀ item ∈ items, destination.parts <+: item.target.parts)
    (hdirectory : (p.run mode items).1.tree.look destination.parts = .directory) :
    ∀ item ∈ writes mode p items, item.target.IsBelow destination := by
  intro item hitem
  refine ⟨hinside item (mem_of_mem_writes hitem), fun heq ↦ ?_⟩
  obtain ⟨bytes, executable, hfile⟩ := exists_look_run_eq_file hwriting h hitem
  rw [heq, hdirectory] at hfile
  cases hfile

/-- A destination that is no file is a directory in the end, unless it was not there and every file
goes to the destination itself. -/
theorem look_run_eq_directory_iff (hwriting : mode.rehearsal = false)
    (h : (p.run mode items).2 = .ok ())
    (hinside : ∀ item ∈ items, destination.parts <+: item.target.parts)
    (hplace : ∀ bytes executable, p.tree.look destination.parts ≠ .file bytes executable) :
    (p.run mode items).1.tree.look destination.parts = .directory ↔
      ¬ (p.tree.look destination.parts = .nothing ∧ ∀ item ∈ items, item.target = destination) := by
  constructor
  · rintro hdirectory ⟨hnothing, hall⟩
    cases items with
    | nil => cases hnothing.symm.trans hdirectory
    | cons first items =>
      -- the first file is written, as nothing is in its place, and it goes to the destination
      have hfirst : first.target = destination := hall first List.mem_cons_self
      have hmem := mem_writes_of_look_eq_nothing h (hfirst ▸ hnothing)
      exact (isBelow_of_look_run_eq_directory hwriting h hinside hdirectory first hmem).2 hfirst
  · intro hnot
    rw [not_and, not_forall₂] at hnot
    cases hlook : p.tree.look destination.parts with
    | nothing =>
      obtain ⟨item, hitem, hne⟩ := hnot hlook
      exact FileTree.look_eq_directory_of_isBelow ⟨hinside item hitem, hne⟩
        (look_run_ne_nothing hwriting h item hitem)
    | directory => exact (stays_run mode p items).look_eq_directory hlook
    | file bytes executable => exact absurd hlook (hplace bytes executable)

end Progress

namespace Blueprint

open Progress (writes)

/-! ## Whole installations -/

theorem look_ne_file_of_destinationOf {tree : FileTree} {base destination : Path} {written : String}
    (h : destinationOf tree base written = .ok destination) (bytes : ByteArray)
    (executable : Bool) : tree.look destination.parts ≠ .file bytes executable := by
  rw [Ne, FileTree.look_eq_file_iff]
  intro hfile
  unfold destinationOf at h
  split at h
  · cases h
  · next place _ =>
    split at h
    · cases h
    · cases h
    · next hnotfile _ =>
      cases h
      exact hnotfile _ _ hfile

/-- An installation that comes to its end and has written something has made the destination a
directory, and all that has been written is below it, unless the destination was not there and
every file goes to the destination itself. In this case the destination has become a file, which is
all that has been written. -/
theorem install_inside (b : Blueprint) (request : InstallRequest) (prompter : Prompter)
    (tree : FileTree) (base : Path) (c : Conversation) (result : InstallResult)
    (hwriting : request.mode.rehearsal = false)
    (h : (b.install request prompter tree base c).outcome = .ok result)
    (hwritten : result.written ≠ []) :
    ∃ destination selected items,
      destinationOf tree base request.destination = .ok destination ∧
      b.select request.pick = .ok selected ∧
      (b.render tree selected (result.values.lookup ·) destination).outcome = .ok items ∧
      (((b.install request prompter tree base c).tree.look destination.parts = .directory ∧
          ∀ place ∈ result.written, place.IsBelow destination) ↔
        ¬ (tree.look destination.parts = .nothing ∧
          ∀ item ∈ items, item.target = destination)) ∧
      (tree.look destination.parts = .nothing → (∀ item ∈ items, item.target = destination) →
        (∃ bytes executable, (b.install request prompter tree base c).tree.look destination.parts =
          .file bytes executable) ∧
        ∀ place ∈ result.written, place = destination) := by
  rcases install_cases b request prompter tree base c with
    ⟨c', e, hfailed⟩ | ⟨values, items, c', hprepares⟩
  · rw [hfailed] at h
    cases h
  · rw [install_of_prepares hprepares] at h ⊢
    rw [tree_writeRendered]
    obtain ⟨hrun, rfl⟩ := outcome_writeRendered_eq_ok_iff.1 h
    obtain ⟨destination, selected, d, hdestination, hselected, -, hrender, -⟩ := hprepares
    have hplaces : ((Progress.start tree).run request.mode items).1.written =
        (writes request.mode (.start tree) items).map (·.target) :=
      Progress.written_run_eq hwriting hrun
    have hinside := prefix_target_of_render hrender
    have hiff := Progress.look_run_eq_directory_iff hwriting hrun hinside
      (look_ne_file_of_destinationOf hdestination)
    refine ⟨destination, selected, items, hdestination, hselected, hrender,
      ⟨fun hdirectory ↦ hiff.1 hdirectory.1, fun hnot ↦ ⟨hiff.2 hnot, ?_⟩⟩, fun _ hall ↦ ?_⟩
    · rw [hplaces]
      exact List.forall_mem_map.2
        (Progress.isBelow_of_look_run_eq_directory hwriting hrun hinside (hiff.2 hnot))
    · have hall' : ∀ item ∈ writes request.mode (.start tree) items, item.target = destination :=
        fun item hitem ↦ hall item (Progress.mem_of_mem_writes hitem)
      rw [hplaces] at hwritten ⊢
      obtain ⟨item, hitem⟩ := List.exists_mem_of_ne_nil _ (mt (congrArg (List.map _)) hwritten)
      refine ⟨?_, List.forall_mem_map.2 hall'⟩
      rw [← hall' item hitem]
      exact Progress.exists_look_run_eq_file hwriting hrun hitem

/-- Under names of their own the two files have the destination made a directory. -/
theorem install_inside_twins :
    (twins.install (twinsRequest "one" "two" ⟨false, false⟩) .nobody twinsTree ⟨[]⟩
        (.start [])).tree.look ["out"] = .directory ∧
      ∀ place ∈ [(⟨["out", "one"]⟩ : Path), ⟨["out", "two"]⟩], place.IsBelow ⟨["out"]⟩ := by
  obtain ⟨destination, selected, items, hdestination, hselected, hrender, hiff, -⟩ :=
    install_inside twins (twinsRequest "one" "two" ⟨false, false⟩) .nobody twinsTree ⟨[]⟩
      (.start []) _ rfl outcome_install_twins (List.cons_ne_nil _ _)
  cases hdestination
  cases hselected
  have hitems : items = twinsRendered "one" "two" :=
    Except.ok.inj (hrender.symm.trans render_twins)
  refine hiff.2 fun hbad ↦ ?_
  have hfirst := hbad.2 ⟨⟨["twins", "___aa___"]⟩, ⟨["out", "one"]⟩, .text "one"⟩
    (hitems ▸ List.mem_cons_self)
  cases hfirst

/-- Under a dot and an empty name both files go to the destination itself. The first of them is
written there, though the destination is to be a directory. -/
theorem install_twins_at_destination :
    (twins.install (twinsRequest "." "" ⟨false, false⟩) .nobody twinsTree ⟨[]⟩
        (.start [])).outcome = .ok ⟨twinNames "." "", [⟨["out"]⟩], [⟨["out"]⟩]⟩ ∧
      (twins.install (twinsRequest "." "" ⟨false, false⟩) .nobody twinsTree ⟨[]⟩
        (.start [])).tree.look ["out"] = .file "one".toUTF8 false := by
  constructor
  · rw [install_twins]
    decide +kernel
  · rw [install_twins]
    decide +kernel

end Blueprint

end Scaffold
