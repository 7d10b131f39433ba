import Mathlib
import Scaffold.Proofs.Install.Effect

/-!
# What comes before the writing

An installation is prepared when its destination is known, its files are selected, their variables
have values and all of them are rendered. It is then nothing but the writing of what has been
rendered. If any of this fails, be it at the last of the files, nothing has been written: the tree
is the one that was found. So it is after a rehearsal.

What has been rendered has been read, and what has been read can be read again: no file is left
half installed because its source has gone in the meantime.
-/

namespace Scaffold.Blueprint

open FileTree (Stays)

variable {b : Blueprint} {request : InstallRequest} {prompter : Prompter} {tree : FileTree}
  {base destination : Path} {c c' : Conversation} {values : List (String × String)}
  {items : List RenderedFile}

/-! ## Preparation -/

/-- The installation comes to the writing, with these values of the variables, these rendered files
and this conversation. -/
def Prepares (b : Blueprint) (request : InstallRequest) (prompter : Prompter) (tree : FileTree)
    (base : Path) (c : Conversation) (values : List (String × String)) (items : List RenderedFile)
    (c' : Conversation) : Prop :=
  ∃ destination selected d,
    destinationOf tree base request.destination = .ok destination ∧
    b.select request.pick = .ok selected ∧
    Resolution.Yields (Resolution.resolve prompter b.catalogue request.supplied b.files selected
      b.config.table) c values d ∧
    (b.render tree selected (values.lookup ·) destination).outcome = .ok items ∧
    c' = d.report (b.render tree selected (values.lookup ·) destination).trace

theorem install_of_prepares (h : b.Prepares request prompter tree base c values items c') :
    b.install request prompter tree base c = writeRendered request.mode values tree c' items := by
  obtain ⟨destination, selected, d, hdestination, hselected, hresolve, hrender, rfl⟩ := h
  rw [install_of_yields hdestination hselected hresolve, installWith]
  simp only [hrender]

theorem tree_writeRendered (mode : WriteMode) (values : List (String × String)) (tree : FileTree)
    (c : Conversation) (items : List RenderedFile) :
    (writeRendered mode values tree c items).tree =
      ((Progress.start tree).run mode items).1.tree := rfl

theorem outcome_writeRendered (mode : WriteMode) (values : List (String × String)) (tree : FileTree)
    (c : Conversation) (items : List RenderedFile) :
    (writeRendered mode values tree c items).outcome =
      (((Progress.start tree).run mode items).2.map fun _ ↦
        ⟨values, ((Progress.start tree).run mode items).1.written,
          ((Progress.start tree).run mode items).1.skipped⟩).mapError .system := rfl

/-- What has been written and what has been left alone, if all files have had their turn. -/
theorem outcome_writeRendered_eq_ok_iff {mode : WriteMode} {result : InstallResult} :
    (writeRendered mode values tree c items).outcome = .ok result ↔
      ((Progress.start tree).run mode items).2 = .ok () ∧
        result = ⟨values, ((Progress.start tree).run mode items).1.written,
          ((Progress.start tree).run mode items).1.skipped⟩ := by
  rw [outcome_writeRendered, Except.mapError_eq_ok_iff, Except.map_eq_ok_iff]
  constructor
  · rintro ⟨_, hrun, rfl⟩
    exact ⟨hrun, rfl⟩
  · rintro ⟨hrun, rfl⟩
    exact ⟨(), hrun, rfl⟩

/-- Writing fails by the file system only. -/
theorem outcome_writeRendered_eq_error_iff {mode : WriteMode} {e : InstallFailure} :
    (writeRendered mode values tree c items).outcome = .error e ↔
      ∃ fault, ((Progress.start tree).run mode items).2 = .error fault ∧ .system fault = e := by
  simp only [outcome_writeRendered, Except.mapError_eq_error_iff, Except.map_eq_error_iff]

/-- An installation fails before the writing, and leaves the tree as it is, or is the writing of
what has been prepared. -/
theorem install_cases (b : Blueprint) (request : InstallRequest) (prompter : Prompter)
    (tree : FileTree) (base : Path) (c : Conversation) :
    (∃ c' e, b.install request prompter tree base c = ⟨tree, c', .error e⟩) ∨
      ∃ values items c', b.Prepares request prompter tree base c values items c' := by
  unfold install
  split
  · next e _ => exact .inl ⟨c, e, rfl⟩
  · next destination hdestination =>
    split
    · next e _ => exact .inl ⟨c, .refused e, rfl⟩
    · next selected hselected =>
      split
      · next e c' _ => exact .inl ⟨c', .resolution e, rfl⟩
      · next values d hresolve =>
        unfold installWith
        simp only
        split
        · next e _ => exact .inl ⟨_, .render e, rfl⟩
        · next items hrender =>
          exact .inr ⟨values, items, _, destination, selected, d, hdestination, hselected, hresolve,
            hrender, rfl⟩

/-! ## Sources -/

/-- Each of the rendered files is one that could be rendered alone. -/
theorem exists_renderFile_of_mem_render {values : String → Option String} {selected : List String}
    (h : (b.render tree selected values destination).outcome = .ok items) :
    ∀ item ∈ items, ∃ nameWrapper file names,
      (b.renderFile tree values destination nameWrapper file names).outcome = .ok item := by
  obtain ⟨nameWrapper, hfiles⟩ := forall₂_render h
  clear h
  generalize b.selection selected = selection at hfiles
  induction hfiles with
  | nil => exact fun item hitem ↦ absurd hitem List.not_mem_nil
  | cons hfile _ ih => exact List.forall_mem_cons.2 ⟨⟨nameWrapper, _, _, hfile⟩, ih⟩

/-- What has been rendered has been read. -/
theorem readFile_source_of_render {values : String → Option String} {selected : List String}
    (h : (b.render tree selected values destination).outcome = .ok items) :
    ∀ item ∈ items, ∃ content, tree.readFile item.source = .ok content := by
  intro item hitem
  obtain ⟨nameWrapper, file, names, hfile⟩ := exists_renderFile_of_mem_render h item hitem
  obtain ⟨_, _, _, _, _, -, -, hread, -, rfl⟩ := outcome_renderFile_eq_ok_iff.1 hfile
  exact ⟨_, hread⟩

/-- What can be read can still be read when what is there has stayed. -/
theorem readFile_of_stays {old new : FileTree} {place : Path} (h : Stays old new)
    (hread : ∃ content, old.readFile place = .ok content) :
    ∃ content, new.readFile place = .ok content := by
  obtain ⟨⟨bytes, executable⟩, hread⟩ := hread
  have hstays := h place.parts
  rw [FileTree.readFile_eq_ok_iff.1 hread] at hstays
  cases hnew : new.look place.parts with
  | nothing =>
    rw [hnew] at hstays
    cases hstays
  | directory =>
    rw [hnew] at hstays
    cases hstays
  | file bytes' executable' => exact ⟨_, FileTree.readFile_eq_ok_iff.2 hnew⟩

theorem readFile_source_of_mem_turns {mode : WriteMode} {turn : RenderedFile × FileTree}
    (h : ∀ item ∈ items, ∃ content, tree.readFile item.source = .ok content)
    (hturn : turn ∈ Progress.turns mode (.start tree) items) :
    ∃ content, (Progress.writeItem turn.2 turn.1).1.readFile turn.1.source = .ok content := by
  have hmem : turn.1 ∈ items := by
    have hturns := List.mem_map_of_mem (f := Prod.fst) hturn
    rwa [Progress.map_fst_turns] at hturns
  have hstays := (Progress.stays_of_mem_turns hturn).trans (Progress.stays_writeItem turn.2 turn.1)
  exact readFile_of_stays hstays (h turn.1 hmem)

/-! ## Two files

Two files that are named by variables, so that the values decide where they go: both to one place,
or one of them out of the destination.
-/

/-- The files, in their directory. -/
def twinsTree : FileTree :=
  .directory [("twins", .directory [("___aa___", .file "one".toUTF8 false),
    ("___bb___", .file "two".toUTF8 false)])]

/-- The two files as a blueprint. -/
def twins : Blueprint :=
  ⟨⟨["twins"]⟩, false, ["___aa___", "___bb___"], .empty,
    ⟨["aa", "bb"], [(0, ["aa"]), (1, ["bb"])]⟩⟩

/-- Names for the two files. -/
def twinNames (first second : String) : List (String × String) := [("aa", first), ("bb", second)]

/-- The request to install the two files under given names. -/
def twinsRequest (first second : String) (mode : WriteMode) : InstallRequest :=
  ⟨"out", fun name ↦ (twinNames first second).lookup name, none, mode⟩

theorem destinationOf_twins : destinationOf twinsTree ⟨[]⟩ "out" = .ok ⟨["out"]⟩ := rfl

theorem select_twins : twins.select none = .ok twins.files := rfl

/-- All variables of the two files are supplied, so that nothing is left to be computed. -/
theorem yields_resolve_twins (first second : String) :
    Resolution.Yields (Resolution.resolve .nobody twins.catalogue
      (fun name ↦ (twinNames first second).lookup name) twins.files twins.files .empty) (.start [])
      (twinNames first second) (.start []) := by
  let values : Resolution.Values := ⟨[("aa", some first), ("bb", some second)], by simp⟩
  have hnone : Resolution.unvalued values = [] := rfl
  refine Resolution.yields_resolve_iff.2 ⟨values, .start [], rfl, ?_⟩
  rw [Resolution.computeRest, Table.solvingOrder, Dependency.order, hnone,
    Dependency.orderPending_nil]
  rfl

theorem install_twins (first second : String) (mode : WriteMode) :
    twins.install (twinsRequest first second mode) .nobody twinsTree ⟨[]⟩ (.start []) =
      twins.installWith mode twinsTree ⟨["out"]⟩ twins.files (.start []) (twinNames first second) :=
  install_of_yields destinationOf_twins select_twins (yields_resolve_twins first second)

/-! ## Nothing is written before all is prepared -/

/-- Nothing is written in a rehearsal, nor by an installation that fails otherwise than by the file
system refusing to write. Where anything has been written, all that was selected had been rendered,
in its order, and with each file that is written its source can be read again. -/
theorem install_writes_prepared (b : Blueprint) (request : InstallRequest) (prompter : Prompter)
    (tree : FileTree) (base : Path) (c : Conversation) :
    (request.mode.rehearsal = true → (b.install request prompter tree base c).tree = tree) ∧
      (∀ e, (b.install request prompter tree base c).outcome = .error e →
        (∀ fault, e ≠ .system fault) → (b.install request prompter tree base c).tree = tree) ∧
      ((b.install request prompter tree base c).tree ≠ tree →
        ∃ destination selected values d items,
          destinationOf tree base request.destination = .ok destination ∧
          b.select request.pick = .ok selected ∧
          Resolution.Yields (Resolution.resolve prompter b.catalogue request.supplied b.files
            selected b.config.table) c values d ∧
          (b.render tree selected (values.lookup ·) destination).outcome = .ok items ∧
          items.map (·.source) = (b.selection selected).map (b.sourceOf ·.1) ∧
          ∀ turn ∈ Progress.turns request.mode (.start tree) items,
            ∃ content,
              (Progress.writeItem turn.2 turn.1).1.readFile turn.1.source = .ok content) := by
  rcases install_cases b request prompter tree base c with
    ⟨c', e, hfailed⟩ | ⟨values, items, c', hprepares⟩
  · rw [hfailed]
    exact ⟨fun _ ↦ rfl, fun _ _ _ ↦ rfl, fun hne ↦ absurd rfl hne⟩
  · rw [install_of_prepares hprepares]
    refine ⟨?_, ?_, ?_⟩
    · intro hrehearsal
      rw [tree_writeRendered, Progress.tree_run_of_rehearsal hrehearsal, Progress.start]
    · intro e he hsystem
      obtain ⟨fault, -, rfl⟩ := outcome_writeRendered_eq_error_iff.1 he
      exact absurd rfl (hsystem fault)
    · intro _
      obtain ⟨destination, selected, d, hdestination, hselected, hresolve, hrender, -⟩ := hprepares
      have hsources := readFile_source_of_render hrender
      exact ⟨destination, selected, values, d, items, hdestination, hselected, hresolve, hrender,
        map_source_of_render hrender, fun turn ↦ readFile_source_of_mem_turns hsources⟩

/-- The second of two files would leave the destination, so that the first is not written either. -/
theorem install_writes_prepared_twins :
    (twins.install (twinsRequest "one" "../../one" ⟨true, false⟩) .nobody twinsTree ⟨[]⟩
        (.start [])).outcome = .error (.render (.refused (.outside "../../one" ⟨["out"]⟩))) ∧
      (twins.install (twinsRequest "one" "../../one" ⟨true, false⟩) .nobody twinsTree ⟨[]⟩
        (.start [])).tree = twinsTree := by
  have houtcome : (twins.install (twinsRequest "one" "../../one" ⟨true, false⟩) .nobody twinsTree
      ⟨[]⟩ (.start [])).outcome = .error (.render (.refused (.outside "../../one" ⟨["out"]⟩))) := by
    rw [install_twins]
    rfl
  obtain ⟨-, hunwritten, -⟩ := install_writes_prepared twins
    (twinsRequest "one" "../../one" ⟨true, false⟩) .nobody twinsTree ⟨[]⟩ (.start [])
  refine ⟨houtcome, hunwritten _ houtcome ?_⟩
  intro fault hfault
  cases hfault

end Scaffold.Blueprint
