import Mathlib
import Scaffold.Proofs.FileTree.Written
import Scaffold.Proofs.Install.Failure
import Scaffold.Proofs.Install.Preparation

/-!
# What stays outside

The rendered name of a file is followed from the destination, and a file is rendered only if this
leads to the destination or below it. If nothing else is wrong, rendering is thus refused exactly
for a name that leads elsewhere, however it is written. All that an installation changes is for the
sake of what has been rendered: the files in their places, and new directories on the way to them.
These are below the destination too, or they are on the way to it.
-/

namespace Scaffold.Blueprint

open Progress (IsChange)

variable {b : Blueprint} {tree : FileTree} {values : String → Option String} {destination : Path}
  {nameWrapper : Wrapper} {file : String × List String}

/-! ## Names -/

/-- A place that a name leads to from the destination is the target, if it is the destination or
below it. -/
theorem target_eq {name : String} (hnormal : destination.IsNormal)
    (hnull : Char.ofNat 0 ∉ name.toList) :
    target destination name =
      if destination.parts <+: Path.normal (destination.joined name)
      then .ok ⟨Path.normal (destination.joined name)⟩
      else .error (.refused (.outside name destination)) := by
  have hresolve : Path.resolve ⟨Path.follow [] destination.parts⟩ name =
      .ok ⟨Path.normal (destination.joined name)⟩ := by
    rw [Path.resolve, Path.follow_parts hnormal, Path.normal_joined hnormal, if_neg (by simpa)]
  rw [target, hresolve]
  simp only [Path.isWithin, List.isPrefixOf_iff_prefix]

/-- A name without a slash leads to a place right below the destination. -/
theorem target_of_isNormal {name : String} (hnormal : destination.IsNormal)
    (hname : Path.IsNormal ⟨[name]⟩) (hnull : Char.ofNat 0 ∉ name.toList) :
    target destination name = .ok ⟨destination.parts ++ [name]⟩ := by
  have hslash : '/' ∉ name.toList := (hname name List.mem_cons_self).2.2.2
  have hrelative : ¬Path.isAbsolute name = true := by
    rw [Path.isAbsolute, beq_iff_eq]
    exact fun hhead ↦ hslash (List.mem_of_mem_head? hhead)
  have hplace : Path.normal (destination.joined name) = destination.parts ++ [name] := by
    rw [Path.normal_joined hnormal, if_neg hrelative, ← Path.walk_components,
      Path.components_of_notMem hslash, Path.walk_of_isNormal hname]
  rw [target_eq hnormal hnull, hplace, if_pos (List.prefix_append _ _)]

theorem prefix_of_target {name : String} {place : Path} (h : target destination name = .ok place) :
    destination.parts <+: place.parts := by
  unfold target at h
  split at h
  · cases h
  · split at h
    · next hwithin =>
      cases h
      exact List.isPrefixOf_iff_prefix.1 hwithin
    · cases h

/-- A file of a selection is given this name. -/
def RendersName (b : Blueprint) (values : String → Option String) (file : String × List String)
    (name : String) : Prop :=
  ∃ wrapper, b.config.wrappers.forNames = .ok wrapper ∧
    Placeholder.fill wrapper values file.2 file.1 = .ok name

/-- A file of a selection can be read, its variables have values, and the name that it is given does
not hold the null character. -/
structure IsRenderable (b : Blueprint) (tree : FileTree) (values : String → Option String)
    (file : String × List String) : Prop where
  /-- The file can be read. -/
  source : ∃ content, tree.readFile (b.sourceOf file.1) = .ok content
  /-- Its variables have values. -/
  valued : ∀ name ∈ file.2, (values name).isSome = true
  /-- The name does not hold the null character. -/
  null : ∀ name, b.RendersName values file name → Char.ofNat 0 ∉ name.toList

theorem RendersName.unique {name name' : String} (h : b.RendersName values file name)
    (h' : b.RendersName values file name') : name = name' := by
  obtain ⟨wrapper, hwrapper, hname⟩ := h
  obtain ⟨wrapper', hwrapper', hname'⟩ := h'
  rw [hwrapper] at hwrapper'
  cases hwrapper'
  rw [hname] at hname'
  exact Except.ok.inj hname'

theorem isRenderable_of_rendersName {name : String}
    (hsource : ∃ content, tree.readFile (b.sourceOf file.1) = .ok content)
    (hvalued : ∀ name ∈ file.2, (values name).isSome = true)
    (hname : b.RendersName values file name) (hnull : Char.ofNat 0 ∉ name.toList) : b.IsRenderable tree values file :=
  ⟨hsource, hvalued, fun _ hname' ↦ hname.unique hname' ▸ hnull⟩

/-! ## Rendering -/

/-- The name that a file is given leads out of the destination. -/
def Leaves (b : Blueprint) (values : String → Option String) (destination : Path)
    (file : String × List String) : Prop :=
  ∃ name, b.RendersName values file name ∧
    ¬ destination.parts <+: Path.normal (destination.joined name)

theorem exists_outcome_renderContent (hsplit : b.config.wrappers.IsSplit)
    (hvalued : ∀ name ∈ file.2, (values name).isSome = true) (bytes : ByteArray) :
    ∃ content, (b.renderContent values file.2 file.1 bytes).outcome = .ok content := by
  obtain ⟨wrapper, hwrapper⟩ := hsplit.forContent file.1
  unfold renderContent
  split
  · exact ⟨_, rfl⟩
  · rw [hwrapper]
    simp only [Placeholder.fill_eq_ok hvalued]
    exact ⟨_, rfl⟩

/-- A file is rendered, unless its name leads out of the destination. It is refused then. -/
theorem outcome_renderFile (hnormal : destination.IsNormal) (hsplit : b.config.wrappers.IsSplit)
    (hwrapper : b.config.wrappers.forNames = .ok nameWrapper)
    (hfile : b.IsRenderable tree values file) :
    (∃ item, ¬ b.Leaves values destination file ∧
        (b.renderFile tree values destination nameWrapper file.1 file.2).outcome = .ok item) ∨
      ∃ name, b.Leaves values destination file ∧
        (b.renderFile tree values destination nameWrapper file.1 file.2).outcome =
          .error (.refused (.outside name destination)) := by
  obtain ⟨name, hfill⟩ : ∃ name, Placeholder.fill nameWrapper values file.2 file.1 = .ok name :=
    ⟨_, Placeholder.fill_eq_ok hfile.valued file.1⟩
  have hname : b.RendersName values file name := ⟨nameWrapper, hwrapper, hfill⟩
  have htarget := target_eq hnormal (hfile.null name hname)
  by_cases hinside : destination.parts <+: Path.normal (destination.joined name)
  · obtain ⟨⟨bytes, executable⟩, hread⟩ := hfile.source
    obtain ⟨content, hcontent⟩ := exists_outcome_renderContent hsplit hfile.valued bytes
    rw [if_pos hinside] at htarget
    refine .inl ⟨_, ?_, outcome_renderFile_eq_ok_iff.2
      ⟨name, _, bytes, executable, content, hfill, htarget, hread, hcontent, rfl⟩⟩
    rintro ⟨name', hname', hout⟩
    exact hout (hname.unique hname' ▸ hinside)
  · rw [if_neg hinside] at htarget
    refine .inr ⟨name, ⟨name, hname, hinside⟩, ?_⟩
    simp only [renderFile, hfill, htarget]
    rfl

/-- Files are rendered, unless the name of one of them leads out of the destination. The first such
name is refused then. -/
theorem outcome_renderAll {selection : List (String × List String)} (hnormal : destination.IsNormal)
    (hsplit : b.config.wrappers.IsSplit) (hwrapper : b.config.wrappers.forNames = .ok nameWrapper)
    (hfiles : ∀ file ∈ selection, b.IsRenderable tree values file) :
    (∃ items, (∀ file ∈ selection, ¬ b.Leaves values destination file) ∧
        (b.renderAll tree values destination nameWrapper selection).outcome = .ok items) ∨
      ∃ name, (∃ file ∈ selection, b.Leaves values destination file) ∧
        (b.renderAll tree values destination nameWrapper selection).outcome =
          .error (.refused (.outside name destination)) := by
  -- a file that leads out ends the rendering, so that those after it need not be looked at
  induction selection with
  | nil => exact .inl ⟨[], fun file hfile ↦ absurd hfile List.not_mem_nil, rfl⟩
  | cons file selection ih =>
    obtain ⟨hfile, hrest⟩ := List.forall_mem_cons.1 hfiles
    rw [renderAll]
    rcases outcome_renderFile hnormal hsplit hwrapper hfile with
      ⟨item, hinside, hitem⟩ | ⟨name, hleaves, hrefused⟩
    · rcases ih hrest with ⟨items, hinsides, hitems⟩ | ⟨name, ⟨later, hlater, hleaves⟩, hrefused⟩
      · refine .inl ⟨item :: items, List.forall_mem_cons.2 ⟨hinside, hinsides⟩, ?_⟩
        exact Traced.outcome_bind_eq_ok_iff.2
          ⟨item, hitem, Traced.outcome_bind_eq_ok_iff.2 ⟨items, hitems, rfl⟩⟩
      · refine .inr ⟨name, ⟨later, List.mem_cons_of_mem _ hlater, hleaves⟩, ?_⟩
        exact Traced.outcome_bind_eq_error_iff.2
          (.inr ⟨item, hitem, Traced.outcome_bind_eq_error_iff.2 (.inl hrefused)⟩)
    · refine .inr ⟨name, ⟨file, List.mem_cons_self, hleaves⟩, ?_⟩
      exact Traced.outcome_bind_eq_error_iff.2 (.inl hrefused)

theorem render_outside_iff {selected : List String} (hnormal : destination.IsNormal)
    (hsplit : b.config.wrappers.IsSplit)
    (hfiles : ∀ file ∈ b.selection selected, b.IsRenderable tree values file) :
    (∃ name, (b.render tree selected values destination).outcome =
        .error (.refused (.outside name destination))) ↔
      ∃ file ∈ b.selection selected, b.Leaves values destination file := by
  obtain ⟨nameWrapper, hwrapper⟩ := hsplit.forNames
  rw [render, hwrapper]
  simp only
  rcases outcome_renderAll hnormal hsplit hwrapper hfiles with
    ⟨items, hinside, hitems⟩ | ⟨name, hleaves, hrefused⟩
  · rw [hitems]
    constructor
    · rintro ⟨name, hname⟩
      cases hname
    · rintro ⟨file, hfile, hleaves⟩
      exact absurd hleaves (hinside file hfile)
  · exact iff_of_true ⟨name, hrefused⟩ hleaves

/-! ## Writing -/

/-- What has been rendered goes to the destination or below it. -/
theorem prefix_target_of_render {selected : List String} {items : List RenderedFile}
    (h : (b.render tree selected values destination).outcome = .ok items) :
    ∀ item ∈ items, destination.parts <+: item.target.parts := by
  intro item hitem
  obtain ⟨nameWrapper, file, names, hfile⟩ := exists_renderFile_of_mem_render h item hitem
  obtain ⟨_, _, _, _, _, -, htarget, -, -, rfl⟩ := outcome_renderFile_eq_ok_iff.1 hfile
  exact prefix_of_target htarget

/-- A place that changes for the sake of a file below the destination is below the destination
itself, or it is a new directory on the way to the destination. -/
theorem confined_of_isChange {old new : FileTree} {names : List String} {item : RenderedFile}
    (htarget : destination.parts <+: item.target.parts) (h : IsChange old new names item) :
    destination.parts <+: names ∨
      (names <+: destination.parts ∧ old.look names = .nothing ∧ new.look names = .directory) := by
  rcases h with rfl | ⟨hway, hnothing, hdirectory⟩
  · exact .inl htarget
  -- of two places on the way to the target, one is on the way to the other
  · rcases List.prefix_or_prefix_of_prefix htarget hway with hbelow | habove
    · exact .inl hbelow
    · exact .inr ⟨habove, hnothing, hdirectory⟩

/-- When the wrappers have halves, as those of every blueprint that has been read have, the selected
files can be read and their variables have values, rendering is refused just if the name of a
selected file leads out of the destination. Whatever is seen to change by an installation, however
it ends, is the destination or below it, or is a new directory on the way to it. -/
theorem install_confined (b : Blueprint) :
    (∀ (tree : FileTree) (selected : List String) (values : String → Option String)
        (destination : Path),
      destination.IsNormal → b.config.wrappers.IsSplit →
      (∀ file ∈ b.selection selected, b.IsRenderable tree values file) →
      ((∃ name, (b.render tree selected values destination).outcome =
          .error (.refused (.outside name destination))) ↔
        ∃ file ∈ b.selection selected, ∃ name, b.RendersName values file name ∧
          ¬ destination.parts <+: Path.normal (destination.joined name))) ∧
    ∀ (request : InstallRequest) (prompter : Prompter) (tree : FileTree) (base : Path)
        (c : Conversation) (names : List String),
      (b.install request prompter tree base c).tree.look names ≠ tree.look names →
      ∃ destination, destinationOf tree base request.destination = .ok destination ∧
        (destination.parts <+: names ∨
          (names <+: destination.parts ∧ tree.look names = .nothing ∧
            (b.install request prompter tree base c).tree.look names = .directory)) := by
  refine ⟨fun _ _ _ _ hnormal hsplit hfiles ↦ render_outside_iff hnormal hsplit hfiles, ?_⟩
  intro request prompter tree base c names h
  rcases install_cases b request prompter tree base c with
    ⟨c', e, hfailed⟩ | ⟨values, items, c', hprepares⟩
  · rw [hfailed] at h
    exact absurd rfl h
  · rw [install_of_prepares hprepares, tree_writeRendered] at h ⊢
    obtain ⟨item, hitem, hchange⟩ := Progress.isChange_of_run h
    obtain ⟨destination, selected, d, hdestination, -, -, hrender, -⟩ := hprepares
    have htarget := prefix_target_of_render hrender item hitem
    exact ⟨destination, hdestination, confined_of_isChange htarget hchange⟩

/-- The name of the second file leads to a directory beside the destination. The sources themselves
are not changed by an installation. -/
theorem install_confined_twins :
    (∃ name, (twins.render twinsTree twins.files
        ((twinNames "/out/./one" "../out2/two").lookup ·) ⟨["out"]⟩).outcome =
          .error (.refused (.outside name ⟨["out"]⟩))) ∧
      (twins.install (twinsRequest "one" "two" ⟨true, false⟩) .nobody twinsTree ⟨[]⟩
        (.start [])).tree.look ["twins", "___aa___"] = .file "one".toUTF8 false := by
  obtain ⟨hrender, hinstall⟩ := install_confined twins
  have hsplit : twins.config.wrappers.IsSplit := Config.isSound_empty.split
  have hnormal : Path.IsNormal ⟨["out"]⟩ := by decide
  have hfirst : twins.RendersName ((twinNames "/out/./one" "../out2/two").lookup ·)
      ("___aa___", ["aa"]) "/out/./one" := ⟨_, rfl, rfl⟩
  have hsecond : twins.RendersName ((twinNames "/out/./one" "../out2/two").lookup ·)
      ("___bb___", ["bb"]) "../out2/two" := ⟨_, rfl, rfl⟩
  constructor
  · refine (hrender twinsTree twins.files _ ⟨["out"]⟩ hnormal hsplit ?_).2 ?_
    · refine List.forall_mem_cons.2 ⟨?_, List.forall_mem_singleton.2 ?_⟩
      · exact isRenderable_of_rendersName ⟨_, rfl⟩ (by decide) hfirst (by decide)
      · exact isRenderable_of_rendersName ⟨_, rfl⟩ (by decide) hsecond (by decide)
    · exact ⟨("___bb___", ["bb"]), by decide, "../out2/two", hsecond, by decide⟩
  · by_contra hne
    obtain ⟨destination, hdestination, hplace⟩ := hinstall (twinsRequest "one" "two" ⟨true, false⟩)
      .nobody twinsTree ⟨[]⟩ (.start []) ["twins", "___aa___"] hne
    have hout : destination = ⟨["out"]⟩ :=
      Except.ok.inj (hdestination.symm.trans destinationOf_twins)
    rw [hout] at hplace
    rcases hplace with hbelow | ⟨habove, -⟩
    · exact absurd hbelow (by decide)
    · exact absurd habove (by decide)

end Scaffold.Blueprint
