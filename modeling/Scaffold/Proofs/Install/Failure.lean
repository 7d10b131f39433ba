import Mathlib
import Scaffold.Blueprint.Load
import Scaffold.Install.Basic
import Scaffold.Proofs.Placeholder.Substitution
import Scaffold.Proofs.Resolution.Failure

/-!
# How installing fails

A blueprint that has been read is installed, or the installation fails for an outer cause: it is
refused, variables have no values, or a question, a modifier or the file system fails. What reading
has accepted is enough for all that comes after it: the wrappers have halves, the variables of the
selected files all have values, the transforms can be read and have an order.
-/

namespace Scaffold

/-- The cause of an error, none for those that a blueprint that has been read excludes. -/
def RenderError.cause? : RenderError → Option FailureCause
  | refused _ => some .refusal
  | nullCharacter _ => some .fileSystem
  | system _ => some .fileSystem
  | wrapper _ => none
  | undefinedVariables _ => none

/-- The cause of a failure, none for those that a blueprint that has been read excludes. -/
def InstallFailure.cause? : InstallFailure → Option FailureCause
  | refused _ => some .refusal
  | nullCharacter _ => some .fileSystem
  | system _ => some .fileSystem
  | resolution error => error.cause?
  | render error => error.cause?

namespace Blueprint

variable {b : Blueprint} {tree : FileTree} {values : String → Option String} {destination : Path}
  {nameWrapper : Wrapper}

/-! ## Reading -/

theorem isSound_of_configIn {root : Path} {config : Config}
    (h : (configIn tree root).outcome = .ok config) : config.IsSound := by
  unfold configIn at h
  split at h
  · cases h
    exact Config.isSound_empty
  · exact Config.isSound_of_ofFile (Except.mapError_eq_ok_iff.1 h)

theorem isSound_of_ofFiles {path root : Path} {isFile : Bool} {files : List String}
    (h : (ofFiles tree path root isFile files).outcome = .ok b) : b.config.IsSound := by
  obtain ⟨config, hconfig, h⟩ := Traced.outcome_bind_eq_ok_iff.1 h
  obtain ⟨catalogue, -, h⟩ := Traced.outcome_bind_eq_ok_iff.1 h
  obtain ⟨_, -, h⟩ := Traced.outcome_bind_eq_ok_iff.1 h
  cases h
  exact isSound_of_configIn hconfig

theorem isSound_of_load {base : Path} {written : String}
    (h : (load tree base written).outcome = .ok b) : b.config.IsSound := by
  unfold load at h
  split at h
  · cases h
  · split at h
    · cases h
    · cases h
    · exact isSound_of_ofFiles h
    · exact isSound_of_ofFiles h

/-! ## Rendering -/

theorem cause?_of_target {name : String} {e : RenderError}
    (h : target destination name = .error e) : e.cause?.isSome = true := by
  unfold target at h
  split at h
  · cases h
    rfl
  · split at h
    · cases h
    · cases h
      rfl

theorem cause?_of_renderContent {names : List String} {file : String} {bytes : ByteArray}
    {e : RenderError} (hsplit : b.config.wrappers.IsSplit)
    (hnames : ∀ name ∈ names, (values name).isSome = true)
    (h : (b.renderContent values names file bytes).outcome = .error e) :
    e.cause?.isSome = true := by
  obtain ⟨w, hw⟩ := hsplit.forContent file
  unfold renderContent at h
  split at h
  · cases h
  · next text _ =>
    rw [hw] at h
    simp only [Placeholder.fill_eq_ok hnames] at h
    cases h

theorem cause?_of_renderFile {file : String} {names : List String} {e : RenderError}
    (hsplit : b.config.wrappers.IsSplit) (hnames : ∀ name ∈ names, (values name).isSome = true)
    (h : (b.renderFile tree values destination nameWrapper file names).outcome = .error e) :
    e.cause?.isSome = true := by
  rw [renderFile, Placeholder.fill_eq_ok hnames] at h
  simp only at h
  split at h
  · next e' htarget =>
    cases h
    exact cause?_of_target htarget
  · split at h
    · cases h
      rfl
    · rcases Traced.outcome_bind_eq_error_iff.1 h with h | ⟨_, -, h⟩
      · exact cause?_of_renderContent hsplit hnames h
      · cases h

theorem cause?_of_renderAll {items : List (String × List String)} {e : RenderError}
    (hsplit : b.config.wrappers.IsSplit)
    (hnames : ∀ item ∈ items, ∀ name ∈ item.2, (values name).isSome = true)
    (h : (b.renderAll tree values destination nameWrapper items).outcome = .error e) :
    e.cause?.isSome = true := by
  induction items with
  | nil => cases h
  | cons item items ih =>
    obtain ⟨hitem, hitems⟩ := List.forall_mem_cons.1 hnames
    rcases Traced.outcome_bind_eq_error_iff.1 h with h | ⟨_, -, h⟩
    · exact cause?_of_renderFile hsplit hitem h
    · rcases Traced.outcome_bind_eq_error_iff.1 h with h | ⟨_, -, h⟩
      · exact ih hitems h
      · cases h

theorem cause?_of_render {selected : List String} {e : RenderError}
    (hsplit : b.config.wrappers.IsSplit)
    (hnames : ∀ item ∈ b.selection selected, ∀ name ∈ item.2, (values name).isSome = true)
    (h : (b.render tree selected values destination).outcome = .error e) :
    e.cause?.isSome = true := by
  obtain ⟨w, hw⟩ := hsplit.forNames
  rw [render, hw] at h
  exact cause?_of_renderAll hsplit hnames h

/-- The variables of the selected files are among those that resolving ends with. -/
theorem isSome_lookup_of_mem_selection {prompter : Prompter} {supplied : String → Option String}
    {selected : List String} {table : Table} {r : List (String × String)} {c c' : Conversation}
    (h : Resolution.Yields (Resolution.resolve prompter b.catalogue supplied b.files selected table)
      c r c') :
    ∀ item ∈ b.selection selected, ∀ name ∈ item.2, (r.lookup name).isSome = true := by
  intro item hitem name hname
  obtain ⟨⟨file, index⟩, hfile, rfl⟩ := List.mem_map.1 hitem
  obtain ⟨hindex, hselected⟩ := List.mem_filter.1 hfile
  rw [lookup_isSome_iff_mem_keys, Resolution.map_fst_of_yields_resolve h,
    Resolution.mem_keys_start_iff]
  exact .ofFile (List.mem_zipIdx_iff_getElem?.1 hindex) (by simpa using hselected) hname

/-! ## Installing -/

theorem cause?_of_destinationOf {base : Path} {written : String} {e : InstallFailure}
    (h : destinationOf tree base written = .error e) : e.cause?.isSome = true := by
  unfold destinationOf at h
  split at h
  · cases h
    rfl
  · split at h
    · cases h
      rfl
    · cases h
      rfl
    · cases h

theorem cause?_of_installWith {mode : WriteMode} {selected : List String} {c : Conversation}
    {r : List (String × String)} {e : InstallFailure} (hsplit : b.config.wrappers.IsSplit)
    (hnames : ∀ item ∈ b.selection selected, ∀ name ∈ item.2, (r.lookup name).isSome = true)
    (h : (b.installWith mode tree destination selected c r).outcome = .error e) :
    e.cause?.isSome = true := by
  unfold installWith at h
  simp only at h
  split at h
  · next hrender =>
    cases h
    exact cause?_of_render hsplit hnames hrender
  · obtain ⟨_, -, rfl⟩ := Except.mapError_eq_error_iff.1 h
    rfl

/-- A blueprint that has been read is installed or fails for an outer cause. When the values of
variables are computed, each of these variables has a transform, which can be read. -/
theorem cause?_of_install_of_load {tree₀ : FileTree} {base₀ : Path} {written : String}
    (hload : (load tree₀ base₀ written).outcome = .ok b) (request : InstallRequest)
    (prompter : Prompter) (tree : FileTree) (base : Path) (c : Conversation) :
    (∀ e, (b.install request prompter tree base c).outcome = .error e → e.cause?.isSome = true) ∧
      ∀ selected leaves d, b.select request.pick = .ok selected →
        Resolution.Yields (Resolution.resolveLeaves prompter b.config.table
          (Resolution.start b.catalogue request.supplied b.files selected b.config.table).keys
          (Resolution.start b.catalogue request.supplied b.files selected b.config.table))
          c ([], leaves) d →
        ∀ name ∈ Resolution.unvalued leaves, ∃ definition text e,
          b.config.table.find? name = some definition ∧ definition.transform = some text ∧
            Expr.parse text = .ok e := by
  have hsound := isSound_of_load hload
  refine ⟨fun e h ↦ ?_, fun selected leaves d _ hleaves name hname ↦ ?_⟩
  · unfold install at h
    split at h
    · next hdestination =>
      cases h
      exact cause?_of_destinationOf hdestination
    · split at h
      · cases h
        rfl
      · split at h
        · next hresolve =>
          cases h
          exact Resolution.cause?_of_fails_resolve hsound.faithful hsound.acyclic
            (congrArg Prod.fst hresolve)
        -- what rendering asks for is what resolving has given values to
        · next hresolve =>
          exact cause?_of_installWith hsound.split (isSome_lookup_of_mem_selection hresolve) h
  · obtain ⟨definition, hfind, htransform, hrelated⟩ :=
      Resolution.exists_transform_of_mem_unvalued hsound.faithful hleaves hname
    obtain ⟨e, hparse, -⟩ := Expr.relatedVariables_eq_ok_iff.1 hrelated
    exact ⟨definition, _, e, hfind, htransform, hparse⟩

/-- A note with a placeholder in it. -/
def noteTree : FileTree := .directory [("note", .file "___name___".toUTF8 false)]

/-- The note as a blueprint. -/
def noteBlueprint : Blueprint := ⟨⟨[]⟩, true, ["note"], .empty, ⟨["name"], [(0, ["name"])]⟩⟩

theorem cause?_of_install_of_load_note :
    (load noteTree ⟨[]⟩ "note").outcome = .ok noteBlueprint ∧
      (noteBlueprint.install ⟨"out", fun _ ↦ none, none, ⟨false, false⟩⟩ .nobody noteTree ⟨[]⟩
        (.start [])).outcome = .error (.resolution (.unresolved ["name"])) ∧
      (InstallFailure.resolution (.unresolved ["name"])).cause?.isSome = true := by
  have hload : (load noteTree ⟨[]⟩ "note").outcome = .ok noteBlueprint := rfl
  have hinstall : (noteBlueprint.install ⟨"out", fun _ ↦ none, none, ⟨false, false⟩⟩ .nobody
      noteTree ⟨[]⟩ (.start [])).outcome = .error (.resolution (.unresolved ["name"])) := rfl
  exact ⟨hload, hinstall, (cause?_of_install_of_load hload _ _ _ _ _).1 _ hinstall⟩

end Blueprint

end Scaffold
