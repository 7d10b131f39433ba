import Mathlib
import Scaffold.Proofs.Install.Failure
import Scaffold.Proofs.Install.Preparation
import Scaffold.Proofs.Resolution.Solution

/-!
# Picking files

Fewer files need fewer variables, and the values of these are the same as for all files: what
resolving comes to for a selection is a solution for each part of it. Rendering a file reads the
values of the variables of that file and no others. So each picked file is rendered as it would have
been together with all the others, and if all the others can be rendered too, what is prepared for
the picked files is just their part of what is prepared for all.
-/

namespace Scaffold

/-! ## Fewer files, fewer variables -/

namespace Resolution

variable {catalogue : Catalogue} {given σ : String → Option String}
  {files selected selected' : List String} {table : Table} {name : String}

theorem Required.mono (hsub : selected ⊆ selected')
    (h : Required catalogue given files selected table name) :
    Required catalogue given files selected' table name := by
  induction h with
  | ofFile hfile hselected hname => exact .ofFile hfile (hsub hselected) hname
  | ofDependency _ hnone hdep ih => exact .ofDependency ih hnone hdep

theorem IsSolution.mono (hsub : selected ⊆ selected')
    (h : IsSolution catalogue given files selected' table σ) :
    IsSolution catalogue given files selected table σ :=
  fun name hrequired ↦ h name (hrequired.mono hsub)

/-- Resolving for a part of the files comes to a part of what it comes to for all. -/
theorem exists_part_of_subset {c d : Conversation} {r' : List (String × String)}
    (hfaithful : table.IsFaithful) (hacyclic : table.findCycle = none) (hsub : selected ⊆ selected')
    (h : Yields (resolve .nobody catalogue given files selected' table) c r' d) (e : Conversation) :
    ∃ r e', Yields (resolve .nobody catalogue given files selected table) e r e' ∧
      ∀ name ∈ r.map Prod.fst, name ∈ r'.map Prod.fst ∧ r.lookup name = r'.lookup name :=
  exists_part_of_isSolution hfaithful hacyclic h (fun _ hrequired ↦ hrequired.mono hsub)
    ((isSolution_of_yields hfaithful h).mono hsub) e

end Resolution

/-! ## What rendering reads -/

/-- Filling in reads the values of the variables that it fills in. -/
theorem Placeholder.fill_congr {values values' : String → Option String} {names : List String}
    (h : ∀ name ∈ names, values name = values' name) (w : Wrapper) (text : String) :
    fill w values names text = fill w values' names text := by
  have hmissing : names.filter (fun name ↦ (values name).isNone) =
      names.filter fun name ↦ (values' name).isNone :=
    List.filter_congr fun name hname ↦ by rw [h name hname]
  have hfold : names.foldl (fun text name ↦ fillOne w text name ((values name).getD ""))
        text.toList =
      names.foldl (fun text name ↦ fillOne w text name ((values' name).getD "")) text.toList :=
    List.foldl_ext _ _ _ fun text name hname ↦ by rw [h name hname]
  rw [fill, fill, hmissing, hfold]

namespace Blueprint

variable {b : Blueprint} {tree : FileTree} {destination : Path} {nameWrapper : Wrapper}
  {values values' : String → Option String} {selected selected' names : List String}
  {selection : List (String × List String)} {items : List RenderedFile}

theorem renderContent_congr (h : ∀ name ∈ names, values name = values' name) (file : String)
    (bytes : ByteArray) :
    b.renderContent values names file bytes = b.renderContent values' names file bytes := by
  unfold renderContent
  simp only [Placeholder.fill_congr h]

theorem renderFile_congr (h : ∀ name ∈ names, values name = values' name) (file : String) :
    b.renderFile tree values destination nameWrapper file names =
      b.renderFile tree values' destination nameWrapper file names := by
  unfold renderFile
  simp only [Placeholder.fill_congr h, renderContent_congr h]

theorem renderAll_congr (h : ∀ file ∈ selection, ∀ name ∈ file.2, values name = values' name) :
    b.renderAll tree values destination nameWrapper selection =
      b.renderAll tree values' destination nameWrapper selection := by
  induction selection with
  | nil => rfl
  | cons file selection ih =>
    obtain ⟨hfile, hselection⟩ := List.forall_mem_cons.1 h
    rw [renderAll, renderAll, renderFile_congr hfile, ih hselection]

theorem render_congr
    (h : ∀ file ∈ b.selection selected, ∀ name ∈ file.2, values name = values' name) :
    b.render tree selected values destination = b.render tree selected values' destination := by
  unfold render
  simp only [renderAll_congr h]

/-! ## A part of the files -/

theorem selection_of_subset (hsub : selected ⊆ selected') :
    b.selection selected =
      (b.selection selected').filter fun file ↦ selected.contains file.1 := by
  rw [selection, selection, List.filter_map, List.filter_filter]
  refine congrArg _ (List.filter_congr fun file _ ↦ ?_)
  by_cases hfile : file.1 ∈ selected
  · simp [hfile, hsub hfile]
  · simp [hfile]

/-- Of the files of a selection that have been rendered, those that are selected. -/
def renderedOf (selected : List String) (selection : List (String × List String))
    (items : List RenderedFile) : List RenderedFile :=
  ((selection.zip items).filter fun entry ↦ selected.contains entry.1.1).map Prod.snd

theorem renderedOf_cons {file : String × List String} {item : RenderedFile} :
    renderedOf selected (file :: selection) (item :: items) =
      if selected.contains file.1 then item :: renderedOf selected selection items
      else renderedOf selected selection items := by
  rw [renderedOf, List.zip_cons_cons, List.filter_cons]
  split <;> rfl

/-- If all files can be rendered, so can a part of them, and to the same. -/
theorem outcome_renderAll_filter
    (h : (b.renderAll tree values destination nameWrapper selection).outcome = .ok items) :
    (b.renderAll tree values destination nameWrapper
        (selection.filter fun file ↦ selected.contains file.1)).outcome =
      .ok (renderedOf selected selection items) := by
  induction selection generalizing items with
  | nil => rfl
  | cons file selection ih =>
    obtain ⟨item, hitem, h⟩ := Traced.outcome_bind_eq_ok_iff.1 h
    obtain ⟨rest, hrest, h⟩ := Traced.outcome_bind_eq_ok_iff.1 h
    cases h
    rw [renderedOf_cons, List.filter_cons]
    -- a file that is left out has been rendered as well, and its item is left out with it
    split
    · exact Traced.outcome_bind_eq_ok_iff.2
        ⟨item, hitem, Traced.outcome_bind_eq_ok_iff.2 ⟨_, ih hrest, rfl⟩⟩
    · exact ih hrest

theorem outcome_render_of_subset (hsub : selected ⊆ selected')
    (h : (b.render tree selected' values destination).outcome = .ok items) :
    (b.render tree selected values destination).outcome =
      .ok (renderedOf selected (b.selection selected') items) := by
  unfold render at h ⊢
  split at h
  · cases h
  · rw [selection_of_subset hsub]
    exact outcome_renderAll_filter h

theorem select_subset {pick : Option String} {picked : List String}
    (h : b.select pick = .ok picked) : picked ⊆ b.files := by
  unfold select at h
  split at h
  · cases h
    exact List.Subset.refl _
  · split at h
    · cases h
    · cases h
      exact List.filter_subset_self _

/-! ## Picking -/

/-- The values that a part of a result gives to the variables of the selected files are those of the
result. -/
theorem lookup_eq_of_part {supplied : String → Option String} {r r' : List (String × String)}
    {c d : Conversation}
    (h : Resolution.Yields (Resolution.resolve .nobody b.catalogue supplied b.files selected
      b.config.table) c r d)
    (hpart : ∀ name ∈ r.map Prod.fst, name ∈ r'.map Prod.fst ∧ r.lookup name = r'.lookup name) :
    ∀ file ∈ b.selection selected, ∀ name ∈ file.2, r.lookup name = r'.lookup name :=
  fun file hfile name hname ↦ (hpart name
    (lookup_isSome_iff_mem_keys.1 (isSome_lookup_of_mem_selection h file hfile name hname))).2

/-- Without a person to ask, taking fewer files changes no value: resolving succeeds and binds some
of the variables that it binds for all files, to the same values, and each of the files is rendered
as with the values for all. So, when an installation of the whole blueprint comes to the writing,
one of picked files does, with their part of what has been rendered. -/
theorem prepares_picked (b : Blueprint) (hfaithful : b.config.table.IsFaithful)
    (hacyclic : b.config.table.findCycle = none) :
    (∀ supplied selected selected' c r', selected ⊆ selected' →
      ((Resolution.resolve .nobody b.catalogue supplied b.files selected'
        b.config.table).run.run c).1 = .ok r' →
      ∀ d, ∃ r,
        ((Resolution.resolve .nobody b.catalogue supplied b.files selected
          b.config.table).run.run d).1 = .ok r ∧
        (∀ name ∈ r.map Prod.fst, name ∈ r'.map Prod.fst ∧ r.lookup name = r'.lookup name) ∧
        ∀ file ∈ b.selection selected, file ∈ b.selection selected' ∧
          ∀ tree destination nameWrapper,
            b.renderFile tree (r.lookup ·) destination nameWrapper file.1 file.2 =
              b.renderFile tree (r'.lookup ·) destination nameWrapper file.1 file.2) ∧
    ∀ request tree base c values items c', request.pick = none →
      b.Prepares request .nobody tree base c values items c' →
      ∀ pick picked, b.select pick = .ok picked → ∀ d, ∃ r d',
        b.Prepares { request with pick := pick } .nobody tree base d r
          (renderedOf picked (b.selection b.files) items) d' ∧
        ∀ name ∈ r.map Prod.fst,
          name ∈ values.map Prod.fst ∧ r.lookup name = values.lookup name := by
  constructor
  · intro supplied selected selected' c r' hsub h d
    obtain ⟨r, d', hyields, hpart⟩ := Resolution.exists_part_of_subset hfaithful hacyclic hsub
      (Prod.ext h rfl) d
    have hvalues := lookup_eq_of_part hyields hpart
    refine ⟨r, congrArg Prod.fst hyields, hpart, fun file hfile ↦ ⟨?_, fun _ _ _ ↦ ?_⟩⟩
    · rw [selection_of_subset hsub] at hfile
      exact List.mem_of_mem_filter hfile
    · exact renderFile_congr (hvalues file hfile) file.1
  · intro request tree base c values items c' hall hprepares pick picked hpick d
    obtain ⟨destination, selected, e, hdestination, hselected, hresolve, hrender, -⟩ := hprepares
    obtain rfl : b.files = selected := by
      rw [hall] at hselected
      exact Except.ok.inj hselected
    have hsub := select_subset hpick
    obtain ⟨r, d', hyields, hpart⟩ := Resolution.exists_part_of_subset hfaithful hacyclic hsub
      hresolve d
    -- the picked files read none but their own variables, so the values for all would do as well
    refine ⟨r, _, ⟨destination, picked, d', hdestination, hpick, hyields, ?_, rfl⟩, hpart⟩
    rw [render_congr (lookup_eq_of_part hyields hpart)]
    exact outcome_render_of_subset hsub hrender

/-- The first of the two files alone has the values that it has together with the second, and is
installed as it is then. -/
theorem prepares_picked_twins :
    (∃ r, ((Resolution.resolve .nobody twins.catalogue
        (fun name ↦ (twinNames "one" "two").lookup name) twins.files ["___aa___"]
        .empty).run.run (.start [])).1 = .ok r ∧
      ∀ name ∈ r.map Prod.fst, name ∈ ["aa", "bb"] ∧
        r.lookup name = (twinNames "one" "two").lookup name) ∧
    ∃ r d, twins.Prepares { twinsRequest "one" "two" ⟨false, false⟩ with pick := some "aa" }
        .nobody twinsTree ⟨[]⟩ (.start []) r
        [⟨⟨["twins", "___aa___"]⟩, ⟨["out", "one"]⟩, .text "one"⟩] d ∧
      ∀ name ∈ r.map Prod.fst, name ∈ ["aa", "bb"] ∧
        r.lookup name = (twinNames "one" "two").lookup name := by
  obtain ⟨hnarrow, hpick⟩ :=
    prepares_picked twins Config.isSound_empty.faithful Config.isSound_empty.acyclic
  have hresolve := yields_resolve_twins "one" "two"
  have hprepares : twins.Prepares (twinsRequest "one" "two" ⟨false, false⟩) .nobody twinsTree ⟨[]⟩
      (.start []) (twinNames "one" "two")
      [⟨⟨["twins", "___aa___"]⟩, ⟨["out", "one"]⟩, .text "one"⟩,
        ⟨⟨["twins", "___bb___"]⟩, ⟨["out", "two"]⟩, .text "two"⟩] _ :=
    ⟨⟨["out"]⟩, twins.files, .start [], destinationOf_twins, select_twins, hresolve, rfl, rfl⟩
  obtain ⟨r, hr, hvalues, -⟩ := hnarrow _ ["___aa___"] twins.files _ _ (by simp [twins])
    (congrArg Prod.fst hresolve) (.start [])
  exact ⟨⟨r, hr, hvalues⟩,
    hpick _ _ _ _ _ _ _ rfl hprepares (some "aa") ["___aa___"] rfl (.start [])⟩

end Blueprint

end Scaffold
