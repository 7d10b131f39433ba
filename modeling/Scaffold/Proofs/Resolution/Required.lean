import Mathlib
import Scaffold.Proofs.Resolution.Waves

/-!
# The variables that are resolved

Resolving starts from the values that are supplied for the variables of the selected files and for
all that these depend on, supplied variables excepted. The names bound at the start are the least
set with these two properties.
-/

namespace Scaffold.Resolution

variable {catalogue : Catalogue} {supplied : String → Option String} {files selected : List String}
  {table : Table}

/-- The variables that resolving has to bind: those of the selected files, and with each one that is
not supplied those that it depends on. -/
inductive Required (catalogue : Catalogue) (supplied : String → Option String)
    (files selected : List String) (table : Table) : String → Prop where
  /-- A variable of a selected file. -/
  | ofFile {index : ℕ} {file name : String} (hfile : files[index]? = some file)
    (hselected : file ∈ selected) (hname : name ∈ catalogue.variablesOf index) :
    Required catalogue supplied files selected table name
  /-- A variable that one without a supplied value depends on. -/
  | ofDependency {name dep : String} (h : Required catalogue supplied files selected table name)
    (hnone : supplied name = none) (hdep : dep ∈ table.dependencies name) :
    Required catalogue supplied files selected table dep

/-- A set of variables that contains those of the selected files and what its members without a
supplied value depend on. -/
def Covers (catalogue : Catalogue) (supplied : String → Option String)
    (files selected : List String) (table : Table) (names : Set String) : Prop :=
  (∀ index file, files[index]? = some file → file ∈ selected →
    ∀ name ∈ catalogue.variablesOf index, name ∈ names) ∧
  ∀ name ∈ names, supplied name = none → ∀ dep ∈ table.dependencies name, dep ∈ names

theorem isLeast_required :
    IsLeast {names | Covers catalogue supplied files selected table names}
      {name | Required catalogue supplied files selected table name} := by
  refine ⟨⟨fun index file hfile hsel name hname ↦ .ofFile hfile hsel hname,
    fun name hname hnone dep hdep ↦ .ofDependency hname hnone hdep⟩, ?_⟩
  intro names hcovers name hname
  induction hname with
  | ofFile hfile hsel hname => exact hcovers.1 _ _ hfile hsel _ hname
  | ofDependency _ hnone hdep ih => exact hcovers.2 _ ih hnone _ hdep

theorem mem_needed {name : String} :
    name ∈ needed catalogue files selected ↔
      ∃ index file, files[index]? = some file ∧ file ∈ selected ∧
        name ∈ catalogue.variablesOf index := by
  rw [needed, List.mem_eraseDups, List.mem_flatMap]
  constructor
  · rintro ⟨⟨file, index⟩, hfile, hname⟩
    rw [List.mem_zipIdx_iff_getElem?] at hfile
    by_cases hsel : file ∈ selected
    · exact ⟨index, file, hfile, hsel, by simpa [hsel] using hname⟩
    · simp [hsel] at hname
  · rintro ⟨index, file, hfile, hsel, hname⟩
    exact ⟨(file, index), List.mem_zipIdx_iff_getElem?.2 hfile, by simpa [hsel] using hname⟩

theorem get?_seed {names : List String} {name : String} :
    (seed supplied names).get? name = if name ∈ names then some (supplied name) else none := by
  have hfold : ∀ (names : List String) (values : Values),
      (names.foldl (fun values name ↦ values.insert name (supplied name)) values).get? name =
        if name ∈ names then some (supplied name) else values.get? name := by
    intro names
    induction names with
    | nil => simp
    | cons head names ih =>
      intro values
      simp only [List.foldl_cons, ih, Bindings.get?_insert, List.mem_cons]
      by_cases hname : name ∈ names
      · simp [hname]
      · by_cases hhead : name = head <;> simp [hname, hhead]
  exact hfold names .empty

theorem mem_keys_seed {names : List String} {name : String} :
    name ∈ (seed supplied names).keys ↔ name ∈ names := by
  rw [Bindings.mem_keys_iff_exists, get?_seed]
  by_cases h : name ∈ names <;> simp [h]

theorem extends_start : Extends supplied (seed supplied (needed catalogue files selected))
    (start catalogue supplied files selected table) :=
  extends_closure Table.mem_allDependencies

/-- Before anything is resolved, every variable has just what is supplied for it. -/
theorem get?_start {name : String}
    (h : name ∈ (start catalogue supplied files selected table).keys) :
    (start catalogue supplied files selected table).get? name = some (supplied name) := by
  by_cases hold : name ∈ (seed supplied (needed catalogue files selected)).keys
  · rw [extends_start.get?_eq hold, get?_seed, if_pos (mem_keys_seed.1 hold)]
  · exact extends_start.get?_of_notMem h hold

theorem valueOf_start {name : String}
    (h : name ∈ (start catalogue supplied files selected table).keys) :
    valueOf (start catalogue supplied files selected table) name = supplied name := by
  rw [valueOf, get?_start h]
  rfl

theorem required_of_mem_unvalued_seed {name : String}
    (h : name ∈ unvalued (seed supplied (needed catalogue files selected))) :
    Required catalogue supplied files selected table name ∧ supplied name = none := by
  have hneeded : name ∈ needed catalogue files selected :=
    mem_keys_seed.1 (mem_keys_of_mem_unvalued h)
  rw [mem_unvalued, get?_seed, if_pos hneeded, Option.some.injEq] at h
  obtain ⟨index, file, hfile, hsel, hname⟩ := mem_needed.1 hneeded
  exact ⟨.ofFile hfile hsel hname, h⟩

theorem required_of_leads {via : String → Prop} (hvia : ∀ mid, via mid → supplied mid = none)
    {source name : String} {n : ℕ}
    (hsource : Required catalogue supplied files selected table source)
    (hnone : supplied source = none) (h : Leads table.dependencies via source n name) :
    Required catalogue supplied files selected table name := by
  induction h with
  | direct hdep => exact .ofDependency hsource hnone hdep
  | through _ hmid hdep ih => exact .ofDependency ih (hvia _ hmid) hdep

theorem mem_keys_start_iff {name : String} :
    name ∈ (start catalogue supplied files selected table).keys ↔
      Required catalogue supplied files selected table name := by
  constructor
  · intro h
    rcases (mem_keys_closure_iff Table.mem_allDependencies).1 h with
      hseed | ⟨n, -, source, hsource, hleads⟩
    · obtain ⟨index, file, hfile, hsel, hname⟩ := mem_needed.1 (mem_keys_seed.1 hseed)
      exact .ofFile hfile hsel hname
    · obtain ⟨hrequired, hnone⟩ := required_of_mem_unvalued_seed hsource
      exact required_of_leads (fun _ hmid ↦ hmid.1) hrequired hnone hleads
  · intro h
    induction h with
    | ofFile hfile hsel hname =>
      exact extends_start.keys_subset (mem_keys_seed.2 (mem_needed.2 ⟨_, _, hfile, hsel, hname⟩))
    | ofDependency _ hnone hdep ih =>
      -- a name that is not supplied has no value before anything is resolved
      refine mem_keys_closure_of_dependency Table.mem_allDependencies ?_ hdep
      rw [mem_unvalued, ← hnone]
      exact get?_start ih

end Scaffold.Resolution
