import Mathlib
import Scaffold.Config.File
import Scaffold.Proofs.Bindings
import Scaffold.Proofs.Config.Table
import Scaffold.Proofs.Dependency.Cycle
import Scaffold.Proofs.Traced

/-!
# Configurations that are accepted

What holds of a configuration once it has been accepted: its definitions are faithful, no variable
depends on itself, and every file has wrappers with two halves. The first and the last hold already
of what the checks keep while there are problems, because a check keeps nothing that is wrong.
-/

namespace Scaffold

namespace Table

variable {t : Table}

theorem keyDependencies_ofName (name : String) :
    t.keyDependencies (.ofName name) = (t.dependencies name).map .ofName := by
  rw [keyDependencies, dependencies, find?]
  cases t.entries.lookup (.ofName name) <;> rfl

theorem keyDependencies_eq_nil {key : Key} (h : key ∉ t.entries.map (·.1)) :
    t.keyDependencies key = [] := by
  have hnone : t.entries.lookup key = none :=
    Option.not_isSome_iff_eq_none.1 (mt lookup_isSome_iff_mem_keys.1 h)
  rw [keyDependencies, hnone]

/-- In a table without a cycle no variable leads through dependencies back to itself. -/
theorem acc_of_findCycle (h : t.findCycle = none) (name : String) :
    Acc (Dependency.Below t.dependencies) name := by
  have hkey : Acc (Dependency.Below t.keyDependencies) (.ofName name) :=
    Dependency.acc_of_findCycle (fun _ hkey ↦ keyDependencies_eq_nil hkey) h _
  refine Subrelation.accessible (fun {dep name} hdep ↦ ?_) (InvImage.accessible Key.ofName hkey)
  rw [InvImage, Dependency.Below, keyDependencies_ofName]
  exact List.mem_map_of_mem hdep

theorem exists_solvingOrder (h : t.findCycle = none) (names : List String) :
    ∃ sorted, t.solvingOrder names = .ok sorted := by
  obtain ⟨sorted, hsorted⟩ :=
    Dependency.exists_order_of_acc fun name (_ : name ∈ names) ↦ acc_of_findCycle h name
  exact ⟨sorted, Except.mapError_eq_ok_iff.2 hsorted⟩

end Table

namespace WrapperConfig

/-- Every file has a wrapper for its name and one for its content. -/
structure IsSplit (config : WrapperConfig) : Prop where
  /-- The wrapper of names has two halves. -/
  forNames : ∃ w, config.forNames = .ok w
  /-- The wrapper of each content has two halves. -/
  forContent : ∀ file, ∃ w, config.forContent file = .ok w

theorem exists_split_orStandard {wrapper : Option String}
    (h : ∀ text, wrapper = some text → ∃ w, Wrapper.split text = .ok w) :
    ∃ w, Wrapper.split (orStandard wrapper) = .ok w := by
  cases wrapper with
  | none => exact ⟨_, rfl⟩
  | some text =>
    rw [orStandard]
    split
    · exact ⟨_, rfl⟩
    · exact h text rfl

theorem isSplit_of_split {config : WrapperConfig}
    (hname : ∀ text, config.fileName = some text → ∃ w, Wrapper.split text = .ok w)
    (hcontent : ∀ text, config.content = some text → ∃ w, Wrapper.split text = .ok w)
    (hextensions : ∀ override ∈ config.extensions, ∃ w, Wrapper.split override.wrapper = .ok w) :
    config.IsSplit := by
  refine ⟨exists_split_orStandard hname, fun file ↦ ?_⟩
  rw [forContent]
  split
  · next override hfind => exact hextensions override (List.mem_of_find?_eq_some hfind)
  · exact exists_split_orStandard hcontent

end WrapperConfig

namespace Config

open Document

/-- What holds of an accepted configuration. -/
structure IsSound (config : Config) : Prop where
  /-- Definitions list the variables that their transforms refer to. -/
  faithful : config.table.IsFaithful
  /-- No variable depends on itself. -/
  acyclic : config.table.findCycle = none
  /-- Every file has wrappers. -/
  split : config.wrappers.IsSplit

theorem isSound_empty : Config.empty.IsSound := by
  refine ⟨Table.isFaithful_of_forall_mem (by simp [empty, Table.empty]), rfl, ?_⟩
  exact WrapperConfig.isSplit_of_split (by simp [empty, WrapperConfig.empty])
    (by simp [empty, WrapperConfig.empty]) (by simp [empty, WrapperConfig.empty])

/-! ## Wrappers -/

theorem exists_split_of_checkWrapper {field text : String} {value : Option Value}
    (h : (checkWrapper field value).1 = some text) : ∃ w, Wrapper.split text = .ok w := by
  unfold checkWrapper at h
  split at h
  · next wrapper =>
    split at h
    · next w hsplit =>
      obtain rfl := Option.some.inj h
      exact ⟨w, hsplit⟩
    · cases h
  all_goals cases h

theorem exists_split_of_checkOverride {index : ℕ} {value : Value} {override : ExtensionWrapper}
    (h : (checkOverride index value).1 = some override) :
    ∃ w, Wrapper.split override.wrapper = .ok w := by
  unfold checkOverride at h
  split at h
  · next entries =>
    split at h
    · cases h
    · next ending hending =>
      simp only at h
      split at h
      · next text problems hcheck =>
        obtain rfl := Option.some.inj h
        exact exists_split_of_checkWrapper (congrArg Prod.fst hcheck)
      · cases h
  · cases h

theorem exists_split_of_mem_checkOverrides {value : Option Value} {override : ExtensionWrapper}
    (h : override ∈ (checkOverrides value).1) : ∃ w, Wrapper.split override.wrapper = .ok w := by
  unfold checkOverrides at h
  split at h
  · cases h
  · next items =>
    obtain ⟨checked, hchecked, hfst⟩ := List.mem_filterMap.1 h
    obtain ⟨⟨item, index⟩, -, rfl⟩ := List.mem_map.1 hchecked
    exact exists_split_of_checkOverride hfst
  all_goals cases h

theorem isSplit_checkWrappers (entries : List (Value × Value)) :
    (checkWrappers entries).1.IsSplit :=
  WrapperConfig.isSplit_of_split (fun _ ↦ exists_split_of_checkWrapper)
    (fun _ ↦ exists_split_of_checkWrapper) fun _ ↦ exists_split_of_mem_checkOverrides

/-! ## Definitions -/

theorem relatedVariables_of_checkTransform {place text : String} {names : List String}
    {value : Option Value} (h : (checkTransform place value).1 = some (text, names)) :
    text.isEmpty = false ∧ Expr.relatedVariables text = .ok names := by
  unfold checkTransform at h
  split at h
  · cases h
  · cases h
  · next written =>
    split at h
    · cases h
    · next hempty =>
      split at h
      · next found hfound =>
        cases h
        exact ⟨Bool.eq_false_iff.2 hempty, hfound⟩
      · cases h
  · cases h

theorem isFaithful_checkDefinition (place : String) (entries : List (Value × Value)) :
    (checkDefinition place entries).1.IsFaithful := by
  -- a transform with a problem is not kept, and without it there are no dependencies either
  have hdefinition : (checkDefinition place entries).1 =
      ⟨(checkTransform place (Value.field? "transform" entries)).1.map Prod.fst,
        (checkSkip place (Value.field? "skipIfDefined" entries)).1,
        (checkDefault place (Value.field? "default" entries)).1,
        ((checkTransform place (Value.field? "transform" entries)).1.map Prod.snd).getD []⟩ := rfl
  rw [hdefinition, Definition.IsFaithful, Definition.transform?]
  cases hcheck : (checkTransform place (Value.field? "transform" entries)).1 with
  | none => rfl
  | some found =>
    obtain ⟨text, names⟩ := found
    obtain ⟨hempty, hnames⟩ := relatedVariables_of_checkTransform hcheck
    simpa [Option.filter_some, hempty] using hnames

theorem isFaithful_of_checkEntry {key value : Value} {entry : Key × Definition}
    (h : (checkEntry key value).1 = some entry) : entry.2.IsFaithful := by
  unfold checkEntry at h
  split at h
  · cases h
  · cases h
    exact isFaithful_checkDefinition _ _
  · cases h

theorem isFaithful_checkTable (value : Option Value) : (checkTable value).1.IsFaithful := by
  refine Table.isFaithful_of_forall_mem fun entry hentry ↦ ?_
  unfold checkTable at hentry
  split at hentry
  · cases hentry
  · next entries =>
    obtain ⟨checked, hchecked, hfst⟩ := List.mem_filterMap.1 hentry
    obtain ⟨⟨key, value⟩, -, rfl⟩ := List.mem_map.1 hchecked
    exact isFaithful_of_checkEntry hfst
  · cases hentry

/-! ## Whole configurations -/

theorem isSound_of_ofValue {source : Option String} {value : Value} {config : Config}
    (h : ofValue source value = .ok config) : config.IsSound := by
  unfold ofValue at h
  split at h
  · next entries =>
    split at h
    · cases h
    · simp only at h
      split at h
      · split at h
        · cases h
        · next hproblem =>
          cases h
          exact ⟨isFaithful_checkTable _, Option.map_eq_none_iff.1 hproblem,
            isSplit_checkWrappers entries⟩
      · cases h
  · cases h

theorem isSound_of_ofText {source text : String} {config : Config}
    (h : ofText source text = .ok config) : config.IsSound := by
  unfold ofText at h
  split at h
  · cases h
  · cases h
  · exact isSound_of_ofValue (Except.mapError_eq_ok_iff.1 h)
  · exact isSound_of_ofValue (Except.mapError_eq_ok_iff.1 h)

theorem isSound_of_ofFile {tree : FileTree} {base : Path} {file : String} {config : Config}
    (h : ofFile tree base file = .ok config) : config.IsSound := by
  unfold ofFile at h
  simp only at h
  split at h
  · cases h
  · split at h
    · cases h
    · split at h
      · cases h
      · exact isSound_of_ofText h

end Config

end Scaffold
