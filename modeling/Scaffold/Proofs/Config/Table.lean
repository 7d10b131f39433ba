import Mathlib
import Scaffold.Config.Table
import Scaffold.Proofs.Dependency.Order
import Scaffold.Proofs.Traced
import Scaffold.Proofs.Transform.Locality

/-!
# Laws of tables

What a table says about a variable, and in which order it has variables computed. A table is
faithful when its definitions list as dependencies just the variables that their transforms refer
to; this is how tables are configured, and all that is proved about computed values rests on it.
-/

namespace Scaffold

/-- The dependencies of a definition are the variables that its transform refers to. -/
def Definition.IsFaithful (d : Definition) : Prop :=
  match d.transform? with
  | some text => Expr.relatedVariables text = .ok d.dependencies
  | none => d.dependencies = []

theorem Definition.relatedVariables_of_isFaithful {d : Definition} {text : String}
    (h : d.IsFaithful) (htext : d.transform? = some text) :
    Expr.relatedVariables text = .ok d.dependencies := by
  rwa [IsFaithful, htext] at h

theorem Definition.transform_eq_of_transform? {d : Definition} {text : String}
    (h : d.transform? = some text) : d.transform = some text :=
  (Option.filter_eq_some_iff.1 h).1

theorem Definition.transform?_isSome_of_not_isLeaf {d : Definition} (h : d.isLeaf = false) :
    ∃ text, d.transform? = some text := by
  rw [isLeaf, Bool.or_eq_false_iff, Option.isNone_eq_false_iff] at h
  exact Option.isSome_iff_exists.1 h.1

/-- The transform of a faithful leaf refers to no variable. -/
theorem Definition.dependencies_eq_nil_of_isLeaf {d : Definition} (hd : d.IsFaithful)
    (h : d.isLeaf = true) : d.dependencies = [] := by
  rw [isLeaf, Bool.or_eq_true, Option.isNone_iff_eq_none, List.isEmpty_iff] at h
  rcases h with h | h
  · rwa [IsFaithful, h] at hd
  · exact h

namespace Table

/-- All definitions that variables have are faithful. -/
def IsFaithful (t : Table) : Prop :=
  ∀ name d, t.find? name = some d → d.IsFaithful

theorem mem_entries_of_find? {t : Table} {name : String} {d : Definition}
    (h : t.find? name = some d) : (Key.ofName name, d) ∈ t.entries := by
  obtain ⟨before, after, hentries, -⟩ := List.lookup_eq_some_iff.1 h
  rw [hentries]
  exact List.mem_append_right _ List.mem_cons_self

theorem isFaithful_of_forall_mem {t : Table} (h : ∀ entry ∈ t.entries, entry.2.IsFaithful) :
    t.IsFaithful :=
  fun _ _ hfind ↦ h _ (mem_entries_of_find? hfind)

theorem dependencies_of_find? {t : Table} {name : String} {d : Definition}
    (h : t.find? name = some d) : t.dependencies name = d.dependencies := by
  rw [dependencies, h]

/-- The variables that anything in the table depends on, with repetitions. -/
def allDependencies (t : Table) : List String := t.entries.flatMap (·.2.dependencies)

theorem mem_allDependencies {t : Table} (name : String) :
    ∀ dep ∈ t.dependencies name, dep ∈ t.allDependencies := by
  intro dep hdep
  rw [dependencies] at hdep
  cases hfind : t.find? name with
  | none => simp [hfind] at hdep
  | some d =>
    rw [hfind] at hdep
    exact List.mem_flatMap.2 ⟨(Key.ofName name, d), mem_entries_of_find? hfind, hdep⟩

theorem order_of_solvingOrder {t : Table} {names sorted : List String}
    (h : t.solvingOrder names = .ok sorted) :
    Dependency.order t.dependencies names = .ok sorted :=
  Except.mapError_eq_ok_iff.1 h

end Table

end Scaffold
