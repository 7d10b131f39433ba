import Mathlib
import Scaffold.Proofs.Resolution.Phases
import Scaffold.Proofs.Resolution.Required

/-!
# How resolving ends

Resolving that comes to an end has gone through all its phases, with every leaf having a value.
Whoever is asked, the names in its result are those bound at the start, each with a value.
-/

namespace Scaffold.Resolution

variable {catalogue : Catalogue} {supplied : String → Option String} {files selected : List String}
  {table : Table} {prompter : Prompter} {c c' : Conversation} {r : List (String × String)}

/-- What resolving does once every leaf has a value. -/
def computeRest (prompter : Prompter) (table : Table) (leaves : Values) :
    Resolving (List (String × String)) :=
  match table.solvingOrder (unvalued leaves) with
  | .error e => throw (.circular e)
  | .ok derived => do
    let values ← computeAll table derived leaves
    if prompter = .nobody then return settled values
    return settled (← confirmAll prompter table derived values)

theorem yields_resolve_iff :
    Yields (resolve prompter catalogue supplied files selected table) c r c' ↔
      ∃ leaves d,
        Yields (resolveLeaves prompter table (start catalogue supplied files selected table).keys
          (start catalogue supplied files selected table)) c ([], leaves) d ∧
        Yields (computeRest prompter table leaves) d r c' := by
  constructor
  · intro h
    obtain ⟨⟨unresolved, leaves⟩, d, hleaves, h⟩ := yields_bind.1 h
    cases unresolved with
    | cons name names =>
      obtain ⟨_, _, hthrow, -⟩ := yields_bind.1 h
      exact absurd hthrow not_yields_throw
    | nil => exact ⟨leaves, d, hleaves, h⟩
  · rintro ⟨leaves, d, hleaves, hrest⟩
    exact yields_bind.2 ⟨([], leaves), d, hleaves, hrest⟩

theorem fails_resolve {e : ResolutionError}
    (h : Fails (resolve prompter catalogue supplied files selected table) c e) :
    Fails (resolveLeaves prompter table (start catalogue supplied files selected table).keys
        (start catalogue supplied files selected table)) c e ∨
      (∃ names, e = .unresolved names) ∨
      ∃ leaves d,
        Yields (resolveLeaves prompter table (start catalogue supplied files selected table).keys
          (start catalogue supplied files selected table)) c ([], leaves) d ∧
        Fails (computeRest prompter table leaves) d e := by
  rcases fails_bind.1 h with h | ⟨⟨unresolved, leaves⟩, d, hleaves, h⟩
  · exact .inl h
  · cases unresolved with
    | cons name names =>
      rcases fails_bind.1 h with h | ⟨_, _, hthrow, -⟩
      · exact .inr (.inl ⟨name :: names, (fails_throw.1 h).symm⟩)
      · exact absurd hthrow not_yields_throw
    | nil => exact .inr (.inr ⟨leaves, d, hleaves, h⟩)

/-- Resolving goes through its phases: the leaves get values, none is left without one, the other
variables are computed in an order, and what has been computed is confirmed if there is someone to
ask. -/
theorem exists_phases_of_yields
    (h : Yields (resolve prompter catalogue supplied files selected table) c r c') :
    ∃ leaves sorted computed final d d',
      Yields (resolveLeaves prompter table (start catalogue supplied files selected table).keys
        (start catalogue supplied files selected table)) c ([], leaves) d ∧
      table.solvingOrder (unvalued leaves) = .ok sorted ∧
      Yields (computeAll table sorted leaves) d computed d' ∧
      (prompter = .nobody ∧ final = computed ∨
        prompter ≠ .nobody ∧ Yields (confirmAll prompter table sorted computed) d' final c') ∧
      r = settled final := by
  obtain ⟨leaves, d, hleaves, h⟩ := yields_resolve_iff.1 h
  cases horder : table.solvingOrder (unvalued leaves) with
  | error e =>
    rw [computeRest, horder] at h
    exact absurd h not_yields_throw
  | ok sorted =>
    rw [computeRest, horder] at h
    obtain ⟨computed, d', hcomputed, h⟩ := yields_bind.1 h
    by_cases hp : prompter = .nobody
    · rw [if_pos hp] at h
      exact ⟨leaves, sorted, computed, computed, d, d', hleaves, horder, hcomputed,
        .inl ⟨hp, rfl⟩, (yields_pure.1 h).1.symm⟩
    · rw [if_neg hp] at h
      obtain ⟨final, d'', hfinal, h⟩ := yields_bind.1 h
      obtain ⟨hr, rfl⟩ := yields_pure.1 h
      exact ⟨leaves, sorted, computed, final, d, d', hleaves, horder, hcomputed,
        .inr ⟨hp, hfinal⟩, hr.symm⟩

theorem leafPass_start {leaves : Values} {unresolved : List String}
    (h : Yields (resolveLeaves prompter table (start catalogue supplied files selected table).keys
      (start catalogue supplied files selected table)) c (unresolved, leaves) c') :
    LeafPass prompter table (start catalogue supplied files selected table).keys
      (start catalogue supplied files selected table) unresolved leaves :=
  leafPass_of_yields (start catalogue supplied files selected table).nodup (fun _ hname ↦ hname) h

/-- The variables left to be computed are those that are not supplied and come from others. -/
theorem mem_unvalued_iff_of_leafPass {leaves : Values} {name : String}
    (h : LeafPass prompter table (start catalogue supplied files selected table).keys
      (start catalogue supplied files selected table) [] leaves) :
    name ∈ unvalued leaves ↔ name ∈ (start catalogue supplied files selected table).keys ∧
      supplied name = none ∧ isDerived table name = true := by
  constructor
  · intro hmem
    have hkey : name ∈ (start catalogue supplied files selected table).keys :=
      h.keys ▸ mem_keys_of_mem_unvalued hmem
    rw [mem_unvalued] at hmem
    by_cases hopen : IsOpenLeaf table (start catalogue supplied files selected table) name
    · obtain ⟨value, _, _, _, -, hget, hreport⟩ := h.leaf name hkey hopen
      rw [hget, Option.some.injEq] at hmem
      exact absurd (hreport hmem) List.not_mem_nil
    · rw [h.other name fun hin ↦ hopen hin.2, get?_start hkey, Option.some.injEq] at hmem
      rw [IsOpenLeaf, valueOf_start hkey, not_and, Bool.not_eq_false] at hopen
      exact ⟨hkey, hmem, hopen hmem⟩
  · rintro ⟨hkey, hnone, hderived⟩
    rw [mem_unvalued, h.other name fun hin ↦ absurd hin.2.2 (by simp [hderived]), get?_start hkey,
      hnone]

theorem isDerived_of_find? {name : String} {d : Definition} (h : table.find? name = some d) :
    isDerived table name = !d.isLeaf := by
  rw [isDerived, h, Option.any_some]

theorem isLeaf_of_find? {name : String} {d : Definition} (h : isDerived table name = false)
    (hfind : table.find? name = some d) : d.isLeaf = true := by
  rwa [isDerived_of_find? hfind, Bool.not_eq_false'] at h

theorem exists_transform_of_isDerived {name : String} (hfaithful : table.IsFaithful)
    (h : isDerived table name = true) :
    ∃ d, table.find? name = some d ∧ d.transform = some (transformOf table name) ∧
      Expr.relatedVariables (transformOf table name) = .ok (table.dependencies name) := by
  cases hd : table.find? name with
  | none => simp [isDerived, hd] at h
  | some d =>
    rw [isDerived_of_find? hd, Bool.not_eq_true'] at h
    obtain ⟨text, htext⟩ := d.transform?_isSome_of_not_isLeaf h
    have htransform := d.transform_eq_of_transform? htext
    have hof : transformOf table name = text := by
      rw [transformOf, hd, Option.bind_some, htransform, Option.getD_some]
    rw [hof, Table.dependencies_of_find? hd]
    exact ⟨d, rfl, htransform, d.relatedVariables_of_isFaithful (hfaithful name d hd) htext⟩

/-- A variable of a pass over the leaves that is left to be computed or has a value. -/
theorem valueOf_of_notMem_unvalued {values : Values} {name : String} (hkey : name ∈ values.keys)
    (h : name ∉ unvalued values) : ∃ text, valueOf values name = some text := by
  rw [mem_unvalued, ← valueOf_eq_none_iff hkey] at h
  exact Option.ne_none_iff_exists'.1 h

/-- What a transform reads is computed before it, so each computed value is the value of its transform
over all the values when everything is computed. -/
theorem outcome_of_phases {leaves computed : Values} {sorted : List String} {d d' : Conversation}
    (hfaithful : table.IsFaithful)
    (hleaves : LeafPass prompter table (start catalogue supplied files selected table).keys
      (start catalogue supplied files selected table) [] leaves)
    (horder : table.solvingOrder (unvalued leaves) = .ok sorted)
    (hcomputed : Yields (computeAll table sorted leaves) d computed d') :
    ∀ name ∈ sorted, ∃ text, valueOf computed name = some text ∧
      (evaluate (transformOf table name) (valueOf computed)).outcome = .ok text := by
  have hperm := Dependency.perm_of_order (Table.order_of_solvingOrder horder)
  have hnodup : (unvalued leaves).Nodup :=
    leaves.nodup.sublist (List.filter_sublist.map _)
  obtain ⟨hself, hlater⟩ :=
    Dependency.pairwise_of_order hnodup (Table.order_of_solvingOrder horder)
  have hkeys : ∀ name ∈ sorted, name ∈ leaves.keys :=
    fun name hname ↦ mem_keys_of_mem_unvalued (hperm.mem_iff.1 hname)
  have hrelated : ∀ name ∈ sorted,
      Expr.relatedVariables (transformOf table name) = .ok (table.dependencies name) := by
    intro name hname
    have hderived := ((mem_unvalued_iff_of_leafPass hleaves).1 (hperm.mem_iff.1 hname)).2.2
    obtain ⟨-, -, -, hrelated⟩ := exists_transform_of_isDerived hfaithful hderived
    exact hrelated
  exact outcome_of_yields_computeAll hkeys hrelated hself hlater (hperm.nodup_iff.2 hnodup) hcomputed

/-- All phases together: from the values after the leaves to the last ones, just the variables left
to be computed have changed, and every variable has a value. -/
theorem assigns_of_phases {leaves computed final : Values} {sorted : List String}
    {d d' : Conversation} (horder : table.solvingOrder (unvalued leaves) = .ok sorted)
    (hcomputed : Yields (computeAll table sorted leaves) d computed d')
    (hfinal : prompter = .nobody ∧ final = computed ∨
      prompter ≠ .nobody ∧ Yields (confirmAll prompter table sorted computed) d' final c') :
    Assigns sorted leaves final := by
  have hperm := Dependency.perm_of_order (Table.order_of_solvingOrder horder)
  have hkeys : ∀ name ∈ sorted, name ∈ leaves.keys :=
    fun name hname ↦ mem_keys_of_mem_unvalued (hperm.mem_iff.1 hname)
  have hcomp := assigns_of_yields_computeAll hkeys hcomputed
  rcases hfinal with ⟨-, rfl⟩ | ⟨-, hfinal⟩
  · exact hcomp
  · have hconf := assigns_of_yields_confirmAll (by rwa [hcomp.keys]) hcomp.assigned hfinal
    exact ⟨hconf.keys.trans hcomp.keys,
      fun name hname ↦ (hconf.other name hname).trans (hcomp.other name hname), hconf.assigned⟩

theorem Assigns.valueOf_of_perm {leaves final : Values} {sorted : List String}
    (h : Assigns sorted leaves final) (hperm : sorted.Perm (unvalued leaves)) {name : String}
    (hkey : name ∈ leaves.keys) : ∃ text, valueOf final name = some text := by
  by_cases hmem : name ∈ sorted
  · exact h.assigned name hmem
  · obtain ⟨text, htext⟩ := valueOf_of_notMem_unvalued hkey (mt hperm.mem_iff.2 hmem)
    exact ⟨text, (valueOf_congr (h.other name hmem)).trans htext⟩

/-- The result binds the variables bound at the start, in the same order. -/
theorem map_fst_of_yields_resolve
    (h : Yields (resolve prompter catalogue supplied files selected table) c r c') :
    r.map Prod.fst = (start catalogue supplied files selected table).keys := by
  obtain ⟨leaves, sorted, computed, final, d, d', hleaves, horder, hcomputed, hfinal, rfl⟩ :=
    exists_phases_of_yields h
  have hassigns := assigns_of_phases horder hcomputed hfinal
  have hperm := Dependency.perm_of_order (Table.order_of_solvingOrder horder)
  rw [map_fst_settled, hassigns.keys, (leafPass_start hleaves).keys]
  intro name hname
  exact hassigns.valueOf_of_perm hperm (hassigns.keys ▸ hname)

end Scaffold.Resolution
