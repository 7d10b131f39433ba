import Mathlib
import Scaffold.Proofs.Config.Sound
import Scaffold.Proofs.Resolution.Unresolved

/-!
# Solutions

A solution is a valuation that gives each variable to be bound the value that the table and what is
supplied say: a supplied variable has its value, a variable that does not come from others has what
is offered for it, and any other variable has the value of its transform over the solution itself.
When nobody is asked, resolving ends with a solution.

The converse is what comparisons of runs rest on. If there is a solution, wherever it comes from,
then resolving comes to its end, and its result agrees with the solution. In particular the result
of one run decides another run as soon as it is a solution there.
-/

namespace Scaffold

/-- A leaf for which there is an offer has a transform with a value, or does not need one. -/
theorem Definition.hasConstant_of_offer? {name text : String} {d : Definition}
    (h : Prompt.offer? ⟨name, Resolution.suggestion (some d)⟩ = some text) : d.HasConstant := by
  intro hdefault _
  cases hconstant : d.constant? with
  | some value => rfl
  | none =>
    rw [Prompt.offer?, Resolution.suggestion, Option.bind_some, hdefault, hconstant] at h
    exact absurd (hdefault.symm.trans h) (by simp)

namespace Resolution

variable {catalogue : Catalogue} {given σ : String → Option String} {files selected : List String}
  {table : Table} {c c' : Conversation} {r : List (String × String)} {values leaves : Values}
  {name : String} {names : List String}

/-- A valuation gives a variable the value that the table and what is supplied say. -/
structure IsJustified (table : Table) (given σ : String → Option String) (name : String) :
    Prop where
  /-- A supplied value is taken as it is. -/
  supplied : ∀ text, given name = some text → σ name = some text
  /-- A variable that does not come from others has the value that is offered for it. -/
  leaf : given name = none → isDerived table name = false →
    ∃ text, Prompt.offer? ⟨name, suggestion (table.find? name)⟩ = some text ∧ σ name = some text
  /-- A variable that comes from others has the value of its transform. -/
  derived : given name = none → isDerived table name = true →
    ∃ text, (evaluate (transformOf table name) σ).outcome = .ok text ∧ σ name = some text

/-- A valuation gives all variables to be bound the values that the table and what is supplied
say. -/
def IsSolution (catalogue : Catalogue) (given : String → Option String)
    (files selected : List String) (table : Table) (σ : String → Option String) : Prop :=
  ∀ name, Required catalogue given files selected table name → IsJustified table given σ name

/-! ## What resolving ends with -/

/-- A leaf that is left with a value has what is offered for it. -/
theorem LeafPass.exists_offer? (hfaithful : table.IsFaithful)
    (h : LeafPass .nobody table names values [] leaves) (hname : name ∈ names)
    (hopen : IsOpenLeaf table values name) :
    ∃ text, Prompt.offer? ⟨name, suggestion (table.find? name)⟩ = some text ∧
      valueOf leaves name = some text := by
  obtain ⟨value, mid, d, d', hvalue, hget, hreport⟩ := h.leaf name hname hopen
  obtain ⟨text, rfl⟩ := Option.ne_none_iff_exists'.1 (mt hreport List.not_mem_nil)
  obtain ⟨offer, _, hoffer, htext⟩ := yields_leafValue_nobody hvalue
  obtain ⟨rfl, -⟩ := asks_of_yields_leafOffer (fun definition hfind ↦
    ⟨hfaithful name definition hfind, isLeaf_of_find? hopen.2 hfind⟩) hoffer
  exact ⟨text, htext.symm, valueOf_eq_some_iff.2 hget⟩

theorem isSolution_of_yields (hfaithful : table.IsFaithful)
    (h : Yields (resolve .nobody catalogue given files selected table) c r c') :
    IsSolution catalogue given files selected table (r.lookup ·) := by
  obtain ⟨leaves, hpass, hrest, hderived⟩ := exists_leaves_of_yields_resolve hfaithful h
  intro name hrequired
  have hkey := mem_keys_start_iff.2 hrequired
  refine ⟨fun text htext ↦ ?_, fun hnone hleaf ↦ ?_, fun hnone hder ↦ ?_⟩
  · have hname : name ∈ r.map Prod.fst := map_fst_of_yields_resolve h ▸ hkey
    exact (solves_of_yields_resolve hfaithful h).supplied name hname text htext
  · have hopen : IsOpenLeaf table (start catalogue given files selected table) name :=
      ⟨(valueOf_start hkey).trans hnone, hleaf⟩
    obtain ⟨text, hoffer, hvalue⟩ := hpass.exists_offer? hfaithful hkey hopen
    refine ⟨text, hoffer, (hrest name fun hunvalued ↦ ?_).trans hvalue⟩
    have hderived := ((mem_unvalued_iff_of_leafPass hpass).1 hunvalued).2.2
    exact absurd (hleaf.symm.trans hderived) (by simp)
  · obtain ⟨text, htext, hout⟩ :=
      hderived name ((mem_unvalued_iff_of_leafPass hpass).2 ⟨hkey, hnone, hder⟩)
    exact ⟨text, hout, htext⟩

/-! ## What a solution decides -/

/-- Variables are computed to what a solution says, when what they read has been computed before or
has had the value of the solution from the beginning. -/
theorem exists_yields_computeAll (hfaithful : table.IsFaithful)
    (hderived : ∀ name ∈ names, isDerived table name = true)
    (hself : ∀ name ∈ names, name ∉ table.dependencies name)
    (hlater : names.Pairwise fun name later ↦ later ∉ table.dependencies name)
    (hknown : ∀ name ∈ names, ∀ dep ∈ table.dependencies name, dep ∉ names →
      valueOf values dep = σ dep)
    (hvalue : ∀ name ∈ names, ∃ text,
      (evaluate (transformOf table name) σ).outcome = .ok text ∧ σ name = some text) :
    ∃ values' c', Yields (computeAll table names values) c values' c' ∧
      ∀ other, valueOf values' other = if other ∈ names then σ other else valueOf values other := by
  induction names generalizing values c with
  | nil => exact ⟨values, c, yields_pure.2 ⟨rfl, rfl⟩, by simp⟩
  | cons name names ih =>
    obtain ⟨hname, hderived⟩ := List.forall_mem_cons.1 hderived
    obtain ⟨hnotself, hself⟩ := List.forall_mem_cons.1 hself
    obtain ⟨hnone, hlater⟩ := List.pairwise_cons.1 hlater
    obtain ⟨⟨text, htext, hσ⟩, hvalue⟩ := List.forall_mem_cons.1 hvalue
    -- neither the name itself nor a later one is read, so all that is read has its last value
    have hread : ∀ dep ∈ table.dependencies name, valueOf values dep = σ dep := by
      intro dep hdep
      refine hknown name List.mem_cons_self dep hdep fun hmem ↦ ?_
      rcases List.mem_cons.1 hmem with rfl | hmem
      · exact hnotself hdep
      · exact hnone dep hmem hdep
    obtain ⟨-, -, -, hrelated⟩ := exists_transform_of_isDerived hfaithful hname
    have hcompute : Yields (compute (transformOf table name) values) c text
        (c.report ((evaluate (transformOf table name) σ).trace.map .transform)) := by
      rw [Yields, run_compute, evaluate_congr hrelated hread, htext]
      rfl
    have hinsert : ∀ other, valueOf (values.insert name (some text)) other =
        if other = name then σ other else valueOf values other := by
      intro other
      rw [valueOf_insert]
      split
      · next heq => rw [heq, hσ]
      · rfl
    obtain ⟨values', c', hrest, hvalues'⟩ := ih hderived hself hlater
      (fun other hother dep hdep hnotmem ↦ by
        rw [hinsert]
        split
        · rfl
        · next hne => exact hknown other (List.mem_cons_of_mem _ hother) dep hdep (by simp [*]))
      hvalue
    refine ⟨values', c', yields_bind.2 ⟨text, _, hcompute, hrest⟩, fun other ↦ ?_⟩
    rw [hvalues', hinsert]
    by_cases hother : other ∈ names <;> simp [hother]

/-- When a solution says what is offered for a leaf, the transform of the leaf has a value. -/
theorem hasConstant_of_isSolution (hσ : IsSolution catalogue given files selected table σ)
    {p : Prompt} (hp : p ∈ leafQuestions table given
      (start catalogue given files selected table).keys) {d : Definition}
    (hfind : table.find? p.name = some d) : d.HasConstant := by
  obtain ⟨hkey, hnone, hleaf⟩ := mem_of_mem_leafQuestions (List.mem_map_of_mem hp)
  obtain ⟨text, hoffer, -⟩ := (hσ p.name (mem_keys_start_iff.1 hkey)).leaf hnone hleaf
  rw [hfind] at hoffer
  exact Definition.hasConstant_of_offer? hoffer

/-- When there is a solution, all leaves get values. -/
theorem exists_leafPass_of_isSolution (hfaithful : table.IsFaithful)
    (hσ : IsSolution catalogue given files selected table σ) :
    ∃ leaves d, Yields (resolveLeaves .nobody table
      (start catalogue given files selected table).keys
      (start catalogue given files selected table)) c ([], leaves) d := by
  have hquestions : leafQuestions table (valueOf (start catalogue given files selected table))
      (start catalogue given files selected table).keys = leafQuestions table given
        (start catalogue given files selected table).keys :=
    leafQuestions_congr fun name hname ↦ valueOf_start hname
  have hnodup : (start catalogue given files selected table).keys.Nodup := Bindings.nodup _
  obtain ⟨leaves, hleaves⟩ := exists_yields_resolveLeaves_nobody (c := c) hfaithful hnodup
    fun p hp d ↦ hasConstant_of_isSolution hσ (hquestions ▸ hp)
  have hnone : withoutOffer (leafQuestions table given
      (start catalogue given files selected table).keys) = [] := by
    refine List.eq_nil_iff_forall_not_mem.2 fun name hname ↦ ?_
    have hmissing := mem_withoutOffer_iff.1 hname
    obtain ⟨text, hoffer, -⟩ :=
      (hσ name hmissing.required).leaf hmissing.notSupplied hmissing.isLeaf
    have hnone := offer?_eq_none_iff.2 ⟨hmissing.noDefault, hmissing.noConstant⟩
    cases hnone.symm.trans hoffer
  rw [hquestions, hnone] at hleaves
  exact ⟨leaves, _, hleaves⟩

/-- After the pass over the leaves, what has a value has that of any solution. -/
theorem valueOf_leaves_of_isSolution (hfaithful : table.IsFaithful)
    (hσ : IsSolution catalogue given files selected table σ)
    (hpass : LeafPass .nobody table (start catalogue given files selected table).keys
      (start catalogue given files selected table) [] leaves)
    (hrequired : Required catalogue given files selected table name)
    (hvalued : name ∉ unvalued leaves) : valueOf leaves name = σ name := by
  have hkey := mem_keys_start_iff.2 hrequired
  cases hgiven : given name with
  | some text =>
    have hclosed : ¬IsOpenLeaf table (start catalogue given files selected table) name := by
      rw [IsOpenLeaf, valueOf_start hkey, hgiven]
      simp
    rw [valueOf_congr (hpass.other name fun hin ↦ hclosed hin.2), valueOf_start hkey, hgiven,
      (hσ name hrequired).supplied text hgiven]
  | none =>
    have hleaf : isDerived table name = false := by
      rw [mem_unvalued_iff_of_leafPass hpass, not_and, not_and, Bool.not_eq_true] at hvalued
      exact hvalued hkey hgiven
    have hopen : IsOpenLeaf table (start catalogue given files selected table) name :=
      ⟨(valueOf_start hkey).trans hgiven, hleaf⟩
    obtain ⟨text, hoffer, hvalue⟩ := hpass.exists_offer? hfaithful hkey hopen
    obtain ⟨text', hoffer', hσname⟩ := (hσ name hrequired).leaf hgiven hleaf
    rw [hvalue, hσname, ← hoffer, hoffer']

/-- When there is a solution, resolving ends, and its result agrees with the solution. -/
theorem exists_yields_of_isSolution (hfaithful : table.IsFaithful)
    (hacyclic : table.findCycle = none)
    (hσ : IsSolution catalogue given files selected table σ) (c : Conversation) :
    ∃ r c', Yields (resolve .nobody catalogue given files selected table) c r c' ∧
      ∀ name ∈ r.map Prod.fst, r.lookup name = σ name := by
  obtain ⟨leaves, d, hleaves⟩ := exists_leafPass_of_isSolution (c := c) hfaithful hσ
  have hpass := leafPass_start hleaves
  obtain ⟨sorted, hsorted⟩ := Table.exists_solvingOrder hacyclic (unvalued leaves)
  have horder := Table.order_of_solvingOrder hsorted
  have hperm := Dependency.perm_of_order horder
  obtain ⟨hself, hlater⟩ :=
    Dependency.pairwise_of_order (leaves.nodup.sublist (List.filter_sublist.map _)) horder
  have hopen : ∀ name ∈ sorted, Required catalogue given files selected table name ∧
      given name = none ∧ isDerived table name = true := by
    intro name hname
    obtain ⟨hkey, hnone, hderived⟩ :=
      (mem_unvalued_iff_of_leafPass hpass).1 (hperm.mem_iff.1 hname)
    exact ⟨mem_keys_start_iff.1 hkey, hnone, hderived⟩
  obtain ⟨computed, d', hcomputed, hvalues⟩ := exists_yields_computeAll (c := d) hfaithful
    (fun name hname ↦ (hopen name hname).2.2) hself hlater
    (fun name hname dep hdep hnotmem ↦ valueOf_leaves_of_isSolution hfaithful hσ hpass
      (.ofDependency (hopen name hname).1 (hopen name hname).2.1 hdep)
      (mt hperm.mem_iff.2 hnotmem))
    fun name hname ↦ (hσ name (hopen name hname).1).derived (hopen name hname).2.1
      (hopen name hname).2.2
  have hyields : Yields (resolve .nobody catalogue given files selected table) c
      (settled computed) d' := by
    refine yields_resolve_iff.2 ⟨leaves, d, hleaves, ?_⟩
    rw [computeRest, hsorted]
    exact yields_bind.2 ⟨computed, d', hcomputed, rfl⟩
  refine ⟨settled computed, d', hyields, fun name hname ↦ ?_⟩
  rw [map_fst_of_yields_resolve hyields, mem_keys_start_iff] at hname
  rw [lookup_settled, hvalues]
  split
  · rfl
  · next hnotmem =>
    exact valueOf_leaves_of_isSolution hfaithful hσ hpass hname (mt hperm.mem_iff.2 hnotmem)

/-- A run that binds no other variables than one that has ended, and for which the result of that
one is a solution, ends with a part of the result. -/
theorem exists_part_of_isSolution {given' : String → Option String} {selected' : List String}
    (hfaithful : table.IsFaithful) (hacyclic : table.findCycle = none)
    (h : Yields (resolve .nobody catalogue given files selected table) c r c')
    (hrequired : ∀ name, Required catalogue given' files selected' table name →
      Required catalogue given files selected table name)
    (hsolution : IsSolution catalogue given' files selected' table (r.lookup ·))
    (d : Conversation) :
    ∃ r' d', Yields (resolve .nobody catalogue given' files selected' table) d r' d' ∧
      ∀ name ∈ r'.map Prod.fst, name ∈ r.map Prod.fst ∧ r'.lookup name = r.lookup name := by
  obtain ⟨r', d', hyields, hvalues⟩ :=
    exists_yields_of_isSolution hfaithful hacyclic hsolution d
  refine ⟨r', d', hyields, fun name hname ↦ ⟨?_, hvalues name hname⟩⟩
  rw [map_fst_of_yields_resolve hyields, mem_keys_start_iff] at hname
  rw [map_fst_of_yields_resolve h, mem_keys_start_iff]
  exact hrequired name hname

end Resolution

end Scaffold
