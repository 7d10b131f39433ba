import Mathlib
import Scaffold.Proofs.Resolution.Solution

/-!
# Supplying what has been computed

When nobody is asked, what a run has come to may be supplied to the next one, in whole or in part,
and nothing changes. Supplying a value cuts off what only that variable depended on, so fewer
variables are bound, and they may be computed in another order. The result of the first run is a
solution for the second one all the same, and so the second run comes to the same values.

When everything is supplied, nothing is left to be done: the variables of the selected files are
bound to what is supplied, and the table is not looked at.
-/

namespace Scaffold.Resolution

variable {catalogue : Catalogue} {supplied given : String → Option String}
  {files selected : List String} {table : Table} {prompter : Prompter} {c : Conversation}
  {r pins : List (String × String)} {values : Values} {name : String} {names : List String}

/-- What is supplied when the values of a map are supplied as well. -/
def pinned (supplied : String → Option String) (pins : List (String × String)) :
    String → Option String :=
  fun name ↦ (pins.lookup name).or (supplied name)

/-! ## A part of the values -/

theorem supplied_eq_none_of_pinned (h : pinned supplied pins name = none) :
    supplied name = none :=
  (Option.or_eq_none_iff.1 h).2

/-- A variable that is pinned to values of a map has the value of that map. -/
theorem pinned_cases (hnodup : (r.map Prod.fst).Nodup) (hpins : pins ⊆ r)
    (supplied : String → Option String) (name : String) :
    (∃ text, pinned supplied pins name = some text ∧ r.lookup name = some text) ∨
      pinned supplied pins name = supplied name := by
  cases hlookup : pins.lookup name with
  | none => exact .inr (by rw [pinned, hlookup, Option.none_or])
  | some text =>
    refine .inl ⟨text, by rw [pinned, hlookup, Option.some_or], ?_⟩
    obtain ⟨before, after, heq, -⟩ := List.lookup_eq_some_iff.1 hlookup
    have hmem : (name, text) ∈ pins := heq ▸ List.mem_append_right _ List.mem_cons_self
    exact (lookup_eq_some_iff_mem hnodup).2 (hpins hmem)

theorem required_of_pinned
    (h : Required catalogue (pinned supplied pins) files selected table name) :
    Required catalogue supplied files selected table name := by
  induction h with
  | ofFile hfile hselected hname => exact .ofFile hfile hselected hname
  | ofDependency _ hnone hdep ih => exact .ofDependency ih (supplied_eq_none_of_pinned hnone) hdep

/-- A solution stays one when a part of it is supplied. -/
theorem IsSolution.pinned (h : IsSolution catalogue supplied files selected table (r.lookup ·))
    (hnodup : (r.map Prod.fst).Nodup) (hpins : pins ⊆ r) :
    IsSolution catalogue (pinned supplied pins) files selected table (r.lookup ·) := by
  intro name hrequired
  have hname := h name (required_of_pinned hrequired)
  rcases pinned_cases hnodup hpins supplied name with ⟨text, hpin, hvalue⟩ | heq
  · refine ⟨fun text' htext' ↦ ?_, fun hnone ↦ ?_, fun hnone ↦ ?_⟩
    · rw [hvalue, ← hpin, htext']
    · cases hpin.symm.trans hnone
    · cases hpin.symm.trans hnone
  · exact ⟨fun text htext ↦ hname.supplied text (heq ▸ htext),
      fun hnone ↦ hname.leaf (heq ▸ hnone), fun hnone ↦ hname.derived (heq ▸ hnone)⟩

/-! ## All values -/

theorem nodup_needed : (needed catalogue files selected).Nodup :=
  (isFirstSeen_eraseDups _).nodup

theorem valueOf_seed (h : name ∈ names) : valueOf (seed given names) name = given name := by
  rw [valueOf, get?_seed, if_pos h, Option.join_some]

theorem unvalued_eq_nil (h : ∀ name ∈ values.keys, (valueOf values name).isSome = true) :
    unvalued values = [] := by
  refine List.eq_nil_iff_forall_not_mem.2 fun name hname ↦ ?_
  have hkey := mem_keys_of_mem_unvalued hname
  exact absurd ((valueOf_eq_none_iff hkey).2 (mem_unvalued.1 hname))
    (Option.isSome_iff_ne_none.1 (h name hkey))

theorem resolveLeaves_of_isSome (h : ∀ name ∈ names, (valueOf values name).isSome = true) :
    resolveLeaves prompter table names values = pure ([], values) := by
  induction names with
  | nil => rfl
  | cons name names ih =>
    obtain ⟨hname, hnames⟩ := List.forall_mem_cons.1 h
    have hclosed : ¬IsOpenLeaf table values name :=
      fun hopen ↦ absurd hopen.1 (Option.isSome_iff_ne_none.1 hname)
    rw [resolveLeaves_cons_of_not hclosed, ih hnames]

/-- When all variables of the selected files are supplied, resolving takes what is supplied. It
neither asks nor computes anything, and does not look at the table. -/
theorem exists_run_resolve_of_supplied
    (h : ∀ name ∈ needed catalogue files selected, (given name).isSome = true) :
    ∃ r, r.map Prod.fst = needed catalogue files selected ∧
      (∀ name ∈ needed catalogue files selected, r.lookup name = given name) ∧
      ∀ prompter table c,
        (resolve prompter catalogue given files selected table).run.run c = (.ok r, c) := by
  let values := seed given (needed catalogue files selected)
  have hkeys : values.keys = needed catalogue files selected := keys_seed nodup_needed
  have hvalues : ∀ name ∈ values.keys, (valueOf values name).isSome = true := by
    intro name hname
    rw [hkeys] at hname
    rw [valueOf_seed hname]
    exact h name hname
  have hstart : ∀ table, start catalogue given files selected table = values := by
    intro table
    rw [start, closure, unvalued_eq_nil hvalues, spread_nil]
  refine ⟨settled values, ?_, fun name hname ↦ ?_, fun prompter table c ↦ ?_⟩
  · rw [map_fst_settled fun name hname ↦ Option.isSome_iff_exists.1 (hvalues name hname), hkeys]
  · rw [lookup_settled, valueOf_seed hname]
  · have horder : table.solvingOrder [] = .ok [] := by
      rw [Table.solvingOrder, Dependency.order, Dependency.orderPending_nil]
      rfl
    refine yields_resolve_iff.2 ⟨values, c, ?_, ?_⟩
    · rw [hstart, resolveLeaves_of_isSome hvalues]
      exact yields_pure.2 ⟨rfl, rfl⟩
    · rw [computeRest, unvalued_eq_nil hvalues, horder]
      refine yields_bind.2 ⟨values, c, rfl, ?_⟩
      split <;> rfl

/-! ## Running again -/

/-- Supplying a part of what a run without a person has come to changes no value: the next run binds
some of the variables of the first, and to the same values. When everything is supplied, it binds
just the variables of the selected files, whatever the table says, and nothing is asked, computed or
reported. -/
theorem resolve_nobody_pinned (hfaithful : table.IsFaithful) (hacyclic : table.findCycle = none)
    (h : ((resolve .nobody catalogue supplied files selected table).run.run c).1 = .ok r) :
    (∀ pins ⊆ r, ∀ c', ∃ r',
      ((resolve .nobody catalogue (pinned supplied pins) files selected table).run.run c').1 =
        .ok r' ∧
      ∀ name ∈ r'.map Prod.fst, name ∈ r.map Prod.fst ∧ r'.lookup name = r.lookup name) ∧
    ∃ r', r'.map Prod.fst = needed catalogue files selected ∧
      (∀ name ∈ r'.map Prod.fst, name ∈ r.map Prod.fst ∧ r'.lookup name = r.lookup name) ∧
      ∀ prompter table' c',
        (resolve prompter catalogue (pinned supplied r) files selected table').run.run c' =
          (.ok r', c') := by
  have hyields : Yields (resolve .nobody catalogue supplied files selected table) c r _ :=
    Prod.ext h rfl
  have hkeys := map_fst_of_yields_resolve hyields
  have hnodup : (r.map Prod.fst).Nodup := hkeys ▸ Bindings.nodup _
  constructor
  · intro pins hpins c'
    obtain ⟨r', d, hyields', hpart⟩ := exists_part_of_isSolution hfaithful hacyclic hyields
      (fun _ ↦ required_of_pinned)
      ((isSolution_of_yields hfaithful hyields).pinned hnodup hpins) c'
    exact ⟨r', congrArg Prod.fst hyields', hpart⟩
  · have hneeded : ∀ name ∈ needed catalogue files selected, name ∈ r.map Prod.fst ∧
        (pinned supplied r name).isSome = true ∧ pinned supplied r name = r.lookup name := by
      intro name hname
      obtain ⟨index, file, hfile, hsel, hmem⟩ := mem_needed.1 hname
      have hkey : name ∈ r.map Prod.fst := by
        rw [hkeys, mem_keys_start_iff]
        exact .ofFile hfile hsel hmem
      obtain ⟨text, htext⟩ := Option.isSome_iff_exists.1 (lookup_isSome_iff_mem_keys.2 hkey)
      rw [pinned, htext, Option.some_or]
      exact ⟨hkey, rfl, rfl⟩
    obtain ⟨r', hmap, hvalues, hrun⟩ :=
      exists_run_resolve_of_supplied fun name hname ↦ (hneeded name hname).2.1
    refine ⟨r', hmap, fun name hname ↦ ?_, hrun⟩
    rw [hmap] at hname
    exact ⟨(hneeded name hname).1, (hvalues name hname).trans (hneeded name hname).2.2⟩

theorem findCycle_slugTable : slugTable.findCycle = none := by decide

/-- The slug may be made again from the title that is supplied now; when the slug is supplied as
well, the title is not bound any more. -/
theorem resolve_nobody_pinned_slugTable :
    (∃ r', ((resolve .nobody ⟨["slug"], [(0, ["slug"])]⟩
        (pinned (fun _ ↦ none) [("title", "Web App")]) ["file"] ["file"] slugTable).run.run
          (.start [])).1 = .ok r' ∧
      ∀ name ∈ r'.map Prod.fst, name ∈ ["slug", "title"] ∧
        r'.lookup name = [("slug", "web app"), ("title", "Web App")].lookup name) ∧
    (resolve .nobody ⟨["slug"], [(0, ["slug"])]⟩
        (pinned (fun _ ↦ none) [("slug", "web app"), ("title", "Web App")]) ["file"] ["file"]
        slugTable).run.run (.start []) = (.ok [("slug", "web app")], .start []) := by
  obtain ⟨hpart, r', hkeys, hvalues, hrun⟩ :=
    resolve_nobody_pinned isFaithful_slugTable findCycle_slugTable resolve_nobody_slugTable
  refine ⟨hpart [("title", "Web App")] (by simp) (.start []), ?_⟩
  rw [hrun .nobody slugTable (.start [])]
  have hneeded : r'.map Prod.fst = ["slug"] := hkeys.trans (by decide)
  obtain ⟨⟨name, text⟩, rest, rfl, hname, hrest⟩ := List.map_eq_cons_iff.1 hneeded
  obtain rfl := List.map_eq_nil_iff.1 hrest
  obtain rfl : name = "slug" := hname
  have htext := (hvalues "slug" (by simp)).2
  rw [List.lookup_cons_self, List.lookup_cons_self, Option.some.injEq] at htext
  rw [htext]

end Scaffold.Resolution
