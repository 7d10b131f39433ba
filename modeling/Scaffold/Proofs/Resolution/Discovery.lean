import Mathlib
import Scaffold.Proofs.Placeholder.Catalogue
import Scaffold.Proofs.Resolution.Required

/-!
# The order of discovery

The variables that resolving binds come in a fixed order: first those of the selected files, then
those that are found, breadth first. The names found are those which are not known yet among the
dependencies of the unsupplied names, read in the order of the names themselves. This law speaks of
the list that it describes on both sides. It fixes the list nevertheless, as each name has to be
found from one before it.
-/

namespace Scaffold.Resolution

variable {dependencies : String → List String} {supplied : String → Option String}

/-! ## Names found breadth first -/

theorem unvalued_of_entries {values : Bindings (Option String)} {names : List String}
    (h : values.entries = names.map fun name ↦ (name, supplied name)) :
    unvalued values = unsupplied supplied names := by
  rw [unvalued, h, List.filter_map, List.map_map]
  exact List.map_id _

/-- Names that are found breadth first from some others. -/
structure IsBreadthFirst (dependencies : String → List String) (supplied : String → Option String)
    (first found : List String) : Prop where
  /-- The dependencies of the unsupplied names are read one after the other. -/
  eq_novel : found = novel first ((unsupplied supplied (first ++ found)).flatMap dependencies)
  /-- Each name is found from one that comes before it. -/
  exists_source : ∀ before name after, found = before ++ name :: after →
    ∃ source ∈ first ++ before, supplied source = none ∧ name ∈ dependencies source

/-- What the first names found depend on comes first, and the next name is among it. -/
theorem IsBreadthFirst.isPrefix {first before after : List String}
    (h : IsBreadthFirst dependencies supplied first (before ++ after)) :
    novel first ((unsupplied supplied (first ++ before)).flatMap dependencies) <+:
        before ++ after ∧
      ∀ name ∈ after.head?, before ++ [name] <+:
        novel first ((unsupplied supplied (first ++ before)).flatMap dependencies) := by
  have hread : before ++ after =
      novel first ((unsupplied supplied (first ++ before ++ after)).flatMap dependencies) := by
    rw [List.append_assoc]
    exact h.eq_novel
  have hbegin : novel first ((unsupplied supplied (first ++ before)).flatMap dependencies) <+:
      before ++ after := by
    rw [hread, unsupplied, unsupplied, List.filter_append _ after, List.flatMap_append,
      novel_append]
    exact List.prefix_append _ _
  refine ⟨hbegin, fun name hname ↦ ?_⟩
  obtain ⟨after, rfl⟩ := List.head?_eq_some_iff.1 hname
  obtain ⟨source, hsource, hnone, hdep⟩ := h.exists_source before name after rfl
  have hnew : name ∈ novel first ((unsupplied supplied (first ++ before)).flatMap dependencies) := by
    rw [mem_novel]
    refine ⟨List.mem_flatMap.2 ⟨source, mem_unsupplied.2 ⟨hsource, hnone⟩, hdep⟩, ?_⟩
    exact (mem_novel.1 (hread ▸ List.mem_append_cons_self)).2
  have hold : name ∉ before := by
    have hnodup : (before ++ name :: after).Nodup := hread ▸ nodup_novel
    exact fun hmem ↦ (List.nodup_append.1 hnodup).2.2 name hmem name List.mem_cons_self rfl
  have hnext : before ++ [name] <+: before ++ name :: after :=
    ⟨after, by rw [List.append_assoc, List.singleton_append]⟩
  rcases List.prefix_or_prefix_of_prefix hbegin hnext with hshort | hlong
  · rcases List.prefix_concat_iff.1 hshort with heq | hshort
    · rw [heq]
    · exact absurd (hshort.subset hnew) hold
  · exact hlong

/-- Two lists with a common beginning go on with the same name. -/
theorem IsBreadthFirst.mem_head? {first before after after' : List String} {name : String}
    (h : IsBreadthFirst dependencies supplied first (before ++ after))
    (h' : IsBreadthFirst dependencies supplied first (before ++ after'))
    (hname : name ∈ after.head?) : name ∈ after'.head? := by
  have hbegin : before ++ [name] <+: before ++ after' :=
    (h.isPrefix.2 name hname).trans h'.isPrefix.1
  obtain ⟨rest, rfl⟩ := (List.prefix_append_right_inj before).1 hbegin
  rfl

/-- There is only one list of names that are found breadth first. -/
theorem IsBreadthFirst.unique {first found found' : List String}
    (h : IsBreadthFirst dependencies supplied first found)
    (h' : IsBreadthFirst dependencies supplied first found') : found = found' := by
  have hrest : ∀ before after after', IsBreadthFirst dependencies supplied first (before ++ after) →
      IsBreadthFirst dependencies supplied first (before ++ after') → after = after' := by
    intro before after after' h h'
    induction after generalizing before after' with
    | nil =>
      cases after' with
      | nil => rfl
      | cons name after' => cases h'.mem_head? h rfl
    | cons name after ih =>
      obtain ⟨after', rfl⟩ := List.head?_eq_some_iff.1 (h.mem_head? h' rfl)
      rw [List.append_cons] at h h'
      rw [ih (before ++ [name]) after' h h']
  exact hrest [] found found' h h'

/-- Names that are found wave by wave are found breadth first. -/
theorem Waves.isBreadthFirst {first : List String} {waves : List (List String)}
    (h : Waves dependencies supplied first (unsupplied supplied first) waves) :
    IsBreadthFirst dependencies supplied first waves.flatten := by
  refine ⟨?_, fun before name after heq ↦ ?_⟩
  · rw [unsupplied_append]
    exact h.flatten_eq_novel
  · obtain ⟨source, hsource, hdep⟩ := h.exists_reader heq
    rw [← unsupplied_append] at hsource
    obtain ⟨hmem, hnone⟩ := mem_unsupplied.1 hsource
    exact ⟨source, hmem, hnone, hdep⟩

/-! ## The variables of an installation -/

theorem entries_seed {names : List String} (hnodup : names.Nodup) :
    (seed supplied names).entries = names.map fun name ↦ (name, supplied name) := by
  have hfold : ∀ (names : List String) (values : Bindings (Option String)), names.Nodup →
      (∀ name ∈ names, name ∉ values.keys) →
      (names.foldl (fun values name ↦ values.insert name (supplied name)) values).entries =
        values.entries ++ names.map fun name ↦ (name, supplied name) := by
    intro names
    induction names with
    | nil => simp
    | cons name names ih =>
      intro values hnodup hnew
      obtain ⟨hname, hnodup⟩ := List.nodup_cons.1 hnodup
      obtain ⟨hhead, hnew⟩ := List.forall_mem_cons.1 hnew
      rw [List.foldl_cons, ih _ hnodup, Bindings.entries_insert_of_notMem hhead, List.append_assoc,
        List.singleton_append, List.map_cons]
      intro other hother
      rw [Bindings.keys_insert_of_notMem hhead, List.mem_append, List.mem_singleton, not_or]
      exact ⟨hnew other hother, fun heq ↦ hname (heq ▸ hother)⟩
  exact hfold names .empty hnodup (by simp [Bindings.empty, Bindings.keys])

theorem keys_seed {names : List String} (h : names.Nodup) : (seed supplied names).keys = names := by
  rw [Bindings.keys, entries_seed h, List.map_map]
  exact List.map_id _

/-- The variables bound at the start are those of the selected files, followed by those found. -/
theorem exists_keys_start (catalogue : Catalogue) (supplied : String → Option String)
    (files selected : List String) (table : Table) :
    ∃ found, (start catalogue supplied files selected table).keys =
        needed catalogue files selected ++ found ∧
      IsBreadthFirst table.dependencies supplied (needed catalogue files selected) found := by
  let values := seed supplied (needed catalogue files selected)
  have hnodup : (needed catalogue files selected).Nodup := (isFirstSeen_eraseDups _).nodup
  have hkeys : values.keys = needed catalogue files selected := keys_seed hnodup
  obtain ⟨waves, hwaves, hstart⟩ := exists_waves_closure Table.mem_allDependencies supplied values
  refine ⟨waves.flatten, ?_, ?_⟩
  · rw [← hkeys]
    exact keys_of_entries hstart
  · rw [hkeys, unvalued_of_entries (entries_seed hnodup)] at hwaves
    exact hwaves.isBreadthFirst

end Scaffold.Resolution
