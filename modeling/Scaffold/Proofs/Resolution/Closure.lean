import Mathlib
import Scaffold.Proofs.Bindings
import Scaffold.Resolution.Closure

/-!
# The rounds of the search for dependencies

The search keeps a queue of names and a growing list of bindings. One round takes a name from the
queue and binds what it depends on and is not yet bound; what the round adds is `novel`, and a name
that is not supplied goes to the queue as well. A round shortens the queue and the names that can
still be found by one, taken together. So every search comes to its end, whether or not names depend
on each other in a circle, and there is fuel enough for the closure to be what it ends with.
-/

namespace Scaffold.Resolution

variable {dependencies : String → List String} {supplied : String → Option String}

/-! ## One round -/

/-- The names that are not known, each once, in the order of first appearance. -/
def novel : (known names : List String) → List String
  | _, [] => []
  | known, name :: names =>
    if name ∈ known then novel known names else name :: novel (known ++ [name]) names

theorem mem_novel {known names : List String} {name : String} :
    name ∈ novel known names ↔ name ∈ names ∧ name ∉ known := by
  induction names generalizing known with
  | nil => simp [novel]
  | cons head names ih =>
    rw [novel]
    split
    · rw [ih, List.mem_cons]
      grind
    · rw [List.mem_cons, ih, List.mem_cons, List.mem_append, List.mem_singleton]
      grind

theorem nodup_novel {known names : List String} : (novel known names).Nodup := by
  induction names generalizing known with
  | nil => exact List.nodup_nil
  | cons head names ih =>
    rw [novel]
    split
    · exact ih
    · refine List.nodup_cons.2 ⟨fun hmem ↦ ?_, ih⟩
      exact (mem_novel.1 hmem).2 (List.mem_append_right _ (List.mem_singleton_self _))

theorem novel_append {known names more : List String} :
    novel known (names ++ more) = novel known names ++ novel (known ++ novel known names) more := by
  induction names generalizing known with
  | nil => simp [novel]
  | cons name names ih =>
    rw [List.cons_append, novel, novel]
    split
    · exact ih
    · rw [ih, List.cons_append, List.append_assoc, List.singleton_append]

theorem entries_discover {names queue : List String} {values : Bindings (Option String)} :
    (discover supplied names queue values).2.entries =
      values.entries ++ (novel values.keys names).map fun name ↦ (name, supplied name) := by
  induction names generalizing queue values with
  | nil => simp [discover, novel]
  | cons name names ih =>
    rw [discover, novel]
    by_cases h : name ∈ values.keys
    · rw [if_pos (Bindings.contains_iff_mem_keys.2 h), if_pos h, ih]
    · rw [if_neg (mt Bindings.contains_iff_mem_keys.1 h), if_neg h, ih,
        Bindings.entries_insert_of_notMem h, Bindings.keys_insert_of_notMem h, List.map_cons,
        List.append_assoc, List.singleton_append]

theorem queue_discover {names queue : List String} {values : Bindings (Option String)} :
    (discover supplied names queue values).1 =
      queue ++ (novel values.keys names).filter fun name ↦ (supplied name).isNone := by
  induction names generalizing queue values with
  | nil => simp [discover, novel]
  | cons name names ih =>
    rw [discover, novel]
    by_cases h : name ∈ values.keys
    · rw [if_pos (Bindings.contains_iff_mem_keys.2 h), if_pos h, ih]
    · rw [if_neg (mt Bindings.contains_iff_mem_keys.1 h), if_neg h, ih,
        Bindings.keys_insert_of_notMem h, List.filter_cons]
      split <;> simp

/-! ## Extensions by supplied values -/

theorem keys_of_entries {old new : Bindings (Option String)} {added : List String}
    (h : new.entries = old.entries ++ added.map fun name ↦ (name, supplied name)) :
    new.keys = old.keys ++ added := by
  rw [Bindings.keys, h, List.map_append, List.map_map]
  exact congrArg _ (List.map_id _)

theorem keys_discover {names queue : List String} {values : Bindings (Option String)} :
    (discover supplied names queue values).2.keys = values.keys ++ novel values.keys names :=
  keys_of_entries entries_discover

/-- The bindings `new` are `old` with further names bound at the end, each to what is supplied for
it. -/
def Extends (supplied : String → Option String) (old new : Bindings (Option String)) : Prop :=
  ∃ added : List String, new.entries = old.entries ++ added.map fun name ↦ (name, supplied name)

namespace Extends

variable {old new : Bindings (Option String)}

theorem keys_subset (h : Extends supplied old new) {name : String} (hmem : name ∈ old.keys) :
    name ∈ new.keys := by
  obtain ⟨added, h⟩ := h
  rw [keys_of_entries h]
  exact List.mem_append_left _ hmem

theorem get?_eq (h : Extends supplied old new) {name : String} (hmem : name ∈ old.keys) :
    new.get? name = old.get? name := by
  obtain ⟨value, hvalue⟩ := Bindings.mem_keys_iff_exists.1 hmem
  obtain ⟨added, h⟩ := h
  rw [hvalue, Bindings.get?_eq_some_iff, h]
  exact List.mem_append_left _ (Bindings.get?_eq_some_iff.1 hvalue)

theorem get?_of_notMem (h : Extends supplied old new) {name : String} (hnew : name ∈ new.keys)
    (hold : name ∉ old.keys) : new.get? name = some (supplied name) := by
  obtain ⟨added, h⟩ := h
  rw [keys_of_entries h, List.mem_append] at hnew
  have hmem : name ∈ added := hnew.resolve_left hold
  rw [Bindings.get?_eq_some_iff, h]
  exact List.mem_append_right _ (List.mem_map.2 ⟨name, hmem, rfl⟩)

end Extends

theorem mem_unvalued {values : Bindings (Option String)} {name : String} :
    name ∈ unvalued values ↔ values.get? name = some none := by
  rw [Bindings.get?_eq_some_iff, unvalued, List.mem_map]
  constructor
  · rintro ⟨⟨key, value⟩, hmem, rfl⟩
    rw [List.mem_filter, Option.isNone_iff_eq_none] at hmem
    exact hmem.2 ▸ hmem.1
  · intro hmem
    exact ⟨(name, none), List.mem_filter.2 ⟨hmem, rfl⟩, rfl⟩

theorem mem_keys_of_mem_unvalued {values : Bindings (Option String)} {name : String}
    (h : name ∈ unvalued values) : name ∈ values.keys :=
  Bindings.mem_keys_iff_exists.2 ⟨none, mem_unvalued.1 h⟩

/-! ## The fuel -/

/-- How many of the names that anything depends on are still to be found. -/
def missing (all : List String) (values : Bindings (Option String)) : ℕ :=
  (all.toFinset \ values.keys.toFinset).card

theorem missing_le_length (all : List String) (values : Bindings (Option String)) :
    missing all values ≤ all.length :=
  (Finset.card_le_card Finset.sdiff_subset).trans (List.toFinset_card_le _)

theorem missing_discover {all names : List String} (queue : List String)
    (values : Bindings (Option String)) (h : ∀ name ∈ names, name ∈ all) :
    missing all (discover supplied names queue values).2 + (novel values.keys names).length =
      missing all values := by
  have hsub : (novel values.keys names).toFinset ⊆ all.toFinset \ values.keys.toFinset := by
    intro name hname
    obtain ⟨hmem, hnew⟩ := mem_novel.1 (List.mem_toFinset.1 hname)
    rw [Finset.mem_sdiff, List.mem_toFinset, List.mem_toFinset]
    exact ⟨h name hmem, hnew⟩
  rw [missing, keys_discover, List.toFinset_append, ← Finset.sup_eq_union, ← sdiff_sdiff_left,
    ← List.toFinset_card_of_nodup nodup_novel]
  exact Finset.card_sdiff_add_card_eq_card hsub

/-- A round shortens the queue and the names to be found by one, taken together. -/
theorem queue_add_missing_discover_le {all names : List String} (queue : List String)
    (values : Bindings (Option String)) (h : ∀ name ∈ names, name ∈ all) :
    (discover supplied names queue values).1.length
        + missing all (discover supplied names queue values).2 ≤
      queue.length + missing all values := by
  have hfilter :=
    List.length_filter_le (fun name ↦ (supplied name).isNone) (novel values.keys names)
  have hmissing : missing all (discover supplied names queue values).2
      + (novel values.keys names).length = missing all values := missing_discover queue values h
  rw [queue_discover, List.length_append]
  omega

/-! ## The whole search -/

/-- One round of the search: a name is taken from the queue, and what it depends on is bound. -/
inductive SearchStep (dependencies : String → List String) (supplied : String → Option String) :
    List String × Bindings (Option String) → List String × Bindings (Option String) → Prop where
  /-- The name is the one at the head. -/
  | take (name : String) (queue : List String) (values : Bindings (Option String)) :
    SearchStep dependencies supplied (name :: queue, values)
      (discover supplied (dependencies name) queue values)

/-- What a search has still to do at most: the names of the queue are to be taken from it, and names
are to be found. -/
def remaining (all : List String) (state : List String × Bindings (Option String)) : ℕ :=
  state.1.length + missing all state.2

theorem SearchStep.remaining_lt {all : List String}
    (hall : ∀ name, ∀ dep ∈ dependencies name, dep ∈ all)
    {before after : List String × Bindings (Option String)}
    (h : SearchStep dependencies supplied before after) :
    remaining all after < remaining all before := by
  obtain ⟨name, queue, values⟩ := h
  have hround : remaining all (discover supplied (dependencies name) queue values) ≤
      remaining all (queue, values) :=
    queue_add_missing_discover_le queue values (hall name)
  have hhead : remaining all (name :: queue, values) = remaining all (queue, values) + 1 :=
    Nat.add_right_comm _ _ _
  omega

/-- No search goes on for ever. -/
theorem wellFounded_searchStep {all : List String}
    (hall : ∀ name, ∀ dep ∈ dependencies name, dep ∈ all) :
    WellFounded fun after before ↦ SearchStep dependencies supplied before after :=
  Subrelation.wf (fun h ↦ h.remaining_lt hall) (measure (remaining all)).wf

/-- A search with fuel enough ends with an empty queue. -/
theorem searchSteps_spread {all : List String}
    (hall : ∀ name, ∀ dep ∈ dependencies name, dep ∈ all) {fuel : ℕ} {queue : List String}
    {values : Bindings (Option String)} (hfuel : queue.length + missing all values ≤ fuel) :
    Relation.ReflTransGen (SearchStep dependencies supplied) (queue, values)
      ([], spread dependencies supplied fuel queue values) := by
  induction fuel generalizing queue values with
  | zero =>
    have hnil : queue = [] := List.length_eq_zero_iff.1 (by omega)
    subst hnil
    exact .refl
  | succ fuel ih =>
    cases queue with
    | nil => exact .refl
    | cons name queue =>
      refine .head (.take name queue values) (ih ?_)
      rw [List.length_cons] at hfuel
      exact (queue_add_missing_discover_le queue values (hall name)).trans (by omega)

theorem searchSteps_closure {all : List String}
    (hall : ∀ name, ∀ dep ∈ dependencies name, dep ∈ all) (supplied : String → Option String)
    (values : Bindings (Option String)) :
    Relation.ReflTransGen (SearchStep dependencies supplied) (unvalued values, values)
      ([], closure dependencies all.length supplied values) :=
  searchSteps_spread hall (Nat.add_le_add_left (missing_le_length all values) _)

end Scaffold.Resolution
