import Mathlib
import Scaffold.Config.Problem
import Scaffold.Proofs.Config.Sound

/-!
# Cycles that are found

The search for cycles is exact: it finds none just if there is none, and what it finds is one. What a
path is when it comes back to a thing on it is proved of the search without a bound, by induction on
how it goes: the path has kept to dependencies and has met no thing twice, so that the part of it
from that thing on is a cycle.
-/

namespace Scaffold

namespace Dependency

variable {α : Type} {dependencies : α → List α} {things : List α}

/-! ## Cycles -/

/-- A path along dependencies from a thing back to it, which meets no other thing twice. -/
structure IsCycle (dependencies : α → List α) (path : List α) : Prop where
  /-- There is a step to make. -/
  two_le_length : 2 ≤ path.length
  /-- The path ends with the thing that it starts with. -/
  closed : path.head? = path.getLast?
  /-- Each thing depends on the next. -/
  edges : path.IsChain fun a b ↦ Below dependencies b a
  /-- Nothing but the ends of the path stands on it twice. -/
  nodup : path.tail.Nodup

/-- The thing at the ends of a cycle leads to all on it. -/
theorem IsCycle.exists_forall_transGen {path : List α} (h : IsCycle dependencies path) :
    ∃ a ∈ path, ∀ b ∈ path, Relation.TransGen (Below dependencies) b a := by
  obtain ⟨hlength, hclosed, hedges, -⟩ := h
  match path, hlength with
  | a :: b :: rest, _ =>
    let leads : α → α → Prop := fun x y ↦ Relation.TransGen (Below dependencies) y x
    have : Trans leads leads leads := ⟨fun hxy hyz ↦ hyz.trans hxy⟩
    have hleads : (a :: b :: rest).IsChain leads := hedges.imp fun _ _ hstep ↦ .single hstep
    have hall := (List.pairwise_cons.1 hleads.pairwise).1
    rw [List.head?_cons, List.getLast?_cons_cons] at hclosed
    refine ⟨a, List.mem_cons_self, List.forall_mem_cons.2 ⟨?_, hall⟩⟩
    -- it stands at the end as well, after the first step
    exact hall a (List.mem_of_getLast? hclosed.symm)

/-- On a cycle a thing leads to itself. -/
theorem IsCycle.exists_transGen {path : List α} (h : IsCycle dependencies path) :
    ∃ a, Relation.TransGen (Below dependencies) a a := by
  obtain ⟨a, ha, hall⟩ := h.exists_forall_transGen
  exact ⟨a, hall a ha⟩

/-- From an accessible thing no path leads back to it. -/
theorem not_transGen_of_acc {r : α → α → Prop} {a : α} (h : Acc r a) : ¬Relation.TransGen r a a := by
  have hacc := h.transGen
  clear h
  induction hacc with
  | intro a _ ih => exact fun hcycle ↦ ih a hcycle hcycle

variable [DecidableEq α]

/-- What a path that comes back to one of its things is from that thing on. -/
theorem exists_dropWhile_eq_cons {path : List α} {a : α} (h : a ∈ path) :
    ∃ after, path.dropWhile (· != a) = a :: after ∧ (a :: after) <:+ path := by
  have hsuffix : path.dropWhile (· != a) <:+ path := List.dropWhile_suffix _
  cases hdrop : path.dropWhile (· != a) with
  | nil => simpa using List.dropWhile_eq_nil_iff.1 hdrop a h
  | cons b after =>
    have hb := List.head?_dropWhile_not (· != a) path
    rw [hdrop, List.head?_cons] at hb
    obtain rfl : b = a := by simpa using hb
    exact ⟨after, rfl, hdrop ▸ hsuffix⟩

theorem isCycle_of_mem {path : List α} {a : α} (hnodup : path.Nodup)
    (hedges : (path ++ [a]).IsChain fun a b ↦ Below dependencies b a) (h : a ∈ path) :
    IsCycle dependencies (path.dropWhile (· != a) ++ [a]) := by
  obtain ⟨after, hdrop, hsuffix⟩ := exists_dropWhile_eq_cons h
  obtain ⟨before, rfl⟩ := hsuffix
  rw [hdrop]
  refine ⟨by simp, ?_, ?_, ?_⟩
  · rw [List.cons_append, List.head?_cons, ← List.cons_append, List.getLast?_concat]
  · rw [List.append_assoc] at hedges
    exact hedges.right_of_append
  · rw [List.cons_append, List.tail_cons, List.nodup_append_comm]
    exact (List.nodup_append.1 hnodup).2.1

/-! ## What the search finds -/

/-- What the search finds is a cycle. -/
theorem isCycle_of_visits {path pending done found : List α}
    (h : Visits dependencies path pending done (.cycle found)) (hnodup : path.Nodup)
    (hedges : ∀ a ∈ pending, (path ++ [a]).IsChain fun a b ↦ Below dependencies b a) :
    IsCycle dependencies found := by
  generalize hcycle : Search.cycle found = outcome at h
  induction h with
  | nil path done => cases hcycle
  | back hpath =>
    cases hcycle
    exact isCycle_of_mem hnodup (hedges _ List.mem_cons_self) hpath
  | known hpath hdone h ih =>
    exact ih hnodup (fun a ha ↦ hedges a (List.mem_cons_of_mem _ ha)) hcycle
  | @cycle path rest done found' a hpath hdone h ih =>
    refine ih ?_ ?_ hcycle
    · rw [List.nodup_append_comm]
      exact List.nodup_cons.2 ⟨hpath, hnodup⟩
    · intro b hb
      refine (hedges a List.mem_cons_self).append (List.isChain_singleton b) ?_
      simpa using show Below dependencies b a from hb
  | clear hpath hdone h hrest _ ih =>
    exact ih hnodup (fun a ha ↦ hedges a (List.mem_cons_of_mem _ ha)) hcycle

theorem isCycle_of_findCycle (hclosed : ∀ a ∉ things, dependencies a = []) {path : List α}
    (h : findCycle dependencies things = some path) : IsCycle dependencies path := by
  obtain ⟨found, hvisits, hfound⟩ := exists_visits_of_findCycle hclosed
  rw [h] at hfound
  cases found with
  | clear done => cases hfound
  | cycle found =>
    cases hfound
    exact isCycle_of_visits hvisits .nil fun a _ ↦ List.isChain_singleton a

end Dependency

namespace Table

open Dependency (Below IsCycle Visits)

variable {t : Table}

/-! ## Tables -/

theorem ofName_injective : Function.Injective Key.ofName := fun _ _ h ↦ congrArg Key.text h

/-- Only variables are depended on, so a cycle of keys is one of variables. -/
theorem exists_isCycle_of_isCycle {path : List Key} (h : IsCycle t.keyDependencies path) :
    ∃ names, path = names.map .ofName ∧ IsCycle t.dependencies names := by
  obtain ⟨source, -, hall⟩ := h.exists_forall_transGen
  have hname : ∀ key ∈ path, Key.ofName key.text = key := by
    intro key hkey
    obtain ⟨above, hbelow, -⟩ := Relation.TransGen.head'_iff.1 (hall key hkey)
    rw [Below, keyDependencies] at hbelow
    split at hbelow
    · obtain ⟨name, -, rfl⟩ := List.mem_map.1 hbelow
      rfl
    · cases hbelow
  have hmap : path.map (Key.ofName ∘ Key.text) = path.map id := List.map_congr_left hname
  have hpath : path = (path.map Key.text).map .ofName := by
    rw [List.map_map, hmap, List.map_id]
  refine ⟨path.map Key.text, hpath, ?_⟩
  rw [hpath] at h
  refine ⟨by simpa using h.two_le_length, ?_, ?_, ?_⟩
  · have hclosed := h.closed
    rw [List.head?_map, List.getLast?_map] at hclosed
    exact Option.map_injective ofName_injective hclosed
  · refine ((List.isChain_map _).1 h.edges).imp fun name dep hstep ↦ ?_
    rw [Below, keyDependencies_ofName] at hstep
    exact (List.mem_map_of_injective ofName_injective).1 hstep
  · have hnodup := h.nodup
    rw [← List.map_tail] at hnodup
    exact hnodup.of_map

/-- The search for a cycle in a table comes to its end. It finds none just if no variable leads
through dependencies back to itself, and what it finds is such a way; the table has a problem just if
there is one. -/
theorem findCycle_exact (t : Table) :
    (∃ found, Visits t.keyDependencies [] (t.entries.map (·.1)) [] found ∧
        t.findCycle = found.path?) ∧
      (t.findCycle = none ↔ ∀ name, ¬Relation.TransGen (Below t.dependencies) name name) ∧
      (∀ path, t.findCycle = some path →
        ∃ names, path = names.map .ofName ∧ IsCycle t.dependencies names) ∧
      (t.problem?.isSome ↔ ∃ names, IsCycle t.dependencies names) := by
  have hclosed : ∀ key ∉ t.entries.map (·.1), t.keyDependencies key = [] :=
    fun _ hkey ↦ keyDependencies_eq_nil hkey
  have hfound : ∀ path, t.findCycle = some path →
      ∃ names, path = names.map .ofName ∧ IsCycle t.dependencies names :=
    fun path hpath ↦ exists_isCycle_of_isCycle (Dependency.isCycle_of_findCycle hclosed hpath)
  have hnone : t.findCycle = none → ∀ name, ¬Relation.TransGen (Below t.dependencies) name name :=
    fun h name ↦ Dependency.not_transGen_of_acc (acc_of_findCycle h name)
  refine ⟨Dependency.exists_visits_of_findCycle hclosed, ⟨hnone, ?_⟩, hfound, ?_⟩
  · intro h
    cases hcycle : t.findCycle with
    | none => rfl
    | some path =>
      obtain ⟨names, -, hnames⟩ := hfound path hcycle
      obtain ⟨name, hname⟩ := hnames.exists_transGen
      exact absurd hname (h name)
  · rw [problem?, Option.isSome_map, Option.isSome_iff_exists]
    constructor
    · rintro ⟨path, hpath⟩
      obtain ⟨names, -, hnames⟩ := hfound path hpath
      exact ⟨names, hnames⟩
    · rintro ⟨names, hnames⟩
      obtain ⟨name, hname⟩ := hnames.exists_transGen
      exact Option.ne_none_iff_exists'.1 fun h ↦ hnone h name hname

end Table

end Scaffold
