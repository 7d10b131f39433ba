import Mathlib
import Scaffold.Dependency.Cycle
import Scaffold.Proofs.Dependency.Order

/-!
# The search for cycles

The search has a fuel that is never used up, because a path without repetition is no longer than the
list of all things that can be met. `Visits` says how the search goes when nothing bounds it, and the
search with its fuel goes just so. All that is known of it is proved of the search without a bound,
by induction on how it goes.

When the search finds no cycle, no path of dependencies goes on forever. The search keeps a list of
things that it is done with, and each of them is accessible: a thing gets into the list when all
that it depends on is there.
-/

namespace Scaffold.Dependency

variable {α : Type} {dependencies : α → List α} {done done' : List α} {things : List α}

/-! ## What is done -/

/-- A search that ends without a cycle: what was done stays done, so is now each of the things that
were to be searched from, and from all of them no path goes on forever. -/
structure Settled (dependencies : α → List α) (sources done done' : List α) : Prop where
  /-- What was done stays done. -/
  subset : done ⊆ done'
  /-- What was searched from is done. -/
  searched : sources ⊆ done'
  /-- No path goes on forever. -/
  acc : ∀ a ∈ done', Acc (Below dependencies) a

theorem Settled.nil (hdone : ∀ a ∈ done, Acc (Below dependencies) a) :
    Settled dependencies [] done done :=
  ⟨fun _ h ↦ h, List.nil_subset _, hdone⟩

theorem Settled.cons {a : α} {rest middle : List α} (h : Settled dependencies [a] done middle)
    (hrest : Settled dependencies rest middle done') :
    Settled dependencies (a :: rest) done done' :=
  ⟨fun _ hb ↦ hrest.subset (h.subset hb),
    List.cons_subset.2 ⟨hrest.subset (h.searched (List.mem_singleton_self a)), hrest.searched⟩,
    hrest.acc⟩

/-- A thing is done when all that it depends on is. -/
theorem Settled.of_dependencies {a : α} (h : Settled dependencies (dependencies a) done done') :
    Settled dependencies [a] done (a :: done') := by
  refine ⟨fun _ hb ↦ List.mem_cons_of_mem a (h.subset hb), by simp, ?_⟩
  exact List.forall_mem_cons.2 ⟨.intro a fun b hb ↦ h.acc b (h.searched hb), h.acc⟩

variable [DecidableEq α]

/-! ## The search without a bound -/

/-- The unbounded search from some things in turn, which the last thing of a path depends on, comes
to an end with this outcome. -/
inductive Visits (dependencies : α → List α) :
    (path things done : List α) → Search α → Prop where
  /-- There is nothing left to search from. -/
  | nil (path done : List α) : Visits dependencies path [] done (.clear done)
  /-- A thing stands on the path already. -/
  | back {path rest done : List α} {a : α} (hpath : a ∈ path) :
    Visits dependencies path (a :: rest) done (.cycle (path.dropWhile (· != a) ++ [a]))
  /-- A thing has been searched from before. -/
  | known {path rest done : List α} {a : α} {found : Search α} (hpath : a ∉ path) (hdone : a ∈ done)
    (h : Visits dependencies path rest done found) : Visits dependencies path (a :: rest) done found
  /-- There is a cycle behind a thing. -/
  | cycle {path rest done found : List α} {a : α} (hpath : a ∉ path) (hdone : a ∉ done)
    (h : Visits dependencies (path ++ [a]) (dependencies a) done (.cycle found)) :
    Visits dependencies path (a :: rest) done (.cycle found)
  /-- There is no cycle behind a thing, and the search goes on from the others. -/
  | clear {path rest done middle : List α} {a : α} {found : Search α} (hpath : a ∉ path)
    (hdone : a ∉ done)
    (h : Visits dependencies (path ++ [a]) (dependencies a) done (.clear middle))
    (hrest : Visits dependencies path rest (a :: middle) found) :
    Visits dependencies path (a :: rest) done found

/-- The things that a search from some things can meet. -/
def reachable (dependencies : α → List α) (things : List α) : List α :=
  things ++ things.flatMap dependencies

theorem dependencies_subset_reachable (hclosed : ∀ a ∉ things, dependencies a = []) (a : α) :
    dependencies a ⊆ reachable dependencies things := by
  intro b hb
  by_cases ha : a ∈ things
  · exact List.mem_append_right _ (List.mem_flatMap.2 ⟨a, ha, hb⟩)
  · rw [hclosed a ha] at hb
    cases hb

/-- The fuel is enough: the search with it is a search without a bound. -/
theorem visits_searchEach (hclosed : ∀ a ∉ things, dependencies a = []) {fuel : ℕ}
    {path pending done : List α} (hnodup : path.Nodup)
    (hmet : path ⊆ reachable dependencies things) (hpending : pending ⊆ reachable dependencies things)
    (hfuel : (reachable dependencies things).length < fuel + path.length) :
    Visits dependencies path pending done
      (searchEach (searchFrom dependencies fuel path) pending done) := by
  induction fuel generalizing path pending done with
  | zero =>
    -- without fuel the path would be longer than the list of all that can be met
    have hlength := (List.subperm_of_subset hnodup hmet).length_le
    omega
  | succ fuel ih =>
    induction pending generalizing done with
    | nil => exact .nil path done
    | cons a rest ihrest =>
      obtain ⟨ha, hrest⟩ := List.cons_subset.1 hpending
      rw [searchEach, searchFrom]
      by_cases hpath : a ∈ path
      · rw [if_pos (List.contains_iff_mem.2 hpath)]
        exact .back hpath
      rw [if_neg (mt List.contains_iff_mem.1 hpath)]
      by_cases hdone : a ∈ done
      · rw [if_pos (List.contains_iff_mem.2 hdone)]
        exact .known hpath hdone (ihrest hrest)
      rw [if_neg (mt List.contains_iff_mem.1 hdone)]
      have hbehind : Visits dependencies (path ++ [a]) (dependencies a) done
          (searchEach (searchFrom dependencies fuel (path ++ [a])) (dependencies a) done) := by
        refine ih ?_ ?_ (dependencies_subset_reachable hclosed a) ?_
        · rw [List.nodup_append_comm]
          exact List.nodup_cons.2 ⟨hpath, hnodup⟩
        · exact List.append_subset.2 ⟨hmet, List.cons_subset.2 ⟨ha, List.nil_subset _⟩⟩
        · rw [List.length_append, List.length_singleton]
          omega
      generalize searchEach (searchFrom dependencies fuel (path ++ [a])) (dependencies a) done =
        found at hbehind
      cases found with
      | cycle found => exact .cycle hpath hdone hbehind
      | clear middle => exact .clear hpath hdone hbehind (ihrest hrest)

/-- The cycle that a search has come to, if there is one. -/
def Search.path? : Search α → Option (List α)
  | cycle path => some path
  | clear _ => none

/-- The search comes to its end by itself. -/
theorem exists_visits_of_findCycle (hclosed : ∀ a ∉ things, dependencies a = []) :
    ∃ found, Visits dependencies [] things [] found ∧
      findCycle dependencies things = found.path? := by
  have hfuel : (reachable dependencies things).length <
      things.length + (things.flatMap dependencies).length + 1 + ([] : List α).length := by
    rw [reachable, List.length_append, List.length_nil]
    omega
  refine ⟨_, visits_searchEach hclosed .nil (List.nil_subset _) (List.subset_append_left _ _) hfuel,
    ?_⟩
  rw [findCycle]
  cases searchEach (searchFrom dependencies
    (things.length + (things.flatMap dependencies).length + 1) []) things [] <;> rfl

/-! ## Searches that find no cycle -/

/-- What a search without a cycle has been through is accessible. -/
theorem settled_of_visits {path : List α}
    (h : Visits dependencies path things done (.clear done'))
    (hdone : ∀ a ∈ done, Acc (Below dependencies) a) : Settled dependencies things done done' := by
  generalize hclear : Search.clear done' = outcome at h
  induction h generalizing done' with
  | nil path done =>
    cases hclear
    exact .nil hdone
  | back hpath => cases hclear
  | known hpath hmem h ih =>
    have hrest := ih hdone hclear
    exact ⟨hrest.subset, List.cons_subset.2 ⟨hrest.subset hmem, hrest.searched⟩, hrest.acc⟩
  | cycle hpath hnew h ih => cases hclear
  | clear hpath hnew h hrest ih ihrest =>
    have hbehind := (ih hdone rfl).of_dependencies
    exact hbehind.cons (ihrest hbehind.acc hclear)

/-- When no cycle is found, no path of dependencies goes on forever. -/
theorem acc_of_findCycle (hclosed : ∀ a ∉ things, dependencies a = [])
    (h : findCycle dependencies things = none) (a : α) : Acc (Below dependencies) a := by
  obtain ⟨found, hvisits, hfound⟩ := exists_visits_of_findCycle hclosed
  rw [h] at hfound
  cases found with
  | cycle path => cases hfound
  | clear done =>
    have hsettled : Settled dependencies things [] done := settled_of_visits hvisits (by simp)
    by_cases ha : a ∈ things
    · exact hsettled.acc a (hsettled.searched ha)
    · refine .intro a fun b hb ↦ ?_
      rw [Below, hclosed a ha] at hb
      cases hb

end Scaffold.Dependency
