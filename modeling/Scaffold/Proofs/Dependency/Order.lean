import Mathlib
import Scaffold.Dependency.Order

/-!
# Orders by dependencies

An order that is found is a permutation of the things in which the turn of each comes after those
that it depends on. When none is found, the things left over depend on each other: each depends on
one of them. Such a set is empty if no path of dependencies goes on forever, so things that are
accessible always have an order.
-/

namespace Scaffold.Dependency

variable {α : Type} {dependencies : α → List α} {members : List α}

/-- `b` is one of the things that `a` depends on. -/
def Below (dependencies : α → List α) (b a : α) : Prop := b ∈ dependencies a

/-- When the turn of a thing comes, it does not depend on itself, and those members that it depends
on are placed. -/
def Placed (dependencies : α → List α) (members : List α) : (placed order : List α) → Prop
  | _, [] => True
  | placed, a :: order =>
    (a ∉ dependencies a ∧ ∀ b ∈ dependencies a, b ∈ members → b ∈ placed) ∧
      Placed dependencies members (a :: placed) order

theorem Placed.notMem_self {placed sorted : List α}
    (h : Placed dependencies members placed sorted) : ∀ a ∈ sorted, a ∉ dependencies a := by
  induction sorted generalizing placed with
  | nil => simp
  | cons a sorted ih => exact List.forall_mem_cons.2 ⟨h.1.1, ih h.2⟩

theorem Placed.pairwise {placed sorted : List α} (h : Placed dependencies members placed sorted)
    (hmembers : ∀ a ∈ sorted, a ∈ members) (hplaced : ∀ a ∈ sorted, a ∉ placed)
    (hnodup : sorted.Nodup) : sorted.Pairwise fun a later ↦ later ∉ dependencies a := by
  induction sorted generalizing placed with
  | nil => exact .nil
  | cons a sorted ih =>
    obtain ⟨ha, hnodup⟩ := List.nodup_cons.1 hnodup
    refine List.pairwise_cons.2 ⟨fun later hlater hdep ↦ ?_, ih h.2 ?_ ?_ hnodup⟩
    · have hmem := List.mem_cons_of_mem a hlater
      exact hplaced later hmem (h.1.2 later hdep (hmembers later hmem))
    · exact fun b hb ↦ hmembers b (List.mem_cons_of_mem a hb)
    · intro b hb
      rw [List.mem_cons, not_or]
      exact ⟨fun heq ↦ ha (heq ▸ hb), hplaced b (List.mem_cons_of_mem a hb)⟩

/-! ## The search for an order -/

variable [DecidableEq α]

theorem isReady_iff {placed : List α} {a : α} :
    isReady dependencies members placed a = true ↔
      a ∉ dependencies a ∧ ∀ b ∈ dependencies a, b ∈ members → b ∈ placed := by
  simp only [isReady, Bool.and_eq_true, Bool.not_eq_true', List.contains_eq_mem,
    decide_eq_false_iff_not, List.all_eq_true, Bool.or_eq_true, decide_eq_true_eq]
  refine and_congr_right fun _ ↦ forall₂_congr fun b _ ↦ ?_
  exact or_iff_not_imp_left.trans (by rw [not_not])

theorem orderPending_nil (placed : List α) :
    orderPending dependencies members placed [] = .ok [] := by
  rw [orderPending]
  rfl

theorem orderPending_of_find? {placed pending : List α} {a : α}
    (h : pending.find? (isReady dependencies members placed) = some a) :
    orderPending dependencies members placed pending =
      (orderPending dependencies members (a :: placed) (pending.erase a)).map (a :: ·) := by
  rw [orderPending]
  split
  · next b hb =>
    obtain rfl := Option.some.inj (h.symm.trans hb)
    rfl
  · next hnone => cases h.symm.trans hnone

theorem placed_of_orderPending {placed pending sorted : List α}
    (h : orderPending dependencies members placed pending = .ok sorted) :
    Placed dependencies members placed sorted ∧ sorted.Perm pending := by
  fun_induction orderPending dependencies members placed pending generalizing sorted with
  | case1 placed pending a hfind ih =>
    cases hrest : orderPending dependencies members (a :: placed) (pending.erase a) with
    | error stuck => simp [hrest, Except.map] at h
    | ok rest =>
      simp only [hrest, Except.map, Except.ok.injEq] at h
      subst h
      obtain ⟨hplaced, hperm⟩ := ih hrest
      have hmem := List.mem_of_find?_eq_some hfind
      exact ⟨⟨isReady_iff.1 (List.find?_some hfind), hplaced⟩,
        (hperm.cons a).trans (List.perm_cons_erase hmem).symm⟩
  | case2 placed pending hfind hempty =>
    cases h
    rw [List.isEmpty_iff.1 hempty]
    exact ⟨trivial, .refl _⟩
  | case3 placed pending hfind hempty => simp at h

theorem stuck_of_orderPending {placed pending stuck : List α}
    (hmembers : ∀ b ∈ members, b ∈ placed ∨ b ∈ pending)
    (h : orderPending dependencies members placed pending = .error stuck) :
    stuck ≠ [] ∧
      ∀ a ∈ stuck, a ∈ pending ∧ (a ∈ members → ∃ b ∈ stuck, Below dependencies b a) := by
  fun_induction orderPending dependencies members placed pending generalizing stuck with
  | case1 placed pending a hfind ih =>
    cases hrest : orderPending dependencies members (a :: placed) (pending.erase a) with
    | ok rest => simp [hrest, Except.map] at h
    | error left =>
      simp only [hrest, Except.map, Except.error.injEq] at h
      subst h
      have hmembers' : ∀ b ∈ members, b ∈ a :: placed ∨ b ∈ pending.erase a := by
        intro b hb
        by_cases hba : b = a
        · exact .inl (hba ▸ List.mem_cons_self)
        · rw [List.mem_erase_of_ne hba]
          exact (hmembers b hb).imp_left (List.mem_cons_of_mem a)
      obtain ⟨hne, hstuck⟩ := ih hmembers' hrest
      exact ⟨hne, fun b hb ↦ ⟨List.mem_of_mem_erase (hstuck b hb).1, (hstuck b hb).2⟩⟩
  | case2 placed pending hfind hempty => simp at h
  | case3 placed pending hfind hempty =>
    cases h
    refine ⟨mt List.isEmpty_iff.2 hempty, fun a ha ↦ ⟨ha, fun hmember ↦ ?_⟩⟩
    have hnot := mt isReady_iff.2 (List.find?_eq_none.1 hfind a ha)
    by_cases hself : a ∈ dependencies a
    · exact ⟨a, ha, hself⟩
    · push Not at hnot
      obtain ⟨b, hb, hbm, hbp⟩ := hnot hself
      exact ⟨b, (hmembers b hbm).resolve_left hbp, hb⟩

theorem perm_of_order {things sorted : List α} (h : order dependencies things = .ok sorted) :
    sorted.Perm things :=
  (placed_of_orderPending h).2

/-- No thing depends on itself or on one that comes after it. -/
theorem pairwise_of_order {things sorted : List α} (hnodup : things.Nodup)
    (h : order dependencies things = .ok sorted) :
    (∀ a ∈ sorted, a ∉ dependencies a) ∧
      sorted.Pairwise fun a later ↦ later ∉ dependencies a := by
  obtain ⟨hplaced, hperm⟩ := placed_of_orderPending h
  exact ⟨hplaced.notMem_self, hplaced.pairwise (fun a ha ↦ hperm.mem_iff.1 ha) (by simp)
    (hperm.nodup_iff.2 hnodup)⟩

/-- Things from which no path of dependencies goes on forever have an order. -/
theorem exists_order_of_acc {things : List α} (h : ∀ a ∈ things, Acc (Below dependencies) a) :
    ∃ sorted, order dependencies things = .ok sorted := by
  cases horder : order dependencies things with
  | ok sorted => exact ⟨sorted, rfl⟩
  | error stuck =>
    obtain ⟨hne, hstuck⟩ := stuck_of_orderPending (fun _ hb ↦ .inr hb) horder
    obtain ⟨a, ha⟩ := List.exists_mem_of_ne_nil stuck hne
    -- each thing that is stuck depends on another, which an accessible one cannot go on doing
    have hnone : ∀ b, Acc (Below dependencies) b → b ∉ stuck := by
      intro b hb
      induction hb with
      | intro b _ ih =>
        intro hmem
        obtain ⟨c, hc, hcb⟩ := (hstuck b hmem).2 (hstuck b hmem).1
        exact ih c hcb hc
    exact absurd ha (hnone a (h a (hstuck a ha).1))

end Scaffold.Dependency
