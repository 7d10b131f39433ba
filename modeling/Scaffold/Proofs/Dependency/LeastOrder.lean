import Mathlib
import Scaffold.Proofs.Dependency.CyclePath

/-!
# The least order

Of all orders by dependencies the search finds the first, when they are compared by the places that
the things have in the list: the thing that it takes is the first that can be taken at all, so an
order that takes another one in its stead comes later. When the search is stuck, the things that it
has taken are accessible, while each of those that are left depends on another of them; as they are
only finitely many, a cycle is behind each.
-/

namespace Scaffold.Dependency

variable {α : Type} {dependencies : α → List α} {things members : List α}

/-- An order of some things, in which each comes after those of them that it depends on. -/
structure IsOrder (dependencies : α → List α) (things sorted : List α) : Prop where
  /-- The things are ordered, and nothing else. -/
  perm : sorted.Perm things
  /-- What a thing depends on comes before it. -/
  mem_before : ∀ before a later, sorted = before ++ a :: later →
    ∀ b ∈ dependencies a, b ∈ things → b ∈ before

/-- `b` is one of the things that `a` depends on, and both are in the list. -/
def Within (dependencies : α → List α) (things : List α) (b a : α) : Prop :=
  a ∈ things ∧ b ∈ things ∧ Below dependencies b a

/-! ## Orders -/

theorem placed_iff {placed sorted : List α} :
    Placed dependencies members placed sorted ↔
      ∀ before a later, sorted = before ++ a :: later →
        a ∉ dependencies a ∧ ∀ b ∈ dependencies a, b ∈ members → b ∈ before ∨ b ∈ placed := by
  induction sorted generalizing placed with
  | nil => simp [Placed]
  | cons c sorted ih =>
    rw [Placed, ih]
    constructor
    · rintro ⟨⟨hself, hplaced⟩, hrest⟩ before a later heq
      cases before with
      | nil =>
        obtain ⟨rfl, rfl⟩ := List.cons.inj heq
        exact ⟨hself, fun b hb hmember ↦ .inr (hplaced b hb hmember)⟩
      | cons d before =>
        obtain ⟨rfl, rfl⟩ := List.cons.inj heq
        obtain ⟨ha, hbefore⟩ := hrest before a later rfl
        refine ⟨ha, fun b hb hmember ↦ ?_⟩
        rw [List.mem_cons, or_assoc, or_left_comm, ← List.mem_cons]
        exact hbefore b hb hmember
    · intro h
      refine ⟨⟨(h [] c sorted rfl).1, fun b hb hmember ↦ ?_⟩, fun before a later heq ↦ ?_⟩
      · exact ((h [] c sorted rfl).2 b hb hmember).resolve_left List.not_mem_nil
      · obtain ⟨ha, hbefore⟩ := h (c :: before) a later (congrArg (c :: ·) heq)
        refine ⟨ha, fun b hb hmember ↦ ?_⟩
        rw [List.mem_cons, or_left_comm, ← or_assoc, ← List.mem_cons]
        exact hbefore b hb hmember

theorem isOrder_iff (hnodup : things.Nodup) {sorted : List α} :
    IsOrder dependencies things sorted ↔
      sorted.Perm things ∧ Placed dependencies things [] sorted := by
  rw [placed_iff]
  constructor
  · rintro ⟨hperm, hbefore⟩
    refine ⟨hperm, fun before a later heq ↦ ⟨fun hself ↦ ?_, fun b hb hmember ↦ ?_⟩⟩
    · -- a thing that depends on itself would have to come twice
      have hthings : a ∈ things := hperm.mem_iff.1 (heq ▸ List.mem_append_cons_self)
      have hmem := hbefore before a later heq a hself hthings
      have hsorted := hperm.nodup_iff.2 hnodup
      rw [heq] at hsorted
      exact (List.nodup_append.1 hsorted).2.2 a hmem a List.mem_cons_self rfl
    · exact .inl (hbefore before a later heq b hb hmember)
  · rintro ⟨hperm, hplaced⟩
    refine ⟨hperm, fun before a later heq b hb hmember ↦ ?_⟩
    exact ((hplaced before a later heq).2 b hb hmember).resolve_right List.not_mem_nil

variable [DecidableEq α]

/-- `a` stands before `b` in the list. -/
def Precedes (things : List α) (a b : α) : Prop := things.idxOf a < things.idxOf b

theorem pairwise_precedes (hnodup : things.Nodup) : things.Pairwise (Precedes things) := by
  rw [List.pairwise_iff_getElem]
  intro i j hi hj hij
  rwa [Precedes, hnodup.idxOf_getElem, hnodup.idxOf_getElem]

/-- What is in order already is kept as it is. -/
theorem orderPending_of_placed {placed pending : List α}
    (h : Placed dependencies members placed pending) :
    orderPending dependencies members placed pending = .ok pending := by
  induction pending generalizing placed with
  | nil => exact orderPending_nil placed
  | cons a pending ih =>
    rw [orderPending_of_find? (List.find?_cons_of_pos (isReady_iff.2 h.1)), List.erase_cons_head,
      ih h.2]
    rfl

/-- The order that is found is the least of all orders of the pending things. -/
theorem eq_or_lex_of_orderPending {placed pending sorted other : List α}
    (hpending : pending.Pairwise (Precedes things))
    (h : orderPending dependencies members placed pending = .ok sorted)
    (hperm : other.Perm pending) (hother : Placed dependencies members placed other) :
    sorted = other ∨ List.Lex (Precedes things) sorted other := by
  fun_induction orderPending dependencies members placed pending generalizing sorted other with
  | case1 placed pending a hfind ih =>
    cases hrest : orderPending dependencies members (a :: placed) (pending.erase a) with
    | error stuck => simp [hrest, Except.map] at h
    | ok rest =>
      simp only [hrest, Except.map, Except.ok.injEq] at h
      subst h
      have ha := List.mem_of_find?_eq_some hfind
      obtain ⟨-, before, after, rfl, hbefore⟩ := List.find?_eq_some_iff_append.1 hfind
      cases other with
      | nil => exact absurd (hperm.mem_iff.2 ha) List.not_mem_nil
      | cons b other =>
        by_cases hba : b = a
        · subst hba
          have hperm' := hperm.trans (List.perm_cons_erase ha)
          exact (ih (hpending.sublist List.erase_sublist) hrest hperm'.cons_inv hother.2).imp
            (congrArg (b :: ·)) .cons
        · -- what the other order takes is ready too, so it stands after the first that is
          have hb : b ∉ before := by
            intro hb
            have hready := hbefore b hb
            rw [isReady_iff.2 hother.1] at hready
            cases hready
          have hmem := (List.mem_append.1 (hperm.mem_iff.1 List.mem_cons_self)).resolve_left hb
          have hafter := (List.pairwise_append.1 hpending).2.1
          exact .inr (.rel ((List.pairwise_cons.1 hafter).1 b
            ((List.mem_cons.1 hmem).resolve_left hba)))
  | case2 placed pending hfind hempty =>
    cases h
    rw [List.isEmpty_iff.1 hempty] at hperm
    exact .inl hperm.eq_nil.symm
  | case3 placed pending hfind hempty => simp at h

/-! ## What is left over -/

theorem sublist_of_orderPending {placed pending stuck : List α}
    (h : orderPending dependencies members placed pending = .error stuck) :
    stuck.Sublist pending := by
  fun_induction orderPending dependencies members placed pending generalizing stuck with
  | case1 placed pending a hfind ih =>
    cases hrest : orderPending dependencies members (a :: placed) (pending.erase a) with
    | ok rest => simp [hrest, Except.map] at h
    | error left =>
      simp only [hrest, Except.map, Except.error.injEq] at h
      subst h
      exact (ih hrest).trans List.erase_sublist
  | case2 placed pending hfind hempty => simp at h
  | case3 placed pending hfind hempty =>
    cases h
    exact .refl _

/-- What the search takes is accessible. -/
theorem acc_of_orderPending {placed pending : List α} {a : α}
    (hplaced : ∀ b ∈ placed, Acc (Within dependencies members) b) (ha : a ∈ pending)
    (hstuck : ∀ stuck, orderPending dependencies members placed pending = .error stuck →
      a ∉ stuck) : Acc (Within dependencies members) a := by
  fun_induction orderPending dependencies members placed pending with
  | case1 placed pending c hfind ih =>
    have hc : Acc (Within dependencies members) c := by
      refine .intro c fun b hb ↦ hplaced b ?_
      exact (isReady_iff.1 (List.find?_some hfind)).2 b hb.2.2 hb.2.1
    by_cases hac : a = c
    · exact hac ▸ hc
    · refine ih (List.forall_mem_cons.2 ⟨hc, hplaced⟩) ((List.mem_erase_of_ne hac).2 ha) ?_
      exact fun stuck hrest ↦ hstuck stuck (by rw [hrest]; rfl)
  | case2 placed pending hfind hempty =>
    rw [List.isEmpty_iff.1 hempty] at ha
    cases ha
  | case3 placed pending hfind hempty => exact absurd ha (hstuck pending rfl)

theorem acc_of_order {a : α}
    (h : ∀ stuck, order dependencies things = .error stuck → a ∉ stuck) :
    Acc (Within dependencies things) a := by
  by_cases ha : a ∈ things
  · exact acc_of_orderPending (by simp) ha h
  · exact .intro a fun b hb ↦ absurd hb.1 ha

omit [DecidableEq α] in
/-- Among finitely many things of which each is above another, a cycle is below each. -/
theorem exists_transGen_of_forall_exists {r : α → α → Prop}
    (h : ∀ a ∈ things, ∃ b ∈ things, r b a) {a : α} (ha : a ∈ things) :
    ∃ b, Relation.ReflTransGen r b a ∧ Relation.TransGen r b b := by
  by_contra hnone
  push Not at hnone
  -- otherwise the things below `a` would go down forever, each only once
  let below : {b // b ∈ things} → {b // b ∈ things} → Prop :=
    fun x y ↦ Relation.TransGen r x.1 y.1 ∧ Relation.ReflTransGen r y.1 a
  have : IsTrans _ below := ⟨fun _ _ _ hxy hyz ↦ ⟨hxy.1.trans hyz.1, hyz.2⟩⟩
  have : Std.Irrefl below := ⟨fun x hx ↦ hnone x.1 hx.2 hx.1⟩
  have : Finite {b // b ∈ things} := things.finite_toSet.to_subtype
  have hwf : WellFounded below := Finite.wellFounded_of_trans_of_irrefl below
  have hfalse : ∀ x : {b // b ∈ things}, ¬Relation.ReflTransGen r x.1 a := by
    intro x
    induction x using hwf.induction with
    | _ x ih =>
      intro hx
      obtain ⟨b, hb, hbx⟩ := h x.1 x.2
      exact ih ⟨b, hb⟩ ⟨.single hbx, hx⟩ (.head hbx hx)
  exact hfalse ⟨a, ha⟩ .refl

/-- A cycle is behind each thing that is left over, and behind no other. -/
theorem mem_stuck_iff {stuck : List α} (h : order dependencies things = .error stuck) {a : α} :
    a ∈ stuck ↔
      ∃ b, Relation.ReflTransGen (Within dependencies things) b a ∧
        Relation.TransGen (Within dependencies things) b b := by
  constructor
  · refine exists_transGen_of_forall_exists fun c hc ↦ ?_
    obtain ⟨-, hstuck⟩ := stuck_of_orderPending (fun _ hb ↦ .inr hb) h
    have hthings : ∀ b ∈ stuck, b ∈ things := fun b hb ↦ (hstuck b hb).1
    obtain ⟨b, hb, hbelow⟩ := (hstuck c hc).2 (hthings c hc)
    exact ⟨b, hb, hthings c hc, hthings b hb, hbelow⟩
  · rintro ⟨b, hbelow, hcycle⟩
    by_contra hnot
    have hacc : Acc (Within dependencies things) a :=
      acc_of_order fun left hleft ↦ Except.error.inj (h.symm.trans hleft) ▸ hnot
    rcases Relation.reflTransGen_iff_eq_or_transGen.1 hbelow with rfl | hstep
    · exact not_transGen_of_acc hacc hcycle
    · exact not_transGen_of_acc (hacc.inv_of_transGen hstep) hcycle

theorem exists_order_of_forall_not_transGen
    (h : ∀ a, ¬Relation.TransGen (Within dependencies things) a a) :
    ∃ sorted, order dependencies things = .ok sorted := by
  cases horder : order dependencies things with
  | ok sorted => exact ⟨sorted, rfl⟩
  | error stuck =>
    obtain ⟨hne, -⟩ := stuck_of_orderPending (fun _ hb ↦ .inr hb) horder
    obtain ⟨a, ha⟩ := List.exists_mem_of_ne_nil stuck hne
    obtain ⟨b, -, hcycle⟩ := (mem_stuck_iff horder).1 ha
    exact absurd hcycle (h b)

theorem exists_order_eq_error {a : α} (h : Relation.TransGen (Within dependencies things) a a) :
    ∃ stuck, order dependencies things = .error stuck := by
  cases horder : order dependencies things with
  | error stuck => exact ⟨stuck, rfl⟩
  | ok sorted =>
    refine absurd h (not_transGen_of_acc (acc_of_order fun stuck hstuck ↦ ?_))
    cases horder.symm.trans hstuck

end Scaffold.Dependency

namespace Scaffold.Table

open Dependency (IsOrder Precedes Within)

/-! ## Orders of variables -/

/-- Distinct variables of which none leads back to itself have an order, and the first of their
orders is found. If there is a cycle among them, they have none, and those that lead to a cycle are
reported. -/
theorem solvingOrder_least (t : Table) {names : List String} (hnodup : names.Nodup) :
    ((∀ name, ¬Relation.TransGen (Within t.dependencies names) name name) →
        ∃ sorted, t.solvingOrder names = .ok sorted ∧ IsOrder t.dependencies names sorted ∧
          (∀ other, IsOrder t.dependencies names other →
            sorted = other ∨ List.Lex (Precedes names) sorted other) ∧
          (IsOrder t.dependencies names names → sorted = names)) ∧
      ((∃ name, Relation.TransGen (Within t.dependencies names) name name) →
        ∃ e, t.solvingOrder names = .error e ∧ e.names.Sublist names ∧
          ∀ name, name ∈ e.names ↔
            ∃ source, Relation.ReflTransGen (Within t.dependencies names) source name ∧
              Relation.TransGen (Within t.dependencies names) source source) := by
  constructor
  · intro hacyclic
    obtain ⟨sorted, hsorted⟩ := Dependency.exists_order_of_forall_not_transGen hacyclic
    obtain ⟨hplaced, hperm⟩ := Dependency.placed_of_orderPending hsorted
    refine ⟨sorted, by rw [solvingOrder, hsorted]; rfl,
      (Dependency.isOrder_iff hnodup).2 ⟨hperm, hplaced⟩, fun other hother ↦ ?_, fun hnames ↦ ?_⟩
    · obtain ⟨hperm', hplaced'⟩ := (Dependency.isOrder_iff hnodup).1 hother
      exact Dependency.eq_or_lex_of_orderPending (Dependency.pairwise_precedes hnodup) hsorted
        hperm' hplaced'
    · have hkept := Dependency.orderPending_of_placed ((Dependency.isOrder_iff hnodup).1 hnames).2
      exact Except.ok.inj (hsorted.symm.trans hkept)
  · rintro ⟨name, hcycle⟩
    obtain ⟨stuck, hstuck⟩ := Dependency.exists_order_eq_error hcycle
    refine ⟨⟨stuck⟩, by rw [solvingOrder, hstuck]; rfl,
      Dependency.sublist_of_orderPending hstuck, fun _ ↦ Dependency.mem_stuck_iff hstuck⟩

/-- A table with a user who is named by his own home, and a title. -/
def knotTable : Table where
  entries :=
    [(.ofName "title", ⟨some "user", false, none, ["user"]⟩),
      (.ofName "user", ⟨some "home", false, none, ["home"]⟩),
      (.ofName "home", ⟨some "snakeCase(user)", false, none, ["user"]⟩)]

theorem solvingOrder_least_knotTable :
    ["title", "user", "home"].Nodup ∧
      ∃ e, knotTable.solvingOrder ["title", "user", "home"] = .error e ∧
        e.names.Sublist ["title", "user", "home"] ∧ "title" ∈ e.names := by
  let below := Within knotTable.dependencies ["title", "user", "home"]
  have htitle : below "user" "title" := ⟨by decide, by decide, List.mem_singleton_self _⟩
  have huser : below "home" "user" := ⟨by decide, by decide, List.mem_singleton_self _⟩
  have hhome : below "user" "home" := ⟨by decide, by decide, List.mem_singleton_self _⟩
  have hcycle : Relation.TransGen below "user" "user" := .tail (.single hhome) huser
  have hnodup : ["title", "user", "home"].Nodup := by decide
  obtain ⟨e, he, hsublist, hstuck⟩ := (solvingOrder_least knotTable hnodup).2 ⟨"user", hcycle⟩
  exact ⟨hnodup, e, he, hsublist, (hstuck "title").2 ⟨"user", .single htitle, hcycle⟩⟩

end Scaffold.Table
