/-!
# Ordering by dependencies

A list of things is put in an order in which each comes after those of the list that it depends on.
Again and again the first thing is taken that is ready, so that the order of the list is kept as far
as possible. If none is ready, the things left over depend on each other in a circle.
-/

namespace Scaffold.Dependency

variable {α : Type} [DecidableEq α]

/-- A thing is ready when it does not depend on itself, and what it depends on is placed already or
is no member. -/
def isReady (dependencies : α → List α) (members placed : List α) (a : α) : Bool :=
  !(dependencies a).contains a
    && (dependencies a).all fun b ↦ !members.contains b || placed.contains b

/-- The pending things in order, or those that never get ready. -/
def orderPending (dependencies : α → List α) (members placed pending : List α) :
    Except (List α) (List α) :=
  match _h : pending.find? (isReady dependencies members placed) with
  | some a =>
    (orderPending dependencies members (a :: placed) (pending.erase a)).map (a :: ·)
  | none => if pending.isEmpty then .ok [] else .error pending
termination_by pending.length
decreasing_by
  have hmem := List.mem_of_find?_eq_some _h
  rw [List.length_erase_of_mem hmem]
  exact Nat.sub_lt (List.length_pos_of_mem hmem) Nat.one_pos

/-- The things in an order in which each comes after those it depends on, or the things for which
there is no such order. -/
def order (dependencies : α → List α) (things : List α) : Except (List α) (List α) :=
  orderPending dependencies things [] things

end Scaffold.Dependency
