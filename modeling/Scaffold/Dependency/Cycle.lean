/-!
# Cycles

Whether something depends on itself, through however many steps. The dependencies of a thing are
listed by a function, and a search follows them in depth from each thing of a list in turn. What has
been searched without finding a cycle is not searched again.
-/

namespace Scaffold.Dependency

variable {α : Type} [DecidableEq α]

/-- What a search has come to. -/
inductive Search (α : Type) where
  /-- A cycle: from a thing through dependencies back to it, that thing standing at both ends. -/
  | cycle (path : List α)
  /-- No cycle, and the things that are known to be on none. -/
  | clear (done : List α)
deriving Repr

/-- Searches from one thing after another, until there is a cycle. -/
def searchEach (search : α → List α → Search α) : List α → List α → Search α
  | [], done => .clear done
  | a :: rest, done =>
    match search a done with
    | .cycle path => .cycle path
    | .clear done => searchEach search rest done

/-- Searches from the thing `a`, which has been reached along `path`. The fuel bounds the length of a
path without repetition. -/
def searchFrom (dependencies : α → List α) :
    (fuel : Nat) → (path : List α) → (a : α) → (done : List α) → Search α
  | 0, _, _, done => .clear done
  | fuel + 1, path, a, done =>
    if path.contains a then .cycle (path.dropWhile (· != a) ++ [a])
    else if done.contains a then .clear done
    else
      match searchEach (searchFrom dependencies fuel (path ++ [a])) (dependencies a) done with
      | .cycle path => .cycle path
      | .clear done => .clear (a :: done)

/-- A cycle that can be reached from a thing of the list, if there is one. Things outside the list
must have no dependencies. -/
def findCycle (dependencies : α → List α) (things : List α) : Option (List α) :=
  let bound := things.length + (things.flatMap dependencies).length + 1
  match searchEach (searchFrom dependencies bound []) things [] with
  | .cycle path => some path
  | .clear _ => none

end Scaffold.Dependency
