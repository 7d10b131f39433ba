import Mathlib
import Scaffold.Proofs.Config.Sound
import Scaffold.Proofs.Resolution.Result

/-!
# How resolving fails

Resolving with a table that has been accepted fails for three reasons only: there is nobody to ask,
the one who is asked does not answer, or a modifier has no value. It never meets a transform that
cannot be read, and it always finds an order.
-/

namespace Scaffold

/-- Why an installation fails, if it is not by a mistake of the program. -/
inductive FailureCause where
  /-- The installation is refused. -/
  | refusal
  /-- Variables have no values. -/
  | noValue
  /-- A question is not answered. -/
  | question
  /-- A modifier has no value. -/
  | evaluation
  /-- The file system refuses. -/
  | fileSystem
deriving DecidableEq, Repr

/-- The cause of an error, none for those that an accepted blueprint excludes. -/
def ResolutionError.cause? : ResolutionError → Option FailureCause
  | unresolved _ => some .noValue
  | abandoned _ => some .question
  | unanswering => some .question
  | transform (.modifier _) => some .evaluation
  | transform (.badSyntax _) => none
  | circular _ => none

namespace Resolution

variable {catalogue : Catalogue} {supplied : String → Option String} {files selected : List String}
  {table : Table} {prompter : Prompter} {c : Conversation} {e : ResolutionError}

theorem cause?_of_fails_compute {expression : String} {related : List String} {values : Values}
    (hrelated : Expr.relatedVariables expression = .ok related)
    (h : Fails (compute expression values) c e) : e.cause?.isSome = true := by
  obtain ⟨fault, rfl, hfault⟩ := outcome_of_fails_compute h
  cases fault with
  | badSyntax error => exact absurd hfault (evaluate_ne_badSyntax hrelated error)
  | modifier fault => rfl

theorem cause?_of_fails_ask {p : Prompt} (h : Fails (ask prompter p) c e) :
    e.cause?.isSome = true := by
  rcases eq_of_fails_ask h with rfl | rfl <;> rfl

theorem cause?_of_fails_leafOffer {definition : Option Definition} {values : Values}
    (hfaithful : ∀ d, definition = some d → d.IsFaithful)
    (h : Fails (leafOffer definition values) c e) : e.cause?.isSome = true := by
  unfold leafOffer at h
  split at h
  · exact absurd h not_fails_pure
  · next d =>
    split at h
    · next expression hdefault htransform =>
      rcases fails_bind.1 h with h | ⟨_, _, -, h⟩
      · exact cause?_of_fails_compute
          (d.relatedVariables_of_isFaithful (hfaithful d rfl) htransform) h
      · exact absurd h not_fails_pure
    · exact absurd h not_fails_pure

theorem cause?_of_fails_leafValue {name : String} {definition : Option Definition} {values : Values}
    (hfaithful : ∀ d, definition = some d → d.IsFaithful)
    (h : Fails (leafValue prompter name definition values) c e) : e.cause?.isSome = true := by
  rcases fails_bind.1 h with h | ⟨offer, d, -, h⟩
  · exact cause?_of_fails_leafOffer hfaithful h
  · cases prompter with
    | nobody => exact absurd h not_fails_pure
    | person =>
      rcases fails_bind.1 h with h | ⟨_, _, -, h⟩
      · exact cause?_of_fails_ask h
      · exact absurd h not_fails_pure
    | unanswering =>
      rcases fails_bind.1 h with h | ⟨_, _, -, h⟩
      · exact cause?_of_fails_ask h
      · exact absurd h not_fails_pure

theorem cause?_of_fails_resolveLeaves {names : List String} {values : Values}
    (hfaithful : table.IsFaithful) (h : Fails (resolveLeaves prompter table names values) c e) :
    e.cause?.isSome = true := by
  induction names generalizing values c with
  | nil => exact absurd h not_fails_pure
  | cons name names ih =>
    by_cases hleaf : IsOpenLeaf table values name
    · rw [resolveLeaves, if_neg (mt not_isOpenLeaf_iff.2 (not_not.2 hleaf))] at h
      rcases fails_bind.1 h with h | ⟨value, d, -, h⟩
      · exact cause?_of_fails_leafValue (fun d ↦ hfaithful name d) h
      · rcases fails_bind.1 h with h | ⟨_, _, -, h⟩
        · exact ih h
        · exact absurd h not_fails_pure
    · rw [resolveLeaves_cons_of_not hleaf] at h
      exact ih h

theorem cause?_of_fails_computeAll {names : List String} {values : Values}
    (hrelated : ∀ name ∈ names, ∃ related,
      Expr.relatedVariables (transformOf table name) = .ok related)
    (h : Fails (computeAll table names values) c e) : e.cause?.isSome = true := by
  induction names generalizing values c with
  | nil => exact absurd h not_fails_pure
  | cons name names ih =>
    obtain ⟨⟨related, hname⟩, hnames⟩ := List.forall_mem_cons.1 hrelated
    rcases fails_bind.1 h with h | ⟨value, d, -, h⟩
    · exact cause?_of_fails_compute hname h
    · exact ih hnames h

theorem cause?_of_fails_confirmAll {names : List String} {values : Values}
    (h : Fails (confirmAll prompter table names values) c e) : e.cause?.isSome = true := by
  induction names generalizing values c with
  | nil => exact absurd h not_fails_pure
  | cons name names ih =>
    rw [confirmAll] at h
    split at h
    · exact ih h
    · rcases fails_bind.1 h with h | ⟨value, d, -, h⟩
      · exact cause?_of_fails_ask h
      · exact ih h

/-- Every variable that is left to be computed has a transform, which can be read. -/
theorem exists_transform_of_mem_unvalued {leaves : Values} {d : Conversation} {name : String}
    (hfaithful : table.IsFaithful)
    (h : Yields (resolveLeaves prompter table (start catalogue supplied files selected table).keys
      (start catalogue supplied files selected table)) c ([], leaves) d)
    (hname : name ∈ unvalued leaves) :
    ∃ definition, table.find? name = some definition ∧
      definition.transform = some (transformOf table name) ∧
      Expr.relatedVariables (transformOf table name) = .ok (table.dependencies name) :=
  exists_transform_of_isDerived hfaithful
    ((mem_unvalued_iff_of_leafPass (leafPass_start h)).1 hname).2.2

theorem cause?_of_fails_computeRest {leaves : Values}
    (hrelated : ∀ name ∈ unvalued leaves, ∃ related,
      Expr.relatedVariables (transformOf table name) = .ok related)
    (hacyclic : table.findCycle = none) (h : Fails (computeRest prompter table leaves) c e) :
    e.cause?.isSome = true := by
  obtain ⟨sorted, hsorted⟩ := Table.exists_solvingOrder hacyclic (unvalued leaves)
  have hperm := Dependency.perm_of_order (Table.order_of_solvingOrder hsorted)
  rw [computeRest, hsorted] at h
  rcases fails_bind.1 h with h | ⟨computed, d', -, h⟩
  · exact cause?_of_fails_computeAll (fun name hname ↦ hrelated name (hperm.mem_iff.1 hname)) h
  · by_cases hp : prompter = .nobody
    · rw [if_pos hp] at h
      exact absurd h not_fails_pure
    · rw [if_neg hp] at h
      rcases fails_bind.1 h with h | ⟨_, _, -, h⟩
      · exact cause?_of_fails_confirmAll h
      · exact absurd h not_fails_pure

/-- Resolving with an accepted table fails for an outer cause only. -/
theorem cause?_of_fails_resolve (hfaithful : table.IsFaithful) (hacyclic : table.findCycle = none)
    (h : Fails (resolve prompter catalogue supplied files selected table) c e) :
    e.cause?.isSome = true := by
  rcases fails_resolve h with h | ⟨names, rfl⟩ | ⟨leaves, d, hleaves, h⟩
  · exact cause?_of_fails_resolveLeaves hfaithful h
  · rfl
  · refine cause?_of_fails_computeRest (fun name hname ↦ ?_) hacyclic h
    obtain ⟨_, -, -, hrelated⟩ := exists_transform_of_mem_unvalued hfaithful hleaves hname
    exact ⟨_, hrelated⟩

end Resolution

end Scaffold
