import Mathlib
import Scaffold.Proofs.Resolution.Unresolved

/-!
# Resolving in any conversation

A computation that asks nothing only adds to a conversation: how it ends and what it reports are the
same in all conversations. When there is nobody to be asked, all of resolving is of this kind.
-/

namespace Scaffold.Resolution

variable {α β : Type} {catalogue : Catalogue} {supplied : String → Option String}
  {files selected : List String} {table : Table}

/-- A computation that ends in the same way and reports the same in every conversation. -/
def IsSilent (x : Resolving α) : Prop :=
  ∃ outcome events, ∀ c, x.run.run c = (outcome, c.report events)

theorem IsSilent.pure (a : α) : IsSilent (pure a : Resolving α) := by
  refine ⟨.ok a, [], fun c ↦ ?_⟩
  rw [report_nil]
  rfl

theorem IsSilent.throw (e : ResolutionError) : IsSilent (throw e : Resolving α) := by
  refine ⟨.error e, [], fun c ↦ ?_⟩
  rw [report_nil]
  rfl

theorem IsSilent.bind {x : Resolving α} {f : α → Resolving β} (hx : IsSilent x)
    (hf : ∀ a, IsSilent (f a)) : IsSilent (x >>= f) := by
  obtain ⟨outcome | a, events, hx⟩ := hx
  · refine ⟨.error outcome, events, fun c ↦ ?_⟩
    rw [run_bind, hx]
  · obtain ⟨outcome, more, hf⟩ := hf a
    refine ⟨outcome, events ++ more, fun c ↦ ?_⟩
    rw [run_bind, hx, ← report_append]
    exact hf _

/-- What a silent computation yields in one conversation it yields in all. -/
theorem IsSilent.exists_yields {x : Resolving α} {a : α} {c d : Conversation} (h : IsSilent x)
    (hx : Yields x c a d) (c' : Conversation) : ∃ d', Yields x c' a d' := by
  obtain ⟨outcome, events, h⟩ := h
  obtain ⟨rfl, -⟩ := Prod.mk.inj ((h c).symm.trans hx)
  exact ⟨_, h c'⟩

theorem isSilent_compute (expression : String) (values : Values) :
    IsSilent (compute expression values) :=
  ⟨_, _, run_compute expression values⟩

theorem isSilent_leafOffer (definition : Option Definition) (values : Values) :
    IsSilent (leafOffer definition values) := by
  unfold leafOffer
  split
  · exact .pure _
  · split
    · exact (isSilent_compute _ _).bind fun _ ↦ .pure _
    · exact .pure _

theorem isSilent_leafValue (name : String) (definition : Option Definition) (values : Values) :
    IsSilent (leafValue .nobody name definition values) :=
  (isSilent_leafOffer definition values).bind fun _ ↦ .pure _

theorem isSilent_resolveLeaves (table : Table) (names : List String) (values : Values) :
    IsSilent (resolveLeaves .nobody table names values) := by
  induction names generalizing values with
  | nil => exact .pure _
  | cons name names ih =>
    rw [resolveLeaves]
    split
    · exact ih values
    · exact (isSilent_leafValue _ _ _).bind fun value ↦ (ih _).bind fun _ ↦ .pure _

theorem isSilent_computeAll (table : Table) (names : List String) (values : Values) :
    IsSilent (computeAll table names values) := by
  induction names generalizing values with
  | nil => exact .pure _
  | cons name names ih => exact (isSilent_compute _ _).bind fun _ ↦ ih _

theorem isSilent_computeRest (table : Table) (leaves : Values) :
    IsSilent (computeRest .nobody table leaves) := by
  unfold computeRest
  split
  · exact .throw _
  · exact (isSilent_computeAll _ _ _).bind fun _ ↦ .pure _

/-- Resolving asks nothing when there is nobody to be asked. -/
theorem isSilent_resolve : IsSilent (resolve .nobody catalogue supplied files selected table) := by
  refine (isSilent_resolveLeaves _ _ _).bind fun ⟨unresolved, leaves⟩ ↦ ?_
  cases unresolved with
  | cons name names => exact (IsSilent.throw _).bind fun _ ↦ isSilent_computeRest table leaves
  | nil => exact isSilent_computeRest table leaves

end Scaffold.Resolution
