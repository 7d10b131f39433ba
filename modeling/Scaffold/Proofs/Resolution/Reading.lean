import Mathlib
import Scaffold.Proofs.Resolution.Fixpoint

/-!
# What computing reads

The variables that an expression is related to are found by one walk over the expression, and its
value by another. All that the second walk looks up, the first has listed. So an expression has the
same outcome with the same notes over any two valuations that agree on what is listed.

What holds of one evaluation is carried through the loop that computes variables one after the
other. Two maps of values may differ wherever no dependency points; then either both computations
fail for the same reason, or both end with the same computed values, and both report the same.
-/

namespace Scaffold.Resolution

variable {table : Table} {names : List String} {values values' : Values}

/-- What a derived variable is computed from is listed among its dependencies. -/
theorem evaluate_transformOf_congr {name : String} (hfaithful : table.IsFaithful)
    (hderived : isDerived table name = true)
    (h : ∀ dep ∈ table.dependencies name, valueOf values dep = valueOf values' dep) :
    evaluate (transformOf table name) (valueOf values) =
      evaluate (transformOf table name) (valueOf values') := by
  obtain ⟨-, -, -, hrelated⟩ := exists_transform_of_isDerived hfaithful hderived
  exact evaluate_congr hrelated h

/-- Two computations of values fail for the same reason, or end with values that agree on some
names, and what is reported is the same. -/
def EndAlike (names : Set String) (x y : Resolving Values) (c : Conversation) : Prop :=
  (∃ e d, x.run.run c = (.error e, d) ∧ y.run.run c = (.error e, d)) ∨
    ∃ w w' d, Yields x c w d ∧ Yields y c w' d ∧ ∀ name ∈ names, valueOf w name = valueOf w' name

theorem EndAlike.mono {agreed agreed' : Set String} {x y : Resolving Values} {c : Conversation}
    (hsubset : agreed' ⊆ agreed) (h : EndAlike agreed x y c) : EndAlike agreed' x y c := by
  rcases h with h | ⟨w, w', d, hx, hy, hagree⟩
  · exact .inl h
  · exact .inr ⟨w, w', d, hx, hy, fun name hname ↦ hagree name (hsubset hname)⟩

/-- After the same beginning, what ends alike ends alike. -/
theorem EndAlike.bind {α : Type} {agreed : Set String} {x y : Resolving α}
    {f g : α → Resolving Values} {c : Conversation} (hrun : x.run.run c = y.run.run c)
    (h : ∀ a d, Yields x c a d → EndAlike agreed (f a) (g a) d) :
    EndAlike agreed (x >>= f) (y >>= g) c := by
  rcases hout : x.run.run c with ⟨e | a, d⟩
  · exact .inl ⟨e, d, by rw [run_bind, hout], by rw [run_bind, ← hrun, hout]⟩
  · rcases h a d hout with ⟨e, d', hf, hg⟩ | ⟨w, w', d', hf, hg, hagree⟩
    · refine .inl ⟨e, d', ?_, ?_⟩
      · rw [run_bind, hout]
        exact hf
      · rw [run_bind, ← hrun, hout]
        exact hg
    · exact .inr ⟨w, w', d', yields_bind.2 ⟨a, d, hout, hf⟩,
        yields_bind.2 ⟨a, d, hrun.symm.trans hout, hg⟩, hagree⟩

/-- The loop keeps the agreement on a set that all dependencies lie in, and what is computed joins
the set. -/
theorem endAlike_computeAll {agreed : Set String} (hfaithful : table.IsFaithful)
    (hderived : ∀ name ∈ names, isDerived table name = true)
    (hdependencies : ∀ name ∈ names, ∀ dep ∈ table.dependencies name, dep ∈ agreed)
    (hagree : ∀ name ∈ agreed, valueOf values name = valueOf values' name) (c : Conversation) :
    EndAlike (agreed ∪ {name | name ∈ names}) (computeAll table names values)
      (computeAll table names values') c := by
  induction names generalizing agreed values values' c with
  | nil => exact .inr ⟨values, values', c, rfl, rfl, by simpa using hagree⟩
  | cons name names ih =>
    obtain ⟨hname, hnames⟩ := List.forall_mem_cons.1 hderived
    obtain ⟨hdeps, hdependencies⟩ := List.forall_mem_cons.1 hdependencies
    have heval := evaluate_transformOf_congr hfaithful hname fun dep hdep ↦
      hagree dep (hdeps dep hdep)
    refine EndAlike.bind (by rw [run_compute, run_compute, heval]) fun text d _ ↦ ?_
    have hagree' : ∀ other ∈ insert name agreed, valueOf (values.insert name (some text)) other =
        valueOf (values'.insert name (some text)) other := by
      intro other hother
      rw [valueOf_insert, valueOf_insert]
      split
      · rfl
      · next hne => exact hagree other (hother.resolve_left hne)
    have hdependencies' : ∀ other ∈ names, ∀ dep ∈ table.dependencies other,
        dep ∈ insert name agreed :=
      fun other hother dep hdep ↦ .inr (hdependencies other hother dep hdep)
    refine (ih hnames hdependencies' hagree' d).mono ?_
    rintro other (hother | hother)
    · exact .inl (.inr hother)
    · rcases List.mem_cons.1 hother with rfl | hother
      · exact .inl (.inl rfl)
      · exact .inr hother

/-- An expression that can be read has the same outcome with the same notes over any two valuations
that agree on the variables that it is related to. Computing variables one after the other over two
maps of values that agree on what these variables depend on therefore gives them the same values, or
fails for the same reason. -/
theorem evaluate_reads_related :
    (∀ text names, Expr.relatedVariables text = .ok names →
      ∀ σ τ : String → Option String, (∀ name ∈ names, σ name = τ name) →
        (evaluate text σ).outcome = (evaluate text τ).outcome ∧
          (evaluate text σ).trace = (evaluate text τ).trace) ∧
    ∀ (table : Table) (names : List String) (values values' : Values), table.IsFaithful →
      (∀ name ∈ names, isDerived table name = true) →
      (∀ name ∈ names, ∀ dep ∈ table.dependencies name, valueOf values dep = valueOf values' dep) →
      ∀ c, EndAlike {name | name ∈ names} (computeAll table names values)
        (computeAll table names values') c := by
  refine ⟨fun text names hnames σ τ h ↦ ?_,
    fun table names values values' hfaithful hderived h c ↦ ?_⟩
  · rw [evaluate_congr hnames h]
    exact ⟨rfl, rfl⟩
  · let agreed : Set String := {dep | ∃ name ∈ names, dep ∈ table.dependencies name}
    have hdependencies : ∀ name ∈ names, ∀ dep ∈ table.dependencies name, dep ∈ agreed :=
      fun name hname dep hdep ↦ ⟨name, hname, hdep⟩
    have hagree : ∀ dep ∈ agreed, valueOf values dep = valueOf values' dep := by
      rintro dep ⟨name, hname, hdep⟩
      exact h name hname dep hdep
    exact (endAlike_computeAll hfaithful hderived hdependencies hagree c).mono
      Set.subset_union_right

/-- The slug depends on the title, and on nothing else that may be bound. -/
theorem evaluate_reads_related_slugTable :
    ((evaluate "lowerCase(title)" fun _ ↦ none).outcome =
        (evaluate "lowerCase(title)" fun name ↦ if name = "user" then some "me" else none).outcome ∧
      (evaluate "lowerCase(title)" fun _ ↦ none).trace =
        (evaluate "lowerCase(title)" fun name ↦ if name = "user" then some "me" else none).trace) ∧
    EndAlike {name | name ∈ ["slug"]}
      (computeAll slugTable ["slug"] ⟨[("slug", none), ("title", some "Web App")], by decide⟩)
      (computeAll slugTable ["slug"]
        ⟨[("user", some "me"), ("slug", some "app"), ("title", some "Web App")], by decide⟩)
      (.start []) := by
  have hrelated : Expr.relatedVariables "lowerCase(title)" = .ok ["title"] :=
    Expr.relatedVariables_eq_ok_iff.2 ⟨_, parse_lowerCase_title, rfl⟩
  refine ⟨evaluate_reads_related.1 _ _ hrelated _ _ ?_,
    evaluate_reads_related.2 _ _ _ _ isFaithful_slugTable ?_ ?_ _⟩
  · exact List.forall_mem_singleton.2 rfl
  · exact List.forall_mem_singleton.2 rfl
  · exact List.forall_mem_singleton.2 (List.forall_mem_singleton.2 rfl)

end Scaffold.Resolution
