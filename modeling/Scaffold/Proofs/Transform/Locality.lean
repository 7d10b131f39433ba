import Mathlib
import Scaffold.Transform.Eval

/-!
# What an expression reads

The value of an expression depends on the variables that it refers to and on no others. So two
valuations that agree on the variables that a transform is related to give it the same outcome with
the same notes.
-/

namespace Scaffold

namespace Expr

variable {σ τ : String → Option String}

mutual

theorem eval_congr : ∀ {e : Expr}, (∀ name ∈ e.occurrences, σ name = τ name) → e.eval σ = e.eval τ
  | .literal _, _ => rfl
  | .ref name, h => by
    rw [eval, eval, h name (List.mem_singleton_self name)]
  | .call modifier args, h => by
    rw [eval, eval, evalAll_congr h]

theorem evalAll_congr : ∀ {es : List Expr}, (∀ name ∈ occurrencesAll es, σ name = τ name) →
    evalAll σ es = evalAll τ es
  | [], _ => rfl
  | e :: es, h => by
    rw [evalAll, evalAll, eval_congr fun name hname ↦ h name (List.mem_append_left _ hname),
      evalAll_congr fun name hname ↦ h name (List.mem_append_right _ hname)]

end

theorem mem_refs {e : Expr} {name : String} : name ∈ e.refs ↔ name ∈ e.occurrences :=
  List.mem_eraseDups

theorem relatedVariables_eq_ok_iff {text : String} {names : List String} :
    relatedVariables text = .ok names ↔ ∃ e, parse text = .ok e ∧ e.refs = names := by
  rw [relatedVariables]
  cases parse text <;> simp [Except.map]

end Expr

/-- Valuations that agree on the variables that an expression refers to give it the same outcome. -/
theorem evaluate_congr {text : String} {names : List String} {σ τ : String → Option String}
    (hnames : Expr.relatedVariables text = .ok names) (h : ∀ name ∈ names, σ name = τ name) :
    evaluate text σ = evaluate text τ := by
  obtain ⟨e, hparse, rfl⟩ := Expr.relatedVariables_eq_ok_iff.1 hnames
  have heval : e.eval σ = e.eval τ :=
    Expr.eval_congr fun name hname ↦ h name (Expr.mem_refs.2 hname)
  simp only [evaluate, hparse, heval]

/-- An expression that can be read fails only through a modifier. -/
theorem evaluate_ne_badSyntax {text : String} {names : List String} {σ : String → Option String}
    (hnames : Expr.relatedVariables text = .ok names) (error : SyntaxError) :
    (evaluate text σ).outcome ≠ .error (.badSyntax error) := by
  obtain ⟨e, hparse, -⟩ := Expr.relatedVariables_eq_ok_iff.1 hnames
  simp only [evaluate, hparse, Traced.andThen, Traced.mapNotes]
  cases (e.eval σ).outcome <;> simp [Except.mapError]

end Scaffold
