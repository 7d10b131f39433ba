import Mathlib
import Scaffold.Proofs.Transform.Grammar
import Scaffold.Transform.Eval
import Scaffold.Proofs.Traced

/-!
# Writing expressions back

An expression is written with its texts in quotes, its variables by their names and its calls with
their arguments between parentheses. What is written is read back as it was, if the names are tokens
that are no numbers: the text spells the expression, and a text spells one expression only.

So an expression can be put in the place of a variable and written as one. Its value is then what
the outer expression has where the variable has the value of the inner one. This is shown on
expressions, where it holds whatever the names are, and carried over to texts.
-/

namespace Scaffold.Expr

variable {quote : Char} {σ : String → Option String}

/-! ## Writing -/

/-- The inside of a quoted text: backslashes and closing quotes are written after a backslash. -/
def escape (quote : Char) : List Char → List Char
  | [] => []
  | c :: text =>
    if c = '\\' ∨ c = quote then '\\' :: c :: escape quote text else c :: escape quote text

mutual

/-- The characters that an expression is written with. -/
def chars (quote : Char) : Expr → List Char
  | literal text => quote :: (escape quote text.toList ++ [quote])
  | ref name => name.toList
  | call modifier args => modifier.name.toList ++ '(' :: (charsAll quote args ++ [')'])

/-- The characters that expressions are written with, with commas between them. -/
def charsAll (quote : Char) : List Expr → List Char
  | [] => []
  | [e] => chars quote e
  | e :: next :: es => chars quote e ++ ',' :: charsAll quote (next :: es)

end

/-- An expression as it is written. -/
def print (quote : Char) (e : Expr) : String := String.ofList (e.chars quote)

/-- A name that stands for a variable where it is written: a bare token that is no number. -/
def IsName (name : String) : Prop := IsToken name.toList ∧ ¬ Numeral name.toList

/-- The variables of an expression can be told from what else is written. -/
def IsWritable (e : Expr) : Prop := ∀ name ∈ e.occurrences, IsName name

theorem inside_escape (text : List Char) : Inside quote (escape quote text) text := by
  induction text with
  | nil => exact .nil
  | cons c text ih =>
    rw [escape]
    split
    · exact .escaped c ih
    · next hplain =>
      rw [not_or] at hplain
      exact .plain hplain.1 hplain.2 ih

theorem chars_ne_nil : ∀ {e : Expr}, e.IsWritable → e.chars quote ≠ []
  | literal _, _ => by
    rw [chars]
    exact List.cons_ne_nil _ _
  | ref name, h => (h name (List.mem_singleton_self name)).1.1
  | call _ _, _ => by
    rw [chars]
    exact List.append_ne_nil_of_right_ne_nil _ (List.cons_ne_nil _ _)

theorem charsAll_ne_nil {e : Expr} {es : List Expr} (h : e.IsWritable) :
    charsAll quote (e :: es) ≠ [] := by
  cases es with
  | nil => exact chars_ne_nil h
  | cons next es => exact List.append_ne_nil_of_right_ne_nil _ (List.cons_ne_nil _ _)

mutual

theorem spells_chars (hquote : quote = '\'' ∨ quote = '"') :
    ∀ {e : Expr}, e.IsWritable → Spells (e.chars quote) e
  | literal text, _ => by
    have h := Spells.quoted hquote (inside_escape text.toList)
    rwa [String.ofList_toList] at h
  | ref name, h => by
    obtain ⟨htoken, hnumeral⟩ := h name (List.mem_singleton_self name)
    have h := Spells.ref htoken hnumeral
    rwa [String.ofList_toList] at h
  | call modifier [], _ => .bareCall modifier
  | call modifier (e :: es), h => by
    have he : e.IsWritable := fun name hname ↦ h name (List.mem_append_left _ hname)
    exact .call modifier (charsAll_ne_nil he) (spellsAll_charsAll hquote (List.cons_ne_nil e es) h)

theorem spellsAll_charsAll (hquote : quote = '\'' ∨ quote = '"') :
    ∀ {es : List Expr}, es ≠ [] → (∀ name ∈ occurrencesAll es, IsName name) →
      SpellsAll (charsAll quote es) es
  | [], hne, _ => absurd rfl hne
  | [_], _, h =>
    .single (spells_chars hquote fun name hname ↦ h name (List.mem_append_left _ hname))
  | e :: next :: es, _, h => by
    have he : e.IsWritable := fun name hname ↦ h name (List.mem_append_left _ hname)
    exact .cons (spells_chars hquote he) (spellsAll_charsAll hquote (List.cons_ne_nil next es)
      fun name hname ↦ h name (List.mem_append_right _ hname))

end

/-- What is written is read back. -/
theorem parse_print (hquote : quote = '\'' ∨ quote = '"') {e : Expr} (h : e.IsWritable) :
    parse (e.print quote) = .ok e := by
  refine parse_of_spells ?_
  rw [print, String.toList_ofList]
  exact spells_chars hquote h

theorem outcome_evaluate_print (hquote : quote = '\'' ∨ quote = '"') {e : Expr}
    (h : e.IsWritable) :
    (evaluate (e.print quote) σ).outcome = (e.eval σ).outcome.mapError .modifier := by
  rw [evaluate, parse_print hquote h]
  simp only [Traced.outcome_andThen, Traced.mapNotes]
  cases (e.eval σ).outcome <;> rfl

/-! ## Putting an expression in the place of a variable -/

mutual

/-- The expression with another one in the place of a variable. -/
def subst : (e : Expr) → (x : String) → (inner : Expr) → Expr
  | literal text, _, _ => literal text
  | ref name, x, inner => if name = x then inner else ref name
  | call modifier args, x, inner => call modifier (substAll args x inner)

/-- The expressions with another one in the place of a variable. -/
def substAll : (es : List Expr) → (x : String) → (inner : Expr) → List Expr
  | [], _, _ => []
  | e :: es, x, inner => subst e x inner :: substAll es x inner

end

variable {x text : String} {t : Expr}

mutual

theorem mem_occurrences_subst :
    ∀ {e : Expr} {name : String}, name ∈ (e.subst x t).occurrences →
      name ∈ e.occurrences ∨ name ∈ t.occurrences
  | literal _, _, h => .inl h
  | ref other, name, h => by
    rw [subst] at h
    split at h
    · exact .inr h
    · exact .inl h
  | call _ _, _, h => mem_occurrencesAll_substAll h

theorem mem_occurrencesAll_substAll :
    ∀ {es : List Expr} {name : String}, name ∈ occurrencesAll (substAll es x t) →
      name ∈ occurrencesAll es ∨ name ∈ t.occurrences
  | [], _, h => .inl h
  | e :: es, name, h => by
    rcases List.mem_append.1 h with h | h
    · exact (mem_occurrences_subst h).imp_left (List.mem_append_left _)
    · exact (mem_occurrencesAll_substAll h).imp_left (List.mem_append_right _)

end

theorem IsWritable.subst {e : Expr} (he : e.IsWritable) (ht : t.IsWritable) :
    (e.subst x t).IsWritable :=
  fun name hname ↦ (mem_occurrences_subst hname).elim (he name) (ht name)

mutual

/-- An expression in the place of a variable counts as its value. -/
theorem outcome_eval_subst (ht : (t.eval σ).outcome = .ok text) :
    ∀ e : Expr, ((e.subst x t).eval σ).outcome =
      (e.eval (Function.update σ x (some text))).outcome
  | literal _ => rfl
  | ref name => by
    rw [subst]
    split
    · next heq => rw [ht, heq, eval, Function.update_self]; rfl
    · next hne => rw [eval, eval, Function.update_of_ne hne]
  | call modifier args => by
    rw [subst, eval, eval, Traced.outcome_andThen, Traced.outcome_andThen,
      outcome_evalAll_substAll ht args]

theorem outcome_evalAll_substAll (ht : (t.eval σ).outcome = .ok text) :
    ∀ es : List Expr, (evalAll σ (substAll es x t)).outcome =
      (evalAll (Function.update σ x (some text)) es).outcome
  | [] => rfl
  | e :: es => by
    simp only [substAll, evalAll, Traced.outcome_andThen, outcome_eval_subst ht e,
      outcome_evalAll_substAll ht es]

end

/-- What is written is read back, and an expression that is put in the place of a variable counts as
its value. -/
theorem evaluate_print_subst (hquote : quote = '\'' ∨ quote = '"') :
    (∀ u : Expr, u.IsWritable → parse (u.print quote) = .ok u) ∧
      ∀ e t : Expr, e.IsWritable → t.IsWritable → ∀ (x : String) (σ : String → Option String) text,
        (evaluate (t.print quote) σ).outcome = .ok text →
        (evaluate ((e.subst x t).print quote) σ).outcome =
          (evaluate (e.print quote) (Function.update σ x (some text))).outcome := by
  refine ⟨fun u hu ↦ parse_print hquote hu, fun e t he ht x σ text htext ↦ ?_⟩
  rw [outcome_evaluate_print hquote ht] at htext
  have hvalue : (t.eval σ).outcome = .ok text := Except.mapError_eq_ok_iff.1 htext
  rw [outcome_evaluate_print hquote (he.subst ht), outcome_evaluate_print hquote he,
    outcome_eval_subst hvalue e]

/-- The slug of a title, with a greeting that holds quotes and a name in the place of the title. -/
theorem evaluate_print_subst_greeting :
    parse ((call .concat [literal "\"Hi\\\" ", ref "name"]).print '"') =
        .ok (call .concat [literal "\"Hi\\\" ", ref "name"]) ∧
      (evaluate (((call .snakeCase [ref "title"]).subst "title"
        (call .concat [literal "\"Hi\\\" ", ref "name"])).print '"') fun _ ↦ some "Ann").outcome =
      (evaluate ((call .snakeCase [ref "title"]).print '"')
        (Function.update (fun _ ↦ some "Ann") "title" (some "\"Hi\\\" Ann"))).outcome := by
  have hname : ∀ name ∈ ["title", "name"], IsName name := by
    have htoken : ∀ name ∈ ["title", "name"],
        name ≠ "" ∧ name.toList.all isBare = true ∧ isNumeric name.toList = false := by decide
    intro name hmem
    obtain ⟨hne, hall, hnumeric⟩ := htoken name hmem
    refine ⟨⟨mt String.toList_eq_nil_iff.1 hne, List.all_eq_true.1 hall⟩, fun hnumeral ↦ ?_⟩
    cases hnumeric.symm.trans (isNumeric_iff.2 hnumeral)
  have hslug : (call .snakeCase [ref "title"]).IsWritable := fun name hmem ↦
    hname name (List.mem_cons.2 (.inl (List.mem_singleton.1 hmem)))
  have hgreeting : (call .concat [literal "\"Hi\\\" ", ref "name"]).IsWritable := fun name hmem ↦
    hname name (List.mem_cons_of_mem _ hmem)
  obtain ⟨hread, hput⟩ := @evaluate_print_subst '"' (.inr rfl)
  refine ⟨hread _ hgreeting, hput _ _ hslug hgreeting "title" _ _ ?_⟩
  rw [outcome_evaluate_print (.inr rfl) hgreeting]
  rfl

end Scaffold.Expr
