import Mathlib
import Scaffold.Proofs.Placeholder.Substitution

/-!
# Filling in placeholders line by line

No placeholder reaches over a character that agrees with none in the delimiters and in the names. So
what is before such a character and what is after it are filled in apart from each other. The values
do not matter: a value may hold the character, or a part of a placeholder, and is text to the
variables after it, but it has been put on one side of the character and stays there. Where neither
delimiters nor names hold a line break, each line is filled in by itself.
-/

namespace Scaffold.Placeholder

variable {w : Wrapper} {values : String → Option String} {order : List String} {c : Char}

/-! ## Foreign characters -/

/-- A character that agrees with none in the delimiters and the names. -/
def IsForeign (w : Wrapper) (order : List String) (c : Char) : Prop :=
  ∀ e, (e ∈ w.opening.toList ∨ e ∈ w.closing.toList ∨ ∃ name ∈ order, e ∈ name.toList) →
    Text.agreesCaseless e c = false

theorem IsForeign.of_mem_wrap (h : IsForeign w order c) {name : String} (hname : name ∈ order) :
    ∀ e ∈ (w.wrap name).toList, Text.agreesCaseless e c = false := by
  intro e he
  rw [Wrapper.wrap, String.toList_append, String.toList_append, List.append_assoc,
    List.mem_append, List.mem_append] at he
  rcases he with he | he | he
  · exact h e (.inl he)
  · exact h e (.inr (.inr ⟨name, hname, he⟩))
  · exact h e (.inr (.inl he))

/-- A line break agrees with itself only. -/
theorem isForeign_line_break (hopening : '\n' ∉ w.opening.toList) (hclosing : '\n' ∉ w.closing.toList)
    (hnames : ∀ name ∈ order, '\n' ∉ name.toList) : IsForeign w order '\n' := by
  intro e he
  rw [← Bool.not_eq_true, Text.agreesCaseless_iff_of_lt (by decide)]
  rintro rfl
  rcases he with he | he | ⟨name, hname, he⟩
  · exact hopening he
  · exact hclosing he
  · exact hnames name hname he

/-! ## One variable -/

theorem isBarrier_literalRule {expected : List Char} (hne : expected ≠ [])
    (h : ∀ e ∈ expected, Text.agreesCaseless e c = false) :
    (literalRule expected).IsBarrier c where
  silent after := by
    have hnone : Text.dropCaseless? expected [] = none := by
      cases expected with
      | nil => exact absurd rfl hne
      | cons e expected => rfl
    have hdrop := Text.dropCaseless?_append_cons h [] after
    rw [hnone] at hdrop
    rw [literalRule, ← List.nil_append (c :: after), hdrop]
    rfl
  blind d before after := by
    rw [literalRule, literalRule, ← List.cons_append, Text.dropCaseless?_append_cons h,
      Option.map_map]
    rfl
  short d text find hfind := by
    obtain ⟨rest, hrest, rfl⟩ := Option.map_eq_some_iff.1 hfind
    obtain ⟨head, hhead, htext⟩ := Text.dropCaseless?_eq_some_iff.1 hrest
    have hlength := congrArg List.length htext
    rw [List.length_cons, List.length_append, ← hhead.length_eq] at hlength
    simp only
    omega

theorem wrap_ne_nil {name : String} (hname : name ≠ "") : (w.wrap name).toList ≠ [] := by
  simp [Wrapper.wrap, hname]

theorem fillOne_nil {name : String} (hname : name ≠ "") (value : String) :
    fillOne w [] name value = [] := by
  have hempty : ¬ (w.wrap name).toList.isEmpty = true := by
    rw [List.isEmpty_iff]
    exact wrap_ne_nil hname
  rw [fillOne, replaceLiteral, if_neg hempty]
  rfl

theorem fillOne_append_cons {name : String} (hname : name ≠ "")
    (h : ∀ e ∈ (w.wrap name).toList, Text.agreesCaseless e c = false) (value : String)
    (before after : List Char) :
    fillOne w (before ++ c :: after) name value =
      fillOne w before name value ++ c :: fillOne w after name value := by
  have hempty : ¬ (w.wrap name).toList.isEmpty = true := by
    rw [List.isEmpty_iff]
    exact wrap_ne_nil hname
  simp only [fillOne, replaceLiteral, if_neg hempty]
  exact (isBarrier_literalRule (wrap_ne_nil hname) h).replace_append_cons before after

/-! ## All variables -/

theorem foldl_fillOne_append_cons {value : String → String} (hnames : ∀ name ∈ order, name ≠ "")
    (h : ∀ name ∈ order, ∀ e ∈ (w.wrap name).toList, Text.agreesCaseless e c = false)
    (before after : List Char) :
    order.foldl (fun text name ↦ fillOne w text name (value name)) (before ++ c :: after) =
      order.foldl (fun text name ↦ fillOne w text name (value name)) before ++
        c :: order.foldl (fun text name ↦ fillOne w text name (value name)) after := by
  -- each variable leaves a text in which the character still stands between the two sides
  induction order generalizing before after with
  | nil => rfl
  | cons name order ih =>
    obtain ⟨hname, hnames⟩ := List.forall_mem_cons.1 hnames
    obtain ⟨hforeign, h⟩ := List.forall_mem_cons.1 h
    rw [List.foldl_cons, fillOne_append_cons hname hforeign, ih hnames h]
    rfl

theorem fill_append (hnames : ∀ name ∈ order, name ≠ "")
    (hvalues : ∀ name ∈ order, (values name).isSome = true) (hforeign : IsForeign w order c)
    (before after : String) :
    ∃ filledBefore filledAfter, fill w values order before = .ok filledBefore ∧
      fill w values order after = .ok filledAfter ∧
      fill w values order (before ++ String.singleton c ++ after) =
        .ok (filledBefore ++ String.singleton c ++ filledAfter) := by
  refine ⟨_, _, fill_eq_ok hvalues before, fill_eq_ok hvalues after, ?_⟩
  have htext : (before ++ String.singleton c ++ after).toList =
      before.toList ++ c :: after.toList := by
    simp
  rw [fill_eq_ok hvalues, htext, foldl_fillOne_append_cons hnames fun name hname ↦
    hforeign.of_mem_wrap hname]
  refine congrArg Except.ok (String.toList_injective ?_)
  simp

theorem foldl_fillOne_nil {value : String → String} (hnames : ∀ name ∈ order, name ≠ "") :
    order.foldl (fun text name ↦ fillOne w text name (value name)) [] = [] := by
  induction order with
  | nil => rfl
  | cons name order ih =>
    obtain ⟨hname, hnames⟩ := List.forall_mem_cons.1 hnames
    rw [List.foldl_cons, fillOne_nil hname, ih hnames]

theorem fill_empty (hnames : ∀ name ∈ order, name ≠ "")
    (hvalues : ∀ name ∈ order, (values name).isSome = true) :
    fill w values order "" = .ok "" := by
  rw [fill_eq_ok hvalues, String.toList_empty, foldl_fillOne_nil hnames]

/-- The parts of a text between foreign characters are filled in one by one. -/
theorem fill_intercalate {separator : String} (hseparator : separator = String.singleton c)
    (hnames : ∀ name ∈ order, name ≠ "")
    (hvalues : ∀ name ∈ order, (values name).isSome = true) (hforeign : IsForeign w order c)
    (parts : List String) :
    ∃ filled, List.Forall₂ (fun part text ↦ fill w values order part = .ok text) parts filled ∧
      fill w values order (separator.intercalate parts) = .ok (separator.intercalate filled) := by
  subst hseparator
  induction parts with
  | nil => exact ⟨[], .nil, fill_empty hnames hvalues⟩
  | cons part parts ih =>
    obtain ⟨filled, hfilled, hrest⟩ := ih
    cases hfilled with
    | nil =>
      refine ⟨[_], .cons (fill_eq_ok hvalues part) .nil, ?_⟩
      rw [String.intercalate_singleton, String.intercalate_singleton, fill_eq_ok hvalues]
    | @cons next text parts filled hnext hfilled =>
      obtain ⟨first, rest, hfirst, hafter, hboth⟩ := fill_append hnames hvalues hforeign part
        ((String.singleton c).intercalate (next :: parts))
      cases hrest.symm.trans hafter
      refine ⟨first :: text :: filled, .cons hfirst (.cons hnext hfilled), ?_⟩
      rw [String.intercalate_cons_cons, String.intercalate_cons_cons, hboth]

/-- What is before a foreign character and what is after it are filled in apart from each other,
whatever the values. Where no line break is in the delimiters and the names, each line of a text is
filled in by itself. -/
theorem fill_locally (hnames : ∀ name ∈ order, name ≠ "")
    (hvalues : ∀ name ∈ order, (values name).isSome = true) :
    (∀ c, IsForeign w order c → ∀ before after, ∃ filledBefore filledAfter,
        fill w values order before = .ok filledBefore ∧
        fill w values order after = .ok filledAfter ∧
        fill w values order (before ++ String.singleton c ++ after) =
          .ok (filledBefore ++ String.singleton c ++ filledAfter)) ∧
      ('\n' ∉ w.opening.toList → '\n' ∉ w.closing.toList →
        (∀ name ∈ order, '\n' ∉ name.toList) → ∀ lines, ∃ filled,
          List.Forall₂ (fun line text ↦ fill w values order line = .ok text) lines filled ∧
          fill w values order ("\n".intercalate lines) = .ok ("\n".intercalate filled)) :=
  ⟨fun _ hforeign ↦ fill_append hnames hvalues hforeign,
    fun hopening hclosing hbreaks ↦
      fill_intercalate rfl hnames hvalues (isForeign_line_break hopening hclosing hbreaks)⟩

/-- Values with a line break and a piece of a placeholder in them, and a placeholder that a line
break has torn. -/
theorem fill_locally_torn :
    fill ⟨"___", "___"⟩ ([("name", "a\n___other"), ("other", "x")].lookup ·) ["name", "other"]
      "___name______\n___other\n___" = .ok "a\nx\n___other\n___" := by
  obtain ⟨filled, hfilled, hwhole⟩ := (@fill_locally ⟨"___", "___"⟩
    ([("name", "a\n___other"), ("other", "x")].lookup ·) ["name", "other"]
    (by decide) (by decide)).2 (by decide) (by decide) (by decide)
    ["___name______", "___other", "___"]
  have hlines : filled = ["a\nx", "___other", "___"] := by
    obtain _ | ⟨hfirst, _ | ⟨hsecond, _ | ⟨hthird, _ | _⟩⟩⟩ := hfilled
    cases hfirst
    cases hsecond
    cases hthird
    decide
  rw [hlines] at hwhole
  exact hwhole

end Scaffold.Placeholder
