import Mathlib
import Scaffold.Text.Rule

/-!
# The pieces of a text

A rule cuts a text into pieces: what it finds from left to right, and the single characters between
the finds. All that searching and replacing do is done piece by piece, so what is found and what
comes out of replacing can be read off the pieces.
-/

namespace Scaffold.Text

variable {α : Type}

/-- A piece of a text. -/
inductive Piece (α : Type) where
  /-- A character between the finds. -/
  | kept (c : Char)
  /-- Something found, with what it is worth and the characters it covers. -/
  | found (value : α) (token : List Char)

namespace Piece

/-- The characters of a piece. -/
def text : Piece α → List Char
  | kept c => [c]
  | found _ token => token

/-- What is found in a piece. -/
def value? : Piece α → Option α
  | kept _ => none
  | found value _ => some value

/-- The characters in the place of a piece when what is found is replaced. -/
def render (render : α → List Char) : Piece α → List Char
  | kept c => [c]
  | found value _ => render value

end Piece

namespace Rule

variable {rule : Rule α} {render : α → List Char}

/-- The pieces of a text, after passing over `skip` characters. -/
def piecesFrom (rule : Rule α) : (skip : ℕ) → List Char → List (Piece α)
  | _, [] => []
  | skip + 1, _ :: rest => rule.piecesFrom skip rest
  | 0, c :: rest =>
    match rule (c :: rest) with
    | some find => .found find.value (c :: rest.take find.more) :: rule.piecesFrom find.more rest
    | none => .kept c :: rule.piecesFrom 0 rest

/-- The pieces of a text. -/
def pieces (rule : Rule α) (text : List Char) : List (Piece α) := rule.piecesFrom 0 text

theorem flatMap_text_piecesFrom (skip : ℕ) (text : List Char) :
    (rule.piecesFrom skip text).flatMap Piece.text = text.drop skip := by
  fun_induction piecesFrom rule skip text with
  | case1 => simp
  | case2 skip c rest ih => exact ih
  | case3 c rest find hfind ih =>
    rw [List.flatMap_cons, ih, Piece.text, List.cons_append, List.take_append_drop, List.drop_zero]
  | case4 c rest hfind ih =>
    rw [List.flatMap_cons, ih]
    rfl

/-- The pieces make up the text. -/
theorem flatMap_text_pieces (text : List Char) : (rule.pieces text).flatMap Piece.text = text :=
  flatMap_text_piecesFrom 0 text

theorem finds_eq_filterMap (text : List Char) :
    rule.finds text = (rule.pieces text).filterMap Piece.value? := by
  have hfrom : ∀ skip, rule.findsFrom skip text =
      (rule.piecesFrom skip text).filterMap Piece.value? := by
    intro skip
    fun_induction piecesFrom rule skip text with
    | case1 => simp [findsFrom]
    | case2 skip c rest ih => rw [findsFrom, ih]
    | case3 c rest find hfind ih =>
      rw [findsFrom, hfind, List.filterMap_cons]
      simp only [Piece.value?, ih]
    | case4 c rest hfind ih =>
      rw [findsFrom, hfind, List.filterMap_cons]
      simp only [Piece.value?, ih]
  exact hfrom 0

theorem replace_eq_flatMap (text : List Char) :
    rule.replace render text = (rule.pieces text).flatMap (Piece.render render) := by
  have hfrom : ∀ skip, rule.replaceFrom render skip text =
      (rule.piecesFrom skip text).flatMap (Piece.render render) := by
    intro skip
    fun_induction piecesFrom rule skip text with
    | case1 => simp [replaceFrom]
    | case2 skip c rest ih => rw [replaceFrom, ih]
    | case3 c rest find hfind ih =>
      rw [replaceFrom, hfind, List.flatMap_cons]
      simp only [Piece.render, ih]
    | case4 c rest hfind ih =>
      rw [replaceFrom, hfind, List.flatMap_cons]
      simp only [Piece.render, ih]
      rfl
  exact hfrom 0

/-- What is found in a piece is found by the rule at its place in the text. -/
theorem exists_find_of_mem_piecesFrom {skip : ℕ} {text token : List Char} {value : α}
    (h : .found value token ∈ rule.piecesFrom skip text) :
    ∃ suffix find, rule suffix = some find ∧ find.value = value ∧
      token = suffix.take (find.more + 1) := by
  fun_induction piecesFrom rule skip text with
  | case1 => cases h
  | case2 skip c rest ih => exact ih h
  | case3 c rest find hfind ih =>
    rcases List.mem_cons.1 h with heq | hmem
    · cases heq
      exact ⟨c :: rest, find, hfind, rfl, rfl⟩
    · exact ih hmem
  | case4 c rest hfind ih =>
    rcases List.mem_cons.1 h with heq | hmem
    · cases heq
    · exact ih hmem

/-! ## Replacing stretch by stretch -/

/-- The rule finds nothing that begins within a stretch of a text with `after` next to it. -/
def isSilent (rule : Rule α) : (stretch after : List Char) → Bool
  | [], _ => true
  | c :: stretch, after => (rule (c :: (stretch ++ after))).isNone && rule.isSilent stretch after

theorem replaceFrom_append {skip : ℕ} {stretch : List Char} (h : stretch.length = skip)
    (after : List Char) :
    rule.replaceFrom render skip (stretch ++ after) = rule.replace render after := by
  induction stretch generalizing skip with
  | nil =>
    subst h
    rfl
  | cons c stretch ih =>
    subst h
    rw [List.cons_append, List.length_cons, replaceFrom, ih rfl]

theorem replace_append_of_find {stretch after : List Char} {find : Find α}
    (hfind : rule (stretch ++ after) = some find) (hlength : stretch.length = find.more + 1) :
    rule.replace render (stretch ++ after) = render find.value ++ rule.replace render after := by
  cases stretch with
  | nil => simp at hlength
  | cons c stretch =>
    rw [List.cons_append] at hfind ⊢
    rw [replace, replaceFrom, hfind]
    exact congrArg (render find.value ++ ·) (replaceFrom_append (Nat.succ.inj hlength) after)

theorem replace_append_of_isSilent {stretch after : List Char}
    (h : rule.isSilent stretch after = true) :
    rule.replace render (stretch ++ after) = stretch ++ rule.replace render after := by
  induction stretch with
  | nil => rfl
  | cons c stretch ih =>
    rw [isSilent, Bool.and_eq_true, Option.isNone_iff_eq_none] at h
    rw [List.cons_append, replace, replaceFrom, h.1]
    exact congrArg (c :: ·) (ih h.2)

/-! ## Replacing on both sides of a character -/

/-- The rule sees no further than to a character, and finds nothing that begins with it. -/
structure IsBarrier (rule : Rule α) (c : Char) : Prop where
  /-- Nothing is found where the character is. -/
  silent : ∀ after, rule (c :: after) = none
  /-- What is found before the character is found without it and all that comes after it. -/
  blind : ∀ d before after, rule (d :: (before ++ c :: after)) = rule (d :: before)
  /-- What is found does not cover more than there is. -/
  short : ∀ d text find, rule (d :: text) = some find → find.more ≤ text.length

theorem IsBarrier.replaceFrom_append_cons {c : Char} (h : rule.IsBarrier c) {skip : ℕ}
    {before : List Char} (hskip : skip ≤ before.length) (after : List Char) :
    rule.replaceFrom render skip (before ++ c :: after) =
      rule.replaceFrom render skip before ++ c :: rule.replace render after := by
  fun_induction replaceFrom rule render skip before with
  | case1 skip =>
    rw [Nat.le_zero.1 hskip, List.nil_append, List.nil_append, replaceFrom, h.silent]
    rfl
  | case2 skip d before ih =>
    rw [List.cons_append, replaceFrom]
    exact ih (Nat.le_of_succ_le_succ hskip)
  | case3 d before find hfind ih =>
    rw [List.cons_append, replaceFrom, h.blind, hfind, List.append_assoc]
    exact congrArg (render find.value ++ ·) (ih (h.short d before find hfind))
  | case4 d before hnone ih =>
    rw [List.cons_append, replaceFrom, h.blind, hnone, List.cons_append]
    exact congrArg (d :: ·) (ih (Nat.zero_le _))

/-- What is before the character and what is after it are replaced apart from each other. -/
theorem IsBarrier.replace_append_cons {c : Char} (h : rule.IsBarrier c)
    (before after : List Char) :
    rule.replace render (before ++ c :: after) =
      rule.replace render before ++ c :: rule.replace render after :=
  h.replaceFrom_append_cons (Nat.zero_le _) after

end Rule

end Scaffold.Text
