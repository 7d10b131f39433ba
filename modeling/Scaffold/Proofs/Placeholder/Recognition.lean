import Mathlib
import Scaffold.Proofs.Placeholder.Substitution

/-!
# Placeholders of one variable

Wherever a text has the placeholder of a found name, a placeholder is found, though perhaps with a
longer name. So as long as nothing has been filled in, a variable meets its placeholder only where
something was found; and a text in which all found names agree is always filled in at once.
-/

namespace Scaffold.Placeholder

open Text (Piece)

variable {w : Wrapper} {values : String → Option String} {name : String}

/-! ## Characters of names -/

/-- The small form of a character that may stand in a name. -/
def isNameCode (n : ℕ) : Bool :=
  (97 ≤ n && n ≤ 122) || (48 ≤ n && n ≤ 57) || n == 45 || n == 0x131 || n == 0x17F

theorem isNameChar_eq (c : Char) : isNameChar c = isNameCode (Text.lowerCode c.toNat) := rfl

/-- Of small letters with the same capital, all or none may stand in a name. -/
theorem isNameCode_of_siblings {m n : ℕ} (hn : n ∈ Text.siblings m) (hm : isNameCode m = true) :
    isNameCode n = true := by
  have hgroups : ∀ group ∈ Text.lowerSiblings, group.any isNameCode = true →
      group.all isNameCode = true := by
    decide
  rw [Text.siblings] at hn
  cases hfind : Text.lowerSiblings.find? (·.contains m) with
  | none =>
    rw [hfind, Option.getD_none, List.mem_singleton] at hn
    rwa [hn]
  | some group =>
    rw [hfind, Option.getD_some] at hn
    have hmem := List.find?_some hfind
    rw [List.contains_iff_mem] at hmem
    have hall := hgroups group (List.mem_of_find?_eq_some hfind) (List.any_eq_true.2 ⟨m, hmem, hm⟩)
    exact List.all_eq_true.1 hall n hn

theorem isNameChar_of_agreesCaseless {e c : Char} (h : Text.agreesCaseless e c = true)
    (he : isNameChar e = true) : isNameChar c = true := by
  rw [isNameChar_eq] at he ⊢
  rw [Text.agreesCaseless, Text.Fold.agrees] at h
  split at h
  · exact isNameCode_of_siblings (List.contains_iff_mem.1 h) he
  · rwa [← beq_iff_eq.1 h]

theorem forall_isNameChar_of_agreeCaseless {expected text : List Char}
    (h : Text.AgreeCaseless expected text) (hname : ∀ c ∈ expected, isNameChar c = true) :
    ∀ c ∈ text, isNameChar c = true := by
  induction h with
  | nil => exact hname
  | cons hagree _ ih =>
    obtain ⟨hfirst, hrest⟩ := List.forall_mem_cons.1 hname
    exact List.forall_mem_cons.2 ⟨isNameChar_of_agreesCaseless hagree hfirst, ih hrest⟩

/-! ## Recognition -/

theorem isSome_longestName? {closing text : List Char} {n k : ℕ} (hk : k ≠ 0) (hkn : k ≤ n)
    (h : (Text.dropCaseless? closing (text.drop k)).isSome = true) :
    (longestName? closing text n).isSome = true := by
  induction n with
  | zero => omega
  | succ n ih =>
    rw [longestName?]
    split
    · rfl
    · next hclose =>
      refine ih (Nat.le_of_lt_succ (Nat.lt_of_le_of_ne hkn ?_))
      rintro rfl
      exact hclose h

/-- Where a text has a wrapped name, a placeholder is found. -/
theorem isSome_rule_of_wrap {text rest : List Char} (hne : name.toList ≠ [])
    (hname : ∀ c ∈ name.toList, isNameChar c = true)
    (h : Text.dropCaseless? (w.wrap name).toList text = some rest) :
    (rule w text).isSome = true := by
  rw [Wrapper.wrap, String.toList_append, String.toList_append, List.append_assoc,
    Text.dropCaseless?_append_eq_bind, Option.bind_eq_some_iff] at h
  obtain ⟨after, hopening, h⟩ := h
  rw [Text.dropCaseless?_append_eq_bind, Option.bind_eq_some_iff] at h
  obtain ⟨closing, hafter, hclosing⟩ := h
  obtain ⟨found, hfound, rfl⟩ := Text.dropCaseless?_eq_some_iff.1 hafter
  have hlength : found.length ≠ 0 := by
    rw [← hfound.length_eq]
    exact mt List.length_eq_zero_iff.1 hne
  -- the longest name is at least as long as the one that stands there
  have hchars : found.length ≤ ((found ++ closing).takeWhile isNameChar).length := by
    rw [List.takeWhile_append_of_pos (forall_isNameChar_of_agreeCaseless hfound hname),
      List.length_append]
    omega
  have hclose : (Text.dropCaseless? w.closing.toList
      ((found ++ closing).drop found.length)).isSome = true := by
    rw [List.drop_left, hclosing, Option.isSome_some]
  obtain ⟨longest, hlongest⟩ :=
    Option.isSome_iff_exists.1 (isSome_longestName? hlength hchars hclose)
  rw [rule, hopening]
  simp [hlongest]

/-! ## A single name -/

/-- Before anything is filled in, the placeholder of a variable begins only where something is
found. -/
theorem isUndisturbed_piecesFrom (hne : name.toList ≠ [])
    (hname : ∀ c ∈ name.toList, isNameChar c = true) (skip : ℕ) (text : List Char)
    (hagrees : ∀ found token, .found found token ∈ (rule w).piecesFrom skip text →
      agrees name found = true) :
    isUndisturbed w values [] name ((rule w).piecesFrom skip text) = true := by
  fun_induction Text.Rule.piecesFrom (rule w) skip text with
  | case1 => rfl
  | case2 skip c rest ih => exact ih hagrees
  | case3 c rest find hfind ih =>
    rw [isUndisturbed, isOwn, hagrees _ _ List.mem_cons_self]
    exact ih fun found token hmem ↦ hagrees found token (List.mem_cons_of_mem _ hmem)
  | case4 c rest hfind ih =>
    have ih := ih fun found token hmem ↦ hagrees found token (List.mem_cons_of_mem _ hmem)
    have hnone : Text.dropCaseless? (w.wrap name).toList (c :: rest) = none := by
      by_contra hsome
      obtain ⟨after, hafter⟩ := Option.ne_none_iff_exists'.1 hsome
      have hfound := isSome_rule_of_wrap hne hname hafter
      rw [hfind] at hfound
      cases hfound
    rw [isUndisturbed, ih, flatMap_shown_nil, Text.Rule.flatMap_text_piecesFrom, List.drop_zero]
    simp [shown, Text.Rule.isSilent, literalRule, hnone]

/-- A text in which one name only is found, however often, is always filled in at once. -/
theorem fill_singleton_eq_simultaneous {text value : String}
    (hnames : (names w text).eraseDups = [name]) (hvalue : values name = some value) :
    fill w values [name] text = .ok (simultaneous w values text) := by
  have hmem : ∀ other, other ∈ names w text ↔ other = name := by
    intro other
    rw [← List.mem_eraseDups, hnames, List.mem_singleton]
  obtain ⟨found, token, hpiece, hfound⟩ := mem_names_iff.1 ((hmem name).2 rfl)
  obtain ⟨hne, hchars, -⟩ := token_of_mem_pieces hpiece
  have hlist : name.toList = found := by rw [← hfound, String.toList_ofList]
  have hundisturbed : isUndisturbed w values [] name ((rule w).pieces text.toList) = true := by
    refine isUndisturbed_piecesFrom (hlist ▸ hne) (hlist ▸ hchars) 0 text.toList ?_
    intro other token hother
    rw [← (hmem _).1 (mem_names_iff.2 ⟨other, token, hother, rfl⟩)]
    exact agrees_ofList other
  have hthroughout : isUndisturbedThroughout w values ((rule w).pieces text.toList) []
      (names w text).eraseDups = true := by
    rw [hnames, isUndisturbedThroughout, hundisturbed]
    rfl
  rw [fill_eq_ok (by simp [hvalue]), ← hnames, foldl_fillOne_names hthroughout,
    replace_valueFor_eq_simultaneous]
  intro first hfirst second hsecond _
  rw [(hmem first).1 hfirst, (hmem second).1 hsecond]

end Scaffold.Placeholder
