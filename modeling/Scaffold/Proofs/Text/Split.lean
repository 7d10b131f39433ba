import Mathlib
import Scaffold.Text.Split

/-!
# Splitting undone by joining

The parts of a text, joined with the separator that it was split at, are the text again. None of
them contains the separator, even one that can overlap itself: a part ends at the leftmost
occurrence that begins in it or after it.
-/

namespace Scaffold.Text

variable {s : Char} {separator part text : List Char} {parts : List (List Char)}

/-! ## Joining -/

theorem join_cons_of_ne_nil (h : parts ≠ []) :
    join separator (part :: parts) = part ++ separator ++ join separator parts :=
  join.eq_3 _ _ _ h

theorem join_cons (separator part : List Char) (parts : List (List Char)) :
    join separator (part :: parts) = part ++ parts.flatMap (separator ++ ·) := by
  induction parts generalizing part with
  | nil => rw [join, List.flatMap_nil, List.append_nil]
  | cons next parts ih =>
    rw [join_cons_of_ne_nil (List.cons_ne_nil _ _), ih, List.flatMap_cons, List.append_assoc,
      List.append_assoc]

theorem map_join (f : Char → Char) (separator : List Char) (parts : List (List Char)) :
    (join separator parts).map f = join (separator.map f) (parts.map (List.map f)) := by
  cases parts with
  | nil => rfl
  | cons part parts =>
    rw [join_cons, List.map_cons, join_cons, List.map_append, List.map_flatMap, List.flatMap_map]
    simp only [List.map_append]

theorem mem_join {c : Char} (h : c ∈ join separator parts) :
    c ∈ separator ∨ ∃ part ∈ parts, c ∈ part := by
  cases parts with
  | nil => cases h
  | cons part parts =>
    rw [join_cons, List.mem_append, List.mem_flatMap] at h
    rcases h with h | ⟨other, hother, h⟩
    · exact .inr ⟨part, List.mem_cons_self, h⟩
    · rcases List.mem_append.1 h with h | h
      · exact .inl h
      · exact .inr ⟨other, List.mem_cons_of_mem _ hother, h⟩

/-! ## Splitting -/

theorem splitFrom_ne_nil (separator : List Char) (skip : ℕ) (text : List Char) :
    splitFrom separator skip text ≠ [] := by
  fun_induction splitFrom separator skip text with
  | case1 => exact List.cons_ne_nil _ _
  | case2 skip c rest ih => exact ih
  | case3 c rest hprefix ih => exact List.cons_ne_nil _ _
  | case4 c rest hprefix hrest ih => exact List.cons_ne_nil _ _
  | case5 c rest hprefix part parts hrest ih => exact List.cons_ne_nil _ _

theorem join_splitFrom (hne : separator ≠ []) (skip : ℕ) (text : List Char) :
    join separator (splitFrom separator skip text) = text.drop skip := by
  fun_induction splitFrom separator skip text with
  | case1 => rw [join, List.drop_nil]
  | case2 skip c rest ih => exact ih
  | case3 c rest hprefix ih =>
    obtain ⟨after, hafter⟩ := List.isPrefixOf_iff_prefix.1 hprefix
    have hrest : rest.drop (separator.length - 1) = after := by
      cases separator with
      | nil => exact absurd rfl hne
      | cons first separator =>
        rw [← (List.cons.inj hafter).2]
        exact List.drop_left
    rw [join_cons_of_ne_nil (splitFrom_ne_nil _ _ _), ih, hrest, List.nil_append, hafter,
      List.drop_zero]
  | case4 c rest hprefix hrest ih => exact absurd hrest (splitFrom_ne_nil _ _ _)
  | case5 c rest hprefix part parts hrest ih =>
    rw [hrest, join_cons, List.drop_zero] at ih
    rw [join_cons, List.cons_append, ih, List.drop_zero]

/-- Joining undoes splitting. -/
theorem join_split (separator text : List Char) : join separator (split separator text) = text := by
  rw [split]
  split
  · next hempty =>
    rw [List.isEmpty_iff.1 hempty]
    cases text with
    | nil => rfl
    | cons c text =>
      rw [List.map_cons, join_cons, List.flatMap_map]
      simp
  · next hne => exact join_splitFrom (mt List.isEmpty_iff.2 hne) 0 text

theorem not_isInfix_of_mem_splitFrom (hne : separator ≠ []) (skip : ℕ) (text : List Char) :
    ∀ part ∈ splitFrom separator skip text, ¬separator <:+: part := by
  have hnil : ¬separator <:+: [] := mt List.infix_nil.1 hne
  fun_induction splitFrom separator skip text with
  | case1 => exact List.forall_mem_singleton.2 hnil
  | case2 skip c rest ih => exact ih
  | case3 c rest hprefix ih => exact List.forall_mem_cons.2 ⟨hnil, ih⟩
  | case4 c rest hprefix hrest ih => exact absurd hrest (splitFrom_ne_nil _ _ _)
  | case5 c rest hprefix part parts hrest ih =>
    rw [hrest, List.forall_mem_cons] at ih
    refine List.forall_mem_cons.2 ⟨fun hinfix ↦ ?_, ih.2⟩
    rcases List.infix_cons_iff.1 hinfix with hfirst | hinfix
    · -- an occurrence at the beginning of the part is one at the beginning of the text
      have hpart : part <+: rest := by
        have hjoin := join_splitFrom hne 0 rest
        rw [hrest, join_cons, List.drop_zero] at hjoin
        exact ⟨_, hjoin⟩
      exact hprefix (List.isPrefixOf_iff_prefix.2
        (hfirst.trans (List.cons_prefix_cons.2 ⟨rfl, hpart⟩)))
    · exact ih.1 hinfix

/-- No part contains the separator. -/
theorem not_isInfix_of_mem_split (hne : separator ≠ []) (h : part ∈ split separator text) :
    ¬separator <:+: part := by
  rw [split, if_neg (mt List.isEmpty_iff.1 hne)] at h
  exact not_isInfix_of_mem_splitFrom hne 0 text part h

theorem length_splitFrom_le (separator : List Char) (skip : ℕ) (text : List Char) :
    (splitFrom separator skip text).length ≤ text.length + 1 := by
  fun_induction splitFrom separator skip text with
  | case1 => exact Nat.le_add_left _ _
  | case2 skip c rest ih => exact ih.trans (Nat.le_succ _)
  | case3 c rest hprefix ih => exact Nat.succ_le_succ ih
  | case4 c rest hprefix hrest ih => exact absurd hrest (splitFrom_ne_nil _ _ _)
  | case5 c rest hprefix part parts hrest ih =>
    rw [hrest] at ih
    exact ih.trans (Nat.le_succ _)

/-- There is at most one part more than there are characters. -/
theorem length_split_le (separator text : List Char) :
    (split separator text).length ≤ text.length + 1 := by
  rw [split]
  split
  · rw [List.length_map]
    exact Nat.le_succ _
  · exact length_splitFrom_le separator 0 text

/-! ## Splitting at a character -/

theorem split_nil (s : Char) : split [s] [] = [[]] := rfl

theorem split_cons_self (s : Char) (text : List Char) :
    split [s] (s :: text) = [] :: split [s] text := by
  simp [split, splitFrom]

theorem split_cons_of_ne {c : Char} {part : List Char} {parts : List (List Char)} (h : c ≠ s)
    (htext : split [s] text = part :: parts) : split [s] (c :: text) = (c :: part) :: parts := by
  have hnot : ¬ [s].isPrefixOf (c :: text) = true := by
    rw [List.isPrefixOf_iff_prefix, List.cons_prefix_cons]
    exact fun hfirst ↦ h hfirst.1.symm
  have htext' : splitFrom [s] 0 text = part :: parts := htext
  rw [split, if_neg (by simp), splitFrom, if_neg hnot, htext']

/-- There is always a first part, be it empty. -/
theorem exists_split_eq_cons (s : Char) (text : List Char) :
    ∃ part parts, split [s] text = part :: parts :=
  List.exists_cons_of_ne_nil (splitFrom_ne_nil [s] 0 text)

theorem split_append (s : Char) (text rest : List Char) :
    split [s] (text ++ s :: rest) = split [s] text ++ split [s] rest := by
  induction text with
  | nil => exact split_cons_self s rest
  | cons c text ih =>
    obtain ⟨part, parts, htext⟩ := exists_split_eq_cons s text
    have hjoined : split [s] (text ++ s :: rest) = part :: (parts ++ split [s] rest) := by
      rw [ih, htext, List.cons_append]
    by_cases h : c = s
    · subst h
      rw [List.cons_append, split_cons_self, split_cons_self, ih, List.cons_append]
    · rw [List.cons_append, split_cons_of_ne h hjoined, split_cons_of_ne h htext, List.cons_append]

theorem split_of_notMem (h : s ∉ text) : split [s] text = [text] := by
  induction text with
  | nil => exact split_nil s
  | cons c text ih =>
    rw [List.mem_cons, not_or] at h
    exact split_cons_of_ne (Ne.symm h.1) (ih h.2)

end Scaffold.Text
