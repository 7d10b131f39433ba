import Mathlib
import Scaffold.Placeholder.Name

/-!
# Which texts name a variable

A text is refused as a name for its length, its characters or its end. What is not refused is a name
as it is specified, or it ends with a line break. The test of the characters overlooks a line break
at the very end, and the test of the end then sees nothing but the line break, so that a name may be
too short without it, or end with a hyphen or an underscore before it.
-/

namespace Scaffold.VariableName

variable {name : String} {text front : List Char}

/-! ## The specified names -/

/-- What is specified of the name of a variable. -/
structure IsName (text : List Char) : Prop where
  /-- It has at least two characters. -/
  length : 2 ≤ text.length
  /-- It begins with an ASCII letter. -/
  head : ∀ c ∈ text.head?, Text.isAsciiLetter c = true
  /-- It is made of ASCII letters and digits, hyphens and underscores. -/
  inner : ∀ c ∈ text,
    Text.isAsciiLetter c = true ∨ Text.isAsciiDigit c = true ∨ c = '-' ∨ c = '_'
  /-- It ends with neither a hyphen nor an underscore. -/
  last : ∀ c ∈ text.getLast?, c ≠ '-' ∧ c ≠ '_'

theorem isInner_iff {c : Char} : isInner c = true ↔
    Text.isAsciiLetter c = true ∨ Text.isAsciiDigit c = true ∨ c = '-' ∨ c = '_' := by
  simp only [isInner, Text.isAsciiAlphanumeric, Bool.or_eq_true, beq_iff_eq, or_assoc]

/-- No name holds a line break. -/
theorem not_isName_append (front : List Char) : ¬IsName (front ++ ['\n']) := by
  intro h
  have hbreak := h.inner '\n' (List.mem_append_right front List.mem_cons_self)
  revert hbreak
  decide

/-! ## The tests -/

/-- A letter, and then nothing but characters of names. -/
def IsStem (text : List Char) : Prop :=
  ∃ c rest, text = c :: rest ∧ Text.isAsciiLetter c = true ∧ ∀ d ∈ rest, isInner d = true

theorem isName_iff_isStem : IsName text ↔
    2 ≤ text.length ∧ IsStem text ∧ ∀ c ∈ text.getLast?, c ≠ '-' ∧ c ≠ '_' := by
  constructor
  · intro h
    refine ⟨h.length, ?_, h.last⟩
    cases text with
    | nil => exact absurd h.length (by decide)
    | cons c rest =>
      exact ⟨c, rest, rfl, h.head c rfl, fun d hd ↦
        isInner_iff.2 (h.inner d (List.mem_cons_of_mem c hd))⟩
  · rintro ⟨hlength, ⟨c, rest, rfl, hletter, hrest⟩, hlast⟩
    refine ⟨hlength, fun d hd ↦ ?_, ?_, hlast⟩
    · cases hd
      exact hletter
    · exact List.forall_mem_cons.2 ⟨.inl hletter, fun d hd ↦ isInner_iff.1 (hrest d hd)⟩

theorem isShaped_iff : isShaped text = true ↔ IsStem (dropFinalBreak text) := by
  rw [isShaped, IsStem]
  cases dropFinalBreak text with
  | nil => exact iff_of_false Bool.false_ne_true nofun
  | cons c rest => simp [and_assoc]

theorem dropFinalBreak_append (front : List Char) : dropFinalBreak (front ++ ['\n']) = front := by
  rw [dropFinalBreak, List.getLast?_concat, if_pos rfl, List.dropLast_concat]

theorem dropFinalBreak_of_ne (h : text.getLast? ≠ some '\n') : dropFinalBreak text = text :=
  if_neg h

/-- What passes the three tests. -/
theorem fault?_eq_none_iff : fault? name = none ↔
    2 ≤ name.toList.length ∧ IsStem (dropFinalBreak name.toList) ∧
      ∀ c ∈ name.toList.getLast?, c ≠ '-' ∧ c ≠ '_' := by
  have hlast : name.toList.getLast?.any (fun c ↦ c == '-' || c == '_') = true ↔
      ¬∀ c ∈ name.toList.getLast?, c ≠ '-' ∧ c ≠ '_' := by
    cases name.toList.getLast? with
    | none => simp
    | some c => simp [or_iff_not_imp_left]
  rw [← isShaped_iff, fault?]
  split
  · next hshort => exact iff_of_false nofun fun h ↦ by omega
  · next hlong =>
    split
    · next hshape =>
      rw [Bool.not_eq_true'] at hshape
      exact iff_of_false nofun fun h ↦ Bool.eq_false_iff.1 hshape h.2.1
    · next hshape =>
      rw [Bool.not_eq_true', Bool.not_eq_false] at hshape
      split
      · next hend => exact iff_of_false nofun fun h ↦ hlast.1 hend h.2.2
      · next hend => exact iff_of_true rfl ⟨by omega, hshape, not_not.1 (mt hlast.2 hend)⟩

/-! ## What is not refused -/

theorem isName_or_of_fault? (h : fault? name = none) :
    IsName name.toList ∨ ∃ front, name.toList = front ++ ['\n'] ∧ IsStem front := by
  obtain ⟨hlength, hstem, hlast⟩ := fault?_eq_none_iff.1 h
  by_cases hbreak : name.toList.getLast? = some '\n'
  · obtain ⟨front, hfront⟩ := List.getLast?_eq_some_iff.1 hbreak
    rw [hfront, dropFinalBreak_append] at hstem
    exact .inr ⟨front, hfront, hstem⟩
  · rw [dropFinalBreak_of_ne hbreak] at hstem
    exact .inl (isName_iff_isStem.2 ⟨hlength, hstem, hlast⟩)

theorem fault?_of_isName (h : IsName name.toList) : fault? name = none := by
  have hbreak : name.toList.getLast? ≠ some '\n' := by
    intro hlast
    obtain ⟨front, hfront⟩ := List.getLast?_eq_some_iff.1 hlast
    exact not_isName_append front (hfront ▸ h)
  rw [fault?_eq_none_iff, dropFinalBreak_of_ne hbreak]
  exact isName_iff_isStem.1 h

theorem fault?_of_isStem (hname : name.toList = front ++ ['\n']) (hstem : IsStem front) :
    fault? name = none := by
  rw [fault?_eq_none_iff, hname, dropFinalBreak_append, List.getLast?_concat]
  refine ⟨?_, hstem, fun c hc ↦ ?_⟩
  · obtain ⟨c, rest, rfl, -⟩ := hstem
    rw [List.length_append, List.length_cons, List.length_singleton]
    omega
  · cases hc
    decide

/-- A text is not refused just if it is a name, or if it ends with a line break and is a letter and
then nothing but characters of names before it. -/
theorem problem?_eq_none_iff (name : String) : problem? name = none ↔
    IsName name.toList ∨ ∃ front, name.toList = front ++ ['\n'] ∧ IsStem front := by
  rw [problem?, Option.map_eq_none_iff]
  constructor
  · exact isName_or_of_fault?
  · rintro (hname | ⟨front, hfront, hstem⟩)
    · exact fault?_of_isName hname
    · exact fault?_of_isStem hfront hstem

/-- A line break at the end is not refused, and hides that a name is too short or ends with a
hyphen. -/
theorem problem?_line_break :
    (problem? "ab\n" = none ∧ ¬IsName "ab\n".toList) ∧
      (problem? "a\n" = none ∧ ¬IsName "a\n".toList) ∧
      (problem? "ab-\n" = none ∧ ¬IsName "ab-\n".toList) :=
  ⟨⟨by decide, not_isName_append ['a', 'b']⟩, ⟨by decide, not_isName_append ['a']⟩,
    by decide, not_isName_append ['a', 'b', '-']⟩

end Scaffold.VariableName
