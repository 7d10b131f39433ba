import Mathlib
import Scaffold.Proofs.Text.Case
import Scaffold.Text.Numeral

/-!
# Reading what has been written

A whole number that is written in decimal digits is read back, unless it has more digits than are
read. It needs no simplifying: nothing in it is a blank, and its digits are those of ASCII.
-/

namespace Scaffold.Text.Numeral

variable {c : Char} {text : List Char} {n : ℕ}

/-! ## Digits -/

theorem digit?_ten (h : isAsciiDigit c = true) : digit? 10 c = some (c.toNat - 48) := by
  rw [digit?, if_pos h]
  rw [isAsciiDigit_iff] at h
  exact if_pos (by omega)

theorem digits?_ten (hne : text ≠ []) (h : ∀ c ∈ text, isAsciiDigit c = true) :
    digits? 10 text = some (text.map (·.toNat - 48)) := by
  induction text with
  | nil => exact absurd rfl hne
  | cons c rest ih =>
    obtain ⟨hc, hrest⟩ := List.forall_mem_cons.1 h
    cases rest with
    | nil =>
      rw [digits?, digit?_ten hc]
      rfl
    | cons d rest =>
      rw [digits?, digit?_ten hc, ih (List.cons_ne_nil _ _) hrest]
      · rfl
      · exact List.cons_ne_nil _ _
      · intro _ heq
        cases heq
        exact absurd (hrest _ List.mem_cons_self) (by decide)

theorem dropMark_ten : dropMark 10 text = text := by
  unfold dropMark
  split
  · rfl
  · rfl

theorem ofDigits_ten (text : List Char) :
    ofDigits 10 (text.map (·.toNat - 48)) = Nat.ofDigitChars 10 text 0 := by
  rw [ofDigits, List.foldl_map, Nat.ofDigitChars_eq_foldl]
  simp only [Nat.mul_comm 10]
  rfl

/-- Digits are read as the number that they stand for, but not if they are too many. -/
theorem unsigned_ten (hne : text ≠ []) (h : ∀ c ∈ text, isAsciiDigit c = true) :
    unsigned 10 text =
      if text.length ≤ digitLimit then .ok (Nat.ofDigitChars 10 text 0)
      else .error (.tooLong text.length) := by
  rw [unsigned, dropMark_ten, digits?_ten hne h, ← ofDigits_ten]
  simp [isPowerBase]

/-! ## Written numbers -/

theorem isAsciiBlank_iff : isAsciiBlank c = true ↔ c.toNat = 32 ∨ 9 ≤ c.toNat ∧ c.toNat ≤ 13 := by
  simp only [isAsciiBlank, Bool.or_eq_true, Bool.and_eq_true, beq_iff_eq, decide_eq_true_eq,
    Char.le_def, UInt32.le_iff_toNat_le, ← Char.toNat_inj]
  rfl

theorem isAsciiDigit_of_mem_toDigits (h : c ∈ Nat.toDigits 10 n) : isAsciiDigit c = true := by
  have hdigit : c.isDigit = true := Nat.isDigit_of_mem_toDigits (by decide) (by decide) h
  exact hdigit

theorem unsigned_toDigits (n : ℕ) :
    unsigned 10 (Nat.toDigits 10 n) =
      if n < 10 ^ digitLimit then .ok n else .error (.tooLong (Nat.toDigits 10 n).length) := by
  rw [unsigned_ten Nat.toDigits_ne_nil fun c ↦ isAsciiDigit_of_mem_toDigits,
    Nat.ofDigitChars_ten_toDigits]
  simp only [Nat.length_toDigits_le_iff (by decide : 1 < 10) (by decide : 0 < digitLimit)]

/-- Digits and signs are read as they are. -/
theorem trimBlanks_map_simplify (h : ∀ c ∈ text, c = '-' ∨ isAsciiDigit c = true) :
    trimBlanks (text.map simplify) = text := by
  have hsimplify : text.map simplify = text := by
    refine (List.map_congr_left fun c hc ↦ if_pos ?_).trans (List.map_id' text)
    rcases h c hc with rfl | hdigit
    · decide
    · rw [isAsciiDigit_iff] at hdigit
      omega
  have hblank : ∀ c ∈ text, ¬isAsciiBlank c = true := by
    intro c hc hblank
    rcases h c hc with rfl | hdigit
    · revert hblank
      decide
    · rw [isAsciiDigit_iff] at hdigit
      rw [isAsciiBlank_iff] at hblank
      omega
  rw [hsimplify, trimBlanks, List.dropWhile_eq_self_iff.2 fun hl ↦ hblank _ (List.getElem_mem hl),
    List.dropWhile_eq_self_iff.2 fun hl ↦ hblank _ (List.mem_reverse.1 (List.getElem_mem hl)),
    List.reverse_reverse]

/-- A number is read back from its digits, but not if they are too many. -/
theorem integer_toString (k : ℤ) :
    integer 10 (toString k).toList =
      if k.natAbs < 10 ^ digitLimit then .ok k
      else .error (.tooLong (Nat.toDigits 10 k.natAbs).length) := by
  cases k with
  | ofNat n =>
    have htext : (toString (Int.ofNat n)).toList = Nat.toDigits 10 n := Nat.toList_repr
    have hdigits : ∀ c ∈ Nat.toDigits 10 n, isAsciiDigit c = true :=
      fun c ↦ isAsciiDigit_of_mem_toDigits
    rw [htext, integer, trimBlanks_map_simplify fun c hc ↦ .inr (hdigits c hc)]
    split
    · next rest heq => cases hdigits '-' (heq ▸ List.mem_cons_self)
    · next rest heq => cases hdigits '+' (heq ▸ List.mem_cons_self)
    · rw [unsigned_toDigits, apply_ite (Except.map Int.ofNat)]
      rfl
  | negSucc n =>
    have htext : (toString (Int.negSucc n)).toList = '-' :: Nat.toDigits 10 (n + 1) := by
      rw [Int.toString_eq_repr, Int.repr, String.toList_append, Nat.toList_repr]
      rfl
    rw [htext, integer, trimBlanks_map_simplify (List.forall_mem_cons.2
      ⟨.inl rfl, fun c hc ↦ .inr (isAsciiDigit_of_mem_toDigits hc)⟩)]
    simp only [unsigned_toDigits, Int.natAbs_negSucc]
    split
    · rfl
    · rfl

end Scaffold.Text.Numeral
