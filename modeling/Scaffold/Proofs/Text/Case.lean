import Mathlib
import Scaffold.Text.Case

/-!
# What lowering leaves

A text in lower case stays as it is when it is lowered again: no image of the lower-case map is
moved by the map itself, which is read off the rows of the table, two at a time. So the characters
of a lowered text are those that lowering leaves alone wherever they stand. None of them is a
capital of ASCII.

Lowering looks around a letter only for the capital sigma, which is neither such a character nor one
of ASCII. Texts of these two kinds of characters are therefore lowered letter by letter.
-/

namespace Scaffold.Text

variable {c : Char} {text : List Char} {n : ℕ}

/-! ## Classes by code point -/

theorem isAsciiLower_iff : isAsciiLower c = true ↔ 97 ≤ c.toNat ∧ c.toNat ≤ 122 := by
  simp only [isAsciiLower, Bool.and_eq_true, decide_eq_true_eq, Char.le_def, UInt32.le_iff_toNat_le]
  rfl

theorem isAsciiUpper_iff : isAsciiUpper c = true ↔ 65 ≤ c.toNat ∧ c.toNat ≤ 90 := by
  simp only [isAsciiUpper, Bool.and_eq_true, decide_eq_true_eq, Char.le_def, UInt32.le_iff_toNat_le]
  rfl

theorem isAsciiDigit_iff : isAsciiDigit c = true ↔ 48 ≤ c.toNat ∧ c.toNat ≤ 57 := by
  simp only [isAsciiDigit, Bool.and_eq_true, decide_eq_true_eq, Char.le_def, UInt32.le_iff_toNat_le]
  rfl

theorem isAsciiAlphanumeric_iff : isAsciiAlphanumeric c = true ↔
    (isAsciiLower c = true ∨ isAsciiUpper c = true) ∨ isAsciiDigit c = true := by
  rw [isAsciiAlphanumeric, isAsciiLetter, Bool.or_eq_true, Bool.or_eq_true]

/-- Letters and digits of ASCII are characters of ASCII. -/
theorem toNat_lt_of_isAsciiAlphanumeric (h : isAsciiAlphanumeric c = true) : c.toNat < 128 := by
  rw [isAsciiAlphanumeric_iff, isAsciiLower_iff, isAsciiUpper_iff, isAsciiDigit_iff] at h
  omega

/-! ## Letters of ASCII -/

theorem asciiLowerCode_eq (n : ℕ) :
    asciiLowerCode n = if 65 ≤ n ∧ n ≤ 90 then n + 32 else n := by
  simp only [asciiLowerCode, Bool.and_eq_true, decide_eq_true_eq]

theorem asciiUpperCode_eq (n : ℕ) :
    asciiUpperCode n = if 97 ≤ n ∧ n ≤ 122 then n - 32 else n := by
  simp only [asciiUpperCode, Bool.and_eq_true, decide_eq_true_eq]

theorem toNat_ofNat_of_lt (h : n < 128) : (Char.ofNat n).toNat = n := by
  rw [Char.toNat_ofNat, if_pos (.inl (by omega))]

theorem toNat_asciiLower (c : Char) : (asciiLower c).toNat = asciiLowerCode c.toNat := by
  rw [asciiLower, asciiLowerCode_eq]
  split
  · exact toNat_ofNat_of_lt (by omega)
  · rw [Char.ofNat_toNat]

theorem toNat_asciiUpper (c : Char) : (asciiUpper c).toNat = asciiUpperCode c.toNat := by
  rw [asciiUpper, asciiUpperCode_eq]
  split
  · exact toNat_ofNat_of_lt (by omega)
  · rw [Char.ofNat_toNat]

theorem asciiLower_eq_self_iff : asciiLower c = c ↔ isAsciiUpper c = false := by
  rw [← Bool.not_eq_true, isAsciiUpper_iff, ← Char.toNat_inj, toNat_asciiLower, asciiLowerCode_eq]
  split <;> omega

theorem asciiUpper_eq_self_iff : asciiUpper c = c ↔ isAsciiLower c = false := by
  rw [← Bool.not_eq_true, isAsciiLower_iff, ← Char.toNat_inj, toNat_asciiUpper, asciiUpperCode_eq]
  split <;> omega

theorem isAsciiUpper_asciiLower (c : Char) : isAsciiUpper (asciiLower c) = false := by
  rw [← Bool.not_eq_true, isAsciiUpper_iff, toNat_asciiLower, asciiLowerCode_eq]
  split <;> omega

theorem isAsciiLower_asciiUpper (c : Char) : isAsciiLower (asciiUpper c) = false := by
  rw [← Bool.not_eq_true, isAsciiLower_iff, toNat_asciiUpper, asciiUpperCode_eq]
  split <;> omega

theorem isAsciiUpper_asciiUpper_of_isAsciiLower (h : isAsciiLower c = true) :
    isAsciiUpper (asciiUpper c) = true := by
  rw [isAsciiLower_iff] at h
  rw [isAsciiUpper_iff, toNat_asciiUpper, asciiUpperCode_eq, if_pos h]
  omega

theorem isAsciiDigit_asciiUpper (c : Char) : isAsciiDigit (asciiUpper c) = isAsciiDigit c := by
  rw [Bool.eq_iff_iff, isAsciiDigit_iff, isAsciiDigit_iff, toNat_asciiUpper, asciiUpperCode_eq]
  split <;> omega

theorem isAsciiAlphanumeric_asciiLower (c : Char) :
    isAsciiAlphanumeric (asciiLower c) = isAsciiAlphanumeric c := by
  rw [Bool.eq_iff_iff]
  simp only [isAsciiAlphanumeric_iff, isAsciiLower_iff, isAsciiUpper_iff, isAsciiDigit_iff,
    toNat_asciiLower, asciiLowerCode_eq]
  split <;> omega

theorem isAsciiAlphanumeric_asciiUpper (c : Char) :
    isAsciiAlphanumeric (asciiUpper c) = isAsciiAlphanumeric c := by
  rw [Bool.eq_iff_iff]
  simp only [isAsciiAlphanumeric_iff, isAsciiLower_iff, isAsciiUpper_iff, isAsciiDigit_iff,
    toNat_asciiUpper, asciiUpperCode_eq]
  split <;> omega

theorem asciiLower_asciiUpper (h : isAsciiUpper c = false) : asciiLower (asciiUpper c) = c := by
  rw [← Bool.not_eq_true, isAsciiUpper_iff] at h
  rw [← Char.toNat_inj, toNat_asciiLower, toNat_asciiUpper, asciiLowerCode_eq, asciiUpperCode_eq]
  split_ifs <;> omega

theorem asciiUpper_asciiLower_eq_self_iff :
    asciiUpper (asciiLower c) = c ↔ isAsciiLower c = false := by
  rw [← Bool.not_eq_true, isAsciiLower_iff, ← Char.toNat_inj, toNat_asciiUpper, toNat_asciiLower,
    asciiUpperCode_eq, asciiLowerCode_eq]
  split_ifs <;> omega

/-! ## The table -/

/-- No image of a row is a member of the other row. Rows with a step of two share no code point if
they begin on different sides of even and odd. -/
def Data.CaseRow.misses (row other : Data.CaseRow) : Bool :=
  let first := (row.first + row.shift).toNat
  let last := (row.last + row.shift).toNat
  Nat.blt last other.first || Nat.blt other.last first ||
    ((row.step == 2 || first == last) && other.step == 2 && first % 2 != other.first % 2)

theorem misses_lowerRows {row other : Data.CaseRow} (hrow : row ∈ Data.lowerRows.toList)
    (hother : other ∈ Data.lowerRows.toList) : row.misses other = true := by
  have hall :
      (Data.lowerRows.toList.all fun row ↦ Data.lowerRows.toList.all row.misses) = true := by
    decide +kernel
  exact List.all_eq_true.1 (List.all_eq_true.1 hall row hrow) other hother

/-- Nothing is lowered to a capital of ASCII or to the dotted capital I. -/
theorem image_lowerRows : ∀ row ∈ Data.lowerRows.toList, 90 < row.first + row.shift ∧
    row.misses ⟨0x130, 0x130, 1, 0⟩ = true := by
  decide +kernel

/-- The two small forms of the capital sigma and the dot of the dotted capital I stay. -/
theorem covers_lowerRows : ∀ n ∈ [0x3C2, 0x3C3, 0x307], ∀ row ∈ Data.lowerRows.toList,
    row.covers n = false := by
  decide +kernel

theorem not_covers_of_misses {row other : Data.CaseRow} (himage : 0 < row.first + row.shift)
    (hmisses : row.misses other = true) (hcovers : row.covers n = true) :
    other.covers (n + row.shift).toNat = false := by
  simp only [Data.CaseRow.misses, Data.CaseRow.covers, Bool.or_eq_true, Bool.and_eq_true,
    Nat.blt_eq, decide_eq_true_eq, beq_iff_eq, bne_iff_ne, ne_eq] at hmisses hcovers
  rw [← Bool.not_eq_true]
  simp only [Data.CaseRow.covers, Bool.and_eq_true, decide_eq_true_eq, beq_iff_eq]
  rintro ⟨⟨hfirst, hlast⟩, hstep⟩
  rcases hmisses with (hmisses | hmisses) | ⟨⟨hrow, hother⟩, hparity⟩
  · omega
  · omega
  · rw [hother] at hstep
    rcases hrow with hrow | hrow
    · rw [hrow] at hcovers
      omega
    · omega

/-! ## Lowered characters -/

/-- A code point of a character that lowering leaves as it is, wherever it stands. -/
structure IsLowered (n : ℕ) : Prop where
  /-- It is its own small form. -/
  lowerCode : lowerCode n = n
  /-- It is not the dotted capital I, whose small form has two characters. -/
  ne_dotted : n ≠ 0x130
  /-- It is not the capital sigma, whose small form depends on what is around it. -/
  ne_sigma : n ≠ 0x3A3

theorem isLowered_of_lt (hlt : n < 128) (hupper : ¬(65 ≤ n ∧ n ≤ 90)) : IsLowered n := by
  refine ⟨?_, by omega, by omega⟩
  rw [lowerCode, if_pos hlt, asciiLowerCode_eq, if_neg hupper]

theorem isLowered_of_not_isAsciiUpper (hlt : c.toNat < 128) (h : isAsciiUpper c = false) :
    IsLowered c.toNat := by
  rw [← Bool.not_eq_true, isAsciiUpper_iff] at h
  exact isLowered_of_lt hlt h

theorem isLowered_of_forall_covers (hlt : 128 ≤ n) (hdotted : n ≠ 0x130)
    (h : ∀ row ∈ Data.lowerRows, row.covers n = false) : IsLowered n := by
  refine ⟨?_, hdotted, ?_⟩
  · have hnone : Data.lowerRows.find? (·.covers n) = none :=
      Array.find?_eq_none.2 fun row hrow ↦ Bool.not_eq_true _ ▸ h row hrow
    rw [lowerCode, if_neg (by omega), if_neg hdotted, Data.CaseRow.move, hnone]
  · rintro rfl
    have hsigma : ∃ row ∈ Data.lowerRows.toList, row.covers 0x3A3 = true := by decide +kernel
    obtain ⟨row, hrow, hcovers⟩ := hsigma
    rw [h row (Array.mem_toList_iff.1 hrow)] at hcovers
    cases hcovers

/-- The small form of a code point is its own small form. -/
theorem isLowered_lowerCode (n : ℕ) : IsLowered (lowerCode n) := by
  rw [lowerCode]
  split
  · refine isLowered_of_lt ?_ ?_
    · rw [asciiLowerCode_eq]
      split <;> omega
    · rw [asciiLowerCode_eq]
      split <;> omega
  · next hlt =>
    split
    · exact isLowered_of_lt (by omega) (by omega)
    · next hdotted =>
      rw [Data.CaseRow.move]
      split
      · next row hfind =>
        have hcovers := Array.find?_some hfind
        have hmem := Array.mem_toList_iff.2 (Array.mem_of_find?_eq_some hfind)
        obtain ⟨himage, hmissesDotted⟩ := image_lowerRows row hmem
        have hn : row.first ≤ n := by
          simp only [Data.CaseRow.covers, Bool.and_eq_true, decide_eq_true_eq] at hcovers
          exact hcovers.1.1
        by_cases hsmall : ((n : ℤ) + row.shift).toNat < 128
        · exact isLowered_of_lt hsmall (by omega)
        · refine isLowered_of_forall_covers (by omega) ?_ fun other hother ↦ ?_
          · intro hdotted
            have hmiss := not_covers_of_misses (by omega) hmissesDotted hcovers
            rw [hdotted] at hmiss
            cases hmiss
          · exact not_covers_of_misses (by omega)
              (misses_lowerRows hmem (Array.mem_toList_iff.2 hother)) hcovers
      · next hnone =>
        refine isLowered_of_forall_covers (by omega) hdotted fun row hrow ↦ ?_
        exact Bool.not_eq_true _ ▸ Array.find?_eq_none.1 hnone row hrow

/-- Nothing is lowered to a code point before the letters but itself. -/
theorem eq_of_lowerCode_lt (h : lowerCode n < 65) : lowerCode n = n := by
  rw [lowerCode] at h ⊢
  split at h
  · next hlt =>
    rw [if_pos hlt]
    rw [asciiLowerCode_eq] at h ⊢
    split at h
    · omega
    · next hupper => rw [if_neg hupper]
  · next hlt =>
    split at h
    · omega
    · next hdotted =>
      rw [if_neg hlt, if_neg hdotted]
      rw [Data.CaseRow.move] at h ⊢
      split at h
      · next row hfind =>
        have hmem := Array.mem_toList_iff.2 (Array.mem_of_find?_eq_some hfind)
        have hcovers := Array.find?_some hfind
        obtain ⟨himage, -⟩ := image_lowerRows row hmem
        simp only [Data.CaseRow.covers, Bool.and_eq_true, decide_eq_true_eq] at hcovers
        omega
      · rfl

theorem isLowered_lowerChar (c : Char) : IsLowered (lowerChar c).toNat := by
  rw [lowerChar, Char.toNat_ofNat]
  split
  · exact isLowered_lowerCode _
  · exact isLowered_of_lt (by omega) (by omega)

theorem isLowered_of_mem_marks {n : ℕ} (h : n ∈ [0x3C2, 0x3C3, 0x307]) : IsLowered n := by
  refine isLowered_of_forall_covers ?_ ?_ fun row hrow ↦
    covers_lowerRows n h row (Array.mem_toList_iff.2 hrow)
  · revert n
    decide
  · revert n
    decide

theorem IsLowered.isAsciiUpper (h : IsLowered c.toNat) : isAsciiUpper c = false := by
  rw [← Bool.not_eq_true, isAsciiUpper_iff]
  intro hupper
  have hcode := h.lowerCode
  rw [Text.lowerCode, if_pos (by omega), asciiLowerCode_eq, if_pos hupper] at hcode
  omega

theorem isLowered_of_mem_lowerAfter {before : List Char} (h : c ∈ lowerAfter before text) :
    IsLowered c.toNat := by
  induction text generalizing before with
  | nil => cases h
  | cons d text ih =>
    rw [lowerAfter, List.mem_append] at h
    rcases h with h | h
    · split at h
      · rw [List.mem_singleton] at h
        split at h
        · exact h ▸ isLowered_of_mem_marks (by decide)
        · exact h ▸ isLowered_of_mem_marks (by decide)
      · rw [lowerSequence] at h
        split at h
        · simp only [List.mem_cons, List.not_mem_nil, or_false] at h
          rcases h with rfl | rfl
          · exact isLowered_of_lt (by decide) (by decide)
          · exact isLowered_of_mem_marks (by decide)
        · rw [List.mem_singleton] at h
          subst h
          exact isLowered_lowerChar d
    · exact ih h

/-- The characters of a lowered text are those that lowering leaves alone. -/
theorem isLowered_of_mem_lower (h : c ∈ lower text) : IsLowered c.toNat :=
  isLowered_of_mem_lowerAfter h

/-! ## Lowering letter by letter -/

/-- A character that is lowered without a look at those around it: one that lowering leaves as it is,
or one of ASCII. -/
def IsPlain (c : Char) : Prop := IsLowered c.toNat ∨ c.toNat < 128

theorem lowerAfter_eq_map {before : List Char} (h : ∀ c ∈ text, IsPlain c) :
    lowerAfter before text = text.map asciiLower := by
  induction text generalizing before with
  | nil => rfl
  | cons c text ih =>
    obtain ⟨hc, htext⟩ := List.forall_mem_cons.1 h
    have hsigma : c.toNat ≠ 0x3A3 := by
      rcases hc with hc | hc
      · exact hc.ne_sigma
      · omega
    have hdotted : c.toNat ≠ 0x130 := by
      rcases hc with hc | hc
      · exact hc.ne_dotted
      · omega
    have hchar : lowerChar c = asciiLower c := by
      rcases hc with hc | hc
      · rw [asciiLower_eq_self_iff.2 hc.isAsciiUpper, lowerChar, hc.lowerCode,
          Char.ofNat_toNat]
      · rw [lowerChar, lowerCode, if_pos hc, asciiLower]
    rw [lowerAfter, if_neg hsigma, lowerSequence, if_neg hdotted, hchar, ih htext,
      List.singleton_append, List.map_cons]

/-- A text of characters of ASCII and of such that lowering leaves alone is lowered letter by
letter. -/
theorem lower_eq_map (h : ∀ c ∈ text, IsPlain c) : lower text = text.map asciiLower :=
  lowerAfter_eq_map h

/-- Just the texts of lowered characters stay as they are. -/
theorem lower_eq_self_iff : lower text = text ↔ ∀ c ∈ text, IsLowered c.toNat := by
  constructor
  · intro h c hc
    exact isLowered_of_mem_lower (h.symm ▸ hc)
  · intro h
    calc lower text
        = text.map asciiLower := lower_eq_map fun c hc ↦ .inl (h c hc)
      _ = text.map id := List.map_congr_left fun c hc ↦
          asciiLower_eq_self_iff.2 (h c hc).isAsciiUpper
      _ = text := List.map_id text

/-- A text of ASCII is put into capitals letter by letter. -/
theorem upper_eq_map (h : ∀ c ∈ text, c.toNat < 128) : upper text = text.map asciiUpper := by
  induction text with
  | nil => rfl
  | cons c text ih =>
    obtain ⟨hc, htext⟩ := List.forall_mem_cons.1 h
    have hsequence : upperSequence c = [asciiUpper c] := by
      rw [upperSequence, upperCodes, if_pos hc, List.map_singleton, asciiUpper]
    rw [upper, List.flatMap_cons, ← upper, hsequence, ih htext, List.singleton_append,
      List.map_cons]

end Scaffold.Text
