import Mathlib
import Scaffold.Proofs.Text.Case
import Scaffold.Transform.Recase

/-!
# Humps and separators

The two ways in which words are told apart in a text, seen at two neighbouring characters. Where
words run together, a new word begins at a hump: a capital after a small letter or digit. Where they
are separated, it begins at a small letter or digit after another character. Splitting humps and
joining them each go through a text once and change it at these places only, so a text without such
places is left as it is, and a stretch without them is passed over.
-/

namespace Scaffold.Recase

open Text

variable {a b c x y : Char} {text run rest : List Char}

/-! ## Small letters and digits -/

theorem isSmall_iff : isSmall c = true ↔ isAsciiAlphanumeric c = true ∧ isAsciiUpper c = false := by
  rw [isSmall, isAsciiAlphanumeric, isAsciiLetter, ← Bool.not_eq_true (isAsciiUpper c)]
  simp only [Bool.or_eq_true, isAsciiLower_iff, isAsciiUpper_iff, isAsciiDigit_iff]
  omega

theorem isAsciiAlphanumeric_of_isSmall (h : isSmall c = true) : isAsciiAlphanumeric c = true :=
  (isSmall_iff.1 h).1

theorem isAsciiUpper_of_isSmall (h : isSmall c = true) : isAsciiUpper c = false :=
  (isSmall_iff.1 h).2

theorem isAsciiAlphanumeric_of_isAsciiUpper (h : isAsciiUpper c = true) :
    isAsciiAlphanumeric c = true := by
  simp [isAsciiAlphanumeric, isAsciiLetter, h]

theorem toNat_lt_of_isSmall (h : isSmall c = true) : c.toNat < 128 :=
  toNat_lt_of_isAsciiAlphanumeric (isAsciiAlphanumeric_of_isSmall h)

theorem isLowered_of_isSmall (h : isSmall c = true) : IsLowered c.toNat :=
  isLowered_of_not_isAsciiUpper (toNat_lt_of_isSmall h) (isAsciiUpper_of_isSmall h)

theorem asciiLower_of_isSmall (h : isSmall c = true) : asciiLower c = c :=
  asciiLower_eq_self_iff.2 (isAsciiUpper_of_isSmall h)

/-- Of the lowered characters, the small letters and digits are those of letters and digits. -/
theorem isSmall_iff_of_isLowered (h : IsLowered c.toNat) :
    isSmall c = true ↔ isAsciiAlphanumeric c = true := by
  rw [isSmall_iff, h.isAsciiUpper, and_iff_left rfl]

theorem isSmall_asciiLower (h : isAsciiAlphanumeric c = true) : isSmall (asciiLower c) = true :=
  isSmall_iff.2 ⟨(isAsciiAlphanumeric_asciiLower c).trans h, isAsciiUpper_asciiLower c⟩

theorem isAsciiAlphanumeric_asciiUpper_of_isSmall (h : isSmall c = true) :
    isAsciiAlphanumeric (asciiUpper c) = true :=
  (isAsciiAlphanumeric_asciiUpper c).trans (isAsciiAlphanumeric_of_isSmall h)

/-- A character of ASCII that is neither a letter nor a digit. -/
structure IsSeparator (x : Char) : Prop where
  /-- It is no letter or digit. -/
  not_alphanumeric : isAsciiAlphanumeric x = false
  /-- It is a character of ASCII. -/
  toNat_lt : x.toNat < 128

theorem IsSeparator.isAsciiUpper (h : IsSeparator x) : isAsciiUpper x = false := by
  by_contra hupper
  rw [Bool.not_eq_false] at hupper
  exact absurd (isAsciiAlphanumeric_of_isAsciiUpper hupper) (by simp [h.not_alphanumeric])

theorem IsSeparator.isSmall (h : IsSeparator x) : isSmall x = false := by
  rw [← Bool.not_eq_true, isSmall_iff, h.not_alphanumeric]
  simp

theorem IsSeparator.ne_of_isAsciiAlphanumeric (h : IsSeparator x)
    (hc : isAsciiAlphanumeric c = true) : c ≠ x := by
  rintro rfl
  rw [h.not_alphanumeric] at hc
  cases hc

theorem IsSeparator.asciiLower (h : IsSeparator x) : asciiLower x = x :=
  asciiLower_eq_self_iff.2 h.isAsciiUpper

theorem IsSeparator.isLowered (h : IsSeparator x) : IsLowered x.toNat :=
  isLowered_of_not_isAsciiUpper h.toNat_lt h.isAsciiUpper

/-! ## Separated texts -/

theorem isSeparated_iff :
    isSeparated text = true ↔ ∃ c ∈ text, isAsciiAlphanumeric c = false := by
  rw [isSeparated, List.any_eq_true]
  simp only [Bool.not_eq_true']

theorem isSeparated_eq_false_iff :
    isSeparated text = false ↔ ∀ c ∈ text, isAsciiAlphanumeric c = true := by
  rw [isSeparated, List.any_eq_false]
  simp only [Bool.not_eq_true', Bool.not_eq_false]

/-- A text that is too short for a hump. -/
theorem eq_nil_or_singleton (h : ∀ a b rest, text = a :: b :: rest → False) :
    text = [] ∨ ∃ a, text = [a] := by
  cases text with
  | nil => exact .inl rfl
  | cons a text =>
    cases text with
    | nil => exact .inr ⟨a, rfl⟩
    | cons b rest => exact (h a b rest rfl).elim

/-! ## Splitting humps -/

/-- No capital comes after a small letter or digit. -/
def IsHumpless (text : List Char) : Prop :=
  text.IsChain fun a b ↦ ¬(isSmall a = true ∧ isAsciiUpper b = true)

theorem splitHumps_of_hump (ha : isSmall a = true) (hb : isAsciiUpper b = true)
    (rest : List Char) :
    splitHumps x (a :: b :: rest) = a :: x :: splitHumps x (b :: rest) := by
  rw [splitHumps, ha, hb]
  rfl

theorem splitHumps_of_not_hump (h : ¬(isSmall a = true ∧ isAsciiUpper b = true))
    (rest : List Char) : splitHumps x (a :: b :: rest) = a :: splitHumps x (b :: rest) := by
  rw [splitHumps, if_neg (Bool.and_eq_true _ _ ▸ h)]

theorem length_le_splitHumps (x : Char) (text : List Char) :
    text.length ≤ (splitHumps x text).length := by
  fun_induction splitHumps x text with
  | case1 a b rest hhump ih => simpa using Nat.le_succ_of_le ih
  | case2 a b rest hhump ih => simpa using ih
  | case3 short => exact le_rfl

/-- Only a text without humps is left as it is. -/
theorem splitHumps_eq_self_iff : splitHumps x text = text ↔ IsHumpless text := by
  fun_induction splitHumps x text with
  | case1 a b rest hhump ih =>
    rw [Bool.and_eq_true] at hhump
    have hlength := length_le_splitHumps x (b :: rest)
    refine iff_of_false (fun h ↦ ?_) fun h ↦ (List.isChain_cons_cons.1 h).1 hhump
    have hsame := congrArg List.length h
    simp only [List.length_cons] at hsame hlength
    omega
  | case2 a b rest hhump ih =>
    rw [Bool.and_eq_true] at hhump
    rw [IsHumpless, List.isChain_cons_cons, and_iff_right hhump, ← IsHumpless, ← ih]
    simp
  | case3 short hshort =>
    refine iff_of_true rfl ?_
    rcases eq_nil_or_singleton hshort with rfl | ⟨a, rfl⟩
    · exact .nil
    · exact .singleton a

theorem isHumpless_of_forall_isSmall (h : ∀ c ∈ run, isSmall c = true) : IsHumpless (a :: run) := by
  induction run generalizing a with
  | nil => exact .singleton a
  | cons b run ih =>
    obtain ⟨hb, hrun⟩ := List.forall_mem_cons.1 h
    refine List.isChain_cons_cons.2 ⟨fun hhump ↦ ?_, ih hrun⟩
    rw [isAsciiUpper_of_isSmall hb] at hhump
    cases hhump.2

/-- The separator comes between small letters or digits and the capital after them. -/
theorem splitHumps_cons_append (hrun : ∀ c ∈ run, isSmall c = true) (hne : run ≠ [])
    (hc : isAsciiUpper c = true) (rest : List Char) :
    splitHumps x (a :: (run ++ c :: rest)) = a :: (run ++ x :: splitHumps x (c :: rest)) := by
  induction run generalizing a with
  | nil => exact absurd rfl hne
  | cons b run ih =>
    obtain ⟨hb, hrun⟩ := List.forall_mem_cons.1 hrun
    have hnot : ¬(isSmall a = true ∧ isAsciiUpper b = true) := by
      rw [isAsciiUpper_of_isSmall hb]
      simp
    rw [List.cons_append, splitHumps_of_not_hump hnot]
    cases run with
    | nil => rw [List.nil_append, splitHumps_of_hump hb hc, List.singleton_append]
    | cons b' run =>
      rw [ih hrun (List.cons_ne_nil _ _)]
      rfl

theorem mem_splitHumps (h : c ∈ splitHumps x text) : c = x ∨ c ∈ text := by
  fun_induction splitHumps x text with
  | case1 a b rest hhump ih =>
    simp only [List.mem_cons] at h ih ⊢
    tauto
  | case2 a b rest hhump ih =>
    simp only [List.mem_cons] at h ih ⊢
    tauto
  | case3 short => exact .inr h

/-- What changes the separator and nothing else can be done before splitting. -/
theorem map_splitHumps {f : Char → Char} (h : ∀ c ∈ text, f c = c) :
    (splitHumps x text).map f = splitHumps (f x) text := by
  fun_induction splitHumps x text with
  | case1 a b rest hhump ih =>
    obtain ⟨ha, hrest⟩ := List.forall_mem_cons.1 h
    rw [Bool.and_eq_true] at hhump
    rw [splitHumps_of_hump hhump.1 hhump.2, List.map_cons, List.map_cons, ih hrest, ha]
  | case2 a b rest hhump ih =>
    obtain ⟨ha, hrest⟩ := List.forall_mem_cons.1 h
    rw [Bool.and_eq_true] at hhump
    rw [splitHumps_of_not_hump hhump, List.map_cons, ih hrest, ha]
  | case3 short hshort =>
    rw [splitHumps.eq_2 _ _ hshort, List.map_congr_left h, List.map_id']

/-- Words that run together are letters and digits only, so they are lowered letter by letter. -/
theorem separate_of_together (hx : IsSeparator x) (h : isSeparated text = false) :
    separate x text = (splitHumps x text).map asciiLower := by
  rw [separate, h, if_neg Bool.false_ne_true]
  refine lower_eq_map fun c hc ↦ .inr ?_
  rcases mem_splitHumps hc with rfl | hmem
  · exact hx.toNat_lt
  · exact toNat_lt_of_isAsciiAlphanumeric (isSeparated_eq_false_iff.1 h c hmem)

/-! ## Joining humps -/

/-- A small letter or digit comes after none but its like. -/
def IsJoined (text : List Char) : Prop :=
  text.IsChain fun a b ↦ isSmall b = true → isSmall a = true

theorem joinHumps_of_isSmall (ha : isSmall a = true) (rest : List Char) :
    joinHumps (a :: rest) = a :: joinHumps rest := by
  cases rest with
  | nil => rfl
  | cons b rest => rw [joinHumps, ha, Bool.not_true, Bool.false_and, if_neg Bool.false_ne_true]

/-- A separator gives its place to the small letter or digit after it. -/
theorem joinHumps_of_hump (ha : isSmall a = false) (hb : isSmall b = true) (rest : List Char) :
    joinHumps (a :: b :: rest) = asciiUpper b :: joinHumps rest := by
  rw [joinHumps, ha, hb]
  rfl

theorem joinHumps_append (h : ∀ c ∈ run, isSmall c = true) (rest : List Char) :
    joinHumps (run ++ rest) = run ++ joinHumps rest := by
  induction run with
  | nil => rfl
  | cons a run ih =>
    obtain ⟨ha, hrun⟩ := List.forall_mem_cons.1 h
    rw [List.cons_append, joinHumps_of_isSmall ha, ih hrun, List.cons_append]

theorem length_joinHumps_le (text : List Char) : (joinHumps text).length ≤ text.length := by
  fun_induction joinHumps text with
  | case1 a b rest hhump ih =>
    simp only [List.length_cons]
    omega
  | case2 a b rest hhump ih => simpa using ih
  | case3 short => exact le_rfl

/-- Only a text in which nothing is joined keeps its length. -/
theorem length_joinHumps_eq_iff : (joinHumps text).length = text.length ↔ IsJoined text := by
  fun_induction joinHumps text with
  | case1 a b rest hhump ih =>
    rw [Bool.and_eq_true, Bool.not_eq_true'] at hhump
    have hlength := length_joinHumps_le rest
    refine iff_of_false (fun h ↦ ?_) fun h ↦ ?_
    · simp only [List.length_cons] at h
      omega
    · have hsmall := (List.isChain_cons_cons.1 h).1 hhump.2
      rw [hhump.1] at hsmall
      cases hsmall
  | case2 a b rest hhump ih =>
    have hpair : isSmall b = true → isSmall a = true := by
      intro hb
      by_contra ha
      rw [Bool.not_eq_true] at ha
      exact hhump (by rw [ha, hb]; rfl)
    rw [IsJoined, List.isChain_cons_cons, and_iff_right hpair, ← IsJoined, ← ih]
    simp
  | case3 short hshort =>
    refine iff_of_true rfl ?_
    rcases eq_nil_or_singleton hshort with rfl | ⟨a, rfl⟩
    · exact .nil
    · exact .singleton a

theorem joinHumps_of_isJoined (h : IsJoined text) : joinHumps text = text := by
  fun_induction joinHumps text with
  | case1 a b rest hhump ih =>
    rw [Bool.and_eq_true, Bool.not_eq_true'] at hhump
    have hsmall := (List.isChain_cons_cons.1 h).1 hhump.2
    rw [hhump.1] at hsmall
    cases hsmall
  | case2 a b rest hhump ih => rw [ih (List.isChain_cons_cons.1 h).2]
  | case3 short => rfl

theorem mem_joinHumps (h : c ∈ joinHumps text) :
    c ∈ text ∨ ∃ b ∈ text, isSmall b = true ∧ c = asciiUpper b := by
  fun_induction joinHumps text with
  | case1 a b rest hhump ih =>
    rw [Bool.and_eq_true] at hhump
    rcases List.mem_cons.1 h with rfl | h
    · exact .inr ⟨b, by simp, hhump.2, rfl⟩
    · rcases ih h with hmem | ⟨b', hmem, hb'⟩
      · exact .inl (by simp [hmem])
      · exact .inr ⟨b', by simp [hmem], hb'⟩
  | case2 a b rest hhump ih =>
    rcases List.mem_cons.1 h with rfl | h
    · exact .inl List.mem_cons_self
    · rcases ih h with hmem | ⟨b', hmem, hb'⟩
      · exact .inl (List.mem_cons_of_mem _ hmem)
      · exact .inr ⟨b', List.mem_cons_of_mem _ hmem, hb'⟩
  | case3 short => exact .inl h

/-- Nothing is joined in a text just if its small letters and digits are all at its beginning. -/
theorem isJoined_iff : IsJoined text ↔ ∃ run rest, text = run ++ rest ∧
    (∀ c ∈ run, isSmall c = true) ∧ ∀ c ∈ rest, isSmall c = false := by
  induction text with
  | nil => exact iff_of_true .nil ⟨[], [], rfl, by simp, by simp⟩
  | cons a text ih =>
    rw [IsJoined, List.isChain_cons, ← IsJoined, ih]
    constructor
    · rintro ⟨hhead, run, rest, rfl, hrun, hrest⟩
      by_cases ha : isSmall a = true
      · exact ⟨a :: run, rest, rfl, List.forall_mem_cons.2 ⟨ha, hrun⟩, hrest⟩
      · cases run with
        | nil =>
          exact ⟨[], a :: rest, rfl, by simp,
            List.forall_mem_cons.2 ⟨Bool.eq_false_iff.2 ha, hrest⟩⟩
        | cons b run => exact absurd (hhead b rfl (List.forall_mem_cons.1 hrun).1) ha
    · rintro ⟨run, rest, htext, hrun, hrest⟩
      cases run with
      | nil =>
        obtain rfl : a :: text = rest := htext
        obtain ⟨ha, htext⟩ := List.forall_mem_cons.1 hrest
        refine ⟨fun b hb hsmall ↦ ?_, [], text, rfl, by simp, htext⟩
        rw [htext b (List.mem_of_mem_head? hb)] at hsmall
        cases hsmall
      | cons b run =>
        obtain ⟨rfl, rfl⟩ := List.cons.inj htext
        obtain ⟨ha, hrun⟩ := List.forall_mem_cons.1 hrun
        exact ⟨fun _ _ _ ↦ ha, run, rest, rfl, hrun, hrest⟩

end Scaffold.Recase
