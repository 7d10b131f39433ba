import Mathlib
import Scaffold.Proofs.Transform.Spelling

/-!
# Separating again

Separating the words of a text leaves small letters and digits with a separator between them,
whatever the text was: what lowering makes of it holds no capital, and every other character has
become the separator. A text of this kind reads the same way whether there is a separator in it or
not, since without one it has no hump either. To separate it again is to exchange the separator.

The text has to be lowered before its characters are looked at. The Kelvin sign is no letter of
ASCII, but its small form is one.
-/

namespace Scaffold

namespace Recase

open Text

variable {x y : Char} {text : List Char}

/-- The text with one character in the place of another. -/
def exchange (old new : Char) (text : List Char) : List Char :=
  text.map fun c ↦ if c = old then new else c

/-- All characters are small letters and digits but for the separator. -/
def IsApart (y : Char) (text : List Char) : Prop := ∀ c ∈ text, c = y ∨ isSmall c = true

theorem isApart_separate (hy : IsSeparator y) (text : List Char) : IsApart y (separate y text) := by
  intro c hc
  by_cases hseparated : isSeparated text = true
  · rw [separate, if_pos hseparated] at hc
    obtain ⟨d, hd, rfl⟩ := List.mem_map.1 hc
    split
    · next halphanumeric =>
      exact .inr ((isSmall_iff_of_isLowered (isLowered_of_mem_lower hd)).2 halphanumeric)
    · exact .inl rfl
  · rw [Bool.not_eq_true] at hseparated
    rw [separate_of_together hy hseparated] at hc
    obtain ⟨d, hd, rfl⟩ := List.mem_map.1 hc
    rcases mem_splitHumps hd with rfl | hmem
    · exact .inl hy.asciiLower
    · exact .inr (isSmall_asciiLower (isSeparated_eq_false_iff.1 hseparated d hmem))

/-- The separators of a text that has been separated are exchanged for others when it is separated
again. -/
theorem separate_of_isApart (hy : IsSeparator y) (h : IsApart y text) (x : Char) :
    separate x text = exchange y x text := by
  have hlower : lower text = text := by
    refine lower_eq_self_iff.2 fun c hc ↦ ?_
    rcases h c hc with rfl | hsmall
    · exact hy.isLowered
    · exact isLowered_of_isSmall hsmall
  rw [separate]
  split
  · rw [hlower, exchange]
    refine List.map_congr_left fun c hc ↦ ?_
    rcases h c hc with rfl | hsmall
    · rw [hy.not_alphanumeric, if_neg Bool.false_ne_true, if_pos rfl]
    · have halphanumeric := isAsciiAlphanumeric_of_isSmall hsmall
      rw [if_pos halphanumeric, if_neg (hy.ne_of_isAsciiAlphanumeric halphanumeric)]
  · next hseparated =>
    rw [Bool.not_eq_true, isSeparated_eq_false_iff] at hseparated
    have hne : ∀ c ∈ text, c ≠ y := fun c hc ↦ hy.ne_of_isAsciiAlphanumeric (hseparated c hc)
    have hsmall : ∀ c ∈ text, isSmall c = true := fun c hc ↦ (h c hc).resolve_left (hne c hc)
    have hsplit : splitHumps x text = text := by
      cases text with
      | nil => rfl
      | cons a run =>
        exact splitHumps_eq_self_iff.2
          (isHumpless_of_forall_isSmall (List.forall_mem_cons.1 hsmall).2)
    rw [hsplit, hlower, exchange]
    exact ((List.map_congr_left fun c hc ↦ if_neg (hne c hc)).trans (List.map_id _)).symm

/-- Two ways of separating a text differ in the separator only. -/
theorem exchange_separate (hx : IsSeparator x) (hy : IsSeparator y) (text : List Char) :
    exchange y x (separate y text) = separate x text := by
  have hkeep : ∀ c, isAsciiAlphanumeric c = true → (if c = y then x else c) = c :=
    fun c hc ↦ if_neg (hy.ne_of_isAsciiAlphanumeric hc)
  by_cases hseparated : isSeparated text = true
  · rw [separate, separate, if_pos hseparated, if_pos hseparated, exchange, List.map_map]
    refine List.map_congr_left fun c _ ↦ ?_
    rw [Function.comp_apply]
    split
    · next halphanumeric => exact hkeep c halphanumeric
    · exact if_pos rfl
  · rw [Bool.not_eq_true] at hseparated
    have halphanumeric := isSeparated_eq_false_iff.1 hseparated
    rw [separate_of_together hx hseparated, separate_of_together hy hseparated]
    -- the separator is exchanged before the text is lowered instead of afterwards
    calc exchange y x ((splitHumps y text).map asciiLower)
        = ((splitHumps y text).map fun c ↦ if c = y then x else c).map asciiLower := by
          rw [exchange, List.map_map, List.map_map]
          refine List.map_congr_left fun c hc ↦ ?_
          rw [Function.comp_apply, Function.comp_apply]
          rcases mem_splitHumps hc with rfl | hmem
          · rw [hy.asciiLower, if_pos rfl, hx.asciiLower]
          · have hsmall := isSmall_asciiLower (halphanumeric c hmem)
            rw [hkeep _ (isAsciiAlphanumeric_of_isSmall hsmall), hkeep c (halphanumeric c hmem)]
      _ = (splitHumps x text).map asciiLower := by
          rw [map_splitHumps fun c hc ↦ hkeep c (halphanumeric c hc), if_pos rfl]

end Recase

namespace Spelling

open Recase

/-- The character that a spelling puts between small words, if it does so. -/
def separator? : Spelling → Option Char
  | kebab => some '-'
  | snake => some '_'
  | space => some ' '
  | _ => none

theorem isSeparator_of_separator? {spelling : Spelling} {x : Char}
    (h : spelling.separator? = some x) : IsSeparator x := by
  cases spelling with
  | kebab => exact Option.some.inj h ▸ isSeparator_hyphen
  | snake => exact Option.some.inj h ▸ isSeparator_underscore
  | space => exact Option.some.inj h ▸ isSeparator_space
  | _ => cases h

theorem recase_of_separator? {spelling : Spelling} {x : Char} (h : spelling.separator? = some x) :
    spelling.recase = separate x := by
  cases spelling with
  | kebab => exact Option.some.inj h ▸ rfl
  | snake => exact Option.some.inj h ▸ rfl
  | space => exact Option.some.inj h ▸ rfl
  | _ => cases h

/-- What a modifier that separates words makes of any text holds small letters and digits and the
separator only. Another such modifier makes of it what it makes of the text itself, and that is the
same but for the separator. -/
theorem apply_separated {source target : Spelling} {x y : Char} (hx : source.separator? = some x)
    (hy : target.separator? = some y) (value : String) :
    ∃ text, source.modifier.apply [value] = .ok text ∧
      (∀ c ∈ text.toList, c = x ∨ isSmall c = true) ∧
      target.modifier.apply [text] = target.modifier.apply [value] ∧
      target.modifier.apply [value] = .ok (String.ofList (exchange x y text.toList)) := by
  have hsource := isSeparator_of_separator? hx
  have hexchange := exchange_separate (isSeparator_of_separator? hy) hsource value.toList
  have hapart := isApart_separate hsource value.toList
  refine ⟨_, apply_modifier source value, ?_, ?_, ?_⟩
  · rw [String.toList_ofList, recase_of_separator? hx]
    exact hapart
  · rw [apply_modifier, apply_modifier, String.toList_ofList, recase_of_separator? hx,
      recase_of_separator? hy, separate_of_isApart hsource hapart, hexchange]
  · rw [apply_modifier, String.toList_ofList, recase_of_separator? hx, recase_of_separator? hy,
      hexchange]

/-- A name without a separator gets one and changes it. -/
theorem apply_separated_myName :
    Modifier.kebabCase.apply ["my_name"] = Modifier.kebabCase.apply ["myName"] := by
  have hx : snake.separator? = some '_' := rfl
  have hy : kebab.separator? = some '-' := rfl
  obtain ⟨text, htext, -, hagain, -⟩ := apply_separated hx hy "myName"
  have hsnake : Modifier.snakeCase.apply ["myName"] = .ok "my_name" := rfl
  cases hsnake.symm.trans htext
  exact hagain

end Spelling

end Scaffold
