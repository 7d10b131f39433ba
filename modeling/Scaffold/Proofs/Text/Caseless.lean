import Mathlib
import Scaffold.Proofs.Text.Case
import Scaffold.Text.Caseless

/-!
# Beginnings without regard to case

A text begins with another without regard to case when it is a piece that agrees with the other
letter by letter, and whatever comes next. So beginnings can be put together and taken apart.
-/

namespace Scaffold.Text

variable {expected text rest : List Char}

/-- A text agrees with the expected one, letter by letter. -/
def AgreeCaseless (expected text : List Char) : Prop :=
  List.Forall₂ (fun e c ↦ agreesCaseless e c = true) expected text

theorem siblings_self (n : ℕ) : (siblings n).contains n = true := by
  rw [siblings]
  cases h : lowerSiblings.find? (·.contains n) with
  | none => simp
  | some group =>
    have hcontains := List.find?_some h
    exact hcontains

theorem agreesCaseless_self (c : Char) : agreesCaseless c c = true := by
  rw [agreesCaseless, Fold.agrees]
  split
  · exact siblings_self _
  · exact beq_self_eq_true _

theorem AgreeCaseless.refl (text : List Char) : AgreeCaseless text text :=
  List.forall₂_same.2 fun c _ ↦ agreesCaseless_self c

theorem dropCaseless?_eq_some_iff :
    dropCaseless? expected text = some rest ↔
      ∃ head, AgreeCaseless expected head ∧ text = head ++ rest := by
  induction expected generalizing text with
  | nil =>
    rw [dropCaseless?, Option.some.injEq]
    refine ⟨fun h ↦ ⟨[], .nil, h⟩, ?_⟩
    rintro ⟨head, hhead, rfl⟩
    rw [List.forall₂_nil_left_iff.1 hhead, List.nil_append]
  | cons e expected ih =>
    constructor
    · intro h
      cases text with
      | nil => cases h
      | cons c text =>
        rw [dropCaseless?] at h
        by_cases hagree : agreesCaseless e c = true
        · rw [if_pos hagree] at h
          obtain ⟨head, hhead, rfl⟩ := ih.1 h
          exact ⟨c :: head, .cons hagree hhead, rfl⟩
        · rw [if_neg hagree] at h
          cases h
    · rintro ⟨head, hhead, rfl⟩
      cases hhead with
      | cons hagree hhead =>
        rw [List.cons_append, dropCaseless?, if_pos hagree]
        exact ih.2 ⟨_, hhead, rfl⟩

theorem dropCaseless?_append {head : List Char} (h : AgreeCaseless expected head)
    (rest : List Char) : dropCaseless? expected (head ++ rest) = some rest :=
  dropCaseless?_eq_some_iff.2 ⟨head, h, rfl⟩

theorem dropCaseless?_append_eq_bind (first second text : List Char) :
    dropCaseless? (first ++ second) text =
      (dropCaseless? first text).bind (dropCaseless? second) := by
  induction first generalizing text with
  | nil => rfl
  | cons e first ih =>
    cases text with
    | nil => rfl
    | cons c text =>
      rw [List.cons_append, dropCaseless?, dropCaseless?, ih]
      split <;> rfl

/-! ## Characters that agree with nothing expected -/

/-- A beginning does not reach to a character that agrees with nothing expected. -/
theorem dropCaseless?_append_cons {c : Char} (h : ∀ e ∈ expected, agreesCaseless e c = false)
    (text after : List Char) :
    dropCaseless? expected (text ++ c :: after) =
      (dropCaseless? expected text).map (· ++ c :: after) := by
  induction expected generalizing text with
  | nil => rfl
  | cons e expected ih =>
    obtain ⟨he, hexpected⟩ := List.forall_mem_cons.1 h
    cases text with
    | nil =>
      have hnone : dropCaseless? (e :: expected) (c :: after) = none :=
        if_neg (Bool.eq_false_iff.1 he)
      exact hnone
    | cons d text =>
      rw [List.cons_append, dropCaseless?, dropCaseless?]
      split
      · exact ih hexpected text
      · rfl

/-- A character before the letters agrees with itself only. -/
theorem agreesCaseless_iff_of_lt {e c : Char} (hc : c.toNat < 65) :
    agreesCaseless e c = true ↔ e = c := by
  refine ⟨fun h ↦ ?_, fun h ↦ h ▸ agreesCaseless_self e⟩
  rw [agreesCaseless, Fold.agrees] at h
  split at h
  · have hcode : lowerCode c.toNat = c.toNat := (isLowered_of_lt (by omega) (by omega)).lowerCode
    have hgroups : ∀ group ∈ lowerSiblings, ∀ n ∈ group, 65 ≤ n := by decide
    rw [Fold.keys, Fold.key, hcode, siblings] at h
    cases hfind : lowerSiblings.find? (·.contains (lowerCode e.toNat)) with
    | some group =>
      rw [hfind, Option.getD_some, List.contains_iff_mem] at h
      have hge := hgroups group (List.mem_of_find?_eq_some hfind) _ h
      omega
    | none =>
      rw [hfind, Option.getD_none, List.contains_iff_mem, List.mem_singleton] at h
      have hsame : lowerCode e.toNat = e.toNat := eq_of_lowerCode_lt (h ▸ hc)
      exact Char.toNat_inj.1 (hsame.symm.trans h.symm)
  · exact Char.toNat_inj.1 (beq_iff_eq.1 h)

end Scaffold.Text
