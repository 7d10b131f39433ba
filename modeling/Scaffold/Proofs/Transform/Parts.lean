import Mathlib
import Scaffold.Proofs.Text.Numeral
import Scaffold.Proofs.Text.Split
import Scaffold.Transform.Apply

/-!
# The parts of a value

`splitPart` gives the parts of a value one by one, by their numbers in decimal digits, and nothing
for a number that no part has. `join` undoes it: the parts, with the separator that they were told
apart by, are the value again. At an empty separator the parts are the characters of the value.

Numbers are read up to a limit of digits. A value has fewer characters than there are such numbers,
and thus no part that cannot be asked for.
-/

namespace Scaffold.Modifier

variable {value separator : String}

/-- The parts of a value, in order. -/
def parts (value separator : String) : List String :=
  (Text.split separator.toList value.toList).map String.ofList

theorem length_parts_le (value separator : String) :
    (parts value separator).length ≤ value.length + 1 := by
  rw [parts, List.length_map, ← String.length_toList]
  exact Text.length_split_le separator.toList value.toList

/-! ## One part -/

theorem partOf_toString_natCast {n : ℕ} (h : n < 10 ^ Text.Numeral.digitLimit)
    (value separator : String) :
    partOf value separator (toString n) = .ok ((parts value separator)[n]?.getD "") := by
  have hindex : Text.Numeral.integer 10 (toString n).toList = .ok (Int.ofNat n) :=
    (Text.Numeral.integer_toString (Int.ofNat n)).trans (if_pos h)
  simp only [partOf, hindex, parts, List.getElem?_map]
  cases (Text.split separator.toList value.toList)[n]? with
  | none => rfl
  | some part => rfl

/-- There is nothing where there is no part, even if the number is too long to be read. -/
theorem outcome_partOf_toString {k : ℤ} (h : k < 0 ∨ (parts value separator).length ≤ k) :
    (partOf value separator (toString k)).outcome = .ok "" := by
  by_cases hlimit : k.natAbs < 10 ^ Text.Numeral.digitLimit
  · cases k with
    | ofNat n =>
      have hlength : (parts value separator).length ≤ n :=
        Int.ofNat_le.1 (h.resolve_left (Int.not_lt.2 (Int.natCast_nonneg n)))
      have hpart := partOf_toString_natCast (n := n) hlimit value separator
      rw [List.getElem?_eq_none hlength] at hpart
      exact congrArg Traced.outcome hpart
    | negSucc n => rw [partOf, Text.Numeral.integer_toString, if_pos hlimit, Traced.ok]
  · rw [partOf, Text.Numeral.integer_toString, if_neg hlimit]

/-! ## All parts -/

theorem joinAll_parts (value separator : String) :
    joinAll separator (parts value separator) = value := by
  have hlist : (parts value separator).map String.toList =
      Text.split separator.toList value.toList := by
    rw [parts, List.map_map]
    exact (List.map_congr_left fun part _ ↦ String.toList_ofList).trans (List.map_id' _)
  rw [joinAll, hlist, Text.join_split, String.ofList_toList]

theorem parts_ne_nil (h : separator ≠ "") : parts value separator ≠ [] := by
  rw [parts, Ne, List.map_eq_nil_iff, Text.split, if_neg]
  · exact Text.splitFrom_ne_nil _ _ _
  · rwa [List.isEmpty_iff, String.toList_eq_nil_iff]

theorem not_isInfix_of_mem_parts {part : String} (h : separator ≠ "")
    (hpart : part ∈ parts value separator) : ¬separator.toList <:+: part.toList := by
  obtain ⟨chars, hchars, rfl⟩ := List.mem_map.1 hpart
  rw [String.toList_ofList]
  exact Text.not_isInfix_of_mem_split (mt String.toList_eq_nil_iff.1 h) hchars

theorem parts_empty (value : String) : parts value "" = value.toList.map String.singleton := by
  rw [parts, String.toList_empty, Text.split, if_pos List.isEmpty_nil, List.map_map]
  rfl

/-- A value has parts that it is joined from, and `splitPart` gives each of them for its number in
decimal digits, and nothing for a number that is negative or too large. There is one part at least,
and none contains the separator, if this is not empty; else the parts are the characters. -/
theorem join_splitPart (value separator : String)
    (h : value.length < 10 ^ Text.Numeral.digitLimit) :
    ∃ texts : List String,
      (∀ i (hi : i < texts.length),
        splitPart.apply [value, separator, toString i] = .ok texts[i]) ∧
      (∀ k : ℤ, k < 0 ∨ texts.length ≤ k →
        (splitPart.apply [value, separator, toString k]).outcome = .ok "") ∧
      join.apply (separator :: texts) = .ok value ∧
      (separator ≠ "" → 1 ≤ texts.length ∧ ∀ text ∈ texts, ¬separator.toList <:+: text.toList) ∧
      (separator = "" → texts = value.toList.map String.singleton ∧
        concat.apply texts = .ok value) := by
  refine ⟨parts value separator, fun i hi ↦ ?_, fun k hk ↦ outcome_partOf_toString hk,
    congrArg Traced.ok (joinAll_parts value separator), fun hne ↦ ?_, ?_⟩
  · have hlength := length_parts_le value separator
    have hpart := partOf_toString_natCast (n := i) (by omega) value separator
    rwa [List.getElem?_eq_getElem hi] at hpart
  · exact ⟨List.length_pos_iff.2 (parts_ne_nil hne), fun text ↦ not_isInfix_of_mem_parts hne⟩
  · rintro rfl
    exact ⟨parts_empty value, congrArg Traced.ok (joinAll_parts value "")⟩

/-- A value in which occurrences of the separator overlap. -/
theorem join_splitPart_dashes :
    "a--b---c".length < 10 ^ Text.Numeral.digitLimit ∧
      (∃ texts, join.apply ("--" :: texts) = .ok "a--b---c" ∧ 1 ≤ texts.length ∧
        ∀ text ∈ texts, ¬"--".toList <:+: text.toList) ∧
      (splitPart.apply ["a--b---c", "--", "-1"]).outcome = .ok "" := by
  have hlength : "a--b---c".length < 10 ^ Text.Numeral.digitLimit :=
    calc "a--b---c".length < 10 ^ 1 := by decide
      _ ≤ 10 ^ Text.Numeral.digitLimit := Nat.pow_le_pow_right (by decide) (by decide)
  obtain ⟨texts, -, hnone, hjoin, hparts, -⟩ := join_splitPart "a--b---c" "--" hlength
  obtain ⟨hone, hseparator⟩ := hparts (by decide)
  have hminus : toString (-1 : ℤ) = "-1" := by decide
  exact ⟨hlength, ⟨texts, hjoin, hone, hseparator⟩, hminus ▸ hnone (-1) (.inl (by decide))⟩

end Scaffold.Modifier
