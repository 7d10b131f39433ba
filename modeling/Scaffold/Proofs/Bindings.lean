import Mathlib
import Scaffold.Bindings

/-!
# Laws of bindings

How the operations on bindings look through `keys` and `get?`. Binding a name that is bound keeps
all keys in place, and binding a new name puts it at the end; these two laws are what the order in
which variables are resolved rests on.
-/

namespace Scaffold

variable {α : Type}

theorem lookup_cons_eq_ite {name key : String} {value : α} {rest : List (String × α)} :
    ((key, value) :: rest).lookup name = if name = key then some value else rest.lookup name := by
  by_cases h : name = key
  · subst h
    rw [List.lookup_cons_self, if_pos rfl]
  · rw [List.lookup_cons, beq_eq_false_iff_ne.2 h, if_neg h]

theorem lookup_bindEntry {name other : String} {value : α} {entries : List (String × α)} :
    (bindEntry name value entries).lookup other =
      if other = name then some value else entries.lookup other := by
  induction entries with
  | nil => rw [bindEntry, lookup_cons_eq_ite]
  | cons entry rest ih =>
    obtain ⟨key, old⟩ := entry
    by_cases hkey : key = name
    · subst hkey
      rw [bindEntry, if_pos rfl, lookup_cons_eq_ite, lookup_cons_eq_ite]
      split <;> rfl
    · rw [bindEntry, if_neg hkey, lookup_cons_eq_ite, lookup_cons_eq_ite, ih]
      by_cases h : other = key
      · subst h
        rw [if_pos rfl, if_neg hkey, if_pos rfl]
      · rw [if_neg h, if_neg h]

theorem bindEntry_of_notMem {name : String} {value : α} {entries : List (String × α)}
    (h : name ∉ entries.map Prod.fst) :
    bindEntry name value entries = entries ++ [(name, value)] := by
  induction entries with
  | nil => rfl
  | cons entry rest ih =>
    obtain ⟨key, old⟩ := entry
    simp only [List.map_cons, List.mem_cons, not_or] at h
    rw [bindEntry, if_neg (Ne.symm h.1), ih h.2, List.cons_append]

theorem map_fst_bindEntry_of_mem {name : String} {value : α} {entries : List (String × α)}
    (h : name ∈ entries.map Prod.fst) :
    (bindEntry name value entries).map Prod.fst = entries.map Prod.fst := by
  induction entries with
  | nil => simp at h
  | cons entry rest ih =>
    obtain ⟨key, old⟩ := entry
    by_cases hkey : key = name
    · subst hkey
      simp [bindEntry]
    · have hrest : name ∈ rest.map Prod.fst := by
        rcases List.mem_cons.1 h with heq | hrest
        · exact absurd heq.symm hkey
        · exact hrest
      simp [bindEntry, hkey, ih hrest]

/-- Binding a name to the value that it has changes nothing. -/
theorem bindEntry_of_lookup {name : String} {value : α} {entries : List (String × α)}
    (h : entries.lookup name = some value) : bindEntry name value entries = entries := by
  induction entries with
  | nil => cases h
  | cons entry rest ih =>
    obtain ⟨key, old⟩ := entry
    rw [lookup_cons_eq_ite] at h
    by_cases hkey : key = name
    · rw [if_pos hkey.symm, Option.some.injEq] at h
      rw [bindEntry, if_pos hkey, hkey, h]
    · rw [if_neg (Ne.symm hkey)] at h
      rw [bindEntry, if_neg hkey, ih h]

theorem lookup_isSome_iff_mem_keys {κ : Type} [BEq κ] [LawfulBEq κ] {key : κ}
    {entries : List (κ × α)} :
    (entries.lookup key).isSome ↔ key ∈ entries.map Prod.fst := by
  rw [List.lookup_isSome_iff, List.mem_map]
  refine exists_congr fun entry ↦ and_congr_right fun _ ↦ ?_
  rw [beq_iff_eq, eq_comm]

theorem lookup_eq_some_iff_mem {κ : Type} [BEq κ] [LawfulBEq κ] {key : κ} {value : α}
    {entries : List (κ × α)} (h : (entries.map Prod.fst).Nodup) :
    entries.lookup key = some value ↔ (key, value) ∈ entries := by
  induction entries with
  | nil => simp
  | cons entry rest ih =>
    obtain ⟨other, old⟩ := entry
    rw [List.map_cons, List.nodup_cons] at h
    rw [List.mem_cons, Prod.mk.injEq]
    by_cases hkey : key = other
    · subst hkey
      have hrest : (key, value) ∉ rest := fun hmem ↦ h.1 (List.mem_map.2 ⟨_, hmem, rfl⟩)
      rw [List.lookup_cons_self, Option.some.injEq]
      simp only [true_and, hrest, or_false]
      exact eq_comm
    · rw [List.lookup_cons, beq_eq_false_iff_ne.2 hkey]
      simp only [ih h.2, hkey, false_and, false_or]

namespace Bindings

theorem get?_insert (b : Bindings α) (name other : String) (value : α) :
    (b.insert name value).get? other = if other = name then some value else b.get? other :=
  lookup_bindEntry

@[simp] theorem get?_insert_self (b : Bindings α) (name : String) (value : α) :
    (b.insert name value).get? name = some value := by
  rw [get?_insert, if_pos rfl]

theorem get?_insert_of_ne (b : Bindings α) {name other : String} (h : other ≠ name) (value : α) :
    (b.insert name value).get? other = b.get? other := by
  rw [get?_insert, if_neg h]

theorem contains_iff_mem_keys {b : Bindings α} {name : String} :
    b.contains name = true ↔ name ∈ b.keys :=
  lookup_isSome_iff_mem_keys

theorem mem_keys_iff_exists {b : Bindings α} {name : String} :
    name ∈ b.keys ↔ ∃ value, b.get? name = some value := by
  rw [← contains_iff_mem_keys, contains, Option.isSome_iff_exists]

theorem get?_eq_some_iff {b : Bindings α} {name : String} {value : α} :
    b.get? name = some value ↔ (name, value) ∈ b.entries :=
  lookup_eq_some_iff_mem b.nodup

theorem keys_insert_of_mem {b : Bindings α} {name : String} (h : name ∈ b.keys) (value : α) :
    (b.insert name value).keys = b.keys :=
  map_fst_bindEntry_of_mem h

theorem entries_insert_of_notMem {b : Bindings α} {name : String} (h : name ∉ b.keys) (value : α) :
    (b.insert name value).entries = b.entries ++ [(name, value)] :=
  bindEntry_of_notMem h

theorem keys_insert_of_notMem {b : Bindings α} {name : String} (h : name ∉ b.keys) (value : α) :
    (b.insert name value).keys = b.keys ++ [name] := by
  rw [keys, entries_insert_of_notMem h, List.map_append]
  rfl

theorem insert_of_get? {b : Bindings α} {name : String} {value : α}
    (h : b.get? name = some value) : b.insert name value = b := by
  obtain ⟨entries, hnodup⟩ := b
  simp only [insert, mk.injEq]
  exact bindEntry_of_lookup h

/-- Bindings of the same names in the same order, with the same values, are the same. -/
theorem ext_get? {b b' : Bindings α} (hkeys : b.keys = b'.keys)
    (hget : ∀ name ∈ b.keys, b.get? name = b'.get? name) : b = b' := by
  have hlength : b.entries.length = b'.entries.length := by
    rw [← List.length_map Prod.fst, ← List.length_map Prod.fst]
    exact congrArg List.length hkeys
  have hentries : b.entries = b'.entries := by
    refine List.ext_getElem hlength fun i hi hi' ↦ ?_
    have hname : b.entries[i].1 = b'.entries[i].1 := by
      have hkey : b.keys[i]? = b'.keys[i]? := congrArg (·[i]?) hkeys
      simpa [keys, hi, hi'] using hkey
    have hvalue : b.get? b.entries[i].1 = some b.entries[i].2 :=
      get?_eq_some_iff.2 (List.getElem_mem hi)
    have hvalue' : b'.get? b'.entries[i].1 = some b'.entries[i].2 :=
      get?_eq_some_iff.2 (List.getElem_mem hi')
    rw [hget _ (List.mem_map_of_mem (List.getElem_mem hi)), hname, hvalue'] at hvalue
    exact Prod.ext hname (Option.some.inj hvalue).symm
  obtain ⟨entries, hnodup⟩ := b
  obtain ⟨entries', hnodup'⟩ := b'
  cases hentries
  rfl

end Bindings

end Scaffold
