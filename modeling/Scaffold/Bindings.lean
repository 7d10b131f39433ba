/-!
# Bindings

Values bound to names, in the order in which the names were first bound. Binding a name again gives
it another value and leaves it in its place.
-/

namespace Scaffold

variable {α : Type}

/-- The entries with the value of a name replaced, or added at the end. -/
def bindEntry (name : String) (value : α) : List (String × α) → List (String × α)
  | [] => [(name, value)]
  | (other, old) :: rest =>
    if other = name then (name, value) :: rest else (other, old) :: bindEntry name value rest

theorem mem_keys_bindEntry {name other : String} {value : α} {entries : List (String × α)} :
    other ∈ (bindEntry name value entries).map Prod.fst ↔
      other = name ∨ other ∈ entries.map Prod.fst := by
  induction entries with
  | nil => simp [bindEntry]
  | cons entry rest ih =>
    obtain ⟨key, old⟩ := entry
    by_cases h : key = name
    · subst h
      simp [bindEntry]
    · rw [bindEntry, if_neg h, List.map_cons, List.map_cons, List.mem_cons, List.mem_cons, ih]
      exact or_left_comm

theorem nodup_bindEntry {name : String} {value : α} {entries : List (String × α)}
    (h : (entries.map Prod.fst).Nodup) : ((bindEntry name value entries).map Prod.fst).Nodup := by
  induction entries with
  | nil => simp [bindEntry]
  | cons entry rest ih =>
    obtain ⟨key, old⟩ := entry
    simp only [List.map_cons, List.nodup_cons] at h
    by_cases hk : key = name
    · subst hk
      simpa [bindEntry] using h
    · simp only [bindEntry, hk, if_false, List.map_cons, List.nodup_cons]
      refine ⟨fun hmem ↦ ?_, ih h.2⟩
      rcases mem_keys_bindEntry.1 hmem with heq | hmem
      · exact hk heq
      · exact h.1 hmem

/-- Values bound to names. -/
structure Bindings (α : Type) where
  /-- The names and their values in order. -/
  entries : List (String × α)
  /-- No name is bound twice. -/
  nodup : (entries.map Prod.fst).Nodup

namespace Bindings

/-- No names are bound. -/
def empty : Bindings α := ⟨[], List.nodup_nil⟩

/-- The bound names in order. -/
def keys (b : Bindings α) : List String := b.entries.map Prod.fst

/-- The value of a name. -/
def get? (b : Bindings α) (name : String) : Option α := b.entries.lookup name

/-- A name is bound. -/
def contains (b : Bindings α) (name : String) : Bool := (b.get? name).isSome

/-- The bindings with a name bound to a value. -/
def insert (b : Bindings α) (name : String) (value : α) : Bindings α :=
  ⟨bindEntry name value b.entries, nodup_bindEntry b.nodup⟩

/-- The bindings of a list, later ones winning over earlier ones of the same name. -/
def ofList (entries : List (String × α)) : Bindings α :=
  entries.foldl (fun b (name, value) ↦ b.insert name value) empty

end Bindings

end Scaffold
