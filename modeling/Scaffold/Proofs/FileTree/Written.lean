import Mathlib
import Scaffold.FileTree.Path
import Scaffold.Proofs.Text.Split

/-!
# Where written paths lead

What stands between the slashes of a written path is followed from the left, one component after the
other. A place is normal if its parts are names, so that its written form leads to it and to nothing
else. A path that is written after a normal place, with a slash between them, then leads where it
leads from there. This is how a name given to a file is resolved, be it absolute, empty or on its
way up by two dots.
-/

namespace Scaffold

namespace Path

variable {p : Path} {text written : String} {place parts : List String}

/-! ## Components -/

/-- What stands between the slashes of a written path. -/
def components (text : String) : List String :=
  (Text.split ['/'] text.toList).map String.ofList

theorem components_append (text written : String) :
    components (text ++ "/" ++ written) = components text ++ components written := by
  have hslash : (text ++ "/" ++ written).toList = text.toList ++ '/' :: written.toList := by
    simp
  rw [components, hslash, Text.split_append, List.map_append, components, components]

theorem components_of_notMem (h : '/' ∉ text.toList) : components text = [text] := by
  rw [components, Text.split_of_notMem h, List.map_singleton, String.ofList_toList]

/-- Names with slashes between them are the components of what is written so. -/
theorem components_intercalate {name : String} {names : List String}
    (h : ∀ part ∈ name :: names, '/' ∉ part.toList) :
    components (String.intercalate "/" (name :: names)) = name :: names := by
  induction names generalizing name with
  | nil =>
    rw [String.intercalate_singleton]
    exact components_of_notMem (h name List.mem_cons_self)
  | cons next names ih =>
    obtain ⟨hname, hnames⟩ := List.forall_mem_cons.1 h
    rw [String.intercalate_cons_cons, components_append, components_of_notMem hname, ih hnames,
      List.singleton_append]

/-! ## Following components -/

/-- Where components lead from a place: an empty one and a single dot nowhere, two dots up, the top
being above itself, and a name down. -/
def walk : List String → List String → List String
  | place, [] => place
  | place, component :: rest =>
    if component = "" ∨ component = "." then walk place rest
    else if component = ".." then walk place.dropLast rest
    else walk (place ++ [component]) rest

/-- Where a written path leads from the top. -/
def normal (text : String) : List String := walk [] (components text)

theorem walk_append (place parts rest : List String) :
    walk place (parts ++ rest) = walk (walk place parts) rest := by
  fun_induction walk place parts with
  | case1 place => rfl
  | case2 place component parts hnothing ih => rw [List.cons_append, walk, if_pos hnothing, ih]
  | case3 place parts hnothing ih => rw [List.cons_append, walk, if_neg hnothing, if_pos rfl, ih]
  | case4 place component parts hnothing hup ih =>
    rw [List.cons_append, walk, if_neg hnothing, if_neg hup, ih]

/-- Components that lead nowhere can be left out. -/
theorem walk_eq_follow (place parts : List String) :
    walk place parts = follow place (parts.filter fun name ↦ name != "" && name != ".") := by
  fun_induction walk place parts with
  | case1 place => rfl
  | case2 place component parts hnothing ih =>
    rw [ih, List.filter_cons_of_neg]
    rcases hnothing with rfl | rfl
    · decide
    · decide
  | case3 place parts hnothing ih =>
    rw [ih, List.filter_cons_of_pos (by decide), follow, follow, List.foldl_cons, if_pos rfl]
  | case4 place component parts hnothing hup ih =>
    have hname : (component != "" && component != ".") = true := by simpa [not_or] using hnothing
    rw [ih, List.filter_cons, if_pos hname, follow, follow, List.foldl_cons, if_neg hup]

/-- The names of a written path lead where its components do. -/
theorem walk_components (place : List String) (text : String) :
    walk place (components text) = follow place (names text) := by
  rw [names, ← components, walk_eq_follow]

/-! ## Normal places -/

/-- The parts are names: not empty, no dots and without a slash. -/
def IsNormal (p : Path) : Prop :=
  ∀ part ∈ p.parts, part ≠ "" ∧ part ≠ "." ∧ part ≠ ".." ∧ '/' ∉ part.toList

instance (p : Path) : Decidable p.IsNormal :=
  inferInstanceAs (Decidable (∀ part ∈ p.parts,
    part ≠ "" ∧ part ≠ "." ∧ part ≠ ".." ∧ '/' ∉ part.toList))

/-- Names lead down. -/
theorem walk_of_isNormal (h : IsNormal ⟨parts⟩) (place : List String) :
    walk place parts = place ++ parts := by
  induction parts generalizing place with
  | nil => rw [walk, List.append_nil]
  | cons part parts ih =>
    obtain ⟨⟨hempty, hdot, hup, -⟩, hparts⟩ := List.forall_mem_cons.1 h
    rw [walk, if_neg (not_or.2 ⟨hempty, hdot⟩), if_neg hup, ih hparts, List.append_assoc,
      List.singleton_append]

/-- A normal place is where its parts lead from the top. -/
theorem follow_parts (h : p.IsNormal) : follow [] p.parts = p.parts := by
  have hnames : (p.parts.filter fun name ↦ name != "" && name != ".") = p.parts := by
    refine List.filter_eq_self.2 fun part hpart ↦ ?_
    obtain ⟨hempty, hdot, -⟩ := h part hpart
    simp [hempty, hdot]
  calc follow [] p.parts
      = walk [] p.parts := by rw [walk_eq_follow, hnames]
    _ = p.parts := walk_of_isNormal h []

/-- The written form of a normal place leads to it. -/
theorem normal_text (h : p.IsNormal) : normal p.text = p.parts := by
  have hfront : p.text = "" ++ "/" ++ String.intercalate "/" p.parts := by
    rw [text, String.empty_append]
  have hslash : ∀ part ∈ p.parts, '/' ∉ part.toList := fun part hpart ↦ (h part hpart).2.2.2
  rw [normal, hfront, components_append, components_of_notMem (by simp), List.singleton_append,
    walk, if_pos (.inl rfl)]
  obtain ⟨_ | ⟨name, names⟩⟩ := p
  · rfl
  · rw [components_intercalate hslash, walk_of_isNormal h, List.nil_append]

/-- A written path after a place: with a slash between them, or alone if it is absolute. -/
def joined (place : Path) (written : String) : String :=
  if isAbsolute written then written else place.text ++ "/" ++ written

/-- A path that is written after a normal place leads where it leads from there. -/
theorem normal_joined (h : p.IsNormal) (written : String) :
    normal (p.joined written) =
      follow (if isAbsolute written then [] else p.parts) (names written) := by
  rw [joined]
  split
  · exact walk_components [] written
  · rw [normal, components_append, walk_append, ← normal, normal_text h, walk_components]

end Path

end Scaffold
