import Mathlib
import Scaffold.Proofs.FileTree.Frame

/-!
# What is seen at the places of a file tree

Two trees are compared place by place, by what is seen there without looking below: nothing, a
directory, or a file with its bytes and its being executable. A directory in which a file is written
looks the same before and after, so that what an operation changes is told exactly.

Something is put only at a place that has a directory to hold it, or in place of a file. Under this
condition putting changes what is seen at that place and nowhere else, and each operation is a
number of such steps. They have in common that what is there stays what it is: a directory a
directory, a file a file, though its content may be another one.
-/

namespace Scaffold.FileTree

variable {tree old new item : FileTree} {names path above : List String}

/-- What is seen at a place. -/
inductive Sight where
  /-- There is nothing. -/
  | nothing
  /-- There is a directory. -/
  | directory
  /-- There is a file. -/
  | file (bytes : ByteArray) (executable : Bool)
deriving DecidableEq

/-- What is seen of a tree at its top. -/
def top : FileTree → Sight
  | file bytes executable => .file bytes executable
  | directory _ => .directory

/-- What is seen at the end of a list of names. -/
def look (tree : FileTree) (names : List String) : Sight :=
  match tree.at? names with
  | .ok sub => sub.top
  | .error _ => .nothing

/-! ## Looking -/

theorem look_of_at? {sub : FileTree} (h : tree.at? names = .ok sub) :
    tree.look names = sub.top := by
  rw [look, h]

theorem look_of_error {fault : FileFault} (h : tree.at? names = .error fault) :
    tree.look names = .nothing := by
  rw [look, h]

@[simp]
theorem look_nil (tree : FileTree) : tree.look [] = tree.top := by
  rw [look, at?]

@[simp]
theorem look_file_cons (bytes : ByteArray) (executable : Bool) (name : String)
    (names : List String) : (file bytes executable).look (name :: names) = .nothing := rfl

theorem look_directory_cons (entries : List (String × FileTree)) (name : String)
    (names : List String) :
    (directory entries).look (name :: names) =
      if isTooLong name then .nothing
      else ((entries.lookup name).map (look · names)).getD .nothing := by
  rw [look, at?]
  by_cases hlong : isTooLong name = true
  · rw [if_pos hlong, if_pos hlong]
  · rw [if_neg hlong, if_neg hlong]
    cases entries.lookup name with
    | none => rfl
    | some sub => rfl

theorem top_ne_nothing (tree : FileTree) : tree.top ≠ .nothing := by
  cases tree with
  | file bytes executable => exact Sight.noConfusion
  | directory entries => exact Sight.noConfusion

theorem look_eq_file_iff {bytes : ByteArray} {executable : Bool} :
    tree.look names = .file bytes executable ↔ tree.at? names = .ok (file bytes executable) := by
  rw [look]
  split
  · next sub hsub => cases sub <;> simp [top, hsub]
  · next fault hfault => simp [hfault]

theorem look_eq_directory_iff :
    tree.look names = .directory ↔ ∃ entries, tree.at? names = .ok (directory entries) := by
  rw [look]
  split
  · next sub hsub => cases sub <;> simp [top, hsub]
  · next fault hfault => simp [hfault]

theorem look_ne_nothing_iff : tree.look names ≠ .nothing ↔ ∃ sub, tree.at? names = .ok sub := by
  rw [look]
  split
  · next sub hsub => simp [hsub, top_ne_nothing]
  · next fault hfault => simp [hfault]

/-- The way to something leads through directories. -/
theorem look_eq_directory_of_append {name : String}
    (h : tree.look (above ++ name :: names) ≠ .nothing) : tree.look above = .directory := by
  induction above generalizing tree with
  | nil =>
    cases tree with
    | file bytes executable => exact absurd rfl h
    | directory entries => rfl
  | cons first above ih =>
    cases tree with
    | file bytes executable => exact absurd rfl h
    | directory entries =>
      rw [List.cons_append, look_directory_cons] at h
      rw [look_directory_cons]
      by_cases hlong : isTooLong first = true
      · rw [if_pos hlong] at h
        exact absurd rfl h
      · rw [if_neg hlong] at h ⊢
        cases hlookup : entries.lookup first with
        | none =>
          rw [hlookup] at h
          exact absurd rfl h
        | some sub =>
          rw [hlookup] at h
          exact ih h

theorem look_ne_nothing_of_prefix (h : tree.look path ≠ .nothing) (hway : names <+: path) :
    tree.look names ≠ .nothing := by
  obtain ⟨below, rfl⟩ := hway
  cases below with
  | nil => rwa [List.append_nil] at h
  | cons name below =>
    rw [look_eq_directory_of_append h]
    exact Sight.noConfusion

/-! ## Putting -/

/-- A place with a directory that can hold something there, but nothing there as yet, or with a file
there. -/
inductive IsSettable : FileTree → List String → Prop where
  /-- The tree is a file. -/
  | file (bytes : ByteArray) (executable : Bool) : IsSettable (file bytes executable) []
  /-- The directory has no such entry. -/
  | vacant {entries : List (String × FileTree)} {name : String} (hlong : ¬ isTooLong name = true)
    (hlookup : entries.lookup name = none) : IsSettable (directory entries) [name]
  /-- The place is below an entry of the directory. -/
  | inner {entries : List (String × FileTree)} {name : String} {sub : FileTree}
    {path : List String} (hlong : ¬ isTooLong name = true)
    (hlookup : entries.lookup name = some sub)
    (h : IsSettable sub path) : IsSettable (directory entries) (name :: path)

theorem isSettable_of_file {bytes : ByteArray} {executable : Bool}
    (h : tree.at? path = .ok (.file bytes executable)) : tree.IsSettable path := by
  induction path generalizing tree with
  | nil =>
    cases h
    exact .file bytes executable
  | cons name path ih =>
    cases tree with
    | file bytes executable => cases h
    | directory entries =>
      rw [at?] at h
      split at h
      · cases h
      · next hlong =>
        split at h
        · next sub hlookup => exact .inner hlong hlookup (ih h)
        · cases h

theorem isSettable_of_missing {name : String} (habove : tree.look above ≠ .nothing)
    (h : tree.at? (above ++ [name]) = .error .missing) : tree.IsSettable (above ++ [name]) := by
  induction above generalizing tree with
  | nil =>
    cases tree with
    | file bytes executable => cases h
    | directory entries =>
      rw [List.nil_append, at?] at h
      split at h
      · cases h
      · next hlong =>
        split at h
        · cases h
        · next hlookup => exact .vacant hlong hlookup
  | cons first above ih =>
    cases tree with
    | file bytes executable => cases h
    | directory entries =>
      rw [List.cons_append, at?] at h
      rw [look_directory_cons] at habove
      split at h
      · cases h
      · next hlong =>
        rw [if_neg hlong] at habove
        split at h
        · next sub hlookup =>
          rw [hlookup] at habove
          exact .inner hlong hlookup (ih habove h)
        · next hlookup =>
          rw [hlookup] at habove
          exact absurd rfl habove

/-- A file or an empty directory, below which there is nothing. -/
def IsFlat (item : FileTree) : Prop := ∀ name names, item.look (name :: names) = .nothing

theorem isFlat_file (bytes : ByteArray) (executable : Bool) : (file bytes executable).IsFlat :=
  look_file_cons bytes executable

theorem isFlat_empty : empty.IsFlat := by
  intro name names
  rw [empty, look_directory_cons]
  split
  · rfl
  · rfl

/-- What is seen below an entry that has been set is seen in it, and all else is seen as before. -/
theorem look_setEntry_cons {entries : List (String × FileTree)} {name : String}
    (hlong : ¬ isTooLong name = true) (sub : FileTree) (other : String) (names : List String) :
    (directory (setEntry name sub entries)).look (other :: names) =
      if other = name then sub.look names else (directory entries).look (other :: names) := by
  rw [look_directory_cons, look_directory_cons, lookup_setEntry]
  by_cases hother : other = name
  · subst hother
    rw [if_neg hlong, if_pos rfl, if_pos rfl, Option.map_some, Option.getD_some]
  · rw [if_neg hother, if_neg hother]

/-- Putting changes what is seen at the place and nowhere else. -/
theorem look_put (h : tree.IsSettable path) (hitem : item.IsFlat) :
    (put item path tree).look names = if names = path then item.top else tree.look names := by
  induction h generalizing names with
  | file bytes executable =>
    rw [put]
    cases names with
    | nil => rw [if_pos rfl, look_nil]
    | cons name names =>
      rw [if_neg (List.cons_ne_nil name names), look_file_cons]
      exact hitem name names
  | @vacant entries name hlong hlookup =>
    rw [put, hlookup, put]
    cases names with
    | nil => rw [if_neg (List.cons_ne_nil name []).symm, look_nil, look_nil, top, top]
    | cons other names =>
      rw [look_setEntry_cons hlong]
      by_cases hother : other = name
      · subst hother
        rw [if_pos rfl, look_directory_cons, if_neg hlong, hlookup]
        -- nothing has been there, and what has been put holds nothing
        cases names with
        | nil => rw [if_pos rfl, look_nil]
        | cons next names =>
          have hne : other :: next :: names ≠ [other] := by simp
          rw [if_neg hne, hitem]
          rfl
      · have hne : other :: names ≠ [name] := fun heq ↦ hother (List.cons.inj heq).1
        rw [if_neg hother, if_neg hne]
  | @inner entries name sub path hlong hlookup _ ih =>
    rw [put, hlookup]
    cases names with
    | nil => rw [if_neg (List.cons_ne_nil name path).symm, look_nil, look_nil, top, top]
    | cons other names =>
      rw [look_setEntry_cons hlong]
      by_cases hother : other = name
      · subst hother
        rw [if_pos rfl, Option.getD_some, ih, look_directory_cons, if_neg hlong, hlookup,
          Option.map_some, Option.getD_some]
        simp only [List.cons.injEq, true_and]
      · have hne : other :: names ≠ name :: path := fun heq ↦ hother (List.cons.inj heq).1
        rw [if_neg hother, if_neg hne]

/-! ## What stays -/

/-- What is there stays what it is, though a file may get other content. -/
inductive Sight.Stays : Sight → Sight → Prop where
  /-- Where nothing is, anything can come. -/
  | nothing (s : Sight) : Stays .nothing s
  /-- A directory stays a directory. -/
  | directory : Stays .directory .directory
  /-- A file stays a file. -/
  | file (bytes bytes' : ByteArray) (executable executable' : Bool) :
    Stays (.file bytes executable) (.file bytes' executable')

theorem Sight.Stays.refl (s : Sight) : s.Stays s := by
  cases s with
  | nothing => exact .nothing _
  | directory => exact .directory
  | file bytes executable => exact .file bytes bytes executable executable

theorem Sight.Stays.trans {s s' s'' : Sight} (h : s.Stays s') (h' : s'.Stays s'') :
    s.Stays s'' := by
  cases h with
  | nothing => exact .nothing _
  | directory => exact h'
  | file =>
    cases h' with
    | file => exact .file _ _ _ _

theorem Sight.Stays.ne_nothing {s s' : Sight} (h : s.Stays s') (hne : s ≠ .nothing) :
    s' ≠ .nothing := by
  cases h with
  | nothing => exact absurd rfl hne
  | directory => exact Sight.noConfusion
  | file => exact Sight.noConfusion

/-- At every place, what is there stays what it is. -/
def Stays (old new : FileTree) : Prop := ∀ names, (old.look names).Stays (new.look names)

theorem Stays.refl (tree : FileTree) : Stays tree tree := fun _ ↦ .refl _

theorem Stays.trans {middle : FileTree} (h : Stays old middle) (h' : Stays middle new) :
    Stays old new :=
  fun names ↦ (h names).trans (h' names)

theorem Stays.look_eq_directory (h : Stays old new) (hold : old.look names = .directory) :
    new.look names = .directory := by
  have hstays := h names
  rw [hold] at hstays
  generalize new.look names = s at hstays ⊢
  cases hstays
  rfl

theorem Stays.exists_look_eq_file {bytes : ByteArray} {executable : Bool} (h : Stays old new)
    (hold : old.look names = .file bytes executable) :
    ∃ bytes' executable', new.look names = .file bytes' executable' := by
  have hstays := h names
  rw [hold] at hstays
  generalize new.look names = s at hstays ⊢
  cases hstays
  exact ⟨_, _, rfl⟩

/-- All that is new is directories on the way to a place. -/
def Made (old new : FileTree) (place : List String) : Prop :=
  ∀ names, new.look names = old.look names ∨
    (names <+: place ∧ old.look names = .nothing ∧ new.look names = .directory)

theorem Made.refl (tree : FileTree) (place : List String) : Made tree tree place :=
  fun _ ↦ .inl rfl

theorem Made.trans {middle : FileTree} {place : List String} (h : Made old middle place)
    (h' : Made middle new place) : Made old new place := by
  intro names
  rcases h names with hsame | ⟨hway, hnothing, hdirectory⟩
  · rw [← hsame]
    exact h' names
  · rcases h' names with hsame | ⟨-, hnothing', -⟩
    · exact .inr ⟨hway, hnothing, hsame.trans hdirectory⟩
    · rw [hdirectory] at hnothing'
      cases hnothing'

theorem Made.mono {place place' : List String} (h : Made old new place) (hway : place <+: place') :
    Made old new place' := by
  intro names
  rcases h names with hsame | ⟨hnames, hnothing, hdirectory⟩
  · exact .inl hsame
  · exact .inr ⟨hnames.trans hway, hnothing, hdirectory⟩

theorem Made.stays {place : List String} (h : Made old new place) : Stays old new := by
  intro names
  rcases h names with hsame | ⟨-, hnothing, -⟩
  · rw [hsame]
    exact .refl _
  · rw [hnothing]
    exact .nothing _

/-- The files are left as they are. -/
theorem Made.look_eq_file {place names : List String} {bytes : ByteArray} {executable : Bool}
    (h : Made old new place) (hfile : old.look names = .file bytes executable) :
    new.look names = .file bytes executable := by
  rcases h names with hsame | ⟨-, hnothing, -⟩
  · rw [hsame, hfile]
  · rw [hfile] at hnothing
    cases hnothing

/-- A name that is too long is so below a directory only, and stays so with the directory. -/
theorem at?_eq_nameTooLong_iff :
    tree.at? path = .error .nameTooLong ↔
      ∃ above name below, path = above ++ name :: below ∧ tree.look above = .directory ∧
        isTooLong name = true := by
  constructor
  · intro h
    induction path generalizing tree with
    | nil => cases h
    | cons name path ih =>
      cases tree with
      | file bytes executable => cases h
      | directory entries =>
        rw [at?] at h
        split at h
        · next hlong => exact ⟨[], name, path, rfl, rfl, hlong⟩
        · next hlong =>
          split at h
          · next sub hlookup =>
            obtain ⟨above, other, below, rfl, habove, hother⟩ := ih h
            refine ⟨name :: above, other, below, rfl, ?_, hother⟩
            rw [look_directory_cons, if_neg hlong, hlookup]
            exact habove
          · cases h
  · rintro ⟨above, name, below, rfl, habove, hlong⟩
    induction above generalizing tree with
    | nil =>
      obtain ⟨entries, hentries⟩ := look_eq_directory_iff.1 habove
      cases hentries
      rw [List.nil_append, at?, if_pos hlong]
    | cons first above ih =>
      cases tree with
      | file bytes executable => cases habove
      | directory entries =>
        rw [look_directory_cons] at habove
        rw [List.cons_append, at?]
        by_cases hfirst : isTooLong first = true
        · rw [if_pos hfirst]
        · rw [if_neg hfirst] at habove ⊢
          cases hlookup : entries.lookup first with
          | none =>
            rw [hlookup] at habove
            cases habove
          | some sub =>
            rw [hlookup] at habove
            exact ih habove

theorem Stays.nameTooLong (h : Stays old new) (hlong : old.at? path = .error .nameTooLong) :
    new.at? path = .error .nameTooLong := by
  obtain ⟨above, name, below, rfl, habove, hname⟩ := at?_eq_nameTooLong_iff.1 hlong
  refine at?_eq_nameTooLong_iff.2 ⟨above, name, below, rfl, ?_, hname⟩
  have hstays := h above
  rw [habove] at hstays
  generalize new.look above = s at hstays
  cases hstays
  rfl

/-! ## Operations -/

theorem made_makeDirectories (habove : tree.look above ≠ .nothing) :
    Made tree (tree.makeDirectories above names).1 (above ++ names) := by
  fun_induction makeDirectories tree above names with
  | case1 tree above entries hat => exact .refl tree _
  | case2 tree above bytes executable hat => exact .refl tree _
  | case3 tree above fault hat => exact .refl tree _
  -- the next directory is missing and is made
  | case4 tree above name names hmissing ih =>
    have hput : ∀ place, (put empty (above ++ [name]) tree).look place =
        if place = above ++ [name] then .directory else tree.look place :=
      fun place ↦ look_put (isSettable_of_missing habove hmissing) isFlat_empty
    have hmade : Made tree (put empty (above ++ [name]) tree) (above ++ [name] ++ names) := by
      intro place
      rw [hput]
      split
      · next hplace =>
        subst hplace
        exact .inr ⟨List.prefix_append _ _, look_of_error hmissing, rfl⟩
      · exact .inl rfl
    have hrest := ih (by
      rw [hput, if_pos rfl]
      exact Sight.noConfusion)
    have hparts : above ++ name :: names = above ++ [name] ++ names := List.append_cons _ _ _
    rw [hparts]
    exact hmade.trans hrest
  | case5 tree above name names fault hfault hat => exact .refl tree _
  | case6 tree above name names found hat ih =>
    have hparts : above ++ name :: names = above ++ [name] ++ names := List.append_cons _ _ _
    rw [hparts]
    exact ih (look_ne_nothing_iff.2 ⟨found, hat⟩)

theorem look_writeFile {place : Path} {bytes : ByteArray}
    (h : tree.writeFile place bytes = .ok new) :
    tree.look place.parts ≠ .directory ∧
      ∃ executable, ∀ names, new.look names =
        if names = place.parts then .file bytes executable else tree.look names := by
  unfold writeFile at h
  split at h
  · cases h
  · next old executable hfile =>
    cases h
    have hlook := look_of_at? hfile
    refine ⟨?_, executable, fun names ↦ look_put (isSettable_of_file hfile) (isFlat_file _ _)⟩
    rw [hlook]
    exact Sight.noConfusion
  -- a new file, for which the directory above it has to be there
  · next hmissing =>
    split at h
    · next entries hparent =>
      cases h
      have hnothing := look_of_error hmissing
      have hne : place.parts ≠ [] := by
        intro hnil
        rw [find?, hnil] at hmissing
        cases hmissing
      have hparts := List.dropLast_append_getLast hne
      have hsettable : tree.IsSettable place.parts := by
        rw [find?, ← hparts] at hmissing
        rw [← hparts]
        exact isSettable_of_missing (look_ne_nothing_iff.2 ⟨_, hparent⟩) hmissing
      refine ⟨?_, false, fun names ↦ look_put hsettable (isFlat_file _ _)⟩
      rw [hnothing]
      exact Sight.noConfusion
    · cases h
    · cases h
  · cases h

theorem look_setExecutable {place : Path} {bytes : ByteArray} {executable : Bool}
    (h : tree.look place.parts = .file bytes executable) (executable' : Bool) :
    (tree.setExecutable place executable').look names =
      if names = place.parts then .file bytes executable' else tree.look names := by
  have hfile := look_eq_file_iff.1 h
  unfold setExecutable
  rw [find?, hfile]
  exact look_put (isSettable_of_file hfile) (isFlat_file _ _)

theorem readFile_eq_ok_iff {place : Path} {bytes : ByteArray} {executable : Bool} :
    tree.readFile place = .ok (bytes, executable) ↔
      tree.look place.parts = .file bytes executable := by
  rw [look_eq_file_iff, readFile, find?]
  split
  · next h => simp [h]
  · next h => simp [h]
  · next h => simp [h]

theorem occupied_eq_true_iff {place : Path} :
    tree.occupied place = .ok true ↔ tree.look place.parts ≠ .nothing := by
  rw [look_ne_nothing_iff, occupied, find?]
  split
  · next sub h => simp [h]
  · next h => simp [h]
  · next h => simp [h]

theorem occupied_eq_error_iff {place : Path} {fault : FileFault} :
    tree.occupied place = .error fault ↔
      fault = .nameTooLong ∧ tree.at? place.parts = .error .nameTooLong := by
  rw [occupied, find?]
  constructor
  · intro h
    split at h
    · cases h
    · next hlong =>
      cases h
      exact ⟨rfl, hlong⟩
    · cases h
  · rintro ⟨rfl, h⟩
    rw [h]

/-- What is there has not gone, and a place that can be asked for now could be before. -/
theorem Stays.occupied {place : Path} {there : Bool} (h : Stays old new)
    (hthere : new.occupied place = .ok there) :
    ∃ before, old.occupied place = .ok before ∧ (before = true → there = true) := by
  cases hbefore : old.occupied place with
  | error fault =>
    obtain ⟨rfl, hlong⟩ := occupied_eq_error_iff.1 hbefore
    rw [occupied_eq_error_iff.2 ⟨rfl, h.nameTooLong hlong⟩] at hthere
    cases hthere
  | ok before =>
    refine ⟨before, rfl, ?_⟩
    rintro rfl
    have hsome := occupied_eq_true_iff.1 hbefore
    have hnew := occupied_eq_true_iff.2 ((h place.parts).ne_nothing hsome)
    rw [hnew] at hthere
    exact (Except.ok.inj hthere).symm

end Scaffold.FileTree
