import Mathlib
import Scaffold.FileTree.Text
import Scaffold.Resolution.Closure
import Scaffold.Proofs.Bindings
import Scaffold.Proofs.Traced

/-!
# What a catalogue lists

Files are gone through in order, and in each of them the content before the path. The names that are
found on the way decide everything else. If some of them are no variable names, each place where
such a name stands is reported, in this order. Otherwise the catalogue has an entry for each file in
which names are found, with these names, and lists the names of all entries; a name that is found
again is passed over in both. What a selection of files needs is then put together from the entries
of these files alone.

Names are not found at all where a wrapper has no halves or a path holds the null character. The
extraction then tells of such an obstacle, whatever names it has seen before.
-/

namespace Scaffold

/-! ## First occurrences -/

/-- `distinct` has the names of `names`, each once, in the order in which they are first seen. -/
structure IsFirstSeen (names distinct : List String) : Prop where
  /-- No name is repeated. -/
  nodup : distinct.Nodup
  /-- The names are the same. -/
  mem_iff : ∀ name, name ∈ distinct ↔ name ∈ names
  /-- What is seen first comes first. -/
  ordered : distinct.Pairwise fun a b ↦ names.idxOf a < names.idxOf b

namespace IsFirstSeen

variable {names distinct : List String} {name : String}

theorem nil : IsFirstSeen [] [] := ⟨List.nodup_nil, fun _ ↦ Iff.rfl, .nil⟩

theorem ordered_append (h : IsFirstSeen names distinct) (more : List String) :
    distinct.Pairwise fun a b ↦ (names ++ more).idxOf a < (names ++ more).idxOf b := by
  refine h.ordered.imp_of_mem fun {a b} ha hb hlt ↦ ?_
  rwa [List.idxOf_append_of_mem ((h.mem_iff a).1 ha), List.idxOf_append_of_mem ((h.mem_iff b).1 hb)]

/-- A name that was seen before is passed over. -/
theorem again (h : IsFirstSeen names distinct) (hmem : name ∈ names) :
    IsFirstSeen (names ++ [name]) distinct := by
  refine ⟨h.nodup, fun other ↦ ?_, h.ordered_append [name]⟩
  rw [h.mem_iff, List.mem_append, List.mem_singleton]
  constructor
  · exact .inl
  · rintro (hother | rfl)
    · exact hother
    · exact hmem

/-- A name that was not seen before comes last. -/
theorem first (h : IsFirstSeen names distinct) (hmem : name ∉ names) :
    IsFirstSeen (names ++ [name]) (distinct ++ [name]) := by
  have hnew : name ∉ distinct := mt (h.mem_iff name).1 hmem
  refine ⟨?_, fun other ↦ ?_, ?_⟩
  · rw [← List.concat_eq_append]
    exact h.nodup.concat hnew
  · rw [List.mem_append, List.mem_append, h.mem_iff]
  · refine List.pairwise_append.2 ⟨h.ordered_append [name], List.pairwise_singleton _ _, ?_⟩
    intro a ha b hb
    have hseen : a ∈ names := (h.mem_iff a).1 ha
    rw [List.mem_singleton.1 hb, List.idxOf_append_of_mem hseen, List.idxOf_append_of_notMem hmem]
    exact Nat.lt_add_right _ (List.idxOf_lt_length_of_mem hseen)

/-- There is one such list. -/
theorem unique {other : List String} (h : IsFirstSeen names distinct)
    (hother : IsFirstSeen names other) : distinct = other := by
  refine List.Perm.eq_of_pairwise ?_ h.ordered hother.ordered ?_
  · intro a b _ _ hab hba
    exact absurd hba hab.not_gt
  · refine (List.perm_ext_iff_of_nodup h.nodup hother.nodup).2 fun name ↦ ?_
    rw [h.mem_iff, hother.mem_iff]

theorem eq_nil_iff (h : IsFirstSeen names distinct) : distinct = [] ↔ names = [] := by
  simp only [List.eq_nil_iff_forall_not_mem, h.mem_iff]

end IsFirstSeen

theorem isFirstSeen_eraseDups (names : List String) : IsFirstSeen names names.eraseDups := by
  induction names using List.reverseRecOn with
  | nil => exact .nil
  | append_singleton names name ih =>
    rw [List.eraseDups_append]
    by_cases hmem : name ∈ names
    · have hnone : [name].removeAll names = [] := by simp [List.removeAll, hmem]
      rw [hnone, List.eraseDups_nil, List.append_nil]
      exact ih.again hmem
    · have hone : [name].removeAll names = [name] := by simp [List.removeAll, hmem]
      rw [hone, List.eraseDups_cons, List.filter_nil, List.eraseDups_nil]
      exact ih.first hmem

theorem Placeholder.names_empty (w : Wrapper) : names w "" = [] := rfl

namespace Catalogue

variable {config : WrapperConfig} {nameWrapper : Wrapper} {read : Reading} {file : String}
  {files selected names : List String} {found : List (List String)} {e : CatalogueError}

/-! ## What is found -/

/-- The names that are found in a file: those in its text, if it holds text, and then those in its
path. -/
def IsFoundIn (config : WrapperConfig) (nameWrapper : Wrapper) (read : Reading) (file : String)
    (names : List String) : Prop :=
  ∃ wrapper text, config.forContent file = .ok wrapper ∧ read file = .ok text ∧
    names = text.elim [] (Placeholder.names wrapper) ++ Placeholder.names nameWrapper file

/-- The names that are found in each of the files. -/
def Finds (config : WrapperConfig) (read : Reading) (files : List String)
    (found : List (List String)) : Prop :=
  ∃ nameWrapper, config.forNames = .ok nameWrapper ∧
    List.Forall₂ (IsFoundIn config nameWrapper read) files found

theorem Finds.length_eq (h : Finds config read files found) : files.length = found.length := by
  obtain ⟨_, _, hfound⟩ := h
  exact hfound.length_eq

theorem namesIn_eq_ok_iff :
    (namesIn config nameWrapper read file).outcome = .ok names ↔
      IsFoundIn config nameWrapper read file names := by
  rw [namesIn, IsFoundIn]
  cases config.forContent file with
  | error e => simp [Traced.fail]
  | ok wrapper =>
    cases read file with
    | error e => simp [Traced.fail]
    | ok text => cases text <;> simp [Placeholder.names_empty, eq_comm]

theorem namesInAll_eq_ok_iff :
    (namesInAll config nameWrapper read files).outcome = .ok found ↔
      List.Forall₂ (IsFoundIn config nameWrapper read) files found := by
  induction files generalizing found with
  | nil => cases found <;> simp [namesInAll, Traced.ok]
  | cons file files ih =>
    rw [namesInAll]
    constructor
    · intro h
      obtain ⟨names, hnames, h⟩ := Traced.outcome_bind_eq_ok_iff.1 h
      obtain ⟨rest, hrest, h⟩ := Traced.outcome_bind_eq_ok_iff.1 h
      cases h
      exact .cons (namesIn_eq_ok_iff.1 hnames) (ih.1 hrest)
    · rintro (_ | ⟨hnames, hrest⟩)
      exact Traced.outcome_bind_eq_ok_iff.2 ⟨_, namesIn_eq_ok_iff.2 hnames,
        Traced.outcome_bind_eq_ok_iff.2 ⟨_, ih.2 hrest, rfl⟩⟩

/-- What keeps the names in the files from being found. -/
inductive Hinders (config : WrapperConfig) (read : Reading) (files : List String) :
    CatalogueError → Prop where
  /-- The wrapper of file names has no halves. -/
  | nameWrapper {e : WrapperError} (h : config.forNames = .error e) :
    Hinders config read files (.wrapper e)
  /-- The wrapper of the content of a file has no halves. -/
  | contentWrapper {file : String} {e : WrapperError} (hfile : file ∈ files)
    (h : config.forContent file = .error e) : Hinders config read files (.wrapper e)
  /-- The path of a file holds the null character. -/
  | nullCharacter {file : String} {e : NullCharacter} (hfile : file ∈ files)
    (h : read file = .error e) : Hinders config read files (.nullCharacter e)

theorem Hinders.cons (h : Hinders config read files e) :
    Hinders config read (file :: files) e := by
  cases h with
  | nameWrapper h => exact .nameWrapper h
  | contentWrapper hfile h => exact .contentWrapper (List.mem_cons_of_mem _ hfile) h
  | nullCharacter hfile h => exact .nullCharacter (List.mem_cons_of_mem _ hfile) h

theorem hinders_of_namesIn (hfile : file ∈ files)
    (h : (namesIn config nameWrapper read file).outcome = .error e) :
    Hinders config read files e := by
  rw [namesIn] at h
  split at h
  · next hwrapper =>
    cases h
    exact .contentWrapper hfile hwrapper
  · next hread =>
    cases h
    exact .nullCharacter hfile hread
  · cases h

theorem hinders_of_namesInAll
    (h : (namesInAll config nameWrapper read files).outcome = .error e) :
    Hinders config read files e := by
  induction files with
  | nil => cases h
  | cons file files ih =>
    rw [namesInAll] at h
    rcases Traced.outcome_bind_eq_error_iff.1 h with h | ⟨names, -, h⟩
    · exact hinders_of_namesIn List.mem_cons_self h
    · rcases Traced.outcome_bind_eq_error_iff.1 h with h | ⟨rest, -, h⟩
      · exact (ih h).cons
      · cases h

/-- The names in the files are found, or what keeps them from being found is told. -/
theorem exists_finds_or_hinders :
    (∃ found, Finds config read files found) ∨
      ∃ e, Hinders config read files e ∧ (extract config read files).outcome = .error e := by
  rw [extract]
  cases hnames : config.forNames with
  | error e => exact .inr ⟨.wrapper e, .nameWrapper hnames, rfl⟩
  | ok nameWrapper =>
    cases hall : (namesInAll config nameWrapper read files).outcome with
    | error e =>
      exact .inr ⟨e, hinders_of_namesInAll hall, Traced.outcome_bind_eq_error_iff.2 (.inl hall)⟩
    | ok found => exact .inl ⟨found, nameWrapper, hnames, namesInAll_eq_ok_iff.1 hall⟩

theorem not_hinders_of_finds (h : Finds config read files found) :
    ¬ Hinders config read files e := by
  obtain ⟨nameWrapper, hnames, hfound⟩ := h
  have hreads : ∀ file ∈ files, ∃ names, IsFoundIn config nameWrapper read file names := by
    induction hfound with
    | nil => exact fun _ hfile ↦ absurd hfile List.not_mem_nil
    | cons hfirst _ ih => exact List.forall_mem_cons.2 ⟨⟨_, hfirst⟩, ih⟩
  intro hhinders
  cases hhinders with
  | nameWrapper h => cases hnames.symm.trans h
  | contentWrapper hfile h =>
    obtain ⟨-, wrapper, text, hwrapper, -⟩ := hreads _ hfile
    cases hwrapper.symm.trans h
  | nullCharacter hfile h =>
    obtain ⟨-, wrapper, text, -, hread, -⟩ := hreads _ hfile
    cases hread.symm.trans h

/-! ## Bad names -/

/-- All names that are found are variable names. -/
def AreValid (found : List (List String)) : Prop :=
  ∀ names ∈ found, ∀ name ∈ names, VariableName.fault? name = none

/-- The placeholders of the files, with their files, as they are found. -/
def occurrences (files : List String) (found : List (List String)) : List (String × String) :=
  (files.zip found).flatMap fun (file, names) ↦ names.map (Prod.mk file)

/-- `bad` tells of each placeholder that has no variable name, in the order in which they are found,
and what is wrong with it. -/
structure Reports (files : List String) (found : List (List String)) (bad : List BadPlaceholder) :
    Prop where
  /-- There is one report for each of them. -/
  occurrences_eq : (bad.map fun b ↦ (b.file, b.name)) =
    (occurrences files found).filter fun (_, name) ↦ (VariableName.fault? name).isSome
  /-- The fault is that of the name. -/
  fault_eq : ∀ b ∈ bad, VariableName.fault? b.name = some b.fault

/-- The placeholders of the files that have no variable names. -/
def badPlaceholders (files : List String) (found : List (List String)) : List BadPlaceholder :=
  (files.zip found).flatMap fun (file, names) ↦ badNames file names

theorem map_badNames (file : String) (names : List String) :
    ((badNames file names).map fun b ↦ (b.file, b.name)) =
      (names.map (Prod.mk file)).filter fun (_, name) ↦ (VariableName.fault? name).isSome := by
  induction names with
  | nil => rfl
  | cons name names ih =>
    rw [badNames] at ih
    rw [badNames, List.map_cons]
    cases hfault : VariableName.fault? name with
    | none =>
      rw [List.filterMap_cons_none (by rw [hfault]; rfl),
        List.filter_cons_of_neg (by simp [hfault]), ih]
    | some fault =>
      rw [List.filterMap_cons_some (by rw [hfault]; rfl),
        List.filter_cons_of_pos (by simp [hfault]), List.map_cons, ih]

theorem reports_badPlaceholders : Reports files found (badPlaceholders files found) := by
  refine ⟨?_, fun b hb ↦ ?_⟩
  · rw [badPlaceholders, occurrences, List.map_flatMap, List.filter_flatMap]
    exact List.flatMap_congr fun entry _ ↦ map_badNames entry.1 entry.2
  · obtain ⟨⟨file, names⟩, -, hb⟩ := List.mem_flatMap.1 hb
    obtain ⟨name, -, hname⟩ := List.mem_filterMap.1 hb
    obtain ⟨fault, hfault, rfl⟩ := Option.map_eq_some_iff.1 hname
    exact hfault

theorem badPlaceholders_eq_nil_iff (hlength : files.length = found.length) :
    badPlaceholders files found = [] ↔ AreValid found := by
  have hfound : (files.zip found).map Prod.snd = found := List.map_snd_zip hlength.ge
  rw [badPlaceholders, List.flatMap_eq_nil_iff]
  constructor
  · intro h names hmem name hname
    rw [← hfound] at hmem
    obtain ⟨⟨file, names⟩, hzip, rfl⟩ := List.mem_map.1 hmem
    simpa using List.filterMap_eq_nil_iff.1 (h _ hzip) name hname
  · rintro h ⟨file, names⟩ hzip
    refine List.filterMap_eq_nil_iff.2 fun name hname ↦ ?_
    rw [h names (List.of_mem_zip hzip).2 name hname]
    rfl

theorem extract_of_finds (h : Finds config read files found) :
    (extract config read files).outcome =
      if badPlaceholders files found = [] then .ok (ofNames found)
      else .error (.badPlaceholders (badPlaceholders files found)) := by
  obtain ⟨nameWrapper, hnames, hfound⟩ := h
  rw [extract, hnames]
  dsimp only
  rw [Traced.outcome_andThen, namesInAll_eq_ok_iff.2 hfound]
  dsimp only [Except.bind]
  split
  · next hnil => exact (if_pos hnil).symm
  · next hne => exact (if_neg hne).symm

/-! ## The index -/

theorem validNames_eq (h : ∀ name ∈ names, VariableName.fault? name = none) :
    validNames names = names.eraseDups := by
  rw [validNames, List.filter_eq_self.2]
  intro name hmem
  rw [h name hmem]
  rfl

theorem ascending_ofNames :
    ((ofNames found).fileVariables.map Prod.fst).Pairwise (· < ·) := by
  have hsublist : ((ofNames found).fileVariables.map Prod.fst).Sublist
      (List.range' 0 found.length) := by
    rw [← List.zipIdx_map_snd]
    refine ((List.filter_sublist).map Prod.fst).trans ?_
    rw [List.map_map]
    exact .refl _
  exact List.Pairwise.sublist hsublist List.pairwise_lt_range'

theorem lookup_ofNames {index : ℕ} {own : List String} :
    (ofNames found).fileVariables.lookup index = some own ↔
      ∃ names, found[index]? = some names ∧ validNames names = own ∧ own ≠ [] := by
  have hnodup : ((ofNames found).fileVariables.map Prod.fst).Nodup := ascending_ofNames.imp ne_of_lt
  rw [lookup_eq_some_iff_mem hnodup, ofNames, List.mem_filter, List.mem_map]
  constructor
  · rintro ⟨⟨⟨names, number⟩, hmem, heq⟩, hne⟩
    obtain ⟨rfl, rfl⟩ := Prod.mk.inj heq
    exact ⟨names, List.mem_zipIdx_iff_getElem?.1 hmem, rfl, by simpa using hne⟩
  · rintro ⟨names, hget, rfl, hne⟩
    exact ⟨⟨(names, index), List.mem_zipIdx_iff_getElem?.2 hget, rfl⟩, by simpa using hne⟩

theorem variablesOf_ofNames {index : ℕ} (h : found[index]? = some names) :
    (ofNames found).variablesOf index = validNames names := by
  rw [variablesOf]
  cases hlookup : (ofNames found).fileVariables.lookup index with
  | some own =>
    obtain ⟨names', hnames, rfl, -⟩ := lookup_ofNames.1 hlookup
    cases h.symm.trans hnames
    rfl
  | none =>
    by_contra hne
    cases hlookup.symm.trans (lookup_ofNames.2 ⟨names, h, rfl, Ne.symm hne⟩)

/-- The catalogue lists the names that are found in the files. -/
structure Indexes (found : List (List String)) (c : Catalogue) : Prop where
  /-- The entries are in the order of the files. -/
  ascending : (c.fileVariables.map Prod.fst).Pairwise (· < ·)
  /-- A file has an entry if names are found in it, and the entry has these names. -/
  lookup_eq_some_iff : ∀ index own, c.fileVariables.lookup index = some own ↔
    ∃ names, found[index]? = some names ∧ names ≠ [] ∧ IsFirstSeen names own
  /-- All names are those of the entries. -/
  isFirstSeen : IsFirstSeen (c.fileVariables.flatMap Prod.snd) c.names

/-- The entries of the files that are selected. -/
def entriesOf (c : Catalogue) (files selected : List String) : List (ℕ × List String) :=
  c.fileVariables.filter fun (index, _) ↦ files[index]?.any selected.contains

/-- Files without names do not matter where the names of files are put together. -/
theorem flatMap_filter_filter (entries : List (ℕ × List String)) (p : ℕ × List String → Bool) :
    ((entries.filter fun (_, names) ↦ !names.isEmpty).filter p).flatMap Prod.snd =
      entries.flatMap fun entry ↦ if p entry then entry.2 else [] := by
  induction entries with
  | nil => rfl
  | cons entry entries ih =>
    obtain ⟨index, names⟩ := entry
    rw [List.flatMap_cons, ← ih]
    cases names with
    | nil => simp
    | cons name names => by_cases hp : p (index, name :: names) <;> simp [hp]

theorem flatMap_filter_ofNames (p : ℕ × List String → Bool) :
    ((ofNames found).fileVariables.filter p).flatMap Prod.snd =
      found.zipIdx.flatMap fun (names, index) ↦
        if p (index, validNames names) then validNames names else [] := by
  rw [ofNames, flatMap_filter_filter, List.flatMap_map]

theorem flatMap_entriesOf (hlength : files.length = found.length) :
    ((ofNames found).entriesOf files selected).flatMap Prod.snd =
      files.zipIdx.flatMap fun (file, index) ↦
        if selected.contains file then (ofNames found).variablesOf index else [] := by
  rw [entriesOf, flatMap_filter_ofNames, List.flatMap_def, List.flatMap_def]
  refine congrArg List.flatten (List.ext_getElem (by simp [hlength]) ?_)
  intro index hleft hright
  have hfile : index < files.length := by simpa using hright
  have hfound : index < found.length := by simpa using hleft
  simp only [List.getElem_map, List.getElem_zipIdx, Nat.zero_add, List.getElem?_eq_getElem hfile,
    Option.any_some, variablesOf_ofNames (List.getElem?_eq_getElem hfound)]

theorem entriesOf_self (hlength : files.length = found.length) :
    (ofNames found).entriesOf files files = (ofNames found).fileVariables := by
  refine List.filter_eq_self.2 ?_
  intro entry hentry
  obtain ⟨⟨names, index⟩, hmem, rfl⟩ := List.mem_map.1 (List.mem_of_mem_filter hentry)
  have hfile : index < files.length := by
    rw [hlength]
    exact (List.getElem?_eq_some_iff.1 (List.mem_zipIdx_iff_getElem?.1 hmem)).1
  simp [List.getElem?_eq_getElem hfile]

theorem isFirstSeen_needed (hlength : files.length = found.length) (selected : List String) :
    IsFirstSeen (((ofNames found).entriesOf files selected).flatMap Prod.snd)
      (Resolution.needed (ofNames found) files selected) := by
  rw [flatMap_entriesOf hlength]
  exact isFirstSeen_eraseDups _

theorem isFirstSeen_names :
    IsFirstSeen ((ofNames found).fileVariables.flatMap Prod.snd) (ofNames found).names := by
  have hall : (ofNames found).fileVariables.flatMap Prod.snd = found.flatMap validNames := by
    calc (ofNames found).fileVariables.flatMap Prod.snd
        = found.zipIdx.flatMap fun (names, _) ↦ validNames names := by
          rw [← List.filter_true (ofNames found).fileVariables, flatMap_filter_ofNames]
          rfl
      _ = (found.zipIdx.map Prod.fst).flatMap validNames := by rw [List.flatMap_map]
      _ = found.flatMap validNames := by rw [List.zipIdx_map_fst]
  rw [hall]
  exact isFirstSeen_eraseDups _

theorem indexes_ofNames (h : AreValid found) : Indexes found (ofNames found) := by
  refine ⟨ascending_ofNames, fun index own ↦ ?_, isFirstSeen_names⟩
  rw [lookup_ofNames]
  refine exists_congr fun names ↦ and_congr_right fun hnames ↦ ?_
  rw [validNames_eq (h names (List.mem_of_getElem? hnames))]
  have hseen : IsFirstSeen names names.eraseDups := isFirstSeen_eraseDups names
  constructor
  · rintro ⟨rfl, hne⟩
    exact ⟨mt hseen.eq_nil_iff.2 hne, hseen⟩
  · rintro ⟨hne, hown⟩
    exact ⟨hseen.unique hown, mt hown.eq_nil_iff.1 hne⟩

/-- If nothing hinders the names in the files from being found, then either some of them are no
variable names, and these are reported, or the catalogue lists them, for all files and for each, and
a selection of files needs the names in its entries. -/
theorem extract_coherent (config : WrapperConfig) (read : Reading) (files : List String) :
    (∃ e, Hinders config read files e ∧ (extract config read files).outcome = .error e) ∨
      (¬ ∃ e, Hinders config read files e) ∧ ∃ found, Finds config read files found ∧
        ((¬ AreValid found ∧
            ∃ bad, (extract config read files).outcome = .error (.badPlaceholders bad) ∧
              Reports files found bad) ∨
          (AreValid found ∧
            ∃ c, (extract config read files).outcome = .ok c ∧ Indexes found c ∧
              Resolution.needed c files files = c.names ∧
              ∀ selected, IsFirstSeen ((c.entriesOf files selected).flatMap Prod.snd)
                (Resolution.needed c files selected))) := by
  rcases @exists_finds_or_hinders config read files with ⟨found, hfound⟩ | hhinders
  · refine .inr ⟨fun ⟨_, hhinders⟩ ↦ not_hinders_of_finds hfound hhinders, found, hfound, ?_⟩
    have hlength : files.length = found.length := hfound.length_eq
    rw [extract_of_finds hfound]
    by_cases hvalid : AreValid found
    · rw [if_pos ((badPlaceholders_eq_nil_iff hlength).2 hvalid)]
      refine .inr ⟨hvalid, ofNames found, rfl, indexes_ofNames hvalid, ?_,
        isFirstSeen_needed hlength⟩
      have hneeded := isFirstSeen_needed hlength files
      rw [entriesOf_self hlength] at hneeded
      exact hneeded.unique isFirstSeen_names
    · rw [if_neg (mt (badPlaceholders_eq_nil_iff hlength).1 hvalid)]
      exact .inl ⟨hvalid, badPlaceholders files found, rfl, reports_badPlaceholders⟩
  · exact .inl hhinders

/-- A file with a placeholder in its text and one in its path, and a file with neither. -/
example : (extract .empty (fun file ↦ .ok (if file = "notes" then none else some "___name___"))
    ["___title___.md", "notes"]).outcome = .ok ⟨["name", "title"], [(0, ["name", "title"])]⟩ := rfl

/-- Where a wrapper has no halves or a path holds the null character, there is neither a report on
bad names nor a catalogue. -/
theorem extract_hindered :
    (WrapperConfig.forContent ⟨some "abc", none, []⟩ "a.txt" = .ok ⟨"___", "___"⟩ ∧
      Placeholder.names ⟨"___", "___"⟩ "___x___" = ["x"] ∧
      VariableName.fault? "x" = some .tooShort ∧
      (extract ⟨some "abc", none, []⟩ (fun _ ↦ .ok (some "___x___")) ["a.txt"]).outcome =
        .error (.wrapper ⟨"abc"⟩)) ∧
    Placeholder.names ⟨"___", "___"⟩ "a\x00b" = [] ∧
      (extract .empty (FileTree.readText .empty ⟨[]⟩) ["a\x00b"]).outcome =
        .error (.nullCharacter .mk) := by
  refine ⟨⟨rfl, rfl, rfl, rfl⟩, rfl, rfl⟩

end Catalogue

end Scaffold
