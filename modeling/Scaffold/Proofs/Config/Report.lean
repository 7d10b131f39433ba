import Mathlib
import Scaffold.Proofs.Config.Sound
import Scaffold.Proofs.Resolution.Fixpoint

/-!
# What is reported of a configuration

Each check of a configuration looks at one field, or at each of the keys. So the problems of a
configuration are, up to their order, the problems of its fields taken one at a time, and none of
them hides another. There are two exceptions. Whether a variable depends on itself is asked only if
there is no other problem, so that this problem is hidden by any other. And if a number has to be
shown that has too many digits, there is no report at all; this too is decided by the fields one at
a time.
-/

namespace Scaffold

open Document

/-! ## Fields one at a time -/

namespace Document.Value

variable {β : Type} {entries : List (Value × Value)}

/-- No text is a key twice. -/
def HasDistinctFields (entries : List (Value × Value)) : Prop :=
  entries.Pairwise fun a b ↦ ∀ name, a.1 = .text name → b.1 ≠ .text name

theorem fst_of_mem_setEntry {key value : Value} {entry : Value × Value}
    (h : entry ∈ setEntry key value entries) :
    entry.1 = key ∨ ∃ old ∈ entries, entry.1 = old.1 := by
  induction entries with
  | nil =>
    rw [setEntry, List.mem_singleton] at h
    exact .inl (congrArg Prod.fst h)
  | cons first rest ih =>
    rw [setEntry] at h
    split at h
    · rcases List.mem_cons.1 h with rfl | h
      · exact .inr ⟨first, List.mem_cons_self, rfl⟩
      · exact .inr ⟨entry, List.mem_cons_of_mem _ h, rfl⟩
    · rcases List.mem_cons.1 h with rfl | h
      · exact .inr ⟨first, List.mem_cons_self, rfl⟩
      · refine (ih h).imp_right ?_
        rintro ⟨old, hold, heq⟩
        exact ⟨old, List.mem_cons_of_mem _ hold, heq⟩

theorem HasDistinctFields.setEntry {key value : Value} (h : HasDistinctFields entries) :
    HasDistinctFields (setEntry key value entries) := by
  induction entries with
  | nil => exact List.pairwise_singleton _ _
  | cons first rest ih =>
    obtain ⟨hfirst, hrest⟩ := List.pairwise_cons.1 h
    rw [Value.setEntry]
    split
    · exact List.pairwise_cons.2 ⟨hfirst, hrest⟩
    -- the new key comes after all others, and is none of them
    · next hkey =>
      refine List.pairwise_cons.2 ⟨fun entry hentry name hname ↦ ?_, ih hrest⟩
      rcases fst_of_mem_setEntry hentry with heq | ⟨old, hold, heq⟩
      · intro htext
        rw [hname, ← heq, htext, sameKey, beq_self_eq_true] at hkey
        exact hkey rfl
      · rw [heq]
        exact hfirst old hold name hname

/-- The mappings that are read have no text as a key twice. -/
theorem exists_hasDistinctFields_ofEntries (written : List (Value × Value)) :
    ∃ entries, ofEntries written = .mapping entries ∧ HasDistinctFields entries := by
  refine ⟨_, rfl, ?_⟩
  exact List.foldlRecOn written _ List.Pairwise.nil fun _ h _ _ ↦ HasDistinctFields.setEntry h

theorem field?_cons_of_eq {name : String} {entry : Value × Value} (h : entry.1 = .text name) :
    field? name (entry :: entries) = some entry.2 := by
  obtain ⟨key, value⟩ := entry
  obtain rfl : key = .text name := h
  rw [field?, if_pos rfl]

theorem field?_cons_of_ne {name : String} {entry : Value × Value} (h : entry.1 ≠ .text name) :
    field? name (entry :: entries) = field? name entries := by
  obtain ⟨key, value⟩ := entry
  cases key with
  | text other =>
    rw [field?, if_neg]
    exact fun heq ↦ h (congrArg Value.text heq)
  | _ => rfl

/-- What is reported of several fields is, up to order, what is reported of each of them. -/
def IsUnion (report : List (Value × Value) → List β) (entries : List (Value × Value)) : Prop :=
  (report entries).Perm (entries.flatMap fun entry ↦ report [entry])

theorem IsUnion.eq_nil_iff {report : List (Value × Value) → List β} (h : IsUnion report entries) :
    report entries = [] ↔ ∀ entry ∈ entries, report [entry] = [] := by
  rw [← List.flatMap_eq_nil_iff]
  have hperm : (report entries).Perm _ := h
  constructor
  · intro hnil
    rw [hnil] at hperm
    exact hperm.nil_eq.symm
  · intro hnil
    rw [hnil] at hperm
    exact hperm.eq_nil

theorem IsUnion.append {report report' : List (Value × Value) → List β}
    (h : IsUnion report entries) (h' : IsUnion report' entries) :
    IsUnion (fun entries ↦ report entries ++ report' entries) entries :=
  (List.Perm.append h h').trans (List.flatMap_append_perm _ _ _)

/-- What is reported of the field with a given name, and nothing if there is none. -/
theorem isUnion_field? (report : Option Value → List β) (hnone : report none = [])
    (h : HasDistinctFields entries) (name : String) :
    IsUnion (fun entries ↦ report (field? name entries)) entries := by
  -- the field stands in one entry at most, and the others count for nothing
  have hall : report (field? name entries) =
      entries.flatMap fun entry ↦ report (field? name [entry]) := by
    induction entries with
    | nil => exact hnone
    | cons entry rest ih =>
      obtain ⟨hentry, hrest⟩ := List.pairwise_cons.1 h
      rw [List.flatMap_cons]
      by_cases hname : entry.1 = .text name
      · have hothers : rest.flatMap (fun other ↦ report (field? name [other])) = [] := by
          refine List.flatMap_eq_nil_iff.2 fun other hother ↦ ?_
          rw [field?_cons_of_ne (hentry other hother name hname)]
          exact hnone
        rw [field?_cons_of_eq hname, field?_cons_of_eq hname, hothers, List.append_nil]
      · rw [field?_cons_of_ne hname, field?_cons_of_ne hname, ih hrest]
        exact (congrArg (· ++ _) hnone).symm
  exact .of_eq hall

theorem IsUnion.map {γ : Type} {report : List (Value × Value) → List β}
    (h : IsUnion report entries) (f : β → γ) :
    IsUnion (fun entries ↦ (report entries).map f) entries := by
  have hmap := List.Perm.map f h
  rwa [List.map_flatMap] at hmap

end Document.Value

open Value (HasDistinctFields IsUnion isUnion_field?)

/-! ## Circles -/

namespace Problem

/-- The problem is that a variable depends on itself. -/
def isCircular (p : Problem) : Bool :=
  match p.fault with
  | .circular _ => true
  | _ => false

/-- None of the problems is that a variable depends on itself. -/
def ArePlain (problems : List Problem) : Prop := ∀ p ∈ problems, p.isCircular = false

@[simp] theorem arePlain_nil : ArePlain [] := fun _ hp ↦ absurd hp List.not_mem_nil

@[simp] theorem arePlain_singleton {p : Problem} : ArePlain [p] ↔ p.isCircular = false :=
  List.forall_mem_singleton

@[simp] theorem arePlain_append {problems problems' : List Problem} :
    ArePlain (problems ++ problems') ↔ ArePlain problems ∧ ArePlain problems' :=
  List.forall_mem_append

/-- What is left of problems when one that is a circle counts only if there is no other. -/
def settle (problems : List Problem) : List Problem :=
  match problems.filter (!·.isCircular) with
  | [] => problems
  | others => others

theorem settle_of_filter_eq_nil {problems : List Problem}
    (h : problems.filter (!·.isCircular) = []) : settle problems = problems := by
  rw [settle, h]

theorem settle_of_filter_ne_nil {problems : List Problem}
    (h : problems.filter (!·.isCircular) ≠ []) :
    settle problems = problems.filter (!·.isCircular) := by
  rw [settle]
  split
  · next hnil => exact absurd hnil h
  · rfl

end Problem

namespace Config

open Problem (ArePlain settle)

variable {entries : List (Value × Value)}

theorem arePlain_unknownFields (known : List String) (place : String) :
    ArePlain (unknownFields known place entries) := by
  intro p hp
  obtain ⟨key, -, rfl⟩ := List.mem_map.1 hp
  rfl

theorem arePlain_checkName (value : Option Value) : ArePlain (checkName value).2 := by
  unfold checkName
  split <;> simp [Problem.isCircular]

theorem arePlain_checkWrapper (field : String) (value : Option Value) :
    ArePlain (checkWrapper field value).2 := by
  unfold checkWrapper
  split
  · split <;> simp [Problem.isCircular]
  all_goals simp [Problem.isCircular]

theorem arePlain_checkOverride (index : ℕ) (value : Value) :
    ArePlain (checkOverride index value).2 := by
  unfold checkOverride
  split
  · next entries =>
    have hplain := arePlain_checkWrapper (overrideField index ++ ".wrapper")
      (Value.field? "wrapper" entries)
    split
    · simp [Problem.isCircular]
    · simp only
      split
      · next hcheck => rwa [hcheck] at hplain
      · next hcheck =>
        rw [hcheck] at hplain
        split <;> simp [Problem.isCircular, hplain]
  · simp [Problem.isCircular]

theorem arePlain_checkOverrides (value : Option Value) : ArePlain (checkOverrides value).2 := by
  unfold checkOverrides
  split
  · simp
  · intro p hp
    obtain ⟨checked, hchecked, hp⟩ := List.mem_flatMap.1 hp
    obtain ⟨⟨item, index⟩, -, rfl⟩ := List.mem_map.1 hchecked
    exact arePlain_checkOverride index item p hp
  · intro p hp
    obtain ⟨_, -, rfl⟩ := List.mem_map.1 hp
    rfl
  · simp [Problem.isCircular]

theorem arePlain_checkTransform (place : String) (value : Option Value) :
    ArePlain (checkTransform place value).2 := by
  unfold checkTransform
  split
  · simp
  · simp
  · split
    · simp [Problem.isCircular]
    · split <;> simp [Problem.isCircular]
  · simp [Problem.isCircular]

theorem arePlain_checkSkip (place : String) (value : Option Value) :
    ArePlain (checkSkip place value).2 := by
  unfold checkSkip
  split <;> simp [Problem.isCircular]

theorem arePlain_checkDefault (place : String) (value : Option Value) :
    ArePlain (checkDefault place value).2 := by
  unfold checkDefault
  split <;> simp [Problem.isCircular]

theorem arePlain_checkEntry (key value : Value) : ArePlain (checkEntry key value).2 := by
  unfold checkEntry
  split
  · simp [Problem.isCircular]
  · simp [checkDefinition, arePlain_unknownFields, arePlain_checkTransform, arePlain_checkSkip,
      arePlain_checkDefault]
  · simp [Problem.isCircular]

theorem arePlain_checkTable (value : Option Value) : ArePlain (checkTable value).2 := by
  unfold checkTable
  split
  · simp
  · intro p hp
    obtain ⟨checked, hchecked, hp⟩ := List.mem_flatMap.1 hp
    obtain ⟨⟨key, value⟩, -, rfl⟩ := List.mem_map.1 hchecked
    exact arePlain_checkEntry key value p hp
  · simp [Problem.isCircular]

/-! ## Checks -/

/-- The problems of all checks but the last, which looks for a circle. -/
def problemsOf (entries : List (Value × Value)) : List Problem :=
  unknownFields fields "" entries ++ (checkName (Value.field? "name" entries)).2 ++
    (checkWrappers entries).2 ++ (checkTable (Value.field? "variableTransform" entries)).2

/-- The problem that the last check finds, as a list. -/
def circularityOf (entries : List (Value × Value)) : List Problem :=
  (checkTable (Value.field? "variableTransform" entries)).1.problem?.toList

theorem arePlain_problemsOf : ArePlain (problemsOf entries) := by
  simp [problemsOf, checkWrappers, arePlain_unknownFields, arePlain_checkName,
    arePlain_checkWrapper, arePlain_checkOverrides, arePlain_checkTable]

theorem isCircular_of_mem_circularityOf {p : Problem} (h : p ∈ circularityOf entries) :
    p.isCircular = true := by
  obtain ⟨path, -, rfl⟩ := Option.map_eq_some_iff.1 (Option.mem_toList.1 h)
  rfl

theorem isUnion_unknownKeys (known : List String) : IsUnion (unknownKeys known) entries := by
  refine .of_eq ?_
  induction entries with
  | nil => rfl
  | cons entry rest ih =>
    rw [List.flatMap_cons, ← ih, unknownKeys, unknownKeys, unknownKeys, ← List.filter_append,
      ← List.map_append, List.singleton_append]

theorem isUnion_unknownFields (known : List String) (place : String) :
    IsUnion (unknownFields known place) entries :=
  (isUnion_unknownKeys known).map fun key : Value ↦ (⟨.unknownField key.shown, place⟩ : Problem)

theorem isUnion_checkWrappers (h : HasDistinctFields entries) :
    IsUnion (fun entries ↦ (checkWrappers entries).2) entries := by
  have hfileName := isUnion_field?
    (fun value ↦ (checkWrapper "fileNameVariableWrapper" value).2) rfl h "fileNameVariableWrapper"
  have hcontent := isUnion_field?
    (fun value ↦ (checkWrapper "variableWrapper" value).2) rfl h "variableWrapper"
  have hextensions := isUnion_field? (fun value ↦ (checkOverrides value).2) rfl h
    "variableWrappers"
  exact (hfileName.append hcontent).append hextensions

theorem isUnion_problemsOf (h : HasDistinctFields entries) : IsUnion problemsOf entries := by
  have hname := isUnion_field? (fun value ↦ (checkName value).2) rfl h "name"
  have htable := isUnion_field? (fun value ↦ (checkTable value).2) rfl h "variableTransform"
  exact (((isUnion_unknownFields fields "").append hname).append
    (isUnion_checkWrappers h)).append htable

theorem isUnion_circularityOf (h : HasDistinctFields entries) : IsUnion circularityOf entries :=
  isUnion_field? (fun value ↦ (checkTable value).1.problem?.toList) rfl h
    "variableTransform"

/-- The values of the table that have to be shown. -/
def shownInTable : Option Value → List Value
  | some (.mapping table) => table.flatMap fun (key, value) ↦ shownInEntry key value
  | _ => []

theorem isUnion_shownValues (h : HasDistinctFields entries) : IsUnion shownValues entries :=
  (isUnion_unknownKeys fields).append
    (isUnion_field? shownInTable rfl h "variableTransform")

/-! ## Reports -/

/-- The problems that are reported of a value. -/
def reported (source : Option String) (value : Value) : List Problem :=
  match ofValue source value with
  | .error (.invalid problems) => problems
  | _ => []

variable {source : Option String}

theorem ofValue_eq_unwritable_iff :
    ofValue source (.mapping entries) = .error .unwritable ↔
      (shownValues entries).any isUnwritableNumber = true := by
  constructor
  · intro h
    by_contra hshown
    unfold ofValue at h
    simp only [if_neg hshown] at h
    split at h
    · split at h
      · cases h
      · cases h
    · cases h
  · intro h
    rw [ofValue, if_pos h]

/-- Any problem keeps the last check from being made. -/
theorem ofValue_of_problemsOf_ne_nil (hshown : ¬(shownValues entries).any isUnwritableNumber = true)
    (h : problemsOf entries ≠ []) :
    ofValue source (.mapping entries) = .error (.invalid (problemsOf entries)) := by
  unfold ofValue
  simp only [if_neg hshown]
  split
  · next hnil => exact absurd hnil h
  · rfl

/-- The last check is made when there is no problem before it. -/
theorem ofValue_of_problemsOf_eq_nil (hshown : ¬(shownValues entries).any isUnwritableNumber = true)
    (h : problemsOf entries = []) :
    ofValue source (.mapping entries) =
      match (checkTable (Value.field? "variableTransform" entries)).1.problem? with
      | some problem => .error (.invalid [problem])
      | none => .ok ⟨(checkName (Value.field? "name" entries)).1, (checkWrappers entries).1,
          (checkTable (Value.field? "variableTransform" entries)).1, source⟩ := by
  unfold ofValue
  simp only [if_neg hshown]
  split
  · rfl
  · next hne => exact absurd h (hne ·)

theorem reported_mapping (h : ofValue source (.mapping entries) ≠ .error .unwritable) :
    reported source (.mapping entries) =
      if problemsOf entries = [] then circularityOf entries else problemsOf entries := by
  have hshown := mt ofValue_eq_unwritable_iff.2 h
  rw [reported]
  split_ifs with hnil
  · rw [ofValue_of_problemsOf_eq_nil hshown hnil, circularityOf]
    cases (checkTable (Value.field? "variableTransform" entries)).1.problem? <;> rfl
  · rw [ofValue_of_problemsOf_ne_nil hshown hnil]

theorem filter_reported (h : ofValue source (.mapping entries) ≠ .error .unwritable) :
    (reported source (.mapping entries)).filter (!·.isCircular) = problemsOf entries := by
  rw [reported_mapping h]
  split
  · next hnil =>
    rw [hnil, List.filter_eq_nil_iff]
    intro p hp
    rw [isCircular_of_mem_circularityOf hp]
    simp
  · rw [List.filter_eq_self]
    intro p hp
    rw [arePlain_problemsOf p hp]
    rfl

theorem ofValue_eq_unwritable_iff_exists (h : HasDistinctFields entries) :
    ofValue source (.mapping entries) = .error .unwritable ↔
      ∃ entry ∈ entries, ofValue source (.mapping [entry]) = .error .unwritable := by
  simp only [ofValue_eq_unwritable_iff]
  rw [(isUnion_shownValues h).any_eq, List.any_flatMap, List.any_eq_true]

/-- Nothing is reported just of what is accepted. -/
theorem exists_ofValue_eq_ok_iff (h : ofValue source (.mapping entries) ≠ .error .unwritable) :
    (∃ config, ofValue source (.mapping entries) = .ok config) ↔
      reported source (.mapping entries) = [] := by
  constructor
  · rintro ⟨config, hconfig⟩
    rw [reported, hconfig]
  · intro hnone
    rw [reported_mapping h] at hnone
    split_ifs at hnone with hnil
    · rw [circularityOf, Option.toList_eq_nil_iff] at hnone
      rw [ofValue_of_problemsOf_eq_nil (mt ofValue_eq_unwritable_iff.2 h) hnil, hnone]
      exact ⟨_, rfl⟩
    · exact absurd hnone hnil

/-- There is no report just if there is none for one of the fields alone. Otherwise what is reported
is, up to order, what is reported for each field alone, but that a circle is reported only when
nothing else is; and what has nothing reported of it is accepted. -/
theorem reported_perm (h : HasDistinctFields entries) :
    (ofValue source (.mapping entries) = .error .unwritable ↔
        ∃ entry ∈ entries, ofValue source (.mapping [entry]) = .error .unwritable) ∧
      (ofValue source (.mapping entries) ≠ .error .unwritable →
        (reported source (.mapping entries)).Perm
            (settle (entries.flatMap fun entry ↦ reported source (.mapping [entry]))) ∧
          ((∃ config, ofValue source (.mapping entries) = .ok config) ↔
            reported source (.mapping entries) = [])) := by
  refine ⟨ofValue_eq_unwritable_iff_exists h,
    fun hshown ↦ ⟨?_, exists_ofValue_eq_ok_iff hshown⟩⟩
  have hsingle : ∀ entry ∈ entries, ofValue source (.mapping [entry]) ≠ .error .unwritable := by
    intro entry hentry hunwritable
    exact hshown ((ofValue_eq_unwritable_iff_exists h).2 ⟨entry, hentry, hunwritable⟩)
  have hproblems := isUnion_problemsOf h
  have hothers : (entries.flatMap fun entry ↦ reported source (.mapping [entry])).filter
      (!·.isCircular) = entries.flatMap fun entry ↦ problemsOf [entry] := by
    rw [List.filter_flatMap]
    exact List.flatMap_congr fun entry hentry ↦ filter_reported (hsingle entry hentry)
  rw [reported_mapping hshown]
  split_ifs with hnil
  -- no field has a problem of its own, so that all that is reported of any is a circle
  · have hnone := hproblems.eq_nil_iff.1 hnil
    rw [Problem.settle_of_filter_eq_nil (hothers.trans (List.flatMap_eq_nil_iff.2 hnone))]
    refine (isUnion_circularityOf h).trans (.of_eq ?_)
    refine List.flatMap_congr fun entry hentry ↦ ?_
    rw [reported_mapping (hsingle entry hentry), if_pos (hnone entry hentry)]
  -- some field has one, and the circles that are reported of fields alone are dropped
  · rw [Problem.settle_of_filter_ne_nil, hothers]
    · exact hproblems
    · rw [hothers]
      exact mt (hproblems.eq_nil_iff.2 ∘ List.flatMap_eq_nil_iff.1) hnil

/-! ## A title that is made from itself -/

/-- A table with a title that is made from itself. -/
def loopField : Value × Value :=
  (.text "variableTransform", .mapping
    [(.text "title", .mapping [(.text "transform", .text "lowerCase(title)")])])

/-- A field that no configuration has. -/
def oddField : Value × Value := (.text "odd", .truth true)

theorem checkDefinition_lowerCase_title (place : String) :
    checkDefinition place [(.text "transform", .text "lowerCase(title)")] =
      (⟨some "lowerCase(title)", false, none, ["title"]⟩, []) := by
  have hfield : Value.field? "transform" [(.text "transform", .text "lowerCase(title)")] =
      some (.text "lowerCase(title)") := rfl
  have hrelated : Expr.relatedVariables "lowerCase(title)" = .ok ["title"] :=
    Expr.relatedVariables_eq_ok_iff.2 ⟨_, Resolution.parse_lowerCase_title, rfl⟩
  rw [checkDefinition, hfield, checkTransform, if_neg (by decide), hrelated]
  rfl

theorem checkEntry_of_fault? (key : Value) {written : List (Value × Value)}
    (h : VariableName.fault? key.shown = none) :
    checkEntry key (.mapping written) =
      (some (keyOf key, (checkDefinition (tablePlace key) written).1),
        (checkDefinition (tablePlace key) written).2) := by
  unfold checkEntry
  simp only [h]

theorem checkTable_loopField :
    checkTable (some loopField.2) =
      (⟨[(.ofName "title", ⟨some "lowerCase(title)", false, none, ["title"]⟩)]⟩, []) := by
  rw [loopField, checkTable]
  simp only [List.map_cons, List.map_nil, checkEntry_of_fault? (.text "title") (by decide),
    checkDefinition_lowerCase_title]
  rfl

theorem hasDistinctFields_loopField : HasDistinctFields [loopField, oddField] := by
  refine List.pairwise_pair.2 fun name hname htext ↦ ?_
  exact absurd (hname.trans htext.symm) (by simp [loopField, oddField])

theorem ofValue_ne_unwritable_loopField :
    ofValue none (.mapping [loopField, oddField]) ≠ .error .unwritable := by
  have hshown : (shownValues [loopField, oddField]).any isUnwritableNumber = false := rfl
  rw [Ne, ofValue_eq_unwritable_iff, hshown]
  exact Bool.false_ne_true

theorem reported_loopField :
    reported none (.mapping [loopField]) =
      [⟨.circular [.ofName "title", .ofName "title"], "variableTransform"⟩] := by
  have hshown : (shownValues [loopField]).any isUnwritableNumber = false := rfl
  have htable : Value.field? "variableTransform" [loopField] = some loopField.2 := rfl
  have hproblems : problemsOf [loopField] = [] := by
    rw [problemsOf, htable, checkTable_loopField]
    rfl
  rw [reported_mapping (by rw [Ne, ofValue_eq_unwritable_iff, hshown]; simp), if_pos hproblems,
    circularityOf, htable, checkTable_loopField]
  rfl

theorem reported_oddField : reported none (.mapping [oddField]) = [⟨.unknownField "odd", ""⟩] :=
  rfl

theorem reported_loopField_oddField :
    reported none (.mapping [loopField, oddField]) = [⟨.unknownField "odd", ""⟩] := by
  have htable : Value.field? "variableTransform" [loopField, oddField] = some loopField.2 := rfl
  have hproblems : problemsOf [loopField, oddField] = [⟨.unknownField "odd", ""⟩] := by
    rw [problemsOf, htable, checkTable_loopField]
    rfl
  rw [reported_mapping ofValue_ne_unwritable_loopField, if_neg (by simp [hproblems]), hproblems]

/-- A key that has too many digits to be shown. -/
def longField : Value × Value := (.integer (Nat.pow 10 Text.Numeral.digitLimit), .null)

theorem any_isUnwritableNumber_longField :
    (shownValues [longField]).any isUnwritableNumber = true := by
  have hshown : shownValues [longField] = [longField.1] := rfl
  rw [hshown, List.any_cons, List.any_nil, Bool.or_false, longField, isUnwritableNumber,
    Value.isUnwritable, decide_eq_true_eq, Int.natAbs_natCast]

theorem hasDistinctFields_longField : HasDistinctFields [longField, oddField] :=
  List.pairwise_pair.2 fun name hname ↦ by cases hname

theorem ofValue_longField : ofValue none (.mapping [longField, oddField]) = .error .unwritable :=
  (ofValue_eq_unwritable_iff_exists hasDistinctFields_longField).2
    ⟨longField, List.mem_cons_self,
      ofValue_eq_unwritable_iff.2 any_isUnwritableNumber_longField⟩

/-- Any other problem hides that a variable depends on itself, and a number that has too many digits
to be shown hides all problems. -/
theorem reported_hidden :
    (HasDistinctFields [loopField, oddField] ∧
      ¬(reported none (.mapping [loopField, oddField])).Perm
        ([loopField, oddField].flatMap fun entry ↦ reported none (.mapping [entry]))) ∧
    HasDistinctFields [longField, oddField] ∧
      ¬(reported none (.mapping [longField, oddField])).Perm
        ([longField, oddField].flatMap fun entry ↦ reported none (.mapping [entry])) := by
  refine ⟨⟨hasDistinctFields_loopField, fun hperm ↦ ?_⟩, hasDistinctFields_longField,
    fun hperm ↦ ?_⟩
  · rw [reported_loopField_oddField, List.flatMap_cons, List.flatMap_cons, List.flatMap_nil,
      reported_loopField, reported_oddField] at hperm
    exact absurd hperm.length_eq (by decide)
  · have hnone : reported none (.mapping [longField, oddField]) = [] := by
      rw [reported, ofValue_longField]
    have hodd : ⟨.unknownField "odd", ""⟩ ∈ reported none (.mapping [longField, oddField]) :=
      hperm.mem_iff.2 (List.mem_flatMap.2 ⟨oddField, by simp, by simp [reported_oddField]⟩)
    rw [hnone] at hodd
    cases hodd

theorem reported_perm_loopField :
    HasDistinctFields [loopField, oddField] ∧
      ofValue none (.mapping [loopField, oddField]) ≠ .error .unwritable ∧
      (reported none (.mapping [loopField, oddField])).Perm
        (settle [⟨.circular [.ofName "title", .ofName "title"], "variableTransform"⟩,
          ⟨.unknownField "odd", ""⟩]) := by
  have hperm :=
    ((reported_perm hasDistinctFields_loopField).2 ofValue_ne_unwritable_loopField).1
  rw [List.flatMap_cons, List.flatMap_cons, List.flatMap_nil, reported_loopField,
    reported_oddField] at hperm
  exact ⟨hasDistinctFields_loopField, ofValue_ne_unwritable_loopField, hperm⟩

end Config

end Scaffold
