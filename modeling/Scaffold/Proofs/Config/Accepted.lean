import Mathlib
import Scaffold.Proofs.Config.Report
import Scaffold.Proofs.Dependency.CyclePath

/-!
# What an accepted configuration says

A check that meets no problem keeps what is written, and only what is fit for use: a wrapper that
has two halves, a transform that can be read together with the variables that it refers to, a
default that is a text or the text of a number. What an accepted configuration holds is thus told by
what is written, in each part by a relation between the two, and the checks are shown to keep to
these relations as long as they have no problem to report.
-/

namespace Scaffold

open Document

/-- A text is put together from two halves. -/
structure Wrapper.IsHalved (text : String) (w : Wrapper) : Prop where
  /-- Splitting the text gives the halves. -/
  split : Wrapper.split text = .ok w
  /-- The first half is not empty. -/
  opening_ne : w.opening ≠ ""
  /-- The second half is not empty. -/
  closing_ne : w.closing ≠ ""
  /-- The halves have one length. -/
  length_eq : w.opening.length = w.closing.length
  /-- The halves are all of the text. -/
  append_eq : w.opening ++ w.closing = text

theorem Wrapper.isHalved_of_split {text : String} {w : Wrapper} (h : Wrapper.split text = .ok w) :
    w.IsHalved text := by
  have hsplit := h
  unfold Wrapper.split at h
  simp only at h
  split at h
  · cases h
  · next hgood =>
    rw [Bool.or_eq_true, not_or, List.isEmpty_iff, decide_eq_true_eq, not_not] at hgood
    obtain ⟨hne, heven⟩ := hgood
    have hpos : 0 < text.toList.length := List.length_pos_iff.2 hne
    have hopening : (text.toList.take (text.toList.length / 2)).length =
        text.toList.length / 2 := by
      rw [List.length_take]
      omega
    have hclosing : (text.toList.drop (text.toList.length / 2)).length =
        text.toList.length / 2 := by
      rw [List.length_drop]
      omega
    cases h
    refine ⟨hsplit, ?_, ?_, ?_, ?_⟩
    · rw [Ne, ← String.toList_inj, String.toList_ofList]
      exact List.ne_nil_of_length_pos (by omega)
    · rw [Ne, ← String.toList_inj, String.toList_ofList]
      exact List.ne_nil_of_length_pos (by omega)
    · rw [String.length_ofList, String.length_ofList, hopening, hclosing]
    · rw [← String.ofList_append, List.take_append_drop, String.ofList_toList]

namespace Config

/-- What is written for a wrapper, and the wrapper that is taken from it. -/
inductive WrapperOf : Option Value → Option String → Prop where
  /-- There is none. -/
  | absent : WrapperOf none none
  /-- It is left open. -/
  | null : WrapperOf (some .null) none
  /-- It is a text with two halves. -/
  | text {text : String} (w : Wrapper) (h : w.IsHalved text) :
    WrapperOf (some (.text text)) (some text)

/-- What is written for a transform, the transform that is taken from it and the variables that it
depends on. -/
inductive TransformOf : Option Value → Option String → List String → Prop where
  /-- There is none, and nothing to depend on. -/
  | absent : TransformOf none none []
  /-- It is left open. -/
  | null : TransformOf (some .null) none []
  /-- It is an expression. -/
  | text {text : String} {names : List String} (e : Expr) (hne : text ≠ "")
    (hparse : Expr.parse text = .ok e) (hrelated : Expr.relatedVariables text = .ok names) :
    TransformOf (some (.text text)) (some text) names

theorem WrapperOf.exists_isHalved {value : Option Value} {text : String}
    (h : WrapperOf value (some text)) : ∃ w : Wrapper, w.IsHalved text := by
  cases h with
  | text w h => exact ⟨w, h⟩

theorem TransformOf.of_some {value : Option Value} {text : String} {names : List String}
    (h : TransformOf value (some text) names) :
    (∃ e, Expr.parse text = .ok e) ∧ Expr.relatedVariables text = .ok names := by
  cases h with
  | text e _ hparse hrelated => exact ⟨⟨e, hparse⟩, hrelated⟩

/-- What is written for a default, and the default that is taken from it. -/
inductive DefaultOf : Option Value → Option String → Prop where
  /-- There is none. -/
  | absent : DefaultOf none none
  /-- It is left open. -/
  | null : DefaultOf (some .null) none
  /-- It is a text. -/
  | text (text : String) : DefaultOf (some (.text text)) (some text)
  /-- It is a whole number, which is taken as it is shown. -/
  | integer (n : ℤ) : DefaultOf (some (.integer n)) (some (Value.integer n).shown)
  /-- It is a floating-point number, which is taken as it is shown. -/
  | real (x : Float) : DefaultOf (some (.real x)) (some (Value.real x).shown)

/-- What is written for a definition under a key, and the entry that is taken from it. -/
structure EntryOf (key : Value) (fields : List (Value × Value)) (entry : Key × Definition) :
    Prop where
  /-- The entry is that of the key. -/
  key : entry.1 = keyOf key
  /-- The transform and the dependencies are those of what is written. -/
  transform :
    TransformOf (Value.field? "transform" fields) entry.2.transform entry.2.dependencies
  /-- The default is that of what is written. -/
  default : DefaultOf (Value.field? "default" fields) entry.2.default

/-- What is written for the files with an ending, and the wrapper that is taken from it. -/
structure OverrideOf (fields : List (Value × Value)) (override : ExtensionWrapper) : Prop where
  /-- The ending is a text. -/
  extension : Value.field? "extension" fields = some (.text override.extension)
  /-- The wrapper is that of what is written. -/
  wrapper : WrapperOf (Value.field? "wrapper" fields) (some override.wrapper)

/-! ## Checks without a problem -/

theorem wrapperOf_of_checkWrapper {field : String} {value : Option Value} {wrapper : Option String}
    (h : checkWrapper field value = (wrapper, [])) : WrapperOf value wrapper := by
  unfold checkWrapper at h
  split at h
  · split at h
    · next w hsplit =>
      cases h
      exact .text w (Wrapper.isHalved_of_split hsplit)
    · cases h
  · cases h
    exact .absent
  · cases h
    exact .null
  · cases h

/-- A wrapper that is kept has no problem. -/
theorem checkWrapper_of_some {field text : String} {value : Option Value}
    {problems : List Problem} (h : checkWrapper field value = (some text, problems)) :
    problems = [] := by
  unfold checkWrapper at h
  split at h
  · split at h
    · cases h
      rfl
    · cases h
  all_goals cases h

theorem field?_of_extensionOf? {fields : List (Value × Value)} {ending : String}
    (h : extensionOf? fields = some ending) :
    Value.field? "extension" fields = some (.text ending) := by
  unfold extensionOf? at h
  split at h
  · next hfield =>
    split at h
    · cases h
    · cases h
      exact hfield
  · cases h

theorem overrideOf_of_checkOverride {index : ℕ} {value : Value} {override : ExtensionWrapper}
    (h : (checkOverride index value).1 = some override) :
    ∃ fields, value = .mapping fields ∧ OverrideOf fields override := by
  unfold checkOverride at h
  split at h
  · next fields =>
    split at h
    · cases h
    · next ending hending =>
      simp only at h
      -- where the wrapper is left open the entry is passed over, so that a kept one has a text
      split at h
      · next text problems hcheck =>
        obtain rfl := checkWrapper_of_some hcheck
        cases h
        exact ⟨fields, rfl, field?_of_extensionOf? hending, wrapperOf_of_checkWrapper hcheck⟩
      · cases h
  · cases h

theorem overrideOf_of_mem_checkOverrides {value : Option Value} {override : ExtensionWrapper}
    (h : override ∈ (checkOverrides value).1) :
    ∃ items fields, value = some (.list items) ∧ .mapping fields ∈ items ∧
      OverrideOf fields override := by
  unfold checkOverrides at h
  split at h
  · cases h
  · next items =>
    obtain ⟨checked, hchecked, hfst⟩ := List.mem_filterMap.1 h
    obtain ⟨⟨item, index⟩, hitem, rfl⟩ := List.mem_map.1 hchecked
    obtain ⟨fields, rfl, hfields⟩ := overrideOf_of_checkOverride hfst
    exact ⟨items, fields, rfl, List.mem_of_getElem? (List.mem_zipIdx_iff_getElem?.1 hitem), hfields⟩
  all_goals cases h

theorem transformOf_of_checkTransform {place : String} {value : Option Value}
    {transform : Option (String × List String)}
    (h : checkTransform place value = (transform, [])) :
    TransformOf value (transform.map Prod.fst) ((transform.map Prod.snd).getD []) := by
  unfold checkTransform at h
  split at h
  · cases h
    exact .absent
  · cases h
    exact .null
  · next text =>
    split at h
    · cases h
    · next hempty =>
      split at h
      · next names hnames =>
        cases h
        obtain ⟨e, hparse, -⟩ := Expr.relatedVariables_eq_ok_iff.1 hnames
        exact .text e (mt String.isEmpty_iff.2 hempty) hparse hnames
      · cases h
  · cases h

theorem defaultOf_of_checkDefault {place : String} {value : Option Value} {default : Option String}
    (h : checkDefault place value = (default, [])) : DefaultOf value default := by
  unfold checkDefault at h
  split at h
  · cases h
    exact .absent
  · cases h
    exact .null
  · cases h
    exact .text _
  · cases h
    exact .integer _
  · cases h
    exact .real _
  · cases h

theorem entryOf_of_checkEntry {key value : Value} {entry : Key × Definition}
    (h : checkEntry key value = (some entry, [])) :
    ∃ fields, value = .mapping fields ∧ EntryOf key fields entry := by
  unfold checkEntry at h
  split at h
  · cases h
  · next fields _ =>
    obtain ⟨hentry, hproblems⟩ := Prod.mk.inj h
    obtain rfl := Option.some.inj hentry
    simp only [List.append_eq_nil_iff] at hproblems
    obtain ⟨⟨⟨-, htransform⟩, -⟩, hdefault⟩ := hproblems
    exact ⟨fields, rfl, rfl, transformOf_of_checkTransform (Prod.ext rfl htransform),
      defaultOf_of_checkDefault (Prod.ext rfl hdefault)⟩
  · cases h

theorem entryOf_of_mem_checkTable {value : Option Value} {entry : Key × Definition}
    (hproblems : (checkTable value).2 = []) (h : entry ∈ (checkTable value).1.entries) :
    ∃ table key fields, value = some (.mapping table) ∧ (key, .mapping fields) ∈ table ∧
      EntryOf key fields entry := by
  unfold checkTable at h hproblems
  split at h
  · cases h
  · next table =>
    obtain ⟨checked, hchecked, hfst⟩ := List.mem_filterMap.1 h
    have hsnd : checked.2 = [] := List.flatMap_eq_nil_iff.1 hproblems checked hchecked
    obtain ⟨⟨key, value⟩, hwritten, rfl⟩ := List.mem_map.1 hchecked
    obtain ⟨fields, rfl, hfields⟩ := entryOf_of_checkEntry (Prod.ext hfst hsnd)
    exact ⟨table, key, fields, rfl, hwritten, hfields⟩
  · cases h

/-! ## Accepted configurations -/

/-- What is accepted has no problem, and the configuration is what the checks keep. -/
theorem exists_of_ofValue_eq_ok {source : Option String} {value : Value} {config : Config}
    (h : ofValue source value = .ok config) :
    ∃ entries, value = .mapping entries ∧ problemsOf entries = [] ∧
      config.wrappers = (checkWrappers entries).1 ∧
      config.table = (checkTable (Value.field? "variableTransform" entries)).1 := by
  cases value with
  | mapping entries =>
    have hshown : ¬(shownValues entries).any isUnwritableNumber = true := by
      intro hshown
      cases h.symm.trans (ofValue_eq_unwritable_iff.2 hshown)
    by_cases hproblems : problemsOf entries = []
    · rw [ofValue_of_problemsOf_eq_nil hshown hproblems] at h
      split at h
      · cases h
      · cases h
        exact ⟨entries, rfl, hproblems, rfl, rfl⟩
    · rw [ofValue_of_problemsOf_ne_nil hshown hproblems] at h
      cases h
  | _ => cases h

/-- What an accepted configuration holds is what is written, and fit for use: each definition has a
transform that can be read, with the variables that it refers to, or none; no variable depends on
itself; and each wrapper has two halves. -/
theorem ofValue_accepts {source : Option String} {value : Value} {config : Config}
    (h : ofValue source value = .ok config) :
    ∃ entries, value = .mapping entries ∧
      (∀ entry ∈ config.table.entries, ∃ table key fields,
        Value.field? "variableTransform" entries = some (.mapping table) ∧
        (key, .mapping fields) ∈ table ∧ EntryOf key fields entry) ∧
      (∀ key, ¬Relation.TransGen (Dependency.Below config.table.keyDependencies) key key) ∧
      WrapperOf (Value.field? "fileNameVariableWrapper" entries) config.wrappers.fileName ∧
      WrapperOf (Value.field? "variableWrapper" entries) config.wrappers.content ∧
      ∀ override ∈ config.wrappers.extensions, ∃ items fields,
        Value.field? "variableWrappers" entries = some (.list items) ∧
        .mapping fields ∈ items ∧ OverrideOf fields override := by
  have hacyclic := (isSound_of_ofValue h).acyclic
  obtain ⟨entries, rfl, hproblems, hwrappers, htable⟩ := exists_of_ofValue_eq_ok h
  simp only [problemsOf, checkWrappers, List.append_eq_nil_iff] at hproblems
  obtain ⟨⟨-, ⟨hfileName, hcontent⟩, -⟩, htableproblems⟩ := hproblems
  refine ⟨entries, rfl, ?_, ?_, ?_, ?_, ?_⟩
  · rw [htable]
    exact fun entry ↦ entryOf_of_mem_checkTable htableproblems
  · exact fun key ↦ Dependency.not_transGen_of_acc
      (Dependency.acc_of_findCycle (fun _ ↦ Table.keyDependencies_eq_nil) hacyclic key)
  · rw [hwrappers]
    exact wrapperOf_of_checkWrapper (Prod.ext rfl hfileName)
  · rw [hwrappers]
    exact wrapperOf_of_checkWrapper (Prod.ext rfl hcontent)
  · rw [hwrappers]
    exact fun override ↦ overrideOf_of_mem_checkOverrides

/-- A configuration as it is written, with the table of a title and a slug. -/
def slugEntries : List (Value × Value) :=
  [(.text "variableWrapper", .text "<<>>"),
    (.text "variableWrappers", .list
      [.mapping [(.text "extension", .text ".md"), (.text "wrapper", .text "[[]]")]]),
    (.text "variableTransform", .mapping
      [(.text "title", .mapping [(.text "default", .text "Web App")]),
        (.text "slug", .mapping [(.text "transform", .text "lowerCase(title)")])])]

theorem ofValue_slugEntries :
    ofValue none (.mapping slugEntries) =
      .ok ⟨none, ⟨none, some "<<>>", [⟨"[[]]", ".md"⟩]⟩, Resolution.slugTable, none⟩ := by
  have htable : checkTable (Value.field? "variableTransform" slugEntries) =
      (Resolution.slugTable, []) := by
    have hfield : Value.field? "variableTransform" slugEntries = some (.mapping
        [(.text "title", .mapping [(.text "default", .text "Web App")]),
          (.text "slug", .mapping [(.text "transform", .text "lowerCase(title)")])]) := rfl
    rw [hfield, checkTable]
    simp only [List.map_cons, List.map_nil, checkEntry_of_fault? (.text "slug") (by decide),
      checkDefinition_lowerCase_title]
    rfl
  have hshown : (shownValues slugEntries).any isUnwritableNumber = false := rfl
  have hproblems : problemsOf slugEntries = [] := by
    rw [problemsOf, htable]
    rfl
  rw [ofValue_of_problemsOf_eq_nil (by rw [hshown]; exact Bool.false_ne_true) hproblems, htable]
  rfl

/-- The slug of an accepted table is made by an expression that can be read, and the wrappers have
two halves. -/
theorem ofValue_accepts_slugEntries :
    ofValue none (.mapping slugEntries) =
        .ok ⟨none, ⟨none, some "<<>>", [⟨"[[]]", ".md"⟩]⟩, Resolution.slugTable, none⟩ ∧
      (∃ e, Expr.parse "lowerCase(title)" = .ok e) ∧
      Expr.relatedVariables "lowerCase(title)" = .ok ["title"] ∧
      (∀ key, ¬Relation.TransGen (Dependency.Below Resolution.slugTable.keyDependencies) key key) ∧
      (∃ w : Wrapper, w.IsHalved "<<>>") ∧ ∃ w : Wrapper, w.IsHalved "[[]]" := by
  obtain ⟨entries, -, htable, hacyclic, -, hcontent, hextensions⟩ :=
    ofValue_accepts ofValue_slugEntries
  obtain ⟨_, _, _, -, -, hslug⟩ := htable
    (.ofName "slug", ⟨some "lowerCase(title)", false, none, ["title"]⟩)
    (List.mem_cons_of_mem _ List.mem_cons_self)
  obtain ⟨_, _, -, -, hextension⟩ := hextensions ⟨"[[]]", ".md"⟩ List.mem_cons_self
  obtain ⟨hparse, hrelated⟩ := hslug.transform.of_some
  exact ⟨ofValue_slugEntries, hparse, hrelated, hacyclic, hcontent.exists_isHalved,
    hextension.wrapper.exists_isHalved⟩

end Config

end Scaffold
