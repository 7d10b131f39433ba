import Mathlib
import Scaffold.Proofs.Resolution.Prompts

/-!
# Variables that nobody gives a value

When nobody is asked, each question that a person would be asked about a leaf is answered by what is
offered. The pass over the leaves is then known exactly: it ends, all the questions that offer
nothing are reported, and what has been evaluated are the transforms of leaves, which refer to no
variable. That these have values is all that has to be assumed. Resolving fails for want of values
right after this pass or not at all.
-/

namespace Scaffold

/-! ## Transforms that refer to no variable -/

/-- What is noted while the offer for a leaf is found: its transform is evaluated if there is no
default. -/
def Definition.leafNotes (d : Definition) : List TransformNote :=
  match d.default?, d.transform? with
  | none, some expression => (evaluate expression fun _ ↦ none).trace
  | _, _ => []

/-- The transform has a value that is found without variables, if it is evaluated for an offer. -/
def Definition.HasConstant (d : Definition) : Prop :=
  d.default? = none → d.transform?.isSome = true → d.constant?.isSome = true

/-- The transforms of leaves have values, as far as they are evaluated. -/
def Table.HasConstants (t : Table) : Prop :=
  ∀ name d, t.find? name = some d → d.isLeaf = true → d.default? = none →
    d.transform?.isSome = true → d.constant?.isSome = true

theorem Definition.outcome_of_constant? {d : Definition} {text value : String}
    (htext : d.transform? = some text) (h : d.constant? = some value) :
    (evaluate text fun _ ↦ none).outcome = .ok value := by
  rw [constant?, htext, Option.bind_some] at h
  cases hout : (evaluate text fun _ ↦ none).outcome with
  | error e =>
    rw [hout] at h
    cases h
  | ok found =>
    rw [hout] at h
    rw [Option.some.inj h]

/-- Only the expression itself is noted with its value. -/
theorem eq_of_result_mem_trace {text expression value : String} {σ : String → Option String}
    (h : .result expression value ∈ (evaluate text σ).trace) : expression = text := by
  rw [evaluate] at h
  split at h
  · cases h
  · next e _ =>
    rw [Traced.andThen] at h
    split at h
    · rcases List.mem_append.1 h with hwarning | hresult
      · simp [Traced.mapNotes] at hwarning
      · cases List.mem_singleton.1 hresult
        rfl
    · simp [Traced.mapNotes] at h

/-- What is noted about the offer for a leaf refers to no variable. -/
theorem Definition.relatedVariables_of_mem_leafNotes {d : Definition} {expression value : String}
    (hd : d.IsFaithful) (hleaf : d.isLeaf = true) (h : .result expression value ∈ d.leafNotes) :
    Expr.relatedVariables expression = .ok [] := by
  rw [leafNotes] at h
  split at h
  · next text _ htext =>
    obtain rfl := eq_of_result_mem_trace h
    rw [← d.dependencies_eq_nil_of_isLeaf hd hleaf]
    exact d.relatedVariables_of_isFaithful hd htext
  · cases h

namespace Resolution

variable {catalogue : Catalogue} {supplied : String → Option String} {files selected : List String}
  {table : Table} {prompter : Prompter} {c c' d : Conversation} {name : String}
  {names : List String} {values : Values}

/-! ## The pass over the leaves -/

theorem report_nil (c : Conversation) : c.report [] = c := by
  rw [Conversation.report, List.append_nil]

theorem report_append (c : Conversation) (events more : List Event) :
    (c.report events).report more = c.report (events ++ more) := by
  simp only [Conversation.report, List.append_assoc]

/-- What is noted while the offer for a leaf is found. -/
def notesFor (table : Table) (name : String) : List TransformNote :=
  ((table.find? name).map Definition.leafNotes).getD []

theorem yields_leafOffer_nobody (hfaithful : table.IsFaithful)
    (hconstant : ∀ d, table.find? name = some d → d.HasConstant)
    (hleaf : isDerived table name = false) :
    Yields (leafOffer (table.find? name) values) c (suggestion (table.find? name))
      (c.report ((notesFor table name).map .transform)) := by
  rw [notesFor]
  cases hfind : table.find? name with
  | none => exact yields_pure.2 ⟨rfl, (report_nil c).symm⟩
  | some d =>
    have hd : d.IsFaithful := hfaithful name d hfind
    have hisLeaf : d.isLeaf = true := isLeaf_of_find? hleaf hfind
    rw [suggestion, Option.bind_some, Option.map_some, Option.getD_some, Definition.leafNotes]
    simp only [leafOffer]
    cases hdefault : d.default? with
    | some value =>
      refine yields_pure.2 ⟨(Option.filter_eq_some_iff.1 hdefault).1, ?_⟩
      exact (report_nil c).symm
    | none =>
      cases htransform : d.transform? with
      | none =>
        refine yields_pure.2 ⟨?_, (report_nil c).symm⟩
        rw [Definition.constant?, htransform]
        rfl
      | some text =>
        have hsome : d.constant?.isSome = true :=
          hconstant d hfind hdefault (by rw [htransform]; rfl)
        obtain ⟨value, hvalue⟩ := Option.isSome_iff_exists.1 hsome
        have hout := d.outcome_of_constant? htransform hvalue
        rw [hvalue]
        refine yields_bind.2 ⟨value, _, ?_, yields_pure.2 ⟨rfl, rfl⟩⟩
        rw [Yields, run_compute, d.evaluate_of_isLeaf hd hisLeaf htransform, hout]
        rfl

/-- Nobody answers a question by what is offered. -/
theorem yields_leafValue_offer (hfaithful : table.IsFaithful)
    (hconstant : ∀ d, table.find? name = some d → d.HasConstant)
    (hleaf : isDerived table name = false) :
    Yields (leafValue .nobody name (table.find? name) values) c
      (Prompt.offer? ⟨name, suggestion (table.find? name)⟩)
      (c.report ((notesFor table name).map .transform)) :=
  yields_bind.2 ⟨_, _, yields_leafOffer_nobody hfaithful hconstant hleaf,
    yields_pure.2 ⟨rfl, rfl⟩⟩

theorem yields_resolveLeaves_cons_of {value : Option String} {rest : List String}
    {values' : Values} (hleaf : IsOpenLeaf table values name)
    (hvalue : Yields (leafValue prompter name (table.find? name) values) c value d)
    (hrest : Yields (resolveLeaves prompter table names (values.insert name value)) d
      (rest, values') c') :
    Yields (resolveLeaves prompter table (name :: names) values) c
      (if value.isNone then name :: rest else rest, values') c' := by
  rw [resolveLeaves, if_neg (mt not_isOpenLeaf_iff.2 (not_not.2 hleaf))]
  exact yields_bind.2 ⟨value, d, hvalue,
    yields_bind.2 ⟨(rest, values'), c', hrest, yields_pure.2 ⟨rfl, rfl⟩⟩⟩

/-- The variables for which nothing is offered. -/
def withoutOffer (questions : List Prompt) : List String :=
  (questions.filter fun p ↦ p.offer?.isNone).map Prompt.name

theorem withoutOffer_cons (p : Prompt) (questions : List Prompt) :
    withoutOffer (p :: questions) =
      if p.offer?.isNone then p.name :: withoutOffer questions else withoutOffer questions := by
  rw [withoutOffer, List.filter_cons, withoutOffer]
  split <;> rfl

/-- What is noted while nobody answers some questions. -/
def notesForAll (table : Table) (questions : List Prompt) : List TransformNote :=
  questions.flatMap fun p ↦ notesFor table p.name

/-- The pass over the leaves reports the questions that offer nothing. -/
theorem exists_yields_resolveLeaves_nobody (hfaithful : table.IsFaithful) (hnodup : names.Nodup)
    (hconstants : ∀ p ∈ leafQuestions table (valueOf values) names,
      ∀ d, table.find? p.name = some d → d.HasConstant) :
    ∃ values', Yields (resolveLeaves .nobody table names values) c
      (withoutOffer (leafQuestions table (valueOf values) names), values')
      (c.report ((notesForAll table (leafQuestions table (valueOf values) names)).map
        .transform)) := by
  induction names generalizing values c with
  | nil => exact ⟨values, yields_pure.2 ⟨rfl, (report_nil c).symm⟩⟩
  | cons name names ih =>
    obtain ⟨hname, hnodup⟩ := List.nodup_cons.1 hnodup
    rw [leafQuestions_cons] at hconstants ⊢
    by_cases hleaf : valueOf values name = none ∧ isDerived table name = false
    · rw [if_pos hleaf] at hconstants ⊢
      obtain ⟨hconstant, hconstants⟩ := List.forall_mem_cons.1 hconstants
      have hvalue : Yields (leafValue .nobody name (table.find? name) values) c _ _ :=
        yields_leafValue_offer hfaithful hconstant hleaf.2
      -- the value just given makes no difference to the questions for the others
      have hquestions : leafQuestions table (valueOf (values.insert name
          (Prompt.offer? ⟨name, suggestion (table.find? name)⟩))) names =
            leafQuestions table (valueOf values) names :=
        leafQuestions_congr (valueOf_insert_of_notMem hname)
      obtain ⟨values', hrest⟩ := ih hnodup (hquestions ▸ hconstants)
      rw [hquestions, report_append, ← List.map_append] at hrest
      rw [withoutOffer_cons]
      exact ⟨values', yields_resolveLeaves_cons_of hleaf hvalue hrest⟩
    · rw [if_neg hleaf] at hconstants ⊢
      rw [resolveLeaves_cons_of_not hleaf]
      exact ih hnodup hconstants

/-! ## Failing for want of values -/

/-- A required variable that nobody gives a value: it is not supplied, does not come from others,
and has neither a default nor a transform with a value, empty texts aside. -/
structure IsMissing (catalogue : Catalogue) (supplied : String → Option String)
    (files selected : List String) (table : Table) (name : String) : Prop where
  /-- It is required. -/
  required : Required catalogue supplied files selected table name
  /-- It is not supplied. -/
  notSupplied : supplied name = none
  /-- It does not come from others. -/
  isLeaf : isDerived table name = false
  /-- Its definition, if there is one, has no default that is not empty. -/
  noDefault : ∀ d, table.find? name = some d → d.default? = none
  /-- The transform of its definition, if there is one, has at most the empty value. -/
  noConstant : ∀ d, table.find? name = some d → ∀ text, d.constant? = some text → text = ""

theorem offer?_eq_none_iff :
    Prompt.offer? ⟨name, suggestion (table.find? name)⟩ = none ↔
      (∀ d, table.find? name = some d → d.default? = none) ∧
        ∀ d, table.find? name = some d → ∀ text, d.constant? = some text → text = "" := by
  rw [Prompt.offer?, suggestion]
  cases table.find? name with
  | none => simp
  | some d =>
    simp only [Option.bind_some, Option.some.injEq, forall_eq']
    cases hdefault : d.default? with
    | some value =>
      have hvalue : (!value.isEmpty) = true := (Option.filter_eq_some_iff.1 hdefault).2
      simpa [Option.filter_some] using hvalue
    | none =>
      cases hconstant : d.constant? with
      | some text => simp [Option.filter_some]
      | none => simpa [Definition.default?] using hdefault

theorem withoutOffer_leafQuestions {given : String → Option String} :
    withoutOffer (leafQuestions table given names) =
      ((unsupplied given names).filter fun name ↦ !isDerived table name).filter fun name ↦
        (Prompt.offer? ⟨name, suggestion (table.find? name)⟩).isNone := by
  rw [withoutOffer, leafQuestions, List.filter_map, List.map_map]
  exact List.map_id _

theorem mem_withoutOffer_iff :
    name ∈ withoutOffer (leafQuestions table supplied
        (start catalogue supplied files selected table).keys) ↔
      IsMissing catalogue supplied files selected table name := by
  rw [withoutOffer_leafQuestions, List.mem_filter, List.mem_filter, mem_unsupplied,
    mem_keys_start_iff, Bool.not_eq_true', Option.isNone_iff_eq_none, offer?_eq_none_iff]
  constructor
  · rintro ⟨⟨⟨hrequired, hnone⟩, hleaf⟩, hdefault, hconstant⟩
    exact ⟨hrequired, hnone, hleaf, hdefault, hconstant⟩
  · intro h
    exact ⟨⟨⟨h.required, h.notSupplied⟩, h.isLeaf⟩, h.noDefault, h.noConstant⟩

/-- Resolving ends with a report as soon as the leaves have been resolved and some have no value. -/
theorem run_resolve_of_unresolved {unresolved : List String} {leaves : Values}
    (h : Yields (resolveLeaves prompter table (start catalogue supplied files selected table).keys
      (start catalogue supplied files selected table)) c (unresolved, leaves) d)
    (hne : unresolved ≠ []) :
    (resolve prompter catalogue supplied files selected table).run.run c =
      (.error (.unresolved unresolved), d) := by
  rw [Yields] at h
  rw [resolve, run_bind, h]
  cases unresolved with
  | nil => exact absurd rfl hne
  | cons name rest => rfl

/-- Resolving does not fail for want of values when all leaves have one. -/
theorem not_fails_resolve_of_leaves {leaves : Values}
    (h : Yields (resolveLeaves prompter table (start catalogue supplied files selected table).keys
      (start catalogue supplied files selected table)) c ([], leaves) d) :
    ¬Fails (resolve prompter catalogue supplied files selected table) c (.unresolved names) := by
  intro hfails
  rcases fails_bind.1 hfails with hleaves | ⟨⟨unresolved, leaves'⟩, d', hleaves, hrest⟩
  · exact neverUnresolved_resolveLeaves _ _ _ _ _ _ hleaves
  · cases h.symm.trans hleaves
    exact neverUnresolved_computeRest prompter table leaves d names hrest

/-- Nobody is asked, and the questions that a person would be asked about the leaves tell how
resolving fails. -/
theorem run_resolve_nobody_iff (hfaithful : table.IsFaithful) (hconstants : table.HasConstants) :
    (resolve .nobody catalogue supplied files selected table).run.run c =
        (.error (.unresolved names), c') ↔
      names ≠ [] ∧
        names = withoutOffer (leafQuestions table supplied
          (start catalogue supplied files selected table).keys) ∧
        c' = c.report ((notesForAll table (leafQuestions table supplied
          (start catalogue supplied files selected table).keys)).map .transform) := by
  obtain ⟨leaves, hleaves⟩ : ∃ leaves, Yields (resolveLeaves .nobody table
      (start catalogue supplied files selected table).keys
      (start catalogue supplied files selected table)) c (_, leaves) _ :=
    exists_yields_resolveLeaves_nobody hfaithful (Bindings.nodup _) fun p hp d hfind ↦
      hconstants p.name d hfind (isLeaf_of_find?
        (mem_of_mem_leafQuestions (List.mem_map_of_mem hp)).2.2 hfind)
  rw [leafQuestions_congr fun name hname ↦ valueOf_start hname] at hleaves
  constructor
  · intro h
    by_cases hnone : withoutOffer (leafQuestions table supplied
        (start catalogue supplied files selected table).keys) = []
    · rw [hnone] at hleaves
      exact absurd (congrArg Prod.fst h) (not_fails_resolve_of_leaves hleaves)
    · cases h.symm.trans (run_resolve_of_unresolved hleaves hnone)
      exact ⟨hnone, rfl, rfl⟩
  · rintro ⟨hne, rfl, rfl⟩
    exact run_resolve_of_unresolved hleaves hne

theorem relatedVariables_of_mem_notesForAll {given : String → Option String}
    {expression value : String} (hfaithful : table.IsFaithful)
    (h : .result expression value ∈ notesForAll table (leafQuestions table given names)) :
    Expr.relatedVariables expression = .ok [] := by
  obtain ⟨p, hp, hnote⟩ := List.mem_flatMap.1 h
  have hleaf : isDerived table p.name = false :=
    (mem_of_mem_leafQuestions (List.mem_map_of_mem hp)).2.2
  rw [notesFor] at hnote
  cases hfind : table.find? p.name with
  | none =>
    rw [hfind] at hnote
    cases hnote
  | some d =>
    rw [hfind] at hnote
    exact d.relatedVariables_of_mem_leafNotes (hfaithful _ d hfind) (isLeaf_of_find? hleaf hfind)
      hnote

/-- Without anyone to ask, resolving fails for want of values just if a variable is missing. All the
missing variables are reported then, each once and in the order in which they are bound, and nothing
has happened but that transforms have been evaluated which refer to no variable. -/
theorem resolve_nobody_unresolved (hfaithful : table.IsFaithful)
    (hconstants : table.HasConstants) :
    ((∃ names, Fails (resolve .nobody catalogue supplied files selected table) c
        (.unresolved names)) ↔
      ∃ name, IsMissing catalogue supplied files selected table name) ∧
    ∀ names c', (resolve .nobody catalogue supplied files selected table).run.run c =
        (.error (.unresolved names), c') →
      (∃ found, IsBreadthFirst table.dependencies supplied (needed catalogue files selected) found ∧
        names.Sublist (needed catalogue files selected ++ found)) ∧
      names.Nodup ∧
      (∀ name, name ∈ names ↔ IsMissing catalogue supplied files selected table name) ∧
      ∃ notes : List TransformNote, c' = c.report (notes.map .transform) ∧
        ∀ expression value, .result expression value ∈ notes →
          Expr.relatedVariables expression = .ok [] := by
  constructor
  · constructor
    · rintro ⟨names, h⟩
      have hrun : (resolve .nobody catalogue supplied files selected table).run.run c =
          (.error (.unresolved names), _) := Prod.ext h rfl
      obtain ⟨hne, rfl, -⟩ := (run_resolve_nobody_iff hfaithful hconstants).1 hrun
      obtain ⟨name, hname⟩ := List.exists_mem_of_ne_nil _ hne
      exact ⟨name, mem_withoutOffer_iff.1 hname⟩
    · rintro ⟨name, hname⟩
      have hne := List.ne_nil_of_mem (mem_withoutOffer_iff.2 hname)
      have hrun := (run_resolve_nobody_iff (c := c) hfaithful hconstants).2 ⟨hne, rfl, rfl⟩
      exact ⟨_, congrArg Prod.fst hrun⟩
  · intro names c' h
    obtain ⟨-, rfl, rfl⟩ := (run_resolve_nobody_iff hfaithful hconstants).1 h
    obtain ⟨found, hkeys, hfound⟩ := exists_keys_start catalogue supplied files selected table
    have hsublist : (withoutOffer (leafQuestions table supplied
        (start catalogue supplied files selected table).keys)).Sublist
        (start catalogue supplied files selected table).keys := by
      rw [withoutOffer_leafQuestions]
      exact List.filter_sublist.trans (List.filter_sublist.trans List.filter_sublist)
    refine ⟨⟨found, hfound, hkeys ▸ hsublist⟩, (Bindings.nodup _).sublist hsublist,
      fun name ↦ mem_withoutOffer_iff, _, rfl, fun expression value hnote ↦ ?_⟩
    exact relatedVariables_of_mem_notesForAll hfaithful hnote

/-- A table with a slug that is made from a title, and a title that is empty. -/
def blankTable : Table where
  entries :=
    [(.ofName "title", ⟨some "''", false, none, []⟩),
      (.ofName "slug", ⟨some "lowerCase(title)", false, none, ["title"]⟩)]

theorem parse_blank : Expr.parse "''" = .ok (.literal "") := by
  have hstart : Expr.Parser.start "''".toList = .ok (.whole ⟨.literal "", [], by decide⟩) := rfl
  rw [Expr.parse, Expr.Parser.expression, hstart]
  rfl

theorem isFaithful_blankTable : blankTable.IsFaithful := by
  refine Table.isFaithful_of_forall_mem ?_
  simp only [blankTable, List.forall_mem_cons, List.not_mem_nil, false_implies, implies_true,
    and_true]
  exact ⟨Expr.relatedVariables_eq_ok_iff.2 ⟨_, parse_blank, rfl⟩,
    Expr.relatedVariables_eq_ok_iff.2 ⟨_, parse_lowerCase_title, rfl⟩⟩

theorem constant?_blank : Definition.constant? ⟨some "''", false, none, []⟩ = some "" := by
  have hvalue : (evaluate "''" fun _ ↦ none).outcome = .ok "" := by
    rw [evaluate, parse_blank]
    rfl
  rw [Definition.constant?]
  change (evaluate "''" fun _ ↦ none).outcome.toOption = some ""
  rw [hvalue]
  rfl

theorem hasConstants_blankTable : blankTable.HasConstants := by
  intro name d hfind hleaf _ _
  have hmem := Table.mem_entries_of_find? hfind
  simp only [blankTable, List.mem_cons, Prod.mk.injEq, List.not_mem_nil, or_false] at hmem
  rcases hmem with ⟨-, rfl⟩ | ⟨-, rfl⟩
  · rw [constant?_blank]
    rfl
  · cases hleaf

theorem isMissing_blankTable :
    IsMissing ⟨["slug"], [(0, ["slug"])]⟩ (fun _ ↦ none) ["file"] ["file"] blankTable "title" := by
  have hfind : blankTable.find? "title" = some ⟨some "''", false, none, []⟩ := rfl
  have hfile : ["file"][0]? = some "file" := rfl
  have hslug : Required ⟨["slug"], [(0, ["slug"])]⟩ (fun _ ↦ none) ["file"] ["file"] blankTable
      "slug" := .ofFile hfile List.mem_cons_self List.mem_cons_self
  refine ⟨.ofDependency hslug rfl List.mem_cons_self, rfl, rfl, fun d hd ↦ ?_,
    fun d hd text ht ↦ ?_⟩
  · cases hfind.symm.trans hd
    rfl
  · cases hfind.symm.trans hd
    exact (Option.some.inj (constant?_blank.symm.trans ht)).symm

/-- The title is missing, though it has a transform; the slug is not, though it cannot be made. -/
theorem resolve_nobody_unresolved_blankTable :
    ∃ names, Fails (resolve .nobody ⟨["slug"], [(0, ["slug"])]⟩ (fun _ ↦ none) ["file"] ["file"]
      blankTable) (.start []) (.unresolved names) ∧ "title" ∈ names ∧ "slug" ∉ names := by
  obtain ⟨names, hnames⟩ := (resolve_nobody_unresolved isFaithful_blankTable
    hasConstants_blankTable).1.2 ⟨"title", isMissing_blankTable⟩
  obtain ⟨-, -, hmem, -⟩ := (resolve_nobody_unresolved isFaithful_blankTable
    hasConstants_blankTable).2 names _ (Prod.ext hnames rfl)
  exact ⟨names, hnames, (hmem "title").2 isMissing_blankTable,
    fun hslug ↦ absurd ((hmem "slug").1 hslug).isLeaf (by decide)⟩

end Resolution

end Scaffold
