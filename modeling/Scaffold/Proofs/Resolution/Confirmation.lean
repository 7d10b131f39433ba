import Mathlib
import Scaffold.Proofs.Resolution.Prompts

/-!
# What confirming changes

Two runs in which a person gives the same answers for the variables that do not come from others
compute the same values, and so the same values are offered for confirmation. What is answered there
is neither offered nor computed from afterwards: the results of the two runs differ only in what has
been confirmed with different answers.

The phases are taken one by one. The leaves of the two runs are bound to the same values, as each of
them has the value of its round. Computing has no use for the conversation. Confirming puts its
questions for the values as they are computed, whatever has been answered before.
-/

namespace Scaffold.Resolution

variable {catalogue : Catalogue} {supplied : String → Option String} {files selected : List String}
  {table : Table} {c₁ c₁' c₂ c₂' : Conversation} {r₁ r₂ : List (String × String)}
  {values values₁ values₂ : Values}

/-! ## Rounds side by side -/

/-- Lists with the same images have them in the same places. -/
theorem eq_of_mem_zip {α β : Type} {f : α → β} {xs ys : List α} (h : xs.map f = ys.map f) :
    ∀ pair ∈ xs.zip ys, f pair.1 = f pair.2 := by
  have hlength : xs.length = ys.length := by simpa using congrArg List.length h
  refine List.map_inj_left.1 ?_
  calc (xs.zip ys).map (fun pair ↦ f pair.1)
      = ((xs.zip ys).map Prod.fst).map f := List.map_map.symm
    _ = ((xs.zip ys).map Prod.snd).map f := by
        rw [List.map_fst_zip hlength.le, List.map_snd_zip hlength.ge, h]
    _ = (xs.zip ys).map (fun pair ↦ f pair.2) := List.map_map

variable {questions : List Prompt} {rounds₁ rounds₂ : List Round}

theorem Round.value_congr {round round' : Round} (hprompt : round.prompt = round'.prompt)
    (hanswer : round.answer = round'.answer) : round.value = round'.value := by
  rw [Round.value, Round.value, hprompt, hanswer]

/-- A variable that is asked for has a round in both of two runs that put the same questions. -/
theorem Answers.exists_mem_zip (h₁ : Answers questions rounds₁ values values₁)
    (h₂ : Answers questions rounds₂ values values₂) {name : String}
    (hname : name ∈ questions.map Prompt.name) :
    ∃ round₁ round₂, (round₁, round₂) ∈ rounds₁.zip rounds₂ ∧ round₁.prompt = round₂.prompt ∧
      round₁.prompt.name = name ∧ valueOf values₁ name = some round₁.value ∧
      valueOf values₂ name = some round₂.value := by
  have hprompts : rounds₁.map Round.prompt = rounds₂.map Round.prompt :=
    h₁.prompts.trans h₂.prompts.symm
  have hlength : rounds₁.length = rounds₂.length := by simpa using congrArg List.length hprompts
  rw [← h₁.prompts, ← List.map_fst_zip hlength.le] at hname
  simp only [List.mem_map, exists_exists_and_eq_and] at hname
  obtain ⟨⟨round₁, round₂⟩, hzip, rfl⟩ := hname
  have hprompt : round₁.prompt = round₂.prompt := eq_of_mem_zip hprompts _ hzip
  obtain ⟨hround₁, hround₂⟩ := List.of_mem_zip hzip
  exact ⟨round₁, round₂, hzip, hprompt, rfl, h₁.value round₁ hround₁,
    hprompt ▸ h₂.value round₂ hround₂⟩

/-- A variable whose values differ has been asked for, and the answers differ. -/
theorem Answers.exists_answer_ne (h₁ : Answers questions rounds₁ values values₁)
    (h₂ : Answers questions rounds₂ values values₂) {name : String}
    (hne : valueOf values₁ name ≠ valueOf values₂ name) :
    ∃ round₁ round₂, (round₁, round₂) ∈ rounds₁.zip rounds₂ ∧ round₁.prompt.name = name ∧
      round₂.prompt.name = name ∧ round₁.answer ≠ round₂.answer := by
  by_cases hname : name ∈ questions.map Prompt.name
  · obtain ⟨round₁, round₂, hzip, hprompt, rfl, hvalue₁, hvalue₂⟩ := h₁.exists_mem_zip h₂ hname
    refine ⟨round₁, round₂, hzip, rfl, hprompt ▸ rfl, fun hanswer ↦ hne ?_⟩
    rw [hvalue₁, hvalue₂, Round.value_congr hprompt hanswer]
  · refine absurd ?_ hne
    rw [valueOf_congr (h₁.other name hname), valueOf_congr (h₂.other name hname)]

/-- The same questions with the same answers leave the same bindings. -/
theorem Answers.eq_of_answers (h₁ : Answers questions rounds₁ values values₁)
    (h₂ : Answers questions rounds₂ values values₂) (hkeys : values₁.keys = values₂.keys)
    (hsame : rounds₁.map Round.answer = rounds₂.map Round.answer) : values₁ = values₂ := by
  refine Bindings.ext_get? hkeys fun name _ ↦ ?_
  by_cases hname : name ∈ questions.map Prompt.name
  · obtain ⟨round₁, round₂, hzip, hprompt, -, hvalue₁, hvalue₂⟩ := h₁.exists_mem_zip h₂ hname
    have hanswer : round₁.answer = round₂.answer := eq_of_mem_zip hsame _ hzip
    rw [valueOf_eq_some_iff.1 hvalue₁, valueOf_eq_some_iff.1 hvalue₂,
      Round.value_congr hprompt hanswer]
  · rw [h₁.other name hname, h₂.other name hname]

/-! ## Two runs -/

/-- What is computed depends on the values before, and not on the conversation. -/
theorem eq_of_yields_computeAll {names : List String}
    (h₁ : Yields (computeAll table names values) c₁ values₁ c₁')
    (h₂ : Yields (computeAll table names values) c₂ values₂ c₂') : values₁ = values₂ := by
  induction names generalizing values c₁ c₂ with
  | nil => exact (yields_pure.1 h₁).1.symm.trans (yields_pure.1 h₂).1
  | cons name names ih =>
    obtain ⟨text₁, d₁, htext₁, hrest₁⟩ := yields_computeAll_cons h₁
    obtain ⟨text₂, d₂, htext₂, hrest₂⟩ := yields_computeAll_cons h₂
    obtain rfl : text₁ = text₂ := Except.ok.inj (htext₁.symm.trans htext₂)
    exact ih hrest₁ hrest₂

/-- The rounds of a run: the `first` ones for the variables that do not come from others, and the
`last` ones to confirm what has been computed. -/
structure Splits (table : Table) (supplied : String → Option String) (names : List String)
    (first last : List Round) (c c' : Conversation) : Prop where
  /-- The run goes on by the rounds. -/
  asks : Asks (first ++ last) c c'
  /-- The first rounds are those for the variables that do not come from others. -/
  leaves : first.map Round.prompt = leafQuestions table supplied names

theorem Splits.unique {names : List String} {first last first' last' : List Round}
    {c c' : Conversation} (h : Splits table supplied names first last c c')
    (h' : Splits table supplied names first' last' c c') : first = first' ∧ last = last' := by
  have hlength : first.length = first'.length := by
    simpa using congrArg List.length (h.leaves.trans h'.leaves.symm)
  exact List.append_inj (h.asks.unique h'.asks) hlength

variable {leaves computed final : Values} {sorted : List String} {first last : List Round}
  {c c' : Conversation}

theorem Stages.splits
    (h : Stages catalogue supplied files selected table leaves sorted computed final first last c
      c') :
    Splits table supplied (start catalogue supplied files selected table).keys first last c c' :=
  ⟨h.asks, h.answered.prompts⟩

/-- What is confirmed has been computed. -/
theorem Stages.isDerived_of_mem
    (h : Stages catalogue supplied files selected table leaves sorted computed final first last c
      c') {round : Round} (hround : round ∈ last) : isDerived table round.prompt.name = true := by
  have hname : round.prompt.name ∈
      (confirmations table (valueOf computed) sorted).map Prompt.name :=
    h.confirmed.prompts ▸ List.mem_map_of_mem (List.mem_map_of_mem hround)
  have hperm := Dependency.perm_of_order (Table.order_of_solvingOrder h.order)
  have hunvalued := hperm.mem_iff.1 (mem_of_mem_confirmations hname).1
  exact ((mem_unvalued_iff_of_leafPass h.pass).1 hunvalued).2.2

/-- Two runs in which a person gives the same answers for the variables that do not come from others
offer the same values for confirmation. Their results bind the same variables in the same order, and
differ only in computed ones that have been confirmed with different answers. -/
theorem resolve_person_confirms_apart (hfaithful : table.IsFaithful)
    (h₁ : Yields (resolve .person catalogue supplied files selected table) c₁ r₁ c₁')
    (h₂ : Yields (resolve .person catalogue supplied files selected table) c₂ r₂ c₂') :
    (∃ first last, Splits table supplied (r₁.map Prod.fst) first last c₁ c₁') ∧
      (∃ first last, Splits table supplied (r₂.map Prod.fst) first last c₂ c₂') ∧
      ∀ first₁ last₁ first₂ last₂,
        Splits table supplied (r₁.map Prod.fst) first₁ last₁ c₁ c₁' →
        Splits table supplied (r₂.map Prod.fst) first₂ last₂ c₂ c₂' →
        first₁.map Round.answer = first₂.map Round.answer →
        last₁.map Round.prompt = last₂.map Round.prompt ∧
          r₁.map Prod.fst = r₂.map Prod.fst ∧
          ∀ name, r₁.lookup name ≠ r₂.lookup name →
            isDerived table name = true ∧
            ∃ round₁ round₂, (round₁, round₂) ∈ last₁.zip last₂ ∧ round₁.prompt.name = name ∧
              round₂.prompt.name = name ∧ round₁.answer ≠ round₂.answer := by
  have hkeys₁ := map_fst_of_yields_resolve h₁
  have hkeys₂ := map_fst_of_yields_resolve h₂
  obtain ⟨leaves₁, sorted₁, computed₁, final₁, first₁, last₁, hstages₁, rfl⟩ :=
    exists_stages_of_yields hfaithful h₁
  obtain ⟨leaves₂, sorted₂, computed₂, final₂, first₂, last₂, hstages₂, rfl⟩ :=
    exists_stages_of_yields hfaithful h₂
  rw [hkeys₁, hkeys₂]
  refine ⟨⟨_, _, hstages₁.splits⟩, ⟨_, _, hstages₂.splits⟩, fun f₁ l₁ f₂ l₂ hs₁ hs₂ hsame ↦ ?_⟩
  obtain ⟨rfl, rfl⟩ := hs₁.unique hstages₁.splits
  obtain ⟨rfl, rfl⟩ := hs₂.unique hstages₂.splits
  -- the two runs are in the same state when the first value is confirmed
  obtain rfl : leaves₁ = leaves₂ := hstages₁.answered.eq_of_answers hstages₂.answered
    (hstages₁.pass.keys.trans hstages₂.pass.keys.symm) hsame
  obtain rfl : sorted₁ = sorted₂ := Except.ok.inj (hstages₁.order.symm.trans hstages₂.order)
  obtain ⟨d₁, d₁', hcomputed₁⟩ := hstages₁.evaluated
  obtain ⟨d₂, d₂', hcomputed₂⟩ := hstages₂.evaluated
  obtain rfl : computed₁ = computed₂ := eq_of_yields_computeAll hcomputed₁ hcomputed₂
  refine ⟨hstages₁.confirmed.prompts.trans hstages₂.confirmed.prompts.symm, rfl,
    fun name hne ↦ ?_⟩
  rw [lookup_settled, lookup_settled] at hne
  obtain ⟨round₁, round₂, hzip, hname₁, hname₂, hanswer⟩ :=
    hstages₁.confirmed.exists_answer_ne hstages₂.confirmed hne
  exact ⟨hname₁ ▸ hstages₁.isDerived_of_mem (List.of_mem_zip hzip).1, round₁, round₂, hzip, hname₁,
    hname₂, hanswer⟩

/-- The rounds of a run in which the title that is offered is taken. -/
theorem splits_slugTable (answer : String) :
    Splits slugTable (fun _ ↦ none) ["slug", "title"] [⟨⟨"title", some "Web App"⟩, 0, ""⟩]
      [⟨⟨"slug", some "web app"⟩, 0, answer⟩] (.start [.answer "", .answer answer])
      ⟨[], [⟨"title", some "Web App"⟩, ⟨"slug", some "web app"⟩],
        [.transform (.result "lowerCase(title)" "web app")]⟩ := by
  have htitle : Prompt.offer? ⟨"title", some "Web App"⟩ ≠ none := by decide
  have hslug : Prompt.offer? ⟨"slug", some "web app"⟩ ≠ none := by decide
  refine ⟨⟨rfl, rfl, List.forall_mem_cons.2 ⟨?_, List.forall_mem_singleton.2 ?_⟩⟩, rfl⟩
  · exact ⟨fun _ ↦ rfl, fun hnone ↦ absurd hnone htitle⟩
  · exact ⟨fun _ ↦ rfl, fun hnone ↦ absurd hnone hslug⟩

/-- The title that is offered is taken in both runs, and the slug is changed in the first one only.
So the results differ in the slug at most. -/
theorem resolve_person_confirms_apart_slugTable :
    Yields (resolve .person ⟨["slug"], [(0, ["slug"])]⟩ (fun _ ↦ none) ["file"] ["file"] slugTable)
        (.start [.answer "", .answer "app"]) [("slug", "app"), ("title", "Web App")]
        ⟨[], [⟨"title", some "Web App"⟩, ⟨"slug", some "web app"⟩],
          [.transform (.result "lowerCase(title)" "web app")]⟩ ∧
      Yields (resolve .person ⟨["slug"], [(0, ["slug"])]⟩ (fun _ ↦ none) ["file"] ["file"]
        slugTable) (.start [.answer "", .answer ""]) [("slug", "web app"), ("title", "Web App")]
        ⟨[], [⟨"title", some "Web App"⟩, ⟨"slug", some "web app"⟩],
          [.transform (.result "lowerCase(title)" "web app")]⟩ ∧
      ∀ name, [("slug", "app"), ("title", "Web App")].lookup name ≠
          [("slug", "web app"), ("title", "Web App")].lookup name →
        isDerived slugTable name = true ∧ "slug" = name := by
  have hchanged := yields_resolve_person_slugTable
  have haccepted := @yields_resolve_person_slugTable_of_ask "" "web app" fun _ ↦ rfl
  refine ⟨hchanged, haccepted, fun name hne ↦ ?_⟩
  obtain ⟨-, -, hdiffer⟩ := (resolve_person_confirms_apart isFaithful_slugTable hchanged
    haccepted).2.2 _ _ _ _ (splits_slugTable "app") (splits_slugTable "") rfl
  obtain ⟨hderived, round₁, round₂, hzip, hname, -⟩ := hdiffer name hne
  cases List.mem_singleton.1 hzip
  exact ⟨hderived, hname⟩

end Scaffold.Resolution
