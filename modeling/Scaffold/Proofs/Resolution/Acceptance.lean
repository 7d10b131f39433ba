import Mathlib
import Scaffold.Proofs.Resolution.Prompts

/-!
# Taking what is offered

A person who answers every question with the empty text takes what is offered, and this is what
resolving takes when nobody is asked. So the two ways come to the same values, as long as something
is offered each time. For a leaf this is so because it has a value without a person. For a computed
value that has to be confirmed it has to be assumed, as the empty value is no offer.

What carries the comparison is a property of computations that is closed under sequencing: from any
conversation in which enough empty answers come next, the computation asks a known list of
questions, each once, and ends with a known result.
-/

namespace Scaffold.Resolution

variable {α β : Type} {catalogue : Catalogue} {supplied : String → Option String}
  {files selected : List String} {table : Table} {c c' : Conversation} {r : List (String × String)}
  {names : List String} {values values' : Values}

/-! ## Computations that take what is offered -/

/-- When the next replies are empty answers, one for each of the questions, a computation asks these
questions, each once, and ends with the given result. -/
def Accepts (x : Resolving α) (a : α) (questions : List Prompt) : Prop :=
  ∀ d rest, d.replies = List.replicate questions.length (.answer "") ++ rest →
    ∃ d', Yields x d a d' ∧ d'.prompts = d.prompts ++ questions ∧ d'.replies = rest

theorem Accepts.pure (a : α) : Accepts (pure a) a [] := by
  intro d rest hreplies
  exact ⟨d, yields_pure.2 ⟨rfl, rfl⟩, (List.append_nil _).symm, hreplies⟩

theorem Accepts.bind {x : Resolving α} {f : α → Resolving β} {a : α} {b : β}
    {questions more : List Prompt} (hx : Accepts x a questions) (hf : Accepts (f a) b more) :
    Accepts (x >>= f) b (questions ++ more) := by
  intro d rest hreplies
  rw [List.length_append, List.replicate_add, List.append_assoc] at hreplies
  obtain ⟨d₁, hyields₁, hprompts₁, hreplies₁⟩ := hx d _ hreplies
  obtain ⟨d₂, hyields₂, hprompts₂, hreplies₂⟩ := hf d₁ rest hreplies₁
  refine ⟨d₂, yields_bind.2 ⟨a, d₁, hyields₁, hyields₂⟩, ?_, hreplies₂⟩
  rw [hprompts₂, hprompts₁, List.append_assoc]

/-- A question that offers something is answered by the empty text at once. -/
theorem accepts_ask {p : Prompt} {value : String} (h : p.offer? = some value) :
    Accepts (ask .person p) value [p] := by
  intro d rest hreplies
  have hask : d.ask p = (some value, d.asked p rest) := by
    rw [Conversation.ask, hreplies]
    change Conversation.askWith p (.answer "" :: rest) d = _
    rw [Conversation.askWith, if_pos (by rfl), h]
  exact ⟨d.asked p rest, yields_ask hask, rfl, rfl⟩

/-- The value of a transform is the same whatever has been said. -/
theorem accepts_of_yields_compute {expression text : String}
    (h : Yields (compute expression values) c text c') :
    Accepts (compute expression values) text [] := by
  intro d rest hreplies
  have hout := outcome_of_yields_compute h
  have hrun : Yields (compute expression values) d text
      (d.report ((evaluate expression (valueOf values)).trace.map .transform)) := by
    rw [Yields, run_compute, hout]
    rfl
  exact ⟨_, hrun, (List.append_nil _).symm, hreplies⟩

theorem accepts_of_yields_leafOffer {definition : Option Definition} {offer : Option String}
    (h : Yields (leafOffer definition values) c offer c') :
    Accepts (leafOffer definition values) offer [] := by
  unfold leafOffer at h ⊢
  split at h
  · obtain ⟨rfl, -⟩ := yields_pure.1 h
    exact .pure _
  · split at h
    · obtain ⟨text, d, hcompute, h⟩ := yields_bind.1 h
      obtain ⟨rfl, -⟩ := yields_pure.1 h
      exact (accepts_of_yields_compute hcompute).bind (.pure _)
    · obtain ⟨rfl, -⟩ := yields_pure.1 h
      exact .pure _

/-! ## The phases -/

/-- A leaf that has a value without a person has the same one with a person who takes it. -/
theorem accepts_of_yields_leafValue {name text : String} {definition : Option Definition}
    (hd : ∀ d, definition = some d → d.IsFaithful ∧ d.isLeaf = true)
    (h : Yields (leafValue .nobody name definition values) c (some text) c') :
    Accepts (leafValue .person name definition values) (some text)
      [⟨name, suggestion definition⟩] := by
  obtain ⟨offer, d, hoffer, htext⟩ := yields_leafValue_nobody h
  obtain ⟨rfl, -⟩ := asks_of_yields_leafOffer hd hoffer
  have hask : Accepts (ask .person ⟨name, suggestion definition⟩) text _ :=
    accepts_ask htext.symm
  exact (accepts_of_yields_leafOffer hoffer).bind (hask.bind (.pure _))

theorem accepts_resolveLeaves_cons {name text : String} {questions : List Prompt} {p : Prompt}
    (hleaf : IsOpenLeaf table values name)
    (hvalue : Accepts (leafValue .person name (table.find? name) values) (some text) [p])
    (hrest : Accepts (resolveLeaves .person table names (values.insert name (some text)))
      ([], values') questions) :
    Accepts (resolveLeaves .person table (name :: names) values) ([], values')
      (p :: questions) := by
  have hquestions : p :: questions = [p] ++ (questions ++ []) := by
    rw [List.append_nil, List.singleton_append]
  rw [resolveLeaves, if_neg (mt not_isOpenLeaf_iff.2 (not_not.2 hleaf)), hquestions]
  exact hvalue.bind (hrest.bind (.pure _))

/-- When no leaf is left without a value, a person who takes what is offered gives the same values
to all of them. -/
theorem accepts_of_yields_resolveLeaves (hfaithful : table.IsFaithful) (hnodup : names.Nodup)
    (h : Yields (resolveLeaves .nobody table names values) c ([], values') c') :
    Accepts (resolveLeaves .person table names values) ([], values')
      (leafQuestions table (valueOf values) names) := by
  induction names generalizing values c with
  | nil =>
    obtain ⟨heq, -⟩ := yields_pure.1 h
    cases heq
    exact .pure _
  | cons name names ih =>
    obtain ⟨hname, hnodup⟩ := List.nodup_cons.1 hnodup
    rw [leafQuestions_cons]
    by_cases hleaf : valueOf values name = none ∧ isDerived table name = false
    · obtain ⟨value, d, rest, hvalue, hrest, hnone⟩ := yields_resolveLeaves_cons hleaf h
      cases value with
      | none => cases hnone
      | some text =>
        have hvalue' := accepts_of_yields_leafValue (fun d hfind ↦
          ⟨hfaithful name d hfind, isLeaf_of_find? hleaf.2 hfind⟩) hvalue
        obtain rfl : [] = rest := hnone
        have hrest' := ih hnodup hrest
        -- the value just given makes no difference to the questions for the others
        rw [leafQuestions_congr (valueOf_insert_of_notMem hname)] at hrest'
        rw [if_pos hleaf]
        exact accepts_resolveLeaves_cons hleaf hvalue' hrest'
    · rw [resolveLeaves_cons_of_not hleaf] at h ⊢
      rw [if_neg hleaf]
      exact ih hnodup h

theorem accepts_of_yields_computeAll (h : Yields (computeAll table names values) c values' c') :
    Accepts (computeAll table names values) values' [] := by
  induction names generalizing values c with
  | nil =>
    obtain ⟨rfl, -⟩ := yields_pure.1 h
    exact .pure _
  | cons name names ih =>
    obtain ⟨text, d, hcompute, h⟩ := yields_bind.1 h
    exact (accepts_of_yields_compute hcompute).bind (ih h)

/-- Computed values that are confirmed by empty answers stay as they are. -/
theorem accepts_confirmAll
    (h : ∀ name ∈ names, needsConfirmation table name = true →
      ∃ text, valueOf values name = some text ∧ text ≠ "") :
    Accepts (confirmAll .person table names values) values
      (confirmations table (valueOf values) names) := by
  induction names with
  | nil => exact .pure _
  | cons name names ih =>
    obtain ⟨hname, hnames⟩ := List.forall_mem_cons.1 h
    rw [confirmAll, confirmations_cons]
    by_cases hskip : (table.find? name).any Definition.skipIfDefined
    · rw [if_pos hskip, if_neg (by simp [needsConfirmation, hskip])]
      exact ih hnames
    · have hneeds : needsConfirmation table name = true := by simpa [needsConfirmation] using hskip
      obtain ⟨text, htext, hne⟩ := hname hneeds
      have hoffer : Prompt.offer? ⟨name, valueOf values name⟩ = some text := by
        rw [Prompt.offer?, htext]
        simp [Option.filter_some, hne]
      have hsame : values.insert name (some text) = values :=
        Bindings.insert_of_get? (valueOf_eq_some_iff.1 htext)
      rw [if_neg hskip, if_pos hneeds]
      refine (accepts_ask hoffer).bind ?_
      rw [hsame]
      exact ih hnames

/-! ## Whole runs -/

/-- What a run without a person comes to is what a person comes to who takes what is offered, when
the computed values that have to be confirmed are not empty. -/
theorem exists_accepts_resolve (hfaithful : table.IsFaithful)
    (h : Yields (resolve .nobody catalogue supplied files selected table) c r c')
    (hfull : ∀ name ∈ r.map Prod.fst, supplied name = none → isDerived table name = true →
      needsConfirmation table name = true → r.lookup name ≠ some "") :
    ∃ sorted,
      table.solvingOrder ((unsupplied supplied (r.map Prod.fst)).filter (isDerived table)) =
        .ok sorted ∧
      Accepts (resolve .person catalogue supplied files selected table) r
        (leafQuestions table supplied (r.map Prod.fst) ++
          confirmations table (r.lookup ·) sorted) := by
  have hkeys := map_fst_of_yields_resolve h
  obtain ⟨leaves, sorted, computed, final, d, d', hleaves, horder, hcomputed, hfinal, rfl⟩ :=
    exists_phases_of_yields h
  obtain ⟨-, rfl⟩ := hfinal.resolve_right fun hconfirm ↦ hconfirm.1 rfl
  have hpass := leafPass_start hleaves
  have hperm := Dependency.perm_of_order (Table.order_of_solvingOrder horder)
  have hassigns := assigns_of_yields_computeAll
    (fun name hname ↦ mem_keys_of_mem_unvalued (hperm.mem_iff.1 hname)) hcomputed
  have hlookup : ((settled final).lookup ·) = valueOf final := funext (lookup_settled final)
  rw [hkeys] at hfull ⊢
  refine ⟨sorted, by rw [← unvalued_of_leafPass hpass, horder], ?_⟩
  have hnodup : (start catalogue supplied files selected table).keys.Nodup := Bindings.nodup _
  have haccepts := accepts_of_yields_resolveLeaves hfaithful hnodup hleaves
  rw [leafQuestions_congr fun name hname ↦ valueOf_start hname] at haccepts
  have hconfirm : Accepts (confirmAll .person table sorted final) final
      (confirmations table (valueOf final) sorted) := by
    refine accepts_confirmAll fun name hname hneeds ↦ ?_
    obtain ⟨text, htext⟩ := hassigns.assigned name hname
    obtain ⟨hkey, hnone, hderived⟩ :=
      (mem_unvalued_iff_of_leafPass hpass).1 (hperm.mem_iff.1 hname)
    refine ⟨text, htext, fun hempty ↦ hfull name hkey hnone hderived hneeds ?_⟩
    rw [lookup_settled, htext, hempty]
  have hrest : Accepts (computeRest .person table leaves) (settled final)
      ([] ++ (confirmations table (valueOf final) sorted ++ [])) := by
    rw [computeRest, horder]
    exact (accepts_of_yields_computeAll hcomputed).bind (hconfirm.bind (.pure _))
  rw [List.nil_append, List.append_nil] at hrest
  rw [hlookup]
  exact haccepts.bind hrest

/-- When a run without a person comes to values of which those that would have to be confirmed are
not empty, a person who answers every question with the empty text comes to the same values in the
same order. The questions are those for the leaves that are not supplied and those to confirm what
has been computed; each is asked once. -/
theorem resolve_person_accepts (hfaithful : table.IsFaithful)
    (h : Yields (resolve .nobody catalogue supplied files selected table) c r c')
    (hfull : ∀ name ∈ r.map Prod.fst, supplied name = none → isDerived table name = true →
      needsConfirmation table name = true → r.lookup name ≠ some "") :
    ∃ sorted questions,
      table.solvingOrder ((unsupplied supplied (r.map Prod.fst)).filter (isDerived table)) =
        .ok sorted ∧
      questions = leafQuestions table supplied (r.map Prod.fst) ++
        confirmations table (r.lookup ·) sorted ∧
      (questions.map Prompt.name).Nodup ∧
      ∀ d rest, d.replies = List.replicate questions.length (.answer "") ++ rest →
        ∃ d', Yields (resolve .person catalogue supplied files selected table) d r d' ∧
          d'.prompts = d.prompts ++ questions ∧ d'.replies = rest := by
  obtain ⟨sorted, horder, haccepts⟩ := exists_accepts_resolve hfaithful h hfull
  have hnodup : (r.map Prod.fst).Nodup :=
    map_fst_of_yields_resolve h ▸ Bindings.nodup _
  exact ⟨sorted, _, horder, rfl, nodup_questions hnodup horder, haccepts⟩

/-- The title that is offered is taken, and then the slug that is made from it. -/
theorem resolve_person_accepts_slugTable :
    ∃ d', Yields (resolve .person ⟨["slug"], [(0, ["slug"])]⟩ (fun _ ↦ none) ["file"] ["file"]
        slugTable) (.start [.answer "", .answer ""]) [("slug", "web app"), ("title", "Web App")]
        d' ∧
      d'.prompts = [⟨"title", some "Web App"⟩, ⟨"slug", some "web app"⟩] ∧ d'.replies = [] := by
  have hnobody : Yields (resolve .nobody ⟨["slug"], [(0, ["slug"])]⟩ (fun _ ↦ none) ["file"]
      ["file"] slugTable) (.start []) [("slug", "web app"), ("title", "Web App")] _ :=
    Prod.ext resolve_nobody_slugTable rfl
  obtain ⟨sorted, questions, horder, hquestions, -, hrun⟩ :=
    resolve_person_accepts isFaithful_slugTable hnobody (by decide)
  obtain rfl : ["slug"] = sorted := Except.ok.inj (solvingOrder_slugTable.symm.trans horder)
  have hlist : questions = [⟨"title", some "Web App"⟩, ⟨"slug", some "web app"⟩] :=
    hquestions.trans (by decide)
  subst hlist
  exact hrun (.start [.answer "", .answer ""]) [] rfl

end Scaffold.Resolution
