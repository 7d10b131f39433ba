import Mathlib
import Scaffold.Proofs.Resolution.Discovery
import Scaffold.Proofs.Resolution.Fixpoint
import Scaffold.Proofs.Resolution.Round

/-!
# What a person is asked

When a person is asked, the questions follow from the table and from what is supplied. Every phase of
resolving adds its rounds to the conversation. The variables that do not come from others have one
round each, in the order in which they are bound. The variables that are computed have theirs
afterwards, in the order in which they are computed, unless their definitions let them pass; what is
offered for them is what all the transforms gave before anything was confirmed.

For each phase it is said which questions it puts and what becomes of the values, and this is shown
by induction on the names that are left. What carries it is that the value of one name makes no
difference to the questions for others.
-/

namespace Scaffold.Resolution

variable {α β : Type} {catalogue : Catalogue} {supplied : String → Option String}
  {files selected : List String} {table : Table} {c c' : Conversation} {r : List (String × String)}

/-! ## What is offered -/

/-- What is offered for a variable that does not come from others: its default, or else the value of
its transform. -/
def suggestion (definition : Option Definition) : Option String :=
  definition.bind fun d ↦ d.default? <|> d.constant? <|> d.default

theorem asks_of_yields_leafOffer {definition : Option Definition} {values : Values}
    {offer : Option String} (hd : ∀ d, definition = some d → d.IsFaithful ∧ d.isLeaf = true)
    (h : Yields (leafOffer definition values) c offer c') :
    offer = suggestion definition ∧ Asks [] c c' := by
  cases definition with
  | none =>
    obtain ⟨rfl, rfl⟩ := yields_pure.1 h
    exact ⟨rfl, .refl _⟩
  | some d =>
    obtain ⟨hfaithful, hleaf⟩ := hd d rfl
    simp only [leafOffer] at h
    rw [suggestion, Option.bind_some]
    cases hdefault : d.default? with
    | some value =>
      rw [hdefault] at h
      obtain ⟨rfl, rfl⟩ := yields_pure.1 h
      exact ⟨(Option.filter_eq_some_iff.1 hdefault).1, .refl _⟩
    | none =>
      rw [hdefault] at h
      cases htransform : d.transform? with
      | none =>
        rw [htransform] at h
        obtain ⟨rfl, rfl⟩ := yields_pure.1 h
        exact ⟨by rw [Definition.constant?, htransform]; rfl, .refl _⟩
      | some expression =>
        rw [htransform] at h
        obtain ⟨value, d', hvalue, h⟩ := yields_bind.1 h
        obtain ⟨rfl, rfl⟩ := yields_pure.1 h
        refine ⟨?_, asks_of_yields_compute hvalue⟩
        rw [constant?_of_outcome hfaithful hleaf htransform (outcome_of_yields_compute hvalue)]
        rfl

theorem asks_of_yields_leafValue {name : String} {definition : Option Definition} {values : Values}
    {value : Option String} (hd : ∀ d, definition = some d → d.IsFaithful ∧ d.isLeaf = true)
    (h : Yields (leafValue .person name definition values) c value c') :
    ∃ round : Round, round.prompt = ⟨name, suggestion definition⟩ ∧ value = some round.value ∧
      Asks [round] c c' := by
  obtain ⟨offer, d, hoffer, h⟩ := yields_bind.1 h
  obtain ⟨rfl, hasks⟩ := asks_of_yields_leafOffer hd hoffer
  obtain ⟨text, d', hask, h⟩ := yields_bind.1 h
  obtain ⟨rfl, rfl⟩ := yields_pure.1 h
  obtain ⟨round, hprompt, rfl, hround⟩ := asks_of_yields_ask hask
  exact ⟨round, hprompt, rfl, hasks.trans hround⟩

/-! ## The phases -/

/-- Rounds in which just these questions are put, and what has become of the values then. -/
structure Answers (questions : List Prompt) (rounds : List Round) (values values' : Values) :
    Prop where
  /-- Each question has its round. -/
  prompts : rounds.map Round.prompt = questions
  /-- A variable that is asked for has the value of its round. -/
  value : ∀ round ∈ rounds, valueOf values' round.prompt.name = some round.value
  /-- Other variables keep what they have. -/
  other : ∀ name ∉ questions.map Prompt.name, values'.get? name = values.get? name

theorem Answers.nil (values : Values) : Answers [] [] values values :=
  ⟨rfl, by simp, fun _ _ ↦ rfl⟩

theorem Answers.cons {p : Prompt} {questions : List Prompt} {round : Round} {rounds : List Round}
    {values values' : Values} (hp : round.prompt = p) (hnew : p.name ∉ questions.map Prompt.name)
    (h : Answers questions rounds (values.insert p.name (some round.value)) values') :
    Answers (p :: questions) (round :: rounds) values values' := by
  subst hp
  refine ⟨?_, List.forall_mem_cons.2 ⟨?_, h.value⟩, fun name hname ↦ ?_⟩
  · rw [List.map_cons, h.prompts]
  · rw [valueOf, h.other _ hnew, Bindings.get?_insert_self]
    rfl
  · rw [List.map_cons, List.mem_cons, not_or] at hname
    rw [h.other name hname.2, Bindings.get?_insert_of_ne _ hname.1]

/-- The questions for the variables among some that are not given and do not come from others. -/
def leafQuestions (table : Table) (given : String → Option String) (names : List String) :
    List Prompt :=
  ((unsupplied given names).filter fun name ↦ !isDerived table name).map fun name ↦
    ⟨name, suggestion (table.find? name)⟩

theorem map_name_leafQuestions {given : String → Option String} {names : List String} :
    (leafQuestions table given names).map Prompt.name =
      (unsupplied given names).filter fun name ↦ !isDerived table name := by
  rw [leafQuestions, List.map_map]
  exact List.map_id _

theorem mem_of_mem_leafQuestions {given : String → Option String} {names : List String}
    {name : String} (h : name ∈ (leafQuestions table given names).map Prompt.name) :
    name ∈ names ∧ given name = none ∧ isDerived table name = false := by
  rw [map_name_leafQuestions, List.mem_filter, mem_unsupplied, Bool.not_eq_true'] at h
  exact ⟨h.1.1, h.1.2, h.2⟩

theorem leafQuestions_cons {given : String → Option String} {name : String} {names : List String} :
    leafQuestions table given (name :: names) =
      if given name = none ∧ isDerived table name = false then
        ⟨name, suggestion (table.find? name)⟩ :: leafQuestions table given names
      else leafQuestions table given names := by
  have hiff : (!isDerived table name && (given name).isNone) = true ↔
      given name = none ∧ isDerived table name = false := by
    rw [Bool.and_eq_true, Bool.not_eq_true', Option.isNone_iff_eq_none, and_comm]
  rw [leafQuestions, unsupplied, List.filter_filter, List.filter_cons, leafQuestions, unsupplied,
    List.filter_filter]
  simp only [hiff]
  split <;> rfl

theorem leafQuestions_congr {given given' : String → Option String} {names : List String}
    (h : ∀ name ∈ names, given name = given' name) :
    leafQuestions table given names = leafQuestions table given' names := by
  have hunsupplied : unsupplied given names = unsupplied given' names :=
    List.filter_congr fun name hname ↦ by rw [h name hname]
  rw [leafQuestions, leafQuestions, hunsupplied]

theorem valueOf_insert_of_notMem {values : Values} {names : List String} {name : String}
    {value : Option String} (h : name ∉ names) :
    ∀ other ∈ names, valueOf (values.insert name value) other = valueOf values other := by
  intro other hother
  have hne : other ≠ name := fun heq ↦ h (heq ▸ hother)
  rw [valueOf_insert, if_neg hne]

/-- A person gives a value for each variable that does not come from others. -/
theorem answers_of_yields_resolveLeaves {names unresolved : List String} {values values' : Values}
    (hfaithful : table.IsFaithful) (hnodup : names.Nodup)
    (h : Yields (resolveLeaves .person table names values) c (unresolved, values') c') :
    unresolved = [] ∧ ∃ rounds, Asks rounds c c' ∧
      Answers (leafQuestions table (valueOf values) names) rounds values values' := by
  induction names generalizing values unresolved c with
  | nil =>
    obtain ⟨heq, rfl⟩ := yields_pure.1 h
    cases heq
    exact ⟨rfl, [], .refl _, .nil _⟩
  | cons name names ih =>
    obtain ⟨hname, hnodup⟩ := List.nodup_cons.1 hnodup
    rw [leafQuestions_cons]
    by_cases hleaf : valueOf values name = none ∧ isDerived table name = false
    · obtain ⟨value, d, rest, hvalue, hrest, rfl⟩ := yields_resolveLeaves_cons hleaf h
      obtain ⟨round, hprompt, rfl, hround⟩ := asks_of_yields_leafValue (fun definition hfind ↦
        ⟨hfaithful name definition hfind, by simpa [isDerived, hfind] using hleaf.2⟩) hvalue
      obtain ⟨rfl, rounds, hasks, hanswers⟩ := ih hnodup hrest
      -- the value just given makes no difference to the questions for the others
      rw [leafQuestions_congr (valueOf_insert_of_notMem hname)] at hanswers
      rw [if_pos hleaf]
      exact ⟨rfl, round :: rounds, hround.trans hasks,
        hanswers.cons hprompt fun hmem ↦ hname (mem_of_mem_leafQuestions hmem).1⟩
    · rw [resolveLeaves_cons_of_not hleaf] at h
      rw [if_neg hleaf]
      exact ih hnodup h

/-- Computing asks nothing. -/
theorem asks_of_yields_computeAll {names : List String} {values values' : Values}
    (h : Yields (computeAll table names values) c values' c') : Asks [] c c' := by
  induction names generalizing values c with
  | nil =>
    obtain ⟨-, rfl⟩ := yields_pure.1 h
    exact .refl _
  | cons name names ih =>
    obtain ⟨value, d, hvalue, h⟩ := yields_bind.1 h
    exact (asks_of_yields_compute hvalue).trans (ih h)

/-- A computed value of the variable has to be confirmed, as no definition lets it pass. -/
def needsConfirmation (table : Table) (name : String) : Bool :=
  !(table.find? name).any Definition.skipIfDefined

/-- The questions whether to keep computed values. -/
def confirmations (table : Table) (values : String → Option String) (names : List String) :
    List Prompt :=
  (names.filter (needsConfirmation table)).map fun name ↦ ⟨name, values name⟩

theorem confirmations_cons {values : String → Option String} {name : String}
    {names : List String} :
    confirmations table values (name :: names) =
      if needsConfirmation table name then ⟨name, values name⟩ :: confirmations table values names
      else confirmations table values names := by
  rw [confirmations, List.filter_cons, confirmations]
  split <;> rfl

theorem map_name_confirmations {values : String → Option String} {names : List String} :
    (confirmations table values names).map Prompt.name =
      names.filter (needsConfirmation table) := by
  rw [confirmations, List.map_map]
  exact List.map_id _

theorem mem_of_mem_confirmations {values : String → Option String} {names : List String}
    {name : String} (h : name ∈ (confirmations table values names).map Prompt.name) :
    name ∈ names ∧ needsConfirmation table name = true := by
  rwa [map_name_confirmations, List.mem_filter] at h

theorem confirmations_congr {values values' : String → Option String} {names : List String}
    (h : ∀ name ∈ names, values name = values' name) :
    confirmations table values names = confirmations table values' names := by
  rw [confirmations, confirmations]
  exact List.map_congr_left fun name hname ↦ by rw [h name (List.mem_filter.1 hname).1]

/-- A person is asked to confirm the values as they were before the first was confirmed. -/
theorem answers_of_yields_confirmAll {names : List String} {values values' : Values}
    (hnodup : names.Nodup) (h : Yields (confirmAll .person table names values) c values' c') :
    ∃ rounds, Asks rounds c c' ∧
      Answers (confirmations table (valueOf values) names) rounds values values' := by
  induction names generalizing values c with
  | nil =>
    obtain ⟨rfl, rfl⟩ := yields_pure.1 h
    exact ⟨[], .refl _, .nil _⟩
  | cons name names ih =>
    obtain ⟨hname, hnodup⟩ := List.nodup_cons.1 hnodup
    rw [confirmAll] at h
    rw [confirmations_cons]
    by_cases hskip : (table.find? name).any Definition.skipIfDefined
    · rw [if_pos hskip] at h
      rw [if_neg (by simp [needsConfirmation, hskip])]
      exact ih hnodup h
    · rw [if_neg hskip] at h
      obtain ⟨text, d, hask, h⟩ := yields_bind.1 h
      obtain ⟨round, hprompt, rfl, hround⟩ := asks_of_yields_ask hask
      obtain ⟨rounds, hasks, hanswers⟩ := ih hnodup h
      -- what is offered for the others is still what was computed
      rw [confirmations_congr (valueOf_insert_of_notMem hname)] at hanswers
      rw [if_pos (by simpa [needsConfirmation] using hskip)]
      exact ⟨round :: rounds, hround.trans hasks,
        hanswers.cons hprompt fun hmem ↦ hname (mem_of_mem_confirmations hmem).1⟩

/-! ## No variable without a value -/

/-- A computation that does not fail for want of a value. -/
def NeverUnresolved (x : Resolving α) : Prop :=
  ∀ c names, ¬Fails x c (.unresolved names)

theorem NeverUnresolved.pure (a : α) : NeverUnresolved (pure a : Resolving α) :=
  fun _ _ ↦ not_fails_pure

theorem NeverUnresolved.bind {x : Resolving α} {f : α → Resolving β} (hx : NeverUnresolved x)
    (hf : ∀ a, NeverUnresolved (f a)) : NeverUnresolved (x >>= f) := by
  intro c names h
  rcases fails_bind.1 h with h | ⟨a, d, -, h⟩
  · exact hx c names h
  · exact hf a d names h

theorem neverUnresolved_compute (expression : String) (values : Values) :
    NeverUnresolved (compute expression values) := by
  intro c names h
  obtain ⟨fault, hfault, -⟩ := outcome_of_fails_compute h
  cases hfault

theorem neverUnresolved_ask (prompter : Prompter) (p : Prompt) :
    NeverUnresolved (ask prompter p) := by
  intro c names h
  rcases eq_of_fails_ask h with h | h <;> cases h

theorem neverUnresolved_leafOffer (definition : Option Definition) (values : Values) :
    NeverUnresolved (leafOffer definition values) := by
  unfold leafOffer
  split
  · exact .pure _
  · split
    · exact (neverUnresolved_compute _ _).bind fun _ ↦ .pure _
    · exact .pure _

theorem neverUnresolved_leafValue (prompter : Prompter) (name : String)
    (definition : Option Definition) (values : Values) :
    NeverUnresolved (leafValue prompter name definition values) := by
  refine (neverUnresolved_leafOffer definition values).bind fun offer ↦ ?_
  split
  · exact .pure _
  · exact (neverUnresolved_ask _ _).bind fun _ ↦ .pure _

theorem neverUnresolved_resolveLeaves (prompter : Prompter) (table : Table) (names : List String)
    (values : Values) : NeverUnresolved (resolveLeaves prompter table names values) := by
  induction names generalizing values with
  | nil => exact .pure _
  | cons name names ih =>
    rw [resolveLeaves]
    split
    · exact ih values
    · refine (neverUnresolved_leafValue _ _ _ _).bind fun value ↦ ?_
      exact (ih _).bind fun _ ↦ .pure _

theorem neverUnresolved_computeAll (table : Table) (names : List String) (values : Values) :
    NeverUnresolved (computeAll table names values) := by
  induction names generalizing values with
  | nil => exact .pure _
  | cons name names ih => exact (neverUnresolved_compute _ _).bind fun value ↦ ih _

theorem neverUnresolved_confirmAll (prompter : Prompter) (table : Table) (names : List String)
    (values : Values) : NeverUnresolved (confirmAll prompter table names values) := by
  induction names generalizing values with
  | nil => exact .pure _
  | cons name names ih =>
    rw [confirmAll]
    split
    · exact ih values
    · exact (neverUnresolved_ask _ _).bind fun value ↦ ih _

theorem neverUnresolved_computeRest (prompter : Prompter) (table : Table) (leaves : Values) :
    NeverUnresolved (computeRest prompter table leaves) := by
  unfold computeRest
  split
  · next e horder =>
    intro c names h
    cases fails_throw.1 h
  · refine (neverUnresolved_computeAll _ _ _).bind fun computed ↦ ?_
    split
    · exact .pure _
    · exact (neverUnresolved_confirmAll _ _ _ _).bind fun _ ↦ .pure _

/-- With a person to ask, no variable is left without a value. -/
theorem neverUnresolved_resolve (hfaithful : table.IsFaithful) :
    NeverUnresolved (resolve .person catalogue supplied files selected table) := by
  intro c names h
  rcases fails_bind.1 h with h | ⟨⟨unresolved, leaves⟩, d, hleaves, h⟩
  · exact neverUnresolved_resolveLeaves _ _ _ _ c names h
  · obtain ⟨rfl, -⟩ := answers_of_yields_resolveLeaves hfaithful (Bindings.nodup _) hleaves
    exact neverUnresolved_computeRest .person table leaves d names h

/-! ## The questions of a whole run -/

theorem unvalued_eq_filter (values : Values) :
    unvalued values = values.keys.filter fun name ↦ (valueOf values name).isNone := by
  rw [unvalued, Bindings.keys, List.filter_map]
  refine congrArg _ (List.filter_congr fun entry hentry ↦ ?_)
  rw [Function.comp_apply, valueOf, Bindings.get?_eq_some_iff.2 hentry]
  rfl

/-- The variables left to be computed are those that are not supplied and come from others, in the
order in which they are bound. -/
theorem unvalued_of_leafPass {prompter : Prompter} {leaves : Values}
    (h : LeafPass prompter table (start catalogue supplied files selected table).keys
      (start catalogue supplied files selected table) [] leaves) :
    unvalued leaves = (unsupplied supplied
      (start catalogue supplied files selected table).keys).filter (isDerived table) := by
  rw [unvalued_eq_filter, h.keys, unsupplied, List.filter_filter]
  refine List.filter_congr fun name hname ↦ Bool.eq_iff_iff.2 ?_
  rw [Option.isNone_iff_eq_none, valueOf_eq_none_iff (h.keys ▸ hname), ← mem_unvalued,
    mem_unvalued_iff_of_leafPass h, Bool.and_eq_true, Option.isNone_iff_eq_none, and_comm]
  exact and_iff_left hname |>.trans and_comm

/-- No variable is asked for both as a leaf and to confirm its value. -/
theorem nodup_questions {given value : String → Option String} {names sorted : List String}
    (hnodup : names.Nodup)
    (horder : table.solvingOrder ((unsupplied given names).filter (isDerived table)) =
      .ok sorted) :
    ((leafQuestions table given names ++ confirmations table value sorted).map
      Prompt.name).Nodup := by
  have hperm := Dependency.perm_of_order (Table.order_of_solvingOrder horder)
  have hsorted : sorted.Nodup :=
    hperm.nodup_iff.2 (hnodup.sublist (List.filter_sublist.trans List.filter_sublist))
  rw [List.map_append]
  refine List.nodup_append.2 ⟨?_, ?_, fun name hname name' hname' heq ↦ ?_⟩
  · rw [map_name_leafQuestions]
    exact hnodup.sublist (List.filter_sublist.trans List.filter_sublist)
  · rw [map_name_confirmations]
    exact hsorted.sublist List.filter_sublist
  · have hleaf := (mem_of_mem_leafQuestions hname).2.2
    have hmem := hperm.mem_iff.1 (mem_of_mem_confirmations hname').1
    have hderived := (List.mem_filter.1 hmem).2
    rw [heq, hderived] at hleaf
    cases hleaf

/-- A run with a person, phase by phase: the leaves get their values in the `first` rounds, the
other variables are computed in an order, and what has been computed is confirmed in the `last`
rounds. -/
structure Stages (catalogue : Catalogue) (supplied : String → Option String)
    (files selected : List String) (table : Table) (leaves : Values) (sorted : List String)
    (computed final : Values) (first last : List Round) (c c' : Conversation) : Prop where
  /-- Every leaf gets a value. -/
  pass : LeafPass .person table (start catalogue supplied files selected table).keys
    (start catalogue supplied files selected table) [] leaves
  /-- The first rounds are those for the leaves. -/
  answered : Answers
    (leafQuestions table supplied (start catalogue supplied files selected table).keys)
    first (start catalogue supplied files selected table) leaves
  /-- The variables left to be computed are put in order. -/
  order : table.solvingOrder (unvalued leaves) = .ok sorted
  /-- They are computed without a question. -/
  evaluated : ∃ d d', Yields (computeAll table sorted leaves) d computed d'
  /-- The last rounds are those to confirm what has been computed. -/
  confirmed : Answers (confirmations table (valueOf computed) sorted) last computed final
  /-- There are no other rounds. -/
  asks : Asks (first ++ last) c c'

theorem exists_stages_of_yields (hfaithful : table.IsFaithful)
    (h : Yields (resolve .person catalogue supplied files selected table) c r c') :
    ∃ leaves sorted computed final first last,
      Stages catalogue supplied files selected table leaves sorted computed final first last c c' ∧
        r = settled final := by
  obtain ⟨leaves, sorted, computed, final, d, d', hleaves, horder, hcomputed, hfinal, hr⟩ :=
    exists_phases_of_yields h
  have hperm := Dependency.perm_of_order (Table.order_of_solvingOrder horder)
  have hkeys : (start catalogue supplied files selected table).keys.Nodup := Bindings.nodup _
  have hsorted : sorted.Nodup :=
    hperm.nodup_iff.2 (leaves.nodup.sublist (List.filter_sublist.map _))
  have hconfirm := (hfinal.resolve_left fun hnobody ↦ Prompter.noConfusion hnobody.1).2
  obtain ⟨-, first, hasks, hfirst⟩ := answers_of_yields_resolveLeaves hfaithful hkeys hleaves
  rw [leafQuestions_congr fun name hname ↦ valueOf_start hname] at hfirst
  obtain ⟨last, hasks', hlast⟩ := answers_of_yields_confirmAll hsorted hconfirm
  exact ⟨leaves, sorted, computed, final, first, last,
    ⟨leafPass_start hleaves, hfirst, horder, ⟨d, d', hcomputed⟩, hlast,
      hasks.trans ((asks_of_yields_computeAll hcomputed).trans hasks')⟩, hr⟩

/-- What a person is asked in the course of resolving, and what becomes of the answers: the variables
`found` and `sorted` are those that are found and those that are computed, `computed` is what is known
before anything is confirmed, and the rounds for confirmation are the `last` ones. -/
structure Interview (catalogue : Catalogue) (supplied : String → Option String)
    (files selected : List String) (table : Table) (found sorted : List String)
    (computed : String → Option String) (first last : List Round) (r : List (String × String)) :
    Prop where
  /-- The variables of the selected files come before those that are found from them. -/
  keys : r.map Prod.fst = needed catalogue files selected ++ found
  /-- The variables are found breadth first. -/
  breadthFirst : IsBreadthFirst table.dependencies supplied (needed catalogue files selected) found
  /-- Each unsupplied variable that does not come from others has a round. -/
  leaves : first.map Round.prompt = leafQuestions table supplied (r.map Prod.fst)
  /-- The other unsupplied variables are put in order. -/
  order : table.solvingOrder ((unsupplied supplied (r.map Prod.fst)).filter (isDerived table)) =
    .ok sorted
  /-- Each of them is computed from what is known before anything is confirmed. -/
  evaluated : ∀ name ∈ sorted, ∃ text, computed name = some text ∧
    (evaluate (transformOf table name) computed).outcome = .ok text
  /-- Each of them has a round, unless its definition lets it pass. -/
  confirmed : last.map Round.prompt = confirmations table computed sorted
  /-- A variable that is asked for has the value of its round. -/
  value : ∀ round ∈ first ++ last, r.lookup round.prompt.name = some round.value
  /-- What is not confirmed stays as it is known before. -/
  kept : ∀ name ∉ last.map fun round ↦ round.prompt.name, r.lookup name = computed name

theorem exists_interview_of_yields (hfaithful : table.IsFaithful)
    (h : Yields (resolve .person catalogue supplied files selected table) c r c') :
    ∃ found sorted computed first last,
      Interview catalogue supplied files selected table found sorted computed first last r ∧
        Asks (first ++ last) c c' := by
  obtain ⟨found, hfound, hbreadth⟩ := exists_keys_start catalogue supplied files selected table
  have hkeys := map_fst_of_yields_resolve h
  obtain ⟨leaves, sorted, computed, final, first, last, hstages, rfl⟩ :=
    exists_stages_of_yields hfaithful h
  obtain ⟨d, d', hcomputed⟩ := hstages.evaluated
  have hperm := Dependency.perm_of_order (Table.order_of_solvingOrder hstages.order)
  have hassigns := assigns_of_yields_computeAll
    (fun name hname ↦ mem_keys_of_mem_unvalued (hperm.mem_iff.1 hname)) hcomputed
  -- what is answered first is not touched by what comes after it
  have hvalue : ∀ round ∈ first, valueOf final round.prompt.name = some round.value := by
    intro round hround
    have hname : round.prompt.name ∈ (leafQuestions table supplied
        (start catalogue supplied files selected table).keys).map Prompt.name :=
      hstages.answered.prompts ▸ List.mem_map_of_mem (List.mem_map_of_mem hround)
    have hleaf : round.prompt.name ∉ sorted := by
      intro hmem
      have hderived :=
        ((mem_unvalued_iff_of_leafPass hstages.pass).1 (hperm.mem_iff.1 hmem)).2.2
      exact Bool.false_ne_true ((mem_of_mem_leafQuestions hname).2.2.symm.trans hderived)
    have hunasked : round.prompt.name ∉
        (confirmations table (valueOf computed) sorted).map Prompt.name :=
      fun hmem ↦ hleaf (mem_of_mem_confirmations hmem).1
    rw [valueOf_congr (hstages.confirmed.other _ hunasked), valueOf_congr (hassigns.other _ hleaf)]
    exact hstages.answered.value round hround
  refine ⟨found, sorted, valueOf computed, first, last, ⟨hkeys.trans hfound, hbreadth, ?_, ?_,
    outcome_of_phases hfaithful hstages.pass hstages.order hcomputed, hstages.confirmed.prompts, ?_,
    ?_⟩, hstages.asks⟩
  · rw [hkeys, hstages.answered.prompts]
  · rw [hkeys, ← unvalued_of_leafPass hstages.pass, hstages.order]
  · intro round hround
    rw [lookup_settled]
    rcases List.mem_append.1 hround with hround | hround
    · exact hvalue round hround
    · exact hstages.confirmed.value round hround
  · intro name hname
    rw [lookup_settled]
    refine valueOf_congr (hstages.confirmed.other name ?_)
    rw [← hstages.confirmed.prompts, List.map_map]
    exact hname

namespace Interview

variable {found sorted : List String} {computed : String → Option String} {first last : List Round}

/-- The first questions are for variables that are not supplied and do not come from others. -/
theorem mem_first
    (h : Interview catalogue supplied files selected table found sorted computed first last r) :
    ∀ round ∈ first, round.prompt.name ∈ r.map Prod.fst ∧ supplied round.prompt.name = none ∧
      isDerived table round.prompt.name = false := by
  intro round hround
  refine mem_of_mem_leafQuestions (h.leaves ▸ ?_)
  exact List.mem_map_of_mem (List.mem_map_of_mem hround)

/-- The last questions are for variables that are not supplied and come from others, and that no
definition lets pass. -/
theorem mem_last
    (h : Interview catalogue supplied files selected table found sorted computed first last r) :
    ∀ round ∈ last, round.prompt.name ∈ r.map Prod.fst ∧ supplied round.prompt.name = none ∧
      isDerived table round.prompt.name = true ∧
      needsConfirmation table round.prompt.name = true := by
  intro round hround
  have hname : round.prompt.name ∈ (confirmations table computed sorted).map Prompt.name :=
    h.confirmed ▸ List.mem_map_of_mem (List.mem_map_of_mem hround)
  obtain ⟨hsorted, hneeds⟩ := mem_of_mem_confirmations hname
  have hperm := Dependency.perm_of_order (Table.order_of_solvingOrder h.order)
  obtain ⟨hunsupplied, hderived⟩ := List.mem_filter.1 (hperm.mem_iff.1 hsorted)
  obtain ⟨hkey, hnone⟩ := mem_unsupplied.1 hunsupplied
  exact ⟨hkey, hnone, hderived, hneeds⟩

/-- No variable has two rounds. -/
theorem nodup
    (h : Interview catalogue supplied files selected table found sorted computed first last r)
    (hkeys : (r.map Prod.fst).Nodup) :
    ((first ++ last).map fun round ↦ round.prompt.name).Nodup := by
  have hnames : (first ++ last).map (fun round ↦ round.prompt.name) =
      (leafQuestions table supplied (r.map Prod.fst) ++
        confirmations table computed sorted).map Prompt.name := by
    rw [← h.leaves, ← h.confirmed, ← List.map_append, List.map_map]
    rfl
  rw [hnames]
  exact nodup_questions hkeys h.order

end Interview

/-- With a person to ask, no variable is left without a value. The person is asked in rounds for just
the required variables that are not supplied and that no definition lets pass, each in one round. -/
theorem resolve_person_asks (hfaithful : table.IsFaithful) :
    (∀ names, ¬Fails (resolve .person catalogue supplied files selected table) c
        (.unresolved names)) ∧
      ∀ r c', Yields (resolve .person catalogue supplied files selected table) c r c' →
        ∃ found sorted computed first last,
          Interview catalogue supplied files selected table found sorted computed first last r ∧
          Asks (first ++ last) c c' ∧
          ((first ++ last).map fun round ↦ round.prompt.name).Nodup ∧
          ∀ round ∈ first ++ last,
            Required catalogue supplied files selected table round.prompt.name ∧
            supplied round.prompt.name = none ∧
            (isDerived table round.prompt.name = true →
              needsConfirmation table round.prompt.name = true) := by
  refine ⟨neverUnresolved_resolve hfaithful c, fun r c' h ↦ ?_⟩
  obtain ⟨found, sorted, computed, first, last, hinterview, hasks⟩ :=
    exists_interview_of_yields hfaithful h
  have hkeys := map_fst_of_yields_resolve h
  have hnodup : (r.map Prod.fst).Nodup :=
    hkeys ▸ (start catalogue supplied files selected table).nodup
  refine ⟨found, sorted, computed, first, last, hinterview, hasks, hinterview.nodup hnodup, ?_⟩
  intro round hround
  rcases List.mem_append.1 hround with hround | hround
  · obtain ⟨hkey, hnone, hleaf⟩ := hinterview.mem_first round hround
    refine ⟨mem_keys_start_iff.1 (hkeys ▸ hkey), hnone, fun hderived ↦ ?_⟩
    exact absurd (hleaf.symm.trans hderived) Bool.false_ne_true
  · obtain ⟨hkey, hnone, -, hneeds⟩ := hinterview.mem_last round hround
    exact ⟨mem_keys_start_iff.1 (hkeys ▸ hkey), hnone, fun _ ↦ hneeds⟩

/-- A person who takes the title that is offered, and says what the slug that is made from it is to
be. -/
theorem yields_resolve_person_slugTable_of_ask {answer slug : String}
    (h : ∀ c : Conversation, c.askWith ⟨"slug", some "web app"⟩ [.answer answer] =
      (some slug, c.asked ⟨"slug", some "web app"⟩ [])) :
    Yields (resolve .person ⟨["slug"], [(0, ["slug"])]⟩ (fun _ ↦ none) ["file"] ["file"] slugTable)
      (.start [.answer "", .answer answer]) [("slug", slug), ("title", "Web App")]
      ⟨[], [⟨"title", some "Web App"⟩, ⟨"slug", some "web app"⟩],
        [.transform (.result "lowerCase(title)" "web app")]⟩ := by
  refine yields_resolve_iff.2 ⟨⟨[("slug", none), ("title", some "Web App")], by decide⟩,
    ⟨[.answer answer], [⟨"title", some "Web App"⟩], []⟩, rfl, ?_⟩
  have hunvalued : unvalued ⟨[("slug", none), ("title", some "Web App")], by decide⟩ =
      ["slug"] := rfl
  rw [computeRest, hunvalued, solvingOrder_slugTable]
  refine yields_bind.2
    ⟨⟨[("slug", some "web app"), ("title", some "Web App")], by decide⟩,
      ⟨[.answer answer], [⟨"title", some "Web App"⟩],
        [.transform (.result "lowerCase(title)" "web app")]⟩, ?_, ?_⟩
  · refine yields_bind.2 ⟨"web app", _, ?_, rfl⟩
    change Yields (compute "lowerCase(title)" _) _ _ _
    rw [Yields, run_compute, evaluate, parse_lowerCase_title]
    rfl
  · refine yields_bind.2 ⟨⟨[("slug", some slug), ("title", some "Web App")], by simp⟩, _, ?_, rfl⟩
    exact yields_bind.2 ⟨slug, _, yields_ask (h _), rfl⟩

/-- A person who takes the title that is offered, and changes the slug that is made from it. -/
theorem yields_resolve_person_slugTable :
    Yields (resolve .person ⟨["slug"], [(0, ["slug"])]⟩ (fun _ ↦ none) ["file"] ["file"] slugTable)
      (.start [.answer "", .answer "app"]) [("slug", "app"), ("title", "Web App")]
      ⟨[], [⟨"title", some "Web App"⟩, ⟨"slug", some "web app"⟩],
        [.transform (.result "lowerCase(title)" "web app")]⟩ :=
  yields_resolve_person_slugTable_of_ask fun _ ↦ rfl

theorem resolve_person_asks_slugTable :
    ∃ found sorted computed first last,
      Interview ⟨["slug"], [(0, ["slug"])]⟩ (fun _ ↦ none) ["file"] ["file"] slugTable found sorted
        computed first last [("slug", "app"), ("title", "Web App")] ∧
      Asks (first ++ last) (.start [.answer "", .answer "app"])
        ⟨[], [⟨"title", some "Web App"⟩, ⟨"slug", some "web app"⟩],
          [.transform (.result "lowerCase(title)" "web app")]⟩ := by
  obtain ⟨found, sorted, computed, first, last, hinterview, hasks, -⟩ :=
    (resolve_person_asks isFaithful_slugTable).2 _ _ yields_resolve_person_slugTable
  exact ⟨found, sorted, computed, first, last, hinterview, hasks⟩

end Scaffold.Resolution
