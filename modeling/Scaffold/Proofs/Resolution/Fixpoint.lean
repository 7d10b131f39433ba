import Mathlib
import Scaffold.Proofs.Resolution.Result

/-!
# What resolving without a person computes

When nobody is asked, the values that resolving ends with are a fixpoint of the table: each computed
value is the value of its transform over the very map that holds it. The map binds the least set of
names that contains the variables of the selected files and, with each name that is not supplied,
all that it depends on.
-/

namespace Scaffold

/-- The value of a transform that refers to no variable. -/
def Definition.constant? (d : Definition) : Option String :=
  d.transform?.bind fun text ↦ (evaluate text fun _ ↦ none).outcome.toOption

/-- A transform of a leaf is evaluated alike whatever the values of variables are. -/
theorem Definition.evaluate_of_isLeaf {d : Definition} {text : String} (hd : d.IsFaithful)
    (hleaf : d.isLeaf = true) (htext : d.transform? = some text) (σ : String → Option String) :
    evaluate text σ = evaluate text fun _ ↦ none := by
  have hrelated := d.relatedVariables_of_isFaithful hd htext
  rw [d.dependencies_eq_nil_of_isLeaf hd hleaf] at hrelated
  exact evaluate_congr hrelated (by simp)

namespace Resolution

variable {catalogue : Catalogue} {supplied : String → Option String} {files selected : List String}
  {table : Table} {c c' : Conversation} {r : List (String × String)}

/-! ## Leaves without a person -/

/-- A transform that refers to no variable has one value, whatever the values of variables are. -/
theorem constant?_of_outcome {d : Definition} {text value : String} {σ : String → Option String}
    (hd : d.IsFaithful) (hleaf : d.isLeaf = true) (htext : d.transform? = some text)
    (h : (evaluate text σ).outcome = .ok value) : d.constant? = some value := by
  rw [Definition.constant?, htext, Option.bind_some, ← d.evaluate_of_isLeaf hd hleaf htext σ, h]
  rfl

theorem yields_leafValue_nobody {name : String} {definition : Option Definition} {values : Values}
    {value : Option String} (h : Yields (leafValue .nobody name definition values) c value c') :
    ∃ offer d, Yields (leafOffer definition values) c offer d ∧
      value = offer.filter (!·.isEmpty) := by
  obtain ⟨offer, d, hoffer, h⟩ := yields_bind.1 h
  exact ⟨offer, d, hoffer, (yields_pure.1 h).1.symm⟩

/-- A leaf that gets a value without a question has a definition. Its value is the default, or else
that of its transform. -/
theorem eq_offer_of_yields_leafValue {name text : String} {definition : Option Definition}
    {values : Values} (hd : ∀ d, definition = some d → d.IsFaithful ∧ d.isLeaf = true)
    (h : Yields (leafValue .nobody name definition values) c (some text) c') :
    ∃ d, definition = some d ∧ some text = (d.default? <|> d.constant?) := by
  obtain ⟨offer, conv, hoffer, htext⟩ := yields_leafValue_nobody h
  cases definition with
  | none =>
    obtain ⟨rfl, -⟩ := yields_pure.1 hoffer
    simp at htext
  | some d =>
    refine ⟨d, rfl, ?_⟩
    obtain ⟨hfaithful, hleaf⟩ := hd d rfl
    simp only [leafOffer] at hoffer
    cases hdefault : d.default? with
    | some value =>
      rw [hdefault] at hoffer
      obtain ⟨rfl, -⟩ := yields_pure.1 hoffer
      exact htext.trans hdefault
    | none =>
      rw [hdefault] at hoffer
      cases htransform : d.transform? with
      | none =>
        rw [htransform] at hoffer
        obtain ⟨rfl, -⟩ := yields_pure.1 hoffer
        rw [Definition.default?, ← htext] at hdefault
        cases hdefault
      | some expression =>
        rw [htransform] at hoffer
        obtain ⟨value, _, hvalue, hoffer⟩ := yields_bind.1 hoffer
        obtain ⟨rfl, -⟩ := yields_pure.1 hoffer
        obtain ⟨heq, -⟩ := Option.filter_eq_some_iff.1 htext.symm
        refine heq.symm.trans ?_
        have hvalue := outcome_of_yields_compute hvalue
        rw [constant?_of_outcome hfaithful hleaf htransform hvalue]
        rfl

/-! ## The fixpoint -/

/-- The values of a map are those that the table and what is supplied say. -/
structure Solves (table : Table) (given : String → Option String) (r : List (String × String)) :
    Prop where
  /-- A supplied value is taken as it is. -/
  supplied : ∀ name ∈ r.map Prod.fst, ∀ text, given name = some text → r.lookup name = some text
  /-- A variable that does not come from others has its default, or else the value of its
  transform. -/
  leaf : ∀ name ∈ r.map Prod.fst, given name = none → isDerived table name = false →
    ∃ d text, table.find? name = some d ∧ (d.default? <|> d.constant?) = some text ∧
      r.lookup name = some text
  /-- A variable that comes from others has the value of its transform over the map itself, which
  has a value for all that the transform refers to. -/
  derived : ∀ name ∈ r.map Prod.fst, given name = none → isDerived table name = true →
    ∃ d expression e text, table.find? name = some d ∧ d.transform = some expression ∧
      Expr.parse expression = .ok e ∧
      (evaluate expression fun other ↦ r.lookup other).outcome = .ok text ∧
      r.lookup name = some text ∧ ∀ dep ∈ e.occurrences, dep ∈ r.map Prod.fst

/-- What resolving ends with when nobody is asked: the leaves as they were resolved, and the other
variables with the values of their transforms over the result. -/
theorem exists_leaves_of_yields_resolve (hfaithful : table.IsFaithful)
    (h : Yields (resolve .nobody catalogue supplied files selected table) c r c') :
    ∃ leaves, LeafPass .nobody table (start catalogue supplied files selected table).keys
        (start catalogue supplied files selected table) [] leaves ∧
      (∀ name ∉ unvalued leaves, r.lookup name = valueOf leaves name) ∧
      ∀ name ∈ unvalued leaves, ∃ text, r.lookup name = some text ∧
        (evaluate (transformOf table name) fun other ↦ r.lookup other).outcome = .ok text := by
  obtain ⟨leaves, sorted, computed, final, d, d', hleaves, horder, hcomputed, hfinal, rfl⟩ :=
    exists_phases_of_yields h
  obtain ⟨-, rfl⟩ := hfinal.resolve_right fun hconfirm ↦ hconfirm.1 rfl
  have hpass := leafPass_start hleaves
  have hperm := Dependency.perm_of_order (Table.order_of_solvingOrder horder)
  have hkeys : ∀ name ∈ sorted, name ∈ leaves.keys :=
    fun name hname ↦ mem_keys_of_mem_unvalued (hperm.mem_iff.1 hname)
  have hvalues := outcome_of_phases hfaithful hpass horder hcomputed
  have hlookup : (fun other ↦ (settled final).lookup other) = valueOf final :=
    funext (lookup_settled final)
  refine ⟨leaves, hpass, fun name hname ↦ ?_, fun name hname ↦ ?_⟩
  · rw [lookup_settled]
    exact valueOf_congr ((assigns_of_yields_computeAll hkeys hcomputed).other name
      (mt hperm.mem_iff.1 hname))
  · rw [lookup_settled, hlookup]
    exact hvalues name (hperm.mem_iff.2 hname)

theorem solves_of_yields_resolve (hfaithful : table.IsFaithful)
    (h : Yields (resolve .nobody catalogue supplied files selected table) c r c') :
    Solves table supplied r := by
  have hkeys := map_fst_of_yields_resolve h
  obtain ⟨leaves, hpass, hrest, hderived⟩ := exists_leaves_of_yields_resolve hfaithful h
  have hunvalued : ∀ name, name ∈ unvalued leaves ↔
      name ∈ (start catalogue supplied files selected table).keys ∧ supplied name = none ∧
        isDerived table name = true :=
    fun _ ↦ mem_unvalued_iff_of_leafPass hpass
  refine ⟨?_, ?_, ?_⟩
  · intro name hname text htext
    rw [hkeys] at hname
    have hclosed : ¬IsOpenLeaf table (start catalogue supplied files selected table) name := by
      rw [IsOpenLeaf, valueOf_start hname, htext]
      simp
    rw [hrest name (by simp [hunvalued, htext]),
      valueOf_congr (hpass.other name fun hin ↦ hclosed hin.2), valueOf_start hname, htext]
  · intro name hname hnone hleaf
    rw [hkeys] at hname
    have hopen : IsOpenLeaf table (start catalogue supplied files selected table) name :=
      ⟨(valueOf_start hname).trans hnone, hleaf⟩
    obtain ⟨value, mid, d, d', hvalue, hget, hreport⟩ := hpass.leaf name hname hopen
    obtain ⟨text, rfl⟩ := Option.ne_none_iff_exists'.1 (mt hreport List.not_mem_nil)
    obtain ⟨definition, hfind, htext⟩ := eq_offer_of_yields_leafValue (fun definition hfind ↦
      ⟨hfaithful name definition hfind, by simpa [isDerived, hfind] using hleaf⟩) hvalue
    refine ⟨definition, text, hfind, htext.symm, ?_⟩
    rw [hrest name (by simp [hunvalued, hleaf]), valueOf_eq_some_iff, hget]
  · intro name hname hnone hder
    have hkey := hkeys ▸ hname
    obtain ⟨text, htext, hout⟩ := hderived name ((hunvalued name).2 ⟨hkey, hnone, hder⟩)
    obtain ⟨d, hfind, htransform, hrelated⟩ := exists_transform_of_isDerived hfaithful hder
    obtain ⟨e, hparse, hrefs⟩ := Expr.relatedVariables_eq_ok_iff.1 hrelated
    refine ⟨d, _, e, text, hfind, htransform, hparse, hout, htext, fun dep hdep ↦ ?_⟩
    rw [hkeys, mem_keys_start_iff]
    exact .ofDependency (mem_keys_start_iff.1 hkey) hnone (hrefs ▸ Expr.mem_refs.2 hdep)

/-! ## The result as a whole -/

/-- The map that resolving ends with when nobody is asked binds the least set of names that covers
the selected files, each of them once, and it is a fixpoint of the table. -/
theorem resolve_nobody_isFixpoint (hfaithful : table.IsFaithful)
    (h : ((resolve .nobody catalogue supplied files selected table).run.run c).1 = .ok r) :
    (r.map Prod.fst).Nodup ∧
      IsLeast {names | Covers catalogue supplied files selected table names}
        {name | name ∈ r.map Prod.fst} ∧
      Solves table supplied r := by
  have hyields : Yields (resolve .nobody catalogue supplied files selected table) c r
      ((resolve .nobody catalogue supplied files selected table).run.run c).2 :=
    Prod.ext h rfl
  have hkeys := map_fst_of_yields_resolve hyields
  refine ⟨hkeys ▸ Bindings.nodup _, ?_, solves_of_yields_resolve hfaithful hyields⟩
  have hset : {name | name ∈ r.map Prod.fst} =
      {name | Required catalogue supplied files selected table name} := by
    rw [hkeys]
    exact Set.ext fun name ↦ mem_keys_start_iff
  rw [hset]
  exact isLeast_required

/-- A table with a title and a slug that is made from it. -/
def slugTable : Table where
  entries :=
    [(.ofName "title", ⟨none, false, some "Web App", []⟩),
      (.ofName "slug", ⟨some "lowerCase(title)", false, none, ["title"]⟩)]

theorem parse_lowerCase_title :
    Expr.parse "lowerCase(title)" = .ok (.call .lowerCase [.ref "title"]) := by
  have hstart : Expr.Parser.start "lowerCase(title)".toList =
      .ok (.call ⟨.lowerCase, "title)".toList, by decide⟩) := rfl
  have hargs : Expr.Parser.arguments .lowerCase "title)".toList =
      .ok ⟨[.ref "title"], [], by decide⟩ := by
    rw [Expr.Parser.arguments, Expr.Parser.expression]
    · rfl
    · simp
    · simp
  rw [Expr.parse, Expr.Parser.expression, hstart]
  dsimp only
  rw [hargs]
  rfl

theorem isFaithful_slugTable : slugTable.IsFaithful := by
  refine Table.isFaithful_of_forall_mem ?_
  simp only [slugTable, List.forall_mem_cons, List.not_mem_nil, false_implies, implies_true,
    and_true]
  exact ⟨rfl, Expr.relatedVariables_eq_ok_iff.2 ⟨_, parse_lowerCase_title, rfl⟩⟩

theorem solvingOrder_slugTable : slugTable.solvingOrder ["slug"] = .ok ["slug"] := by
  have hrest : ["slug"].erase "slug" = [] := rfl
  rw [Table.solvingOrder, Dependency.order, Dependency.orderPending_of_find? (a := "slug") rfl,
    hrest, Dependency.orderPending_nil]
  rfl

theorem resolve_nobody_slugTable :
    ((resolve .nobody ⟨["slug"], [(0, ["slug"])]⟩ (fun _ ↦ none) ["file"] ["file"]
      slugTable).run.run (.start [])).1 = .ok [("slug", "web app"), ("title", "Web App")] := by
  have hyields : Yields (resolve .nobody ⟨["slug"], [(0, ["slug"])]⟩ (fun _ ↦ none) ["file"]
      ["file"] slugTable) (.start []) [("slug", "web app"), ("title", "Web App")]
      ⟨[], [], [.transform (.result "lowerCase(title)" "web app")]⟩ := by
    refine yields_resolve_iff.2
      ⟨⟨[("slug", none), ("title", some "Web App")], by decide⟩, .start [], rfl, ?_⟩
    have hunvalued : unvalued ⟨[("slug", none), ("title", some "Web App")], by decide⟩ =
        ["slug"] := rfl
    rw [computeRest, hunvalued, solvingOrder_slugTable]
    refine yields_bind.2
      ⟨⟨[("slug", some "web app"), ("title", some "Web App")], by decide⟩, _, ?_, rfl⟩
    refine yields_bind.2 ⟨"web app", _, ?_, rfl⟩
    change Yields (compute "lowerCase(title)" _) _ _ _
    rw [Yields, run_compute, evaluate, parse_lowerCase_title]
    rfl
  exact congrArg Prod.fst hyields

theorem resolve_nobody_isFixpoint_slugTable :
    IsLeast {names | Covers ⟨["slug"], [(0, ["slug"])]⟩ (fun _ ↦ none) ["file"] ["file"] slugTable
        names} {name | name ∈ ["slug", "title"]} ∧
      Solves slugTable (fun _ ↦ none) [("slug", "web app"), ("title", "Web App")] :=
  (resolve_nobody_isFixpoint isFaithful_slugTable resolve_nobody_slugTable).2

end Resolution

end Scaffold
