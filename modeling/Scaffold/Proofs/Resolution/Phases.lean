import Mathlib
import Scaffold.Proofs.Bindings
import Scaffold.Proofs.Traced
import Scaffold.Proofs.Transform.Locality
import Scaffold.Resolution.Resolve

/-!
# The phases of resolving

What each phase of resolving does to the values when it comes to its end: which names it gives
values to, what these values are, and that it leaves all other names and the order of all names as
they are. The phases are loops over lists of names, so each has one law for the name that is next,
from which the law of the whole phase follows by induction.
-/

namespace Scaffold.Resolution

variable {α β : Type} {c c' : Conversation} {e : ResolutionError}

/-! ## Computations in a conversation -/

/-- A computation that starts in the conversation `c` ends with the result `a` in the conversation
`c'`. -/
def Yields (x : Resolving α) (c : Conversation) (a : α) (c' : Conversation) : Prop :=
  x.run.run c = (.ok a, c')

/-- A computation that starts in the conversation `c` fails for the reason `e`. -/
def Fails (x : Resolving α) (c : Conversation) (e : ResolutionError) : Prop :=
  (x.run.run c).1 = .error e

theorem run_bind (x : Resolving α) (f : α → Resolving β) (c : Conversation) :
    (x >>= f).run.run c =
      match x.run.run c with
      | (.ok a, c') => (f a).run.run c'
      | (.error e, c') => (.error e, c') := by
  simp only [ExceptT.run_bind, StateT.run_bind]
  change (match x.run.run c with | (r, c') => _) = _
  rcases x.run.run c with ⟨_ | a, c'⟩ <;> rfl

theorem yields_pure {a b : α} : Yields (pure a) c b c' ↔ a = b ∧ c = c' := by
  change (Except.ok a, c) = (Except.ok b, c') ↔ _
  rw [Prod.mk.injEq, Except.ok.injEq]

theorem yields_bind {x : Resolving α} {f : α → Resolving β} {b : β} :
    Yields (x >>= f) c b c' ↔ ∃ a d, Yields x c a d ∧ Yields (f a) d b c' := by
  rw [Yields, run_bind]
  rcases h : x.run.run c with ⟨e | a, d⟩
  · refine ⟨fun hfail ↦ ?_, ?_⟩
    · injection hfail with herror
      cases herror
    · rintro ⟨a, d', hx, -⟩
      cases h.symm.trans hx
  · refine ⟨fun hf ↦ ⟨a, d, h, hf⟩, ?_⟩
    rintro ⟨a', d', hx, hf⟩
    cases h.symm.trans hx
    exact hf

theorem fails_bind {x : Resolving α} {f : α → Resolving β} :
    Fails (x >>= f) c e ↔ Fails x c e ∨ ∃ a d, Yields x c a d ∧ Fails (f a) d e := by
  rw [Fails, Fails, run_bind]
  rcases h : x.run.run c with ⟨e' | a, d⟩
  · refine ⟨fun hfail ↦ .inl (congrArg Except.error (Except.error.inj hfail)), ?_⟩
    rintro (hx | ⟨a, d', hx, -⟩)
    · exact congrArg Except.error (Except.error.inj hx)
    · cases h.symm.trans hx
  · refine ⟨fun hf ↦ .inr ⟨a, d, h, hf⟩, ?_⟩
    rintro (hx | ⟨a', d', hx, hf⟩)
    · cases hx
    · cases h.symm.trans hx
      exact hf

theorem not_yields_throw {a : α} : ¬Yields (throw e) c a c' := by
  change ¬(Except.error e, c) = (Except.ok a, c')
  simp

theorem not_fails_pure {a : α} : ¬Fails (pure a) c e := by
  change ¬(Except.ok a : Except ResolutionError α) = .error e
  simp

theorem fails_throw {e' : ResolutionError} : Fails (throw e' : Resolving α) c e ↔ e' = e := by
  change (Except.error e' : Except ResolutionError α) = .error e ↔ _
  rw [Except.error.injEq]

/-! ## Asking and computing -/

theorem run_compute (expression : String) (values : Values) (c : Conversation) :
    (compute expression values).run.run c =
      ((evaluate expression (valueOf values)).outcome.mapError .transform,
        c.report ((evaluate expression (valueOf values)).trace.map .transform)) := by
  rw [compute]
  cases (evaluate expression (valueOf values)).outcome <;> rfl

theorem outcome_of_yields_compute {expression : String} {values : Values} {text : String}
    (h : Yields (compute expression values) c text c') :
    (evaluate expression (valueOf values)).outcome = .ok text := by
  rw [Yields, run_compute, Prod.mk.injEq] at h
  exact Except.mapError_eq_ok_iff.1 h.1

theorem outcome_of_fails_compute {expression : String} {values : Values}
    (h : Fails (compute expression values) c e) :
    ∃ fault, e = .transform fault ∧
      (evaluate expression (valueOf values)).outcome = .error fault := by
  rw [Fails, run_compute] at h
  obtain ⟨fault, hfault, rfl⟩ := Except.mapError_eq_error_iff.1 h
  exact ⟨fault, rfl, hfault⟩

/-- Only the one who is asked makes a question fail. -/
theorem eq_of_fails_ask {prompter : Prompter} {p : Prompt} (h : Fails (ask prompter p) c e) :
    e = .unanswering ∨ e = .abandoned p.name := by
  by_cases hp : prompter = .unanswering
  · subst hp
    exact .inl (Except.error.inj h).symm
  · rw [ask, if_neg hp] at h
    -- telling and looking up what has been said never fails, so that the answer does
    rcases fails_bind.1 h with h | ⟨d, _, hget, h⟩
    · cases h
    · obtain rfl : c = d := Except.ok.inj (congrArg Prod.fst hget)
      rcases fails_bind.1 h with h | ⟨_, _, -, h⟩
      · cases h
      · split at h
        · exact absurd h not_fails_pure
        · exact .inr (fails_throw.1 h).symm

/-! ## Values by name -/

theorem valueOf_insert {values : Values} {name other : String} {value : Option String} :
    valueOf (values.insert name value) other =
      if other = name then value else valueOf values other := by
  rw [valueOf, Bindings.get?_insert]
  split <;> rfl

theorem valueOf_congr {values values' : Values} {name : String}
    (h : values'.get? name = values.get? name) : valueOf values' name = valueOf values name := by
  rw [valueOf, valueOf, h]

theorem valueOf_eq_some_iff {values : Values} {name text : String} :
    valueOf values name = some text ↔ values.get? name = some (some text) := by
  rw [valueOf]
  rcases values.get? name with _ | _ | value <;> simp

theorem valueOf_of_notMem {values : Values} {name : String} (h : name ∉ values.keys) :
    valueOf values name = none := by
  have hget : values.get? name = none := Option.eq_none_iff_forall_ne_some.2 fun value hvalue ↦
    h (Bindings.mem_keys_iff_exists.2 ⟨value, hvalue⟩)
  rw [valueOf, hget, Option.join_none]

/-- A name without a value is not bound, or it is bound to none. -/
theorem valueOf_eq_none_iff {values : Values} {name : String} (h : name ∈ values.keys) :
    valueOf values name = none ↔ values.get? name = some none := by
  obtain ⟨value, hvalue⟩ := Bindings.mem_keys_iff_exists.1 h
  rw [valueOf, hvalue]
  exact ⟨fun hnone ↦ congrArg some hnone, fun hnone ↦ Option.some.inj hnone⟩

/-! ## Leaves -/

/-- A variable that resolving the leaves gives a value to. -/
def IsOpenLeaf (table : Table) (values : Values) (name : String) : Prop :=
  valueOf values name = none ∧ isDerived table name = false

theorem not_isOpenLeaf_iff {table : Table} {values : Values} {name : String} :
    ¬IsOpenLeaf table values name ↔
      ((valueOf values name).isSome || isDerived table name) = true := by
  rw [IsOpenLeaf, Bool.or_eq_true, ← Bool.not_eq_false, ← Bool.not_eq_false]
  simp only [Option.isSome_eq_false_iff, Option.isNone_iff_eq_none]
  tauto

theorem resolveLeaves_cons_of_not {prompter : Prompter} {table : Table} {name : String}
    {names : List String} {values : Values} (h : ¬IsOpenLeaf table values name) :
    resolveLeaves prompter table (name :: names) values =
      resolveLeaves prompter table names values := by
  rw [resolveLeaves, if_pos (not_isOpenLeaf_iff.1 h)]

theorem yields_resolveLeaves_cons {prompter : Prompter} {table : Table} {name : String}
    {names unresolved : List String} {values values' : Values}
    (hleaf : IsOpenLeaf table values name)
    (h : Yields (resolveLeaves prompter table (name :: names) values) c (unresolved, values') c') :
    ∃ value d rest, Yields (leafValue prompter name (table.find? name) values) c value d ∧
      Yields (resolveLeaves prompter table names (values.insert name value)) d (rest, values') c' ∧
      unresolved = if value.isNone then name :: rest else rest := by
  rw [resolveLeaves, if_neg (mt not_isOpenLeaf_iff.2 (not_not.2 hleaf)), yields_bind] at h
  obtain ⟨value, d, hvalue, h⟩ := h
  obtain ⟨⟨rest, values''⟩, d', hrest, h⟩ := yields_bind.1 h
  obtain ⟨heq, rfl⟩ := yields_pure.1 h
  rw [Prod.mk.injEq] at heq
  obtain ⟨rfl, rfl⟩ := heq
  exact ⟨value, d, rest, hvalue, hrest, rfl⟩

/-- The leaves among some names have been resolved: each leaf without a value has got what resolving
it alone gives, and is reported if that is nothing; all else is as it was. -/
structure LeafPass (prompter : Prompter) (table : Table) (names : List String) (values : Values)
    (unresolved : List String) (values' : Values) : Prop where
  /-- The names stay in their order. -/
  keys : values'.keys = values.keys
  /-- Other names keep what they have. -/
  other : ∀ name, ¬(name ∈ names ∧ IsOpenLeaf table values name) →
    values'.get? name = values.get? name
  /-- A leaf without a value gets one. -/
  leaf : ∀ name ∈ names, IsOpenLeaf table values name →
    ∃ value mid d d', Yields (leafValue prompter name (table.find? name) mid) d value d' ∧
      values'.get? name = some value ∧ (value = none → name ∈ unresolved)

theorem LeafPass.nil (prompter : Prompter) (table : Table) (values : Values) :
    LeafPass prompter table [] values [] values :=
  ⟨rfl, fun _ _ ↦ rfl, by simp⟩

theorem leafPass_of_yields {prompter : Prompter} {table : Table} {names unresolved : List String}
    {values values' : Values} (hnodup : names.Nodup) (hkeys : ∀ name ∈ names, name ∈ values.keys)
    (h : Yields (resolveLeaves prompter table names values) c (unresolved, values') c') :
    LeafPass prompter table names values unresolved values' := by
  induction names generalizing values unresolved c with
  | nil =>
    obtain ⟨heq, -⟩ := yields_pure.1 h
    cases heq
    exact .nil prompter table _
  | cons name names ih =>
    obtain ⟨hname, hnodup⟩ := List.nodup_cons.1 hnodup
    obtain ⟨hkey, hkeys⟩ := List.forall_mem_cons.1 hkeys
    by_cases hleaf : IsOpenLeaf table values name
    · obtain ⟨value, d, rest, hvalue, hrest, rfl⟩ := yields_resolveLeaves_cons hleaf h
      have hkeep : ∀ other, other ≠ name →
          (values.insert name value).get? other = values.get? other :=
        fun other hne ↦ Bindings.get?_insert_of_ne values hne value
      have hopen : ∀ other, other ≠ name →
          (IsOpenLeaf table (values.insert name value) other ↔ IsOpenLeaf table values other) := by
        intro other hne
        rw [IsOpenLeaf, IsOpenLeaf, valueOf_congr (hkeep other hne)]
      -- the value of one leaf neither opens nor closes another, so the rest is as if it came first
      have hpass := ih hnodup (by simpa [Bindings.keys_insert_of_mem hkey] using hkeys) hrest
      refine ⟨hpass.keys.trans (Bindings.keys_insert_of_mem hkey value), ?_, ?_⟩
      · intro other hother
        have hne : other ≠ name := fun heq ↦ hother ⟨heq ▸ List.mem_cons_self, heq ▸ hleaf⟩
        rw [hpass.other other, hkeep other hne]
        rintro ⟨hmem, hopenOther⟩
        exact hother ⟨List.mem_cons_of_mem _ hmem, (hopen other hne).1 hopenOther⟩
      · intro other hmem hopenOther
        rcases List.mem_cons.1 hmem with rfl | hmem
        · refine ⟨value, values, c, d, hvalue, ?_, ?_⟩
          · rw [hpass.other other fun hin ↦ hname hin.1, Bindings.get?_insert_self]
          · rintro rfl
            exact List.mem_cons_self
        · have hne : other ≠ name := fun heq ↦ hname (heq ▸ hmem)
          obtain ⟨value', mid, d₁, d₂, hy, hget, hreport⟩ :=
            hpass.leaf other hmem ((hopen other hne).2 hopenOther)
          refine ⟨value', mid, d₁, d₂, hy, hget, fun hnone ↦ ?_⟩
          split
          · exact List.mem_cons_of_mem _ (hreport hnone)
          · exact hreport hnone
    · rw [resolveLeaves_cons_of_not hleaf] at h
      have hpass := ih hnodup hkeys h
      refine ⟨hpass.keys, fun other hother ↦ hpass.other other fun hin ↦
        hother ⟨List.mem_cons_of_mem _ hin.1, hin.2⟩, fun other hmem hopen ↦ ?_⟩
      rcases List.mem_cons.1 hmem with rfl | hmem
      · exact absurd hopen hleaf
      · exact hpass.leaf other hmem hopen

/-! ## Computed and confirmed values -/

/-- A phase that gives values to some names and leaves all else as it is. -/
structure Assigns (names : List String) (values values' : Values) : Prop where
  /-- The names stay in their order. -/
  keys : values'.keys = values.keys
  /-- Other names keep what they have. -/
  other : ∀ name ∉ names, values'.get? name = values.get? name
  /-- Every name has got a value. -/
  assigned : ∀ name ∈ names, ∃ text, valueOf values' name = some text

theorem Assigns.nil (values : Values) : Assigns [] values values :=
  ⟨rfl, fun _ _ ↦ rfl, by simp⟩

theorem Assigns.cons {name text : String} {names : List String} {values values' : Values}
    (hkey : name ∈ values.keys) (h : Assigns names (values.insert name (some text)) values') :
    Assigns (name :: names) values values' := by
  refine ⟨h.keys.trans (Bindings.keys_insert_of_mem hkey _), fun other hother ↦ ?_,
    fun other hother ↦ ?_⟩
  · rw [List.mem_cons, not_or] at hother
    rw [h.other other hother.2, Bindings.get?_insert_of_ne _ hother.1]
  · by_cases hmem : other ∈ names
    · exact h.assigned other hmem
    · obtain rfl := (List.mem_cons.1 hother).resolve_right hmem
      exact ⟨text, by rw [valueOf, h.other other hmem, Bindings.get?_insert_self]; rfl⟩

/-- A confirmed name without a question keeps the value that it has. -/
theorem Assigns.keep {name text : String} {names : List String} {values values' : Values}
    (hvalue : valueOf values name = some text) (h : Assigns names values values') :
    Assigns (name :: names) values values' := by
  refine ⟨h.keys, fun other hother ↦ h.other other fun hmem ↦ hother (List.mem_cons_of_mem _ hmem),
    fun other hother ↦ ?_⟩
  by_cases hmem : other ∈ names
  · exact h.assigned other hmem
  · obtain rfl := (List.mem_cons.1 hother).resolve_right hmem
    exact ⟨text, (valueOf_congr (h.other other hmem)).trans hvalue⟩

theorem yields_computeAll_cons {table : Table} {name : String} {names : List String}
    {values values' : Values} (h : Yields (computeAll table (name :: names) values) c values' c') :
    ∃ text d, (evaluate (transformOf table name) (valueOf values)).outcome = .ok text ∧
      Yields (computeAll table names (values.insert name (some text))) d values' c' := by
  obtain ⟨text, d, htext, h⟩ := yields_bind.1 h
  exact ⟨text, d, outcome_of_yields_compute htext, h⟩

theorem assigns_of_yields_computeAll {table : Table} {names : List String} {values values' : Values}
    (hkeys : ∀ name ∈ names, name ∈ values.keys)
    (h : Yields (computeAll table names values) c values' c') : Assigns names values values' := by
  induction names generalizing values c with
  | nil =>
    obtain ⟨rfl, -⟩ := yields_pure.1 h
    exact .nil _
  | cons name names ih =>
    obtain ⟨hkey, hkeys⟩ := List.forall_mem_cons.1 hkeys
    obtain ⟨text, d, -, h⟩ := yields_computeAll_cons h
    exact .cons hkey (ih (by simpa [Bindings.keys_insert_of_mem hkey] using hkeys) h)

/-- A computed value is the value of its transform over the values at the end, when no name depends
on itself or on one whose turn is later. -/
theorem outcome_of_yields_computeAll {table : Table} {names : List String} {values values' : Values}
    (hkeys : ∀ name ∈ names, name ∈ values.keys)
    (hrelated : ∀ name ∈ names,
      Expr.relatedVariables (transformOf table name) = .ok (table.dependencies name))
    (hself : ∀ name ∈ names, name ∉ table.dependencies name)
    (hlater : names.Pairwise fun name later ↦ later ∉ table.dependencies name)
    (hnodup : names.Nodup) (h : Yields (computeAll table names values) c values' c') :
    ∀ name ∈ names, ∃ text, valueOf values' name = some text ∧
      (evaluate (transformOf table name) (valueOf values')).outcome = .ok text := by
  induction names generalizing values c with
  | nil => simp
  | cons name names ih =>
    have hassigns := assigns_of_yields_computeAll hkeys h
    obtain ⟨hkey, hkeys⟩ := List.forall_mem_cons.1 hkeys
    obtain ⟨hname, hnodup⟩ := List.nodup_cons.1 hnodup
    obtain ⟨hnone, hlater⟩ := List.pairwise_cons.1 hlater
    obtain ⟨text, d, htext, h⟩ := yields_computeAll_cons h
    have hkeys' : ∀ other ∈ names, other ∈ (values.insert name (some text)).keys := by
      simpa [Bindings.keys_insert_of_mem hkey] using hkeys
    intro other hother
    rcases List.mem_cons.1 hother with rfl | hother
    · refine ⟨text, ?_, ?_⟩
      · rw [valueOf, (assigns_of_yields_computeAll hkeys' h).other other hname,
          Bindings.get?_insert_self]
        rfl
      · -- what the transform reads has its last value already
        rw [← htext]
        refine congrArg Traced.outcome (evaluate_congr (hrelated _ List.mem_cons_self) ?_)
        intro dep hdep
        refine valueOf_congr (hassigns.other dep ?_)
        rw [List.mem_cons, not_or]
        exact ⟨fun heq ↦ hself other List.mem_cons_self (heq ▸ hdep),
          fun hmem ↦ hnone dep hmem hdep⟩
    · exact ih hkeys' (fun o ho ↦ hrelated o (List.mem_cons_of_mem _ ho))
        (fun o ho ↦ hself o (List.mem_cons_of_mem _ ho)) hlater hnodup h other hother

theorem assigns_of_yields_confirmAll {prompter : Prompter} {table : Table} {names : List String}
    {values values' : Values} (hkeys : ∀ name ∈ names, name ∈ values.keys)
    (hvalues : ∀ name ∈ names, ∃ text, valueOf values name = some text)
    (h : Yields (confirmAll prompter table names values) c values' c') :
    Assigns names values values' := by
  induction names generalizing values c with
  | nil =>
    obtain ⟨rfl, -⟩ := yields_pure.1 h
    exact .nil _
  | cons name names ih =>
    obtain ⟨hkey, hkeys⟩ := List.forall_mem_cons.1 hkeys
    obtain ⟨⟨text, htext⟩, hvalues⟩ := List.forall_mem_cons.1 hvalues
    rw [confirmAll] at h
    by_cases hskip : (table.find? name).any Definition.skipIfDefined
    · rw [if_pos hskip] at h
      exact .keep htext (ih hkeys hvalues h)
    · rw [if_neg hskip] at h
      obtain ⟨answer, d, -, h⟩ := yields_bind.1 h
      refine .cons hkey (ih (by simpa [Bindings.keys_insert_of_mem hkey] using hkeys) ?_ h)
      intro other hother
      obtain ⟨text', htext'⟩ := hvalues other hother
      by_cases heq : other = name
      · exact ⟨answer, by rw [valueOf_insert, if_pos heq]⟩
      · exact ⟨text', by rw [valueOf_insert, if_neg heq, htext']⟩

/-! ## The result -/

theorem lookup_settled (values : Values) (name : String) :
    (settled values).lookup name = valueOf values name := by
  obtain ⟨entries, hnodup⟩ := values
  simp only [settled, valueOf, Bindings.get?]
  induction entries with
  | nil => rfl
  | cons entry entries ih =>
    obtain ⟨key, value⟩ := entry
    rw [List.map_cons, List.nodup_cons] at hnodup
    have ih := ih hnodup.2
    rw [List.filterMap_cons, lookup_cons_eq_ite]
    cases value with
    | some text =>
      simp only [Option.map_some]
      rw [lookup_cons_eq_ite, ih]
      split <;> rfl
    | none =>
      simp only [Option.map_none]
      by_cases hname : name = key
      · subst hname
        have hnone : entries.lookup name = none :=
          Option.not_isSome_iff_eq_none.1 (mt lookup_isSome_iff_mem_keys.1 hnodup.1)
        rw [ih, hnone, if_pos rfl]
        rfl
      · rw [ih, if_neg hname]

theorem map_fst_settled {values : Values}
    (h : ∀ name ∈ values.keys, ∃ text, valueOf values name = some text) :
    (settled values).map Prod.fst = values.keys := by
  have hsome : ∀ entry ∈ values.entries, ∃ text, entry.2 = some text := by
    rintro ⟨name, value⟩ hentry
    have hget := Bindings.get?_eq_some_iff.2 hentry
    obtain ⟨text, htext⟩ := h name (Bindings.mem_keys_iff_exists.2 ⟨value, hget⟩)
    rw [valueOf, hget] at htext
    exact ⟨text, htext⟩
  rw [settled, Bindings.keys]
  generalize values.entries = entries at hsome
  induction entries with
  | nil => rfl
  | cons entry entries ih =>
    obtain ⟨⟨text, htext⟩, hrest⟩ := List.forall_mem_cons.1 hsome
    obtain ⟨name, value⟩ := entry
    subst htext
    rw [List.filterMap_cons, List.map_cons]
    simp only [Option.map_some, List.map_cons]
    rw [ih hrest]

end Scaffold.Resolution
