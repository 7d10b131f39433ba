import Mathlib
import Scaffold.Proofs.Config.Table
import Scaffold.Proofs.Resolution.Closure
import Scaffold.Proofs.Resolution.Phases

/-!
# The search wave by wave

What the rounds of a whole queue find is a wave. The first wave is what the names without a value
depend on, and each further wave is what the unsupplied names of the wave before it depend on, less
what is known by then. Whether a queue is read name by name or all at once makes no difference, and
so the search goes on wave by wave until there is nothing left to read.

The waves tell how far off a name is: the first one and `k` more are the names that are reached over
at most `k` others. All waves together are what is reached at all. A name that has a value, supplied
or bound from the beginning, leads no further.
-/

namespace Scaffold.Resolution

variable {dependencies : String → List String} {supplied : String → Option String}

/-! ## The rounds of a whole queue -/

theorem discover_append_queue {names queue rest : List String} {values : Values} :
    discover supplied names (queue ++ rest) values =
      (queue ++ (discover supplied names rest values).1,
        (discover supplied names rest values).2) := by
  induction names generalizing rest values with
  | nil => rfl
  | cons name names ih =>
    rw [discover, discover]
    split
    · exact ih
    · split
      · rw [List.append_assoc]
        exact ih
      · exact ih

theorem discover_append {names more queue : List String} {values : Values} :
    discover supplied (names ++ more) queue values =
      discover supplied more (discover supplied names queue values).1
        (discover supplied names queue values).2 := by
  induction names generalizing queue values with
  | nil => rfl
  | cons name names ih =>
    rw [List.cons_append, discover, discover]
    split
    · exact ih
    · exact ih

theorem spread_append {fuel : ℕ} {queue rest : List String} {values : Values} :
    spread dependencies supplied (queue.length + fuel) (queue ++ rest) values =
      spread dependencies supplied fuel
        (discover supplied (queue.flatMap dependencies) rest values).1
        (discover supplied (queue.flatMap dependencies) rest values).2 := by
  induction queue generalizing rest values with
  | nil =>
    rw [List.length_nil, Nat.zero_add]
    rfl
  | cons name queue ih =>
    rw [List.length_cons, Nat.add_right_comm, List.cons_append, spread, discover_append_queue]
    dsimp only
    rw [ih, List.flatMap_cons, discover_append]

/-- The rounds of a queue come to the same as one round that reads all its dependencies. -/
theorem spread_length_add {fuel : ℕ} {queue : List String} {values : Values} :
    spread dependencies supplied (queue.length + fuel) queue values =
      spread dependencies supplied fuel (discover supplied (queue.flatMap dependencies) [] values).1
        (discover supplied (queue.flatMap dependencies) [] values).2 := by
  rw [← spread_append, List.append_nil]

theorem spread_nil {fuel : ℕ} {values : Values} :
    spread dependencies supplied fuel [] values = values := by
  cases fuel <;> rfl

/-- The names of a list that are not supplied. -/
def unsupplied (supplied : String → Option String) (names : List String) : List String :=
  names.filter fun name ↦ (supplied name).isNone

theorem mem_unsupplied {names : List String} {name : String} :
    name ∈ unsupplied supplied names ↔ name ∈ names ∧ supplied name = none := by
  rw [unsupplied, List.mem_filter, Option.isNone_iff_eq_none]

theorem unsupplied_append {names more : List String} :
    unsupplied supplied (names ++ more) = unsupplied supplied names ++ unsupplied supplied more :=
  List.filter_append _ _

/-! ## Waves -/

/-- The waves of names that are found from sources. -/
inductive Waves (dependencies : String → List String) (supplied : String → Option String) :
    (known sources : List String) → List (List String) → Prop where
  /-- There are no sources. -/
  | done {known : List String} : Waves dependencies supplied known [] []
  /-- What the sources depend on and is not known is found, in the order in which it is read. The
  unsupplied names among it are the sources of the next wave. -/
  | wave {known sources : List String} {waves : List (List String)} (hne : sources ≠ [])
    (h : Waves dependencies supplied (known ++ novel known (sources.flatMap dependencies))
      (unsupplied supplied (novel known (sources.flatMap dependencies))) waves) :
    Waves dependencies supplied known sources (novel known (sources.flatMap dependencies) :: waves)

/-- A search with fuel enough goes on wave by wave, until there are no sources. -/
theorem exists_waves_spread {all : List String}
    (hall : ∀ name, ∀ dep ∈ dependencies name, dep ∈ all) {fuel : ℕ} {queue : List String}
    {values : Values} (hfuel : queue.length + missing all values ≤ fuel) :
    ∃ waves, Waves dependencies supplied values.keys queue waves ∧
      (spread dependencies supplied fuel queue values).entries =
        values.entries ++ waves.flatten.map fun name ↦ (name, supplied name) := by
  induction fuel using Nat.strong_induction_on generalizing queue values with
  | _ fuel ih =>
    by_cases hne : queue = []
    · subst hne
      exact ⟨[], .done, by rw [spread_nil, List.flatten_nil, List.map_nil, List.append_nil]⟩
    · let next := discover supplied (queue.flatMap dependencies) [] values
      -- what is read at once needs no more fuel than there are names to be found
      have hnext : next.1.length + missing all next.2 ≤ 0 + missing all values := by
        refine queue_add_missing_discover_le [] values fun name hname ↦ ?_
        obtain ⟨source, -, hdep⟩ := List.mem_flatMap.1 hname
        exact hall source name hdep
      have hpos : 0 < queue.length := List.length_pos_of_ne_nil hne
      obtain ⟨rest, rfl⟩ := Nat.exists_eq_add_of_le (show queue.length ≤ fuel by omega)
      have hrest : next.1.length + missing all next.2 ≤ rest := by omega
      obtain ⟨waves, hwaves, hentries⟩ := ih rest (by omega) hrest
      rw [keys_discover, queue_discover, List.nil_append] at hwaves
      refine ⟨_ :: waves, .wave hne hwaves, ?_⟩
      rw [spread_length_add, hentries, entries_discover, List.flatten_cons, List.map_append,
        List.append_assoc]

theorem exists_waves_closure {all : List String}
    (hall : ∀ name, ∀ dep ∈ dependencies name, dep ∈ all) (supplied : String → Option String)
    (values : Values) :
    ∃ waves, Waves dependencies supplied values.keys (unvalued values) waves ∧
      (closure dependencies all.length supplied values).entries =
        values.entries ++ waves.flatten.map fun name ↦ (name, supplied name) :=
  exists_waves_spread hall (Nat.add_le_add_left (missing_le_length all values) _)

namespace Waves

variable {known sources : List String} {waves : List (List String)}

/-- The waves are what the sources depend on and what the unsupplied names found depend on, all of
it read in order. -/
theorem flatten_eq_novel (h : Waves dependencies supplied known sources waves) :
    waves.flatten =
      novel known ((sources ++ unsupplied supplied waves.flatten).flatMap dependencies) := by
  induction h with
  | done => rfl
  | wave hne h ih =>
    rw [List.flatten_cons, unsupplied_append, List.flatMap_append, novel_append, ← ih]

theorem nodup_flatten (h : Waves dependencies supplied known sources waves) :
    waves.flatten.Nodup :=
  h.flatten_eq_novel ▸ nodup_novel

/-- Each name is found from a source or from a name that comes before it. -/
theorem exists_reader (h : Waves dependencies supplied known sources waves)
    {before after : List String} {name : String} (heq : waves.flatten = before ++ name :: after) :
    ∃ reader ∈ sources ++ unsupplied supplied before, name ∈ dependencies reader := by
  induction h generalizing before with
  | done => simp at heq
  | @wave known sources waves hne h ih =>
    rw [List.flatten_cons] at heq
    rcases List.append_eq_append_iff.1 heq with ⟨middle, hbefore, hrest⟩ | ⟨middle, hwave, hrest⟩
    · obtain ⟨reader, hreader, hdep⟩ := ih hrest
      refine ⟨reader, List.mem_append_right _ ?_, hdep⟩
      rwa [hbefore, unsupplied_append]
    · cases middle with
      | nil =>
        -- the wave ends just before the name
        have hfirst : waves.flatten = [] ++ name :: after := hrest.symm
        obtain ⟨reader, hreader, hdep⟩ := ih hfirst
        rw [hwave, List.append_nil, ← unsupplied_append, List.append_nil] at hreader
        exact ⟨reader, List.mem_append_right _ hreader, hdep⟩
      | cons other middle =>
        obtain ⟨rfl, -⟩ := List.cons.inj hrest
        have hname : name ∈ novel known (sources.flatMap dependencies) :=
          hwave ▸ List.mem_append_right _ List.mem_cons_self
        obtain ⟨reader, hreader, hdep⟩ := List.mem_flatMap.1 (mem_novel.1 hname).1
        exact ⟨reader, List.mem_append_left _ hreader, hdep⟩

/-- The names of the waves up to the one after `k` others are what the sources and the unsupplied
names of those others depend on. -/
theorem mem_take_iff (h : Waves dependencies supplied known sources waves) {k : ℕ} {name : String} :
    name ∈ (waves.take (k + 1)).flatten ↔
      name ∉ known ∧ ∃ reader ∈ sources ++ unsupplied supplied (waves.take k).flatten,
        name ∈ dependencies reader := by
  have hread : ∀ known sources : List String, name ∈ novel known (sources.flatMap dependencies) ↔
      name ∉ known ∧ ∃ reader ∈ sources, name ∈ dependencies reader := by
    intro known sources
    rw [mem_novel, List.mem_flatMap, and_comm]
  induction h generalizing k with
  | done => simp [unsupplied]
  | @wave known sources waves hne h ih =>
    rw [List.take_succ_cons, List.flatten_cons, List.mem_append, hread]
    cases k with
    | zero => simp [unsupplied]
    | succ k =>
      refine (or_congr Iff.rfl ih).trans ?_
      rw [List.mem_append, hread, List.take_succ_cons, List.flatten_cons, unsupplied_append]
      simp only [List.mem_append]
      grind

end Waves

/-! ## Names between -/

/-- A name that dependencies lead to from a source, over `n` names in between, all of them such as
`via` says. -/
inductive Leads (dependencies : String → List String) (via : String → Prop) (source : String) :
    ℕ → String → Prop where
  /-- The source depends on the name. -/
  | direct {name : String} (hdep : name ∈ dependencies source) :
    Leads dependencies via source 0 name
  /-- A name that the source leads to depends on it. -/
  | through {n : ℕ} {mid name : String} (h : Leads dependencies via source n mid) (hvia : via mid)
    (hdep : name ∈ dependencies mid) : Leads dependencies via source (n + 1) name

/-- A name that is not known, to which one of the sources leads over `n` names in between. -/
structure IsReached (dependencies : String → List String) (via : String → Prop)
    (known sources : List String) (n : ℕ) (name : String) : Prop where
  /-- The name is not known. -/
  notMem : name ∉ known
  /-- A source leads to the name. -/
  exists_leads : ∃ source ∈ sources, Leads dependencies via source n name

namespace Waves

variable {known sources : List String} {waves : List (List String)} {via : String → Prop}

/-- A name is reached no later than in the wave after as many as there are names in between. -/
theorem mem_take_of_leads (h : Waves dependencies supplied known sources waves)
    (hnew : ∀ mid ∉ known, via mid → supplied mid = none)
    (hold : ∀ mid ∈ known, via mid → mid ∈ sources) {source name : String}
    (hsource : source ∈ sources) {n : ℕ} (hleads : Leads dependencies via source n name)
    (hname : name ∉ known) : name ∈ (waves.take (n + 1)).flatten := by
  induction hleads with
  | direct hdep => exact h.mem_take_iff.2 ⟨hname, source, List.mem_append_left _ hsource, hdep⟩
  | @through n mid name _ hvia hdep ih =>
    refine h.mem_take_iff.2 ⟨hname, mid, List.mem_append.2 ?_, hdep⟩
    by_cases hmid : mid ∈ known
    · exact .inl (hold mid hmid hvia)
    · exact .inr (mem_unsupplied.2 ⟨ih hmid, hnew mid hmid hvia⟩)

theorem exists_isReached_of_mem_take (h : Waves dependencies supplied known sources waves)
    (hnew : ∀ mid ∉ known, supplied mid = none → via mid) {k : ℕ} {name : String}
    (hname : name ∈ (waves.take (k + 1)).flatten) :
    ∃ n ≤ k, IsReached dependencies via known sources n name := by
  induction k generalizing name with
  | zero =>
    obtain ⟨hname, reader, hreader, hdep⟩ := h.mem_take_iff.1 hname
    have hsource : reader ∈ sources := by simpa [unsupplied] using hreader
    exact ⟨0, le_rfl, hname, reader, hsource, .direct hdep⟩
  | succ k ih =>
    obtain ⟨hname, reader, hreader, hdep⟩ := h.mem_take_iff.1 hname
    rcases List.mem_append.1 hreader with hsource | hfound
    · exact ⟨0, Nat.zero_le _, hname, reader, hsource, .direct hdep⟩
    · obtain ⟨hfound, hnone⟩ := mem_unsupplied.1 hfound
      obtain ⟨n, hn, hreader, source, hsource, hleads⟩ := ih hfound
      exact ⟨n + 1, Nat.succ_le_succ hn, hname, source, hsource,
        .through hleads (hnew reader hreader hnone) hdep⟩

/-- The first wave and `k` more are the names that are reached over at most `k` names in between. -/
theorem mem_take_iff_isReached (h : Waves dependencies supplied known sources waves)
    (hnew : ∀ mid ∉ known, via mid ↔ supplied mid = none)
    (hold : ∀ mid ∈ known, via mid → mid ∈ sources) {k : ℕ} {name : String} :
    name ∈ (waves.take (k + 1)).flatten ↔
      ∃ n ≤ k, IsReached dependencies via known sources n name := by
  constructor
  · exact h.exists_isReached_of_mem_take fun mid hmid ↦ (hnew mid hmid).2
  · rintro ⟨n, hn, hname, source, hsource, hleads⟩
    have hmem : name ∈ (waves.take (n + 1)).flatten :=
      h.mem_take_of_leads (fun mid hmid ↦ (hnew mid hmid).1) hold hsource hleads hname
    exact (List.take_prefix_take_left (Nat.succ_le_succ hn)).sublist.flatten.subset hmem

theorem mem_flatten_iff_isReached (h : Waves dependencies supplied known sources waves)
    (hnew : ∀ mid ∉ known, via mid ↔ supplied mid = none)
    (hold : ∀ mid ∈ known, via mid → mid ∈ sources) {name : String} :
    name ∈ waves.flatten ↔ ∃ n, IsReached dependencies via known sources n name := by
  constructor
  · intro hname
    rw [← List.take_of_length_le (Nat.le_succ waves.length)] at hname
    obtain ⟨n, -, hreached⟩ := (h.mem_take_iff_isReached hnew hold).1 hname
    exact ⟨n, hreached⟩
  · rintro ⟨n, hreached⟩
    have hmem := (h.mem_take_iff_isReached hnew hold).2 ⟨n, le_rfl, hreached⟩
    exact (List.take_prefix _ _).sublist.flatten.subset hmem

end Waves

/-! ## The closure -/

theorem extends_closure {all : List String}
    (hall : ∀ name, ∀ dep ∈ dependencies name, dep ∈ all) {values : Values} :
    Extends supplied values (closure dependencies all.length supplied values) := by
  obtain ⟨waves, -, hentries⟩ := exists_waves_closure hall supplied values
  exact ⟨waves.flatten, hentries⟩

/-- A variable for which no value is supplied and which is not bound to a value either. -/
def LacksValue (supplied : String → Option String) (values : Values) (name : String) : Prop :=
  supplied name = none ∧ valueOf values name = none

theorem lacksValue_iff_of_notMem {values : Values} {name : String} (h : name ∉ values.keys) :
    LacksValue supplied values name ↔ supplied name = none :=
  and_iff_left (valueOf_of_notMem h)

theorem LacksValue.mem_unvalued {values : Values} {name : String}
    (h : LacksValue supplied values name) (hmem : name ∈ values.keys) : name ∈ unvalued values :=
  Resolution.mem_unvalued.2 ((valueOf_eq_none_iff hmem).1 h.2)

/-- The closure adds what is reached from the names without a value. -/
theorem mem_keys_closure_iff {all : List String}
    (hall : ∀ name, ∀ dep ∈ dependencies name, dep ∈ all) {values : Values} {name : String} :
    name ∈ (closure dependencies all.length supplied values).keys ↔
      name ∈ values.keys ∨
        ∃ n, IsReached dependencies (LacksValue supplied values) values.keys (unvalued values) n
          name := by
  obtain ⟨waves, hwaves, hentries⟩ := exists_waves_closure hall supplied values
  rw [keys_of_entries hentries, List.mem_append, hwaves.mem_flatten_iff_isReached
    (fun _ ↦ lacksValue_iff_of_notMem) fun _ hmid hvia ↦ hvia.mem_unvalued hmid]

/-- The closure contains what its names without a value depend on. -/
theorem mem_keys_closure_of_dependency {all : List String}
    (hall : ∀ name, ∀ dep ∈ dependencies name, dep ∈ all) {values : Values} {name dep : String}
    (h : name ∈ unvalued (closure dependencies all.length supplied values))
    (hdep : dep ∈ dependencies name) :
    dep ∈ (closure dependencies all.length supplied values).keys := by
  have hextends : Extends supplied values (closure dependencies all.length supplied values) :=
    extends_closure hall
  have hkey := mem_keys_of_mem_unvalued h
  rw [mem_unvalued] at h
  rw [mem_keys_closure_iff hall]
  refine or_iff_not_imp_left.2 fun hnew ↦ ?_
  by_cases hold : name ∈ values.keys
  · rw [hextends.get?_eq hold, ← mem_unvalued] at h
    exact ⟨0, hnew, name, h, .direct hdep⟩
  · rw [hextends.get?_of_notMem hkey hold, Option.some.injEq] at h
    obtain ⟨n, -, source, hsource, hleads⟩ := ((mem_keys_closure_iff hall).1 hkey).resolve_left hold
    exact ⟨n + 1, hnew, source, hsource,
      .through hleads ((lacksValue_iff_of_notMem hold).2 h) hdep⟩

/-! ## The closure of a table -/

/-- The search for dependencies ends from wherever it has come to, also in a table with cycles, and
the closure is what it ends with. It leaves the bindings as they are and adds each name once, with
what is supplied for it. The names come wave by wave: those of the first wave and of `k` more are
reached from a name that is bound without a value over at most `k` names in between, all of them
without a value. When bindings have no other values than supplied ones, it is enough that the names
in between are not supplied. -/
theorem closure_exact (table : Table) (supplied : String → Option String) (values : Values) :
    (WellFounded fun after before ↦ SearchStep table.dependencies supplied before after) ∧
      Relation.ReflTransGen (SearchStep table.dependencies supplied) (unvalued values, values)
        ([], closure table.dependencies table.allDependencies.length supplied values) ∧
      ∃ waves, Waves table.dependencies supplied values.keys (unvalued values) waves ∧
        (closure table.dependencies table.allDependencies.length supplied values).entries =
          values.entries ++ waves.flatten.map (fun name ↦ (name, supplied name)) ∧
        waves.flatten.Nodup ∧
        (∀ k name, name ∈ (waves.take (k + 1)).flatten ↔
          ∃ n ≤ k, IsReached table.dependencies (LacksValue supplied values) values.keys
            (unvalued values) n name) ∧
        (∀ name, name ∈ waves.flatten ↔
          ∃ n, IsReached table.dependencies (LacksValue supplied values) values.keys
            (unvalued values) n name) ∧
        ((∀ name, supplied name = none → valueOf values name = none) →
          ∀ name, name ∈ waves.flatten ↔
            ∃ n, IsReached table.dependencies (fun mid ↦ supplied mid = none) values.keys
              (unvalued values) n name) := by
  have hall : ∀ name, ∀ dep ∈ table.dependencies name, dep ∈ table.allDependencies :=
    Table.mem_allDependencies
  obtain ⟨waves, hwaves, hentries⟩ := exists_waves_closure hall supplied values
  have hnew : ∀ mid ∉ values.keys, LacksValue supplied values mid ↔ supplied mid = none :=
    fun _ ↦ lacksValue_iff_of_notMem
  have hold : ∀ mid ∈ values.keys, LacksValue supplied values mid → mid ∈ unvalued values :=
    fun _ hmid hvia ↦ hvia.mem_unvalued hmid
  refine ⟨wellFounded_searchStep hall, searchSteps_closure hall supplied values, waves, hwaves,
    hentries, hwaves.nodup_flatten, fun k name ↦ ?_, fun name ↦ ?_, fun hvalues name ↦ ?_⟩
  · exact hwaves.mem_take_iff_isReached hnew hold
  · exact hwaves.mem_flatten_iff_isReached hnew hold
  · exact hwaves.mem_flatten_iff_isReached (fun _ _ ↦ Iff.rfl)
      fun mid hmid hnone ↦ hold mid hmid ⟨hnone, hvalues mid hnone⟩

/-- A table with a title that depends on itself, a slug that leads back to the title and on to a
path, of which the table says nothing, and an owner who has a group. -/
def ringTable : Table where
  entries :=
    [(.ofName "title", ⟨some "replace(slug, title, slug)", false, none, ["slug", "title", "slug"]⟩),
      (.ofName "slug", ⟨some "replace(owner, path, title)", false, none,
        ["owner", "path", "title"]⟩),
      (.ofName "owner", ⟨some "kebabCase(group)", false, none, ["group"]⟩)]

/-- Only the owner is supplied. -/
def ringSupplied (name : String) : Option String := if name = "owner" then some "me" else none

example : (closure ringTable.dependencies ringTable.allDependencies.length ringSupplied
    (seed ringSupplied ["title"])).entries =
      [("title", none), ("slug", none), ("owner", some "me"), ("path", none)] := by decide

theorem closure_exact_ringTable :
    (∀ name, ringSupplied name = none → valueOf (seed ringSupplied ["title"]) name = none) ∧
      ∃ waves : List (List String),
        (closure ringTable.dependencies ringTable.allDependencies.length ringSupplied
          (seed ringSupplied ["title"])).entries =
            [("title", none)] ++ waves.flatten.map (fun name ↦ (name, ringSupplied name)) ∧
        "path" ∈ waves.flatten ∧ "group" ∉ waves.flatten := by
  have hvalues : ∀ name, ringSupplied name = none →
      valueOf (seed ringSupplied ["title"]) name = none := by
    intro name hname
    have hseed : seed ringSupplied ["title"] = Bindings.empty.insert "title" none := rfl
    rw [hseed, valueOf_insert]
    split <;> rfl
  obtain ⟨-, -, waves, -, hentries, -, -, -, hreached⟩ :=
    closure_exact ringTable ringSupplied (seed ringSupplied ["title"])
  refine ⟨hvalues, waves, hentries, ?_, ?_⟩
  · refine (hreached hvalues "path").2 ⟨1, by decide, "title", by decide, ?_⟩
    have hslug : "slug" ∈ ringTable.dependencies "title" := by decide
    exact .through (.direct hslug) (by decide) (by decide)
  · intro hgroup
    obtain ⟨n, -, source, hsource, hleads⟩ := (hreached hvalues "group").1 hgroup
    -- only the owner has a group, and is supplied
    have howner : ∀ reader, "group" ∈ ringTable.dependencies reader → reader = "owner" := by
      have hentry : ∀ entry ∈ ringTable.entries, "group" ∈ entry.2.dependencies →
          entry.1 = .ofName "owner" := by decide
      intro reader hreader
      cases hfind : ringTable.find? reader with
      | none => simp [Table.dependencies, hfind] at hreader
      | some d =>
        rw [Table.dependencies_of_find? hfind] at hreader
        exact congrArg Key.text (hentry _ (Table.mem_entries_of_find? hfind) hreader)
    cases hleads with
    | direct hdep => exact absurd (howner source hdep ▸ hsource) (by decide)
    | @through n mid _ _ hvia hdep => exact absurd (howner mid hdep ▸ hvia) (by decide)

end Scaffold.Resolution
