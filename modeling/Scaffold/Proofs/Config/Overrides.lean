import Mathlib
import Scaffold.Proofs.Config.Accepted

/-!
# Wrappers for extensions, one by one

A configuration may list wrappers for the files with certain endings. Each element of the list is
checked by itself, and there are three ways it can come out. It is kept, with the wrapper and the
ending that it tells. It is refused, with a single problem that tells what it lacks and carries its
number. Or its wrapper is left open, and then it is passed over without a word.

So in an accepted configuration the wrappers are those of the elements that are not left open, one
for each and in their order; and a list with an element of any other kind is not accepted.
-/

namespace Scaffold.Config

open Document

variable {source : Option String} {entries fields : List (Value × Value)} {index : ℕ}
  {item : Value} {override : ExtensionWrapper} {fault : Fault} {ending : String}

/-! ## What can become of an element -/

/-- The element names an ending for which it is meant. -/
def Names (fields : List (Value × Value)) (ending : String) : Prop :=
  Value.field? "extension" fields = some (.text ending) ∧ ending ≠ ""

/-- The element tells the wrapper and the ending. -/
inductive Tells : Value → ExtensionWrapper → Prop where
  /-- It is a mapping with a text of two halves and a text that is not empty. -/
  | mk {fields : List (Value × Value)} {override : ExtensionWrapper} (w : Wrapper)
    (hextension : Names fields override.extension)
    (hwrapper : Value.field? "wrapper" fields = some (.text override.wrapper))
    (hhalved : w.IsHalved override.wrapper) : Tells (.mapping fields) override

/-- The element is no mapping with a usable wrapper and ending, and it is faulted for it. -/
inductive Lacks (index : ℕ) : Value → Fault → Prop where
  /-- It is no mapping at all. -/
  | mapping {item : Value} (h : ∀ fields, item ≠ .mapping fields) :
    Lacks index item (.overrideNotMapping index)
  /-- It names no ending. -/
  | extension {fields : List (Value × Value)} (h : ∀ ending, ¬Names fields ending) :
    Lacks index (.mapping fields) (.overrideWithoutExtension index)
  /-- It has no wrapper. -/
  | wrapper {fields : List (Value × Value)} {ending : String} (hextension : Names fields ending)
    (h : Value.field? "wrapper" fields = none) :
    Lacks index (.mapping fields) (.overrideWithoutWrapper index)
  /-- Its wrapper is no text. -/
  | text {fields : List (Value × Value)} {ending : String} {value : Value}
    (hextension : Names fields ending) (h : Value.field? "wrapper" fields = some value)
    (hnull : value ≠ .null) (htext : ∀ text, value ≠ .text text) :
    Lacks index (.mapping fields) (.notText (overrideField index ++ ".wrapper") value.typeName)
  /-- Its wrapper has no two halves. -/
  | halves {fields : List (Value × Value)} {ending text : String}
    (hextension : Names fields ending) (h : Value.field? "wrapper" fields = some (.text text))
    (hhalves : ∀ w : Wrapper, ¬w.IsHalved text) :
    Lacks index (.mapping fields) (.badWrapper (overrideField index ++ ".wrapper") ⟨text⟩)

/-- The element names an ending, but leaves its wrapper open. -/
def leavesOpen : Value → Bool
  | .mapping fields => (extensionOf? fields).isSome &&
    match Value.field? "wrapper" fields with
    | some .null => true
    | _ => false
  | _ => false

theorem extensionOf?_eq_some_iff : extensionOf? fields = some ending ↔ Names fields ending := by
  unfold extensionOf? Names
  split
  · next text hfield =>
    rw [hfield]
    split
    · next hempty =>
      rw [String.isEmpty_iff] at hempty
      simp only [reduceCtorEq, Option.some.injEq, Value.text.injEq, false_iff, not_and, not_not]
      rintro rfl
      exact hempty
    · next hempty =>
      rw [String.isEmpty_iff] at hempty
      simp only [Option.some.injEq, Value.text.injEq]
      refine ⟨?_, And.left⟩
      rintro rfl
      exact ⟨rfl, hempty⟩
  · next hfield => exact ⟨(by cases ·), fun h ↦ absurd h.1 (hfield ending)⟩

theorem extensionOf?_eq_none_iff : extensionOf? fields = none ↔ ∀ ending, ¬Names fields ending := by
  simp only [Option.eq_none_iff_forall_ne_some, Ne, extensionOf?_eq_some_iff]

theorem checkWrapper_of_isHalved {field text : String} {w : Wrapper} (h : w.IsHalved text) :
    checkWrapper field (some (.text text)) = (some text, []) := by
  rw [checkWrapper, h.split]

theorem checkWrapper_of_ne_text {field : String} {value : Value} (hnull : value ≠ .null)
    (htext : ∀ text, value ≠ .text text) :
    checkWrapper field (some value) = (none, [⟨.notText field value.typeName, ""⟩]) := by
  unfold checkWrapper
  split
  · next heq => exact absurd (Option.some.inj heq) (htext _)
  · next heq => cases heq
  · next heq => exact absurd (Option.some.inj heq) hnull
  · next heq =>
    cases heq
    rfl

theorem checkWrapper_of_not_isHalved {field text : String}
    (h : ∀ w : Wrapper, ¬w.IsHalved text) :
    checkWrapper field (some (.text text)) = (none, [⟨.badWrapper field ⟨text⟩, ""⟩]) := by
  rw [checkWrapper]
  split
  · next w hsplit => exact absurd (Wrapper.isHalved_of_split hsplit) (h w)
  · next e hsplit =>
    unfold Wrapper.split at hsplit
    simp only at hsplit
    split at hsplit
    · cases hsplit
      rfl
    · cases hsplit

/-! ## What the check makes of an element -/

theorem checkOverride_of_tells (h : Tells item override) :
    checkOverride index item = (some override, []) := by
  cases h with
  | mk w hextension hwrapper hhalved =>
    rw [checkOverride, extensionOf?_eq_some_iff.2 hextension]
    simp only [hwrapper, checkWrapper_of_isHalved hhalved]

theorem exists_names_of_leavesOpen (h : leavesOpen item = true) :
    ∃ fields ending, item = .mapping fields ∧ Names fields ending ∧
      Value.field? "wrapper" fields = some .null := by
  unfold leavesOpen at h
  split at h
  · next fields =>
    rw [Bool.and_eq_true, Option.isSome_iff_exists] at h
    obtain ⟨⟨ending, hending⟩, hwrapper⟩ := h
    split at hwrapper
    · next hnull => exact ⟨fields, ending, rfl, extensionOf?_eq_some_iff.1 hending, hnull⟩
    · cases hwrapper
  · cases h

theorem checkOverride_of_leavesOpen (h : leavesOpen item = true) :
    checkOverride index item = (none, []) := by
  obtain ⟨fields, ending, rfl, hextension, hwrapper⟩ := exists_names_of_leavesOpen h
  rw [checkOverride, extensionOf?_eq_some_iff.2 hextension]
  simp only [hwrapper]
  rfl

theorem checkOverride_of_lacks (h : Lacks index item fault) :
    checkOverride index item = (none, [⟨fault, ""⟩]) := by
  cases h with
  | mapping h =>
    unfold checkOverride
    split
    · exact absurd rfl (h _)
    · rfl
  | extension h => rw [checkOverride, extensionOf?_eq_none_iff.2 h]
  | wrapper hextension h =>
    rw [checkOverride, extensionOf?_eq_some_iff.2 hextension]
    simp only [h]
    rfl
  | text hextension h hnull htext =>
    rw [checkOverride, extensionOf?_eq_some_iff.2 hextension]
    simp only [h, checkWrapper_of_ne_text hnull htext]
    rfl
  | halves hextension h hhalves =>
    rw [checkOverride, extensionOf?_eq_some_iff.2 hextension]
    simp only [h, checkWrapper_of_not_isHalved hhalves]
    rfl

/-- Every element tells a wrapper, leaves it open or lacks something. -/
theorem tells_or_leavesOpen_or_lacks (index : ℕ) (item : Value) :
    (∃ override, Tells item override) ∨ leavesOpen item = true ∨
      ∃ fault, Lacks index item fault := by
  by_cases hmapping : ∃ fields, item = .mapping fields
  · obtain ⟨fields, rfl⟩ := hmapping
    by_cases hnames : ∃ ending, Names fields ending
    · obtain ⟨ending, hending⟩ := hnames
      cases hwrapper : Value.field? "wrapper" fields with
      | none => exact .inr (.inr ⟨_, .wrapper hending hwrapper⟩)
      | some value =>
        by_cases hnull : value = .null
        · subst hnull
          refine .inr (.inl ?_)
          rw [leavesOpen, extensionOf?_eq_some_iff.2 hending, hwrapper]
          rfl
        by_cases htext : ∃ text, value = .text text
        · obtain ⟨text, rfl⟩ := htext
          by_cases hhalves : ∃ w : Wrapper, w.IsHalved text
          · obtain ⟨w, hhalved⟩ := hhalves
            exact .inl ⟨⟨text, ending⟩, .mk w hending hwrapper hhalved⟩
          · exact .inr (.inr ⟨_, .halves hending hwrapper (not_exists.1 hhalves)⟩)
        · exact .inr (.inr ⟨_, .text hending hwrapper hnull (not_exists.1 htext)⟩)
    · exact .inr (.inr ⟨_, .extension (not_exists.1 hnames)⟩)
  · exact .inr (.inr ⟨_, .mapping (not_exists.1 hmapping)⟩)

/-! ## Lists of elements -/

/-- The elements of the list of wrappers for extensions. Pairs are elements too. -/
def elements : Option Value → List Value
  | some (.list items) => items
  | some (.pairs items) => items.map fun (a, b) ↦ .list [a, b]
  | _ => []

/-- The problem of an element is one of the list. -/
theorem mem_checkOverrides_of_lacks {value : Option Value}
    (hitem : (elements value)[index]? = some item) (h : Lacks index item fault) :
    ⟨fault, ""⟩ ∈ (checkOverrides value).2 := by
  unfold elements at hitem
  split at hitem
  · next items =>
    rw [checkOverrides]
    refine List.mem_flatMap.2 ⟨checkOverride index item, ?_, ?_⟩
    · exact List.mem_map.2 ⟨(item, index), List.mem_zipIdx_iff_getElem?.2 hitem, rfl⟩
    · rw [checkOverride_of_lacks h]
      exact List.mem_singleton_self _
  · next items =>
    rw [List.getElem?_map, Option.map_eq_some_iff] at hitem
    obtain ⟨pair, hpair, rfl⟩ := hitem
    cases h with
    | mapping h =>
      refine List.mem_map.2 ⟨(pair, index), List.mem_zipIdx_iff_getElem?.2 hpair, rfl⟩
  · cases hitem

theorem leavesOpen_eq_false_of_tells (h : Tells item override) : leavesOpen item = false := by
  rw [Bool.eq_false_iff]
  intro hopen
  have htells : checkOverride 0 item = (some override, []) := checkOverride_of_tells h
  cases htells.symm.trans (checkOverride_of_leavesOpen hopen)

/-- Elements without a problem are kept in their order, but for those that are left open. -/
theorem forall₂_filterMap_checkOverride {items : List Value} (first : ℕ)
    (h : ∀ entry ∈ items.zipIdx first, (checkOverride entry.2 entry.1).2 = []) :
    List.Forall₂ Tells (items.filter (!leavesOpen ·))
      ((items.zipIdx first).filterMap fun entry ↦ (checkOverride entry.2 entry.1).1) := by
  induction items generalizing first with
  | nil => exact .nil
  | cons item items ih =>
    rw [List.zipIdx_cons] at h ⊢
    obtain ⟨hitem, hitems⟩ := List.forall_mem_cons.1 h
    rw [List.filter_cons, List.filterMap_cons]
    rcases tells_or_leavesOpen_or_lacks first item with ⟨override, htells⟩ | hopen | ⟨fault, hlacks⟩
    · rw [leavesOpen_eq_false_of_tells htells, checkOverride_of_tells htells]
      exact .cons htells (ih (first + 1) hitems)
    · rw [hopen, checkOverride_of_leavesOpen hopen]
      exact ih (first + 1) hitems
    · rw [checkOverride_of_lacks hlacks] at hitem
      cases hitem

theorem forall₂_checkOverrides {value : Option Value} (h : (checkOverrides value).2 = []) :
    List.Forall₂ Tells ((elements value).filter (!leavesOpen ·)) (checkOverrides value).1 := by
  unfold checkOverrides elements at *
  split at h
  · exact .nil
  · next items =>
    have hitems : ∀ entry ∈ items.zipIdx, (checkOverride entry.2 entry.1).2 = [] := by
      intro entry hentry
      exact List.flatMap_eq_nil_iff.1 h _ (List.mem_map_of_mem hentry)
    show List.Forall₂ Tells _
      ((items.zipIdx.map fun entry ↦ checkOverride entry.2 entry.1).filterMap Prod.fst)
    rw [List.filterMap_map]
    exact forall₂_filterMap_checkOverride 0 hitems
  · next items =>
    rw [List.map_eq_nil_iff, List.zipIdx_eq_nil_iff] at h
    subst h
    exact .nil
  · cases h

/-! ## Accepted and refused lists -/

theorem checkOverrides_of_ofValue {config : Config}
    (h : ofValue source (.mapping entries) = .ok config) :
    (checkOverrides (Value.field? "variableWrappers" entries)).2 = [] ∧
      config.wrappers.extensions =
        (checkOverrides (Value.field? "variableWrappers" entries)).1 := by
  obtain ⟨_, heq, hproblems, hwrappers, -⟩ := exists_of_ofValue_eq_ok h
  cases heq
  simp only [problemsOf, checkWrappers, List.append_eq_nil_iff] at hproblems
  rw [hwrappers]
  exact ⟨hproblems.1.2.2, rfl⟩

theorem mem_problemsOf_of_mem_checkOverrides {p : Problem}
    (h : p ∈ (checkOverrides (Value.field? "variableWrappers" entries)).2) :
    p ∈ problemsOf entries := by
  simp only [problemsOf, checkWrappers, List.mem_append]
  exact .inl (.inr (.inr h))

/-- The wrappers for extensions of an accepted configuration are those that the elements of the list
say, one for each and in their order, but for the elements that leave their wrapper open; so there
is one for every element if and only if none of them leaves it open. For any other element there is
no configuration: what it lacks is reported, unless a number that cannot be shown keeps all from
being reported. -/
theorem ofValue_overrides (source : Option String) (entries : List (Value × Value)) :
    (∀ config, ofValue source (.mapping entries) = .ok config →
      List.Forall₂ Tells
          ((elements (Value.field? "variableWrappers" entries)).filter (!leavesOpen ·))
          config.wrappers.extensions ∧
        (List.Forall₂ Tells (elements (Value.field? "variableWrappers" entries))
            config.wrappers.extensions ↔
          ∀ item ∈ elements (Value.field? "variableWrappers" entries), leavesOpen item = false)) ∧
      ∀ (index : ℕ) item, (elements (Value.field? "variableWrappers" entries))[index]? = some item →
        leavesOpen item = false → (∀ override, ¬Tells item override) →
        ∃ fault, Lacks index item fault ∧
          (ofValue source (.mapping entries) = .error .unwritable ∨
            ∃ problems, ofValue source (.mapping entries) = .error (.invalid problems) ∧
              ⟨fault, ""⟩ ∈ problems) := by
  refine ⟨fun config h ↦ ?_, fun index item hitem hopen htells ↦ ?_⟩
  · obtain ⟨hproblems, hextensions⟩ := checkOverrides_of_ofValue h
    have hkept := forall₂_checkOverrides hproblems
    rw [← hextensions] at hkept
    refine ⟨hkept, fun hall ↦ ?_, fun hnone ↦ ?_⟩
    · have hlength := hkept.length_eq.trans hall.length_eq.symm
      have hself := List.filter_sublist.eq_of_length hlength
      intro item hitem
      rw [← Bool.not_eq_true']
      exact List.filter_eq_self.1 hself item hitem
    · rwa [List.filter_eq_self.2 fun item hitem ↦ by rw [hnone item hitem]; rfl] at hkept
  · rcases tells_or_leavesOpen_or_lacks index item with ⟨override, htell⟩ | hopen' | ⟨fault, hlacks⟩
    · exact absurd htell (htells override)
    · cases hopen.symm.trans hopen'
    · refine ⟨fault, hlacks, ?_⟩
      have hmem := mem_problemsOf_of_mem_checkOverrides (mem_checkOverrides_of_lacks hitem hlacks)
      by_cases hshown : (shownValues entries).any isUnwritableNumber = true
      · exact .inl (ofValue_eq_unwritable_iff.2 hshown)
      · exact .inr ⟨_, ofValue_of_problemsOf_ne_nil hshown (List.ne_nil_of_mem hmem), hmem⟩

/-- An element that tells its wrapper, and one for scripts that leaves it open. -/
def scriptOverrides : List Value :=
  [.mapping [(.text "wrapper", .text "[[]]"), (.text "extension", .text ".md")],
    .mapping [(.text "wrapper", .null), (.text "extension", .text ".js")]]

/-- The configuration that has these elements. -/
def scriptConfig : Config := ⟨none, ⟨none, none, [⟨"[[]]", ".md"⟩]⟩, .empty, none⟩

theorem ofValue_scriptOverrides :
    ofValue none (.mapping [(.text "variableWrappers", .list scriptOverrides)]) =
      .ok scriptConfig :=
  rfl

/-- Of the two elements, the first one is kept and the other is passed over. If there is a number in
place of the last one, the list is refused. -/
theorem ofValue_overrides_scriptOverrides :
    List.Forall₂ Tells (scriptOverrides.take 1) scriptConfig.wrappers.extensions ∧
      ¬List.Forall₂ Tells scriptOverrides scriptConfig.wrappers.extensions ∧
      ∃ problems, ofValue none
          (.mapping [(.text "variableWrappers", .list [.integer 1])]) =
          .error (.invalid problems) ∧
        ⟨.overrideNotMapping 0, ""⟩ ∈ problems := by
  obtain ⟨haccepted, -⟩ :=
    ofValue_overrides none [(.text "variableWrappers", .list scriptOverrides)]
  obtain ⟨hkept, hall⟩ := haccepted scriptConfig ofValue_scriptOverrides
  refine ⟨hkept, fun htells ↦ ?_, ?_⟩
  · cases hall.1 htells _ (List.mem_cons_of_mem _ List.mem_cons_self)
  · obtain ⟨-, hrefused⟩ := ofValue_overrides none [(.text "variableWrappers", .list [.integer 1])]
    obtain ⟨fault, hlacks, hunwritable | hinvalid⟩ :=
      hrefused 0 (.integer 1) rfl rfl fun override htells ↦ by cases htells
    · cases hunwritable
    · cases hlacks
      exact hinvalid

/-- An accepted list may have an element without a wrapper of its own, and be left with none. -/
theorem exists_unsaid_of_ofValue :
    ∃ items config,
      ofValue none (.mapping [(.text "variableWrappers", .list items)]) = .ok config ∧
        config.wrappers.extensions = [] ∧ items.length = 1 :=
  ⟨scriptOverrides.drop 1, Config.empty, rfl, rfl, rfl⟩

end Scaffold.Config
