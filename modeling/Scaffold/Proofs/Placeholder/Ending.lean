import Mathlib
import Scaffold.Proofs.Config.Accepted

/-!
# Wrappers by the ending of the name

A content has the wrapper of the first override whose ending the name of its file has, else the
configured one, else the standard one. An ending is taken literally, character by character. But the
test of it also looks past a line break at the very end of the name, so that an override may be
chosen whose ending the name does not have. Names that end with anything else are not affected.
-/

namespace Scaffold

namespace WrapperConfig

variable {name ending text other : String} {fits : String → Prop} {content : Option String}
  {overrides : List ExtensionWrapper}

/-! ## Endings -/

/-- The name has the ending. -/
def Ends (name ending : String) : Prop := ending.toList <:+ name.toList

/-- The name has the ending before a line break at its very end. -/
def EndsBeforeBreak (name ending : String) : Prop :=
  ∃ front, name.toList = front ++ ['\n'] ∧ ending.toList <:+ front

theorem isSuffixOf_iff_ends : ending.toList.isSuffixOf name.toList = true ↔ Ends name ending :=
  List.isSuffixOf_iff_suffix

theorem endsWith_iff :
    endsWith name ending = true ↔ Ends name ending ∨ EndsBeforeBreak name ending := by
  rw [endsWith, Bool.or_eq_true, isSuffixOf_iff_ends, Bool.and_eq_true, beq_iff_eq,
    List.isSuffixOf_iff_suffix, List.getLast?_eq_some_iff]
  refine or_congr_right ⟨?_, ?_⟩
  · rintro ⟨⟨front, hfront⟩, hsuffix⟩
    rw [hfront, List.dropLast_concat] at hsuffix
    exact ⟨front, hfront, hsuffix⟩
  · rintro ⟨front, hfront, hsuffix⟩
    rw [hfront, List.dropLast_concat]
    exact ⟨⟨front, rfl⟩, hsuffix⟩

theorem not_endsBeforeBreak (h : name.toList.getLast? ≠ some '\n') (ending : String) :
    ¬EndsBeforeBreak name ending := by
  rintro ⟨front, hfront, -⟩
  exact h (List.getLast?_eq_some_iff.2 ⟨front, hfront⟩)

/-! ## The first override that fits -/

/-- The text of the wrapper that is chosen: that of the first override whose ending fits, else that
of contents, else the standard one. -/
inductive Chooses (fits : String → Prop) (content : Option String) :
    List ExtensionWrapper → String → Prop where
  /-- The ending of the next override fits. -/
  | here {override : ExtensionWrapper} {overrides : List ExtensionWrapper}
    (hfits : fits override.extension) :
    Chooses fits content (override :: overrides) override.wrapper
  /-- It does not fit. -/
  | later {override : ExtensionWrapper} {overrides : List ExtensionWrapper} {text : String}
    (hfits : ¬fits override.extension) (h : Chooses fits content overrides text) :
    Chooses fits content (override :: overrides) text
  /-- No override is left. -/
  | none : Chooses fits content [] (content.getD Wrapper.standard)

theorem chooses_find? {test : ExtensionWrapper → Bool}
    (htest : ∀ override, test override = true ↔ fits override.extension)
    (content : Option String) (overrides : List ExtensionWrapper) :
    Chooses fits content overrides (((overrides.find? test).map (·.wrapper)).getD
      (content.getD Wrapper.standard)) := by
  induction overrides with
  | nil => exact .none
  | cons override overrides ih =>
    by_cases h : test override = true
    · rw [List.find?_cons_of_pos h]
      exact .here ((htest override).1 h)
    · rw [List.find?_cons_of_neg h]
      exact .later (mt (htest override).2 h) ih

/-- If all wrappers have two halves, then so has the one that is chosen. -/
theorem Chooses.exists_isHalved (h : Chooses fits content overrides text)
    (hcontent : ∀ wrapper, content = some wrapper → ∃ w : Wrapper, w.IsHalved wrapper)
    (hoverrides : ∀ override ∈ overrides, ∃ w : Wrapper, w.IsHalved override.wrapper) :
    ∃ w : Wrapper, w.IsHalved text := by
  induction h with
  | here hfits => exact hoverrides _ List.mem_cons_self
  | later hfits h ih =>
    exact ih fun override hmem ↦ hoverrides override (List.mem_cons_of_mem _ hmem)
  | none =>
    cases content with
    | none => exact ⟨⟨"___", "___"⟩, Wrapper.isHalved_of_split rfl⟩
    | some wrapper => exact hcontent wrapper rfl

/-! ## Overrides that are chosen for a line break -/

/-- The first override whose ending the name has, be it before a line break, is one whose ending it
has only there, and its wrapper is not the text. -/
inductive Diverts (name text : String) : List ExtensionWrapper → Prop where
  /-- It is the next one. -/
  | here {override : ExtensionWrapper} {overrides : List ExtensionWrapper}
    (hends : ¬Ends name override.extension) (hbreak : EndsBeforeBreak name override.extension)
    (hwrapper : override.wrapper ≠ text) : Diverts name text (override :: overrides)
  /-- It is a later one. -/
  | later {override : ExtensionWrapper} {overrides : List ExtensionWrapper}
    (hends : ¬Ends name override.extension) (hbreak : ¬EndsBeforeBreak name override.extension)
    (h : Diverts name text overrides) : Diverts name text (override :: overrides)

theorem not_diverts (h : name.toList.getLast? ≠ some '\n') : ¬Diverts name text overrides := by
  intro hdiverts
  induction hdiverts with
  | here hends hbreak hwrapper => exact not_endsBeforeBreak h _ hbreak
  | later hends hbreak hdiverts ih => exact ih

/-- Looking past a line break comes to the literal choice just if this is not diverted. -/
theorem eq_iff_not_diverts (h : Chooses (Ends name) content overrides text)
    (hbreak : Chooses (fun ending ↦ Ends name ending ∨ EndsBeforeBreak name ending) content
      overrides other) : other = text ↔ ¬Diverts name text overrides := by
  induction overrides with
  | nil =>
    cases h
    cases hbreak
    exact iff_of_true rfl nofun
  | cons override overrides ih =>
    cases h with
    | here hends =>
      have hnot : ¬Diverts name override.wrapper (override :: overrides) := by
        rintro (⟨hnot, -, -⟩ | ⟨hnot, -, -⟩)
        · exact hnot hends
        · exact hnot hends
      cases hbreak with
      | here hfits => exact iff_of_true rfl hnot
      | later hfits hbreak => exact absurd (.inl hends) hfits
    | later hends h =>
      cases hbreak with
      | here hfits =>
        have hfits := hfits.resolve_left hends
        refine ⟨?_, fun hnot ↦ by_contra fun hwrapper ↦ hnot (.here hends hfits hwrapper)⟩
        rintro rfl (⟨-, -, hwrapper⟩ | ⟨-, hnot, -⟩)
        · exact hwrapper rfl
        · exact hnot hfits
      | later hfits hbreak =>
        rw [not_or] at hfits
        refine (ih h hbreak).trans (not_congr ⟨.later hends hfits.2, ?_⟩)
        rintro (⟨-, hbreak, -⟩ | ⟨-, -, h⟩)
        · exact absurd hbreak hfits.2
        · exact h

/-! ## The choice that is made -/

theorem exists_chooses_ends (name : String) (content : Option String)
    (overrides : List ExtensionWrapper) : ∃ text, Chooses (Ends name) content overrides text :=
  ⟨_, chooses_find? (fun _ ↦ isSuffixOf_iff_ends) content overrides⟩

theorem orStandard_of_ne (h : content ≠ some "") :
    orStandard content = content.getD Wrapper.standard := by
  cases content with
  | none => rfl
  | some text =>
    have hne : ¬text.isEmpty = true := by
      rw [String.isEmpty_iff]
      rintro rfl
      exact h rfl
    rw [orStandard, if_neg hne, Option.getD_some]

theorem exists_chooses_of_forContent {config : WrapperConfig} (h : config.content ≠ some "")
    (name : String) : ∃ text,
      Chooses (fun ending ↦ Ends name ending ∨ EndsBeforeBreak name ending) config.content
        config.extensions text ∧ config.forContent name = Wrapper.split text := by
  refine ⟨_, chooses_find? (fun _ ↦ endsWith_iff) config.content config.extensions, ?_⟩
  rw [forContent]
  cases config.extensions.find? fun override ↦ endsWith name override.extension with
  | none => exact congrArg Wrapper.split (orStandard_of_ne h)
  | some override => rfl

end WrapperConfig

namespace Config

open Document WrapperConfig

theorem exists_isHalved_of_ofValue {source : Option String} {value : Value} {config : Config}
    (h : ofValue source value = .ok config) :
    (∀ text, config.wrappers.content = some text → ∃ w : Wrapper, w.IsHalved text) ∧
      ∀ override ∈ config.wrappers.extensions, ∃ w : Wrapper, w.IsHalved override.wrapper := by
  obtain ⟨entries, -, -, hwrappers, -⟩ := exists_of_ofValue_eq_ok h
  rw [hwrappers]
  refine ⟨fun text htext ↦ ?_, fun override hmem ↦ ?_⟩
  · obtain ⟨w, hw⟩ := exists_split_of_checkWrapper htext
    exact ⟨w, Wrapper.isHalved_of_split hw⟩
  · obtain ⟨w, hw⟩ := exists_split_of_mem_checkOverrides hmem
    exact ⟨w, Wrapper.isHalved_of_split hw⟩

/-- In an accepted configuration a content has the wrapper of the first override whose ending the
name has, be it before a line break at the very end, else that of contents, else the standard one.
It has the one that is chosen by what the name literally ends with just if no other override is
chosen for a line break, and so it does whenever the name does not end with one. -/
theorem forContent_of_ofValue {source : Option String} {value : Value} {config : Config}
    (h : ofValue source value = .ok config) (name : String) :
    (∃ text w, Chooses (fun ending ↦ Ends name ending ∨ EndsBeforeBreak name ending)
        config.wrappers.content config.wrappers.extensions text ∧
      w.IsHalved text ∧ config.wrappers.forContent name = .ok w) ∧
    ∃ text w, Chooses (Ends name) config.wrappers.content config.wrappers.extensions text ∧
      w.IsHalved text ∧
      (config.wrappers.forContent name = .ok w ↔
        ¬Diverts name text config.wrappers.extensions) ∧
      (name.toList.getLast? ≠ some '\n' → config.wrappers.forContent name = .ok w) := by
  obtain ⟨hcontent, hoverrides⟩ := exists_isHalved_of_ofValue h
  have hne : config.wrappers.content ≠ some "" := by
    intro hempty
    obtain ⟨w, hw⟩ := hcontent "" hempty
    cases hw.split
  obtain ⟨other, hother, hforContent⟩ := exists_chooses_of_forContent hne name
  obtain ⟨w', hw'⟩ := hother.exists_isHalved hcontent hoverrides
  obtain ⟨text, htext⟩ :=
    exists_chooses_ends name config.wrappers.content config.wrappers.extensions
  obtain ⟨w, hw⟩ := htext.exists_isHalved hcontent hoverrides
  have hiff : config.wrappers.forContent name = .ok w ↔
      ¬Diverts name text config.wrappers.extensions := by
    rw [← eq_iff_not_diverts htext hother, hforContent, hw'.split, Except.ok.injEq]
    constructor
    · rintro rfl
      exact hw'.append_eq.symm.trans hw.append_eq
    · rintro rfl
      exact Except.ok.inj (hw'.split.symm.trans hw.split)
  exact ⟨⟨other, w', hother, hw', hforContent.trans hw'.split⟩,
    text, w, htext, hw, hiff, fun hlast ↦ hiff.2 (not_diverts hlast)⟩

/-- Contents have the wrapper of notes if the names of their files end as names of notes do, and
another one if there is more after that. -/
theorem forContent_of_ofValue_slugEntries :
    ∃ config, ofValue none (.mapping slugEntries) = .ok config ∧
      config.wrappers.forContent "notes.md" = .ok ⟨"[[", "]]"⟩ ∧
      config.wrappers.forContent "notes.md.txt" = .ok ⟨"<<", ">>"⟩ := by
  obtain ⟨-, text, w, htext, hw, -, hnotes⟩ := forContent_of_ofValue ofValue_slugEntries "notes.md"
  obtain ⟨-, text', w', htext', hw', -, hothers⟩ :=
    forContent_of_ofValue ofValue_slugEntries "notes.md.txt"
  have hends : Ends "notes.md" ".md" := isSuffixOf_iff_ends.1 (by decide)
  have hends' : ¬Ends "notes.md.txt" ".md" := mt isSuffixOf_iff_ends.2 (by decide)
  refine ⟨_, ofValue_slugEntries, ?_, ?_⟩
  · cases htext with
    | here =>
      cases hw.split
      exact hnotes (by decide)
    | later hnot => exact absurd hends hnot
  · cases htext' with
    | here hfits => exact absurd hfits hends'
    | later _ h =>
      cases h
      cases hw'.split
      exact hothers (by decide)

/-- A line break after its ending gives a name a wrapper that is for other names. -/
theorem exists_diverts_of_ofValue :
    ∃ config text name, ofValue none (.mapping slugEntries) = .ok config ∧
      Chooses (Ends name) config.wrappers.content config.wrappers.extensions text ∧
      config.wrappers.forContent name ≠ Wrapper.split text := by
  have hends : ¬Ends "notes.md\n" ".md" := mt isSuffixOf_iff_ends.2 (by decide)
  exact ⟨_, _, "notes.md\n", ofValue_slugEntries, .later hends .none, by decide⟩

end Config

end Scaffold
