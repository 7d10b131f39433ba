import Mathlib
import Scaffold.Proofs.Transform.Separation

/-!
# Texts in their case

Each modifier leaves some texts as they are, and which they are can be read off their characters.
For those that separate words it is the texts of small letters, digits and the separator. For those
that run words together, only the first character counts where there is nothing but letters and
digits. Where there is something else, nothing must be lowered or joined, so all the small letters
and digits stand at the beginning. Words in capitals are told apart by an underscore, and where there
is none a capital after a digit begins a new word.

What a modifier makes of a text is not always left as it is. A separator that nothing small follows
stays in the text and has it lowered again, a separator at the beginning gives way to a capital that
does not belong there, and a single word in capitals can fall into two.
-/

namespace Scaffold

namespace Recase

open Text

variable {c y : Char} {text other : List Char}

/-! ## First characters -/

theorem mapFirst_mapFirst (f g : Char → Char) (text : List Char) :
    mapFirst f (mapFirst g text) = mapFirst (f ∘ g) text := by
  cases text with
  | nil => rfl
  | cons a rest => rfl

theorem mapFirst_eq_self_iff {f : Char → Char} :
    mapFirst f text = text ↔ ∀ c ∈ text.head?, f c = c := by
  cases text with
  | nil => simp [mapFirst]
  | cons a rest => simp [mapFirst]

theorem length_mapFirst (f : Char → Char) (text : List Char) :
    (mapFirst f text).length = text.length := by
  cases text with
  | nil => rfl
  | cons a rest => rfl

theorem head?_mapFirst (f : Char → Char) (text : List Char) :
    (mapFirst f text).head? = text.head?.map f := by
  cases text with
  | nil => rfl
  | cons a rest => rfl

theorem mem_mapFirst {f : Char → Char} (h : c ∈ mapFirst f text) :
    c ∈ text ∨ ∃ b ∈ text, c = f b := by
  cases text with
  | nil => cases h
  | cons a rest =>
    rcases List.mem_cons.1 h with rfl | h
    · exact .inr ⟨a, List.mem_cons_self, rfl⟩
    · exact .inl (List.mem_cons_of_mem a h)

/-! ## Separated words -/

/-- A text is left as it is by separating its words just if it is made of small letters, digits and
the separator. -/
theorem separate_eq_self_iff (hy : IsSeparator y) : separate y text = text ↔ IsApart y text := by
  constructor
  · intro h
    exact h ▸ isApart_separate hy text
  · intro h
    rw [separate_of_isApart hy h, exchange]
    refine (List.map_congr_left fun c _ ↦ ?_).trans (List.map_id text)
    split
    · next heq => exact heq.symm
    · rfl

/-! ## Words run together -/

/-- Small letters and digits, and after them only characters that are neither letters nor digits and
that lowering leaves as they are. -/
def IsTrailed (text : List Char) : Prop :=
  ∃ run rest, text = run ++ rest ∧ (∀ c ∈ run, isSmall c = true) ∧
    ∀ c ∈ rest, isAsciiAlphanumeric c = false ∧ IsLowered c.toNat

theorem isTrailed_iff : IsTrailed text ↔ IsJoined text ∧ ∀ c ∈ text, IsLowered c.toNat := by
  constructor
  · rintro ⟨run, rest, rfl, hrun, hrest⟩
    refine ⟨isJoined_iff.2 ⟨run, rest, rfl, hrun, fun c hc ↦ ?_⟩, fun c hc ↦ ?_⟩
    · rw [← Bool.not_eq_true, isSmall_iff_of_isLowered (hrest c hc).2, (hrest c hc).1]
      exact Bool.false_ne_true
    · rcases List.mem_append.1 hc with hc | hc
      · exact isLowered_of_isSmall (hrun c hc)
      · exact (hrest c hc).2
  · rintro ⟨hjoined, hlowered⟩
    obtain ⟨run, rest, rfl, hrun, hrest⟩ := isJoined_iff.1 hjoined
    refine ⟨run, rest, rfl, hrun, fun c hc ↦ ?_⟩
    have hc' := hlowered c (List.mem_append_right run hc)
    refine ⟨?_, hc'⟩
    rw [← Bool.not_eq_true, ← isSmall_iff_of_isLowered hc', hrest c hc]
    exact Bool.false_ne_true

/-- Joining makes capitals only, so what it leaves is lowered letter by letter. -/
theorem isPlain_of_mem_joinHumps (h : c ∈ joinHumps (lower text)) : IsPlain c := by
  rcases mem_joinHumps h with hmem | ⟨b, -, hsmall, rfl⟩
  · exact .inl (isLowered_of_mem_lower hmem)
  · exact .inr (toNat_lt_of_isAsciiAlphanumeric (isAsciiAlphanumeric_asciiUpper_of_isSmall hsmall))

theorem isPlain_asciiUpper (h : IsPlain c) : IsPlain (asciiUpper c) := by
  by_cases hlower : isAsciiLower c = true
  · have hupper := isAsciiUpper_asciiUpper_of_isAsciiLower hlower
    exact .inr (toNat_lt_of_isAsciiAlphanumeric (isAsciiAlphanumeric_of_isAsciiUpper hupper))
  · rwa [asciiUpper_eq_self_iff.2 (Bool.eq_false_iff.2 hlower)]

theorem isPlain_of_mem_mapFirst (h : ∀ c ∈ text, IsPlain c)
    (hc : c ∈ mapFirst asciiUpper text) : IsPlain c := by
  rcases mem_mapFirst hc with hmem | ⟨b, hmem, rfl⟩
  · exact h c hmem
  · exact isPlain_asciiUpper (h b hmem)

/-- A text that keeps its length while its small form is joined is lowered letter by letter, so its
small form keeps its length as well, and there was nothing to join in it. -/
theorem isTrailed_lower (h : ∀ c ∈ text, IsPlain c)
    (hlength : (joinHumps (lower text)).length = text.length) : IsTrailed (lower text) := by
  have hjoined : IsJoined (lower text) := by
    rw [← length_joinHumps_eq_iff, hlength, lower_eq_map h, List.length_map]
  exact isTrailed_iff.2 ⟨hjoined, fun c ↦ isLowered_of_mem_lower⟩

/-- A capital at the beginning is all that may be lowered in such a text. -/
theorem camel_mapFirst_of_isTrailed (h : IsTrailed text) :
    camel (mapFirst asciiUpper text) = text := by
  obtain ⟨hjoined, hlowered⟩ := isTrailed_iff.1 h
  rw [camel]
  split
  · have hlower : lower (mapFirst asciiUpper text) = text := by
      rw [lower_eq_map fun c hc ↦
        isPlain_of_mem_mapFirst (fun c hc ↦ .inl (hlowered c hc)) hc]
      cases text with
      | nil => rfl
      | cons a rest =>
        obtain ⟨ha, hrest⟩ := List.forall_mem_cons.1 hlowered
        rw [mapFirst, List.map_cons, asciiLower_asciiUpper ha.isAsciiUpper,
          List.map_congr_left fun c hc ↦ asciiLower_eq_self_iff.2 (hrest c hc).isAsciiUpper,
          List.map_id']
    rw [hlower, joinHumps_of_isJoined hjoined]
  · rw [mapFirst_mapFirst, mapFirst_eq_self_iff]
    intro c hc
    exact asciiLower_asciiUpper (hlowered c (List.mem_of_mem_head? hc)).isAsciiUpper

/-- A text whose words are run together, the first without a capital, or a single word in small
letters before something else. -/
inductive IsCamel (text : List Char) : Prop where
  | together (hseparated : isSeparated text = false)
    (hhead : ∀ c ∈ text.head?, isAsciiUpper c = false)
  | trailed (h : IsTrailed text)

/-- A text whose words are run together, each with a capital, or a single word with a capital before
something else. -/
inductive IsPascal (text : List Char) : Prop where
  | together (hseparated : isSeparated text = false)
    (hhead : ∀ c ∈ text.head?, isAsciiLower c = false)
  | trailed (other : List Char) (h : IsTrailed other) (htext : text = mapFirst asciiUpper other)

theorem camel_eq_self_iff : camel text = text ↔ IsCamel text := by
  constructor
  · intro h
    rw [camel] at h
    split at h
    -- the text is what joining has left, which tells of what characters it is made
    · have hplain : ∀ c ∈ text, IsPlain c := by
        intro c hc
        rw [← h] at hc
        exact isPlain_of_mem_joinHumps hc
      have htrailed := isTrailed_lower hplain (congrArg List.length h)
      rw [joinHumps_of_isJoined (isTrailed_iff.1 htrailed).1] at h
      exact .trailed (h ▸ htrailed)
    · next hseparated =>
      rw [mapFirst_eq_self_iff] at h
      exact .together (Bool.eq_false_iff.2 hseparated) fun c hc ↦ asciiLower_eq_self_iff.1 (h c hc)
  · rintro (⟨hseparated, hhead⟩ | htrailed)
    · rw [camel, hseparated, if_neg Bool.false_ne_true, mapFirst_eq_self_iff]
      exact fun c hc ↦ asciiLower_eq_self_iff.2 (hhead c hc)
    · obtain ⟨hjoined, hlowered⟩ := isTrailed_iff.1 htrailed
      rw [camel, lower_eq_self_iff.2 hlowered, joinHumps_of_isJoined hjoined, ite_eq_left_iff]
      -- without anything but letters and digits there is still no capital to be lowered
      intro _
      refine mapFirst_eq_self_iff.2 fun c hc ↦ asciiLower_eq_self_iff.2 ?_
      exact (hlowered c (List.mem_of_mem_head? hc)).isAsciiUpper

theorem pascal_eq_self_iff : pascal text = text ↔ IsPascal text := by
  constructor
  · intro h
    rw [pascal, camel] at h
    split at h
    · have hplain : ∀ c ∈ text, IsPlain c := by
        intro c hc
        rw [← h] at hc
        exact isPlain_of_mem_mapFirst (fun c ↦ isPlain_of_mem_joinHumps) hc
      have hlength := congrArg List.length h
      rw [length_mapFirst] at hlength
      have htrailed := isTrailed_lower hplain hlength
      rw [joinHumps_of_isJoined (isTrailed_iff.1 htrailed).1] at h
      exact .trailed _ htrailed h.symm
    · next hseparated =>
      rw [mapFirst_mapFirst, mapFirst_eq_self_iff] at h
      exact .together (Bool.eq_false_iff.2 hseparated) fun c hc ↦
        asciiUpper_asciiLower_eq_self_iff.1 (h c hc)
  · rintro (⟨hseparated, hhead⟩ | ⟨other, htrailed, rfl⟩)
    · rw [pascal, camel, hseparated, if_neg Bool.false_ne_true, mapFirst_mapFirst,
        mapFirst_eq_self_iff]
      exact fun c hc ↦ asciiUpper_asciiLower_eq_self_iff.2 (hhead c hc)
    · rw [pascal, camel_mapFirst_of_isTrailed htrailed]

/-! ## Words in capitals -/

/-- An underscore, a capital or a digit. -/
def IsShouted (c : Char) : Prop := c = '_' ∨ isAsciiUpper c = true ∨ isAsciiDigit c = true

/-- A text of capitals, digits and underscores that has an underscore or is a single word. -/
structure IsUpperSnake (text : List Char) : Prop where
  /-- There are no other characters. -/
  isShouted : ∀ c ∈ text, IsShouted c
  /-- Without an underscore there is no capital after a digit. -/
  isHumpless : '_' ∈ text ∨ IsHumpless text

theorem IsShouted.toNat_lt (h : IsShouted c) : c.toNat < 128 := by
  rcases h with rfl | hupper | hdigit
  · decide
  · exact toNat_lt_of_isAsciiAlphanumeric (isAsciiAlphanumeric_of_isAsciiUpper hupper)
  · exact toNat_lt_of_isAsciiAlphanumeric (isAsciiAlphanumeric_iff.2 (.inr hdigit))

theorem IsShouted.isAsciiAlphanumeric (h : IsShouted c) (hne : c ≠ '_') :
    isAsciiAlphanumeric c = true :=
  isAsciiAlphanumeric_iff.2 ((h.resolve_left hne).imp_left .inr)

theorem IsShouted.isAsciiLower (h : IsShouted c) : isAsciiLower c = false := by
  rw [← Bool.not_eq_true, isAsciiLower_iff]
  rcases h with rfl | hupper | hdigit
  · decide
  · rw [isAsciiUpper_iff] at hupper
    omega
  · rw [isAsciiDigit_iff] at hdigit
    omega

theorem IsShouted.asciiUpper_asciiLower (h : IsShouted c) : asciiUpper (asciiLower c) = c :=
  asciiUpper_asciiLower_eq_self_iff.2 h.isAsciiLower

theorem isShouted_asciiUpper (h : c = '_' ∨ isSmall c = true) : IsShouted (asciiUpper c) := by
  rcases h with rfl | hsmall
  · exact .inl (by decide)
  · have halphanumeric := isAsciiAlphanumeric_asciiUpper_of_isSmall hsmall
    rw [isAsciiAlphanumeric_iff, isAsciiLower_asciiUpper] at halphanumeric
    exact .inr (halphanumeric.imp_left fun h ↦ h.resolve_left Bool.false_ne_true)

theorem upperSnake_eq_map (text : List Char) : upperSnake text = (snake text).map asciiUpper := by
  refine upper_eq_map fun c hc ↦ ?_
  rcases isApart_separate Spelling.isSeparator_underscore text c hc with rfl | hsmall
  · decide
  · exact toNat_lt_of_isSmall hsmall

theorem isShouted_of_mem_upperSnake (h : c ∈ upperSnake text) : IsShouted c := by
  rw [upperSnake_eq_map] at h
  obtain ⟨b, hb, rfl⟩ := List.mem_map.1 h
  exact isShouted_asciiUpper (isApart_separate Spelling.isSeparator_underscore text b hb)

theorem map_asciiUpper_asciiLower (h : ∀ c ∈ text, IsShouted c) :
    (text.map asciiLower).map asciiUpper = text := by
  rw [List.map_map]
  exact (List.map_congr_left fun c hc ↦ (h c hc).asciiUpper_asciiLower).trans (List.map_id text)

/-- Words in capitals are split at humps, unless there is an underscore in the text. -/
theorem upperSnake_of_forall_isShouted (h : ∀ c ∈ text, IsShouted c) :
    upperSnake text = if '_' ∈ text then text else splitHumps '_' text := by
  rw [upperSnake_eq_map, snake]
  by_cases hmem : '_' ∈ text
  · have hkeep : ∀ c ∈ text.map asciiLower,
        (if isAsciiAlphanumeric c = true then c else '_') = c := by
      intro c hc
      obtain ⟨b, hb, rfl⟩ := List.mem_map.1 hc
      by_cases hunderscore : b = '_'
      · rw [hunderscore]
        decide
      · have halphanumeric := (h b hb).isAsciiAlphanumeric hunderscore
        exact if_pos (isAsciiAlphanumeric_of_isSmall (isSmall_asciiLower halphanumeric))
    rw [if_pos hmem, separate, if_pos (isSeparated_iff.2 ⟨'_', hmem, by decide⟩),
      lower_eq_map fun c hc ↦ .inr (h c hc).toNat_lt, List.map_congr_left hkeep, List.map_id',
      map_asciiUpper_asciiLower h]
  · have hseparated : isSeparated text = false := isSeparated_eq_false_iff.2 fun c hc ↦
      (h c hc).isAsciiAlphanumeric fun hunderscore ↦ hmem (hunderscore ▸ hc)
    have hsplit : ∀ c ∈ splitHumps '_' text, IsShouted c := by
      intro c hc
      rcases mem_splitHumps hc with rfl | hc
      · exact .inl rfl
      · exact h c hc
    rw [if_neg hmem, separate_of_together Spelling.isSeparator_underscore hseparated,
      map_asciiUpper_asciiLower hsplit]

theorem upperSnake_eq_self_iff : upperSnake text = text ↔ IsUpperSnake text := by
  have hiff : (∀ c ∈ text, IsShouted c) →
      (upperSnake text = text ↔ '_' ∈ text ∨ IsHumpless text) := by
    intro h
    rw [upperSnake_of_forall_isShouted h, ite_eq_left_iff, splitHumps_eq_self_iff,
      or_iff_not_imp_left]
  constructor
  · intro h
    have hshouted : ∀ c ∈ text, IsShouted c := by
      intro c hc
      rw [← h] at hc
      exact isShouted_of_mem_upperSnake hc
    exact ⟨hshouted, (hiff hshouted).1 h⟩
  · intro h
    exact (hiff h.isShouted).2 h.isHumpless

/-! ## What is made of a text -/

/-- Each character that is no small letter or digit is directly before one. -/
def IsFollowed : List Char → Prop
  | a :: b :: rest => (isSmall a = true ∨ isSmall b = true) ∧ IsFollowed (b :: rest)
  | [a] => isSmall a = true
  | [] => True

theorem IsFollowed.tail {a : Char} (h : IsFollowed (a :: text)) : IsFollowed text := by
  cases text with
  | nil => trivial
  | cons b rest => exact h.2

/-- All separators are gone once each has given its place to what is after it. -/
theorem isSeparated_joinHumps (h : IsFollowed text) : isSeparated (joinHumps text) = false := by
  rw [isSeparated_eq_false_iff]
  fun_induction joinHumps text with
  | case1 a b rest hhump ih =>
    rw [Bool.and_eq_true] at hhump
    exact List.forall_mem_cons.2
      ⟨isAsciiAlphanumeric_asciiUpper_of_isSmall hhump.2, ih h.tail.tail⟩
  | case2 a b rest hhump ih =>
    rw [Bool.and_eq_true, Bool.not_eq_true', not_and, Bool.not_eq_true] at hhump
    have ha : isSmall a = true := by
      by_contra ha
      rw [Bool.not_eq_true] at ha
      rw [IsFollowed, ha, hhump ha] at h
      exact h.1.elim Bool.false_ne_true Bool.false_ne_true
    exact List.forall_mem_cons.2 ⟨isAsciiAlphanumeric_of_isSmall ha, ih h.tail⟩
  | case3 short hshort =>
    rcases eq_nil_or_singleton hshort with rfl | ⟨a, rfl⟩
    · exact List.forall_mem_nil _
    · rw [List.forall_mem_singleton]
      exact isAsciiAlphanumeric_of_isSmall h

theorem isSeparated_mapFirst {f : Char → Char}
    (hf : ∀ c, isAsciiAlphanumeric (f c) = isAsciiAlphanumeric c) (h : isSeparated text = false) :
    isSeparated (mapFirst f text) = false := by
  rw [isSeparated_eq_false_iff] at h ⊢
  intro c hc
  rcases mem_mapFirst hc with hmem | ⟨b, hmem, rfl⟩
  · exact h c hmem
  · exact (hf b).trans (h b hmem)

theorem isSeparated_camel (h : isSeparated text = false ∨ IsFollowed (lower text)) :
    isSeparated (camel text) = false := by
  rw [camel]
  split
  · next hseparated =>
    rw [hseparated] at h
    exact isSeparated_joinHumps (h.resolve_left Bool.noConfusion)
  · next hseparated =>
    exact isSeparated_mapFirst isAsciiAlphanumeric_asciiLower (Bool.eq_false_iff.2 hseparated)

theorem isCamel_camel (h : isSeparated text = false ∨
    IsFollowed (lower text) ∧ ∀ c ∈ (lower text).head?, isSmall c = true) :
    IsCamel (camel text) := by
  refine .together (isSeparated_camel (h.imp_right And.left)) ?_
  rw [camel]
  split
  · next hseparated =>
    rw [hseparated] at h
    obtain ⟨-, hhead⟩ := h.resolve_left Bool.noConfusion
    cases htext : lower text with
    | nil => simp [joinHumps]
    | cons a rest =>
      have ha : isSmall a = true := hhead a (by rw [htext]; rfl)
      rw [joinHumps_of_isSmall ha]
      simpa using isAsciiUpper_of_isSmall ha
  · rw [head?_mapFirst]
    intro c hc
    obtain ⟨b, -, rfl⟩ := Option.mem_map.1 hc
    exact isAsciiUpper_asciiLower b

theorem isPascal_pascal (h : isSeparated text = false ∨ IsFollowed (lower text)) :
    IsPascal (pascal text) := by
  refine .together (isSeparated_mapFirst isAsciiAlphanumeric_asciiUpper (isSeparated_camel h)) ?_
  rw [pascal, head?_mapFirst]
  intro c hc
  obtain ⟨b, -, rfl⟩ := Option.mem_map.1 hc
  exact isAsciiLower_asciiUpper b

/-- Several words are told apart again by the underscore, and a single word without a digit does not
fall into two. -/
theorem isUpperSnake_upperSnake (h : '_' ∈ snake text ∨ ∀ c ∈ snake text, isAsciiDigit c = false) :
    IsUpperSnake (upperSnake text) := by
  refine ⟨fun c ↦ isShouted_of_mem_upperSnake, ?_⟩
  rw [upperSnake_eq_map]
  refine h.imp (fun hmem ↦ List.mem_map.2 ⟨'_', hmem, by decide⟩) fun hdigit ↦ ?_
  -- in capitals nothing but a digit is left for a capital to come after
  refine (List.pairwise_of_forall_mem_list fun a ha b _ hhump ↦ ?_).isChain
  obtain ⟨d, hd, rfl⟩ := List.mem_map.1 ha
  rw [isSmall, isAsciiLower_asciiUpper, isAsciiDigit_asciiUpper, hdigit d hd] at hhump
  exact Bool.false_ne_true hhump.1

end Recase

namespace Spelling

open Recase

/-- The case that a spelling puts a text into, as the texts that are in it. -/
def HasCase : Spelling → List Char → Prop
  | kebab, text => IsApart '-' text
  | snake, text => IsApart '_' text
  | space, text => IsApart ' ' text
  | camel, text => IsCamel text
  | pascal, text => IsPascal text
  | upperSnake, text => IsUpperSnake text

/-- A text that is put into the case of a spelling at once. -/
def Settles : Spelling → List Char → Prop
  | camel, text => isSeparated text = false ∨
      IsFollowed (Text.lower text) ∧ ∀ c ∈ (Text.lower text).head?, isSmall c = true
  | pascal, text => isSeparated text = false ∨ IsFollowed (Text.lower text)
  | upperSnake, text => '_' ∈ Recase.snake text ∨
      ∀ c ∈ Recase.snake text, Text.isAsciiDigit c = false
  | _, _ => True

theorem recase_eq_self_iff (spelling : Spelling) (text : List Char) :
    spelling.recase text = text ↔ spelling.HasCase text := by
  cases spelling with
  | kebab => exact separate_eq_self_iff isSeparator_hyphen
  | snake => exact separate_eq_self_iff isSeparator_underscore
  | space => exact separate_eq_self_iff isSeparator_space
  | camel => exact camel_eq_self_iff
  | pascal => exact pascal_eq_self_iff
  | upperSnake => exact upperSnake_eq_self_iff

theorem hasCase_recase {spelling : Spelling} {text : List Char} (h : spelling.Settles text) :
    spelling.HasCase (spelling.recase text) := by
  cases spelling with
  | kebab => exact isApart_separate isSeparator_hyphen text
  | snake => exact isApart_separate isSeparator_underscore text
  | space => exact isApart_separate isSeparator_space text
  | camel => exact isCamel_camel h
  | pascal => exact isPascal_pascal h
  | upperSnake => exact isUpperSnake_upperSnake h

theorem apply_eq_self_iff (spelling : Spelling) (value : String) :
    spelling.modifier.apply [value] = .ok value ↔ spelling.HasCase value.toList := by
  rw [apply_modifier, ← recase_eq_self_iff]
  constructor
  · intro h
    have hvalue := congrArg String.toList (Except.ok.inj (congrArg Traced.outcome h))
    rwa [String.toList_ofList] at hvalue
  · intro h
    rw [h, String.ofList_toList]

/-- A modifier leaves just the values in its case as they are, so it can be applied again without a
change just if it has put the value into its case. -/
theorem apply_again (spelling : Spelling) (value : String) :
    (spelling.modifier.apply [value] = .ok value ↔ spelling.HasCase value.toList) ∧
      ∃ once, spelling.modifier.apply [value] = .ok once ∧
        (spelling.modifier.apply [once] = .ok once ↔ spelling.HasCase once.toList) ∧
        (spelling.Settles value.toList → spelling.HasCase once.toList) := by
  refine ⟨apply_eq_self_iff spelling value, _, apply_modifier spelling value,
    apply_eq_self_iff spelling _, fun hsettles ↦ ?_⟩
  rw [String.toList_ofList]
  exact hasCase_recase hsettles

/-- A single separator in the middle of a value is gone at once. -/
theorem apply_again_myName : Modifier.camelCase.apply ["myName"] = .ok "myName" := by
  obtain ⟨-, once, honce, hagain, hsettles⟩ := apply_again camel "my_name"
  have hcamel : Modifier.camelCase.apply ["my_name"] = .ok "myName" := rfl
  cases hcamel.symm.trans honce
  have hlower : Text.lower "my_name".toList = ['m', 'y', '_', 'n', 'a', 'm', 'e'] := rfl
  refine hagain.2 (hsettles (.inr ?_))
  rw [hlower]
  refine ⟨⟨.inl rfl, .inl rfl, .inr rfl, .inl rfl, .inl rfl, .inl rfl, rfl⟩, ?_⟩
  rintro c ⟨⟩
  rfl

/-- A hyphen at the beginning makes a capital of what is after it, of two hyphens one is left, and a
digit before a letter divides a word in capitals. -/
theorem apply_again_moves :
    (Modifier.camelCase.apply ["-ab"] = .ok "Ab" ∧ Modifier.camelCase.apply ["Ab"] = .ok "ab") ∧
      (Modifier.pascalCase.apply ["a--b"] = .ok "A-B" ∧
        Modifier.pascalCase.apply ["A-B"] = .ok "AB") ∧
      Modifier.upperSnakeCase.apply ["a1b"] = .ok "A1B" ∧
        Modifier.upperSnakeCase.apply ["A1B"] = .ok "A1_B" :=
  ⟨⟨rfl, rfl⟩, ⟨rfl, rfl⟩, rfl, rfl⟩

end Spelling

end Scaffold
