import Mathlib
import Scaffold.Proofs.Text.Split
import Scaffold.Proofs.Transform.Humps
import Scaffold.Transform.Apply

/-!
# Spellings of words

Words can be spelled with a character between them, in small letters or in capitals, or run together
with a capital at the beginning of each. There is a modifier for each spelling, and it finds the
same words in all of them: a text of several words reads as words apart if it holds a separator, and
as words run together if not. In either case what a modifier makes of the text depends on the words
only, so it need not be known which spelling they had before.

Words have two characters at least. A single letter between two others would not be told from the
beginning of the next word when all are run together.
-/

namespace Scaffold

open Recase

/-! ## Words -/

/-- A small letter of ASCII, followed by one or more small letters or digits. -/
structure Word where
  /-- The first letter. -/
  initial : Char
  /-- The other letters and digits. -/
  others : List Char
  /-- The first letter is a small letter. -/
  isAsciiLower_initial : Text.isAsciiLower initial = true
  /-- There are others. -/
  others_ne_nil : others ≠ []
  /-- The others are small letters and digits. -/
  isSmall_others : ∀ c ∈ others, isSmall c = true

namespace Word

/-- The word in small letters. -/
def chars (w : Word) : List Char := w.initial :: w.others

/-- The word with a capital at its beginning. -/
def capital (w : Word) : List Char := Text.asciiUpper w.initial :: w.others

/-- The word in capitals. -/
def capitals (w : Word) : List Char := w.chars.map Text.asciiUpper

variable {w : Word} {words : List Word}

theorem isSmall_initial (w : Word) : isSmall w.initial = true := by
  rw [isSmall, w.isAsciiLower_initial, Bool.true_or]

theorem isSmall_of_mem_chars {c : Char} (h : c ∈ w.chars) : isSmall c = true := by
  rcases List.mem_cons.1 h with rfl | h
  · exact w.isSmall_initial
  · exact w.isSmall_others c h

theorem isAsciiUpper_initial (w : Word) : Text.isAsciiUpper (Text.asciiUpper w.initial) = true :=
  Text.isAsciiUpper_asciiUpper_of_isAsciiLower w.isAsciiLower_initial

theorem isAsciiAlphanumeric_of_mem_capital {c : Char} (h : c ∈ w.capital) :
    Text.isAsciiAlphanumeric c = true := by
  rcases List.mem_cons.1 h with rfl | h
  · exact isAsciiAlphanumeric_of_isAsciiUpper w.isAsciiUpper_initial
  · exact isAsciiAlphanumeric_of_isSmall (w.isSmall_others c h)

theorem asciiLower_asciiUpper_of_mem_chars {c : Char} (h : c ∈ w.chars) :
    Text.asciiLower (Text.asciiUpper c) = c :=
  Text.asciiLower_asciiUpper (isAsciiUpper_of_isSmall (isSmall_of_mem_chars h))

theorem map_asciiLower_chars (w : Word) : w.chars.map Text.asciiLower = w.chars :=
  (List.map_congr_left fun _ hc ↦ asciiLower_of_isSmall (isSmall_of_mem_chars hc)).trans
    (List.map_id _)

theorem map_asciiLower_capital (w : Word) : w.capital.map Text.asciiLower = w.chars := by
  rw [capital, List.map_cons, asciiLower_asciiUpper_of_mem_chars List.mem_cons_self]
  exact congrArg (w.initial :: ·) (List.cons.inj w.map_asciiLower_chars).2

theorem map_asciiLower_capitals (w : Word) : w.capitals.map Text.asciiLower = w.chars := by
  rw [capitals, List.map_map]
  exact (List.map_congr_left fun _ hc ↦ asciiLower_asciiUpper_of_mem_chars hc).trans (List.map_id _)

/-- The words in small letters with a character between them. -/
def joined (x : Char) (words : List Word) : List Char := Text.join [x] (words.map chars)

theorem joined_cons (x : Char) (w : Word) (words : List Word) :
    joined x (w :: words) = w.chars ++ words.flatMap (x :: ·.chars) := by
  rw [joined, List.map_cons, Text.join_cons, List.flatMap_map]
  rfl

theorem mem_joined {c x : Char} (h : c ∈ joined x words) : c = x ∨ isSmall c = true := by
  rcases Text.mem_join h with h | ⟨part, hpart, h⟩
  · exact .inl (List.mem_singleton.1 h)
  · obtain ⟨w, -, rfl⟩ := List.mem_map.1 hpart
    exact .inr (isSmall_of_mem_chars h)

/-- A map of characters that keeps small letters and digits only changes the character between. -/
theorem map_joined {f : Char → Char} (h : ∀ c, isSmall c = true → f c = c) (x : Char)
    (words : List Word) : (joined x words).map f = joined (f x) words := by
  rw [joined, Text.map_join, List.map_map, List.map_singleton, joined]
  refine congrArg _ (List.map_congr_left fun w _ ↦ ?_)
  exact (List.map_congr_left fun c hc ↦ h c (isSmall_of_mem_chars hc)).trans (List.map_id _)

theorem lower_joined {x : Char} (hx : IsSeparator x) (words : List Word) :
    Text.lower (joined x words) = joined x words := by
  refine Text.lower_eq_self_iff.2 fun c hc ↦ ?_
  rcases mem_joined hc with rfl | hsmall
  · exact hx.isLowered
  · exact isLowered_of_isSmall hsmall

end Word

/-! ## Spellings -/

/-- A way to spell a list of words. -/
inductive Spelling where
  | kebab
  | snake
  | space
  | camel
  | pascal
  | upperSnake
deriving DecidableEq, Repr

namespace Spelling

/-- The modifier that puts a value into a spelling. -/
def modifier : Spelling → Modifier
  | kebab => .kebabCase
  | snake => .snakeCase
  | space => .spaceCase
  | camel => .camelCase
  | pascal => .pascalCase
  | upperSnake => .upperSnakeCase

/-- What the modifier makes of a text. -/
def recase : Spelling → List Char → List Char
  | kebab => Recase.kebab
  | snake => Recase.snake
  | space => Recase.space
  | camel => Recase.camel
  | pascal => Recase.pascal
  | upperSnake => Recase.upperSnake

theorem apply_modifier (spelling : Spelling) (value : String) :
    spelling.modifier.apply [value] = .ok (String.ofList (spelling.recase value.toList)) := by
  cases spelling <;> rfl

/-- The words in a spelling. -/
def spell : Spelling → List Word → List Char
  | kebab, words => Word.joined '-' words
  | snake, words => Word.joined '_' words
  | space, words => Word.joined ' ' words
  | camel, [] => []
  | camel, w :: words => w.chars ++ words.flatMap Word.capital
  | pascal, words => words.flatMap Word.capital
  | upperSnake, words => Text.join ['_'] (words.map Word.capitals)

theorem isSeparator_hyphen : IsSeparator '-' := ⟨by decide, by decide⟩

theorem isSeparator_underscore : IsSeparator '_' := ⟨by decide, by decide⟩

theorem isSeparator_space : IsSeparator ' ' := ⟨by decide, by decide⟩

theorem upper_joined (words : List Word) :
    Text.upper (Word.joined '_' words) = upperSnake.spell words := by
  have hascii : ∀ c ∈ Word.joined '_' words, c.toNat < 128 := by
    intro c hc
    rcases Word.mem_joined hc with rfl | hsmall
    · decide
    · exact toNat_lt_of_isSmall hsmall
  rw [Text.upper_eq_map hascii, Word.joined, Text.map_join, List.map_map]
  rfl

theorem lower_spell_upperSnake (words : List Word) :
    Text.lower (upperSnake.spell words) = Word.joined '_' words := by
  have hascii : ∀ c ∈ upperSnake.spell words, c.toNat < 128 := by
    intro c hc
    rcases Text.mem_join hc with h | ⟨part, hpart, h⟩
    · rw [List.mem_singleton.1 h]
      decide
    · obtain ⟨w, -, rfl⟩ := List.mem_map.1 hpart
      obtain ⟨d, hd, rfl⟩ := List.mem_map.1 h
      exact Text.toNat_lt_of_isAsciiAlphanumeric
        (isAsciiAlphanumeric_asciiUpper_of_isSmall (Word.isSmall_of_mem_chars hd))
  rw [Text.lower_eq_map fun c hc ↦ .inr (hascii c hc), spell, Text.map_join, List.map_map,
    Word.joined]
  exact congrArg _ (List.map_congr_left fun w _ ↦ w.map_asciiLower_capitals)

theorem mapFirst_spell_camel (words : List Word) :
    mapFirst Text.asciiUpper (camel.spell words) = pascal.spell words := by
  cases words with
  | nil => rfl
  | cons w words => rfl

/-! ## Reading words -/

/-- The words that are found in a text. -/
inductive Reads : List Char → List Word → Prop where
  /-- The words are apart. -/
  | apart {text : List Char} {words : List Word} {x : Char} (hx : IsSeparator x)
    (hseparated : isSeparated text = true) (hlower : Text.lower text = Word.joined x words) :
    Reads text words
  /-- The words are run together. The first may be with or without a capital. -/
  | together {initial : List Char} {w : Word} (words : List Word)
    (hinitial : initial = w.chars ∨ initial = w.capital) :
    Reads (initial ++ words.flatMap Word.capital) (w :: words)

theorem isSeparated_joined {x : Char} (hx : IsSeparator x) {words : List Word}
    (h : 2 ≤ words.length) : isSeparated (Word.joined x words) = true := by
  match words, h with
  | w :: w' :: words, _ =>
    refine isSeparated_iff.2 ⟨x, ?_, hx.not_alphanumeric⟩
    rw [Word.joined_cons, List.flatMap_cons]
    simp

theorem isSeparated_spell_upperSnake {words : List Word} (h : 2 ≤ words.length) :
    isSeparated (upperSnake.spell words) = true := by
  match words, h with
  | w :: w' :: words, _ =>
    refine isSeparated_iff.2 ⟨'_', ?_, by decide⟩
    rw [spell, List.map_cons, Text.join_cons, List.map_cons, List.flatMap_cons]
    simp

/-- One word is read as such, and several with a separator between them as apart. -/
theorem reads_joined {x : Char} (hx : IsSeparator x) {words : List Word} (h : 1 ≤ words.length) :
    Reads (Word.joined x words) words := by
  match words, h with
  | [w], _ =>
    have hreads := Reads.together (w := w) [] (.inl rfl)
    rwa [List.flatMap_nil, List.append_nil] at hreads
  | w :: w' :: words, _ =>
    exact .apart hx (isSeparated_joined hx (Nat.le_add_left _ _)) (Word.lower_joined hx _)

/-- The words are found in all of their spellings, but a single word not in capitals. -/
theorem reads_spell (spelling : Spelling) {words : List Word} (hone : 1 ≤ words.length)
    (htwo : spelling = upperSnake → 2 ≤ words.length) : Reads (spelling.spell words) words := by
  cases spelling with
  | kebab => exact reads_joined isSeparator_hyphen hone
  | snake => exact reads_joined isSeparator_underscore hone
  | space => exact reads_joined isSeparator_space hone
  | camel =>
    match words, hone with
    | w :: words, _ => exact .together words (.inl rfl)
  | pascal =>
    match words, hone with
    | w :: words, _ => exact .together words (.inr rfl)
  | upperSnake =>
    exact .apart isSeparator_underscore (isSeparated_spell_upperSnake (htwo rfl))
      (lower_spell_upperSnake words)

/-! ## What is made of the words -/

theorem joinHumps_joined {x : Char} (hx : IsSeparator x) (words : List Word) :
    joinHumps (Word.joined x words) = camel.spell words := by
  have hothers : ∀ words : List Word,
      joinHumps (words.flatMap (x :: ·.chars)) = words.flatMap Word.capital := by
    intro words
    induction words with
    | nil => rfl
    | cons w words ih =>
      rw [List.flatMap_cons, List.flatMap_cons, Word.chars, List.cons_append, List.cons_append,
        joinHumps_of_hump hx.isSmall w.isSmall_initial, joinHumps_append w.isSmall_others, ih,
        Word.capital, List.cons_append]
  cases words with
  | nil => rfl
  | cons w words =>
    rw [Word.joined_cons, joinHumps_append fun c hc ↦ Word.isSmall_of_mem_chars hc, hothers, spell]

/-- A separator comes before each word that is run together with the one before it. -/
theorem splitHumps_capital {x a : Char} {run : List Char} (hrun : ∀ c ∈ run, isSmall c = true)
    (hne : run ≠ []) (words : List Word) :
    splitHumps x (a :: (run ++ words.flatMap Word.capital)) =
      a :: (run ++ words.flatMap (x :: ·.capital)) := by
  induction words generalizing a run with
  | nil =>
    rw [List.flatMap_nil, List.flatMap_nil, List.append_nil]
    exact splitHumps_eq_self_iff.2 (isHumpless_of_forall_isSmall hrun)
  | cons w words ih =>
    rw [List.flatMap_cons, List.flatMap_cons, Word.capital, List.cons_append,
      splitHumps_cons_append hrun hne w.isAsciiUpper_initial, ih w.isSmall_others w.others_ne_nil,
      List.cons_append, List.cons_append]

theorem isSeparated_together {initial : List Char} {w : Word}
    (hinitial : initial = w.chars ∨ initial = w.capital) (words : List Word) :
    isSeparated (initial ++ words.flatMap Word.capital) = false := by
  refine isSeparated_eq_false_iff.2 fun c hc ↦ ?_
  rcases List.mem_append.1 hc with hc | hc
  · rcases hinitial with rfl | rfl
    · exact isAsciiAlphanumeric_of_isSmall (Word.isSmall_of_mem_chars hc)
    · exact Word.isAsciiAlphanumeric_of_mem_capital hc
  · obtain ⟨w', -, hc⟩ := List.mem_flatMap.1 hc
    exact Word.isAsciiAlphanumeric_of_mem_capital hc

/-- With a separator before each but the first, words are lowered one by one. -/
theorem map_asciiLower_together {x : Char} (hx : IsSeparator x) {initial : List Char} {w : Word}
    (hinitial : initial = w.chars ∨ initial = w.capital) (words : List Word) :
    (initial ++ words.flatMap (x :: ·.capital)).map Text.asciiLower =
      Word.joined x (w :: words) := by
  have hfirst : initial.map Text.asciiLower = w.chars := by
    rcases hinitial with rfl | rfl
    · exact w.map_asciiLower_chars
    · exact w.map_asciiLower_capital
  rw [List.map_append, hfirst, List.map_flatMap, Word.joined_cons]
  simp only [List.map_cons, hx.asciiLower, Word.map_asciiLower_capital]

theorem separate_of_reads {text : List Char} {words : List Word} (h : Reads text words) {y : Char}
    (hy : IsSeparator y) : separate y text = Word.joined y words := by
  cases h with
  | apart hx hseparated hlower =>
    rw [separate, if_pos hseparated, hlower, Word.map_joined]
    · rw [hx.not_alphanumeric]
      rfl
    · intro c hc
      rw [if_pos (isAsciiAlphanumeric_of_isSmall hc)]
  | @together initial w words hinitial =>
    rw [separate_of_together hy (isSeparated_together hinitial words),
      ← map_asciiLower_together hy hinitial]
    refine congrArg (List.map Text.asciiLower) ?_
    rcases hinitial with rfl | rfl
    · exact splitHumps_capital w.isSmall_others w.others_ne_nil words
    · exact splitHumps_capital w.isSmall_others w.others_ne_nil words

theorem camel_of_reads {text : List Char} {words : List Word} (h : Reads text words) :
    Recase.camel text = camel.spell words := by
  cases h with
  | apart hx hseparated hlower =>
    rw [Recase.camel, if_pos hseparated, hlower, joinHumps_joined hx]
  | @together initial w words hinitial =>
    have hseparated := isSeparated_together hinitial words
    rw [Recase.camel, if_neg (by simp [hseparated]), spell]
    rcases hinitial with rfl | rfl
    · rw [Word.chars, List.cons_append, mapFirst, asciiLower_of_isSmall w.isSmall_initial]
    · rw [Word.capital, List.cons_append, mapFirst,
        Word.asciiLower_asciiUpper_of_mem_chars List.mem_cons_self, Word.chars, List.cons_append]

/-- What a modifier makes of a text depends on the words in it only. -/
theorem recase_of_reads {text : List Char} {words : List Word} (h : Reads text words)
    (spelling : Spelling) : spelling.recase text = spelling.spell words := by
  cases spelling with
  | kebab => exact separate_of_reads h isSeparator_hyphen
  | snake => exact separate_of_reads h isSeparator_underscore
  | space => exact separate_of_reads h isSeparator_space
  | camel => exact camel_of_reads h
  | pascal =>
    rw [recase, Recase.pascal, camel_of_reads h]
    exact mapFirst_spell_camel words
  | upperSnake =>
    rw [recase, Recase.upperSnake, Recase.snake, separate_of_reads h isSeparator_underscore]
    exact upper_joined words

/-- Each modifier takes every spelling of some words to its own, a single word in capitals aside. -/
theorem apply_spell (source target : Spelling) (words : List Word) (hone : 1 ≤ words.length)
    (htwo : source = upperSnake → 2 ≤ words.length) :
    target.modifier.apply [String.ofList (source.spell words)] =
      .ok (String.ofList (target.spell words)) := by
  rw [apply_modifier, String.toList_ofList, recase_of_reads (reads_spell source hone htwo)]

/-- Two words, the second of which begins with a letter and ends in a digit. -/
def shortWords : List Word :=
  [⟨'t', ['o', 'p'], rfl, List.cons_ne_nil _ _, List.all_eq_true.1 rfl⟩,
    ⟨'h', ['2'], rfl, List.cons_ne_nil _ _, List.all_eq_true.1 rfl⟩]

theorem apply_spell_shortWords :
    Modifier.camelCase.apply ["TOP_H2"] = .ok "topH2" ∧
      Modifier.kebabCase.apply ["TopH2"] = .ok "top-h2" := by
  have hone : 1 ≤ shortWords.length := by decide
  have htwo : 2 ≤ shortWords.length := by decide
  have hcamel := apply_spell upperSnake camel shortWords hone fun _ ↦ htwo
  have hkebab := apply_spell pascal kebab shortWords hone fun _ ↦ htwo
  have hupperSnake : String.ofList (upperSnake.spell shortWords) = "TOP_H2" := by decide +kernel
  have hpascal : String.ofList (pascal.spell shortWords) = "TopH2" := by decide +kernel
  rw [hupperSnake] at hcamel
  rw [hpascal] at hkebab
  exact ⟨hcamel, hkebab⟩

end Spelling

end Scaffold
