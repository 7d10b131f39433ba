import Mathlib
import Scaffold.Proofs.Pattern.Matching
import Scaffold.Transform.Apply

/-!
# Replacements as they are written

In a replacement a dollar refers to a part of the match, unless it is followed by another one. So a
text with its dollars doubled stands for itself: dollars are taken in pairs from the left, and a
pair that doubling has made is never torn, whatever comes next to it and however many groups there
are. Replacing the matches of a pattern by such a text changes nothing else, because the matches are
found one after the other and what is between them is kept.
-/

namespace Scaffold

namespace Pattern

variable {text : Array Char} {start : ℕ} {ms : List Match}

/-! ## Doubled dollars -/

/-- The text with each dollar doubled. -/
def doubled (text : List Char) : List Char :=
  text.flatMap fun c ↦ if c = '$' then ['$', '$'] else [c]

theorem Captured.expand_dollars (m : Captured) (rest : List Char) :
    m.expand ('$' :: '$' :: rest) = '$' :: m.expand rest := by
  rw [expand]

theorem Captured.expand_cons_of_ne (m : Captured) {c : Char} (h : c ≠ '$') (rest : List Char) :
    m.expand (c :: rest) = c :: m.expand rest := by
  rw [expand]
  all_goals simp [h]

/-- A text with its dollars doubled stands for itself, whatever has been matched. -/
theorem Captured.expand_doubled (m : Captured) (text : List Char) :
    m.expand (doubled text) = text := by
  induction text with
  | nil => rw [doubled, List.flatMap_nil, expand]
  | cons c text ih =>
    rw [doubled, List.flatMap_cons, ← doubled]
    split
    · next hc => rw [hc, List.cons_append, List.singleton_append, m.expand_dollars, ih]
    · next hc => rw [List.singleton_append, m.expand_cons_of_ne hc, ih]

/-! ## What is between the matches -/

/-- The text of a match. -/
def Match.token (m : Match) (text : Array Char) : List Char :=
  slice text m.start m.stop.pos

/-- Whatever is put in the place of the matches, what is before each of them and after the last one
stays the same. -/
theorem exists_pieces (text : Array Char) (start : ℕ) (ms : List Match) :
    ∃ (pieces : List (List Char × Match)) (last : List Char), pieces.map Prod.snd = ms ∧
      ∀ render, fill text render start ms =
        pieces.flatMap (fun piece ↦ piece.1 ++ render piece.2) ++ last := by
  induction ms generalizing start with
  | nil => exact ⟨[], slice text start text.size, rfl, fun render ↦ by rw [fill]; rfl⟩
  | cons m ms ih =>
    obtain ⟨pieces, last, hms, hfill⟩ := ih m.stop.pos
    refine ⟨(slice text start m.start, m) :: pieces, last, congrArg (m :: ·) hms, fun render ↦ ?_⟩
    rw [fill, hfill, List.flatMap_cons]
    simp only [List.append_assoc]

theorem slice_append_slice {first middle last : ℕ} (h : first ≤ middle) (h' : middle ≤ last) :
    slice text first middle ++ slice text middle last = slice text first last := by
  rw [slice, slice, slice, ← Array.toList_append, Array.extract_append_extract, min_eq_left h,
    max_eq_right h']

theorem InOrder.start_le (h : InOrder text start ms) : start ≤ text.size := by
  induction h with
  | nil hstart => exact hstart
  | cons hstart hstop hrest ih => exact hstart.trans (hstop.trans ih)

/-- With each match in its own place the text is as it was. -/
theorem InOrder.fill_token (h : InOrder text start ms) :
    fill text (·.token text) start ms = slice text start text.size := by
  induction h with
  | nil hstart => rw [fill]
  | @cons start m ms hstart hstop hrest ih =>
    rw [fill, ih, Match.token, slice_append_slice hstart hstop,
      slice_append_slice (hstart.trans hstop) hrest.start_le]

end Pattern

namespace Modifier

open Pattern

/-- If its dollars are doubled, a text is put as it is in the place of each match that is replaced,
and nothing else is changed; it is what it stands for whatever has been matched. -/
theorem replace_doubled {pattern : String} {rest : List String} {p : Pattern}
    (hparse : Pattern.parse pattern.toList (modeOfFlags (rest.headD "").toList) = .ok p)
    (value replacement : String) :
    (∃ (pieces : List (List Char × Match)) (last : List Char),
      pieces.map Prod.snd =
          p.findMatches value.toList.toArray ((rest.headD "").toList.contains 'g') ∧
        value.toList =
          pieces.flatMap (fun piece ↦ piece.1 ++ piece.2.token value.toList.toArray) ++ last ∧
        replace.apply
            (value :: pattern :: String.ofList (doubled replacement.toList) :: rest) =
          .ok (String.ofList
            (pieces.flatMap (fun piece ↦ piece.1 ++ replacement.toList) ++ last))) ∧
      ∀ m : Captured, m.expand (doubled replacement.toList) = replacement.toList := by
  have hexpand := fun m : Captured ↦ m.expand_doubled replacement.toList
  obtain ⟨pieces, last, hpieces, hfill⟩ := exists_pieces value.toList.toArray 0
    (p.findMatches value.toList.toArray ((rest.headD "").toList.contains 'g'))
  refine ⟨⟨pieces, last, hpieces, ?_, ?_⟩, hexpand⟩
  · rw [← hfill (·.token value.toList.toArray), (inOrder_findMatches _ _ _).fill_token, slice,
      Array.extract_size]
  · show replaceIn _ _ _ _ = _
    rw [replaceIn, hparse]
    simp only [String.toList_ofList, Pattern.replace, hexpand, hfill]

/-- Two dollars before a digit, one before an ampersand and one at the end, and groups that these
could refer to. -/
theorem replace_doubled_amounts :
    (∃ p, Pattern.parse "(a)(b)?".toList (modeOfFlags "g".toList) = .ok p ∧
      ∃ (pieces : List (List Char × Match)) (last : List Char),
        pieces.map Prod.snd = p.findMatches "abca".toList.toArray true ∧
        "abca".toList =
          pieces.flatMap (fun piece ↦ piece.1 ++ piece.2.token "abca".toList.toArray) ++ last ∧
        replace.apply ["abca", "(a)(b)?", "$$$$1$$&\\$$", "g"] = .ok (String.ofList
          (pieces.flatMap (fun piece ↦ piece.1 ++ "$$1$&\\$".toList) ++ last))) ∧
      ∀ m : Captured, m.expand "$$$$1$$&\\$$".toList = "$$1$&\\$".toList := by
  have hdoubled : doubled "$$1$&\\$".toList = "$$$$1$$&\\$$".toList := by decide
  have hread : (Pattern.parse "(a)(b)?".toList (modeOfFlags "g".toList)).isOk = true := by
    decide +kernel
  obtain ⟨p, hparse⟩ :
      ∃ p, Pattern.parse "(a)(b)?".toList (modeOfFlags "g".toList) = .ok p := by
    cases hparse : Pattern.parse "(a)(b)?".toList (modeOfFlags "g".toList) with
    | ok p => exact ⟨p, rfl⟩
    | error fault =>
      rw [hparse] at hread
      cases hread
  obtain ⟨hpieces, hexpand⟩ := @replace_doubled "(a)(b)?" ["g"] p hparse "abca" "$$1$&\\$"
  rw [hdoubled] at hexpand
  rw [hdoubled, String.ofList_toList] at hpieces
  exact ⟨⟨p, hparse, hpieces⟩, hexpand⟩

end Modifier

end Scaffold
