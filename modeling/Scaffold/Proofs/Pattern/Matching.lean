import Mathlib
import Scaffold.Pattern.Match

/-!
# Where matches stand

Matching never goes back: what is left to be done is done at a place that is not before the one at
which matching stands, and still within the text. This holds of each kind of pattern if it holds of
its parts, looking behind included, which comes back to where it started. Each match therefore ends
where it begins or later, and the matches of a text stand in it one after the other.
-/

namespace Scaffold.Pattern

variable {text : Array Char} {goal : Goal} {p q r stop : Place} {body step : Goal → Goal}

/-! ## Going ahead -/

/-- One place is not before another one, and is within the text if that is. -/
structure Ahead (text : Array Char) (p q : Place) : Prop where
  /-- It is not before. -/
  le : p.pos ≤ q.pos
  /-- It is within the text. -/
  within : p.pos ≤ text.size → q.pos ≤ text.size

theorem Ahead.of_eq (h : q.pos = p.pos) : Ahead text p q :=
  ⟨h.ge, fun hp ↦ h.trans_le hp⟩

theorem Ahead.trans (h : Ahead text p q) (h' : Ahead text q r) : Ahead text p r :=
  ⟨h.le.trans h'.le, fun hp ↦ h'.within (h.within hp)⟩

/-- The goal is reached at a place ahead. -/
def Reaches (text : Array Char) (goal : Goal) (p stop : Place) : Prop :=
  ∃ q, Ahead text p q ∧ goal q = some stop

theorem Reaches.of_goal (h : goal p = some stop) : Reaches text goal p stop :=
  ⟨p, .of_eq rfl, h⟩

theorem Reaches.of_ahead (h : Ahead text p q) (hreaches : Reaches text goal q stop) :
    Reaches text goal p stop := by
  obtain ⟨r, hr, hgoal⟩ := hreaches
  exact ⟨r, h.trans hr, hgoal⟩

/-- Whatever is left to be done is done at a place ahead. -/
def Advances (text : Array Char) (step : Goal → Goal) : Prop :=
  ∀ goal p stop, step goal p = some stop → Reaches text goal p stop

/-- A step that is taken for itself ends at a place ahead. -/
theorem Advances.ahead (h : Advances text step) (hstep : step some p = some q) :
    Ahead text p q := by
  obtain ⟨r, hr, hgoal⟩ := h some p q hstep
  cases hgoal
  exact hr

theorem Advances.comp {next : Goal → Goal} (h : Advances text step) (hnext : Advances text next) :
    Advances text fun goal ↦ step (next goal) := by
  intro goal p stop hstep
  obtain ⟨q, hq, hgoal⟩ := h _ p stop hstep
  exact (hnext goal q stop hgoal).of_ahead hq

/-- One step is preferred to another one. -/
theorem Advances.orElse {other : Goal → Goal} (h : Advances text step)
    (hother : Advances text other) : Advances text fun goal p ↦ step goal p <|> other goal p := by
  intro goal p stop hstep
  rcases (Option.orElse_eq_some _ _ _).1 hstep with hstep | ⟨-, hstep⟩
  · exact h goal p stop hstep
  · exact hother goal p stop hstep

/-! ## Copies -/

theorem advances_copies (h : Advances text body) (lazy : Bool) (min : ℕ) (max : Option ℕ)
    (fuel count : ℕ) (last : Option ℕ) :
    Advances text fun goal ↦ copies body lazy min max goal fuel count last := by
  intro goal p stop hcopies
  induction fuel generalizing count last p with
  | zero => cases hcopies
  | succ fuel ih =>
    -- one more copy goes ahead, and so do the others by induction
    have hcopy : ∀ last, body (copies body lazy min max goal fuel (count + 1) last) p = some stop →
        Reaches text goal p stop := by
      intro last hbody
      obtain ⟨q, hq, hrest⟩ := h _ p stop hbody
      exact (ih _ _ q hrest).of_ahead hq
    simp only [copies] at hcopies
    split at hcopies
    · exact hcopy _ hcopies
    · split at hcopies
      · exact .of_goal hcopies
      · split at hcopies
        · rcases (Option.orElse_eq_some _ _ _).1 hcopies with hgoal | ⟨-, hbody⟩
          · exact .of_goal hgoal
          · exact hcopy _ hbody
        · rcases (Option.orElse_eq_some _ _ _).1 hcopies with hbody | ⟨-, hgoal⟩
          · exact hcopy _ hbody
          · exact .of_goal hgoal

theorem ahead_keptCopies {body : Goal} (h : ∀ p q, body p = some q → Ahead text p q) {min : ℕ}
    {max : Option ℕ} {fuel count : ℕ} {last : Option ℕ}
    (hcopies : keptCopies body min max fuel count last p = some q) : Ahead text p q := by
  induction fuel generalizing count last p with
  | zero => cases hcopies
  | succ fuel ih =>
    rw [keptCopies] at hcopies
    split at hcopies
    · obtain ⟨r, hbody, hrest⟩ := Option.bind_eq_some_iff.1 hcopies
      exact (h p r hbody).trans (ih hrest)
    · split at hcopies
      · cases hcopies
        exact .of_eq rfl
      · split at hcopies
        · next r hbody => exact (h p r hbody).trans (ih hcopies)
        · cases hcopies
          exact .of_eq rfl

/-! ## Patterns -/

theorem lt_size_of_codeAt? {i n : ℕ} (h : codeAt? text i = some n) : i < text.size := by
  obtain ⟨c, hc, -⟩ := Option.map_eq_some_iff.1 h
  exact (Array.getElem?_eq_some_iff.1 hc).1

/-- What is repeated is within the text. -/
theorem add_le_of_repeatsAt {fold : Text.Fold} {n i j : ℕ} (hi : i ≤ text.size)
    (h : repeatsAt text fold n i j = true) : i + n ≤ text.size := by
  induction n generalizing i j with
  | zero => exact hi
  | succ n ih =>
    rw [repeatsAt] at h
    split at h
    · next a b ha hb =>
      have hle := ih (lt_size_of_codeAt? ha) (Bool.and_eq_true_iff.1 h).2
      omega
    · cases h

theorem advances_run (p : Pattern) (text : Array Char) : Advances text (p.run text) := by
  induction p with
  | empty => exact fun goal p stop h ↦ .of_goal h
  | seq first rest hfirst hrest => exact hfirst.comp hrest
  | alt left right hleft hright => exact hleft.orElse hright
  | char mode test =>
    intro goal p stop h
    simp only [run] at h
    split at h
    · next n hn =>
      split at h
      · exact ⟨p.forward 1, ⟨Nat.le_add_right _ _, fun _ ↦ lt_size_of_codeAt? hn⟩, h⟩
      · cases h
    · cases h
  | anchor mode place =>
    intro goal p stop h
    simp only [run] at h
    split at h
    · exact .of_goal h
    · cases h
  | group number body hbody =>
    intro goal p stop h
    obtain ⟨q, hq, hgoal⟩ := hbody _ _ stop h
    exact ⟨q.leave number, ⟨hq.le, hq.within⟩, hgoal⟩
  | isolated body hbody => exact hbody
  | atomic body hbody =>
    intro goal p stop h
    obtain ⟨q, hq, hgoal⟩ := Option.bind_eq_some_iff.1 h
    exact ⟨q, hbody.ahead hq, hgoal⟩
  | rep greed min max body hbody =>
    intro goal p stop h
    cases greed with
    | greedy => exact advances_copies hbody _ _ _ _ _ _ goal p stop h
    | lazy => exact advances_copies hbody _ _ _ _ _ _ goal p stop h
    | possessive =>
      obtain ⟨q, hq, hgoal⟩ := Option.bind_eq_some_iff.1 h
      exact ⟨q, ahead_keptCopies (fun p q ↦ hbody.ahead) hq, hgoal⟩
  | look behind negated body hbody =>
    intro goal p stop h
    simp only [run] at h
    generalize (if behind ≤ p.pos then
      body.run text some { p with pos := p.pos - behind } else none) = seen at h
    cases negated with
    | true =>
      rw [if_pos rfl] at h
      split at h
      · exact .of_goal h
      · cases h
    | false =>
      obtain ⟨q, -, hgoal⟩ := Option.bind_eq_some_iff.1 h
      exact ⟨{ q with pos := p.pos }, .of_eq rfl, hgoal⟩
  | backref mode number =>
    intro goal p stop h
    simp only [run] at h
    split at h
    · next first last hspan =>
      split at h
      · next hrepeats =>
        exact ⟨_, ⟨Nat.le_add_right _ _, fun hp ↦ add_le_of_repeatsAt hp hrepeats⟩, h⟩
      · cases h
    · cases h
  | conditional number yes no hyes hno =>
    intro goal p stop h
    simp only [run] at h
    split at h
    · exact hyes goal p stop h
    · exact hno goal p stop h

/-! ## Matches -/

/-- Matches stand in a text one after the other, from a place on. -/
inductive InOrder (text : Array Char) : ℕ → List Match → Prop where
  /-- There is none. -/
  | nil {start : ℕ} (hstart : start ≤ text.size) : InOrder text start []
  /-- The next one begins there or later, and the others come after its end. -/
  | cons {start : ℕ} {m : Match} {ms : List Match} (hstart : start ≤ m.start)
    (hstop : m.start ≤ m.stop.pos) (hrest : InOrder text m.stop.pos ms) :
    InOrder text start (m :: ms)

theorem start_of_matchAt? {p : Pattern} {start : ℕ} {nonempty : Bool} {m : Match}
    (h : p.matchAt? text start nonempty = some m) :
    m.start = start ∧ start ≤ m.stop.pos ∧ (start ≤ text.size → m.stop.pos ≤ text.size) := by
  obtain ⟨stop, hstop, rfl⟩ := Option.map_eq_some_iff.1 h
  obtain ⟨q, hq, hgoal⟩ := advances_run p text _ _ stop hstop
  simp only at hgoal
  split at hgoal
  · cases hgoal
  · cases hgoal
    exact ⟨rfl, hq.le, hq.within⟩

theorem bounds_of_searchFrom? {p : Pattern} {n start : ℕ} {nonempty : Bool} {m : Match}
    (h : p.searchFrom? text n start nonempty = some m) (hn : start + n ≤ text.size) :
    start ≤ m.start ∧ m.start ≤ m.stop.pos ∧ m.stop.pos ≤ text.size := by
  induction n generalizing start nonempty with
  | zero =>
    obtain ⟨rfl, hstop, hwithin⟩ := start_of_matchAt? h
    exact ⟨le_rfl, hstop, hwithin hn⟩
  | succ n ih =>
    rw [searchFrom?] at h
    split at h
    · next m' hm =>
      cases h
      obtain ⟨rfl, hstop, hwithin⟩ := start_of_matchAt? hm
      exact ⟨le_rfl, hstop, hwithin (by omega)⟩
    · obtain ⟨hstart, hbounds⟩ := ih h (by omega)
      exact ⟨by omega, hbounds⟩

theorem inOrder_matchesFrom (p : Pattern) {n start : ℕ} (nonempty : Bool)
    (hstart : start ≤ text.size) : InOrder text start (p.matchesFrom text n start nonempty) := by
  induction n generalizing start nonempty with
  | zero => exact .nil hstart
  | succ n ih =>
    rw [matchesFrom]
    split
    · next m hm =>
      obtain ⟨hm, hstop, hwithin⟩ := bounds_of_searchFrom? hm (by omega)
      exact .cons hm hstop (ih _ hwithin)
    · exact .nil hstart

/-- The matches that are found stand in the text one after the other. -/
theorem inOrder_findMatches (p : Pattern) (text : Array Char) (all : Bool) :
    InOrder text 0 (p.findMatches text all) :=
  inOrder_matchesFrom p false (Nat.zero_le _)

end Scaffold.Pattern
