import Mathlib
import Scaffold.Proofs.Resolution.Phases

/-!
# Rounds of a question

A question is put in rounds: an empty answer has it put again, as long as nothing is offered for it.
What is asked in the course of a computation is a list of rounds, which tells both what has been
asked and which replies have been used up. Rounds are added up from computation to computation.
-/

namespace Scaffold

/-! ## Rounds -/

/-- A question that is put until it has an answer. -/
structure Round where
  /-- The question. -/
  prompt : Prompt
  /-- How many empty answers there are before the last one. -/
  blanks : ℕ
  /-- The last answer. -/
  answer : String

namespace Round

/-- The question, as often as it is put. -/
def prompts (round : Round) : List Prompt := List.replicate (round.blanks + 1) round.prompt

/-- What the person replies. -/
def replies (round : Round) : List Reply :=
  List.replicate round.blanks (.answer "") ++ [.answer round.answer]

/-- The value that the round ends with: the last answer, or what is offered for an empty one. -/
def value (round : Round) : String :=
  if round.answer = "" then round.prompt.offer?.getD "" else round.answer

/-- A round goes on as long as it has to. -/
structure IsSettled (round : Round) : Prop where
  /-- If there is an offer, the question is put once. -/
  once : round.prompt.offer?.isSome → round.blanks = 0
  /-- If there is none, the last answer is not empty. -/
  answered : round.prompt.offer? = none → round.answer ≠ ""

end Round

/-- A conversation goes on by some rounds. -/
structure Asks (rounds : List Round) (c c' : Conversation) : Prop where
  /-- The questions are put one after the other. -/
  prompts : c'.prompts = c.prompts ++ rounds.flatMap Round.prompts
  /-- The replies are used up one after the other. -/
  replies : c.replies = rounds.flatMap Round.replies ++ c'.replies
  /-- Each round goes on as long as it has to. -/
  settled : ∀ round ∈ rounds, round.IsSettled

namespace Asks

theorem report (c : Conversation) (events : List Event) : Asks [] c (c.report events) :=
  ⟨(List.append_nil _).symm, rfl, by simp⟩

theorem refl (c : Conversation) : Asks [] c c :=
  ⟨(List.append_nil _).symm, rfl, by simp⟩

theorem trans {rounds rounds' : List Round} {c d c' : Conversation} (h : Asks rounds c d)
    (h' : Asks rounds' d c') : Asks (rounds ++ rounds') c c' := by
  refine ⟨?_, ?_, List.forall_mem_append.2 ⟨h.settled, h'.settled⟩⟩
  · rw [h'.prompts, h.prompts, List.append_assoc, List.flatMap_append]
  · rw [h.replies, h'.replies, List.flatMap_append, List.append_assoc]

/-- An empty answer for which nothing is offered makes a round longer. -/
theorem again {round : Round} {rest : List Reply} {c c' : Conversation} {events : List Event}
    (hoffer : round.prompt.offer? = none) (hreplies : c.replies = .answer "" :: rest)
    (h : Asks [round] ((c.asked round.prompt rest).report events) c') :
    Asks [⟨round.prompt, round.blanks + 1, round.answer⟩] c c' := by
  have hprompts := h.prompts
  have hrest := h.replies
  rw [List.flatMap_singleton] at hprompts hrest
  refine ⟨?_, ?_, List.forall_mem_singleton.2 ⟨by simp [hoffer], fun _ ↦ ?_⟩⟩
  · rw [hprompts, List.flatMap_singleton]
    exact List.append_assoc _ _ _
  · rw [hreplies, List.flatMap_singleton]
    exact congrArg (.answer "" :: ·) hrest
  · exact (h.settled round (List.mem_singleton_self round)).answered hoffer

end Asks

/-- A question that gets a value has had its round. Each reply but the last was an empty answer, so
that the round is built up from its end. -/
theorem Conversation.asks_of_askWith {p : Prompt} {replies : List Reply} {c c' : Conversation}
    {text : String} (hreplies : c.replies = replies) (h : askWith p replies c = (some text, c')) :
    ∃ round : Round, round.prompt = p ∧ round.value = text ∧ Asks [round] c c' := by
  induction replies generalizing c with
  | nil => cases h
  | cons reply rest ih =>
    cases reply with
    | interrupt => cases h
    | answer answer =>
      rw [askWith] at h
      by_cases hanswer : answer = ""
      · rw [if_pos (String.isEmpty_iff.2 hanswer)] at h
        subst hanswer
        cases hoffer : p.offer? with
        | some value =>
          rw [hoffer] at h
          cases h
          refine ⟨⟨p, 0, ""⟩, rfl, by simp [Round.value, hoffer], rfl, hreplies, ?_⟩
          exact List.forall_mem_singleton.2 ⟨fun _ ↦ rfl, by simp [hoffer]⟩
        | none =>
          rw [hoffer] at h
          obtain ⟨round, rfl, hvalue, hasks⟩ := ih rfl h
          exact ⟨⟨round.prompt, round.blanks + 1, round.answer⟩, rfl, hvalue,
            hasks.again hoffer hreplies⟩
      · rw [if_neg (mt String.isEmpty_iff.1 hanswer)] at h
        cases h
        refine ⟨⟨p, 0, text⟩, rfl, if_neg hanswer, rfl, hreplies, ?_⟩
        exact List.forall_mem_singleton.2 ⟨fun _ ↦ rfl, fun _ ↦ hanswer⟩

/-! ## Telling rounds apart -/

namespace Round

/-- A round can be told from what comes after it: it ends with the first answer if there is an
offer, and else with the first answer that is not empty. -/
theorem eq_of_replies_append {round round' : Round} {rest rest' : List Reply}
    (hsettled : round.IsSettled) (hsettled' : round'.IsSettled)
    (hprompt : round.prompt = round'.prompt)
    (h : round.replies ++ rest = round'.replies ++ rest') : round = round' ∧ rest = rest' := by
  obtain ⟨p, blanks, answer⟩ := round
  obtain ⟨p', blanks', answer'⟩ := round'
  obtain rfl : p = p' := hprompt
  cases hoffer : p.offer? with
  | some value =>
    obtain rfl : blanks = 0 := hsettled.once (Option.isSome_iff_exists.2 ⟨value, hoffer⟩)
    obtain rfl : blanks' = 0 := hsettled'.once (Option.isSome_iff_exists.2 ⟨value, hoffer⟩)
    obtain ⟨hanswer, hrest⟩ := List.cons_eq_cons.1 h
    cases hanswer
    exact ⟨rfl, hrest⟩
  | none =>
    have hne : answer ≠ "" := hsettled.answered hoffer
    have hne' : answer' ≠ "" := hsettled'.answered hoffer
    clear hsettled hsettled'
    -- empty answers go away in pairs, and then come the two last ones
    induction blanks generalizing blanks' with
    | zero =>
      cases blanks' with
      | zero =>
        obtain ⟨hanswer, hrest⟩ := List.cons_eq_cons.1 h
        cases hanswer
        exact ⟨rfl, hrest⟩
      | succ blanks' =>
        exact absurd (Reply.answer.inj (List.cons_eq_cons.1 h).1) hne
    | succ blanks ih =>
      cases blanks' with
      | zero => exact absurd (Reply.answer.inj (List.cons_eq_cons.1 h).1).symm hne'
      | succ blanks' =>
        obtain ⟨hround, hrest⟩ := ih blanks' (List.cons_eq_cons.1 h).2
        cases hround
        exact ⟨rfl, hrest⟩

end Round

namespace Asks

/-- A conversation goes on by the same rounds, however they are told apart. -/
theorem unique {rounds rounds' : List Round} {c c' : Conversation} (h : Asks rounds c c')
    (h' : Asks rounds' c c') : rounds = rounds' := by
  have hprompts : rounds.flatMap Round.prompts = rounds'.flatMap Round.prompts :=
    List.append_cancel_left (h.prompts.symm.trans h'.prompts)
  have hreplies : rounds.flatMap Round.replies ++ c'.replies =
      rounds'.flatMap Round.replies ++ c'.replies := h.replies.symm.trans h'.replies
  have hsettled := h.settled
  have hsettled' := h'.settled
  clear h h'
  induction rounds generalizing rounds' with
  | nil =>
    cases rounds' with
    | nil => rfl
    | cons round' rounds' => cases hprompts
  | cons round rounds ih =>
    cases rounds' with
    | nil => cases hprompts
    | cons round' rounds' =>
      obtain ⟨hround, hrounds⟩ := List.forall_mem_cons.1 hsettled
      obtain ⟨hround', hrounds'⟩ := List.forall_mem_cons.1 hsettled'
      rw [List.flatMap_cons, List.flatMap_cons] at hprompts hreplies
      rw [List.append_assoc, List.append_assoc] at hreplies
      have hprompt : round.prompt = round'.prompt := (List.cons_eq_cons.1 hprompts).1
      obtain ⟨rfl, hrest⟩ := Round.eq_of_replies_append hround hround' hprompt hreplies
      rw [ih (List.append_cancel_left hprompts) hrest hrounds hrounds']

end Asks

namespace Resolution

variable {c c' : Conversation}

/-! ## Questions in the course of resolving -/

theorem asks_of_yields_ask {p : Prompt} {text : String} (h : Yields (ask .person p) c text c') :
    ∃ round : Round, round.prompt = p ∧ round.value = text ∧ Asks [round] c c' := by
  refine Conversation.asks_of_askWith rfl ?_
  change c.ask p = _
  rw [ask, if_neg (by decide)] at h
  obtain ⟨d, _, hget, h⟩ := yields_bind.1 h
  cases hget
  obtain ⟨_, d', hset, h⟩ := yields_bind.1 h
  cases hset
  split at h
  · next hanswer =>
    obtain ⟨rfl, rfl⟩ := yields_pure.1 h
    exact Prod.ext hanswer rfl
  · exact absurd h not_yields_throw

theorem yields_ask {p : Prompt} {text : String} (h : c.ask p = (some text, c')) :
    Yields (ask .person p) c text c' := by
  rw [ask, if_neg (by decide)]
  refine yields_bind.2 ⟨c, c, rfl, ?_⟩
  rw [h]
  rfl

theorem asks_of_yields_compute {expression text : String} {values : Values}
    (h : Yields (compute expression values) c text c') : Asks [] c c' := by
  rw [Yields, run_compute] at h
  obtain ⟨-, rfl⟩ := Prod.mk.inj h
  exact .report _ _

end Resolution

end Scaffold
