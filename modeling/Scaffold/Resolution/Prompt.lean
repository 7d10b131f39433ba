import Scaffold.Event

/-!
# Asking for values

A person is asked for the value of a variable, and may be offered one to take by an empty answer. An
empty answer to which nothing is offered is asked again. The person's replies are given in advance;
when they are used up, or one of them is an interruption, the prompt is abandoned.
-/

namespace Scaffold

/-- A question for the value of a variable. -/
structure Prompt where
  /-- The variable. -/
  name : String
  /-- The value that is offered. -/
  suggestion : Option String
deriving DecidableEq, Repr

namespace Prompt

/-- The value that an empty answer takes. -/
def offer? (p : Prompt) : Option String := p.suggestion.filter (!·.isEmpty)

/-- The question in words. -/
def text (p : Prompt) : String :=
  let offer := match p.offer? with
    | some value => s!" (current value: \"{value}\". Press enter to carry on with it)"
    | none => ""
  s!"Please provide a value for variable \"{p.name}\"{offer}: "

end Prompt

/-- What a person does when asked. -/
inductive Reply where
  /-- The person answers. -/
  | answer (text : String)
  /-- The person interrupts. -/
  | interrupt
deriving DecidableEq, Repr

/-- Who answers questions. -/
inductive Prompter where
  /-- Nobody; no questions are asked. -/
  | nobody
  /-- A person. -/
  | person
  /-- Someone who cannot be asked. -/
  | unanswering
deriving DecidableEq, Repr

/-- What has been asked and reported so far, and the replies still to come. -/
structure Conversation where
  /-- The replies to come. -/
  replies : List Reply
  /-- The questions asked. -/
  prompts : List Prompt
  /-- The events reported. -/
  events : List Event

namespace Conversation

/-- A conversation at its start. -/
def start (replies : List Reply) : Conversation := ⟨replies, [], []⟩

/-- The conversation after an event. -/
def report (c : Conversation) (events : List Event) : Conversation :=
  { c with events := c.events ++ events }

/-- The conversation after a question, with the replies still to come then. -/
def asked (c : Conversation) (p : Prompt) (replies : List Reply) : Conversation :=
  { c with replies := replies, prompts := c.prompts ++ [p] }

/-- The answer to a question, which is asked until there is one; none if it is abandoned. -/
def askWith (p : Prompt) : List Reply → Conversation → Option String × Conversation
  | [], c => (none, (c.asked p []).report [.promptAbandoned])
  | .interrupt :: rest, c => (none, (c.asked p rest).report [.promptAbandoned])
  | .answer text :: rest, c =>
    if text.isEmpty then
      match p.offer? with
      | some value => (some value, c.asked p rest)
      | none => askWith p rest ((c.asked p rest).report [.askedAgain p.name])
    else (some text, c.asked p rest)

/-- The answer to a question, which is asked until there is one; none if it is abandoned. -/
def ask (p : Prompt) (c : Conversation) : Option String × Conversation :=
  askWith p c.replies c

end Conversation

end Scaffold
