import Mathlib
import Scaffold.Pattern.Parser

/-!
# What the reader of patterns has seen

The reader keeps tokens only, but what it fails for and the settings that it notes have their cause
in the text. So a state is described by the text that is read: what is still to be read is an end of
it, and some characters before that end are those that have been read last. Computations of the
reader are described by what holds before and after them, with the understanding that one that fails
does so for a cause in the text; such descriptions are put together along the computations.

A text that is no pattern at all is no more than that. The other failures are oversights: a number
of copies in braces that is too large or too long, and settings for the whole pattern that ask for
the classes of ASCII in one place and for those of Unicode in another.
-/

namespace Scaffold.Pattern

variable {text before : List Char} {α β : Type} {r : Reader}

/-! ## Tokens of a text -/

/-- The first token is spelled by the first characters. -/
theorem Token.exists_ofChars_eq_cons {token : Token} {tokens : List Token}
    (h : ofChars text = token :: tokens) :
    ∃ rest, text = token.chars ++ rest ∧ ofChars rest = tokens := by
  unfold ofChars at h
  split at h
  · cases h
  · cases h
    exact ⟨[], rfl, rfl⟩
  · cases h
    exact ⟨_, rfl, rfl⟩
  · cases h
    exact ⟨_, rfl, rfl⟩

/-! ## Oversights -/

/-- The text holds braces with digits for the least and the greatest number of copies. -/
inductive Braces (text : List Char) : List Char → List Char → Prop where
  /-- A single number is both the least and the greatest one. -/
  | single {digits : List Char} (hdigits : ∀ c ∈ digits, Text.isAsciiDigit c = true)
    (h : '{' :: digits ++ ['}'] <:+: text) : Braces text digits digits
  /-- The two numbers stand around a comma. -/
  | range {lo hi : List Char} (hlo : ∀ c ∈ lo, Text.isAsciiDigit c = true)
    (hhi : ∀ c ∈ hi, Text.isAsciiDigit c = true)
    (h : '{' :: lo ++ ',' :: hi ++ ['}'] <:+: text) : Braces text lo hi

/-- A number of copies is written in the text. -/
def Counts (text digits : List Char) : Prop :=
  ∃ lo hi, Braces text lo hi ∧ (digits = lo ∨ digits = hi)

/-- The text holds settings for the whole pattern with the given letter among them. -/
def Asks (text : List Char) (letter : Char) : Prop :=
  ∃ letters, (∀ c ∈ letters, isSetting c = true) ∧ letter ∈ letters ∧
    '(' :: '?' :: letters ++ [')'] <:+: text

/-- Digits that stand for no number of copies, and why not. -/
inductive Excess (digits : List Char) : Fault → Prop where
  /-- The number is beyond all bounds. -/
  | tooManyCopies (hlength : digits.length ≤ Text.Numeral.digitLimit)
    (hlarge : 4294967295 ≤ codeOf 10 digits) : Excess digits .tooManyCopies
  /-- There are more digits than are read. -/
  | longNumeral (hlong : Text.Numeral.digitLimit < digits.length) :
    Excess digits (.longNumeral digits.length)

/-- What there is in a text that is refused as a pattern. -/
inductive Oversight (text : List Char) : Fault → Prop where
  /-- Nothing in particular. -/
  | malformed : Oversight text .malformed
  /-- A number of copies that is too large or too long. -/
  | copies {digits : List Char} {fault : Fault} (hcounts : Counts text digits)
    (hexcess : Excess digits fault) : Oversight text fault
  /-- Settings for the classes of ASCII and others for those of Unicode. -/
  | mixedClasses (hascii : Asks text 'a') (hunicode : Asks text 'u') :
    Oversight text .mixedClasses

/-! ## States and computations -/

/-- The reader is in the middle of the text, right after the characters `before`. -/
structure Follows (text before : List Char) (r : Reader) : Prop where
  /-- What is to be read is the rest of the text. -/
  tokens : ∃ rest, before ++ rest <:+ text ∧ r.tokens = Token.ofChars rest
  /-- The classes of ASCII are asked for in the text. -/
  ascii : r.mode.asciiOnly = true → Asks text 'a'
  /-- The classes of Unicode are asked for in the text. -/
  unicode : r.unicode = true → Asks text 'u'

theorem Follows.forget (h : Follows text before r) : Follows text [] r where
  tokens := by
    obtain ⟨rest, hsuffix, htokens⟩ := h.tokens
    exact ⟨rest, (List.suffix_append before rest).trans hsuffix, htokens⟩
  ascii := h.ascii
  unicode := h.unicode

/-- Moving past the next token. -/
theorem Follows.skip {token : Token} {rest : List Token} (h : Follows text before r)
    (hnext : r.tokens = token :: rest) :
    Follows text (before ++ token.chars) { r with tokens := rest } where
  tokens := by
    obtain ⟨left, hsuffix, htokens⟩ := h.tokens
    obtain ⟨right, rfl, hright⟩ := Token.exists_ofChars_eq_cons (htokens.symm.trans hnext)
    exact ⟨right, by rwa [List.append_assoc], hright.symm⟩
  ascii := h.ascii
  unicode := h.unicode

/-- From a state with the first property the computation comes to a result and a state with the
second one, or it fails for something that is in the text. -/
def Reads (text : List Char) (P : Reader → Prop) (x : Read α) (Q : α → Reader → Prop) : Prop :=
  ∀ r, P r → match x.run r with
    | .ok (a, r') => Q a r'
    | .error fault => Oversight text fault

/-- The computation goes on in the text. -/
def Stays (text : List Char) (x : Read α) : Prop :=
  Reads text (Follows text []) x fun _ ↦ Follows text []

variable {P P' : Reader → Prop} {Q Q' : α → Reader → Prop} {R : β → Reader → Prop} {x : Read α}
  {f : α → Read β}

theorem Reads.mono (h : Reads text P x Q) (hP : ∀ r, P' r → P r) (hQ : ∀ a r, Q a r → Q' a r) :
    Reads text P' x Q' := by
  intro r hr
  have hrun := h r (hP r hr)
  cases hx : x.run r with
  | error fault =>
    rw [hx] at hrun
    exact hrun
  | ok result =>
    rw [hx] at hrun
    exact hQ _ _ hrun

theorem Reads.bind (hx : Reads text P x Q) (hf : ∀ a, Reads text (Q a) (f a) R) :
    Reads text P (x >>= f) R := by
  intro r hr
  have hrun := hx r hr
  rw [StateT.run_bind]
  cases hx' : x.run r with
  | error fault =>
    rw [hx'] at hrun
    exact hrun
  | ok result =>
    rw [hx'] at hrun
    exact hf result.1 result.2 hrun

theorem Stays.bind (hx : Stays text x) (hf : ∀ a, Stays text (f a)) : Stays text (x >>= f) :=
  Reads.bind hx hf

theorem Reads.stays {after : α → List Char} (h : Reads text (Follows text []) x fun a ↦
    Follows text (after a)) : Stays text x :=
  h.mono (fun _ hr ↦ hr) fun _ _ hr ↦ hr.forget

end Scaffold.Pattern
