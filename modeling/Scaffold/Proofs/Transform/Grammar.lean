import Mathlib
import Scaffold.Transform.Parser

/-!
# The grammar of transform expressions

The reader accepts exactly the texts of a grammar, and each of them spells one expression only.

The grammar says how whole texts are made up, without a word about reading: a token is any run of
bare characters, a quoted text is its characters with some of them after a backslash, a call is a
modifier's name with its arguments in parentheses. In such a text a token is followed by the end, a
comma or a parenthesis, none of which is a bare character, so that every token is as long as it
could be.

The reader works from the left and hands on what it has not read. In both directions the statements
are therefore about a text and what follows it. What it has read of a text, the grammar derives.
Conversely, what the grammar derives is read in full, if an end, a comma or a closing parenthesis
follows it.
-/

namespace Scaffold.Expr

variable {text token used rest : List Char}

/-! ## The grammar -/

/-- One or more decimal digits. -/
def IsDigits (text : List Char) : Prop := text ≠ [] ∧ ∀ c ∈ text, Text.isDigit c = true

/-- A decimal number, as it is written. -/
inductive Numeral : List Char → Prop where
  /-- A whole number. -/
  | whole {sign digits : List Char} (hsign : sign = [] ∨ sign = ['-']) (hdigits : IsDigits digits) :
    Numeral (sign ++ digits)
  /-- A number with a point and digits after it. -/
  | fraction {sign digits decimals : List Char} (hsign : sign = [] ∨ sign = ['-'])
    (hdigits : IsDigits digits) (hdecimals : IsDigits decimals) :
    Numeral (sign ++ (digits ++ '.' :: decimals))

/-- The inside of a quoted text, as it is written and as it is meant. -/
inductive Inside (quote : Char) : List Char → List Char → Prop where
  /-- There is nothing inside. -/
  | nil : Inside quote [] []
  /-- A backslash makes the next character literal, whatever it is. -/
  | escaped (c : Char) {written meant : List Char} (h : Inside quote written meant) :
    Inside quote ('\\' :: c :: written) (c :: meant)
  /-- Any other character but the closing quote stands for itself. -/
  | plain {c : Char} {written meant : List Char} (hslash : c ≠ '\\') (hquote : c ≠ quote)
    (h : Inside quote written meant) : Inside quote (c :: written) (c :: meant)

/-- A bare token. -/
def IsToken (text : List Char) : Prop := text ≠ [] ∧ ∀ c ∈ text, isBare c = true

mutual

/-- A text spells an expression. -/
inductive Spells : List Char → Expr → Prop where
  /-- A token that is a decimal number stands for itself. -/
  | number {token : List Char} (htoken : IsToken token) (hnumeral : Numeral token) :
    Spells token (literal (String.ofList token))
  /-- Any other token names a variable. -/
  | ref {token : List Char} (htoken : IsToken token) (hnumeral : ¬ Numeral token) :
    Spells token (ref (String.ofList token))
  /-- A text in quotes, single or double. -/
  | quoted {quote : Char} {written meant : List Char} (hquote : quote = '\'' ∨ quote = '"')
    (h : Inside quote written meant) :
    Spells (quote :: (written ++ [quote])) (literal (String.ofList meant))
  /-- A call without arguments. -/
  | bareCall (modifier : Modifier) : Spells (modifier.name.toList ++ ['(', ')']) (call modifier [])
  /-- A call with arguments, which are not a single empty one. -/
  | call (modifier : Modifier) {inside : List Char} {args : List Expr} (hne : inside ≠ [])
    (h : SpellsAll inside args) :
    Spells (modifier.name.toList ++ '(' :: (inside ++ [')'])) (call modifier args)

/-- A text spells expressions with commas between them, one at least. An empty one is the empty
text. -/
inductive SpellsAll : List Char → List Expr → Prop where
  /-- One expression that is left empty. -/
  | empty : SpellsAll [] [literal ""]
  /-- One expression. -/
  | single {first : List Char} {e : Expr} (h : Spells first e) : SpellsAll first [e]
  /-- An expression that is left empty, and others. -/
  | emptyCons {others : List Char} {es : List Expr} (h : SpellsAll others es) :
    SpellsAll (',' :: others) (literal "" :: es)
  /-- An expression and others. -/
  | cons {first others : List Char} {e : Expr} {es : List Expr} (h : Spells first e)
    (hothers : SpellsAll others es) : SpellsAll (first ++ ',' :: others) (e :: es)

end

/-! ## Numbers -/

/-- A run of characters of a kind ends where the first one of another kind stands. -/
theorem span_append {p : Char → Bool} (hall : ∀ c ∈ token, p c = true)
    (hstop : ∀ c ∈ rest.head?, p c = false) :
    (token ++ rest).takeWhile p = token ∧ (token ++ rest).dropWhile p = rest := by
  have hnone : rest.takeWhile p = [] ∧ rest.dropWhile p = rest := by
    cases rest with
    | nil => exact ⟨rfl, rfl⟩
    | cons c rest =>
      have hc : ¬ p c = true := by rw [hstop c rfl]; exact Bool.false_ne_true
      exact ⟨List.takeWhile_cons_of_neg hc, List.dropWhile_cons_of_neg hc⟩
  rw [List.takeWhile_append_of_pos hall, List.dropWhile_append_of_pos hall, hnone.1, hnone.2,
    List.append_nil]
  exact ⟨rfl, rfl⟩

theorem isDigits_iff : IsDigits text ↔ (!text.isEmpty && text.all Text.isDigit) = true := by
  cases text <;> simp [IsDigits]

theorem isDigits_takeWhile (h : (text.takeWhile Text.isDigit).isEmpty = false) :
    IsDigits (text.takeWhile Text.isDigit) := by
  refine ⟨fun hnil ↦ ?_, fun c hc ↦ List.mem_takeWhile_imp hc⟩
  rw [hnil] at h
  cases h

/-- The digits of a number before the point, with what follows them. -/
def IsMagnitude (text : List Char) : Prop :=
  ∃ digits tail, text = digits ++ tail ∧ IsDigits digits ∧
    (tail = [] ∨ ∃ decimals, tail = '.' :: decimals ∧ IsDigits decimals)

theorem numeral_iff_exists_sign :
    Numeral text ↔ ∃ sign body, text = sign ++ body ∧ (sign = [] ∨ sign = ['-']) ∧
      IsMagnitude body := by
  constructor
  · rintro (⟨hsign, hdigits⟩ | ⟨hsign, hdigits, hdecimals⟩)
    · exact ⟨_, _, rfl, hsign, _, [], (List.append_nil _).symm, hdigits, .inl rfl⟩
    · exact ⟨_, _, rfl, hsign, _, _, rfl, hdigits, .inr ⟨_, rfl, hdecimals⟩⟩
  · rintro ⟨sign, body, rfl, hsign, digits, tail, rfl, hdigits, rfl | ⟨decimals, rfl, hdecimals⟩⟩
    · rw [List.append_nil]
      exact .whole hsign hdigits
    · exact .fraction hsign hdigits hdecimals

/-- What the reader tests after the sign of a number. -/
def hasMagnitude (text : List Char) : Bool :=
  !(text.takeWhile Text.isDigit).isEmpty && match text.dropWhile Text.isDigit with
    | [] => true
    | '.' :: decimals => !decimals.isEmpty && decimals.all Text.isDigit
    | _ => false

theorem hasMagnitude_iff : hasMagnitude text = true ↔ IsMagnitude text := by
  have hsplit := List.takeWhile_append_dropWhile (p := Text.isDigit) (l := text)
  constructor
  · intro h
    rw [hasMagnitude, Bool.and_eq_true, Bool.not_eq_true'] at h
    obtain ⟨hdigits, htail⟩ := h
    refine ⟨_, _, hsplit.symm, isDigits_takeWhile hdigits, ?_⟩
    split at htail
    · next hnil => exact .inl hnil
    · next decimals hpoint => exact .inr ⟨decimals, hpoint, isDigits_iff.2 htail⟩
    · cases htail
  · rintro ⟨digits, tail, rfl, hdigits, htail⟩
    -- the digits end at the point, which is no digit
    have hstop : ∀ c ∈ tail.head?, Text.isDigit c = false := by
      rcases htail with rfl | ⟨decimals, rfl, -⟩
      · intro c hc
        cases hc
      · intro c hc
        cases hc
        rfl
    obtain ⟨htake, hdrop⟩ := span_append hdigits.2 hstop
    rw [hasMagnitude, htake, hdrop, List.isEmpty_eq_false_iff.2 hdigits.1]
    rcases htail with rfl | ⟨decimals, rfl, hdecimals⟩
    · rfl
    · exact isDigits_iff.1 hdecimals

theorem isNumeric_minus (body : List Char) : isNumeric ('-' :: body) = hasMagnitude body := rfl

theorem isNumeric_of_head?_ne (h : text.head? ≠ some '-') : isNumeric text = hasMagnitude text := by
  unfold isNumeric
  split
  · exact absurd rfl h
  · rfl

theorem IsMagnitude.head?_ne_minus (h : IsMagnitude text) : text.head? ≠ some '-' := by
  obtain ⟨digits, tail, rfl, ⟨hne, hdigits⟩, -⟩ := h
  cases digits with
  | nil => exact absurd rfl hne
  | cons c digits =>
    intro hminus
    cases hminus
    exact absurd (hdigits '-' List.mem_cons_self) (by decide)

theorem isNumeric_iff : isNumeric text = true ↔ Numeral text := by
  rw [numeral_iff_exists_sign]
  constructor
  · intro h
    by_cases hminus : text.head? = some '-'
    · obtain ⟨body, rfl⟩ := List.head?_eq_some_iff.1 hminus
      rw [isNumeric_minus, hasMagnitude_iff] at h
      exact ⟨['-'], body, rfl, .inr rfl, h⟩
    · rw [isNumeric_of_head?_ne hminus, hasMagnitude_iff] at h
      exact ⟨[], text, rfl, .inl rfl, h⟩
  · rintro ⟨sign, body, rfl, rfl | rfl, h⟩
    · rw [List.nil_append, isNumeric_of_head?_ne h.head?_ne_minus, hasMagnitude_iff]
      exact h
    · rw [List.singleton_append, isNumeric_minus, hasMagnitude_iff]
      exact h

/-- A token spells the expression that it stands for. -/
theorem spells_ofToken (h : IsToken token) : Spells token (ofToken token) := by
  unfold ofToken
  split
  · next hnumeric => exact .number h (isNumeric_iff.1 hnumeric)
  · next hnumeric => exact .ref h fun hnumeral ↦ hnumeric (isNumeric_iff.2 hnumeral)

namespace Parser

/-! ## Quoted texts -/

theorem quoted_cons {quote c : Char} (hc : c ≠ '\\') :
    quoted quote (c :: text) = if c = quote then some ([], text)
      else (quoted quote text).map fun (inside, after) ↦ (c :: inside, after) :=
  quoted.eq_3 quote c text fun _ _ h ↦ absurd h hc

/-- The reader finds the end of a quoted text at the first closing quote that no backslash makes
literal. -/
theorem quoted_eq_some_iff {quote : Char} {meant : List Char} (hslash : quote ≠ '\\') :
    quoted quote text = some (meant, rest) ↔
      ∃ written, text = written ++ quote :: rest ∧ Inside quote written meant := by
  constructor
  · intro h
    fun_induction quoted quote text generalizing meant with
    | case1 => cases h
    | case2 c text ih =>
      obtain ⟨⟨inside, after⟩, hafter, heq⟩ := Option.map_eq_some_iff.1 h
      cases heq
      obtain ⟨written, rfl, hinside⟩ := ih hafter
      exact ⟨'\\' :: c :: written, rfl, .escaped c hinside⟩
    | case3 text _ =>
      cases h
      exact ⟨[], rfl, .nil⟩
    | case4 c text hpair hquote ih =>
      obtain ⟨⟨inside, after⟩, hafter, heq⟩ := Option.map_eq_some_iff.1 h
      cases heq
      obtain ⟨written, rfl, hinside⟩ := ih hafter
      -- a backslash here would be the last character, but the closing quote is still to come
      have hc : c ≠ '\\' := by
        intro hc
        cases written with
        | nil => exact hpair _ _ hc rfl
        | cons d written => exact hpair _ _ hc rfl
      exact ⟨c :: written, rfl, .plain hc hquote hinside⟩
  · rintro ⟨written, rfl, hinside⟩
    induction hinside with
    | nil =>
      rw [List.nil_append, quoted_cons hslash, if_pos rfl]
    | escaped c _ ih =>
      rw [List.cons_append, List.cons_append, quoted, ih]
      rfl
    | plain hc hquote _ ih =>
      rw [List.cons_append, quoted_cons hc, if_neg hquote, ih]
      rfl

theorem isQuote_iff {c : Char} : isQuote c = true ↔ c = '\'' ∨ c = '"' := by
  simp [isQuote]

/-! ## Openings -/

/-- What may follow an expression: the end, a comma or a closing parenthesis. -/
def Follows (rest : List Char) : Prop := ∀ c ∈ rest.head?, c = ',' ∨ c = ')'

theorem isToken_takeWhile (h : (text.takeWhile isBare).isEmpty = false) :
    IsToken (text.takeWhile isBare) := by
  refine ⟨fun hnil ↦ ?_, fun c hc ↦ List.mem_takeWhile_imp hc⟩
  rw [hnil] at h
  cases h

/-- What the opening of an expression says about the text that it is the opening of. -/
def Opening.IsSound : Opening text → Prop
  | .whole step => ∃ used, text = used ++ step.rest ∧ Spells used step.value
  | .call head =>
    text = head.value.name.toList ++ '(' :: head.rest ∧ head.rest.head? ≠ some ')'

/-- The token at the front of a text, if it names a modifier and a parenthesis follows it. -/
theorem eq_name_append_of_ofName? {modifier : Modifier}
    (hname : Modifier.ofName? (String.ofList (text.takeWhile isBare)) = some modifier)
    (hopen : (text.dropWhile isBare).head? = some '(') :
    text = modifier.name.toList ++ '(' :: (text.dropWhile isBare).tail := by
  have htoken : modifier.name.toList = text.takeWhile isBare := by
    rw [Modifier.name_of_ofName? hname, String.toList_ofList]
  have hrest : '(' :: (text.dropWhile isBare).tail = text.dropWhile isBare :=
    List.cons_head?_tail hopen
  rw [htoken, hrest, List.takeWhile_append_dropWhile]

theorem isSound_of_opening {found : Opening text} (h : opening text = .ok found) :
    found.IsSound := by
  unfold opening at h
  simp only at h
  split at h
  · cases h
  · cases h
  · next htoken =>
    split at h
    · cases h
    · split at h
      · next hopen =>
        split at h
        · cases h
        · next hname =>
          have htext := eq_name_append_of_ofName? hname hopen
          split at h
          · next hclose =>
            cases h
            have hrest := List.cons_head?_tail hclose
            refine ⟨_, ?_, .bareCall _⟩
            rw [List.append_assoc, List.cons_append, List.singleton_append, hrest]
            exact htext
          · next hclose =>
            cases h
            exact ⟨htext, hclose⟩
      · cases h
        exact ⟨_, List.takeWhile_append_dropWhile.symm, spells_ofToken (isToken_takeWhile htoken)⟩

theorem isSound_of_start {found : Opening text} (h : start text = .ok found) : found.IsSound := by
  unfold start at h
  split at h
  · cases h
  · next quote tail =>
    split at h
    · next hquote =>
      unfold quotedLiteral at h
      split at h
      · cases h
      · next inside rest hquoted =>
        cases h
        have hslash : quote ≠ '\\' := by
          rintro rfl
          cases hquote
        obtain ⟨written, rfl, hinside⟩ := (quoted_eq_some_iff hslash).1 hquoted
        refine ⟨quote :: (written ++ [quote]), ?_, .quoted (isQuote_iff.1 hquote) hinside⟩
        rw [List.cons_append, List.append_assoc, List.singleton_append]
    · exact isSound_of_opening h

/-! ## What the reader accepts, the grammar derives -/

/-- The expression that is read from the front of a text is spelled there. -/
def ReadsSoundly (text : List Char) : Prop :=
  ∀ step, expression text = .ok step → ∃ used, text = used ++ step.rest ∧ Spells used step.value

/-- The arguments that are read from the front of a text are spelled there, up to a closing
parenthesis. -/
def ReadsAllSoundly (text : List Char) : Prop :=
  ∀ modifier step, arguments modifier text = .ok step →
    ∃ used, text = used ++ ')' :: step.rest ∧ SpellsAll used step.value

theorem readsSoundly_of_shorter
    (hshorter : ∀ rest : List Char, rest.length < text.length → ReadsAllSoundly rest) :
    ReadsSoundly text := by
  intro step h
  rw [expression] at h
  split at h
  · cases h
  · next whole hstart =>
    cases h
    exact isSound_of_start hstart
  · next head hstart =>
    split at h
    · cases h
    · next args hargs =>
      cases h
      obtain ⟨htext, hclose⟩ := isSound_of_start hstart
      obtain ⟨inside, hinside, hspells⟩ := hshorter head.rest head.shorter _ _ hargs
      have hne : inside ≠ [] := by
        rintro rfl
        exact hclose (hinside ▸ rfl)
      refine ⟨head.value.name.toList ++ '(' :: (inside ++ [')']), ?_, .call _ hne hspells⟩
      rw [List.append_assoc, List.cons_append, List.append_assoc, List.singleton_append, ← hinside]
      exact htext

theorem readsAllSoundly_of_shorter (hfirst : ReadsSoundly text)
    (hshorter : ∀ rest : List Char, rest.length < text.length → ReadsAllSoundly rest) :
    ReadsAllSoundly text := by
  intro modifier step h
  unfold arguments at h
  split at h
  · cases h
    exact ⟨[], rfl, .empty⟩
  · next rest =>
    split at h
    · cases h
    · next hargs =>
      cases h
      obtain ⟨used, hused, hspells⟩ := hshorter rest (by simp) _ _ hargs
      exact ⟨',' :: used, congrArg (',' :: ·) hused, .emptyCons hspells⟩
  · split at h
    · cases h
    · next hread =>
      cases h
      obtain ⟨used, hused, hspells⟩ := hfirst _ hread
      exact ⟨used, hused, .single hspells⟩
    · next first rest hlt hread =>
      split at h
      · cases h
      · next hargs =>
        cases h
        obtain ⟨used, hused, hspells⟩ := hfirst _ hread
        obtain ⟨others, hothers, hspellsAll⟩ := hshorter rest (Nat.lt_of_succ_lt hlt) _ _ hargs
        refine ⟨used ++ ',' :: others, ?_, .cons hspells hspellsAll⟩
        rw [List.append_assoc, List.cons_append, ← hothers]
        exact hused
    · cases h
    · cases h

theorem readsAllSoundly (text : List Char) : ReadsAllSoundly text := by
  induction hlength : text.length using Nat.strong_induction_on generalizing text with
  | h n ih =>
    subst hlength
    have hshorter : ∀ rest : List Char, rest.length < text.length → ReadsAllSoundly rest :=
      fun rest hlt ↦ ih rest.length hlt rest rfl
    exact readsAllSoundly_of_shorter (readsSoundly_of_shorter hshorter) hshorter

theorem readsSoundly (text : List Char) : ReadsSoundly text :=
  readsSoundly_of_shorter fun rest _ ↦ readsAllSoundly rest

/-! ## What the grammar derives, the reader accepts -/

theorem forall_mem_name_isBare (modifier : Modifier) :
    ∀ c ∈ modifier.name.toList, isBare c = true := by
  cases modifier <;> simp [Modifier.name] <;> decide

theorem isToken_name (modifier : Modifier) : IsToken modifier.name.toList := by
  refine ⟨?_, forall_mem_name_isBare modifier⟩
  cases modifier <;> simp [Modifier.name]

/-- A token ends where a character stands that is neither bare nor blank. -/
def Ends (rest : List Char) : Prop := ∀ c ∈ rest.head?, isBare c = false ∧ Text.isBlank c = false

theorem Follows.ends (h : Follows rest) : Ends rest := by
  intro c hc
  rcases h c hc with rfl | rfl
  · exact ⟨rfl, rfl⟩
  · exact ⟨rfl, rfl⟩

theorem length_lt_of_isToken (h : IsToken token) (rest : List Char) :
    rest.length < (token ++ rest).length := by
  have hpos := List.length_pos_iff.2 h.1
  rw [List.length_append]
  omega

theorem length_tail_lt (h : rest.length < text.length) : rest.tail.length < text.length := by
  rw [List.length_tail]
  omega

/-- The opening of a text that starts with a token, by what follows the token. -/
theorem opening_append (htoken : IsToken token) (hends : Ends rest) :
    opening (token ++ rest) =
      if rest.head? = some '(' then
        (Modifier.ofName? (String.ofList token)).elim
          (.error ⟨.unknownModifier (String.ofList token), token ++ rest⟩) fun modifier ↦
            if rest.tail.head? = some ')' then
              .ok (.whole ⟨Expr.call modifier [], rest.tail.tail,
                length_tail_lt (length_tail_lt (length_lt_of_isToken htoken rest))⟩)
            else
              .ok (.call ⟨modifier, rest.tail, length_tail_lt (length_lt_of_isToken htoken rest)⟩)
      else .ok (.whole ⟨ofToken token, rest, length_lt_of_isToken htoken rest⟩) := by
  obtain ⟨htake, hdrop⟩ := span_append htoken.2 fun c hc ↦ (hends c hc).1
  have hne := List.isEmpty_eq_false_iff.2 htoken.1
  have hblank : ¬ rest.head?.any Text.isBlank = true := by
    cases rest with
    | nil => exact Bool.false_ne_true
    | cons c rest =>
      rw [List.head?_cons, Option.any_some, (hends c rfl).2]
      exact Bool.false_ne_true
  unfold opening
  simp only
  split
  · next h =>
    rw [htake, hne] at h
    cases h
  · next h =>
    rw [htake, hne] at h
    cases h
  · simp only [hdrop, htake]
    rw [if_neg hblank]
    cases Modifier.ofName? (String.ofList token) with
    | none => rfl
    | some modifier => rfl

theorem opening_of_isToken (htoken : IsToken token) (hrest : Follows rest) :
    opening (token ++ rest) =
      .ok (.whole ⟨ofToken token, rest, length_lt_of_isToken htoken rest⟩) := by
  have hopen : rest.head? ≠ some '(' := by
    intro hopen
    rcases hrest '(' hopen with h | h
    · cases h
    · cases h
  rw [opening_append htoken hrest.ends, if_neg hopen]

theorem opening_of_bareCall (modifier : Modifier) (rest : List Char) :
    ∃ hlt, opening (modifier.name.toList ++ '(' :: ')' :: rest) =
      .ok (.whole ⟨Expr.call modifier [], rest, hlt⟩) := by
  have hends : Ends ('(' :: ')' :: rest) := by
    intro c hc
    cases hc
    exact ⟨rfl, rfl⟩
  refine ⟨?_, ?_⟩
  · rw [List.length_append, List.length_cons, List.length_cons]
    omega
  · rw [opening_append (isToken_name modifier) hends, if_pos List.head?_cons, String.ofList_toList,
      Modifier.ofName?_name]
    rfl

theorem opening_of_call (modifier : Modifier) (hclose : rest.head? ≠ some ')') :
    ∃ hlt, opening (modifier.name.toList ++ '(' :: rest) = .ok (.call ⟨modifier, rest, hlt⟩) := by
  have hends : Ends ('(' :: rest) := by
    intro c hc
    cases hc
    exact ⟨rfl, rfl⟩
  refine ⟨?_, ?_⟩
  · rw [List.length_append, List.length_cons]
    omega
  · rw [opening_append (isToken_name modifier) hends, if_pos List.head?_cons, String.ofList_toList,
      Modifier.ofName?_name]
    exact if_neg hclose

theorem start_of_isBare {c : Char} (h : isBare c = true) :
    start (c :: text) = opening (c :: text) := by
  have hquote : ¬ isQuote c = true := by
    intro hquote
    rw [isBare, hquote] at h
    simp at h
  rw [start, if_neg hquote]

theorem start_of_isToken (h : IsToken token) : start (token ++ rest) = opening (token ++ rest) := by
  cases token with
  | nil => exact absurd rfl h.1
  | cons c token => exact start_of_isBare (h.2 c List.mem_cons_self)

theorem start_of_inside {quote : Char} {written meant : List Char}
    (hquote : quote = '\'' ∨ quote = '"') (h : Inside quote written meant) (rest : List Char) :
    ∃ hlt, start (quote :: (written ++ quote :: rest)) =
      .ok (.whole ⟨literal (String.ofList meant), rest, hlt⟩) := by
  have hslash : quote ≠ '\\' := by
    rintro rfl
    rcases hquote with h | h
    · cases h
    · cases h
  have hquoted : quoted quote (written ++ quote :: rest) = some (meant, rest) :=
    (quoted_eq_some_iff hslash).2 ⟨written, rfl, h⟩
  refine ⟨?_, ?_⟩
  · rw [List.length_cons, List.length_append, List.length_cons]
    omega
  · rw [start, if_pos (isQuote_iff.2 hquote)]
    unfold quotedLiteral
    split
    · next hnone =>
      rw [hquoted] at hnone
      cases hnone
    · next hsome =>
      rw [hquoted] at hsome
      cases hsome
      rfl

theorem expression_of_whole {step : Step Expr text} (h : start text = .ok (.whole step)) :
    expression text = .ok step := by
  rw [expression, h]

theorem expression_of_call {head : Step Modifier text} {args : Step (List Expr) head.rest}
    (h : start text = .ok (.call head)) (hargs : arguments head.value head.rest = .ok args) :
    ∃ hlt, expression text = .ok ⟨call head.value args.value, args.rest, hlt⟩ := by
  refine ⟨Nat.lt_trans args.shorter head.shorter, ?_⟩
  rw [expression, h]
  simp only [hargs]

/-- A text that can be the start of an argument that is not left empty. -/
def StartsArgument (text : List Char) : Prop := ∀ c ∈ text.head?, c ≠ ')' ∧ c ≠ ','

theorem startsArgument_of_isToken (h : IsToken token) (rest : List Char) :
    StartsArgument (token ++ rest) := by
  cases token with
  | nil => exact absurd rfl h.1
  | cons d token =>
    have hbare : isBare d = true := h.2 d List.mem_cons_self
    intro c hc
    cases hc
    constructor
    · rintro rfl
      cases hbare
    · rintro rfl
      cases hbare

theorem startsArgument_of_spells {used : List Char} {e : Expr} (h : Spells used e)
    (rest : List Char) : StartsArgument (used ++ rest) := by
  cases h with
  | number htoken hnumeral => exact startsArgument_of_isToken htoken rest
  | ref htoken hnumeral => exact startsArgument_of_isToken htoken rest
  | quoted hquote h =>
    intro c hc
    cases hc
    rcases hquote with rfl | rfl
    · decide
    · decide
  | bareCall modifier =>
    rw [List.append_assoc]
    exact startsArgument_of_isToken (isToken_name modifier) _
  | call modifier hne h =>
    rw [List.append_assoc]
    exact startsArgument_of_isToken (isToken_name modifier) _

/-- Arguments in parentheses, unless they are a single empty one, do not begin with the closing
parenthesis. -/
theorem head?_ne_of_spellsAll {inside : List Char} {args : List Expr} (h : SpellsAll inside args)
    (hne : inside ≠ []) (rest : List Char) : (inside ++ rest).head? ≠ some ')' := by
  cases h with
  | empty => exact absurd rfl hne
  | single h => exact fun hclose ↦ (startsArgument_of_spells h rest _ hclose).1 rfl
  | emptyCons h =>
    rw [List.cons_append, List.head?_cons]
    decide
  | cons h hothers =>
    rw [List.append_assoc]
    exact fun hclose ↦ (startsArgument_of_spells h _ _ hclose).1 rfl

theorem arguments_comma {modifier : Modifier} {args : Step (List Expr) rest}
    (h : arguments modifier rest = .ok args) :
    ∃ hlt, arguments modifier (',' :: rest) = .ok ⟨literal "" :: args.value, args.rest, hlt⟩ := by
  refine ⟨Nat.lt_succ_of_lt args.shorter, ?_⟩
  rw [arguments, h]

theorem arguments_single {modifier : Modifier} {e : Expr} {hlt : (')' :: rest).length < text.length}
    (hstart : StartsArgument text) (h : expression text = .ok ⟨e, ')' :: rest, hlt⟩) :
    ∃ hlt, arguments modifier text = .ok ⟨[e], rest, hlt⟩ := by
  refine ⟨Nat.lt_of_succ_lt hlt, ?_⟩
  unfold arguments
  split
  · exact absurd rfl (hstart ')' rfl).1
  · exact absurd rfl (hstart ',' rfl).2
  · simp only [h]

theorem arguments_cons {modifier : Modifier} {e : Expr} {hlt : (',' :: rest).length < text.length}
    {args : Step (List Expr) rest} (hstart : StartsArgument text)
    (h : expression text = .ok ⟨e, ',' :: rest, hlt⟩) (hargs : arguments modifier rest = .ok args) :
    ∃ hlt, arguments modifier text = .ok ⟨e :: args.value, args.rest, hlt⟩ := by
  refine ⟨Nat.lt_trans args.shorter (Nat.lt_of_succ_lt hlt), ?_⟩
  unfold arguments
  split
  · exact absurd rfl (hstart ')' rfl).1
  · exact absurd rfl (hstart ',' rfl).2
  · simp only [h, hargs]

theorem follows_close (rest : List Char) : Follows (')' :: rest) := by
  intro c hc
  cases hc
  exact .inr rfl

theorem follows_comma (rest : List Char) : Follows (',' :: rest) := by
  intro c hc
  cases hc
  exact .inl rfl

mutual

theorem expression_of_spells {used : List Char} {e : Expr} (h : Spells used e) :
    ∀ rest, Follows rest → ∃ hlt, expression (used ++ rest) = .ok ⟨e, rest, hlt⟩ := by
  intro rest hrest
  match h with
  | .number htoken hnumeral =>
    have hopening := opening_of_isToken htoken hrest
    rw [ofToken, if_pos (isNumeric_iff.2 hnumeral), ← start_of_isToken htoken] at hopening
    exact ⟨_, expression_of_whole hopening⟩
  | .ref htoken hnumeral =>
    have hopening := opening_of_isToken htoken hrest
    rw [ofToken, if_neg fun h ↦ hnumeral (isNumeric_iff.1 h), ← start_of_isToken htoken] at hopening
    exact ⟨_, expression_of_whole hopening⟩
  | .quoted hquote h =>
    obtain ⟨hlt, hstart⟩ := start_of_inside hquote h rest
    rw [List.cons_append, List.append_assoc, List.singleton_append]
    exact ⟨hlt, expression_of_whole hstart⟩
  | .bareCall modifier =>
    obtain ⟨hlt, hopening⟩ := opening_of_bareCall modifier rest
    rw [← start_of_isToken (isToken_name modifier)] at hopening
    rw [List.append_assoc]
    exact ⟨hlt, expression_of_whole hopening⟩
  | .call modifier hne h =>
    obtain ⟨hlt, hargs⟩ := arguments_of_spellsAll h modifier rest
    obtain ⟨hlt', hopening⟩ := opening_of_call modifier (head?_ne_of_spellsAll h hne (')' :: rest))
    rw [← start_of_isToken (isToken_name modifier)] at hopening
    rw [List.append_assoc, List.cons_append, List.append_assoc, List.singleton_append]
    exact expression_of_call hopening hargs

theorem arguments_of_spellsAll {used : List Char} {es : List Expr} (h : SpellsAll used es) :
    ∀ modifier rest, ∃ hlt, arguments modifier (used ++ ')' :: rest) = .ok ⟨es, rest, hlt⟩ := by
  intro modifier rest
  match h with
  | .empty => exact ⟨_, arguments.eq_1 modifier rest⟩
  | .single h =>
    obtain ⟨hlt, hfirst⟩ := expression_of_spells h (')' :: rest) (follows_close rest)
    exact arguments_single (startsArgument_of_spells h _) hfirst
  | .emptyCons h =>
    obtain ⟨hlt, hargs⟩ := arguments_of_spellsAll h modifier rest
    exact arguments_comma hargs
  | .cons h hothers =>
    obtain ⟨hlt, hargs⟩ := arguments_of_spellsAll hothers modifier rest
    obtain ⟨hlt', hfirst⟩ := expression_of_spells h _ (follows_comma _)
    rw [List.append_assoc]
    exact arguments_cons (startsArgument_of_spells h _) hfirst hargs

end

end Parser

/-! ## Whole texts -/

theorem spells_of_parse {text : String} {e : Expr} (h : parse text = .ok e) :
    Spells text.toList e := by
  unfold parse at h
  simp only at h
  split at h
  · cases h
  · split at h
    · cases h
    · next step hread =>
      split at h
      · next hrest =>
        cases h
        obtain ⟨used, hused, hspells⟩ := Parser.readsSoundly _ _ hread
        rw [hrest, List.append_nil] at hused
        exact hused ▸ hspells
      · cases h

theorem parse_of_spells {text : String} {e : Expr} (h : Spells text.toList e) :
    parse text = .ok e := by
  have hfollows : Parser.Follows [] := by
    intro c hc
    cases hc
  have hread := Parser.expression_of_spells h [] hfollows
  rw [List.append_nil] at hread
  obtain ⟨hlt, hread⟩ := hread
  have hne : ¬ text.toList.isEmpty = true := by
    intro hempty
    rw [List.isEmpty_iff.1 hempty] at hlt
    cases hlt
  unfold parse
  simp only
  rw [if_neg hne, hread]

/-- The texts that can be read are those of the grammar, and what is read is the one expression that
the text spells. All others have an error. -/
theorem parse_iff_spells (text : String) :
    (∀ e, parse text = .ok e ↔ Spells text.toList e) ∧
      (∀ e e', Spells text.toList e → Spells text.toList e' → e = e') ∧
      ((∃ error, parse text = .error error) ↔ ∀ e, ¬ Spells text.toList e) := by
  refine ⟨fun e ↦ ⟨spells_of_parse, parse_of_spells⟩, ?_, ?_, ?_⟩
  · intro e e' h h'
    exact Except.ok.inj ((parse_of_spells h).symm.trans (parse_of_spells h'))
  · rintro ⟨error, herror⟩ e h
    rw [parse_of_spells h] at herror
    cases herror
  · intro hnone
    cases hparse : parse text with
    | error error => exact ⟨error, rfl⟩
    | ok e => exact absurd (spells_of_parse hparse) (hnone e)

end Scaffold.Expr
