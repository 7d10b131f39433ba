import Mathlib
import Scaffold.Proofs.Transform.Grammar

/-!
# Where the reading of an expression ends

A text that is no expression has an error with a place. The text before the place can always be
completed to an expression. What stands at the place decides whether the whole text can be completed
too: it can if the text has merely ended too early, inside quotes, inside parentheses or where an
expression is due. Otherwise a character, or a name with the parenthesis after it, stands where it
can stand in no expression, whatever comes after it.

For the first half a completion is given at every level of nesting: a quoted text is closed, a list
of arguments is ended. For the second half the reader is shown to look at no more than the first
character after what it has read, so that a failure stays a failure when the text goes on otherwise
after what is blamed.
-/

namespace Scaffold

/-- The text has ended too early. -/
def SyntaxFault.isUnfinished : SyntaxFault → Bool
  | unexpectedEnd => true
  | unterminatedText => true
  | missingClose _ => true
  | _ => false

/-- The number of characters that are blamed, from the place of the error on: a single one, or a
name that no modifier has with the parenthesis after it. -/
def SyntaxFault.reach : SyntaxFault → ℕ
  | unexpectedCharacter _ => 1
  | blankOutsideQuotes => 1
  | unknownModifier name => name.length + 1
  | _ => 0

namespace Expr

variable {text token used rest : List Char}

/-! ## Texts that can be completed -/

/-- The text can be completed to an expression. -/
def Begins (text : List Char) : Prop := ∃ more e, Spells (text ++ more) e

/-- The text can be completed to arguments. -/
def BeginsAll (text : List Char) : Prop := ∃ more es, SpellsAll (text ++ more) es

theorem begins_of_spells {e : Expr} (h : Spells used e) : Begins used :=
  ⟨[], e, by rwa [List.append_nil]⟩

theorem Begins.of_append (h : Begins (text ++ rest)) : Begins text := by
  obtain ⟨more, e, hspells⟩ := h
  exact ⟨rest ++ more, e, by rwa [← List.append_assoc]⟩

theorem begins_nil : Begins [] :=
  Begins.of_append (begins_of_spells (Spells.bareCall .join))

theorem Begins.beginsAll (h : Begins text) : BeginsAll text := by
  obtain ⟨more, e, hspells⟩ := h
  exact ⟨more, [e], .single hspells⟩

theorem BeginsAll.comma (h : BeginsAll text) : BeginsAll (',' :: text) := by
  obtain ⟨more, es, hspells⟩ := h
  exact ⟨more, literal "" :: es, .emptyCons hspells⟩

theorem BeginsAll.cons {e : Expr} (h : BeginsAll text) (hfirst : Spells used e) :
    BeginsAll (used ++ ',' :: text) := by
  obtain ⟨more, es, hspells⟩ := h
  refine ⟨more, e :: es, ?_⟩
  rw [List.append_assoc, List.cons_append]
  exact .cons hfirst hspells

/-- A call is completed by its closing parenthesis, once its arguments are. -/
theorem BeginsAll.call (h : BeginsAll text) (modifier : Modifier) :
    Begins (modifier.name.toList ++ '(' :: text) := by
  obtain ⟨more, es, hspells⟩ := h
  by_cases hne : text ++ more = []
  · obtain ⟨rfl, rfl⟩ := List.append_eq_nil_iff.1 hne
    exact ⟨[')'], _, by simpa using Spells.bareCall modifier⟩
  · exact ⟨more ++ [')'], _, by simpa using Spells.call modifier hne hspells⟩

/-- The inside of a quoted text can be completed. -/
theorem exists_inside_of_quoted_eq_none {quote : Char} (h : Parser.quoted quote text = none) :
    ∃ more meant, Inside quote (text ++ more) meant := by
  fun_induction Parser.quoted quote text with
  | case1 => exact ⟨[], [], .nil⟩
  | case2 c text ih =>
    obtain ⟨more, meant, hinside⟩ := ih (Option.map_eq_none_iff.1 h)
    exact ⟨more, c :: meant, .escaped c hinside⟩
  | case3 => cases h
  | case4 c text hpair hquote ih =>
    by_cases hc : c = '\\'
    -- a backslash that nothing follows is completed to a pair of them
    · have htext : text = [] := by
        cases text with
        | nil => rfl
        | cons d text => exact absurd rfl (hpair d text hc)
      subst hc htext
      exact ⟨['\\'], ['\\'], .escaped '\\' .nil⟩
    · obtain ⟨more, meant, hinside⟩ := ih (Option.map_eq_none_iff.1 h)
      exact ⟨more, c :: meant, .plain hc hquote hinside⟩

theorem begins_of_quoted_eq_none {quote : Char} (hquote : quote = '\'' ∨ quote = '"')
    (h : Parser.quoted quote text = none) : Begins (quote :: text) := by
  obtain ⟨more, meant, hinside⟩ := exists_inside_of_quoted_eq_none h
  exact ⟨more ++ [quote], _, by simpa using Spells.quoted hquote hinside⟩

namespace Parser

/-! ## Openings by their token -/

theorem isBare_eq_false_of_isBlank {c : Char} (h : Text.isBlank c = true) : isBare c = false := by
  rw [isBare, h]
  rfl

/-- The front of a text, as far as an opening looks at it. -/
inductive Front : List Char → Prop where
  /-- There is none. -/
  | nil : Front []
  /-- A character that stands in no token. -/
  | stray {c : Char} (hbare : isBare c = false) (rest : List Char) : Front (c :: rest)
  /-- A token up to the end. -/
  | token {token : List Char} (htoken : IsToken token) : Front (token ++ [])
  /-- A token up to a blank. -/
  | blank {token : List Char} {c : Char} (htoken : IsToken token)
    (hblank : Text.isBlank c = true) (rest : List Char) : Front (token ++ c :: rest)
  /-- A token up to another character that stands in no token. -/
  | ended {token : List Char} {c : Char} (htoken : IsToken token) (hbare : isBare c = false)
    (hblank : Text.isBlank c = false) (rest : List Char) : Front (token ++ c :: rest)

theorem front (text : List Char) : Front text := by
  have hbare : ∀ c ∈ text.takeWhile isBare, isBare c = true := fun c hc ↦ List.mem_takeWhile_imp hc
  have hstop := List.head?_dropWhile_not isBare text
  rw [← List.takeWhile_append_dropWhile (p := isBare) (l := text)]
  generalize text.takeWhile isBare = token at hbare
  generalize text.dropWhile isBare = tail at hstop
  by_cases hne : token = []
  · subst hne
    cases tail with
    | nil => exact .nil
    | cons c tail => exact .stray hstop tail
  cases tail with
  | nil => exact .token ⟨hne, hbare⟩
  | cons c tail =>
    cases hblank : Text.isBlank c with
    | true => exact .blank ⟨hne, hbare⟩ hblank tail
    | false => exact .ended ⟨hne, hbare⟩ hstop hblank tail

theorem ends_nil : Ends [] := by
  intro c hc
  cases hc

theorem ends_cons {c : Char} (hbare : isBare c = false) (hblank : Text.isBlank c = false)
    (rest : List Char) : Ends (c :: rest) := by
  intro d hd
  cases hd
  exact ⟨hbare, hblank⟩

theorem opening_of_not_isBare {c : Char} (h : isBare c = false) (rest : List Char) :
    opening (c :: rest) =
      .error
        ⟨if Text.isBlank c then .blankOutsideQuotes else .unexpectedCharacter c, c :: rest⟩ := by
  have htake : (c :: rest).takeWhile isBare = [] :=
    List.takeWhile_cons_of_neg (Bool.not_eq_true _ ▸ h)
  have hdrop : (c :: rest).dropWhile isBare = c :: rest :=
    List.dropWhile_cons_of_neg (Bool.not_eq_true _ ▸ h)
  unfold opening
  simp only
  split
  · next hnil _ =>
    rw [hdrop] at hnil
    cases hnil
  · next hcons _ =>
    rw [hdrop] at hcons
    cases hcons
    rfl
  · next htoken =>
    rw [htake] at htoken
    cases htoken

theorem opening_of_isBlank {c : Char} (htoken : IsToken token) (h : Text.isBlank c = true)
    (rest : List Char) :
    opening (token ++ c :: rest) = .error ⟨.blankOutsideQuotes, c :: rest⟩ := by
  have hstop : ∀ d ∈ (c :: rest).head?, isBare d = false := by
    intro d hd
    cases hd
    exact isBare_eq_false_of_isBlank h
  obtain ⟨htake, hdrop⟩ := span_append htoken.2 hstop
  have hne := List.isEmpty_eq_false_iff.2 htoken.1
  unfold opening
  simp only
  split
  · next hempty =>
    rw [htake, hne] at hempty
    cases hempty
  · next hempty =>
    rw [htake, hne] at hempty
    cases hempty
  · simp only [hdrop]
    exact if_pos h

/-! ## What follows an expression that has been read -/

/-- Of what follows an expression that ends where its opening does, only the first character
counts. -/
theorem opening_whole_cons {e : Expr} {c : Char} {hlt : (c :: rest).length < text.length}
    (h : opening text = .ok (.whole ⟨e, c :: rest, hlt⟩)) :
    ∃ used, text = used ++ c :: rest ∧ used ≠ [] ∧ ∀ more, ∃ hlt,
      opening (used ++ c :: more) = .ok (.whole ⟨e, c :: more, hlt⟩) := by
  cases front text with
  | nil => cases h
  | stray hbare tail => cases h.symm.trans (opening_of_not_isBare hbare tail)
  | token htoken => cases h.symm.trans (opening_append htoken ends_nil)
  | blank htoken hblank tail => cases h.symm.trans (opening_of_isBlank htoken hblank tail)
  | @ended token d htoken hbare hblank tail =>
    have hopening := fun tail ↦ opening_append htoken (ends_cons hbare hblank tail)
    have hread := h.symm.trans (hopening tail)
    by_cases hopen : d = '('
    · subst hopen
      cases hname : Modifier.ofName? (String.ofList token) with
      | none =>
        rw [if_pos List.head?_cons, hname] at hread
        cases hread
      | some modifier =>
        rw [if_pos List.head?_cons, hname, Option.elim_some] at hread
        split at hread
        · next hclose =>
          obtain ⟨tail, rfl⟩ := List.head?_eq_some_iff.1 hclose
          cases hread
          have hmodifier : modifier.name.toList = token := by
            rw [Modifier.name_of_ofName? hname, String.toList_ofList]
          refine ⟨token ++ ['(', ')'], by simp, by simp, fun more ↦ ?_⟩
          rw [← hmodifier, List.append_assoc]
          exact opening_of_bareCall modifier (c :: more)
        · cases hread
    · rw [if_neg (by simpa using hopen)] at hread
      cases hread
      refine ⟨token, rfl, htoken.1, fun more ↦ ⟨length_lt_of_isToken htoken _, ?_⟩⟩
      rw [hopening more, if_neg (by simpa using hopen)]

theorem start_whole_cons {e : Expr} {c : Char} {hlt : (c :: rest).length < text.length}
    (h : start text = .ok (.whole ⟨e, c :: rest, hlt⟩)) :
    ∃ used, text = used ++ c :: rest ∧ ∀ more, ∃ hlt,
      start (used ++ c :: more) = .ok (.whole ⟨e, c :: more, hlt⟩) := by
  cases text with
  | nil => cases h
  | cons d tail =>
    by_cases hquote : isQuote d = true
    · have hquoted := h
      rw [start, if_pos hquote, quotedLiteral] at hquoted
      split at hquoted
      · cases hquoted
      · next hinside =>
        cases hquoted
        have hslash : d ≠ '\\' := by
          rintro rfl
          cases hquote
        obtain ⟨written, rfl, hwritten⟩ := (quoted_eq_some_iff hslash).1 hinside
        refine ⟨d :: (written ++ [d]), by simp, fun more ↦ ?_⟩
        rw [List.cons_append, List.append_assoc, List.singleton_append]
        exact start_of_inside (isQuote_iff.1 hquote) hwritten (c :: more)
    · have hstart : ∀ more, start (d :: more) = opening (d :: more) := fun more ↦ if_neg hquote
      obtain ⟨used, hused, hne, hopening⟩ := opening_whole_cons ((hstart tail).symm.trans h)
      refine ⟨used, hused, fun more ↦ ?_⟩
      cases used with
      | nil => exact absurd rfl hne
      | cons b used =>
        obtain rfl : d = b := List.head_eq_of_cons_eq hused
        obtain ⟨hlt, hmore⟩ := hopening more
        exact ⟨hlt, (hstart _).trans hmore⟩

/-- A call with its closing parenthesis is read, whatever follows it. -/
theorem expression_call {inside : List Char} {args : List Expr} (h : SpellsAll inside args)
    (hne : inside ≠ []) (modifier : Modifier) (rest : List Char) :
    ∃ hlt, expression (modifier.name.toList ++ '(' :: (inside ++ ')' :: rest)) =
      .ok ⟨Expr.call modifier args, rest, hlt⟩ := by
  obtain ⟨hlt, hargs⟩ := arguments_of_spellsAll h modifier rest
  obtain ⟨hlt', hopening⟩ := opening_of_call modifier (head?_ne_of_spellsAll h hne (')' :: rest))
  rw [← start_of_isToken (isToken_name modifier)] at hopening
  exact expression_of_call hopening hargs

/-- Of what follows an expression that has been read, only the first character counts. -/
theorem expression_cons {e : Expr} {c : Char} {hlt : (c :: rest).length < text.length}
    (h : expression text = .ok ⟨e, c :: rest, hlt⟩) :
    ∃ used, text = used ++ c :: rest ∧ Spells used e ∧ ∀ more, ∃ hlt,
      expression (used ++ c :: more) = .ok ⟨e, c :: more, hlt⟩ := by
  obtain ⟨used, htext, hspells⟩ := readsSoundly _ _ h
  refine ⟨used, htext, hspells, fun more ↦ ?_⟩
  have hunique : ∀ used', text = used' ++ c :: rest → used = used' :=
    fun used' htext' ↦ List.append_cancel_right (htext.symm.trans htext')
  rw [expression] at h
  split at h
  · cases h
  · next hstart =>
    cases h
    obtain ⟨used', htext', hmore⟩ := start_whole_cons hstart
    obtain ⟨hlt, hstart'⟩ := hmore more
    rw [hunique used' htext']
    exact ⟨hlt, expression_of_whole hstart'⟩
  · next head hstart =>
    split at h
    · cases h
    · next args hargs =>
      obtain ⟨hhead, hclose⟩ := isSound_of_start hstart
      obtain ⟨inside, hinside, hspellsAll⟩ := readsAllSoundly _ _ _ hargs
      have hne : inside ≠ [] := by
        rintro rfl
        exact hclose (hinside ▸ rfl)
      obtain ⟨he, hrest⟩ := Step.mk.inj (Except.ok.inj h)
      rw [hrest] at hinside
      rw [hunique (head.value.name.toList ++ '(' :: (inside ++ [')']))
        (by simpa [← hinside] using hhead), ← he, List.append_assoc, List.cons_append,
        List.append_assoc, List.singleton_append]
      exact expression_call hspellsAll hne head.value (c :: more)

/-! ## Failures -/

/-- Reading an expression fails. -/
def Fails (text : List Char) : Prop := ∃ failure, expression text = .error failure

/-- Reading arguments fails. -/
def FailsAll (text : List Char) : Prop :=
  ∀ modifier, ∃ failure, arguments modifier text = .error failure

/-- What a failure says, if `before` stands before the place that is blamed. -/
structure Failure.Blames (begins fails : List Char → Prop) (before : List Char)
    (failure : Failure) : Prop where
  /-- The text before the place can be completed. -/
  completes : begins before
  /-- A text that has ended too early can be completed. -/
  unfinished : failure.fault.isUnfinished = true → begins (before ++ failure.rest)
  /-- Any other failure is one also if the text goes on otherwise after what is blamed. -/
  final : failure.fault.isUnfinished = false → ∃ seen after, failure.rest = seen ++ after ∧
    seen ≠ [] ∧ seen.length = failure.fault.reach ∧ ∀ more, fails (before ++ (seen ++ more))

theorem Failure.Blames.append {begins fails begins' fails' : List Char → Prop}
    {before : List Char} {failure : Failure} (h : failure.Blames begins fails before)
    (front : List Char) (hbegins : ∀ text, begins text → begins' (front ++ text))
    (hfails : ∀ text, fails text → fails' (front ++ text)) :
    failure.Blames begins' fails' (front ++ before) := by
  refine ⟨hbegins _ h.completes, fun hunfinished ↦ ?_, fun hfinal ↦ ?_⟩
  · rw [List.append_assoc]
    exact hbegins _ (h.unfinished hunfinished)
  · obtain ⟨seen, after, hrest, hne, hlength, hmore⟩ := h.final hfinal
    refine ⟨seen, after, hrest, hne, hlength, fun more ↦ ?_⟩
    rw [List.append_assoc]
    exact hfails _ (hmore more)

/-- A failure at something that stands where it cannot. -/
theorem Failure.blames_of_seen {begins fails : List Char → Prop} {before : List Char}
    {failure : Failure} (seen : List Char) (hbegins : begins before)
    (hrest : failure.rest = seen ++ rest) (hne : seen ≠ [])
    (hreach : seen.length = failure.fault.reach)
    (hfails : ∀ more, fails (before ++ (seen ++ more)))
    (hfinal : failure.fault.isUnfinished = false) : failure.Blames begins fails before := by
  refine ⟨hbegins, fun hunfinished ↦ ?_, fun _ ↦ ⟨seen, rest, hrest, hne, hreach, hfails⟩⟩
  rw [hfinal] at hunfinished
  cases hunfinished

/-- A failure that blames the text for its end. -/
theorem Failure.blames_of_unfinished {begins fails : List Char → Prop} {before : List Char}
    {failure : Failure} (hbegins : begins (before ++ failure.rest)) (hbefore : begins before)
    (hunfinished : failure.fault.isUnfinished = true) : failure.Blames begins fails before := by
  refine ⟨hbefore, fun _ ↦ hbegins, fun h ↦ ?_⟩
  rw [hunfinished] at h
  cases h

theorem blames_of_opening {failure : Failure} (h : opening text = .error failure) :
    ∃ before, text = before ++ failure.rest ∧
      failure.Blames Begins (fun text ↦ ∃ failure, opening text = .error failure) before := by
  cases front text with
  | nil =>
    cases h
    exact ⟨[], rfl, Failure.blames_of_unfinished begins_nil begins_nil rfl⟩
  | stray hbare tail =>
    have hfails := opening_of_not_isBare hbare
    cases h.symm.trans (hfails tail)
    refine ⟨[], rfl, Failure.blames_of_seen [_] begins_nil rfl (List.cons_ne_nil _ _) ?_
      (fun more ↦ ⟨_, hfails more⟩) ?_⟩
    · dsimp only
      split <;> rfl
    · dsimp only
      split <;> rfl
  | token htoken => cases h.symm.trans (opening_append htoken ends_nil)
  | @blank token c htoken hblank tail =>
    have hfails := opening_of_isBlank htoken hblank
    cases h.symm.trans (hfails tail)
    exact ⟨token, rfl, Failure.blames_of_seen [c] (begins_of_spells (spells_ofToken htoken)) rfl
      (List.cons_ne_nil _ _) rfl (fun more ↦ ⟨_, hfails more⟩) rfl⟩
  | @ended token c htoken hbare hblank tail =>
    have hopening := fun tail ↦ opening_append htoken (ends_cons hbare hblank tail)
    have hread := h.symm.trans (hopening tail)
    by_cases hopen : c = '('
    · subst hopen
      cases hname : Modifier.ofName? (String.ofList token) with
      | none =>
        rw [if_pos List.head?_cons, hname] at hread
        cases hread
        refine ⟨[], rfl, Failure.blames_of_seen (token ++ ['(']) begins_nil
          (List.append_cons token '(' tail) (by simp) ?_ (fun more ↦ ?_) rfl⟩
        · rw [List.length_append]
          exact congrArg (· + 1) String.length_ofList.symm
        · have hmore := hopening more
          rw [if_pos List.head?_cons, hname] at hmore
          rw [List.nil_append, List.append_assoc]
          exact ⟨_, hmore⟩
      | some modifier =>
        rw [if_pos List.head?_cons, hname, Option.elim_some] at hread
        split at hread
        · cases hread
        · cases hread
    · rw [if_neg (by simpa using hopen)] at hread
      cases hread

theorem fails_of_start {failure : Failure} (h : start text = .error failure) : Fails text := by
  refine ⟨failure, ?_⟩
  rw [expression, h]

/-- A text that starts like another one, as far as the other one is not empty. -/
theorem head?_append_seen {seen : List Char} (hne : seen ≠ []) (before after more : List Char) :
    (before ++ (seen ++ more)).head? = (before ++ (seen ++ after)).head? := by
  cases before with
  | cons c before => rfl
  | nil =>
    cases seen with
    | cons c seen => rfl
    | nil => exact absurd rfl hne

theorem blames_of_start {failure : Failure} (h : start text = .error failure) :
    ∃ before, text = before ++ failure.rest ∧ failure.Blames Begins Fails before := by
  cases text with
  | nil =>
    cases h
    exact ⟨[], rfl, Failure.blames_of_unfinished begins_nil begins_nil rfl⟩
  | cons d tail =>
    by_cases hquote : isQuote d = true
    · rw [start, if_pos hquote, quotedLiteral] at h
      split at h
      · next hnone =>
        cases h
        exact ⟨[], rfl, Failure.blames_of_unfinished
          (begins_of_quoted_eq_none (isQuote_iff.1 hquote) hnone) begins_nil rfl⟩
      · cases h
    · have hstart : ∀ more, start (d :: more) = opening (d :: more) := fun more ↦ if_neg hquote
      obtain ⟨before, htext, hblames⟩ := blames_of_opening ((hstart tail).symm.trans h)
      refine ⟨before, htext, hblames.completes, hblames.unfinished, fun hfinal ↦ ?_⟩
      obtain ⟨seen, after, hrest, hne, hreach, hfails⟩ := hblames.final hfinal
      refine ⟨seen, after, hrest, hne, hreach, fun more ↦ ?_⟩
      obtain ⟨failure', hfailure'⟩ := hfails more
      rw [hrest] at htext
      have hhead := head?_append_seen hne before after more
      rw [← htext, List.head?_cons] at hhead
      obtain ⟨tail', htail'⟩ := List.head?_eq_some_iff.1 hhead
      rw [htail'] at hfailure' ⊢
      exact fails_of_start ((hstart tail').trans hfailure')

/-- A failure of the reading of an expression blames rightly. -/
def FailsRightly (text : List Char) : Prop :=
  ∀ failure, expression text = .error failure →
    ∃ before, text = before ++ failure.rest ∧ failure.Blames Begins Fails before

/-- A failure of the reading of arguments blames rightly. -/
def FailsAllRightly (text : List Char) : Prop :=
  ∀ modifier failure, arguments modifier text = .error failure →
    ∃ before, text = before ++ failure.rest ∧ failure.Blames BeginsAll FailsAll before

theorem FailsAll.call (h : FailsAll text) (modifier : Modifier) :
    Fails (modifier.name.toList ++ '(' :: text) := by
  have hclose : text.head? ≠ some ')' := by
    intro hclose
    obtain ⟨rest, rfl⟩ := List.head?_eq_some_iff.1 hclose
    obtain ⟨failure, hfailure⟩ := h modifier
    cases (arguments.eq_1 modifier rest).symm.trans hfailure
  obtain ⟨failure, hfailure⟩ := h modifier
  obtain ⟨hlt, hopening⟩ := opening_of_call modifier hclose
  rw [← start_of_isToken (isToken_name modifier)] at hopening
  refine ⟨failure, ?_⟩
  rw [expression, hopening]
  simp only [hfailure]

theorem FailsAll.comma (h : FailsAll text) : FailsAll (',' :: text) := by
  intro modifier
  obtain ⟨failure, hfailure⟩ := h modifier
  refine ⟨failure, ?_⟩
  rw [arguments, hfailure]

theorem Fails.failsAll (h : Fails text) (hstart : StartsArgument text) : FailsAll text := by
  intro modifier
  obtain ⟨failure, hfailure⟩ := h
  refine ⟨failure, ?_⟩
  unfold arguments
  split
  · exact absurd rfl (hstart ')' rfl).1
  · exact absurd rfl (hstart ',' rfl).2
  · rw [hfailure]

/-- Arguments cannot be read if those after the first one cannot. -/
theorem FailsAll.of_comma {e : Expr} {hlt : (',' :: rest).length < text.length}
    (h : FailsAll rest) (hstart : StartsArgument text)
    (hread : expression text = .ok ⟨e, ',' :: rest, hlt⟩) : FailsAll text := by
  intro modifier
  obtain ⟨failure, hfailure⟩ := h modifier
  refine ⟨failure, ?_⟩
  unfold arguments
  split
  · exact absurd rfl (hstart ')' rfl).1
  · exact absurd rfl (hstart ',' rfl).2
  · simp only [hread, hfailure]

/-- Arguments cannot be read if something else than a comma or the closing parenthesis follows the
first one. -/
theorem failsAll_of_cons {e : Expr} {c : Char} {hlt : (c :: rest).length < text.length}
    (hclose : c ≠ ')') (hcomma : c ≠ ',') (hstart : StartsArgument text)
    (hread : expression text = .ok ⟨e, c :: rest, hlt⟩) : FailsAll text := by
  intro modifier
  refine ⟨⟨.unexpectedCharacter c, c :: rest⟩, ?_⟩
  unfold arguments
  split
  · exact absurd rfl (hstart ')' rfl).1
  · exact absurd rfl (hstart ',' rfl).2
  · rw [hread]
    split
    · next heq => cases heq
    · next heq =>
      cases heq
      exact absurd rfl hclose
    · next heq =>
      cases heq
      exact absurd rfl hcomma
    · next heq => cases heq
    · next heq =>
      cases heq
      rfl

theorem failsRightly_of_shorter
    (hshorter : ∀ rest : List Char, rest.length < text.length → FailsAllRightly rest) :
    FailsRightly text := by
  intro failure h
  rw [expression] at h
  split at h
  · next hstart =>
    cases h
    exact blames_of_start hstart
  · cases h
  · next head hstart =>
    split at h
    · next hargs =>
      cases h
      obtain ⟨htext, -⟩ := isSound_of_start hstart
      obtain ⟨before, hrest, hblames⟩ := hshorter head.rest head.shorter _ _ hargs
      refine ⟨head.value.name.toList ++ ['('] ++ before, ?_, hblames.append _ ?_ ?_⟩
      · refine htext.trans ?_
        rw [hrest, List.append_assoc, List.append_assoc, List.singleton_append]
      · intro text hbegins
        simpa using hbegins.call head.value
      · intro text hfails
        simpa using hfails.call head.value
    · cases h

theorem failsAllRightly_of_shorter (hfirst : FailsRightly text)
    (hshorter : ∀ rest : List Char, rest.length < text.length → FailsAllRightly rest) :
    FailsAllRightly text := by
  intro modifier failure h
  unfold arguments at h
  split at h
  · cases h
  · next rest =>
    split at h
    · next hargs =>
      cases h
      obtain ⟨before, hrest, hblames⟩ := hshorter rest (by simp) _ _ hargs
      refine ⟨[','] ++ before, congrArg (',' :: ·) hrest, hblames.append _ ?_ ?_⟩
      · exact fun text ↦ BeginsAll.comma
      · exact fun text ↦ FailsAll.comma
    · cases h
  · next hclose hcomma =>
    have hstart : StartsArgument text := by
      intro c hc
      obtain ⟨rest, rfl⟩ := List.head?_eq_some_iff.1 hc
      exact ⟨fun heq ↦ hclose rest (heq ▸ rfl), fun heq ↦ hcomma rest (heq ▸ rfl)⟩
    split at h
    · next hread =>
      cases h
      obtain ⟨before, htext, hblames⟩ := hfirst _ hread
      refine ⟨before, htext, hblames.completes.beginsAll, fun h ↦ (hblames.unfinished h).beginsAll,
        fun hfinal ↦ ?_⟩
      obtain ⟨seen, after, hrest, hne, hreach, hfails⟩ := hblames.final hfinal
      refine ⟨seen, after, hrest, hne, hreach, fun more ↦ (hfails more).failsAll ?_⟩
      rw [StartsArgument, head?_append_seen hne before after more, ← hrest, ← htext]
      exact hstart
    · cases h
    · next first rest hlt hread =>
      split at h
      · next hargs =>
        cases h
        obtain ⟨before, hrest, hblames⟩ := hshorter rest (Nat.lt_of_succ_lt hlt) _ _ hargs
        obtain ⟨used, htext, hspells, hmore⟩ := expression_cons hread
        refine ⟨used ++ [','] ++ before, ?_, hblames.append _ ?_ ?_⟩
        · rw [List.append_assoc, List.append_assoc, List.singleton_append, ← hrest]
          exact htext
        · intro text hbegins
          rw [List.append_assoc, List.singleton_append]
          exact hbegins.cons hspells
        · intro text hfails
          rw [List.append_assoc, List.singleton_append]
          obtain ⟨hlt, hread⟩ := hmore text
          exact hfails.of_comma (startsArgument_of_spells hspells _) hread
      · cases h
    · next hread =>
      cases h
      obtain ⟨used, htext, hspells⟩ := readsSoundly _ _ hread
      rw [List.append_nil] at htext
      subst htext
      have hbegins := (begins_of_spells hspells).beginsAll
      exact ⟨text, (List.append_nil _).symm,
        Failure.blames_of_unfinished (by rwa [List.append_nil]) hbegins rfl⟩
    · next c rest _ hc hcomma' hread =>
      cases h
      obtain ⟨used, htext, hspells, hmore⟩ := expression_cons hread
      refine ⟨used, htext, Failure.blames_of_seen [c] (begins_of_spells hspells).beginsAll
        rfl (List.cons_ne_nil _ _) rfl (fun more ↦ ?_) rfl⟩
      obtain ⟨hlt, hread⟩ := hmore more
      exact failsAll_of_cons hc hcomma' (startsArgument_of_spells hspells _) hread

theorem failsAllRightly (text : List Char) : FailsAllRightly text := by
  induction hlength : text.length using Nat.strong_induction_on generalizing text with
  | h n ih =>
    subst hlength
    have hshorter : ∀ rest : List Char, rest.length < text.length → FailsAllRightly rest :=
      fun rest hlt ↦ ih rest.length hlt rest rfl
    exact failsAllRightly_of_shorter (failsRightly_of_shorter hshorter) hshorter

theorem failsRightly (text : List Char) : FailsRightly text :=
  failsRightly_of_shorter fun rest _ ↦ failsAllRightly rest

/-! ## Whole texts -/

theorem expression_of_spells_all {e : Expr} (h : Spells text e) :
    ∃ hlt, expression text = .ok ⟨e, [], hlt⟩ := by
  have hfollows : Follows [] := by
    intro c hc
    cases hc
  have hread := expression_of_spells h [] hfollows
  rwa [List.append_nil] at hread

/-- A text whose reading fails spells no expression. -/
theorem Fails.not_spells (h : Fails text) (e : Expr) : ¬Spells text e := by
  intro hspells
  obtain ⟨failure, hfailure⟩ := h
  obtain ⟨_, hread⟩ := expression_of_spells_all hspells
  cases hfailure.symm.trans hread

/-- A text from whose front an expression is read, with something left, spells no expression. -/
theorem not_spells_of_expression {e : Expr} {c : Char} {hlt : (c :: rest).length < text.length}
    (h : expression text = .ok ⟨e, c :: rest, hlt⟩) (e' : Expr) : ¬Spells text e' := by
  intro hspells
  obtain ⟨_, hread⟩ := expression_of_spells_all hspells
  cases h.symm.trans hread

end Parser

/-- The text can be continued to one that is read. -/
def IsBeginning (text : String) : Prop := ∃ more e, parse (text ++ more) = .ok e

theorem isBeginning_iff {text : String} : IsBeginning text ↔ Begins text.toList := by
  constructor
  · rintro ⟨more, e, h⟩
    refine ⟨more.toList, e, ?_⟩
    rw [← String.toList_append]
    exact spells_of_parse h
  · rintro ⟨more, e, h⟩
    refine ⟨String.ofList more, e, parse_of_spells ?_⟩
    rwa [String.toList_append, String.toList_ofList]

theorem blames_of_parse {text : String} {error : SyntaxError} (hne : text ≠ "")
    (h : parse text = .error error) :
    ∃ before, ∃ failure : Parser.Failure, text.toList = before ++ failure.rest ∧
      error.fault = failure.fault ∧ error.position = some before.length ∧
      failure.Blames Begins (fun text ↦ ∀ e, ¬Spells text e) before := by
  have hplace : ∀ before rest : List Char, text.toList = before ++ rest →
      some (text.toList.length - rest.length) = some before.length := by
    intro before rest htext
    rw [htext, List.length_append, Nat.add_sub_cancel_right]
  unfold parse at h
  simp only at h
  rw [if_neg (by simpa using hne)] at h
  split at h
  · next failure hfailure =>
    cases h
    obtain ⟨before, htext, hblames⟩ := Parser.failsRightly _ _ hfailure
    exact ⟨before, failure, htext, rfl, hplace _ _ htext,
      hblames.append [] (fun _ ↦ id) fun _ ↦ Parser.Fails.not_spells⟩
  · next step hread =>
    obtain ⟨e, left, hlt⟩ := step
    split at h
    · cases h
    · next c rest hrest =>
      cases h
      obtain rfl : left = c :: rest := hrest
      obtain ⟨used, htext, hspells, hmore⟩ := Parser.expression_cons hread
      refine ⟨used, ⟨.unexpectedCharacter c, c :: rest⟩, htext, rfl, hplace _ _ htext,
        Parser.Failure.blames_of_seen [c] (begins_of_spells hspells) rfl
          (List.cons_ne_nil _ _) rfl (fun more ↦ ?_) rfl⟩
      obtain ⟨_, hread⟩ := hmore more
      exact Parser.not_spells_of_expression hread

/-- The error of a text that is no expression has a place in it. What stands before the place can be
continued to an expression. The whole text can be if it has merely ended too early, and otherwise
not even the text up to the end of what is blamed can be. -/
theorem parse_error_blames {text : String} {error : SyntaxError} (hne : text ≠ "")
    (h : parse text = .error error) :
    ∃ p, error.position = some p ∧ p ≤ text.length ∧
      IsBeginning (String.ofList (text.toList.take p)) ∧
      (IsBeginning text ↔ error.fault.isUnfinished = true) ∧
      (error.fault.isUnfinished = false → p + error.fault.reach ≤ text.length ∧
        ¬IsBeginning (String.ofList (text.toList.take (p + error.fault.reach)))) := by
  obtain ⟨before, failure, htext, hfault, hposition, hblames⟩ := blames_of_parse hne h
  have hlength : text.length = before.length + failure.rest.length := by
    rw [← String.length_toList, htext, List.length_append]
  have hbegins : error.fault.isUnfinished = true → Begins text.toList := by
    rw [hfault, htext]
    exact hblames.unfinished
  have hfinal : error.fault.isUnfinished = false →
      before.length + error.fault.reach ≤ text.length ∧
        ¬Begins (text.toList.take (before.length + error.fault.reach)) := by
    intro hfinal
    rw [hfault] at hfinal ⊢
    obtain ⟨seen, after, hrest, -, hreach, hnone⟩ := hblames.final hfinal
    have htake : text.toList.take (before.length + failure.fault.reach) = before ++ seen := by
      rw [htext, hrest, ← hreach, ← List.append_assoc, ← List.length_append, List.take_left]
    refine ⟨?_, ?_⟩
    · rw [hlength, hrest, List.length_append]
      omega
    · rw [htake]
      rintro ⟨more, e, hspells⟩
      rw [List.append_assoc] at hspells
      exact hnone more e hspells
  refine ⟨before.length, hposition, by omega, ?_, ?_, fun h ↦ ⟨(hfinal h).1, ?_⟩⟩
  · rw [isBeginning_iff, String.toList_ofList, htext, List.take_left]
    exact hblames.completes
  · rw [isBeginning_iff]
    refine ⟨fun hwhole ↦ ?_, hbegins⟩
    by_contra hunfinished
    rw [← List.take_append_drop (before.length + error.fault.reach) text.toList] at hwhole
    exact (hfinal (Bool.eq_false_iff.2 hunfinished)).2 hwhole.of_append
  · rw [isBeginning_iff, String.toList_ofList]
    exact (hfinal h).2

theorem parse_error_of_arguments {text : String} {head : Parser.Step Modifier text.toList}
    {failure : Parser.Failure} (hstart : Parser.start text.toList = .ok (.call head))
    (hargs : Parser.arguments head.value head.rest = .error failure) :
    parse text =
      .error ⟨failure.fault, text, some (text.toList.length - failure.rest.length)⟩ := by
  have hne : text.toList ≠ [] := List.ne_nil_of_length_pos (Nat.zero_lt_of_lt head.shorter)
  rw [parse]
  simp only
  rw [if_neg (mt List.isEmpty_iff.1 hne), Parser.expression, hstart]
  simp only [hargs]

theorem parse_join_blank :
    parse "join(a b)" = .error ⟨.blankOutsideQuotes, "join(a b)", some 6⟩ := by
  have hstart : Parser.start "join(a b)".toList =
      .ok (.call ⟨.join, "a b)".toList, by decide⟩) := rfl
  have hargs : Parser.arguments .join "a b)".toList =
      .error ⟨.blankOutsideQuotes, " b)".toList⟩ := by
    rw [Parser.arguments, Parser.expression]
    · rfl
    · simp
    · simp
  exact parse_error_of_arguments hstart hargs

theorem parse_join_quote :
    parse "join('a,b)" = .error ⟨.unterminatedText, "join('a,b)", some 5⟩ := by
  have hstart : Parser.start "join('a,b)".toList =
      .ok (.call ⟨.join, "'a,b)".toList, by decide⟩) := rfl
  have hargs : Parser.arguments .join "'a,b)".toList =
      .error ⟨.unterminatedText, "'a,b)".toList⟩ := by
    rw [Parser.arguments, Parser.expression]
    · rfl
    · simp
    · simp
  exact parse_error_of_arguments hstart hargs

/-- After a blank between parentheses there is no way on, after an open quote there is. -/
theorem parse_error_blames_join :
    (parse "join(a b)" = .error ⟨.blankOutsideQuotes, "join(a b)", some 6⟩ ∧
      IsBeginning "join(a" ∧ ¬IsBeginning "join(a b)" ∧ ¬IsBeginning "join(a ") ∧
    parse "join('a,b)" = .error ⟨.unterminatedText, "join('a,b)", some 5⟩ ∧
      IsBeginning "join(" ∧ IsBeginning "join('a,b)" := by
  refine ⟨⟨parse_join_blank, ?_⟩, parse_join_quote, ?_⟩
  · obtain ⟨p, hp, -, hbegins, hwhole, hfinal⟩ := parse_error_blames (by decide) parse_join_blank
    cases hp
    refine ⟨hbegins, fun h ↦ ?_, (hfinal rfl).2⟩
    cases hwhole.1 h
  · obtain ⟨p, hp, -, hbegins, hwhole, -⟩ := parse_error_blames (by decide) parse_join_quote
    cases hp
    exact ⟨hbegins, hwhole.2 rfl⟩

end Expr

end Scaffold
