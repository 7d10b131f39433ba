import Scaffold.Text.Classes
import Scaffold.Transform.Expr

/-!
# Reading transform expressions

An expression is written

* as a text in single or double quotes, in which a backslash makes the next character literal;
* as a bare token: a run of characters other than blanks, quotes, parentheses and commas. A token
  that is a decimal number stands for itself, any other names a variable;
* as a modifier's name followed by arguments in parentheses, separated by commas. An argument left
  empty is the empty text, but empty parentheses hold no argument at all.

Blanks are allowed inside quotes only. The reader goes from left to right without looking back, and
an error carries the place at which it stopped, or at which the quoted text or the call it could not
finish begins.
-/

namespace Scaffold

/-- Why a text is no transform expression. -/
inductive SyntaxFault where
  /-- The text is empty. -/
  | emptyExpression
  /-- The text ends where an expression is due. -/
  | unexpectedEnd
  /-- A character that cannot stand where it is. -/
  | unexpectedCharacter (c : Char)
  /-- A blank outside quotes. -/
  | blankOutsideQuotes
  /-- A quoted text without its closing quote. -/
  | unterminatedText
  /-- A call of something that is no modifier. -/
  | unknownModifier (name : String)
  /-- A call without its closing parenthesis. -/
  | missingClose (name : String)
deriving DecidableEq, Repr

/-- A text that is no transform expression, with the reason and the offset in characters at which
reading failed. An empty text has no such place. -/
structure SyntaxError where
  /-- What is wrong. -/
  fault : SyntaxFault
  /-- The whole text. -/
  expression : String
  /-- Where it is wrong. -/
  position : Option Nat
deriving DecidableEq, Repr

namespace SyntaxFault

/-- What is wrong, in words. -/
def message : SyntaxFault → String
  | emptyExpression => "Empty expression"
  | unexpectedEnd => "Unexpected end of expression"
  | unexpectedCharacter c => s!"Unexpected character '{c}'"
  | blankOutsideQuotes => "Whitespace is not allowed outside quotes"
  | unterminatedText => "Unterminated string literal"
  | unknownModifier name => s!"Unknown modifier '{name}'"
  | missingClose name => s!"Missing ')' for '{name}('"

end SyntaxFault

/-- What is wrong and where, in words. -/
def SyntaxError.message (e : SyntaxError) : String :=
  let place := match e.position with
    | some p => s!" at position {p}"
    | none => ""
  s!"{e.fault.message}{place} in transform '{e.expression}'"

namespace Expr

/-- A quote. -/
def isQuote (c : Char) : Bool :=
  c == '\'' || c == '"'

/-- A character with a meaning of its own outside quotes. -/
def isStructural (c : Char) : Bool :=
  c == '(' || c == ')' || c == ','

/-- A character of a bare token. -/
def isBare (c : Char) : Bool :=
  !Text.isBlank c && !isStructural c && !isQuote c

/-- A decimal number: an optional minus sign, digits, and optionally a point and more digits. -/
def isNumeric (token : List Char) : Bool :=
  let unsigned := match token with
    | '-' :: rest => rest
    | _ => token
  let whole := unsigned.takeWhile Text.isDigit
  !whole.isEmpty && match unsigned.dropWhile Text.isDigit with
    | [] => true
    | '.' :: fraction => !fraction.isEmpty && fraction.all Text.isDigit
    | _ => false

/-- The expression that a bare token stands for. -/
def ofToken (token : List Char) : Expr :=
  if isNumeric token then literal (String.ofList token) else ref (String.ofList token)

namespace Parser

/-- A failed reading: the reason, and the text that was still to be read at the place to blame. -/
structure Failure where
  /-- What is wrong. -/
  fault : SyntaxFault
  /-- The rest of the text from the place to blame. -/
  rest : List Char

/-- Something read from the front of `text`, and the text after it. -/
structure Step (α : Type) (text : List Char) where
  /-- What was read. -/
  value : α
  /-- What is left. -/
  rest : List Char
  /-- Something has been read. -/
  shorter : rest.length < text.length

/-- The inside of a quoted text up to its closing quote, and what follows the quote. -/
def quoted (quote : Char) : List Char → Option (List Char × List Char)
  | [] => none
  | '\\' :: c :: rest => (quoted quote rest).map fun (inside, after) ↦ (c :: inside, after)
  | c :: rest =>
    if c = quote then some ([], rest)
    else (quoted quote rest).map fun (inside, after) ↦ (c :: inside, after)

theorem length_rest_of_quoted {quote : Char} {text inside rest : List Char}
    (h : quoted quote text = some (inside, rest)) : rest.length < text.length := by
  fun_induction quoted quote text generalizing inside rest with
  | case1 => simp at h
  | case2 c text ih =>
    obtain ⟨⟨i, r⟩, hr, he⟩ := Option.map_eq_some_iff.1 h
    cases he
    have := ih hr
    simp only [List.length_cons]
    omega
  | case3 text _ =>
    cases h
    simp
  | case4 c text _ _ ih =>
    obtain ⟨⟨i, r⟩, hr, he⟩ := Option.map_eq_some_iff.1 h
    cases he
    have := ih hr
    simp only [List.length_cons]
    omega

theorem length_dropWhile_lt {p : Char → Bool} {text : List Char}
    (h : (text.takeWhile p).isEmpty = false) : (text.dropWhile p).length < text.length := by
  have hlen := congrArg List.length (List.takeWhile_append_dropWhile (p := p) (l := text))
  have hpos : 0 < (text.takeWhile p).length := by
    cases htake : text.takeWhile p with
    | nil => simp [htake] at h
    | cons => simp
  simp only [List.length_append] at hlen
  omega

/-- What an expression opens with. -/
inductive Opening (text : List Char) where
  /-- A whole expression that holds no other. -/
  | whole (step : Step Expr text)
  /-- A call up to and including its opening parenthesis, with at least one argument to come. -/
  | call (step : Step Modifier text)

/-- A bare token, as a whole expression or as the name of a call. -/
def opening (text : List Char) : Except Failure (Opening text) :=
  let token := text.takeWhile isBare
  match hrest : text.dropWhile isBare, htoken : token.isEmpty with
  | [], true => .error ⟨.unexpectedEnd, []⟩
  | c :: rest, true =>
    .error ⟨if Text.isBlank c then .blankOutsideQuotes else .unexpectedCharacter c, c :: rest⟩
  | rest, false =>
    have hlt : rest.length < text.length := hrest ▸ length_dropWhile_lt htoken
    if rest.head?.any Text.isBlank then .error ⟨.blankOutsideQuotes, rest⟩
    else if hopen : rest.head? = some '(' then
      match Modifier.ofName? (String.ofList token) with
      | none => .error ⟨.unknownModifier (String.ofList token), text⟩
      | some modifier =>
        if rest.tail.head? = some ')' then
          .ok (.whole ⟨Expr.call modifier [], rest.tail.tail, by
            simp only [List.length_tail]
            omega⟩)
        else
          .ok (.call ⟨modifier, rest.tail, by
            simp only [List.length_tail]
            omega⟩)
    else .ok (.whole ⟨ofToken token, rest, hlt⟩)

/-- A quoted text, as a whole expression. -/
def quotedLiteral (quote : Char) (tail : List Char) : Except Failure (Opening (quote :: tail)) :=
  match h : quoted quote tail with
  | none => .error ⟨.unterminatedText, quote :: tail⟩
  | some (inside, rest) =>
    .ok (.whole ⟨literal (String.ofList inside), rest, by
      have := length_rest_of_quoted h
      simp only [List.length_cons]
      omega⟩)

/-- The opening of the expression that a text starts with. -/
def start : (text : List Char) → Except Failure (Opening text)
  | [] => .error ⟨.unexpectedEnd, []⟩
  | c :: tail => if isQuote c then quotedLiteral c tail else opening (c :: tail)

mutual

/-- One expression from the front of a text. -/
def expression (text : List Char) : Except Failure (Step Expr text) :=
  match start text with
  | .error failure => .error failure
  | .ok (.whole step) => .ok step
  | .ok (.call head) =>
    match arguments head.value head.rest with
    | .error failure => .error failure
    | .ok args => .ok ⟨call head.value args.value, args.rest, Nat.lt_trans args.shorter head.shorter⟩
termination_by (text.length, 0)
decreasing_by exact Prod.Lex.left _ _ head.shorter

/-- The arguments of a call, from the one that starts the text to the closing parenthesis. -/
def arguments (modifier : Modifier) (text : List Char) : Except Failure (Step (List Expr) text) :=
  match text with
  | ')' :: rest => .ok ⟨[literal ""], rest, by simp⟩
  | ',' :: rest =>
    match arguments modifier rest with
    | .error failure => .error failure
    | .ok args => .ok ⟨literal "" :: args.value, args.rest, Nat.lt_succ_of_lt args.shorter⟩
  | text =>
    match expression text with
    | .error failure => .error failure
    | .ok ⟨first, ')' :: rest, hlt⟩ => .ok ⟨[first], rest, Nat.lt_of_succ_lt hlt⟩
    | .ok ⟨first, ',' :: rest, hlt⟩ =>
      match arguments modifier rest with
      | .error failure => .error failure
      | .ok args =>
        .ok ⟨first :: args.value, args.rest, Nat.lt_trans args.shorter (Nat.lt_of_succ_lt hlt)⟩
    | .ok ⟨_, [], _⟩ => .error ⟨.missingClose modifier.name, []⟩
    | .ok ⟨_, c :: rest, _⟩ => .error ⟨.unexpectedCharacter c, c :: rest⟩
termination_by (text.length, 1)
decreasing_by
  · exact Prod.Lex.left _ _ (by simp)
  · exact Prod.Lex.right _ (by decide)
  · exact Prod.Lex.left _ _ (Nat.lt_of_succ_lt hlt)

end

end Parser

/-- The expression that a text spells, the whole of it. -/
def parse (text : String) : Except SyntaxError Expr :=
  let chars := text.toList
  let blame (failure : Parser.Failure) : SyntaxError :=
    ⟨failure.fault, text, some (chars.length - failure.rest.length)⟩
  if chars.isEmpty then .error ⟨.emptyExpression, text, none⟩
  else match Parser.expression chars with
    | .error failure => .error (blame failure)
    | .ok step =>
      match step.rest with
      | [] => .ok step.value
      | c :: rest => .error (blame ⟨.unexpectedCharacter c, c :: rest⟩)

/-- The variables that the expression spelled by a text refers to. -/
def relatedVariables (text : String) : Except SyntaxError (List String) :=
  (parse text).map refs

end Expr

end Scaffold
