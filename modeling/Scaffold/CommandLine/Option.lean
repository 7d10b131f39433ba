import Scaffold.Text.Classes

/-!
# Options

The words of a command line are options, which begin with a hyphen, and operands. An option may have
its value joined to it or take it from the next word; options of one letter may share a word, and the
name of a longer one may be cut short as long as only one option can be meant. After a word of two
hyphens all words are operands. A word that begins with a hyphen but is a number, or that holds a space,
is an operand as well.
-/

namespace Scaffold.CommandLine

/-- How a command line is answered without running a command. -/
inductive Exit where
  /-- By help. -/
  | help
  /-- By how the command line should be written. -/
  | usage
deriving DecidableEq, Repr

/-- An option that sets something of type `σ`. -/
structure OptionRule (σ : Type) where
  /-- Its names, with their hyphens. -/
  names : List String
  /-- What it sets. -/
  sets : σ
  /-- It takes a value. -/
  takesValue : Bool
  /-- The values that it may take; any if none is given. -/
  choices : List String

/-- An option in a word. -/
structure OptionUse (σ : Type) where
  /-- The option, if it is known. -/
  rule : Option (OptionRule σ)
  /-- It is given by one letter after one hyphen. -/
  short : Bool
  /-- What is joined to it in the word, and whether an equals sign joins it. -/
  joined : Option (List Char × Bool)

/-- A word of a command line. -/
inductive Word (σ : Type) where
  /-- An operand. -/
  | operand (text : String)
  /-- Two hyphens. -/
  | separator
  /-- An option. -/
  | option (used : OptionUse σ)

/-- An option that has been given, with its value if it takes one. -/
structure Given (σ : Type) where
  /-- What it sets. -/
  sets : σ
  /-- Its value. -/
  value : Option String

variable {σ : Type}

/-- The option with the given name. -/
def findOption (rules : List (OptionRule σ)) (name : List Char) : Option (OptionRule σ) :=
  rules.find? fun rule ↦ rule.names.any (·.toList == name)

/-- The use of a known option. -/
def use (rule : OptionRule σ) (name : List Char) (joined : Option (List Char × Bool)) : Word σ :=
  .option ⟨some rule, (name.drop 1).head? != some '-', joined⟩

/-- The part of a word before an equals sign, and the part after it if there is one. -/
def cutEquals (word : List Char) : List Char × Option (List Char) :=
  (word.takeWhile (· != '='), (word.dropWhile (· != '=')).tail?)

/-- The options that a long name cut short may mean, by their full names. -/
def completions (rules : List (OptionRule σ)) (start : List Char) :
    List (OptionRule σ × List Char) :=
  rules.flatMap fun rule ↦
    ((rule.names.map String.toList).filter (start.isPrefixOf ·)).map fun name ↦ (rule, name)

/-- Decimal digits. -/
def isDigits (text : List Char) : Bool := text.all fun c ↦ (Text.digitValue? c).isSome

/-- A negative number. A line break at its end does not count. -/
def isNegativeNumber (word : List Char) : Bool :=
  let word := if word.getLast? = some '\n' then word.dropLast else word
  match word with
  | '-' :: digits =>
    match digits.dropWhile fun c ↦ (Text.digitValue? c).isSome with
    | [] => !digits.isEmpty
    | '.' :: fraction => !fraction.isEmpty && isDigits fraction
    | _ => false
  | _ => false

/-- A word that begins with a hyphen but gives no option. -/
def otherWord (text : String) : Word σ :=
  if isNegativeNumber text.toList || text.toList.contains ' ' then .operand text
  else .option ⟨none, false, none⟩

/-- A word that begins with two hyphens and is not the full name of an option. -/
def longWord (rules : List (OptionRule σ)) (text : String) : Except Exit (Word σ) :=
  let (start, value) := cutEquals text.toList
  match completions rules start with
  | [] => .ok (otherWord text)
  | [(rule, name)] => .ok (use rule name (value.map (·, true)))
  | _ => .error .usage

/-- A word that begins with one hyphen and is not the name of an option. -/
def shortWord (rules : List (OptionRule σ)) (text : String) : Word σ :=
  let name := text.toList.take 2
  match findOption rules name with
  | some rule => use rule name (some (text.toList.drop 2, false))
  | none => otherWord text

/-- A word, as long as there have not been two hyphens. -/
def wordOf (rules : List (OptionRule σ)) (text : String) : Except Exit (Word σ) :=
  let chars := text.toList
  if chars.head? != some '-' then .ok (.operand text)
  else
    match findOption rules chars with
    | some rule => .ok (use rule chars none)
    | none =>
      if chars.length = 1 then .ok (.operand text)
      else
        let (name, value) := cutEquals chars
        match findOption rules name, value with
        | some rule, some value => .ok (use rule name (some (value, true)))
        | _, _ =>
          if (chars.drop 1).head? = some '-' then longWord rules text
          else .ok (shortWord rules text)

/-- The words of a command line. -/
def words (rules : List (OptionRule σ)) : List String → Except Exit (List (Word σ))
  | [] => .ok []
  | text :: rest => do
    if text = "--" then return .separator :: rest.map .operand
    else
      let word ← wordOf rules text
      return word :: (← words rules rest)

/-- What a word with an option gives: the options, whether they are all known, and the words that are
left. `next` are the words after it. -/
structure Taken (σ : Type) where
  /-- The options with their values. -/
  given : List (OptionRule σ × Option String)
  /-- All options are known. -/
  complete : Bool
  /-- The words that are left. -/
  rest : List (Word σ)

/-- An option to which nothing is joined. -/
def takeAlone (rule : OptionRule σ) (next : List (Word σ)) : Except Exit (Taken σ) :=
  if rule.takesValue then
    match next with
    | .operand value :: rest => .ok ⟨[(rule, some value)], true, rest⟩
    | _ => .error .usage
  else .ok ⟨[(rule, none)], true, next⟩

/-- An option to which the given characters are joined. Those that are not its value are further
options. -/
def takeJoined (rules : List (OptionRule σ)) (rule : OptionRule σ) (short equals : Bool)
    (next : List (Word σ)) : (joined : List Char) → Except Exit (Taken σ)
  | [] => if rule.takesValue then .ok ⟨[(rule, some "")], true, next⟩ else .error .usage
  | c :: rest =>
    if rule.takesValue then .ok ⟨[(rule, some (String.ofList (c :: rest)))], true, next⟩
    else if !short || equals || c = '-' then .error .usage
    else
      match findOption rules ['-', c] with
      | none => .ok ⟨[(rule, none)], false, next⟩
      | some other => do
        let taken ← match rest with
          | [] => takeAlone other next
          | '=' :: value =>
            if other.takesValue then .ok ⟨[(other, some (String.ofList value))], true, next⟩
            else .error .usage
          | c' :: rest' => takeJoined rules other true false next (c' :: rest')
        return { taken with given := (rule, none) :: taken.given }

/-- What a word with an option gives. -/
def take (rules : List (OptionRule σ)) (used : OptionUse σ) (next : List (Word σ)) :
    Except Exit (Taken σ) :=
  match used.rule, used.joined with
  | none, _ => .ok ⟨[], false, next⟩
  | some rule, none => takeAlone rule next
  | some rule, some (joined, equals) => takeJoined rules rule used.short equals next joined

/-- The options that have been given, if their values may be taken; help is given as soon as it is
asked for. -/
def give [DecidableEq σ] (help : σ) : List (OptionRule σ × Option String) →
    Except Exit (List (Given σ))
  | [] => .ok []
  | (rule, value) :: rest => do
    if rule.sets = help then throw .help
    if !rule.choices.isEmpty && value.any (!rule.choices.contains ·) then throw .usage
    return ⟨rule.sets, value⟩ :: (← give help rest)

/-- What a command line says. -/
structure Line (σ : Type) where
  /-- The options that are given, in order. -/
  given : List (Given σ)
  /-- The operand. -/
  operand : Option String
  /-- There are words that mean nothing. -/
  excess : Bool

/-- What the words of a command line with one operand say. -/
def readWords [DecidableEq σ] (rules : List (OptionRule σ)) (help : σ) :
    (fuel : Nat) → Line σ → List (Word σ) → Except Exit (Line σ)
  | 0, line, _ => .ok line
  | _, line, [] => .ok line
  | fuel + 1, line, .option used :: next => do
    let taken ← take rules used next
    let given ← give help taken.given
    readWords rules help fuel
      { line with given := line.given ++ given, excess := line.excess || !taken.complete } taken.rest
  | fuel + 1, line, .operand text :: next =>
    if line.operand.isSome then readWords rules help fuel { line with excess := true } next
    else
      match next with
      | .separator :: rest => readWords rules help fuel { line with operand := some text } rest
      | _ => readWords rules help fuel { line with operand := some text } next
  | fuel + 1, line, .separator :: next =>
    match line.operand, next with
    | none, .operand text :: rest =>
      readWords rules help fuel { line with operand := some text } rest
    | _, _ => readWords rules help fuel { line with excess := true } next

/-- What a command line with one operand says. -/
def readLine [DecidableEq σ] (rules : List (OptionRule σ)) (help : σ) (texts : List String) :
    Except Exit (Line σ) := do
  let words ← words rules texts
  readWords rules help (words.length + 1) ⟨[], none, false⟩ words

end Scaffold.CommandLine
