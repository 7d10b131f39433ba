import Scaffold.Config.Problem
import Scaffold.Document.Value
import Scaffold.Placeholder.Wrapper

/-!
# Configurations

The configuration of a blueprint: its name, its wrappers and its table of transforms. It is made from
the value of a document, which is checked strictly. Every part is checked by itself and the problems
of all parts are reported together, in the order of the parts; only that no variable may depend on
itself is checked when all else is well.
-/

namespace Scaffold

open Document

/-- The configuration of a blueprint. -/
structure Config where
  /-- The name of the blueprint. -/
  name : Option String
  /-- The wrappers of its placeholders. -/
  wrappers : WrapperConfig
  /-- How the values of its variables are found. -/
  table : Table
  /-- The file that it was read from. -/
  source : Option String

/-- Why there is no configuration. -/
inductive ConfigError where
  /-- There are problems. -/
  | invalid (problems : List Problem)
  /-- A number has more digits than are written. -/
  | unwritable
deriving DecidableEq, Repr

namespace Config

/-- The configuration of a blueprint that says nothing. -/
def empty : Config := ⟨none, .empty, .empty, none⟩

/-- The fields of a configuration. -/
def fields : List String :=
  ["name", "fileNameVariableWrapper", "variableWrapper", "variableWrappers", "variableTransform",
    "hooks", "singleFile", "singleFiles"]

/-- The fields of a definition. -/
def definitionFields : List String := ["transform", "skipIfDefined", "default"]

/-- A key is one of the given fields. -/
def isField (known : List String) : Value → Bool
  | .text key => known.contains key
  | _ => false

/-- The keys that are none of the given fields. -/
def unknownKeys (known : List String) (entries : List (Value × Value)) : List Value :=
  (entries.map Prod.fst).filter (!isField known ·)

/-- The problems of keys that are none of the given fields. -/
def unknownFields (known : List String) (place : String) (entries : List (Value × Value)) :
    List Problem :=
  (unknownKeys known entries).map fun key ↦ ⟨.unknownField key.shown, place⟩

/-- The name of a blueprint, and what is wrong with it. -/
def checkName : Option Value → Option String × List Problem
  | some (.text name) => (some name, [])
  | none => (none, [])
  | some .null => (none, [])
  | some v => (none, [⟨.notText "name" v.typeName, ""⟩])

/-- A wrapper, and what is wrong with it. -/
def checkWrapper (field : String) : Option Value → Option String × List Problem
  | some (.text wrapper) =>
    match Wrapper.split wrapper with
    | .ok _ => (some wrapper, [])
    | .error e => (none, [⟨.badWrapper field e, ""⟩])
  | none => (none, [])
  | some .null => (none, [])
  | some v => (none, [⟨.notText field v.typeName, ""⟩])

/-- The ending that an entry for an extension names. -/
def extensionOf? (entries : List (Value × Value)) : Option String :=
  match Value.field? "extension" entries with
  | some (.text ending) => if ending.isEmpty then none else some ending
  | _ => none

/-- A wrapper for an extension, and what is wrong with it. -/
def checkOverride (index : Nat) : Value → Option ExtensionWrapper × List Problem
  | .mapping entries =>
    match extensionOf? entries with
    | none => (none, [⟨.overrideWithoutExtension index, ""⟩])
    | some ending =>
      let wrapper := Value.field? "wrapper" entries
      match checkWrapper (overrideField index ++ ".wrapper") wrapper with
      | (some text, problems) => (some ⟨text, ending⟩, problems)
      | (none, problems) =>
        (none, problems ++
          (if wrapper.isNone then [⟨.overrideWithoutWrapper index, ""⟩] else []))
  | _ => (none, [⟨.overrideNotMapping index, ""⟩])

/-- The wrappers for extensions, and what is wrong with them. -/
def checkOverrides : Option Value → List ExtensionWrapper × List Problem
  | none => ([], [])
  | some (.list items) =>
    let checked := items.zipIdx.map fun (item, index) ↦ checkOverride index item
    (checked.filterMap Prod.fst, checked.flatMap Prod.snd)
  | some (.pairs items) =>
    ([], items.zipIdx.map fun (_, index) ↦ ⟨.overrideNotMapping index, ""⟩)
  | some _ => ([], [⟨.overridesNotList, ""⟩])

/-- The wrappers of a blueprint, and what is wrong with them. -/
def checkWrappers (entries : List (Value × Value)) : WrapperConfig × List Problem :=
  let (fileName, problems₁) :=
    checkWrapper "fileNameVariableWrapper" (Value.field? "fileNameVariableWrapper" entries)
  let (content, problems₂) :=
    checkWrapper "variableWrapper" (Value.field? "variableWrapper" entries)
  let (extensions, problems₃) := checkOverrides (Value.field? "variableWrappers" entries)
  (⟨fileName, content, extensions⟩, problems₁ ++ problems₂ ++ problems₃)

/-- A transform with the variables that it refers to, and what is wrong with it. -/
def checkTransform (place : String) : Option Value → Option (String × List String) × List Problem
  | none => (none, [])
  | some .null => (none, [])
  | some (.text text) =>
    if text.isEmpty then (none, [⟨.emptyTransform, place⟩])
    else
      match Expr.relatedVariables text with
      | .ok names => (some (text, names), [])
      | .error e => (none, [⟨.badTransform e, place⟩])
  | some _ => (none, [⟨.emptyTransform, place⟩])

/-- Whether computed values pass unasked, and what is wrong with that. -/
def checkSkip (place : String) : Option Value → Bool × List Problem
  | none => (false, [])
  | some (.truth skip) => (skip, [])
  | some v => (false, [⟨.notTruthValue v.typeName, place⟩])

/-- A default, and what is wrong with it. Numbers are taken as they are shown. -/
def checkDefault (place : String) : Option Value → Option String × List Problem
  | none => (none, [])
  | some .null => (none, [])
  | some (.text text) => (some text, [])
  | some (.integer n) => (some (Value.integer n).shown, [])
  | some (.real x) => (some (Value.real x).shown, [])
  | some v => (none, [⟨.badDefault v.typeName, place⟩])

/-- A definition, and what is wrong with it. -/
def checkDefinition (place : String) (entries : List (Value × Value)) :
    Definition × List Problem :=
  let (transform, problems₁) := checkTransform place (Value.field? "transform" entries)
  let (skip, problems₂) := checkSkip place (Value.field? "skipIfDefined" entries)
  let (default, problems₃) := checkDefault place (Value.field? "default" entries)
  (⟨transform.map Prod.fst, skip, default, (transform.map Prod.snd).getD []⟩,
    unknownFields definitionFields place entries ++ problems₁ ++ problems₂ ++ problems₃)

/-- The key of a table that a value stands for. -/
def keyOf : Value → Key
  | .text name => .ofName name
  | v => ⟨v.shown, some v.typeName⟩

/-- The place of the definition with a given key. -/
def tablePlace (key : Value) : String := "variableTransform." ++ key.shown

/-- An entry of the table, and what is wrong with it. -/
def checkEntry (key value : Value) : Option (Key × Definition) × List Problem :=
  match VariableName.fault? key.shown, value with
  | some fault, _ => (none, [⟨.badName key.shown fault, tablePlace key⟩])
  | none, .mapping entries =>
    let (definition, problems) := checkDefinition (tablePlace key) entries
    (some (keyOf key, definition), problems)
  | none, _ => (none, [⟨.definitionNotMapping, tablePlace key⟩])

/-- The table of transforms, and what is wrong with it. -/
def checkTable : Option Value → Table × List Problem
  | none => (.empty, [])
  | some (.mapping entries) =>
    let checked := entries.map fun (key, value) ↦ checkEntry key value
    (⟨checked.filterMap Prod.fst⟩, checked.flatMap Prod.snd)
  | some _ => (.empty, [⟨.tableNotMapping, ""⟩])

/-- The values of an entry of the table that have to be shown while it is checked. -/
def shownInEntry (key value : Value) : List Value :=
  key ::
    match VariableName.fault? key.shown, value with
    | none, .mapping entries =>
      (Value.field? "default" entries).toList ++ unknownKeys definitionFields entries
    | _, _ => []

/-- The values that have to be shown while a configuration is checked. -/
def shownValues (entries : List (Value × Value)) : List Value :=
  unknownKeys fields entries ++
    match Value.field? "variableTransform" entries with
    | some (.mapping table) => table.flatMap fun (key, value) ↦ shownInEntry key value
    | _ => []

/-- A number among the values has more digits than are written. -/
def isUnwritableNumber : Value → Bool
  | .integer n => (Value.integer n).isUnwritable
  | _ => false

/-- The configuration that a value says, read from the given file. -/
def ofValue (source : Option String) : Value → Except ConfigError Config
  | .mapping entries =>
    if (shownValues entries).any isUnwritableNumber then .error .unwritable
    else
      let (name, problems₁) := checkName (Value.field? "name" entries)
      let (wrappers, problems₂) := checkWrappers entries
      let (table, problems₃) := checkTable (Value.field? "variableTransform" entries)
      match unknownFields fields "" entries ++ problems₁ ++ problems₂ ++ problems₃ with
      | [] =>
        match table.problem? with
        | some problem => .error (.invalid [problem])
        | none => .ok ⟨name, wrappers, table, source⟩
      | problems => .error (.invalid problems)
  | _ => .error (.invalid [⟨.notMapping, ""⟩])

end Config

end Scaffold
