import Specloom.Command.Rule
import Specloom.Datatype.Texts
import Specloom.Error
import Specloom.Regex.Match

/-!
# Compiled commands

A command is compiled once: every regular expression is read and every field gets its types in both
languages. A compiled command checks payloads, and its rules are written as the body of a Go method
that checks the same.

## Main definitions

* `CompiledCommand`, `Command.compile`: a compiled command
* `CompiledCommand.validate`: checks a payload
* `CompiledCommand.goValidation`: the checks as Go statements
-/

namespace Specloom

/-- The types of a field in both languages. A date with a time has none. -/
def CommandField.texts? (f : CommandField) : Option TypeTexts :=
  match f.type with
  | .text | .multiline | .password | .custom .string => some ⟨"string", "string"⟩
  | .checkbox => some ⟨"bool", "boolean"⟩
  | .integer | .custom .integer => some ⟨"int", "number"⟩
  | .date => some ⟨"guts.Date", "dateRFC3339"⟩
  | .datetime => none
  | .custom (.enum ref) =>
    some ⟨ref.qualified, if f.optional then ref.qualified ++ " | null" else ref.qualified⟩
  | .custom (.struct ref) => some ⟨"*" ++ ref.qualified, ref.qualified⟩

/-- A field with its rules, its types and its regular expression. -/
structure CompiledField where
  field : CommandField
  types : TypeTexts
  pattern : Option Regex.Pattern

/-- A command with its fields compiled. -/
structure CompiledCommand where
  command : Command
  fields : List CompiledField

/-- The types of a field, which must have them. -/
def Command.fieldTexts (module : String) (c : Command) (f : CommandField) :
    Except Error TypeTexts :=
  match f.texts? with
  | some texts => .ok texts
  | none => .error (.unmappedFieldType module c.key f.key f.type.tag)

/-- The pattern of a field, if it has one. -/
def Command.fieldPattern (module : String) (c : Command) (f : CommandField) :
    Except Error (Option Regex.Pattern) :=
  match f.validationRegex with
  | none => .ok none
  | some source =>
    match Regex.Pattern.compile source with
    | .ok pattern => .ok (some pattern)
    | .error fault => .error (.invalidRegex module (.commandField c.key f.key) fault)

/-- Compiles a field: its regular expression first. -/
def Command.compileField (module : String) (c : Command) (f : CommandField) :
    Except Error CompiledField := do
  let pattern ← c.fieldPattern module f
  let types ← c.fieldTexts module f
  return ⟨f, types, pattern⟩

/-- Compiles a command, field by field. -/
def Command.compile (module : String) (c : Command) : Except Error CompiledCommand := do
  return ⟨c, ← c.fields.mapM (c.compileField module)⟩

/-- The name of the struct of a command. -/
def Command.structName (c : Command) : String :=
  Name.ofKey c.key

/-- The name of the struct field of a field. -/
def CommandField.goName (f : CommandField) : String :=
  Name.upperFirst f.key

/-- Whether a field is an argument of the constructor. -/
def Command.isArg (c : Command) (key : String) : Bool :=
  c.args.contains key

namespace CompiledField

/-- Whether a text matches the regular expression of the field, if it has one. -/
def isMatch (f : CompiledField) (text : String) : Bool :=
  f.pattern.all (·.isMatch text)

/-- Checks the value of a field, rule by rule. -/
def check (f : CompiledField) (value : Option Json.Node) : Except FieldFault Unit :=
  f.field.rules.forM (Rule.check f.field.key f.isMatch value)

end CompiledField

namespace CompiledCommand

/-- Checks a payload, field by field. What is no object has no members. -/
def validate (c : CompiledCommand) (payload : Json.Node) : Except FieldFault Unit :=
  c.fields.forM fun f => f.check (payload.member? f.field.key)

/-- The name of the variable that holds the regular expression of a field. -/
def regexpName (c : CompiledCommand) (f : CommandField) : String :=
  Name.lowerFirst c.command.structName ++ f.goName ++ "Regexp"

end CompiledCommand

/-- An `if` statement of Go that returns an error, one level deep in a method. -/
def goCheck (condition result : String) : String :=
  "if " ++ condition ++ " \x7b\n\t\treturn " ++ result ++ "\n\t\x7d"

/-- A rule as a Go statement on the value at `access`; `regexp` is the variable that holds the
regular expression. -/
def Rule.goCheck (access key regexp : String) : Rule → String
  | .nonEmpty object =>
    Specloom.goCheck (access ++ " == " ++ if object then "nil" else "\"\"")
      ("fieldEmptyValidationError(\"" ++ key ++ "\")")
  | .maxLength limit =>
    let length := "utf8.RuneCountInString(" ++ access ++ ")"
    Specloom.goCheck (length ++ " > " ++ toString limit)
      ("fieldLengthValidationError(\"" ++ key ++ "\", " ++ toString limit ++ ", " ++ length ++ ")")
  | .pattern source =>
    Specloom.goCheck (access ++ " != \"\" && !" ++ regexp ++ ".MatchString(" ++ access ++ ")")
      ("fieldPatternValidationError(\"" ++ key ++ "\", " ++
        Text.QuoteStyle.double.literal source ++ ")")
  | .singleLine =>
    Specloom.goCheck ("strings.ContainsAny(" ++ access ++ ", \"\\r\\n\")")
      ("noNewlinesValidationError(\"" ++ key ++ "\")")

/-- The rules of all fields as Go statements, in order. -/
def CompiledCommand.goValidation (c : CompiledCommand) : String :=
  "\n\t".intercalate <| c.fields.flatMap fun f =>
    f.field.rules.map (Rule.goCheck ("x." ++ f.field.goName) f.field.key (c.regexpName f.field))

end Specloom
