import Specloom.Command.Widget
import Specloom.Context.Imports

/-!
# What the files of commands show

Each command is a struct that checks itself, and a function of the frontend that describes the form
for it. The files import what the rules, the types and the constructors of all commands need.

## Main definitions

* `CommandsSection`, `CommandView`: the commands of a module as the templates see them
* `CommandNeeds`: what the files of commands have to import
-/

namespace Specloom

open Template

/-- A field of a command struct. -/
structure GoFieldView where
  name : String
  goType : String
  key : String
deriving DecidableEq, Repr

instance : ToValue GoFieldView := ⟨fun f => .record [
  ("name", toValue f.name),
  ("go_type", toValue f.goType),
  ("key", toValue f.key)]⟩

/-- A variable that holds a regular expression, and its source as a literal. -/
structure RegexpView where
  var : String
  pattern : String
deriving DecidableEq, Repr

instance : ToValue RegexpView := ⟨fun r => .record [
  ("var", toValue r.var),
  ("pattern", toValue r.pattern)]⟩

/-- A field as the documentation shows it. -/
structure DocFieldView where
  key : String
  typeTag : String
  required : Bool
  help : String
deriving DecidableEq, Repr

instance : ToValue DocFieldView := ⟨fun f => .record [
  ("key", toValue f.key),
  ("type_tag", toValue f.typeTag),
  ("required", toValue f.required),
  ("help", toValue f.help)]⟩

/-- A command as the templates see it. -/
structure CommandView where
  key : String
  structName : String
  title : String
  crudNature : String
  confirmation : Option String
  chain : String
  info : List String
  goFields : List GoFieldView
  goValidation : String
  regexps : List RegexpView
  tsCtorArgs : String
  tsFields : List String
  docFields : List DocFieldView
deriving DecidableEq, Repr

instance : ToValue CommandView := ⟨fun c => .record [
  ("key", toValue c.key),
  ("struct_name", toValue c.structName),
  ("title", toValue c.title),
  ("crud_nature", toValue c.crudNature),
  ("additional_confirmation", toValue c.confirmation),
  ("chain", toValue c.chain),
  ("info", toValue c.info),
  ("go_fields", toValue c.goFields),
  ("go_validation", toValue c.goValidation),
  ("regexps", toValue c.regexps),
  ("ts_ctor_args", toValue c.tsCtorArgs),
  ("ts_fields", toValue c.tsFields),
  ("doc_fields", toValue c.docFields)]⟩

/-! ### One command -/

/-- The regular expressions among the rules of the fields, in order. -/
def CompiledCommand.regexps (c : CompiledCommand) : List RegexpView :=
  c.fields.flatMap fun f => f.field.rules.filterMap fun
    | .pattern source =>
      some ⟨c.regexpName f.field, Text.QuoteStyle.double.literal source⟩
    | _ => none

/-- The parameters of the frontend's function: the arguments with the types of their fields. -/
def CompiledCommand.tsArgs (c : CompiledCommand) : List String :=
  c.command.args.filterMap fun arg =>
    (c.fields.find? (·.field.key == arg)).map fun f => arg ++ ": " ++ f.types.ts

/-- What the documentation shows of a field. -/
def CommandField.docView (f : CommandField) : DocFieldView where
  key := f.key
  typeTag := f.type.tag
  required := !f.optional
  help := f.help

/-- What the templates see of a command. -/
def Command.view (module : String) (c : Command) : Except Error CommandView := do
  let compiled ← c.compile module
  let widgets ← c.fields.mapM (c.widget module)
  return {
    key := c.key
    structName := c.structName
    title := c.title
    crudNature := c.nature.name
    confirmation := c.confirmation
    chain := c.chain
    info := c.info
    goFields := compiled.fields.map fun f => ⟨f.field.goName, f.types.go, f.field.key⟩
    goValidation := compiled.goValidation
    regexps := compiled.regexps
    tsCtorArgs := ", ".intercalate compiled.tsArgs
    tsFields := widgets.map Widget.typescript
    docFields := c.fields.map CommandField.docView }

/-! ### Imports -/

/-- What the files of commands have to import. -/
structure CommandNeeds where
  date : Bool
  regexp : Bool
  strings : Bool
  utf8 : Bool
  /-- The modules that struct fields refer to, in order. -/
  goModules : List String
  /-- Whether a date is a parameter in the frontend. -/
  tsDate : Bool
  /-- The types of the own module among the parameters in the frontend, in order. -/
  tsLocalTypes : List String
  /-- The modules of types among the parameters in the frontend, in order. -/
  tsModules : List String
deriving DecidableEq, Repr

instance : ToValue CommandNeeds := ⟨fun n => .record [
  ("date", toValue n.date),
  ("regexp", toValue n.regexp),
  ("strings", toValue n.strings),
  ("utf8", toValue n.utf8),
  ("go_module_ids", toValue n.goModules),
  ("ts_date", toValue n.tsDate),
  ("ts_local_types", toValue n.tsLocalTypes),
  ("ts_module_ids", toValue n.tsModules)]⟩

/-- Whether a rule checks a length. -/
def Rule.isMaxLength : Rule → Bool
  | .maxLength _ => true
  | _ => false

/-- Whether a rule matches a regular expression. -/
def Rule.isPattern : Rule → Bool
  | .pattern _ => true
  | _ => false

/-- What the files of some commands have to import. -/
def CommandNeeds.ofCommands (commands : List Command) : CommandNeeds :=
  let fields := commands.flatMap (·.fields)
  let rules := fields.flatMap (·.rules)
  let args := commands.flatMap fun c => c.fields.filter fun f => c.isArg f.key
  let argRefs := args.filterMap (·.type.reference?)
  { date := fields.any (·.type == .date)
    regexp := rules.any Rule.isPattern
    strings := rules.contains .singleLine
    utf8 := rules.any Rule.isMaxLength
    goModules := sortedTexts (fields.filterMap fun f => f.type.reference?.bind (·.owner))
    tsDate := args.any (·.type == .date)
    tsLocalTypes := sortedTexts ((argRefs.filter (·.owner.isNone)).map (·.name))
    tsModules := sortedTexts (argRefs.filterMap (·.owner)) }

/-! ### All commands -/

/-- The commands of a module as the templates see them. -/
structure CommandsSection where
  imports : CommandNeeds
  goModules : List ModuleImport
  tsModules : List ModuleImport
  commands : List CommandView
deriving Repr

instance : ToValue CommandsSection := ⟨fun s => .record [
  ("imports", toValue s.imports),
  ("go_modules", toValue s.goModules),
  ("ts_modules", toValue s.tsModules),
  ("commands", toValue s.commands)]⟩

/-- What the templates see of the commands of a module. -/
def Module.commandsSection (m : Module) (run : List Module) (config : Config) :
    Except Error CommandsSection := do
  let needs := CommandNeeds.ofCommands m.commands
  return {
    imports := needs
    goModules := moduleImports run config needs.goModules
    tsModules := moduleImports run config needs.tsModules
    commands := ← m.commands.mapM (Command.view m.id) }

end Specloom
