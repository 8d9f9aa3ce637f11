import Specloom.Command.Compiled

/-!
# Widgets

The frontend shows each field of a command by a widget, described by an object literal.

## Main definitions

* `WidgetKind`: the kinds of widgets
* `Widget`, `Command.widget`: the description of a widget
* `Widget.typescript`: the description as TypeScript
-/

namespace Specloom

open Text

/-- The kinds of widgets. -/
inductive WidgetKind where
  | text | multiline | password | checkbox | integer | date | customString | customNumber | any
deriving DecidableEq, Repr

/-- The name of a kind in the frontend. -/
def WidgetKind.name : WidgetKind → String
  | .text => "Text"
  | .multiline => "Multiline"
  | .password => "Password"
  | .checkbox => "Checkbox"
  | .integer => "Integer"
  | .date => "Date"
  | .customString => "CustomString"
  | .customNumber => "CustomNumber"
  | .any => "Any"

/-- The widget of a type. Enums are entered as text; a date with a time has no widget. -/
def FieldType.widgetKind? : FieldType → Option WidgetKind
  | .text => some .text
  | .multiline => some .multiline
  | .password => some .password
  | .checkbox => some .checkbox
  | .integer => some .integer
  | .date => some .date
  | .datetime => none
  | .custom .string => some .customString
  | .custom .integer => some .customNumber
  | .custom (.enum _) => some .text
  | .custom (.struct _) => some .any

/-- The property of the description that holds the default value. -/
def WidgetKind.defaultSlot : WidgetKind → String
  | .checkbox => "DefaultValueBoolean"
  | .integer | .customNumber => "DefaultValueNumber"
  | _ => "DefaultValueString"

/-- The description of a widget. -/
structure Widget where
  key : String
  title : String
  kind : WidgetKind
  required : Bool
  hideIfDefaultValue : Bool
  /-- An expression: an argument of the constructor, `false` or `undefined`. -/
  defaultValue : String
  unit : Option String
  help : String
  placeholder : String
  validationRegex : Option String
deriving DecidableEq, Repr

/-- The default value of a field, as an expression. -/
def Command.defaultValue (c : Command) (key : String) (kind : WidgetKind) : String :=
  if c.isArg key then key else if kind = .checkbox then "false" else "undefined"

/-- The widget of a field. -/
def Command.widget (module : String) (c : Command) (f : CommandField) : Except Error Widget :=
  match f.type.widgetKind? with
  | none => .error (.noWidget module c.key f.key f.type.tag)
  | some kind => .ok {
      key := f.key
      title := f.title
      kind := kind
      required := !f.optional
      hideIfDefaultValue := f.hideIfDefaultValue
      defaultValue := c.defaultValue f.key kind
      unit := f.unit
      help := f.help
      placeholder := f.placeholder
      validationRegex := f.validationRegex }

/-- A text as a TypeScript literal, or `null`. -/
def tsLiteralOrNull (s : Option String) : String :=
  (s.map QuoteStyle.single.literal).getD "null"

/-- A truth value in TypeScript. -/
def tsBool (b : Bool) : String :=
  if b then "true" else "false"

/-- The description as an object literal, with the comma that ends it in a list. -/
def Widget.typescript (w : Widget) : String :=
  let quote := QuoteStyle.single.literal
  let properties : List (String × String) := [
    ("Key", quote w.key),
    ("Title", quote w.title),
    ("Required", tsBool w.required),
    ("HideIfDefaultValue", tsBool w.hideIfDefaultValue),
    ("Kind", "CommandFieldKind." ++ w.kind.name),
    (w.kind.defaultSlot, w.defaultValue),
    ("Help", quote w.help),
    ("Placeholder", quote w.placeholder),
    ("Unit", tsLiteralOrNull w.unit),
    ("ValidationRegex", tsLiteralOrNull w.validationRegex)]
  "\x7b " ++ ", ".intercalate (properties.map fun p => p.1 ++ ": " ++ p.2) ++ " \x7d,"

end Specloom
