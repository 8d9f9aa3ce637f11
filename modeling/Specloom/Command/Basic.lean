import Specloom.Datatype.Basic

/-!
# Commands

A command has a dotted key, fields with types of their own, and the arguments of its constructor,
which are fields.

## Main definitions

* `Command`, `CommandField`: a command and a field
* `FieldType`, `CustomType`: the type of a field
* `FieldType.ofTag?`, `FieldType.tag`: the types that have a tag, and the tag of a type
* `CrudNature`: what a command does to its object
-/

namespace Specloom

/-- What a command does to its object. -/
inductive CrudNature where
  | create | update | delete
deriving DecidableEq, Repr

/-- The name in documents and in generated code. -/
def CrudNature.name : CrudNature → String
  | .create => "create"
  | .update => "update"
  | .delete => "delete"

/-- The nature with a given name. -/
def CrudNature.ofName? (name : String) : Option CrudNature :=
  [.create, .update, .delete].find? (·.name == name)

/-- A type that is not built in: a widget of the frontend, or a type of a module. -/
inductive CustomType where
  | string
  | integer
  | enum (ref : TypeRef)
  | struct (ref : TypeRef)
deriving DecidableEq, Repr

/-- The type of a field of a command. -/
inductive FieldType where
  | text | multiline | password | checkbox | integer | date | datetime
  | custom (c : CustomType)
deriving DecidableEq, Repr

namespace FieldType

/-- The tag of a type in documents. -/
def tag : FieldType → String
  | .text => "text"
  | .multiline => "multiline"
  | .password => "password"
  | .checkbox => "checkbox"
  | .integer => "integer"
  | .date => "date"
  | .datetime => "datetime"
  | .custom .string => "custom/string"
  | .custom .integer => "custom/integer"
  | .custom (.enum ref) | .custom (.struct ref) => ref.qualified

/-- The types with a tag of their own. -/
def builtin : List FieldType :=
  [.text, .multiline, .password, .checkbox, .integer, .date, .datetime, .custom .string,
    .custom .integer]

/-- The built-in type with a given tag; the empty tag means a text. -/
def ofTag? (tag : String) : Option FieldType :=
  if tag = "" then some .text else builtin.find? (·.tag == tag)

/-- Whether values of the type are texts on one line. -/
def isSingleLine : FieldType → Bool
  | .text | .password => true
  | _ => false

/-- The reference that the type is. -/
def reference? : FieldType → Option TypeRef
  | .custom (.enum ref) | .custom (.struct ref) => some ref
  | _ => none

end FieldType

/-- A field of a command. -/
structure CommandField where
  key : String
  title : String
  type : FieldType
  unit : Option String
  validationRegex : Option String
  maxLength : Option Nat
  optional : Bool
  hideIfDefaultValue : Bool
  help : String
  placeholder : String
deriving DecidableEq, Repr

/-- A command. -/
structure Command where
  key : String
  title : String
  nature : CrudNature
  /-- A question to answer before the command is sent. -/
  confirmation : Option String
  /-- The name of the middleware chain that guards the command. -/
  chain : String
  /-- The arguments of the constructor, which name fields. -/
  args : List String
  fields : List CommandField
  info : List String
deriving DecidableEq, Repr

end Specloom
