import Specloom.Json.Decode

/-!
# The commands document

A commands document is a list of commands with their fields.

## Main definitions

* `CommandDoc`, `CommandFieldDoc`: a command and a field, each with its record
-/

namespace Specloom.Document

open Json

/-- A field of a command. -/
structure CommandFieldDoc where
  key : String
  title : String
  type : String
  unit : String
  validationRegex : String
  maxLength : Option Nat
  optional : Bool
  hideIfDefaultValue : Bool
  help : String
  placeholder : String
deriving DecidableEq, Repr

/-- A command. -/
structure CommandDoc where
  command : String
  title : String
  crudNature : String
  additionalConfirmation : String
  chain : String
  ctor : List String
  fields : List CommandFieldDoc
  info : List String
deriving DecidableEq, Repr

/-- The fields of a field of a command. -/
def CommandFieldDoc.record : Record CommandFieldDoc where
  name := "CommandFieldDoc"
  types :=
    [String, String, String, String, String, Option Nat, Bool, Bool, String, String]
  fields :=
    .cons (.required "key" .string) <|
    .cons (.default "title" .string "") <|
    .cons (.default "type" .string "") <|
    .cons (.default "unit" .string "") <|
    .cons (.default "validation_regex" .string "") <|
    .cons (.default "max_length" (.option .natural) none) <|
    .cons (.default "optional" .bool false) <|
    .cons (.default "hideIfDefaultValue" .bool false) <|
    .cons (.default "help" .string "") <|
    .cons (.default "placeholder" .string "") .nil
  make := fun (key, title, type, unit, regex, maxLength, optional, hide, help, placeholder, ()) =>
    ⟨key, title, type, unit, regex, maxLength, optional, hide, help, placeholder⟩

/-- The fields of a command. -/
def CommandDoc.record : Record CommandDoc where
  name := "CommandDoc"
  types :=
    [String, String, String, String, String, List String, List CommandFieldDoc, List String]
  fields :=
    .cons (.required "command" .string) <|
    .cons (.required "title" .string) <|
    .cons (.required "crudNature" .string) <|
    .cons (.default "additional_confirmation" .string "") <|
    .cons (.required "chain" .string) <|
    .cons (.default "ctor" (.list .string) []) <|
    .cons (.default "fields" (.list CommandFieldDoc.record.decode) []) <|
    .cons (.default "info" (.list .string) []) .nil
  make := fun (command, title, crudNature, confirmation, chain, ctor, fields, info, ()) =>
    ⟨command, title, crudNature, confirmation, chain, ctor, fields, info⟩

end Specloom.Document
