import Specloom.Document.Datatype

/-!
# The types document

A types document declares named types, enums, string constants and REST endpoints.

## Main definitions

* `TypesDoc` and the documents in it, each with its record
-/

namespace Specloom.Document

open Json

/-- A named type. -/
structure NamedTypeDoc where
  name : String
  type : DatatypeDoc
deriving Repr

/-- An enum with its member values. -/
structure EnumDoc where
  name : String
  members : List String
deriving DecidableEq, Repr

/-- A string constant. -/
structure StringConstDoc where
  key : String
  value : String
deriving DecidableEq, Repr

/-- A REST endpoint. -/
structure EndpointDoc where
  name : String
  method : String
  path : String
  chain : String
  consumes : Option DatatypeDoc
  produces : Option DatatypeDoc
  description : String
deriving Repr

/-- A types document. -/
structure TypesDoc where
  types : List NamedTypeDoc
  enums : List EnumDoc
  stringConsts : List StringConstDoc
  endpoints : List EndpointDoc
deriving Repr

/-- The fields of a named type. -/
def NamedTypeDoc.record : Record NamedTypeDoc where
  name := "NamedTypeDoc"
  types := [String, DatatypeDoc]
  fields := .cons (.required "name" .string) <| .cons (.required "type" DatatypeDoc.decode) .nil
  make := fun (name, type, ()) => ⟨name, type⟩

/-- The fields of an enum. -/
def EnumDoc.record : Record EnumDoc where
  name := "EnumDoc"
  types := [String, List String]
  fields := .cons (.required "name" .string) <| .cons (.required "members" (.list .string)) .nil
  make := fun (name, members, ()) => ⟨name, members⟩

/-- The fields of a string constant. -/
def StringConstDoc.record : Record StringConstDoc where
  name := "StringConstDoc"
  types := [String, String]
  fields := .cons (.required "key" .string) <| .cons (.required "value" .string) .nil
  make := fun (key, value, ()) => ⟨key, value⟩

/-- The fields of an endpoint. -/
def EndpointDoc.record : Record EndpointDoc where
  name := "EndpointDoc"
  types := [String, String, String, String, Option DatatypeDoc, Option DatatypeDoc, String]
  fields :=
    .cons (.required "name" .string) <|
    .cons (.required "method" .string) <|
    .cons (.required "path" .string) <|
    .cons (.required "chain" .string) <|
    .cons (.default "consumes" (.option DatatypeDoc.decode) none) <|
    .cons (.default "produces" (.option DatatypeDoc.decode) none) <|
    .cons (.default "description" .string "") .nil
  make := fun (name, method, path, chain, consumes, produces, description, ()) =>
    ⟨name, method, path, chain, consumes, produces, description⟩

/-- The fields of a types document. -/
def TypesDoc.record : Record TypesDoc where
  name := "TypesDocument"
  types := [List NamedTypeDoc, List EnumDoc, List StringConstDoc, List EndpointDoc]
  fields :=
    .cons (.default "types" (.list NamedTypeDoc.record.decode) []) <|
    .cons (.default "enums" (.list EnumDoc.record.decode) []) <|
    .cons (.default "stringConsts" (.list StringConstDoc.record.decode) []) <|
    .cons (.default "endpoints" (.list EndpointDoc.record.decode) []) .nil
  make := fun (types, enums, stringConsts, endpoints, ()) =>
    ⟨types, enums, stringConsts, endpoints⟩

end Specloom.Document
