import Specloom.Json.Decode

/-!
# The document of UI routes

A document of UI routes is a list of routes with their query parameters.

## Main definitions

* `UiRouteDoc`, `QueryParamDoc`: a route and a parameter, each with its record
-/

namespace Specloom.Document

open Json

/-- A query parameter of a route. -/
structure QueryParamDoc where
  key : String
  type : String
  nullable : Bool
deriving DecidableEq, Repr

/-- A route of the frontend. -/
structure UiRouteDoc where
  id : String
  path : String
  query : List QueryParamDoc
deriving DecidableEq, Repr

/-- The fields of a query parameter. -/
def QueryParamDoc.record : Record QueryParamDoc where
  name := "QueryParamDoc"
  types := [String, String, Bool]
  fields :=
    .cons (.required "key" .string) <|
    .cons (.default "type" .string "") <|
    .cons (.default "nullable" .bool false) .nil
  make := fun (key, type, nullable, ()) => ⟨key, type, nullable⟩

/-- The fields of a route. -/
def UiRouteDoc.record : Record UiRouteDoc where
  name := "UiRouteDoc"
  types := [String, String, List QueryParamDoc]
  fields :=
    .cons (.required "id" .string) <|
    .cons (.required "path" .string) <|
    .cons (.default "query" (.list QueryParamDoc.record.decode) []) .nil
  make := fun (id, path, query, ()) => ⟨id, path, query⟩

end Specloom.Document
