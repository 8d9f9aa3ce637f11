import Specloom.Command.Basic
import Specloom.Enum
import Specloom.Route.Basic

/-!
# Modules

A module is what the documents of one directory declare: types, enums, string constants, REST
endpoints, events, commands and routes of the frontend. References are resolved against the modules
of a run.

## Main definitions

* `Module`, and `NamedType`, `StringConst`, `Endpoint`, `Event` in it
* `Module.target?`: what a name stands for in a module
* `Module.resolve?`: what a reference stands for
-/

namespace Specloom

/-- A named type. -/
structure NamedType where
  name : String
  type : Datatype
deriving Repr

/-- A string constant. -/
structure StringConst where
  key : String
  value : String
deriving DecidableEq, Repr

/-- The methods of HTTP that endpoints use. -/
inductive HttpMethod where
  | get | post | put | patch | delete
deriving DecidableEq, Repr

/-- The name of a method. -/
def HttpMethod.name : HttpMethod → String
  | .get => "GET"
  | .post => "POST"
  | .put => "PUT"
  | .patch => "PATCH"
  | .delete => "DELETE"

/-- The method with a name, in which the case of ASCII letters does not matter. -/
def HttpMethod.ofName? (name : String) : Option HttpMethod :=
  [.get, .post, .put, .patch, .delete].find? fun m =>
    m.name.toList == name.toList.map Char.toUpper

/-- A REST endpoint. -/
structure Endpoint where
  name : String
  method : HttpMethod
  path : Path.PathTemplate
  chain : String
  consumes : Option Datatype
  produces : Option Datatype
  description : String
deriving Repr

/-- The datatypes of an endpoint: what it consumes, then what it produces. -/
def Endpoint.types (e : Endpoint) : List Datatype :=
  e.consumes.toList ++ e.produces.toList

/-- A field of an event. -/
structure EventField where
  key : String
  type : Datatype
  notes : String
deriving Repr

/-- An event. -/
structure Event where
  key : String
  fields : List EventField
  changelog : List String
deriving Repr

/-- Which documents a module has. -/
structure Presence where
  types : Bool
  events : Bool
  commands : Bool
  uiRoutes : Bool
deriving DecidableEq, Repr

/-- Whether a module has a document. -/
def Presence.any (p : Presence) : Bool :=
  p.types || p.events || p.commands || p.uiRoutes

/-- A module. -/
structure Module where
  id : String
  path : String
  present : Presence
  types : List NamedType
  enums : List EnumDecl
  stringConsts : List StringConst
  endpoints : List Endpoint
  events : List Event
  commands : List Command
  uiRoutes : List Route.UiRoute
deriving Repr

/-- What a reference can stand for. -/
inductive Target where
  | enum | struct
deriving DecidableEq, Repr

namespace Module

/-- The datatypes of the types document: those of the named types, then those of the endpoints. -/
def datatypes (m : Module) : List Datatype :=
  m.types.map (·.type) ++ m.endpoints.flatMap Endpoint.types

/-- What a name stands for in a module. -/
def target? (m : Module) (name : String) : Option Target :=
  if m.enums.any (·.name == name) then some .enum
  else if m.types.any (·.name == name) then some .struct
  else none

/-- What a reference in a module stands for, given the modules of the run. -/
def resolve? (m : Module) (run : List Module) (ref : TypeRef) : Option Target :=
  match ref.owner with
  | none => m.target? ref.name
  | some owner => (run.find? (·.id == owner)).bind (·.target? ref.name)

end Module

end Specloom
