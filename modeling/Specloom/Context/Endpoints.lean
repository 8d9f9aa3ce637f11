import Specloom.Context.Imports
import Specloom.Datatype.Texts
import Specloom.Path.Url

/-!
# What the files of endpoints show

Each endpoint is a method of a handler interface, a function that fetches, and in both languages a
function that builds its URL.

## Main definitions

* `EndpointsSection`, `EndpointView`: the endpoints of a module as the templates see them
-/

namespace Specloom

open Template

instance : ToValue TypeTexts := ⟨fun t => .record [
  ("go", toValue t.go),
  ("ts", toValue t.ts)]⟩

/-- An endpoint as the templates see it. -/
structure EndpointView where
  name : String
  nameUpper : String
  method : String
  pathRaw : String
  /-- The path without the query, under which the handler is registered. -/
  registrationPath : String
  chain : String
  description : String
  consumes : Option TypeTexts
  produces : Option TypeTexts
  goArgs : String
  goUrl : String
  goHandlerSignature : String
  goHandlerCallArgs : String
  tsArgs : String
  tsResult : String
  tsUrlArgs : String
  tsPath : String
deriving DecidableEq, Repr

instance : ToValue EndpointView := ⟨fun e => .record [
  ("name", toValue e.name),
  ("name_upper", toValue e.nameUpper),
  ("method", toValue e.method),
  ("path_raw", toValue e.pathRaw),
  ("registration_path", toValue e.registrationPath),
  ("chain", toValue e.chain),
  ("description", toValue e.description),
  ("consumes", toValue e.consumes),
  ("produces", toValue e.produces),
  ("go_args", toValue e.goArgs),
  ("go_url", toValue e.goUrl),
  ("go_handler_signature", toValue e.goHandlerSignature),
  ("go_handler_call_args", toValue e.goHandlerCallArgs),
  ("ts_args", toValue e.tsArgs),
  ("ts_result", toValue e.tsResult),
  ("ts_url_args", toValue e.tsUrlArgs),
  ("ts_path", toValue e.tsPath)]⟩

namespace Endpoint

/-- The parameters of the URL in Go. -/
def goArgs (e : Endpoint) : List String :=
  e.path.allPlaceholders.map (· ++ " string")

/-- The parameters of the URL in TypeScript. -/
def tsUrlArgs (e : Endpoint) : List String :=
  e.path.allPlaceholders.map (· ++ ": string")

/-- The parameters of the function that fetches: those of the URL, and the body last. -/
def tsArgs (e : Endpoint) : List String :=
  e.tsUrlArgs ++ (e.consumes.map fun t => "body: " ++ t.ts).toList

/-- The method of the handler interface. -/
def handlerSignature (e : Endpoint) : String :=
  let input := match e.consumes with
    | some t => "input " ++ t.go ++ ", "
    | none => ""
  let output := match e.produces with
    | some t => " *" ++ t.go
    | none => ""
  Name.upperFirst e.name ++ "(rctx *httpauth.RequestContext, " ++ input ++
    "w http.ResponseWriter, r *http.Request)" ++ output

/-- What the templates see of an endpoint. -/
def view (e : Endpoint) : EndpointView where
  name := e.name
  nameUpper := Name.upperFirst e.name
  method := e.method.name
  pathRaw := e.path.raw
  registrationPath := e.path.path
  chain := e.chain
  description := e.description
  consumes := e.consumes.map Datatype.texts
  produces := e.produces.map Datatype.texts
  goArgs := ", ".intercalate e.goArgs
  goUrl := Path.goUrl e.path
  goHandlerSignature := e.handlerSignature
  goHandlerCallArgs := if e.consumes.isSome then "rctx, *input, w, r" else "rctx, w, r"
  tsArgs := ", ".intercalate e.tsArgs
  tsResult := (e.produces.map Datatype.ts).getD "void"
  tsUrlArgs := ", ".intercalate e.tsUrlArgs
  tsPath := Path.tsUrl e.path

end Endpoint

/-- The endpoints of a module as the templates see them. -/
structure EndpointsSection where
  imports : ImportNeeds
  modules : List ModuleImport
  /-- Whether a URL has a placeholder, so that a value is escaped. -/
  usesUrlEscape : Bool
  endpoints : List EndpointView
deriving Repr

instance : ToValue EndpointsSection := ⟨fun s => .record [
  ("imports", toValue s.imports),
  ("modules", toValue s.modules),
  ("uses_url_escape", toValue s.usesUrlEscape),
  ("endpoints", toValue s.endpoints)]⟩

/-- What a file that shows the endpoints has to import. -/
def Module.endpointNeeds (m : Module) : ImportNeeds :=
  .ofTypes (flatten (m.endpoints.flatMap Endpoint.types))

/-- What the templates see of the endpoints of a module. -/
def Module.endpointsSection (m : Module) (run : List Module) (config : Config) :
    EndpointsSection where
  imports := m.endpointNeeds
  modules := moduleImports run config m.endpointNeeds.modules
  usesUrlEscape := m.endpoints.any fun e => !e.path.allPlaceholders.isEmpty
  endpoints := m.endpoints.map Endpoint.view

end Specloom
