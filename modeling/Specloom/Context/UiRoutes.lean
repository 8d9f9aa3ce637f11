import Specloom.Context.Imports
import Specloom.Path.Url
import Specloom.Route.Pattern

/-!
# What the files of routes show

Each route is a case of a union in the frontend, with a function that builds its URL and one that
matches it.

## Main definitions

* `UiRoutesSection`, `UiRouteView`: the routes of a module as the templates see them
-/

namespace Specloom

open Template

namespace Route

/-- A placeholder and the group of the regular expression that captures it. -/
structure PlaceholderView where
  name : String
  group : Nat
deriving DecidableEq, Repr

instance : ToValue PlaceholderView := ⟨fun p => .record [
  ("name", toValue p.name),
  ("group", toValue p.group)]⟩

/-- A query parameter with the function of the frontend that decodes it. -/
structure QueryView where
  key : String
  integer : Bool
  nullable : Bool
  tsType : String
  decoder : String
deriving DecidableEq, Repr

instance : ToValue QueryView := ⟨fun q => .record [
  ("key", toValue q.key),
  ("integer", toValue q.integer),
  ("nullable", toValue q.nullable),
  ("ts_type", toValue q.tsType),
  ("decoder", toValue q.decoder)]⟩

/-- A route as the templates see it. -/
structure UiRouteView where
  id : String
  optsName : String
  hasOpts : Bool
  pathRaw : String
  /-- The path that the backend registers; a hash route has none. -/
  backendPath : Option String
  jsRegex : String
  tsPath : String
  placeholders : List PlaceholderView
  query : List QueryView
deriving DecidableEq, Repr

instance : ToValue UiRouteView := ⟨fun r => .record [
  ("id", toValue r.id),
  ("opts_name", toValue r.optsName),
  ("has_opts", toValue r.hasOpts),
  ("path_raw", toValue r.pathRaw),
  ("backend_path", toValue r.backendPath),
  ("js_regex", toValue r.jsRegex),
  ("ts_path", toValue r.tsPath),
  ("placeholders", toValue r.placeholders),
  ("query", toValue r.query)]⟩

/-- What the templates see of a query parameter. -/
def QueryParam.view (q : QueryParam) : QueryView where
  key := q.key
  integer := q.kind == .integer
  nullable := q.nullable
  tsType := match q.kind with
    | .string => "string"
    | .integer => "number"
  decoder := match q.kind, q.nullable with
    | .string, false => "requiredString"
    | .string, true => "optionalString"
    | .integer, false => "requiredInteger"
    | .integer, true => "optionalInteger"

/-- What the templates see of a route. -/
def UiRoute.view (r : UiRoute) : UiRouteView where
  id := r.id
  optsName := Name.upperFirst r.id ++ "Opts"
  hasOpts := !r.path.placeholders.isEmpty || !r.query.isEmpty
  pathRaw := r.path.raw
  backendPath := if r.path.path.toList.head? = some '#' then none else some r.path.path
  jsRegex := jsRegexLiteral r.path.path
  tsPath := Path.tsPath "opts." r.path
  placeholders := r.path.placeholders.zipIdx.map fun (name, i) => ⟨name, i + 1⟩
  query := r.query.map QueryParam.view

/-- The case of a route in the union of all routes. -/
def UiRouteView.unionCase (r : UiRouteView) : String :=
  "\x7b id: " ++ Text.QuoteStyle.single.literal r.id ++
    (if r.hasOpts then "; opts: " ++ r.optsName else "") ++ " \x7d"

end Route

/-- The routes of a module as the templates see them. -/
structure UiRoutesSection where
  routes : List Route.UiRouteView
  /-- The union of all routes, as a type. -/
  routeUnion : String
deriving Repr

instance : ToValue UiRoutesSection := ⟨fun s => .record [
  ("routes", toValue s.routes),
  ("route_union", toValue s.routeUnion)]⟩

/-- What the templates see of the routes of a module. Without routes the union has no values. -/
def Module.uiRoutesSection (m : Module) : UiRoutesSection where
  routes := m.uiRoutes.map Route.UiRoute.view
  routeUnion := match m.uiRoutes with
    | [] => "never"
    | routes => " | ".intercalate (routes.map fun r => r.view.unionCase)

end Specloom
