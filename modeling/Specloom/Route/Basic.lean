import Specloom.Path.Template
import Specloom.Url.Query
import Specloom.Text.Integer

/-!
# Routes

A route of the frontend is a path template with typed query parameters. Its URL is built from
values, and a request is matched against it: every placeholder takes a non-empty piece of the path
without a slash, earlier placeholders taking as much as they can, and the query is read strictly.

## Main definitions

* `UiRoute`, `QueryParam`, `ParamKind`: the declaration of a route
* `UiRoute.url?`: the URL of a route with given values
* `UiRoute.matchPath?`, `UiRoute.matchRequest`: the parameters of a request
* `RouteTable.resolve`, `RouteTable.dispatch`: the first route of a table that a URL belongs to
-/

namespace Specloom.Route

open Specloom.Path Text

/-- The type of a query parameter. -/
inductive ParamKind where
  | string | integer
deriving DecidableEq, Repr

/-- The type named in a document; the empty name means a string. -/
def ParamKind.ofName? (name : String) : Option ParamKind :=
  if name = "" ∨ name = "string" then some .string
  else if name = "integer" then some .integer
  else none

/-- A query parameter of a route. -/
structure QueryParam where
  key : String
  kind : ParamKind
  nullable : Bool
deriving DecidableEq, Repr

/-- A route of the frontend. -/
structure UiRoute where
  id : String
  path : PathTemplate
  query : List QueryParam
deriving DecidableEq, Repr

/-- The value of a parameter. -/
inductive ParamValue where
  | text (s : String)
  | number (n : Int)
deriving DecidableEq, Repr

/-- The parameters of a request, keyed by placeholder and query key. -/
abbrev Params := List (String × ParamValue)

/-- Binds a key, replacing an earlier binding. -/
def Params.bind (params : Params) (key : String) (value : ParamValue) : Params :=
  params.filter (·.1 ≠ key) ++ [(key, value)]

/-- Why a request is refused whose path matches. -/
inductive QueryFault where
  | invalidParam (key value : String)
  | missingParam (key : String)
deriving DecidableEq, Repr

/-- The message for a refused request. -/
def QueryFault.message : QueryFault → String
  | .invalidParam key value => "invalid value '" ++ value ++ "' for query parameter '" ++ key ++ "'"
  | .missingParam key => "missing required query parameter '" ++ key ++ "'"

/-! ### Building URLs -/

/-- A segment of the path with its value in place. -/
def fillSegment? (values : List (String × String)) : Segment → Option (List Char)
  | .literal text => some text
  | .placeholder name =>
    (values.lookup (String.ofList name)).map fun v => Url.encode v.toList

/-- The part of the query for a parameter that has a value. -/
def queryPart? (values : List (String × String)) (param : QueryParam) : Option (List Char) :=
  (values.lookup param.key).map fun v =>
    Url.encode param.key.toList ++ '=' :: Url.encode v.toList

/-- The URL of a route: values are percent-encoded, parameters without a value are left out. There
is none if a placeholder has no value. -/
def UiRoute.url? (route : UiRoute) (values : List (String × String)) : Option String := do
  let path ← route.path.segments.mapM (fillSegment? values)
  let query := route.query.filterMap (queryPart? values)
  let tail := if query = [] then [] else '?' :: List.intercalate ['&'] query
  return String.ofList (path.flatten ++ tail)

/-! ### Matching requests -/

/-- The pieces that the placeholders take: longer pieces are tried first, from the first
placeholder on. -/
def capture? : List Segment → List Char → Option (List (List Char))
  | [], cs => if cs = [] then some [] else none
  | .literal text :: rest, cs =>
    if text.isPrefixOf cs then capture? rest (cs.drop text.length) else none
  | .placeholder _ :: rest, cs =>
    let longest := (cs.takeWhile (· ≠ '/')).length
    ((List.range longest).map (longest - ·)).findSome? fun n =>
      (capture? rest (cs.drop n)).map (cs.take n :: ·)

/-- The value of a piece of the path: decoded, or as it stands if it does not decode. -/
def pieceValue (piece : List Char) : ParamValue :=
  .text (String.ofList ((Url.decode? piece).getD piece))

/-- The placeholders of a path that matches. -/
def UiRoute.matchPath? (route : UiRoute) (path : String) : Option Params :=
  (capture? route.path.segments path.toList).map fun pieces =>
    (route.path.placeholders.zip pieces).foldl
      (fun params (name, piece) => params.bind name (pieceValue piece)) []

/-- Reads one declared parameter and binds it. -/
def bindQuery (query : List (String × String)) (params : Params) (param : QueryParam) :
    Except QueryFault Params :=
  match query.lookup param.key with
  | none => if param.nullable then .ok params else .error (.missingParam param.key)
  | some raw =>
    match param.kind with
    | .string => .ok (params.bind param.key (.text raw))
    | .integer =>
      match integer? raw.toList with
      | some n => .ok (params.bind param.key (.number n))
      | none => .error (.invalidParam param.key raw)

/-- The parameters of a request. There are none if the path does not match or a key of the query
is not declared; a parameter that is missing or does not read is a fault. -/
def UiRoute.matchRequest (route : UiRoute) (path : String) (query : List (String × String)) :
    Except QueryFault (Option Params) :=
  match route.matchPath? path with
  | none => .ok none
  | some params =>
    if query.any fun (key, _) => !route.query.any (·.key == key) then .ok none
    else (route.query.foldlM (bindQuery query) params).map some

/-! ### Tables of routes -/

/-- Tries the routes in order and keeps the first fault for the case that none matches. -/
def resolveFrom (first : Option QueryFault) (path : String) (query : List (String × String)) :
    List UiRoute → Except QueryFault (Option (String × Params))
  | [] =>
    match first with
    | some fault => .error fault
    | none => .ok none
  | route :: routes =>
    match route.matchRequest path query with
    | .ok (some params) => .ok (some (route.id, params))
    | .ok none => resolveFrom first path query routes
    | .error fault => resolveFrom (first <|> some fault) path query routes

/-- The first route that a URL belongs to, with its parameters. A route whose path matches but
whose query does not is passed over; the first such fault counts if no later route matches. -/
def resolve (routes : List UiRoute) (url : String) :
    Except QueryFault (Option (String × Params)) :=
  let (path, query) := Url.splitUrl url
  resolveFrom none path query routes

/-- Hands the route of a URL to one function, or its path to another if no route matches. -/
def dispatch {α : Type} (routes : List UiRoute) (url : String)
    (onMatch : String × Params → α) (notFound : String → α) : Except QueryFault α :=
  (resolve routes url).map fun
    | some found => onMatch found
    | none => notFound (Url.splitUrl url).1

end Specloom.Route
