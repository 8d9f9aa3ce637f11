import Specloom.Context.UiRoutes
import Specloom.Proofs.Path.Grammar
import Specloom.Proofs.Route.Request

/-!
# Two spellings of a required text

A required text in the query of a route is written in one of two ways: as a part `key={name}` of
the query of the path, or as a declared parameter with that key. A route with a query in its path
can be respelled. The path loses its query, and the keys of the query go before the declared
parameters. What is read from the two documents is one route, but for the path as it was written,
and no request, no URL and no template depends on that.

The respelling is one of texts: the query is cut at `&` and each part at its first `=`, and what
stands behind it does not count. That these are the keys that were read is a fact about queries that
are accepted.

## Main definitions

* `UiRouteDoc.respell`: the document with the query of its path as declared parameters
* `UiRouteDoc.Respells`: a document, or one of its respellings
* `UiRoute.withRaw`: a route with another path as written
* `UiRoute.Agrees`: two routes that differ in their paths as written only

## Main results

* `queryKeys_of_parse`: the keys of a query that is accepted
* `UiRoute.ofDoc_respell`: a respelled document is accepted as the same route
* `resolve_eq_of_agrees`: tables of such routes resolve alike
* `UiRoute.mapM_ofDoc_of_respells`: the routes of a document in either spelling
-/

namespace Specloom

open Specloom.Path Text

/-! ## Keys of a query -/

namespace Path.PathTemplate

/-- The keys in the query of a path, as texts. -/
def queryKeys (raw : String) : List String :=
  if (parts raw).2 = [] then []
  else (splitOn '&' (parts raw).2).map fun part => String.ofList (part.takeWhile (· ≠ '='))

theorem takeWhile_writePart {part : String × String} (h : IsPart part) :
    (writePart part).takeWhile (· ≠ '=') = part.1.toList := by
  have hkey : ∀ c ∈ part.1.toList, decide (c ≠ '=') = true := fun c hc =>
    decide_eq_true fun heq => h.not_mem_key.1 (heq ▸ hc)
  rw [writePart, List.takeWhile_append_of_pos hkey, List.takeWhile_cons_of_neg (by simp),
    List.append_nil]

/-- **The keys of a query that is accepted** are those that were read. -/
theorem queryKeys_of_parse {raw : String} {t : PathTemplate} (h : parse raw = .ok t) :
    queryKeys raw = t.query.map (·.1) := by
  obtain ⟨hwritten, hparts⟩ := parseQuery_eq_ok_iff.mp (parse_eq_ok_iff.mp h).2.1
  rw [queryKeys, hwritten]
  by_cases hquery : t.query = []
  · simp [hquery, writeQuery]
  · rw [if_neg (writeQuery_ne_nil hquery hparts), splitOn_writeQuery hquery hparts, List.map_map]
    refine List.map_congr_left fun part hpart => ?_
    rw [Function.comp_apply, takeWhile_writePart (hparts part hpart), String.ofList_toList]

/-- A path without its query is accepted with the same placeholders. -/
theorem parse_withoutQuery {raw : String} {t : PathTemplate} (h : parse raw = .ok t) :
    parse (withoutQuery raw) = .ok { t with raw := withoutQuery raw, query := [] } := by
  obtain ⟨hpath, -, hnodup, -, heq⟩ := parse_eq_ok_iff.mp h
  have hparts : parts (withoutQuery raw) = ((parts raw).1, []) := by
    rw [withoutQuery_eq, parts_of_not_mem (not_mem_parts_fst raw)]
  refine parse_eq_ok_iff.mpr ⟨hparts ▸ hpath, hparts ▸ rfl, ?_, rfl, hparts ▸ heq⟩
  simpa [allPlaceholders] using (List.nodup_append.mp hnodup).1

end Path.PathTemplate

/-! ## Respelled documents -/

namespace Document.UiRouteDoc

/-- The document with the query of its path as declared parameters of a type. -/
def respell (type : String) (doc : UiRouteDoc) : UiRouteDoc :=
  { doc with
    path := withoutQuery doc.path
    query := (PathTemplate.queryKeys doc.path).map (⟨·, type, false⟩) ++ doc.query }

/-- A document as it is, or respelled with one of the names of texts. -/
def Respells (doc doc' : UiRouteDoc) : Prop :=
  doc' = doc ∨ ∃ type ∈ ["", "string"], doc' = doc.respell type

end Document.UiRouteDoc

namespace Route.UiRoute

/-- The route with another path as written. -/
def withRaw (raw : String) (route : UiRoute) : UiRoute :=
  { route with path := { route.path with raw := raw } }

/-- Two routes that differ in their paths as written only. They have one matcher, build the same
URLs, give the same answers, and look the same to the templates. -/
structure Agrees (route route' : UiRoute) : Prop where
  eq_withRaw : route' = route.withRaw route'.path.raw
  pattern_eq : pattern route'.path.path = pattern route.path.path
  url_eq (values : List (String × String)) : route'.url? values = route.url? values
  matchPath_eq (path : String) : route'.matchPath? path = route.matchPath? path
  matchRequest_eq (path : String) (query : List (String × String)) :
    route'.matchRequest path query = route.matchRequest path query
  view_eq : route'.view = { route.view with pathRaw := route'.path.raw }

/-- Nothing but the view of a route looks at its path as written. -/
theorem agrees_withRaw (route : UiRoute) (raw : String) : route.Agrees (route.withRaw raw) :=
  ⟨rfl, rfl, fun _ => rfl, fun _ => rfl, fun _ _ => rfl, rfl⟩

/-- The routes of a document and of its respelling, of which only the path as written differs. -/
theorem ofDoc_respell {module source : String} {doc : Document.UiRouteDoc} {route : UiRoute}
    {type : String} (htype : type ∈ ["", "string"])
    (h : UiRoute.ofDoc module source doc = .ok route) :
    UiRoute.ofDoc module source (doc.respell type) =
      .ok (route.withRaw (withoutQuery doc.path)) := by
  obtain ⟨template, declared, hparse, hdeclared, rfl⟩ := UiRoute.ofDoc_eq_ok.mp h
  have hkind : ParamKind.ofName? type = some .string := by
    simp only [List.mem_cons, List.not_mem_nil, or_false] at htype
    simp [ParamKind.ofName?, htype]
  have hkeys : ((PathTemplate.queryKeys doc.path).map
        fun key => (⟨key, type, false⟩ : Document.QueryParamDoc)).mapM
          (QueryParam.ofDoc module source doc.id) =
      .ok (template.query.map fun part => (⟨part.1, .string, false⟩ : QueryParam)) := by
    rw [PathTemplate.queryKeys_of_parse hparse, mapM_eq_ok]
    simp [List.forall₂_map_left_iff, List.forall₂_map_right_iff, List.forall₂_same,
      QueryParam.ofDoc, hkind]
  have hquery : (doc.respell type).query.mapM (QueryParam.ofDoc module source doc.id) =
      .ok (template.query.map (fun part => ⟨part.1, .string, false⟩) ++ declared) :=
    mapM_append_eq_ok.mpr ⟨_, _, hkeys, hdeclared, rfl⟩
  exact UiRoute.ofDoc_eq_ok.mpr ⟨_, _, PathTemplate.parse_withoutQuery hparse, hquery, rfl⟩

theorem ofDoc_of_respells {module source : String} {doc doc' : Document.UiRouteDoc}
    {route : UiRoute} (h : UiRoute.ofDoc module source doc = .ok route)
    (hdoc : doc.Respells doc') :
    UiRoute.ofDoc module source doc' = .ok (route.withRaw doc'.path) := by
  rcases hdoc with rfl | ⟨type, htype, rfl⟩
  · obtain ⟨template, declared, hparse, -, rfl⟩ := UiRoute.ofDoc_eq_ok.mp h
    have hraw := (PathTemplate.parse_eq_ok_iff.mp hparse).2.2.2.1
    rw [h, withRaw, ← hraw]
  · exact ofDoc_respell htype h

end Route.UiRoute

/-! ## Tables of respelled routes -/

namespace Route

/-- Induction on the table: each route gives the answer of the one in its place, so the search goes
on, or ends, at the same place, with the same fault in hand. -/
theorem resolveFrom_eq_of_agrees {routes routes' : List UiRoute}
    (h : List.Forall₂ UiRoute.Agrees routes routes') (first : Option QueryFault) (path : String)
    (query : List (String × String)) :
    resolveFrom first path query routes' = resolveFrom first path query routes := by
  induction h generalizing first with
  | nil => rfl
  | @cons route route' routes routes' hroute _ ih =>
    have hid : route'.id = route.id := by rw [hroute.eq_withRaw, UiRoute.withRaw]
    simp only [resolveFrom, hroute.matchRequest_eq, hid, ih]

theorem resolve_eq_of_agrees {routes routes' : List UiRoute}
    (h : List.Forall₂ UiRoute.Agrees routes routes') (url : String) :
    resolve routes' url = resolve routes url :=
  resolveFrom_eq_of_agrees h none _ _

/-- The case of a route in the union does not show its path as written. -/
theorem map_unionCase_of_agrees {routes routes' : List UiRoute}
    (h : List.Forall₂ UiRoute.Agrees routes routes') :
    (routes'.map fun r => r.view.unionCase) = routes.map fun r => r.view.unionCase := by
  induction h with
  | nil => rfl
  | cons hroute _ ih =>
    rw [List.map_cons, List.map_cons, ih, hroute.view_eq]
    rfl

end Route

theorem Module.routeUnion_eq_of_agrees {m : Module} {routes' : List Route.UiRoute}
    (h : List.Forall₂ Route.UiRoute.Agrees m.uiRoutes routes') :
    ({ m with uiRoutes := routes' } : Module).uiRoutesSection.routeUnion =
      m.uiRoutesSection.routeUnion := by
  have hcases := Route.map_unionCase_of_agrees h
  cases hm : m.uiRoutes with
  | nil =>
    obtain rfl := List.forall₂_nil_left_iff.mp (hm ▸ h)
    simp [uiRoutesSection, hm]
  | cons route routes =>
    obtain ⟨route', routes', -, -, rfl⟩ := List.forall₂_cons_left_iff.mp (hm ▸ h)
    rw [hm] at hcases
    simp [uiRoutesSection, hm, hcases]

namespace Route

/-- Each document of a list in turn: it is accepted as the same route in either spelling. -/
theorem exists_mapM_ofDoc {module source : String} {docs docs' : List Document.UiRouteDoc}
    {routes : List UiRoute} (h : docs.mapM (UiRoute.ofDoc module source) = .ok routes)
    (hdocs : List.Forall₂ Document.UiRouteDoc.Respells docs docs') :
    ∃ routes', docs'.mapM (UiRoute.ofDoc module source) = .ok routes' ∧
      routes'.map (·.path.raw) = docs'.map (·.path) ∧
      List.Forall₂ UiRoute.Agrees routes routes' := by
  rw [mapM_eq_ok] at h
  simp only [mapM_eq_ok]
  induction hdocs generalizing routes with
  | nil =>
    obtain rfl := List.forall₂_nil_left_iff.mp h
    exact ⟨[], .nil, rfl, .nil⟩
  | @cons doc doc' docs docs' hdoc _ ih =>
    obtain ⟨route, routes, hroute, hroutes, rfl⟩ := List.forall₂_cons_left_iff.mp h
    obtain ⟨routes', hroutes', hraws, hagree⟩ := ih hroutes
    exact ⟨route.withRaw doc'.path :: routes',
      .cons (UiRoute.ofDoc_of_respells hroute hdoc) hroutes', by simp [hraws, UiRoute.withRaw],
      .cons (route.agrees_withRaw doc'.path) hagree⟩

/-- **Both spellings are one route.** If the routes of a document are accepted, so are those of a
document in which any of them are respelled. The routes have the paths that are written in that
document and differ from the others in nothing else: matcher, URLs, matches and what the templates
see. The two tables resolve every URL alike, and the union of all routes is the same. -/
theorem exists_mapM_ofDoc_of_respells {module source : String}
    {docs docs' : List Document.UiRouteDoc} {routes : List UiRoute}
    (h : docs.mapM (UiRoute.ofDoc module source) = .ok routes)
    (hdocs : List.Forall₂ Document.UiRouteDoc.Respells docs docs') :
    ∃ routes', docs'.mapM (UiRoute.ofDoc module source) = .ok routes' ∧
      routes'.map (·.path.raw) = docs'.map (·.path) ∧
      List.Forall₂ UiRoute.Agrees routes routes' ∧
      (∀ url, resolve routes' url = resolve routes url) ∧
      ∀ m : Module, m.uiRoutes = routes →
        ({ m with uiRoutes := routes' } : Module).uiRoutesSection.routeUnion =
          m.uiRoutesSection.routeUnion := by
  obtain ⟨routes', hroutes', hraws, hagree⟩ := exists_mapM_ofDoc h hdocs
  exact ⟨routes', hroutes', hraws, hagree, resolve_eq_of_agrees hagree,
    fun m hm => m.routeUnion_eq_of_agrees (hm ▸ hagree)⟩

/-- A search with a text in its path and a declared number: the text may be declared as well, ahead
of the number. -/
theorem exists_mapM_ofDoc_of_respells_search :
    ∃ routes', [(⟨"search", "#/search", [⟨"q", "string", false⟩, ⟨"page", "integer", true⟩]⟩ :
        Document.UiRouteDoc)].mapM (UiRoute.ofDoc "app" "routes.json") = .ok routes' ∧
      ∀ url, resolve routes' url = resolve [⟨"search", ⟨"#/search?q={text}", "#/search", [], []⟩,
        [⟨"q", .string, false⟩, ⟨"page", .integer, true⟩]⟩] url := by
  have hdocs : [(⟨"search", "#/search?q={text}", [⟨"page", "integer", true⟩]⟩ :
      Document.UiRouteDoc)].mapM (UiRoute.ofDoc "app" "routes.json") =
        .ok [⟨"search", ⟨"#/search?q={text}", "#/search", [], []⟩,
          [⟨"q", .string, false⟩, ⟨"page", .integer, true⟩]⟩] := by
    rfl
  obtain ⟨routes', hroutes', -, -, hresolve, -⟩ :=
    exists_mapM_ofDoc_of_respells hdocs (.cons (.inr ⟨"string", by decide, rfl⟩) .nil)
  exact ⟨routes', hroutes', hresolve⟩

end Route

end Specloom
