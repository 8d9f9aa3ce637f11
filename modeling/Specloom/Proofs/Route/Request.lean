import Specloom.Module.Declare
import Specloom.Proofs.Module.Loaded
import Specloom.Proofs.Route.Matcher
import Specloom.Proofs.Route.Query

/-!
# Requests of a route

A request is matched in three steps, of which the first that does not go on decides. A path that
does not match, or a key of the query that is not declared, is no match; a parameter that the query
breaks is a fault; and otherwise the parameters are those of the path and those of the query, side
by side, since no key of the query is a placeholder.

## Main results

* `UiRoute.ofDoc_eq_ok`: what stands in the query of a path template comes before what is declared
* `matchRequest_eq_none_iff`, `matchRequest_eq_error_iff`: requests without a match, with a fault
* `matchRequest_of_ofDoc`: the laws of requests
-/

namespace Specloom

open Specloom.Path

/-- A route of a document has the path of its template, and its parameters are those in the query of
the template, as required texts, followed by the declared ones. -/
theorem UiRoute.ofDoc_eq_ok {module source : String} {doc : Document.UiRouteDoc}
    {route : Route.UiRoute} : UiRoute.ofDoc module source doc = .ok route ↔
      ∃ template declared, PathTemplate.parse doc.path = .ok template ∧
        doc.query.mapM (QueryParam.ofDoc module source doc.id) = .ok declared ∧
        route = ⟨doc.id, { template with query := [] },
          template.query.map (fun pair => ⟨pair.1, .string, false⟩) ++ declared⟩ := by
  rw [ofDoc]
  cases PathTemplate.parse doc.path with
  | error fault => simp
  | ok template =>
    simp only [bind_eq_ok, pure_eq_ok]
    constructor
    · rintro ⟨declared, hdeclared, rfl⟩
      exact ⟨template, declared, rfl, hdeclared, rfl⟩
    · rintro ⟨_, declared, ⟨⟩, hdeclared, rfl⟩
      exact ⟨declared, hdeclared, rfl⟩

namespace Route

variable {route : UiRoute} {path : String} {query : List (String × String)} {bound : Params}

/-- The keys of a path that matches are the placeholders. -/
theorem map_fst_of_matchPath? (hnames : route.path.placeholders =
      (route.path.segments.filterMap Segment.name?).map String.ofList)
    (hnodup : route.path.placeholders.Nodup) (h : route.matchPath? path = some bound) :
    bound.map (·.1) = route.path.placeholders := by
  obtain ⟨pieces, hpieces, rfl⟩ := Option.map_eq_some_iff.mp h
  have hlength : pieces.length = route.path.placeholders.length := by
    rw [hnames, List.length_map, length_of_decomposes (decomposes_of_capture hpieces)]
  rw [foldl_bind_pieces hnodup hlength, List.map_map]
  exact List.map_fst_zip hlength.symm.le

theorem any_undeclared_iff : (query.any fun (key, _) => !route.query.any (·.key == key)) = true ↔
    ∃ pair ∈ query, pair.1 ∉ route.query.map (·.key) := by
  simp [List.any_eq_true]

/-- **What a request gives** whose path matches and whose keys are declared. -/
theorem matchRequest_of_declared (hpath : route.matchPath? path = some bound)
    (hdeclared : ∀ pair ∈ query, pair.1 ∈ route.query.map (·.key))
    (hkeys : (bound.map (·.1) ++ route.query.map (·.key)).Nodup) :
    route.matchRequest path query =
      match route.query.findSome? (QueryParam.fault? query) with
      | some fault => .error fault
      | none => .ok (some (bound ++ route.query.filterMap (QueryParam.binding? query))) := by
  obtain ⟨-, hnodup, hdisjoint⟩ := List.nodup_append.mp hkeys
  have hundeclared : ¬ (query.any fun (key, _) => !route.query.any (·.key == key)) = true := by
    rw [any_undeclared_iff]
    rintro ⟨pair, hpair, hnot⟩
    exact hnot (hdeclared pair hpair)
  have hfresh : ∀ q ∈ route.query, q.key ∉ bound.map (·.1) :=
    fun q hq hmem => hdisjoint _ hmem _ (List.mem_map_of_mem hq) rfl
  rw [UiRoute.matchRequest, hpath]
  change (if _ then _ else _) = _
  rw [if_neg hundeclared, foldlM_bindQuery_eq hnodup hfresh]
  cases route.query.findSome? (QueryParam.fault? query) <;> rfl

/-- **There is no match** exactly if the path does not match or a key is not declared. -/
theorem matchRequest_eq_none_iff : route.matchRequest path query = .ok none ↔
    route.matchPath? path = none ∨ ∃ pair ∈ query, pair.1 ∉ route.query.map (·.key) := by
  rw [UiRoute.matchRequest, ← any_undeclared_iff]
  cases route.matchPath? path with
  | none => simp
  | some bound =>
    simp only [reduceCtorEq, false_or]
    split
    · rename_i h
      exact iff_of_true rfl h
    · rename_i h
      refine iff_of_false (fun hmap => ?_) h
      obtain ⟨params, -, hparams⟩ := map_eq_ok.mp hmap
      cases hparams

section Declared

variable (hpath : route.matchPath? path = some bound)
  (hdeclared : ∀ pair ∈ query, pair.1 ∈ route.query.map (·.key))
  (hkeys : (bound.map (·.1) ++ route.query.map (·.key)).Nodup)

include hpath hdeclared hkeys

/-- **A fault is that of the first parameter that is broken.** -/
theorem matchRequest_eq_error_iff {fault : QueryFault} :
    route.matchRequest path query = .error fault ↔ ∃ before q after,
      route.query = before ++ q :: after ∧ q.Breaks query fault ∧
        ∀ p ∈ before, ∀ other, ¬ p.Breaks query other := by
  rw [matchRequest_of_declared hpath hdeclared hkeys, ← findSome?_fault?_eq_some_iff]
  cases route.query.findSome? (QueryParam.fault? query) <;> simp

/-- **A match** binds the placeholders as the path does, and every parameter that occurs to the value
that it takes. -/
theorem exists_matchRequest_eq_some (hsound : ∀ q ∈ route.query, ∀ fault, ¬ q.Breaks query fault) :
    ∃ params, route.matchRequest path query = .ok (some params) ∧ (params.map (·.1)).Nodup ∧
      (∀ key, key ∈ params.map (·.1) ↔ key ∈ bound.map (·.1) ∨
        key ∈ route.query.map (·.key) ∧ key ∈ query.map (·.1)) ∧
      (∀ entry ∈ bound, entry ∈ params) ∧
      ∀ q ∈ route.query, ∀ value, (q.key, value) ∈ params ↔ q.Takes query value := by
  have hfaults : route.query.findSome? (QueryParam.fault? query) = none :=
    List.findSome?_eq_none_iff.mpr fun q hq => QueryParam.fault?_eq_none_iff.mpr (hsound q hq)
  obtain ⟨-, hnodup, hdisjoint⟩ := List.nodup_append.mp hkeys
  refine ⟨bound ++ route.query.filterMap (QueryParam.binding? query), ?_, ?_, fun key => ?_,
    fun entry => List.mem_append_left _, fun q hq value => ?_⟩
  · rw [matchRequest_of_declared hpath hdeclared hkeys, hfaults]
  · rw [List.map_append]
    exact hkeys.sublist (map_fst_bindings_sublist.append_left _)
  · rw [List.map_append, List.mem_append, mem_map_fst_bindings_iff hsound]
  · -- the key of a parameter is no key of the path
    have hnot : (q.key, value) ∉ bound := by
      intro hmem
      exact hdisjoint _ (List.mem_map_of_mem hmem) _ (List.mem_map_of_mem hq) rfl
    rw [List.mem_append, or_iff_right hnot, mem_bindings_iff hnodup hq]

end Declared

/-- **The laws of requests** of a route that was read from a document and is part of a module with
valid names. What stands in the query of its path template comes first among its parameters, as
required texts. There is no match exactly if the path does not match or a key is not declared.
Otherwise the request has a fault exactly if a parameter is broken, that of the first one; and if
none is, there is a match whose keys are the placeholders and the declared keys that occur, the
placeholders with their values in the path, each parameter with the value that it takes. -/
theorem matchRequest_of_ofDoc {m : Module} {source : String} {doc : Document.UiRouteDoc}
    {route : UiRoute} (hdoc : UiRoute.ofDoc m.id source doc = .ok route)
    (hroute : route ∈ m.uiRoutes) (hm : m.checkStructure = .ok ()) :
    (∃ template declared, PathTemplate.parse doc.path = .ok template ∧
      doc.query.mapM (QueryParam.ofDoc m.id source doc.id) = .ok declared ∧
      route.query = template.query.map (fun pair => ⟨pair.1, .string, false⟩) ++ declared) ∧
    ∀ (path : String) (query : List (String × String)),
      (route.matchRequest path query = .ok none ↔
        route.matchPath? path = none ∨ ∃ pair ∈ query, pair.1 ∉ route.query.map (·.key)) ∧
      ∀ bound, route.matchPath? path = some bound →
        (∀ pair ∈ query, pair.1 ∈ route.query.map (·.key)) →
          (∀ fault, route.matchRequest path query = .error fault ↔ ∃ before q after,
            route.query = before ++ q :: after ∧ q.Breaks query fault ∧
              ∀ p ∈ before, ∀ other, ¬ p.Breaks query other) ∧
          ((∀ q ∈ route.query, ∀ fault, ¬ q.Breaks query fault) →
            ∃ params, route.matchRequest path query = .ok (some params) ∧
              (params.map (·.1)).Nodup ∧
              (∀ key, key ∈ params.map (·.1) ↔ key ∈ route.path.placeholders ∨
                key ∈ route.query.map (·.key) ∧ key ∈ query.map (·.1)) ∧
              (bound.map (·.1) = route.path.placeholders ∧ ∀ entry ∈ bound, entry ∈ params) ∧
              ∀ q ∈ route.query, ∀ value, (q.key, value) ∈ params ↔ q.Takes query value) := by
  obtain ⟨template, declared, hparse, hdeclared, rfl⟩ := UiRoute.ofDoc_eq_ok.mp hdoc
  have hchecked := (checkDistinct_eq_ok_iff _ _ _ _).mp
    ((Module.checkStructure_eq_ok.mp hm).route _ hroute)
  have hnames := PathTemplate.placeholders_of_parse hparse
  have hdistinct := PathTemplate.nodup_placeholders_of_parse hparse
  refine ⟨⟨template, declared, hparse, hdeclared, rfl⟩, fun path query =>
    ⟨matchRequest_eq_none_iff, fun bound hpath hall => ?_⟩⟩
  have hbound := map_fst_of_matchPath? hnames hdistinct hpath
  have hkeys := hbound ▸ hchecked
  refine ⟨fun fault => matchRequest_eq_error_iff hpath hall hkeys, fun hsound => ?_⟩
  obtain ⟨params, hparams, hnodup, hmem, hplaceholders, htakes⟩ :=
    exists_matchRequest_eq_some hpath hall hkeys hsound
  exact ⟨params, hparams, hnodup, hbound ▸ hmem, ⟨hbound, hplaceholders⟩, htakes⟩

/-- A page that is one too large is a fault, although the text before it is there, and of two texts
and two pages the first ones count. -/
theorem matchRequest_of_ofDoc_item :
    UiRoute.matchRequest ⟨"item", ⟨"/items/{id}?q={text}", "/items/{id}", ["id"], []⟩,
        [⟨"q", .string, false⟩, ⟨"page", .integer, true⟩]⟩ "/items/a%20b"
        [("page", "9223372036854775808"), ("q", "")] =
      .error (.invalidParam "page" "9223372036854775808") ∧
    ∃ params, UiRoute.matchRequest ⟨"item", ⟨"/items/{id}?q={text}", "/items/{id}", ["id"], []⟩,
        [⟨"q", .string, false⟩, ⟨"page", .integer, true⟩]⟩ "/items/a%20b"
        [("page", "+9223372036854775807"), ("q", "x"), ("q", "y"), ("page", "z")] =
          .ok (some params) ∧
      ("id", .text "a b") ∈ params ∧ ("q", .text "x") ∈ params ∧
        ("page", .number 9223372036854775807) ∈ params := by
  have hdoc : UiRoute.ofDoc "app" "routes.json"
      ⟨"item", "/items/{id}?q={text}", [⟨"page", "integer", true⟩]⟩ =
        .ok ⟨"item", ⟨"/items/{id}?q={text}", "/items/{id}", ["id"], []⟩,
          [⟨"q", .string, false⟩, ⟨"page", .integer, true⟩]⟩ := by
    rfl
  have hlaws := (matchRequest_of_ofDoc (m := ⟨"app", "app", ⟨false, false, false, true⟩,
    [], [], [], [], [], [], [_]⟩) hdoc List.mem_cons_self (by rfl)).2 "/items/a%20b"
  constructor
  · refine ((hlaws _).2 _ (by rfl) (by decide)).1 _ |>.mpr ⟨[_], _, [], rfl, ?_, ?_⟩
    · exact .invalid rfl rfl (Text.integer?_eq_none_iff.mp (by decide +kernel))
    · exact List.forall_mem_singleton.mpr (QueryParam.fault?_eq_none_iff.mp (by decide +kernel))
  · obtain ⟨params, hparams, -, -, ⟨-, hplaceholders⟩, htakes⟩ :=
      ((hlaws [("page", "+9223372036854775807"), ("q", "x"), ("q", "y"), ("page", "z")]).2 _
        (by rfl) (by decide)).2 (List.forall_mem_cons.mpr
          ⟨QueryParam.fault?_eq_none_iff.mp (by decide +kernel), List.forall_mem_singleton.mpr
            (QueryParam.fault?_eq_none_iff.mp (by decide +kernel))⟩)
    refine ⟨params, hparams, hplaceholders _ List.mem_cons_self,
      (htakes _ List.mem_cons_self _).mpr (.text rfl rfl),
      (htakes _ (List.mem_cons_of_mem _ List.mem_cons_self) _).mpr (.number rfl rfl ?_)⟩
    exact Text.integer?_eq_some_iff.mp (by decide +kernel)

end Route

end Specloom
