import Mathlib.Data.List.TakeWhile
import Specloom.Proofs.Checked
import Specloom.Route.Basic

/-!
# Tables of routes

A route answers a URL with a match, with nothing or with a fault. A table asks its routes in order,
and the answers combine: a match counts more than a fault, a fault more than nothing, and of two
matches or two faults the earlier one counts. Combining is associative, so what a table gives does
not depend on how it is cut into parts.

## Main definitions

* `UiRoute.answer`: what a route says to a URL
* `preferred`: two answers combined

## Main results

* `resolve_cons`, `resolve_append`: tables combine as answers do
* `resolve_eq_match_iff`: a match is that of the first route that matches
* `resolve_eq_fault_iff`: a fault is the first one, and no route matches
* `resolve_append_dispatch`: the laws of tables
-/

namespace Specloom.Route

/-- What is found for a URL: a route with its parameters, nothing, or a fault of the query. -/
abbrev Answer := Except QueryFault (Option (String × Params))

/-- What a route says to a URL. -/
def UiRoute.answer (route : UiRoute) (url : String) : Except QueryFault (Option Params) :=
  route.matchRequest (Url.splitUrl url).1 (Url.splitUrl url).2

/-- Two answers combined: the first match, else the first fault, else nothing. -/
def preferred : Answer → Answer → Answer
  | .ok (some found), _ => .ok (some found)
  | _, .ok (some found) => .ok (some found)
  | .error fault, _ => .error fault
  | .ok none, other => other

/-! ## Combined answers -/

@[simp] theorem preferred_none_left (a : Answer) : preferred (.ok none) a = a := by
  rcases a with _ | _ | _ <;> rfl

@[simp] theorem preferred_none_right (a : Answer) : preferred a (.ok none) = a := by
  rcases a with _ | _ | _ <;> rfl

theorem preferred_assoc (a b c : Answer) :
    preferred (preferred a b) c = preferred a (preferred b c) := by
  rcases a with _ | _ | _ <;> rcases b with _ | _ | _ <;> rcases c with _ | _ | _ <;> rfl

theorem preferred_eq_match_iff {a b : Answer} {found : String × Params} :
    preferred a b = .ok (some found) ↔
      a = .ok (some found) ∨ (∀ other, a ≠ .ok (some other)) ∧ b = .ok (some found) := by
  rcases a with _ | _ | _ <;> rcases b with _ | _ | _ <;> simp [preferred]

theorem preferred_ne_match_iff {a b : Answer} : (∀ found, preferred a b ≠ .ok (some found)) ↔
    (∀ found, a ≠ .ok (some found)) ∧ ∀ found, b ≠ .ok (some found) := by
  rcases a with _ | _ | _ <;> rcases b with _ | _ | _ <;> simp [preferred]

theorem preferred_eq_fault_iff {a b : Answer} {fault : QueryFault} :
    preferred a b = .error fault ↔ (a = .error fault ∧ ∀ found, b ≠ .ok (some found)) ∨
      (a = .ok none ∧ b = .error fault) := by
  rcases a with _ | _ | _ <;> rcases b with _ | _ | _ <;> simp [preferred]

theorem preferred_eq_none_iff {a b : Answer} :
    preferred a b = .ok none ↔ a = .ok none ∧ b = .ok none := by
  rcases a with _ | _ | _ <;> rcases b with _ | _ | _ <;> simp [preferred]

/-! ## Tables -/

/-- The answer of a table that consists of one route. -/
def UiRoute.alone (route : UiRoute) (url : String) : Answer :=
  (route.answer url).map fun params => params.map (route.id, ·)

/-- The fault that is kept while the routes are tried, as an answer. -/
def kept : Option QueryFault → Answer
  | some fault => .error fault
  | none => .ok none

/-- **What a run through the routes does**: it combines the fault kept so far with the answers of
the routes, one after the other. -/
theorem resolveFrom_eq (first : Option QueryFault) (url : String) (routes : List UiRoute) :
    resolveFrom first (Url.splitUrl url).1 (Url.splitUrl url).2 routes =
      preferred (kept first) ((routes.map (·.alone url)).foldr preferred (.ok none)) := by
  induction routes generalizing first with
  | nil => cases first <;> rfl
  | cons route routes ih =>
    rw [resolveFrom, List.map_cons, List.foldr_cons, ← preferred_assoc, UiRoute.alone,
      UiRoute.answer]
    -- the answer of the route decides whether the run goes on, and which fault it keeps
    split
    · rename_i params h
      rw [h]
      cases first <;> simp [kept, Except.map, preferred]
    · rename_i h
      rw [h, ih]
      simp [Except.map]
    · rename_i fault h
      rw [h, ih]
      cases first <;> simp [kept, Except.map, preferred]

theorem resolve_eq (routes : List UiRoute) (url : String) :
    resolve routes url = (routes.map (·.alone url)).foldr preferred (.ok none) := by
  have h := resolveFrom_eq none url routes
  rwa [kept, preferred_none_left] at h

@[simp] theorem resolve_nil (url : String) : resolve [] url = .ok none := rfl

theorem resolve_cons (route : UiRoute) (routes : List UiRoute) (url : String) :
    resolve (route :: routes) url = preferred (route.alone url) (resolve routes url) := by
  rw [resolve_eq, resolve_eq, List.map_cons, List.foldr_cons]

/-- **Tables combine as answers do.** -/
theorem resolve_append (a b : List UiRoute) (url : String) :
    resolve (a ++ b) url = preferred (resolve a url) (resolve b url) := by
  induction a with
  | nil => rw [List.nil_append, resolve_nil, preferred_none_left]
  | cons route a ih =>
    rw [List.cons_append, resolve_cons, resolve_cons, ih, preferred_assoc]

/-! ## Which answer counts -/

section Routes

variable {route : UiRoute} {routes : List UiRoute} {url : String}

theorem UiRoute.alone_eq_match_iff {found : String × Params} :
    route.alone url = .ok (some found) ↔
      route.id = found.1 ∧ route.answer url = .ok (some found.2) := by
  obtain ⟨id, params⟩ := found
  rw [alone]
  rcases route.answer url with _ | _ | _ <;> simp [Except.map]

/-- A route that does not match by its own does not match with any parameters. -/
theorem UiRoute.alone_ne_match_iff : (∀ found, route.alone url ≠ .ok (some found)) ↔
    ∀ params, route.answer url ≠ .ok (some params) :=
  ⟨fun h params ha => h (route.id, params) (alone_eq_match_iff.mpr ⟨rfl, ha⟩),
    fun h found ha => h found.2 (alone_eq_match_iff.mp ha).2⟩

theorem UiRoute.alone_eq_fault_iff {fault : QueryFault} :
    route.alone url = .error fault ↔ route.answer url = .error fault := by
  rw [alone]
  rcases route.answer url with _ | _ | _ <;> simp [Except.map]

theorem UiRoute.alone_eq_none_iff :
    route.alone url = .ok none ↔ route.answer url = .ok none := by
  rw [alone]
  rcases route.answer url with _ | _ | _ <;> simp [Except.map]

/-- A fault is of a route whose path matches. -/
theorem UiRoute.isSome_matchPath?_of_fault {fault : QueryFault}
    (h : route.answer url = .error fault) :
    (route.matchPath? (Url.splitUrl url).1).isSome = true := by
  rw [answer, matchRequest] at h
  cases hpath : route.matchPath? (Url.splitUrl url).1 with
  | none =>
    rw [hpath] at h
    cases h
  | some params => rfl

/-- **A match is that of the first route that matches.** -/
theorem resolve_eq_match_iff {found : String × Params} :
    resolve routes url = .ok (some found) ↔ ∃ before route after,
      routes = before ++ route :: after ∧
        (route.id = found.1 ∧ route.answer url = .ok (some found.2)) ∧
          ∀ r ∈ before, ∀ params, r.answer url ≠ .ok (some params) := by
  induction routes with
  | nil => simp
  | cons route routes ih =>
    rw [resolve_cons, preferred_eq_match_iff, ih, UiRoute.alone_ne_match_iff,
      UiRoute.alone_eq_match_iff, exists_first_cons]

theorem resolve_ne_match_iff : (∀ found, resolve routes url ≠ .ok (some found)) ↔
    ∀ r ∈ routes, ∀ params, r.answer url ≠ .ok (some params) := by
  induction routes with
  | nil => simp
  | cons route routes ih =>
    rw [List.forall_mem_cons, ← ih, ← UiRoute.alone_ne_match_iff, resolve_cons,
      preferred_ne_match_iff]

/-- **A fault is that of the first route that has one, and no route matches.** -/
theorem resolve_eq_fault_iff {fault : QueryFault} :
    resolve routes url = .error fault ↔
      (∀ r ∈ routes, ∀ params, r.answer url ≠ .ok (some params)) ∧ ∃ before route after,
        routes = before ++ route :: after ∧ route.answer url = .error fault ∧
          ∀ r ∈ before, ∀ other, r.answer url ≠ .error other := by
  induction routes with
  | nil => simp
  | cons route routes ih =>
    rw [resolve_cons, preferred_eq_fault_iff, resolve_ne_match_iff, ih,
      UiRoute.alone_eq_fault_iff, UiRoute.alone_eq_none_iff, exists_first_cons,
      List.forall_mem_cons]
    -- the route itself has the fault, or it has no answer and the fault comes later
    rcases route.answer url with _ | _ | _ <;> simp [and_comm]

theorem resolve_eq_none_iff :
    resolve routes url = .ok none ↔ ∀ r ∈ routes, r.answer url = .ok none := by
  induction routes with
  | nil => simp
  | cons route routes ih =>
    rw [resolve_cons, preferred_eq_none_iff, ih, UiRoute.alone_eq_none_iff, List.forall_mem_cons]

end Routes

/-! ## The laws of tables -/

/-- The path of a URL is what stands before its first question mark. -/
theorem splitUrl_fst (url : String) :
    (Url.splitUrl url).1 = String.ofList (url.toList.takeWhile (· ≠ '?')) := by
  rw [Url.splitUrl]
  split
  · rename_i path query h
    obtain ⟨hurl, hpath⟩ := Text.splitFirst?_eq_some_iff.mp h
    have hall : ∀ c ∈ path, decide (c ≠ '?') = true := by
      intro c hc
      simpa using fun he : c = '?' => hpath (he ▸ hc)
    rw [hurl, List.takeWhile_append_of_pos hall]
    simp
  · rename_i h
    have hall : ∀ c ∈ url.toList, decide (c ≠ '?') = true := by
      intro c hc
      simpa using fun he : c = '?' => Text.splitFirst?_eq_none_iff.mp h (he ▸ hc)
    rw [List.takeWhile_eq_self_iff.mpr hall, String.ofList_toList]

/-- **The laws of tables of routes.** Tables that are joined combine by order. A match is that of
the first route that matches; a fault is that of the first route that has one, whose path matches,
and only where no route matches. Whatever the two functions are, dispatching calls the first with
the match, or the second with the path, or neither where there is a fault. -/
theorem resolve_append_dispatch (a b routes : List UiRoute) (url : String) :
    resolve (a ++ b) url = preferred (resolve a url) (resolve b url) ∧
      (∀ id params, resolve routes url = .ok (some (id, params)) ↔ ∃ before route after,
        routes = before ++ route :: after ∧
          (route.id = id ∧ route.answer url = .ok (some params)) ∧
            ∀ r ∈ before, ∀ other, r.answer url ≠ .ok (some other)) ∧
      (∀ fault, resolve routes url = .error fault ↔
        (∀ r ∈ routes, ∀ params, r.answer url ≠ .ok (some params)) ∧ ∃ before route after,
          routes = before ++ route :: after ∧
            ((route.matchPath? (Url.splitUrl url).1).isSome = true ∧
              route.answer url = .error fault) ∧
            ∀ r ∈ before, ∀ other, r.answer url ≠ .error other) ∧
      (resolve routes url = .ok none ↔ ∀ r ∈ routes, r.answer url = .ok none) ∧
      ∀ {α : Type} (onMatch : String × Params → α) (notFound : String → α),
        dispatch routes url onMatch notFound =
          match resolve routes url with
          | .ok (some found) => .ok (onMatch found)
          | .ok none => .ok (notFound (String.ofList (url.toList.takeWhile (· ≠ '?'))))
          | .error fault => .error fault := by
  refine ⟨resolve_append a b url, fun id params => resolve_eq_match_iff, fun fault => ?_,
    resolve_eq_none_iff, fun onMatch notFound => ?_⟩
  · have hpath : ∀ route : UiRoute, ((route.matchPath? (Url.splitUrl url).1).isSome = true ∧
        route.answer url = .error fault) ↔ route.answer url = .error fault :=
      fun route => and_iff_right_of_imp UiRoute.isSome_matchPath?_of_fault
    simp only [resolve_eq_fault_iff, hpath]
  · rw [dispatch, splitUrl_fst]
    rcases resolve routes url with _ | _ | _ <;> rfl

end Specloom.Route
