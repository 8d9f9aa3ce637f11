import Mathlib.Data.List.Nodup
import Specloom.Proofs.Checked
import Specloom.Proofs.Text.Integer
import Specloom.Route.Basic

/-!
# The query of a request

The declared parameters of a route are read from a query one after the other. A query breaks the
declaration of a parameter if the parameter is required and has no value, or if it is an integer and
its first value is not written as one. The first parameter that is broken decides; if there is none,
every parameter with a value is bound to it, behind what was bound before.

## Main definitions

* `QueryParam.Breaks`: a fault of a query in a parameter
* `QueryParam.Takes`: the value of a parameter in a query
* `QueryParam.fault?`, `QueryParam.binding?`: the same, computed

## Main results

* `bindQuery_eq`: one parameter is read
* `foldlM_bindQuery_eq`: all parameters are read
-/

namespace Specloom.Route

open Text

/-- A query breaks the declaration of a parameter. -/
inductive QueryParam.Breaks (query : List (String × String)) (q : QueryParam) : QueryFault → Prop
  | missing : q.nullable = false → query.lookup q.key = none → Breaks query q (.missingParam q.key)
  | invalid {raw : String} : q.kind = .integer → query.lookup q.key = some raw →
    (∀ n, ¬ IsSigned64 raw.toList n) → Breaks query q (.invalidParam q.key raw)

/-- The value that a parameter has in a query: the first text with its key, or the integer that this
text is written for. -/
inductive QueryParam.Takes (query : List (String × String)) (q : QueryParam) : ParamValue → Prop
  | text {raw : String} : q.kind = .string → query.lookup q.key = some raw →
    Takes query q (.text raw)
  | number {raw : String} {n : Int} : q.kind = .integer → query.lookup q.key = some raw →
    IsSigned64 raw.toList n → Takes query q (.number n)

/-- The parameter that a text stands for, if it has the type of the parameter. -/
def QueryParam.read? (q : QueryParam) (raw : String) : Option ParamValue :=
  match q.kind with
  | .string => some (.text raw)
  | .integer => (integer? raw.toList).map .number

/-- The parameter of the query that has a value, with that value. -/
def QueryParam.binding? (values : List (String × String)) (q : QueryParam) :
    Option (String × ParamValue) :=
  ((values.lookup q.key).bind q.read?).map (q.key, ·)

/-- The fault of a query in a parameter. -/
def QueryParam.fault? (query : List (String × String)) (q : QueryParam) : Option QueryFault :=
  match query.lookup q.key with
  | none => if q.nullable then none else some (.missingParam q.key)
  | some raw => if (q.read? raw).isNone then some (.invalidParam q.key raw) else none

/-! ## One parameter -/

section Parameter

variable {query : List (String × String)} {q : QueryParam}

theorem QueryParam.read?_eq_none_iff {raw : String} :
    q.read? raw = none ↔ q.kind = .integer ∧ ∀ n, ¬ IsSigned64 raw.toList n := by
  rw [read?, ← integer?_eq_none_iff]
  cases q.kind <;> simp

theorem QueryParam.fault?_eq_some_iff {fault : QueryFault} :
    q.fault? query = some fault ↔ q.Breaks query fault := by
  constructor
  · intro h
    unfold fault? at h
    cases hlookup : query.lookup q.key with
    | none =>
      rw [hlookup] at h
      cases hnull : q.nullable with
      | true => simp [hnull] at h
      | false =>
        obtain rfl : QueryFault.missingParam q.key = fault := by simpa [hnull] using h
        exact .missing hnull hlookup
    | some raw =>
      rw [hlookup] at h
      simp only [Option.isNone_iff_eq_none, Option.ite_none_right_eq_some, Option.some.injEq] at h
      obtain ⟨hread, rfl⟩ := h
      obtain ⟨hkind, hraw⟩ := read?_eq_none_iff.mp hread
      exact .invalid hkind hlookup hraw
  · rintro (⟨hnull, hlookup⟩ | ⟨hkind, hlookup, hraw⟩)
    · simp [fault?, hlookup, hnull]
    · simp [fault?, hlookup, read?_eq_none_iff.mpr ⟨hkind, hraw⟩]

theorem QueryParam.fault?_eq_none_iff :
    q.fault? query = none ↔ ∀ fault, ¬ q.Breaks query fault := by
  rw [Option.eq_none_iff_forall_ne_some]
  exact forall_congr' fun fault => not_congr fault?_eq_some_iff

theorem QueryParam.binding?_eq_some_iff {key : String} {value : ParamValue} :
    q.binding? query = some (key, value) ↔ q.key = key ∧ q.Takes query value := by
  have hread : (query.lookup q.key).bind q.read? = some value ↔ q.Takes query value := by
    rw [Option.bind_eq_some_iff]
    constructor
    · rintro ⟨raw, hlookup, h⟩
      unfold read? at h
      cases hkind : q.kind with
      | string =>
        rw [hkind] at h
        cases h
        exact .text hkind hlookup
      | integer =>
        rw [hkind] at h
        obtain ⟨n, hn, rfl⟩ := Option.map_eq_some_iff.mp h
        exact .number hkind hlookup (integer?_eq_some_iff.mp hn)
    · rintro (⟨hkind, hlookup⟩ | ⟨hkind, hlookup, hn⟩)
      · exact ⟨_, hlookup, by simp [read?, hkind]⟩
      · exact ⟨_, hlookup, by simp [read?, hkind, integer?_eq_some_iff.mpr hn]⟩
  rw [binding?, Option.map_eq_some_iff, ← hread]
  constructor
  · rintro ⟨found, hfound, h⟩
    cases h
    exact ⟨rfl, hfound⟩
  · rintro ⟨rfl, hvalue⟩
    exact ⟨value, hvalue, rfl⟩

/-- A parameter that is not broken has a value exactly if its key occurs. -/
theorem QueryParam.exists_takes_iff (h : ∀ fault, ¬ q.Breaks query fault) :
    (∃ value, q.Takes query value) ↔ q.key ∈ query.map (·.1) := by
  have hlookup : (∃ raw, query.lookup q.key = some raw) ↔ q.key ∈ query.map (·.1) := by
    rw [← Option.isSome_iff_exists, List.lookup_isSome_iff, List.mem_map]
    refine exists_congr fun entry => and_congr_right fun _ => ?_
    rw [beq_iff_eq, eq_comm]
  rw [← hlookup]
  constructor
  · rintro ⟨value, ⟨-, hraw⟩ | ⟨-, hraw, -⟩⟩ <;> exact ⟨_, hraw⟩
  · rintro ⟨raw, hraw⟩
    cases hkind : q.kind with
    | string => exact ⟨_, .text hkind hraw⟩
    | integer =>
      by_contra hnone
      exact h _ (.invalid hkind hraw fun n hn => hnone ⟨_, .number hkind hraw hn⟩)

/-- Binding a key for the first time puts it last. -/
theorem Params.bind_of_not_mem {params : Params} {key : String} (h : key ∉ params.map (·.1))
    (value : ParamValue) : params.bind key value = params ++ [(key, value)] := by
  rw [Params.bind, List.filter_eq_self.mpr]
  intro entry hentry
  simpa using fun he : entry.1 = key => h (he ▸ List.mem_map_of_mem hentry)

/-- **One parameter is read**: its fault, or its value behind what is bound already. -/
theorem bindQuery_eq {params : Params} (hfresh : q.key ∉ params.map (·.1)) :
    bindQuery query params q =
      match q.fault? query with
      | some fault => .error fault
      | none => .ok (params ++ (q.binding? query).toList) := by
  unfold bindQuery QueryParam.fault? QueryParam.binding? QueryParam.read?
  cases query.lookup q.key with
  | none => cases q.nullable <;> simp
  | some raw =>
    cases q.kind with
    | string => simp [Params.bind_of_not_mem hfresh]
    | integer => cases h : integer? raw.toList <;> simp [h, Params.bind_of_not_mem hfresh]

end Parameter

/-! ## All parameters -/

/-- **All parameters are read**: `declared` are those still to come, and none of their keys is bound
yet. The first fault ends it; without one, every parameter with a value is bound. -/
theorem foldlM_bindQuery_eq {query : List (String × String)} {declared : List QueryParam}
    (hn : (declared.map (·.key)).Nodup) {params : Params}
    (hfresh : ∀ q ∈ declared, q.key ∉ params.map (·.1)) :
    declared.foldlM (bindQuery query) params =
      match declared.findSome? (QueryParam.fault? query) with
      | some fault => .error fault
      | none => .ok (params ++ declared.filterMap (QueryParam.binding? query)) := by
  induction declared generalizing params with
  | nil => simp [pure_eq_ok]
  | cons q declared ih =>
    rw [List.forall_mem_cons] at hfresh
    rw [List.map_cons, List.nodup_cons] at hn
    rw [List.foldlM_cons, bindQuery_eq hfresh.1, List.findSome?_cons]
    cases q.fault? query with
    | some fault => rfl
    | none =>
      -- this step binds at most its own key, which does not come again
      have hfresh' : ∀ p ∈ declared, p.key ∉ (params ++ (q.binding? query).toList).map (·.1) := by
        intro p hp hmem
        rw [List.map_append, List.mem_append] at hmem
        rcases hmem with hmem | hmem
        · exact hfresh.2 p hp hmem
        · obtain ⟨entry, hentry, hkey⟩ := List.mem_map.mp hmem
          obtain ⟨v, -, rfl⟩ := Option.map_eq_some_iff.mp (Option.mem_toList.mp hentry)
          exact hn.1 (List.mem_map.mpr ⟨p, hp, hkey.symm⟩)
      refine (ih hn.2 hfresh').trans ?_
      rw [List.append_assoc, List.filterMap_cons]
      cases q.binding? query <;> rfl

section Bindings

variable {query : List (String × String)} {declared : List QueryParam}

/-- The first fault is that of the first parameter that is broken. -/
theorem findSome?_fault?_eq_some_iff {fault : QueryFault} :
    declared.findSome? (QueryParam.fault? query) = some fault ↔ ∃ before q after,
      declared = before ++ q :: after ∧ q.Breaks query fault ∧
        ∀ p ∈ before, ∀ other, ¬ p.Breaks query other := by
  simp only [List.findSome?_eq_some_iff, QueryParam.fault?_eq_some_iff,
    QueryParam.fault?_eq_none_iff]

theorem map_fst_bindings_sublist :
    ((declared.filterMap (QueryParam.binding? query)).map (·.1)).Sublist
      (declared.map (·.key)) := by
  induction declared with
  | nil => exact List.Sublist.refl _
  | cons q declared ih =>
    rw [List.filterMap_cons, List.map_cons]
    cases h : q.binding? query with
    | none => exact ih.cons _
    | some entry =>
      obtain ⟨key, value⟩ := entry
      obtain ⟨rfl, -⟩ := QueryParam.binding?_eq_some_iff.mp h
      exact ih.cons_cons _

/-- Distinct keys: a parameter is bound to the value that it takes. -/
theorem mem_bindings_iff (hn : (declared.map (·.key)).Nodup) {q : QueryParam} (hq : q ∈ declared)
    {value : ParamValue} :
    (q.key, value) ∈ declared.filterMap (QueryParam.binding? query) ↔ q.Takes query value := by
  simp only [List.mem_filterMap, QueryParam.binding?_eq_some_iff]
  constructor
  · rintro ⟨p, hp, hkey, hvalue⟩
    rwa [← List.inj_on_of_nodup_map hn hp hq hkey]
  · intro hvalue
    exact ⟨q, hq, rfl, hvalue⟩

/-- Where no parameter is broken, the keys that are bound are the declared ones that occur. -/
theorem mem_map_fst_bindings_iff (h : ∀ q ∈ declared, ∀ fault, ¬ q.Breaks query fault)
    {key : String} : key ∈ (declared.filterMap (QueryParam.binding? query)).map (·.1) ↔
      key ∈ declared.map (·.key) ∧ key ∈ query.map (·.1) := by
  constructor
  · intro hmem
    obtain ⟨⟨_, value⟩, hentry, rfl⟩ := List.mem_map.mp hmem
    obtain ⟨q, hq, hbinding⟩ := List.mem_filterMap.mp hentry
    obtain ⟨rfl, hvalue⟩ := QueryParam.binding?_eq_some_iff.mp hbinding
    exact ⟨List.mem_map_of_mem hq, (QueryParam.exists_takes_iff (h q hq)).mp ⟨value, hvalue⟩⟩
  · rintro ⟨hmem, hoccurs⟩
    obtain ⟨q, hq, rfl⟩ := List.mem_map.mp hmem
    obtain ⟨value, hvalue⟩ := (QueryParam.exists_takes_iff (h q hq)).mpr hoccurs
    exact List.mem_map.mpr ⟨(q.key, value), List.mem_filterMap.mpr
      ⟨q, hq, QueryParam.binding?_eq_some_iff.mpr ⟨rfl, hvalue⟩⟩, rfl⟩

end Bindings

end Specloom.Route
