import Specloom.Proofs.Path.Template
import Specloom.Proofs.Route.Capture
import Specloom.Proofs.Route.Query
import Specloom.Proofs.Url.Query

/-!
# URLs of routes read back

The URL that a route builds from values is matched by the same route, and the parameters of the
match are those values. Encoded values hold no separator of URLs, so the first question mark of the
URL is the one between path and query, the placeholders take the values they were filled with, and
the query is read as it was written.

## Main definitions

* `UiRoute.Fits`: values that a URL can be built from
* `UiRoute.paramsOf`: the values as parameters

## Main results

* `matchPath?_fillPath`: the path is matched with its values
* `foldlM_bindQuery`: the query is read with its values
* `matchRequest_splitUrl`: the round trip
-/

namespace Specloom.Route

open Specloom.Path Text

/-- A placeholder that has a value, with that value. -/
def textFor? (values : List (String × String)) (name : String) : Option (String × ParamValue) :=
  (values.lookup name).map fun v => (name, .text v)

namespace UiRoute

/-- The values of a route as parameters: each placeholder with its text, then each parameter of the
query that has a value, with that value read by its type. -/
def paramsOf (route : UiRoute) (values : List (String × String)) : Params :=
  route.path.placeholders.filterMap (textFor? values) ++
    route.query.filterMap (QueryParam.binding? values)

/-- Values that a URL can be built from and read back: no placeholder is without a value or has the
empty one, no required parameter is missing, and integers are written as such. -/
structure Fits (route : UiRoute) (values : List (String × String)) : Prop where
  placeholder : ∀ name ∈ route.path.placeholders, ∃ v, values.lookup name = some v ∧ v ≠ ""
  required : ∀ q ∈ route.query, q.nullable = false → ∃ v, values.lookup q.key = some v
  integer : ∀ q ∈ route.query, q.kind = .integer → ∀ v, values.lookup q.key = some v →
    ∃ n, integer? v.toList = some n

end UiRoute

/-! ## Parameters -/

/-- Binding distinct keys adds them in order. -/
theorem Params.foldl_bind {entries : List (String × ParamValue)} {params : Params}
    (hn : (entries.map (·.1)).Nodup) (hd : ∀ key ∈ entries.map (·.1), key ∉ params.map (·.1)) :
    entries.foldl (fun params entry => params.bind entry.1 entry.2) params = params ++ entries := by
  induction entries generalizing params with
  | nil => simp
  | cons entry entries ih =>
    simp only [List.map_cons, List.nodup_cons, List.forall_mem_cons] at hn hd
    -- the first entry is new, so it is put last; the others are no key of it either
    rw [List.foldl_cons, Params.bind_of_not_mem hd.1, ih hn.2, List.append_assoc,
      List.singleton_append]
    intro key hkey
    have hne : key ≠ entry.1 := fun he => hn.1 (he ▸ hkey)
    simpa [hne] using hd.2 key hkey

/-! ## The path -/

/-- The encoded value of a placeholder. -/
def encodedValue (values : List (String × String)) (name : List Char) : List Char :=
  Url.encode ((values.lookup (String.ofList name)).getD "").toList

/-- The path of a route with the encoded values in place. -/
def fillPath (values : List (String × String)) (segs : List Segment) : List Char :=
  segs.flatMap (fill (encodedValue values))

theorem mapM_fillSegment? {values : List (String × String)} {segs : List Segment}
    (h : ∀ name ∈ segs.filterMap Segment.name?, ∃ v, values.lookup (String.ofList name) = some v) :
    segs.mapM (fillSegment? values) = some (segs.map (fill (encodedValue values))) := by
  induction segs with
  | nil => rfl
  | cons segment rest ih =>
    cases segment with
    | literal text => simp [fillSegment?, fill, ih h]
    | placeholder name =>
      simp only [List.filterMap_cons, Segment.name?, List.forall_mem_cons] at h
      obtain ⟨⟨v, hv⟩, h⟩ := h
      simp [fillSegment?, fill, encodedValue, hv, ih h]

theorem pieceValue_encode (v : String) : pieceValue (Url.encode v.toList) = .text v := by
  simp [pieceValue, Url.decode?_encode]

/-- The placeholders of a route whose values fit are matched with those values. -/
theorem encodedValue_of_fits {route : UiRoute} {values : List (String × String)}
    (hv : route.Fits values) {name : List Char}
    (hname : String.ofList name ∈ route.path.placeholders) :
    ∃ v, values.lookup (String.ofList name) = some v ∧ encodedValue values name ≠ [] ∧
      '/' ∉ encodedValue values name ∧ pieceValue (encodedValue values name) = .text v := by
  obtain ⟨v, hlookup, hne⟩ := hv.placeholder _ hname
  have hvalue : encodedValue values name = Url.encode v.toList := by
    rw [encodedValue, hlookup, Option.getD_some]
  rw [hvalue]
  refine ⟨v, hlookup, Url.encode_ne_nil ?_, Url.not_mem_encode (by decide) _, pieceValue_encode v⟩
  simpa using hne

/-- The path made of the values is matched, and each placeholder has its value. -/
theorem matchPath?_fillPath {route : UiRoute} {values : List (String × String)}
    (hnames : route.path.placeholders =
      (route.path.segments.filterMap Segment.name?).map String.ofList)
    (hnodup : route.path.placeholders.Nodup) (hs : slashBetween route.path.segments = true)
    (hv : route.Fits values) :
    route.matchPath? (String.ofList (fillPath values route.path.segments)) =
      some (route.path.placeholders.filterMap (textFor? values)) := by
  have hfit : ∀ name ∈ route.path.segments.filterMap Segment.name?,
      ∃ v, values.lookup (String.ofList name) = some v ∧ encodedValue values name ≠ [] ∧
        '/' ∉ encodedValue values name ∧ pieceValue (encodedValue values name) = .text v :=
    fun name hname => encodedValue_of_fits hv (hnames ▸ List.mem_map_of_mem hname)
  rw [UiRoute.matchPath?, String.toList_ofList, fillPath, capture?_flatMap_fill hs
    fun name hname => ?_, Option.map_some, hnames]
  -- the pieces are the encoded values in the order of the names, so they bind in that order
  · rw [hnames] at hnodup
    generalize route.path.segments.filterMap Segment.name? = names at hfit hnodup
    have hentries : (names.map String.ofList).filterMap (textFor? values) =
        names.map fun name => (String.ofList name, pieceValue (encodedValue values name)) := by
      rw [List.filterMap_map, ← List.filterMap_eq_map]
      refine List.filterMap_congr fun name hname => ?_
      obtain ⟨v, hlookup, -, -, hpiece⟩ := hfit name hname
      simp [textFor?, hlookup, hpiece]
    have hkeys : ((names.map fun name =>
        (String.ofList name, pieceValue (encodedValue values name))).map (·.1)).Nodup := by
      simpa [List.map_map, Function.comp_def] using hnodup
    -- nothing is bound at the start
    have hfresh : ∀ key : String, key ∉ ([] : Params).map (·.1) := by simp
    have hbind := Params.foldl_bind hkeys fun key _ => hfresh key
    rw [List.foldl_map] at hbind
    rw [hentries, List.zip_map', List.foldl_map]
    exact congrArg some hbind
  · obtain ⟨v, -, hne, hslash, -⟩ := hfit name hname
    exact ⟨hne, hslash⟩

/-! ## The query -/

/-- The parameters of the query that have a value, with their texts. -/
def givenQuery (values : List (String × String)) (query : List QueryParam) :
    List (String × String) :=
  query.filterMap fun q => (values.lookup q.key).map (q.key, ·)

theorem lookup_givenQuery {values : List (String × String)} {query : List QueryParam}
    {key : String} (hkey : key ∈ query.map (·.key)) :
    (givenQuery values query).lookup key = values.lookup key := by
  induction query with
  | nil => cases hkey
  | cons q query ih =>
    by_cases hq : q.key = key
    · subst hq
      cases hvalue : values.lookup q.key with
      | none =>
        -- a key without a value is not given by a later parameter of the same key either
        refine List.lookup_eq_none_iff.mpr fun entry hentry => ?_
        obtain ⟨q', -, hq'⟩ := List.mem_filterMap.mp hentry
        obtain ⟨v, hv, rfl⟩ := Option.map_eq_some_iff.mp hq'
        refine bne_iff_ne.mpr fun he : q.key = q'.key => ?_
        rw [← he, hvalue] at hv
        cases hv
      | some v => simp [givenQuery, hvalue]
    -- this parameter has another key, so it is passed over
    · have hrest : key ∈ query.map (·.key) := (List.mem_cons.mp hkey).resolve_left (Ne.symm hq)
      have hskip : (givenQuery values (q :: query)).lookup key =
          (givenQuery values query).lookup key := by
        unfold givenQuery
        cases hvalue : values.lookup q.key with
        | none => simp [hvalue]
        | some v =>
          have hbeq : (key == q.key) = false := by simpa using Ne.symm hq
          simp [hvalue, List.lookup_cons, hbeq]
      rw [hskip, ih hrest]

/-- A parameter whose value fits is not broken. -/
theorem fault?_of_fits {route : UiRoute} {values given : List (String × String)}
    (hv : route.Fits values) {q : QueryParam} (hq : q ∈ route.query)
    (hgiven : given.lookup q.key = values.lookup q.key) : q.fault? given = none := by
  rw [QueryParam.fault?_eq_none_iff]
  rintro fault (⟨hnull, hlookup⟩ | ⟨hkind, hlookup, hraw⟩)
  · obtain ⟨v, hsome⟩ := hv.required q hq hnull
    rw [hgiven, hsome] at hlookup
    cases hlookup
  · obtain ⟨n, hn⟩ := hv.integer q hq hkind _ (hgiven ▸ hlookup)
    exact hraw n (integer?_eq_some_iff.mp hn)

/-- **The query is read with its values**, parameter by parameter: `query` are the parameters that
are still to come, and none of their keys is bound yet. -/
theorem foldlM_bindQuery {route : UiRoute} {values given : List (String × String)}
    (hv : route.Fits values) {query : List QueryParam} (hsub : ∀ q ∈ query, q ∈ route.query)
    (hgiven : ∀ q ∈ query, given.lookup q.key = values.lookup q.key)
    (hn : (query.map (·.key)).Nodup) {params : Params}
    (hfresh : ∀ q ∈ query, q.key ∉ params.map (·.1)) :
    query.foldlM (bindQuery given) params =
      .ok (params ++ query.filterMap (QueryParam.binding? values)) := by
  have hfaults : query.findSome? (QueryParam.fault? given) = none :=
    List.findSome?_eq_none_iff.mpr fun q hq => fault?_of_fits hv (hsub q hq) (hgiven q hq)
  have hbindings : query.filterMap (QueryParam.binding? given) =
      query.filterMap (QueryParam.binding? values) :=
    List.filterMap_congr fun q hq => by rw [QueryParam.binding?, QueryParam.binding?, hgiven q hq]
  rw [foldlM_bindQuery_eq hn hfresh, hfaults, hbindings]

/-! ## The round trip -/

theorem url?_of_fits {route : UiRoute} {values : List (String × String)} (hv : route.Fits values)
    (hnames : route.path.placeholders =
      (route.path.segments.filterMap Segment.name?).map String.ofList) :
    route.url? values = some (String.ofList (fillPath values route.path.segments ++
      if givenQuery values route.query = [] then []
      else '?' :: Url.writeQuery (givenQuery values route.query))) := by
  -- Every placeholder has a value, so the path can be filled.
  have hgiven : ∀ name ∈ route.path.segments.filterMap Segment.name?,
      ∃ v, values.lookup (String.ofList name) = some v := by
    intro name hname
    obtain ⟨v, hlookup, -⟩ := hv.placeholder (String.ofList name)
      (hnames ▸ List.mem_map_of_mem hname)
    exact ⟨v, hlookup⟩
  -- The query is written from the parameters that have a value.
  have hparts : route.query.filterMap (queryPart? values) =
      (givenQuery values route.query).map Url.writePart := by
    rw [givenQuery, List.map_filterMap]
    refine List.filterMap_congr fun q _ => ?_
    rw [queryPart?, Option.map_map]
    rfl
  rw [UiRoute.url?, mapM_fillSegment? hgiven, hparts]
  simp [fillPath, Url.writeQuery, List.flatMap_def]

theorem splitUrl_append_query {path : List Char} (hpath : '?' ∉ path)
    (given : List (String × String)) :
    Url.splitUrl (String.ofList (path ++
      if given = [] then [] else '?' :: Url.writeQuery given)) = (String.ofList path, given) := by
  rw [Url.splitUrl, String.toList_ofList]
  by_cases hgiven : given = []
  · rw [if_pos hgiven, List.append_nil, splitFirst?_eq_none_iff.mpr hpath, hgiven]
  · rw [if_neg hgiven, splitFirst?_eq_some_iff.mpr ⟨rfl, hpath⟩]
    simp only [Url.parseQuery_writeQuery hgiven]

/-- **The URL of a route is matched with the values it was built from**: for an accepted path
template in which a slash stands between any two placeholders, query parameters of distinct keys
that are no placeholders, and values that fit, there is a URL, and splitting and matching it gives
each placeholder its text, each present parameter its value by its type, and nothing else. -/
theorem matchRequest_splitUrl {raw id : String} {template : PathTemplate} {query : List QueryParam}
    {values : List (String × String)} (hparse : PathTemplate.parse raw = .ok template)
    (hslash : slashBetween template.segments = true) (hkeys : (query.map (·.key)).Nodup)
    (hdisjoint : ∀ q ∈ query, q.key ∉ template.placeholders)
    (hv : UiRoute.Fits ⟨id, template, query⟩ values) :
    ∃ url, UiRoute.url? ⟨id, template, query⟩ values = some url ∧
      UiRoute.matchRequest ⟨id, template, query⟩ (Url.splitUrl url).1 (Url.splitUrl url).2 =
        .ok (some (UiRoute.paramsOf ⟨id, template, query⟩ values)) := by
  have hnames := PathTemplate.placeholders_of_parse hparse
  refine ⟨_, url?_of_fits hv hnames, ?_⟩
  -- Neither a literal nor an encoded value holds a question mark, so the URL is split at the query.
  have hpath : '?' ∉ fillPath values template.segments := by
    intro hmem
    obtain ⟨segment, hsegment, hc⟩ := List.mem_flatMap.mp hmem
    cases segment with
    | literal text =>
      exact PathTemplate.not_mem_path_of_parse hparse (mem_of_mem_written hsegment hc)
    | placeholder name => exact Url.not_mem_encode (by decide) _ hc
  rw [splitUrl_append_query hpath, UiRoute.matchRequest,
    matchPath?_fillPath hnames (PathTemplate.nodup_placeholders_of_parse hparse) hslash hv]
  -- Every given parameter is declared, so the request is not refused for an unknown one.
  have hdeclared : ¬ ((givenQuery values query).any fun entry =>
      !query.any fun q => q.key == entry.1) = true := by
    intro h
    obtain ⟨entry, hentry, hnot⟩ := List.any_eq_true.mp h
    obtain ⟨q, hq, hgiven⟩ := List.mem_filterMap.mp hentry
    obtain ⟨v, -, rfl⟩ := Option.map_eq_some_iff.mp hgiven
    rw [List.any_eq_true.mpr ⟨q, hq, beq_self_eq_true q.key⟩] at hnot
    cases hnot
  -- No parameter of the query is a placeholder, so the placeholders keep their values.
  have hfresh : ∀ q ∈ query,
      q.key ∉ (template.placeholders.filterMap (textFor? values)).map (·.1) := by
    intro q hq hmem
    obtain ⟨entry, hentry, hkey⟩ := List.mem_map.mp hmem
    obtain ⟨name, hname, hsome⟩ := List.mem_filterMap.mp hentry
    obtain ⟨v, -, rfl⟩ := Option.map_eq_some_iff.mp hsome
    exact hdisjoint q hq (hkey ▸ hname)
  have hread := foldlM_bindQuery hv (fun _ hq => hq)
    (fun _ hq => lookup_givenQuery (List.mem_map_of_mem hq)) hkeys hfresh
  show (if _ then _ else _) = _
  rw [if_neg hdeclared, hread]
  rfl

/-- The values of an account page whose texts hold separators of URLs and a letter beyond ASCII. -/
theorem matchRequest_splitUrl_account :
    ∃ url, UiRoute.url? ⟨"account", ⟨"/accounts/{id}/at-{tab}", "/accounts/{id}/at-{tab}",
        ["id", "tab"], []⟩, [⟨"q", .string, false⟩, ⟨"page", .integer, true⟩,
        ⟨"size", .integer, true⟩]⟩
        [("id", "é/1"), ("tab", "a b?"), ("q", "x&y=+"), ("page", "-7")] = some url ∧
      UiRoute.matchRequest ⟨"account", ⟨"/accounts/{id}/at-{tab}", "/accounts/{id}/at-{tab}",
        ["id", "tab"], []⟩, [⟨"q", .string, false⟩, ⟨"page", .integer, true⟩,
        ⟨"size", .integer, true⟩]⟩ (Url.splitUrl url).1 (Url.splitUrl url).2 =
        .ok (some [("id", .text "é/1"), ("tab", .text "a b?"), ("q", .text "x&y=+"),
          ("page", .number (-7))]) :=
  matchRequest_splitUrl (show PathTemplate.parse "/accounts/{id}/at-{tab}" = _ by decide +kernel)
    (by decide +kernel) (by decide) (by decide)
    { placeholder := by
        intro name hname
        rcases List.mem_pair.mp hname with rfl | rfl
        · exact ⟨"é/1", by decide +kernel, by decide⟩
        · exact ⟨"a b?", by decide +kernel, by decide⟩
      required := by
        intro q hq hnull
        simp only [List.mem_cons, List.not_mem_nil, or_false] at hq
        rcases hq with rfl | rfl | rfl
        · exact ⟨"x&y=+", by decide +kernel⟩
        · cases hnull
        · cases hnull
      integer := by
        intro q hq hkind v hv
        simp only [List.mem_cons, List.not_mem_nil, or_false] at hq
        rcases hq with rfl | rfl | rfl
        · cases hkind
        · cases Option.some.inj (hv.symm.trans (show _ = some "-7" by decide +kernel))
          exact ⟨-7, by decide +kernel⟩
        · cases hv.symm.trans (show _ = none by decide +kernel) }

end Specloom.Route
