import Specloom.Proofs.Path.Segment
import Specloom.Proofs.Path.Template
import Specloom.Proofs.Text.Split

/-!
# The grammar of path templates

A path is a row of characters other than `?`, `{` and `}` and of placeholders, and a query is
empty or made of parts `key={placeholder}` with `&` between them. A template is a path with or
without a query in which no placeholder repeats. Reading accepts these templates and no other, and
what it returns is enough to write the template again.

## Main definitions

* `IsPath`: a path and the names of its placeholders
* `PathTemplate.IsPart`, `PathTemplate.writeQuery`: the parts of a query, and the query made of them
* `PathTemplate.IsTemplate`: a template with its path, its placeholders and its query

## Main results

* `isPath_iff`: a path is read as its placeholders and literals without braces
* `PathTemplate.parseQuery_eq_ok_iff`: a query is read as the parts it is made of
* `PathTemplate.parse_eq_ok_iff_grammar`: reading accepts the grammar
-/

namespace Specloom.Path

open Text

/-! ## Paths -/

/-- A path and the names of its placeholders, in order. -/
inductive IsPath : List Char → List String → Prop where
  | nil : IsPath [] []
  | char {c : Char} {rest : List Char} {names : List String} (hc : c ∉ ['?', '{', '}'])
      (h : IsPath rest names) : IsPath (c :: rest) names
  | placeholder {name rest : List Char} {names : List String} (hname : isIdent name = true)
      (h : IsPath rest names) :
      IsPath ('{' :: (name ++ '}' :: rest)) (String.ofList name :: names)

namespace IsPath

theorem not_mem_query {text : List Char} {names : List String} (h : IsPath text names) :
    '?' ∉ text := by
  induction h with
  | nil => exact List.not_mem_nil
  | char hc _ ih => simp_all [eq_comm]
  | placeholder hname _ ih => simp [not_mem_of_isIdent (c := '?') (by decide) hname, ih]

/-- The names of a path are identifiers. -/
theorem isIdent_of_mem {text : List Char} {names : List String} (h : IsPath text names)
    {name : String} (hname : name ∈ names) : isIdent name.toList = true := by
  induction h with
  | nil => cases hname
  | char _ _ ih => exact ih hname
  | placeholder hident _ ih =>
    rcases List.mem_cons.mp hname with rfl | hname
    · rwa [String.toList_ofList]
    · exact ih hname

/-- Literal text in front. -/
theorem append {literal : List Char} (hl : ∀ c ∈ literal, c ∉ ['?', '{', '}']) {text : List Char}
    {names : List String} (h : IsPath text names) : IsPath (literal ++ text) names := by
  induction literal with
  | nil => exact h
  | cons c literal ih =>
    exact .char (hl c List.mem_cons_self) (ih fun d hd => hl d (List.mem_cons_of_mem _ hd))

/-- A hash in front of a path is literal text. -/
theorem cons_hash_iff {text : List Char} {names : List String} :
    IsPath ('#' :: text) names ↔ IsPath text names := by
  constructor
  · rintro (_ | ⟨-, h⟩ | _)
    exact h
  · exact .char (by decide)

/-- The segments of a path with brace-free literal text before it: no brace is left over, and the
placeholders are those of the path. -/
theorem segmentsFrom {text : List Char} {names : List String} (h : IsPath text names)
    (literal : List Char) (hl : PathTemplate.hasStrayBrace (.literal literal) = false) :
    (∀ s ∈ segmentsFrom literal none text, PathTemplate.hasStrayBrace s = false) ∧
      ((segmentsFrom literal none text).filterMap Segment.name?).map String.ofList = names := by
  induction h generalizing literal with
  | nil =>
    rw [Path.segmentsFrom, consLiteral]
    split <;> simp [hl, Segment.name?]
  | @char c rest names hc _ ih =>
    simp only [List.mem_cons, List.not_mem_nil, or_false, not_or] at hc
    rw [segmentsFrom_char hc.2.1]
    exact ih _ (by simpa [PathTemplate.hasStrayBrace, Ne.symm hc.2.1, Ne.symm hc.2.2] using hl)
  | placeholder hname _ ih =>
    obtain ⟨hstray, hnames⟩ := ih [] rfl
    rw [segmentsFrom_placeholder hname, ← hnames, consLiteral]
    split
    · exact ⟨List.forall_mem_cons.mpr ⟨rfl, hstray⟩, rfl⟩
    · exact ⟨List.forall_mem_cons.mpr ⟨hl, List.forall_mem_cons.mpr ⟨rfl, hstray⟩⟩, rfl⟩

/-- Segments without stray braces and question marks are a path. -/
theorem of_segments {ss : List Segment}
    (hquery : ∀ s ∈ ss, '?' ∉ s.written)
    (hstray : ∀ s ∈ ss, PathTemplate.hasStrayBrace s = false)
    (hident : ∀ name, .placeholder name ∈ ss → isIdent name = true) :
    IsPath (ss.flatMap Segment.written) ((ss.filterMap Segment.name?).map String.ofList) := by
  induction ss with
  | nil => exact .nil
  | cons s ss ih =>
    rw [List.forall_mem_cons] at hquery hstray
    have hrest := ih hquery.2 hstray.2 fun name h => hident name (List.mem_cons_of_mem _ h)
    cases s with
    | literal text =>
      refine hrest.append fun c hc => ?_
      have hbraces : '{' ∉ text ∧ '}' ∉ text := by
        simpa [PathTemplate.hasStrayBrace] using hstray.1
      rintro hmem
      rcases List.mem_cons.mp hmem with rfl | hmem
      · exact hquery.1 hc
      · rcases List.mem_pair.mp hmem with rfl | rfl
        · exact hbraces.1 hc
        · exact hbraces.2 hc
    | placeholder name =>
      have := IsPath.placeholder (hident name List.mem_cons_self) hrest
      simpa [Segment.written, Segment.name?] using this

end IsPath

theorem checkBraces_eq_ok_iff {text : List Char} :
    PathTemplate.checkBraces text = .ok () ↔
      ∀ s ∈ segments text, PathTemplate.hasStrayBrace s = false := by
  rw [PathTemplate.checkBraces]
  split
  · rename_i s hs
    simp only [reduceCtorEq, false_iff]
    intro h
    have hstray := List.find?_some hs
    rw [h s (List.mem_of_find?_eq_some hs)] at hstray
    cases hstray
  · rename_i hnone
    simpa using List.find?_eq_none.mp hnone

/-- **A path is a text without question marks in which every brace belongs to a placeholder**, and
its names are those of its placeholders. -/
theorem isPath_iff {text : List Char} {names : List String} :
    IsPath text names ↔
      '?' ∉ text ∧ PathTemplate.checkBraces text = .ok () ∧
        names = (placeholders text).map String.ofList := by
  rw [checkBraces_eq_ok_iff]
  constructor
  · intro h
    obtain ⟨hstray, hnames⟩ := h.segmentsFrom [] rfl
    exact ⟨h.not_mem_query, hstray, hnames.symm⟩
  · rintro ⟨hquery, hstray, rfl⟩
    have h := IsPath.of_segments (fun s hs hc => hquery (mem_of_mem_written hs hc)) hstray
      fun name => isIdent_of_mem_segments
    rwa [flatMap_written_segments] at h

namespace PathTemplate

/-- The hash of a hash route changes nothing about its path. -/
theorem isPath_withoutHash {path : List Char} {names : List String} :
    IsPath (withoutHash path) names ↔ IsPath path names := by
  rw [withoutHash]
  split
  · rename_i h
    obtain ⟨rest, rfl⟩ := List.head?_eq_some_iff.mp h
    exact IsPath.cons_hash_iff.symm
  · rfl

/-- The braces of a path are checked without its hash. -/
theorem isPath_iff_checkBraces {path : List Char} {names : List String} :
    IsPath path names ↔
      '?' ∉ path ∧ checkBraces (withoutHash path) = .ok () ∧
        names = (Path.placeholders path).map String.ofList := by
  constructor
  · intro h
    exact ⟨h.not_mem_query, (isPath_iff.mp (isPath_withoutHash.mpr h)).2.1, (isPath_iff.mp h).2.2⟩
  · rintro ⟨hquery, hbraces, rfl⟩
    have hwithout : '?' ∉ withoutHash path := by
      rw [withoutHash]
      split
      · exact fun hc => hquery (List.mem_of_mem_tail hc)
      · exact hquery
    have h := isPath_withoutHash.mp (isPath_iff.mpr ⟨hwithout, hbraces, rfl⟩)
    rwa [← (isPath_iff.mp h).2.2]

/-! ## Queries -/

/-- A key and a placeholder that may stand in a query. -/
structure IsPart (part : String × String) : Prop where
  key_ne : part.1 ≠ ""
  not_mem_key : '=' ∉ part.1.toList ∧ '&' ∉ part.1.toList
  isIdent : isIdent part.2.toList = true

/-- A key and a placeholder as a part of a query. -/
def writePart (part : String × String) : List Char :=
  part.1.toList ++ '=' :: (Segment.placeholder part.2.toList).written

/-- Keys and placeholders as a query, which is empty if there are none. -/
def writeQuery (parts : List (String × String)) : List Char :=
  List.intercalate ['&'] (parts.map writePart)

theorem parsePart_eq_ok_iff {text : List Char} {part : String × String} :
    parsePart text = .ok part ↔
      text = writePart part ∧ part.1 ≠ "" ∧ '=' ∉ part.1.toList ∧
        Path.isIdent part.2.toList = true := by
  constructor
  · intro h
    rw [parsePart] at h
    split at h
    · rename_i key value hcut
      obtain ⟨rfl, hkey⟩ := splitFirst?_eq_some_iff.mp hcut
      split at h
      · rename_i name hsegments
        -- the segments of the value are the value
        have hvalue := flatMap_written_segments value
        rw [hsegments, List.flatMap_singleton] at hvalue
        have hmem : .placeholder name ∈ Path.segments value :=
          hsegments ▸ List.mem_singleton_self _
        have hname := isIdent_of_mem_segments hmem
        split at h
        · cases h
        · rename_i hne
          cases h
          simp [writePart, hvalue, hkey, hname, hne]
      · cases h
    · cases h
  · rintro ⟨rfl, hne, hkey, hname⟩
    have hcut : splitFirst? '=' (writePart part) =
        some (part.1.toList, (Segment.placeholder part.2.toList).written) :=
      splitFirst?_eq_some_iff.mpr ⟨rfl, hkey⟩
    simp [parsePart, hcut, segments_placeholder hname, hne]

theorem not_mem_writePart {part : String × String} (h : IsPart part) : '&' ∉ writePart part := by
  have hname : '&' ∉ part.2.toList := not_mem_of_isIdent (by decide) h.isIdent
  simp [writePart, Segment.written, h.not_mem_key.2, hname]

theorem splitOn_writeQuery {parts : List (String × String)} (hne : parts ≠ [])
    (h : ∀ part ∈ parts, IsPart part) : splitOn '&' (writeQuery parts) = parts.map writePart := by
  refine splitOn_intercalate (by simpa using hne) fun piece hpiece => ?_
  obtain ⟨part, hpart, rfl⟩ := List.mem_map.mp hpiece
  exact not_mem_writePart (h part hpart)

theorem writeQuery_ne_nil {parts : List (String × String)} (hne : parts ≠ [])
    (h : ∀ part ∈ parts, IsPart part) : writeQuery parts ≠ [] := by
  intro hnil
  have hsplit := splitOn_writeQuery hne h
  obtain ⟨part, parts, rfl⟩ := List.exists_cons_of_ne_nil hne
  rw [hnil, List.map_cons] at hsplit
  -- a part holds at least its equals sign, so it is no empty piece
  have hpart : writePart part = [] := (List.cons.inj hsplit).1.symm
  simp [writePart] at hpart

/-- The pieces of a query are accepted exactly if they are the parts it was made of. -/
theorem mapM_parsePart_eq_ok_iff {pieces : List (List Char)} {parts : List (String × String)}
    (hpieces : ∀ piece ∈ pieces, '&' ∉ piece) :
    pieces.mapM parsePart = .ok parts ↔
      pieces = parts.map writePart ∧ ∀ part ∈ parts, IsPart part := by
  rw [mapM_eq_ok]
  constructor
  · intro h
    induction h with
    | nil => simp
    | @cons piece part pieces parts hpart _ ih =>
      rw [List.forall_mem_cons] at hpieces
      obtain ⟨rfl, hparts⟩ := ih hpieces.2
      obtain ⟨rfl, hne, hkey, hname⟩ := parsePart_eq_ok_iff.mp hpart
      have hamp : '&' ∉ part.1.toList := fun hc => hpieces.1 (List.mem_append_left _ hc)
      exact ⟨rfl, List.forall_mem_cons.mpr ⟨⟨hne, ⟨hkey, hamp⟩, hname⟩, hparts⟩⟩
  · rintro ⟨rfl, hparts⟩
    rw [List.forall₂_map_left_iff, List.forall₂_same]
    intro part hpart
    have h := hparts part hpart
    exact parsePart_eq_ok_iff.mpr ⟨rfl, h.key_ne, h.not_mem_key.1, h.isIdent⟩

/-- **A query is read as the parts it is made of.** -/
theorem parseQuery_eq_ok_iff {query : List Char} {parts : List (String × String)} :
    parseQuery query = .ok parts ↔ query = writeQuery parts ∧ ∀ part ∈ parts, IsPart part := by
  rw [parseQuery]
  split
  · rename_i hnil
    subst hnil
    constructor
    · rintro ⟨⟩
      exact ⟨rfl, by simp⟩
    · rintro ⟨hquery, hparts⟩
      by_cases hne : parts = []
      · rw [hne]
      · exact absurd hquery.symm (writeQuery_ne_nil hne hparts)
  · rename_i hne
    rw [mapM_parsePart_eq_ok_iff fun piece => not_mem_of_mem_splitOn]
    constructor
    · rintro ⟨hpieces, hparts⟩
      exact ⟨by rw [writeQuery, ← hpieces, intercalate_splitOn], hparts⟩
    · rintro ⟨rfl, hparts⟩
      refine ⟨splitOn_writeQuery ?_ hparts, hparts⟩
      rintro rfl
      exact hne rfl

/-! ## Templates -/

/-- A template, made of a path, the names of its placeholders and the parts of a query if it has
one. -/
structure IsTemplate (raw path : String) (names : List String)
    (query : Option (List (String × String))) : Prop where
  isPath : IsPath path.toList names
  isPart : ∀ parts ∈ query, ∀ part ∈ parts, IsPart part
  /-- No placeholder repeats, within the path, within the query or between them. -/
  nodup : (names ++ (query.getD []).map (·.2)).Nodup
  /-- The text: a question mark and the query follow the path. -/
  raw_eq : raw.toList = path.toList ++ query.elim [] fun parts => '?' :: writeQuery parts

theorem parts_append {path : List Char} (h : '?' ∉ path) (query : List Char) :
    parts (String.ofList (path ++ '?' :: query)) = (path, query) := by
  rw [parts, String.toList_ofList, splitFirst?_eq_some_iff.mpr ⟨rfl, h⟩, Option.getD_some]

theorem parts_of_not_mem {path : List Char} (h : '?' ∉ path) :
    parts (String.ofList path) = (path, []) := by
  rw [parts, String.toList_ofList, splitFirst?_eq_none_iff.mpr h, Option.getD_none]

theorem withoutQuery_eq (raw : String) : withoutQuery raw = String.ofList (parts raw).1 := by
  rw [withoutQuery, parts]
  cases splitFirst? '?' raw.toList with
  | none => exact String.ofList_toList.symm
  | some cut => rfl

/-- Reading a template in its steps. -/
theorem parse_eq_ok_iff {raw : String} {t : PathTemplate} :
    parse raw = .ok t ↔
      IsPath (parts raw).1 t.placeholders ∧ parseQuery (parts raw).2 = .ok t.query ∧
        t.allPlaceholders.Nodup ∧ t.raw = raw ∧ t.path = String.ofList (parts raw).1 := by
  constructor
  · intro h
    obtain ⟨query, hbraces, hquery, rfl, hnodup⟩ := exists_of_parse h
    exact ⟨isPath_iff_checkBraces.mpr ⟨not_mem_parts_fst raw, hbraces, rfl⟩, hquery, hnodup, rfl,
      rfl⟩
  · obtain ⟨raw', path, names, query⟩ := t
    rintro ⟨hpath, hquery, hnodup, hraw, heq⟩
    obtain ⟨-, hbraces, hnames⟩ := isPath_iff_checkBraces.mp hpath
    dsimp only at *
    subst hraw heq hnames
    rw [parse_eq]
    refine check_bind_eq_ok.mpr ⟨hbraces, bind_eq_ok.mpr ⟨query, hquery, ?_⟩⟩
    dsimp only
    rw [(firstRepeat?_eq_none_iff _).mpr hnodup]

/-- The placeholders of a template are identifiers. -/
theorem isIdent_of_mem_allPlaceholders {raw : String} {t : PathTemplate} (h : parse raw = .ok t)
    {name : String} (hname : name ∈ t.allPlaceholders) : Path.isIdent name.toList = true := by
  obtain ⟨hpath, hquery, -⟩ := parse_eq_ok_iff.mp h
  rcases List.mem_append.mp hname with hname | hname
  · exact hpath.isIdent_of_mem hname
  · obtain ⟨part, hpart, rfl⟩ := List.mem_map.mp hname
    exact ((parseQuery_eq_ok_iff.mp hquery).2 part hpart).isIdent

/-- The path and the query of a template are what stands before and after its first question
mark. -/
theorem isTemplate_iff {raw path : String} {names : List String}
    {parts' : List (String × String)} :
    (∃ query, IsTemplate raw path names query ∧ parts' = query.getD []) ↔
      IsPath (parts raw).1 names ∧ parseQuery (parts raw).2 = .ok parts' ∧
        (names ++ parts'.map (·.2)).Nodup ∧ path = String.ofList (parts raw).1 := by
  constructor
  · rintro ⟨query, h, rfl⟩
    have hmark := h.isPath.not_mem_query
    have hraw : raw = String.ofList
        (path.toList ++ query.elim [] fun parts => '?' :: writeQuery parts) := by
      rw [← h.raw_eq, String.ofList_toList]
    cases query with
    | none =>
      rw [Option.elim_none, List.append_nil] at hraw
      rw [hraw, parts_of_not_mem hmark]
      exact ⟨h.isPath, rfl, h.nodup, String.ofList_toList.symm⟩
    | some ps =>
      rw [Option.elim_some] at hraw
      rw [hraw, parts_append hmark]
      exact ⟨h.isPath, parseQuery_eq_ok_iff.mpr ⟨rfl, h.isPart ps rfl⟩, h.nodup,
        String.ofList_toList.symm⟩
  · rintro ⟨hpath, hquery, hnodup, rfl⟩
    obtain ⟨hwritten, hparts⟩ := parseQuery_eq_ok_iff.mp hquery
    cases hcut : splitFirst? '?' raw.toList with
    | none =>
      have hraw : parts raw = (raw.toList, []) := by rw [parts, hcut, Option.getD_none]
      rw [hraw] at hpath hquery ⊢
      obtain rfl : [] = parts' := Except.ok.inj hquery
      exact ⟨none, ⟨by simpa using hpath, by simp, hnodup, by simp⟩, rfl⟩
    | some cut =>
      have hraw : parts raw = cut := by rw [parts, hcut, Option.getD_some]
      rw [hraw] at hpath hwritten ⊢
      refine ⟨some parts', ⟨by simpa using hpath, by simpa using hparts, hnodup, ?_⟩, rfl⟩
      rw [(splitFirst?_eq_some_iff.mp hcut).1, Option.elim_some, ← hwritten, String.toList_ofList]

/-- **Reading accepts the grammar of templates and loses nothing.** A text is accepted exactly if it
is a template, and what is returned is its path, which is the text before the query, the names of
the path and of the query in order, and with them all that the text was made of. -/
theorem parse_eq_ok_iff_grammar (raw : String) :
    ((∃ t, parse raw = .ok t) ↔ ∃ path names query, IsTemplate raw path names query) ∧
      ∀ t, parse raw = .ok t ↔
        ∃ query, IsTemplate raw t.path t.placeholders query ∧ t.query = query.getD [] ∧
          t.raw = raw ∧ t.path = withoutQuery raw := by
  have hparse (t : PathTemplate) : parse raw = .ok t ↔
      ∃ query, IsTemplate raw t.path t.placeholders query ∧ t.query = query.getD [] ∧
        t.raw = raw ∧ t.path = withoutQuery raw := by
    rw [parse_eq_ok_iff, withoutQuery_eq]
    constructor
    · rintro ⟨hpath, hquery, hnodup, hraw, heq⟩
      obtain ⟨query, htemplate, hparts⟩ := isTemplate_iff.mpr ⟨hpath, hquery, hnodup, heq⟩
      exact ⟨query, htemplate, hparts, hraw, heq⟩
    · rintro ⟨query, htemplate, hparts, hraw, -⟩
      obtain ⟨hpath, hquery, hnodup, heq⟩ := isTemplate_iff.mp ⟨query, htemplate, hparts⟩
      exact ⟨hpath, hquery, hnodup, hraw, heq⟩
  refine ⟨⟨?_, ?_⟩, hparse⟩
  · rintro ⟨t, ht⟩
    obtain ⟨query, htemplate, -⟩ := (hparse t).mp ht
    exact ⟨_, _, query, htemplate⟩
  · rintro ⟨path, names, query, htemplate⟩
    have hpath := (isTemplate_iff.mp ⟨query, htemplate, rfl⟩).2.2.2
    exact ⟨⟨raw, path, names, query.getD []⟩,
      (hparse _).mpr ⟨query, htemplate, rfl, rfl, hpath.trans (withoutQuery_eq raw).symm⟩⟩

end PathTemplate

end Specloom.Path
