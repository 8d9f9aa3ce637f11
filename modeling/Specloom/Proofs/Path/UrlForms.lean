import Specloom.Context.Endpoints
import Specloom.Proofs.Path.GoUrl
import Specloom.Proofs.Text.Reader

/-!
# One URL in two languages

The URL of an endpoint is written as a Go expression and as the body of a TypeScript template
literal. The two writers collect and escape texts in different ways, but each form can be read
without looking at how it was written, and both readings are the characters and values that the
path and the query of the template are made of.

## Main definitions

* `UrlAtom`: a character of a URL, or a value in it
* `readGoUrl?`: reads a Go expression that adds up literals and escaped values
* `readTemplate?`: reads the body of a template literal
* `params?`: reads the names in a list of parameters

## Main results

* `readGoUrl?_goUrl`: the Go expression is read as its summands
* `escapeTemplate_cons`, `readTemplate?_text`: a text in a template literal
* `readTemplate?_tsUrl`: the template literal is read as the parts of the URL
* `params?_intercalate`: a list of parameters is read as its names
* `Endpoint.url_forms_agree`: all forms of the URL of an endpoint agree
-/

namespace Specloom

namespace Path

open Go Text

/-! ## What a URL is made of -/

/-- What a URL is made of: the characters of its texts, and the values between them. Texts that
stand side by side are one text. -/
inductive UrlAtom where
  | char (c : Char)
  | value (name : List Char)
deriving DecidableEq, Repr

/-- The placeholder that a value belongs to. -/
def UrlAtom.name? : UrlAtom → Option String
  | .char _ => none
  | .value name => some (String.ofList name)

/-- What a part of a URL is made of. -/
def UrlPart.atoms : UrlPart → List UrlAtom
  | .text s => s.map .char
  | .pathValue name | .queryValue name => [.value name]

/-- What the URL of a template is made of: the segments of the path, and then for each pair of the
query a question mark or an ampersand, the key, an equals sign and the value. -/
def PathTemplate.urlAtoms (t : PathTemplate) : List UrlAtom :=
  t.urlParts.flatMap UrlPart.atoms

theorem isContent_atoms : IsContent UrlPart.atoms :=
  ⟨rfl, fun _ _ => List.map_append⟩

theorem filterMap_atoms (parts : List UrlPart) :
    (parts.flatMap UrlPart.atoms).filterMap UrlAtom.name? =
      (parts.filterMap UrlPart.name?).map String.ofList := by
  induction parts with
  | nil => rfl
  | cons part parts ih =>
    rw [List.flatMap_cons, List.filterMap_append, ih, List.filterMap_cons]
    cases part with
    | text s => simp [UrlPart.atoms, UrlPart.name?, UrlAtom.name?, List.filterMap_map]
    | _ => rfl

/-! ## Go expressions -/

/-- Reads a summand: a literal, or a call that escapes a value. -/
def summand? : List Token → Option UrlPart
  | [.text s] => some (.text s.toList)
  | [.word package, .symbol '.', .word function, .symbol '(', .word name, .symbol ')'] =>
    if package ≠ "url" then none
    else if function = "PathEscape" then some (.pathValue name.toList)
    else if function = "QueryEscape" then some (.queryValue name.toList)
    else none
  | _ => none

/-- Reads a Go expression that adds up summands. -/
def readGoUrl? (expression : String) : Option (List UrlPart) := do
  let tokens ← tokens? expression
  (tokens.splitOn (.symbol '+')).mapM summand?

theorem mapM_map_eq_some {α β : Type} {read? : β → Option α} {write : α → β} {xs : List α}
    (h : ∀ x ∈ xs, read? (write x) = some x) : (xs.map write).mapM read? = some xs := by
  induction xs with
  | nil => rfl
  | cons x xs ih =>
    rw [List.forall_mem_cons] at h
    rw [List.map_cons, List.mapM_cons, h.1, ih h.2]
    rfl

theorem summand?_goTokens (part : UrlPart) : summand? part.goTokens = some part := by
  cases part <;> simp [UrlPart.goTokens, summand?]

theorem plus_not_mem_goTokens (part : UrlPart) : .symbol '+' ∉ part.goTokens := by
  cases part <;> simp [UrlPart.goTokens]

/-- **The Go expression of a URL is read as its summands.** -/
theorem readGoUrl?_goUrl {raw : String} {t : PathTemplate} (h : PathTemplate.parse raw = .ok t) :
    readGoUrl? (goUrl t) = some t.summands := by
  have hsplit : (List.intercalate [.symbol '+'] (t.summands.map UrlPart.goTokens)).splitOn
      (.symbol '+') = t.summands.map UrlPart.goTokens := by
    refine List.splitOn_intercalate _ (fun tokens htokens => ?_) (by simpa using t.summands_ne_nil)
    obtain ⟨part, -, rfl⟩ := List.mem_map.mp htokens
    exact plus_not_mem_goTokens part
  rw [readGoUrl?, PathTemplate.tokens?_goUrl h, Option.bind_eq_bind, Option.bind_some, hsplit]
  exact mapM_map_eq_some fun part _ => summand?_goTokens part

/-! ## Template literals -/

/-- What stands before the name in a call of the function that encodes a value. -/
def encodeLead : List Char :=
  "encodeURIComponent(".toList

/-- The name in a call of the function that encodes a value. -/
def encodedName? (call : List Char) : Option (List Char) :=
  let name := (call.drop encodeLead.length).dropLast
  if isIdent name ∧ call = encodeLead ++ name ++ [')'] then some name else none

/-- Reads the body of a template literal: a backslash makes a character stand for itself, and a
dollar sign before a brace begins a substitution. `call` is what has been read of a substitution
that is open. A backslash before any other character has a meaning of its own, and a backquote would
end the literal. -/
def readTemplate? (call : Option (List Char)) : List Char → Option (List UrlAtom)
  | [] => if call.isNone then some [] else none
  | c :: rest =>
    match call with
    | some call =>
      if c = '}' then do return .value (← encodedName? call) :: (← readTemplate? none rest)
      else readTemplate? (some (call ++ [c])) rest
    | none =>
      match c, rest with
      | '\\', d :: rest =>
        if d = '\\' ∨ d = '\x60' ∨ d = '$' then (readTemplate? none rest).map (.char d :: ·)
        else none
      | '$', '{' :: rest => readTemplate? (some []) rest
      | c, rest =>
        if c = '\\' ∨ c = '\x60' then none else (readTemplate? none rest).map (.char c :: ·)

section Texts

variable {c : Char} {rest : List Char}

theorem readTemplate?_escaped (h : c = '\\' ∨ c = '\x60' ∨ c = '$') :
    readTemplate? none ('\\' :: c :: rest) = (readTemplate? none rest).map (.char c :: ·) := by
  rw [readTemplate?]
  exact if_pos h

theorem readTemplate?_plain (hslash : c ≠ '\\') (hquote : c ≠ '\x60')
    (hdollar : c = '$' → rest.head? ≠ some '{') :
    readTemplate? none (c :: rest) = (readTemplate? none rest).map (.char c :: ·) := by
  rw [readTemplate?]
  · exact if_neg (not_or.mpr ⟨hslash, hquote⟩)
  · exact fun d rest h _ => hslash h
  · rintro rest rfl rfl
    exact hdollar rfl rfl

/-- A backslash and a backquote are escaped wherever they stand. -/
def escapeMark (c : Char) : List Char :=
  if c = '\\' ∨ c = '\x60' then ['\\', c] else [c]

/-- Escaping puts no brace in front. -/
theorem head?_flatMap_escapeMark {text : List Char} (h : text.head? ≠ some '{') :
    (text.flatMap escapeMark).head? ≠ some '{' := by
  cases text with
  | nil => simp
  | cons c text =>
    rw [List.flatMap_cons, escapeMark]
    split
    · simp
    · simpa using h

/-- Of the three replacements, the first two are one. -/
theorem escapeTemplate_eq (text : List Char) : escapeTemplate text =
    replaceAll ['$', '{'] ['\\', '$', '{'] (text.flatMap escapeMark) := by
  have hmark (c : Char) : ((if c = '\\' then ['\\', '\\'] else [c]).flatMap fun c =>
      if c = '\x60' then ['\\', '\x60'] else [c]) = escapeMark c := by
    by_cases hslash : c = '\\'
    · subst hslash
      rfl
    · by_cases hquote : c = '\x60' <;> simp [escapeMark, hslash, hquote]
  rw [escapeTemplate, replaceAll_singleton, replaceAll_singleton, List.flatMap_assoc]
  simp only [hmark]

/-- **A text is escaped character by character**: backslashes, backquotes, and dollar signs before
a brace. -/
theorem escapeTemplate_cons (c : Char) (text : List Char) : escapeTemplate (c :: text) =
    if c = '\\' ∨ c = '\x60' ∨ (c = '$' ∧ text.head? = some '{') then
      '\\' :: c :: escapeTemplate text
    else c :: escapeTemplate text := by
  simp only [escapeTemplate_eq, List.flatMap_cons]
  by_cases hmark : c = '\\' ∨ c = '\x60'
  · have hne : c ≠ '$' := by
      rintro rfl
      simp at hmark
    rw [if_pos (or_assoc.mp (Or.inl hmark)), escapeMark, if_pos hmark, List.cons_append,
      replaceAll_cons_of_head? (by simp), List.singleton_append,
      replaceAll_cons_of_head? fun h => absurd h hne]
  · rw [escapeMark, if_neg hmark, List.singleton_append]
    rw [not_or] at hmark
    by_cases hdollar : c = '$' ∧ text.head? = some '{'
    · obtain ⟨rfl, hhead⟩ := hdollar
      obtain ⟨rest, rfl⟩ := List.head?_eq_some_iff.mp hhead
      have hkept : ('{' :: rest).flatMap escapeMark = '{' :: rest.flatMap escapeMark := rfl
      rw [if_pos (by simp), hkept, replaceAll_cons_of_head? (c := '{') (by simp)]
      exact replaceAll_append (List.cons_ne_nil '$' ['{']) _
    · have hkept : c = '$' → (text.flatMap escapeMark).head? ≠ some '{' := fun h =>
        head?_flatMap_escapeMark fun hhead => hdollar ⟨h, hhead⟩
      rw [if_neg (by simp [hmark, hdollar]), replaceAll_cons_of_head? hkept]

/-- Escaping a text puts no brace in front. -/
theorem head?_escapeTemplate_append {text rest : List Char} (htext : text.head? ≠ some '{')
    (hrest : rest.head? ≠ some '{') : (escapeTemplate text ++ rest).head? ≠ some '{' := by
  cases text with
  | nil => exact hrest
  | cons c text =>
    rw [escapeTemplate_cons]
    split
    · simp
    · simpa using htext

/-- **A text is read from what stands for it.** -/
theorem readTemplate?_text (text : List Char) (hrest : rest.head? ≠ some '{') :
    readTemplate? none (escapeTemplate text ++ rest) =
      (readTemplate? none rest).map (text.map .char ++ ·) := by
  induction text with
  | nil => simp [escapeTemplate]
  | cons c text ih =>
    have hread : readTemplate? none (escapeTemplate (c :: text) ++ rest) =
        (readTemplate? none (escapeTemplate text ++ rest)).map (.char c :: ·) := by
      rw [escapeTemplate_cons]
      split
      · rename_i hescaped
        exact readTemplate?_escaped (hescaped.imp_right (.imp_right And.left))
      · rename_i hplain
        simp only [not_or, not_and] at hplain
        exact readTemplate?_plain hplain.1 hplain.2.1 fun hdollar =>
          head?_escapeTemplate_append (hplain.2.2 hdollar) hrest
    rw [hread, ih, Option.map_map]
    rfl

/-- A substitution is read up to its closing brace. -/
theorem readTemplate?_call {inner : List Char} (h : '}' ∉ inner) (call : List Char) :
    readTemplate? (some call) (inner ++ '}' :: rest) = (encodedName? (call ++ inner)).bind
      fun name => (readTemplate? none rest).map (.value name :: ·) := by
  induction inner generalizing call with
  | nil =>
    rw [List.nil_append, List.append_nil, readTemplate?, if_pos rfl]
    cases encodedName? call with
    | none => rfl
    | some name => cases readTemplate? none rest <;> rfl
  | cons c inner ih =>
    rw [List.mem_cons, not_or] at h
    rw [List.cons_append, readTemplate?, if_neg (Ne.symm h.1), ih h.2, List.append_assoc,
      List.singleton_append]

theorem encodedName?_eq {name : List Char} (h : isIdent name = true) :
    encodedName? (encodeLead ++ name ++ [')']) = some name := by
  have hname : ((encodeLead ++ name ++ [')']).drop encodeLead.length).dropLast = name := by
    rw [List.append_assoc, List.drop_left, List.dropLast_concat]
  rw [encodedName?, hname]
  exact if_pos ⟨h, rfl⟩

theorem encodedValue_eq (name : List Char) :
    encodedValue "" name = '$' :: '{' :: (encodeLead ++ name ++ [')'] ++ ['}']) := by
  have htext : encodedValue "" name =
      "$\x7bencodeURIComponent(".toList ++ "".toList ++ name ++ ")\x7d".toList := rfl
  have hlead : "$\x7bencodeURIComponent(".toList = '$' :: '{' :: encodeLead := by decide +kernel
  have hend : ")\x7d".toList = [')'] ++ ['}'] := by decide +kernel
  simp only [htext, hlead, hend, String.toList_empty, List.append_nil, List.cons_append,
    List.append_assoc]

/-- **A value is read from its substitution.** -/
theorem readTemplate?_value {name : List Char} (h : isIdent name = true) :
    readTemplate? none (encodedValue "" name ++ rest) =
      (readTemplate? none rest).map (.value name :: ·) := by
  have hbrace : '}' ∉ encodeLead ++ name ++ [')'] := by
    have hlead : '}' ∉ encodeLead := by decide +kernel
    simpa [hlead] using not_mem_of_isIdent (by decide) h
  have hcall : encodedValue "" name ++ rest =
      '$' :: '{' :: ((encodeLead ++ name ++ [')']) ++ '}' :: rest) := by
    rw [encodedValue_eq, List.cons_append, List.cons_append, List.append_assoc _ ['}'],
      List.singleton_append]
  rw [hcall]
  show readTemplate? (some []) _ = _
  rw [readTemplate?_call hbrace, List.nil_append, encodedName?_eq h, Option.bind_some]

end Texts

/-! ## The URL in a template literal -/

/-- Literals and placeholders in which no brace is left over do not begin with a brace. -/
theorem head?_flatMap_ts {segments : List Segment} {rest : List Char}
    (hstray : ∀ s ∈ segments, PathTemplate.hasStrayBrace s = false)
    (hrest : rest.head? ≠ some '{') :
    (segments.flatMap (Segment.ts "") ++ rest).head? ≠ some '{' := by
  induction segments with
  | nil => exact hrest
  | cons s segments ih =>
    rw [List.forall_mem_cons] at hstray
    rw [List.flatMap_cons, List.append_assoc]
    cases s with
    | literal text =>
      refine head?_escapeTemplate_append (fun hhead => ?_) (ih hstray.2)
      have hbrace := List.mem_of_mem_head? hhead
      simp [PathTemplate.hasStrayBrace, hbrace] at hstray
    | placeholder name => simp [Segment.ts, encodedValue_eq]

theorem readTemplate?_segments {segments : List Segment} {rest : List Char}
    (hstray : ∀ s ∈ segments, PathTemplate.hasStrayBrace s = false)
    (hident : ∀ name, .placeholder name ∈ segments → isIdent name = true)
    (hrest : rest.head? ≠ some '{') :
    readTemplate? none (segments.flatMap (Segment.ts "") ++ rest) = (readTemplate? none rest).map
      ((segments.map Segment.urlPart).flatMap UrlPart.atoms ++ ·) := by
  induction segments with
  | nil => simp
  | cons s segments ih =>
    rw [List.forall_mem_cons] at hstray
    have ih := ih hstray.2 fun name hname => hident name (List.mem_cons_of_mem _ hname)
    rw [List.flatMap_cons, List.append_assoc]
    cases s with
    | literal text =>
      rw [Segment.ts, readTemplate?_text text (head?_flatMap_ts hstray.2 hrest), ih, Option.map_map]
      simp [Segment.urlPart, UrlPart.atoms, Function.comp_def]
    | placeholder name =>
      rw [Segment.ts, readTemplate?_value (hident name List.mem_cons_self), ih, Option.map_map]
      simp [Segment.urlPart, UrlPart.atoms, Function.comp_def]

theorem tsQuery_cons (lead : Char) (key name : String) (query : List (String × String)) :
    tsQuery lead ((key, name) :: query) = lead :: (escapeTemplate key.toList ++
      '=' :: (encodedValue "" name.toList ++ tsQuery '&' query)) := by
  simp [tsQuery]

theorem readTemplate?_query {lead : Char} (hlead : lead = '?' ∨ lead = '&')
    {query : List (String × String)} (hident : ∀ pair ∈ query, isIdent pair.2.toList = true) :
    readTemplate? none (tsQuery lead query) =
      some ((queryParts lead query).flatMap UrlPart.atoms) := by
  induction query generalizing lead with
  | nil => rfl
  | cons pair query ih =>
    obtain ⟨key, name⟩ := pair
    rw [List.forall_mem_cons] at hident
    have hlead {rest : List Char} : readTemplate? none (lead :: rest) =
        (readTemplate? none rest).map (.char lead :: ·) := by
      rcases hlead with rfl | rfl <;>
        exact readTemplate?_plain (by decide) (by decide) fun h => absurd h (by decide)
    -- behind a key comes an equals sign, so that no dollar sign at its end begins a substitution
    rw [tsQuery_cons, hlead, readTemplate?_text _ (by simp),
      readTemplate?_plain (by decide) (by decide) (fun h => absurd h (by decide)),
      readTemplate?_value hident.1, ih (Or.inr rfl) hident.2]
    simp [queryParts, UrlPart.atoms]

theorem head?_tsQuery (query : List (String × String)) : (tsQuery '?' query).head? ≠ some '{' := by
  cases query <;> simp [tsQuery]

/-- **The template literal of a URL is read as its parts.** -/
theorem readTemplate?_tsUrl {raw : String} {t : PathTemplate} (h : PathTemplate.parse raw = .ok t) :
    readTemplate? none (tsUrl t).toList = some t.urlAtoms := by
  obtain ⟨hpath, hquery, -, -, htext⟩ := PathTemplate.parse_eq_ok_iff.mp h
  have hstray : ∀ s ∈ t.segments, PathTemplate.hasStrayBrace s = false := by
    rw [PathTemplate.segments, htext, String.toList_ofList]
    exact (hpath.segmentsFrom [] rfl).1
  have hpairs : ∀ pair ∈ t.query, isIdent pair.2.toList = true := fun pair hpair =>
    ((PathTemplate.parseQuery_eq_ok_iff.mp hquery).2 pair hpair).isIdent
  rw [PathTemplate.urlAtoms, tsUrl, tsPath, String.toList_append, String.toList_ofList,
    String.toList_ofList,
    readTemplate?_segments hstray (fun name => isIdent_of_mem_segments) (head?_tsQuery t.query),
    readTemplate?_query (Or.inl rfl) hpairs, PathTemplate.urlParts, List.flatMap_append]
  rfl

/-! ## Parameters -/

/-- The name that a parameter declares before its type. -/
def paramName? (type : String) (param : List Char) : Option String :=
  match ident? (skipSpaces param) with
  | some (name, rest) => if rest = type.toList then some name else none
  | none => none

/-- Reads the names in a list of parameters, which all have one type. -/
def params? (type text : String) : Option (List String) :=
  if text = "" then some [] else (splitOn ',' text.toList).mapM (paramName? type)

/-- Blanks after the commas of a list belong to what stands behind them. -/
theorem intercalate_comma_blank (piece : List Char) (pieces : List (List Char)) :
    List.intercalate [',', ' '] (piece :: pieces) =
      List.intercalate [','] (piece :: pieces.map (' ' :: ·)) := by
  induction pieces generalizing piece with
  | nil => rfl
  | cons piece' pieces ih =>
    rw [List.intercalate_cons_cons, ih, List.map_cons, List.intercalate_cons_cons]
    cases pieces <;> simp [List.intercalate_cons_cons]

section Params

variable {type : String} (htype : ∀ c ∈ type.toList.head?, isIdentPart c = false)
include htype

theorem paramName?_eq {name : String} (hname : isIdent name.toList = true) {lead : List Char}
    (hlead : lead = [] ∨ lead = [' ']) :
    paramName? type (lead ++ (name.toList ++ type.toList)) = some name := by
  have hskip : skipSpaces (lead ++ (name.toList ++ type.toList)) = name.toList ++ type.toList := by
    obtain ⟨c, rest, hcons, hc⟩ : ∃ c rest, name.toList = c :: rest ∧ isIdentPart c = true := by
      cases hlist : name.toList with
      | nil => simp [hlist, isIdent] at hname
      | cons c rest => exact ⟨c, rest, rfl, isIdentPart_of_isIdent hname c (by simp [hlist])⟩
    have hblank : ¬ (c = ' ' ∨ c = '\t') := by
      rintro (rfl | rfl) <;> cases hc
    rcases hlead with rfl | rfl <;> simp [skipSpaces, hcons, hblank]
  rw [paramName?, hskip, reads_ident hname htype]
  exact if_pos rfl

omit htype in
/-- A list of parameters, cut at its commas. -/
theorem toList_params (name : String) (names : List String) :
    (", ".intercalate ((name :: names).map (· ++ type))).toList =
      List.intercalate [','] ((name.toList ++ type.toList) ::
        names.map fun n => ' ' :: (n.toList ++ type.toList)) := by
  have hsep : ", ".toList = [',', ' '] := rfl
  rw [String.toList_intercalate, hsep, List.map_map, List.map_cons, intercalate_comma_blank,
    List.map_map]
  simp [Function.comp_def]

/-- **A list of parameters is read as the names in it.** -/
theorem params?_intercalate (hcomma : ',' ∉ type.toList) {names : List String}
    (hnames : ∀ name ∈ names, isIdent name.toList = true) :
    params? type (", ".intercalate (names.map (· ++ type))) = some names := by
  cases names with
  | nil => simp [params?]
  | cons name names =>
    rw [List.forall_mem_cons] at hnames
    have hpiece {n : String} (hn : isIdent n.toList = true) : ',' ∉ n.toList ++ type.toList := by
      simpa [hcomma] using not_mem_of_isIdent (by decide) hn
    have hpieces : ∀ piece ∈ (name.toList ++ type.toList) ::
        names.map fun n => ' ' :: (n.toList ++ type.toList), ',' ∉ piece := by
      refine List.forall_mem_cons.mpr ⟨hpiece hnames.1, fun piece hmem => ?_⟩
      obtain ⟨n, hn, rfl⟩ := List.mem_map.mp hmem
      simpa using hpiece (hnames.2 n hn)
    have hsplit := splitOn_intercalate (List.cons_ne_nil _ _) hpieces
    rw [← toList_params] at hsplit
    -- the empty text has an empty piece only, and the first one has a name in it
    have hne : ", ".intercalate ((name :: names).map (· ++ type)) ≠ "" := fun hempty => by
      rw [hempty] at hsplit
      have hnil : [] = name.toList ++ type.toList := (List.cons.inj hsplit).1
      rw [(List.append_eq_nil_iff.mp hnil.symm).1] at hnames
      cases hnames.1
    have hfirst : paramName? type (name.toList ++ type.toList) = some name :=
      paramName?_eq htype hnames.1 (Or.inl rfl)
    have hrest : (names.map fun n => ' ' :: (n.toList ++ type.toList)).mapM (paramName? type) =
        some names :=
      mapM_map_eq_some fun n hn => paramName?_eq htype (hnames.2 n hn) (Or.inr rfl)
    rw [params?, if_neg hne, hsplit, List.mapM_cons, hfirst, hrest]
    rfl

end Params

end Path

/-! ## The forms of a URL -/

namespace Endpoint

open Specloom.Path

/-- **All forms of the URL of an endpoint agree.** The Go expression and the template literal are
read as the same characters and values, which are those of the path and then of the query; and both
lists of parameters declare the placeholders of these values, in their order. -/
theorem url_forms_agree {raw : String} {e : Endpoint} (h : PathTemplate.parse raw = .ok e.path) :
    (readGoUrl? e.view.goUrl).map (·.flatMap UrlPart.atoms) = some e.path.urlAtoms ∧
      readTemplate? none e.view.tsPath.toList = some e.path.urlAtoms ∧
      params? " string" e.view.goArgs = some (e.path.urlAtoms.filterMap UrlAtom.name?) ∧
      params? ": string" e.view.tsUrlArgs = some (e.path.urlAtoms.filterMap UrlAtom.name?) := by
  have hnames : e.path.urlAtoms.filterMap UrlAtom.name? = e.path.allPlaceholders := by
    rw [PathTemplate.urlAtoms, filterMap_atoms, PathTemplate.filterMap_urlParts h, List.map_map]
    simp [Function.comp_def]
  have hidents : ∀ name ∈ e.path.allPlaceholders, isIdent name.toList = true := fun _ =>
    PathTemplate.isIdent_of_mem_allPlaceholders h
  rw [hnames]
  refine ⟨?_, readTemplate?_tsUrl h, ?_, ?_⟩
  · show (readGoUrl? (goUrl e.path)).map _ = _
    rw [readGoUrl?_goUrl h, Option.map_some, PathTemplate.flatMap_summands isContent_atoms]
    rfl
  · refine params?_intercalate (fun c hc => ?_) (by decide) hidents
    obtain rfl : ' ' = c := Option.some.inj hc
    rfl
  · refine params?_intercalate (fun c hc => ?_) (by decide) hidents
    obtain rfl : ':' = c := Option.some.inj hc
    rfl

/-- Quotes, backslashes, backquotes and dollar signs, in the path and in a key. -/
theorem url_forms_agree_quotes :
    let path : PathTemplate := ⟨"/\"\\`$\x7bid\x7d?k$\x7bx\x7d\\=\x7bq\x7d",
      "/\"\\`$\x7bid\x7d", ["id"], [("k$\x7bx\x7d\\", "q")]⟩
    let e : Endpoint := ⟨"find", .get, path, "public", none, none, ""⟩
    PathTemplate.parse path.raw = .ok path ∧
      (readGoUrl? e.view.goUrl).map (·.flatMap UrlPart.atoms) = some path.urlAtoms ∧
      readTemplate? none e.view.tsPath.toList = some path.urlAtoms ∧
      params? " string" e.view.goArgs = some ["id", "q"] ∧
      params? ": string" e.view.tsUrlArgs = some ["id", "q"] := by
  intro path e
  have hparse : PathTemplate.parse path.raw = .ok path := by decide +kernel
  have hnames : path.urlAtoms.filterMap UrlAtom.name? = ["id", "q"] := by decide +kernel
  obtain ⟨hgo, hts, hgoArgs, htsArgs⟩ := @url_forms_agree path.raw e hparse
  exact ⟨hparse, hgo, hts, hnames ▸ hgoArgs, hnames ▸ htsArgs⟩

end Endpoint

end Specloom
