import Specloom.Path.Url
import Specloom.Proofs.Go.Token
import Specloom.Proofs.Path.Grammar

/-!
# URLs in Go

The URL of a template is a Go expression that adds up literals and calls of the two functions that
escape a value. The calls are among its tokens: what a literal says is one token, so a path that
looks like such a call is none.

## Main definitions

* `Go.Calls`: an expression calls a function of a package
* `UrlPart.goTokens`: the tokens of a part of a URL
* `IsContent`: a content of parts that does not depend on how texts are cut

## Main results

* `flatMap_summands`: the sum has the content of the URL
* `tokens?_goUrl`: the tokens of a URL are those of its parts with plus signs between them
* `calls_goUrl_iff`: a URL calls a function that escapes exactly if it has a placeholder
-/

namespace Specloom

/-- A Go expression calls a function of a package. -/
def Go.Calls (expression package function : String) : Prop :=
  ∃ tokens, Go.tokens? expression = some tokens ∧
    [.word package, .symbol '.', .word function, .symbol '('] <:+: tokens

namespace Path

open Go Text

/-! ## Parts -/

/-- The placeholder that a part of a URL shows the value of. -/
def UrlPart.name? : UrlPart → Option (List Char)
  | .text _ => none
  | .pathValue name | .queryValue name => some name

/-- The tokens of a part as a Go expression. -/
def UrlPart.goTokens : UrlPart → List Token
  | .text s => [.text (String.ofList s)]
  | .pathValue name =>
    [.word "url", .symbol '.', .word "PathEscape", .symbol '(', .word (String.ofList name),
      .symbol ')']
  | .queryValue name =>
    [.word "url", .symbol '.', .word "QueryEscape", .symbol '(', .word (String.ofList name),
      .symbol ')']

theorem isWord_of_isIdent {name : List Char} (h : isIdent name = true) :
    IsWord (String.ofList name) := by
  rw [IsWord, String.toList_ofList]
  refine ⟨?_, isIdentPart_of_isIdent h⟩
  rintro rfl
  cases h

theorem UrlPart.reads_go {part : UrlPart} (h : ∀ name ∈ part.name?, isIdent name = true)
    (ends : Bool) : Reads (.between ends) part.go part.goTokens (.between true) := by
  cases part with
  | text s =>
    have hliteral := reads_literal (String.ofList s) ends
    rwa [Text.QuoteStyle.literal, String.toList_ofList] at hliteral
  | pathValue name =>
    have hcall : Reads (.between ends) "url.PathEscape("
        [.word "url", .symbol '.', .word "PathEscape", .symbol '('] (.between false) := by
      cases ends <;> rfl
    have hname := reads_word (isWord_of_isIdent (h name rfl)) false
    exact (hcall.append hname).append_word fun _ => rfl
  | queryValue name =>
    have hcall : Reads (.between ends) "url.QueryEscape("
        [.word "url", .symbol '.', .word "QueryEscape", .symbol '('] (.between false) := by
      cases ends <;> rfl
    have hname := reads_word (isWord_of_isIdent (h name rfl)) false
    exact (hcall.append hname).append_word fun _ => rfl

theorem reads_sum {parts : List UrlPart} (hne : parts ≠ [])
    (h : ∀ part ∈ parts, ∀ name ∈ part.name?, isIdent name = true) (ends : Bool) :
    Reads (.between ends) (" + ".intercalate (parts.map UrlPart.go))
      (List.intercalate [.symbol '+'] (parts.map UrlPart.goTokens)) (.between true) := by
  induction parts generalizing ends with
  | nil => exact absurd rfl hne
  | cons part parts ih =>
    rw [List.forall_mem_cons] at h
    have hpart := UrlPart.reads_go h.1
    cases parts with
    | nil => simpa using hpart ends
    | cons part' parts =>
      have hplus : Reads (.between true) " + " [.symbol '+'] (.between false) := rfl
      have hrest := ih (List.cons_ne_nil _ _) h.2 false
      simpa [String.intercalate_cons_cons, List.intercalate_cons_cons] using
        ((hpart ends).append hplus).append hrest

/-! ## Sums -/

/-- A content of parts, which does not depend on how texts are cut into parts. -/
structure IsContent {β : Type} (content : UrlPart → List β) : Prop where
  text_nil : content (.text []) = []
  text_append : ∀ s s', content (.text (s ++ s')) = content (.text s) ++ content (.text s')

/-- The values among parts are a content. -/
theorem isContent_values :
    IsContent fun part => match part with
      | .text _ => []
      | part => [part] :=
  ⟨rfl, fun _ _ => rfl⟩

namespace GoSum

variable {β : Type} {content : UrlPart → List β}

/-- The content of what has been written of a sum. -/
def total (content : UrlPart → List β) (sum : GoSum) : List β :=
  sum.parts.flatMap content ++ content (.text sum.text)

theorem total_addSegment (h : IsContent content) (sum : GoSum) (s : Segment) :
    (sum.addSegment s).total content = sum.total content ++ content s.urlPart := by
  cases s with
  | literal text => simp [addSegment, total, h.text_append, Segment.urlPart]
  | placeholder name =>
    by_cases htext : sum.text = [] <;>
      simp [addSegment, total, htext, h.text_nil, Segment.urlPart]

theorem total_addQuery (h : IsContent content) (sum : GoSum) (lead : Char)
    (query : List (String × String)) : (sum.addQuery lead query).total content =
      sum.total content ++ (queryParts lead query).flatMap content := by
  induction query generalizing sum lead with
  | nil => simp [addQuery, queryParts]
  | cons pair query ih =>
    -- what has been collected of the path joins the text before the first value
    rw [addQuery, ih, queryParts]
    simp only [total, List.flatMap_append, List.flatMap_cons, List.flatMap_nil, h.text_nil,
      h.text_append sum.text, List.append_nil, List.append_assoc]

theorem flatMap_finish (h : IsContent content) (sum : GoSum) :
    sum.finish.flatMap content = sum.total content := by
  rw [finish, total]
  split
  · simp
  · rename_i hnot
    have htext : sum.text = [] := not_ne_iff.mp fun hne => hnot (Or.inl hne)
    rw [htext, h.text_nil, List.append_nil]

theorem finish_ne_nil (sum : GoSum) : sum.finish ≠ [] := by
  rw [finish]
  split
  · simp
  · rename_i hnot
    exact fun hnil => hnot (Or.inr hnil)

end GoSum

/-! ## URLs of templates -/

theorem filterMap_queryParts (lead : Char) (query : List (String × String)) :
    (queryParts lead query).filterMap UrlPart.name? = query.map (·.2.toList) := by
  induction query generalizing lead with
  | nil => rfl
  | cons part query ih => exact congrArg (part.2.toList :: ·) (ih '&')

namespace PathTemplate

variable {raw : String} {t : PathTemplate}

/-- The names in the URL of a template are its placeholders. -/
theorem filterMap_urlParts (h : parse raw = .ok t) :
    t.urlParts.filterMap UrlPart.name? = t.allPlaceholders.map String.toList := by
  have hsegment : UrlPart.name? ∘ Segment.urlPart = Segment.name? := by
    funext s
    cases s <;> rfl
  rw [urlParts, List.filterMap_append, filterMap_queryParts, List.filterMap_map, hsegment,
    allPlaceholders, List.map_append, placeholders_of_parse h]
  simp [Function.comp_def]

theorem isIdent_of_mem_urlParts (h : parse raw = .ok t) {part : UrlPart} (hpart : part ∈ t.urlParts)
    {name : List Char} (hname : part.name? = some name) : isIdent name = true := by
  have hmem : name ∈ t.urlParts.filterMap UrlPart.name? :=
    List.mem_filterMap.mpr ⟨part, hpart, hname⟩
  rw [filterMap_urlParts h] at hmem
  obtain ⟨placeholder, hplaceholder, rfl⟩ := List.mem_map.mp hmem
  exact isIdent_of_mem_allPlaceholders h hplaceholder

theorem summands_ne_nil (t : PathTemplate) : t.summands ≠ [] :=
  GoSum.finish_ne_nil _

/-- **The sum has the content of the URL.** -/
theorem flatMap_summands {β : Type} {content : UrlPart → List β} (h : IsContent content)
    (t : PathTemplate) : t.summands.flatMap content = t.urlParts.flatMap content := by
  have hsegments (segments : List Segment) (sum : GoSum) :
      (segments.foldl GoSum.addSegment sum).total content =
        sum.total content ++ segments.flatMap fun s => content s.urlPart := by
    induction segments generalizing sum with
    | nil => simp
    | cons s segments ih =>
      rw [List.foldl_cons, ih, GoSum.total_addSegment h, List.flatMap_cons, List.append_assoc]
  rw [summands, GoSum.flatMap_finish h, GoSum.total_addQuery h, hsegments, urlParts,
    List.flatMap_append, List.flatMap_map]
  simp [GoSum.total, GoSum.empty, h.text_nil]

theorem mem_summands {part : UrlPart} {name : List Char} (h : part.name? = some name) :
    part ∈ t.summands ↔ part ∈ t.urlParts := by
  have hvalues (parts : List UrlPart) : part ∈ parts ↔ part ∈ parts.flatMap fun part =>
      match part with
      | .text _ => []
      | part => [part] := by
    rw [List.mem_flatMap]
    constructor
    · intro hpart
      refine ⟨part, hpart, ?_⟩
      cases part with
      | text s => cases h
      | _ => exact List.mem_singleton_self _
    · rintro ⟨part', hpart', hmem⟩
      cases part' with
      | text s => cases hmem
      | _ => exact List.mem_singleton.mp hmem ▸ hpart'
  rw [hvalues, flatMap_summands isContent_values, ← hvalues]

theorem tokens?_goUrl (h : parse raw = .ok t) :
    tokens? (goUrl t) =
      some (List.intercalate [.symbol '+'] (t.summands.map UrlPart.goTokens)) := by
  exact tokens?_of_reads (reads_sum t.summands_ne_nil (fun part hpart name hname =>
    isIdent_of_mem_urlParts h ((mem_summands hname).mp hpart) hname) false)

/-- **The URL of a template calls a function that escapes exactly if there is a placeholder.** -/
theorem calls_goUrl_iff (h : parse raw = .ok t) :
    Calls (goUrl t) "url" "PathEscape" ∨ Calls (goUrl t) "url" "QueryEscape" ↔
      t.allPlaceholders ≠ [] := by
  have htokens := tokens?_goUrl h
  have hnames : t.allPlaceholders ≠ [] ↔ ∃ part ∈ t.urlParts, ∃ name, part.name? = some name := by
    rw [← List.length_pos_iff, ← List.length_map (f := String.toList), ← filterMap_urlParts h,
      List.length_pos_iff_exists_mem]
    simp only [List.mem_filterMap]
    exact ⟨fun ⟨name, part, hpart, hname⟩ => ⟨part, hpart, name, hname⟩,
      fun ⟨part, hpart, name, hname⟩ => ⟨name, part, hpart, hname⟩⟩
  rw [hnames]
  constructor
  · -- a call has the word of the package in it, which is no literal and no plus sign
    have hword (hmem : .word "url" ∈
        List.intercalate [.symbol '+'] (t.summands.map UrlPart.goTokens)) :
        ∃ part ∈ t.urlParts, ∃ name, part.name? = some name := by
      rcases mem_intercalate hmem with hplus | ⟨tokens, htokens, hmem⟩
      · cases hplus
      · obtain ⟨part, hpart, rfl⟩ := List.mem_map.mp htokens
        cases part with
        | text s => cases List.mem_singleton.mp hmem
        | pathValue name => exact ⟨_, (mem_summands rfl).mp hpart, name, rfl⟩
        | queryValue name => exact ⟨_, (mem_summands rfl).mp hpart, name, rfl⟩
    rintro (⟨tokens, hsome, hcall⟩ | ⟨tokens, hsome, hcall⟩) <;>
    · rw [htokens] at hsome
      cases hsome
      exact hword (hcall.subset List.mem_cons_self)
  · rintro ⟨part, hpart, name, hname⟩
    have hcall := infix_intercalate [.symbol '+']
      (List.mem_map_of_mem (f := UrlPart.goTokens) ((mem_summands hname).mpr hpart))
    cases part with
    | text s => cases hname
    | pathValue name =>
      exact Or.inl ⟨_, htokens, (List.prefix_append _ _).isInfix.trans hcall⟩
    | queryValue name =>
      exact Or.inr ⟨_, htokens, (List.prefix_append _ _).isInfix.trans hcall⟩

end PathTemplate

end Path

end Specloom
