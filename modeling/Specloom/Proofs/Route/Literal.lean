import Specloom.Proofs.Route.Pattern

/-!
# One matcher in two languages

The matcher of a route is compiled from a pattern, and it is written as a regular expression literal
of TypeScript. The two escape different characters, and in the literal the slashes of the groups are
escaped by a replacement that runs over the text of the path as well. It finds nothing there, since
in a text that is escaped a backslash stands before every caret. So both are read as the same
characters and groups, those of the segments of the path.

## Main definitions

* `MatchItem`, `matchItems`: what a matcher takes one after the other, and that of a path
* `splitSlash?`: reads a regular expression literal up to its closing slash
* `readSource?`: reads the source of a regular expression

## Main results

* `replaceAll_patternOf`: the replacement changes the groups and nothing else
* `Passes.patternOf`: no slash of the source ends the literal
* `readSource?_patternOf`: the source is read as the items of the path
* `jsRegexLiteral_agrees`: the literal and the pattern describe the same matcher
-/

namespace Specloom.Route

open Specloom.Path Regex Text

/-! ## Items -/

/-- What a matcher takes next: a character, or the value of a placeholder. -/
inductive MatchItem where
  | char (c : Char)
  | group
deriving DecidableEq, Repr

/-- The items of a segment. -/
def segmentItems : Segment → List MatchItem
  | .literal text => text.map .char
  | .placeholder _ => [.group]

/-- The items of a path, segment by segment. -/
def matchItems (path : String) : List MatchItem :=
  (segments path.toList).flatMap segmentItems

/-- An item as a part of an expression. -/
def MatchItem.expr : MatchItem → Expr
  | .char c => .literal c false
  | .group => groupExpr

theorem exprs_eq (s : Segment) : exprs s = (segmentItems s).map MatchItem.expr := by
  cases s with
  | literal text => rw [segmentItems, List.map_map]; rfl
  | placeholder name => rfl

/-! ## Reading a literal -/

/-- The characters that are escaped in a regular expression literal: those with a meaning of their
own, and the slash. -/
def literalSpecials : List Char :=
  "\\^$.|?*+()[]\x7b\x7d/".toList

/-- The group of a placeholder in a regular expression literal. -/
def literalGroup : List Char :=
  "([^\\/]+)".toList

/-- Reads a literal behind its first slash: what stands before the next slash without a backslash
before it, and what follows that slash. -/
def splitSlash? : List Char → Option (List Char × List Char)
  | [] => none
  | '/' :: rest => some ([], rest)
  | '\\' :: c :: rest => (splitSlash? rest).map fun r => ('\\' :: c :: r.1, r.2)
  | c :: rest => (splitSlash? rest).map fun r => (c :: r.1, r.2)

/-- Reads the source of a regular expression behind its first anchor, up to the second one. A
character that is escaped stands for itself, a group is that of a placeholder, and no other
character may have a meaning of its own. -/
def readItems? : List Char → Option (List MatchItem)
  | [] => none
  | ['$'] => some []
  | '\\' :: c :: rest =>
    if c ∈ literalSpecials then (readItems? rest).map (.char c :: ·) else none
  | '(' :: '[' :: '^' :: '\\' :: '/' :: ']' :: '+' :: ')' :: rest =>
    (readItems? rest).map (.group :: ·)
  | c :: rest => if c ∈ literalSpecials then none else (readItems? rest).map (.char c :: ·)

/-- Reads the source of a regular expression between anchors. -/
def readSource? : List Char → Option (List MatchItem)
  | '^' :: rest => readItems? rest
  | _ => none

/-! ## The replacement -/

/-- The class of a group, whose slash is escaped by the replacement. -/
def groupClass : List Char :=
  "[^/]".toList

/-- The class of a group in a literal. -/
def literalClass : List Char :=
  "[^\\/]".toList

section Replacement

variable {special : List Char} {rest : List Char}

/-- Where no class begins, a character is kept. -/
theorem replaceAll_class_cons {c : Char} (h : c = '[' → rest.head? ≠ some '^') :
    replaceAll groupClass literalClass (c :: rest) =
      c :: replaceAll groupClass literalClass rest :=
  replaceAll_cons_of_head? h

/-- What is escaped does not begin with a caret. -/
theorem head?_escaped_append (hcaret : '^' ∈ special) (text : List Char)
    (hrest : rest.head? ≠ some '^') :
    (text.flatMap (escapeChar special) ++ rest).head? ≠ some '^' := by
  cases text with
  | nil => exact hrest
  | cons c text =>
    rw [List.flatMap_cons, escapeChar]
    split
    · simp
    · rename_i hc
      have hne : c ≠ '^' := fun h => hc (h ▸ hcaret)
      simpa using hne

/-- No class begins in a text that is escaped: a backslash stands before every caret. -/
theorem replaceAll_escaped (hcaret : '^' ∈ special) (text : List Char)
    (hrest : rest.head? ≠ some '^') :
    replaceAll groupClass literalClass (text.flatMap (escapeChar special) ++ rest) =
      text.flatMap (escapeChar special) ++ replaceAll groupClass literalClass rest := by
  induction text with
  | nil => rfl
  | cons c text ih =>
    have hnext := head?_escaped_append hcaret text hrest
    have hchar : replaceAll groupClass literalClass
        (escapeChar special c ++ (text.flatMap (escapeChar special) ++ rest)) =
        escapeChar special c ++ replaceAll groupClass literalClass
          (text.flatMap (escapeChar special) ++ rest) := by
      unfold escapeChar
      split
      -- an escaped bracket may look like the beginning of a class, but no caret follows it
      · exact (replaceAll_class_cons (by simp)).trans
          (congrArg _ (replaceAll_class_cons fun _ => hnext))
      · exact replaceAll_class_cons fun _ => hnext
    rw [List.flatMap_cons, List.append_assoc, hchar, ih, List.append_assoc]

/-- In a group, the class is replaced. -/
theorem replaceAll_group : replaceAll groupClass literalClass (groupSource ++ rest) =
    literalGroup ++ replaceAll groupClass literalClass rest := by
  have hopen : replaceAll groupClass literalClass ('(' :: (groupClass ++ '+' :: ')' :: rest)) =
      '(' :: replaceAll groupClass literalClass (groupClass ++ '+' :: ')' :: rest) :=
    replaceAll_class_cons (by simp)
  have hclass : replaceAll groupClass literalClass (groupClass ++ '+' :: ')' :: rest) =
      literalClass ++ replaceAll groupClass literalClass ('+' :: ')' :: rest) :=
    replaceAll_append (by decide) _
  have hclose : replaceAll groupClass literalClass ('+' :: ')' :: rest) =
      '+' :: ')' :: replaceAll groupClass literalClass rest :=
    (replaceAll_class_cons (by simp)).trans
      (congrArg _ (replaceAll_class_cons (by simp)))
  exact hopen.trans (congrArg _ (hclass.trans (congrArg _ hclose)))

/-- Sources of segments do not begin with a caret. -/
theorem head?_pieces_append (hcaret : '^' ∈ special) (segs : List Segment)
    (hrest : rest.head? ≠ some '^') :
    (segs.flatMap (patternPiece special groupSource) ++ rest).head? ≠ some '^' := by
  induction segs with
  | nil => exact hrest
  | cons s segs ih =>
    rw [List.flatMap_cons, List.append_assoc]
    cases s with
    | literal text => exact head?_escaped_append hcaret text ih
    | placeholder name => exact (by decide : some '(' ≠ some '^')

theorem replaceAll_pieces (hcaret : '^' ∈ special)
    (segs : List Segment) (hrest : rest.head? ≠ some '^') :
    replaceAll groupClass literalClass (segs.flatMap (patternPiece special groupSource) ++ rest) =
      segs.flatMap (patternPiece special literalGroup) ++
        replaceAll groupClass literalClass rest := by
  induction segs with
  | nil => rfl
  | cons s segs ih =>
    rw [List.flatMap_cons, List.append_assoc, List.flatMap_cons, List.append_assoc, ← ih]
    cases s with
    | literal text =>
      exact replaceAll_escaped hcaret text (head?_pieces_append hcaret segs hrest)
    | placeholder name => exact replaceAll_group

/-- **The replacement changes the groups of a source and nothing else.** -/
theorem replaceAll_patternOf (hcaret : '^' ∈ special)
    (path : List Char) :
    replaceAll groupClass literalClass (patternOf special groupSource path) =
      patternOf special literalGroup path := by
  have hstart : replaceAll groupClass literalClass (patternOf special groupSource path) =
      '^' :: replaceAll groupClass literalClass
        ((segments path).flatMap (patternPiece special groupSource) ++ ['$']) :=
    replaceAll_class_cons (by simp)
  rw [hstart, replaceAll_pieces hcaret _ (by simp), patternOf]
  rfl

end Replacement

/-! ## Slashes -/

/-- Reading a literal up to its closing slash goes on behind a text. -/
def Passes (text : List Char) : Prop :=
  ∀ rest, splitSlash? (text ++ rest) = (splitSlash? rest).map fun r => (text ++ r.1, r.2)

namespace Passes

theorem nil : Passes [] := fun rest => by simp

theorem append {text text' : List Char} (h : Passes text) (h' : Passes text') :
    Passes (text ++ text') := fun rest => by
  rw [List.append_assoc, h, h', Option.map_map]
  simp [Function.comp_def]

theorem flatMap {α : Type} {f : α → List Char} (h : ∀ x, Passes (f x)) (xs : List α) :
    Passes (xs.flatMap f) := by
  induction xs with
  | nil => exact nil
  | cons x xs ih => exact (h x).append ih

theorem escaped (c : Char) : Passes ['\\', c] := fun rest => by
  rw [List.cons_append, List.singleton_append, splitSlash?]
  rfl

theorem plain {c : Char} (hslash : c ≠ '/') (hbackslash : c ≠ '\\') : Passes [c] := fun rest => by
  rw [List.singleton_append, splitSlash?]
  · rfl
  · exact hslash
  · exact fun d rest h => absurd h hbackslash

theorem plains (text : List Char) (h : ∀ c ∈ text, c ≠ '/' ∧ c ≠ '\\') : Passes text := by
  induction text with
  | nil => exact nil
  | cons c text ih =>
    rw [List.forall_mem_cons] at h
    exact (plain h.1.1 h.1.2).append (ih h.2)

/-- In the source of a path every slash is escaped. -/
theorem patternOf (path : List Char) :
    Passes (patternOf literalSpecials literalGroup path) := by
  have hchar (c : Char) : Passes (escapeChar literalSpecials c) := by
    unfold escapeChar
    split
    · exact escaped c
    · rename_i hc
      exact plain (fun h => hc (h ▸ by decide)) (fun h => hc (h ▸ by decide))
  have hgroup : Passes literalGroup :=
    (plains ['(', '[', '^'] (by simp)).append
      ((escaped '/').append (plains [']', '+', ')'] (by simp)))
  have hpiece (s : Segment) : Passes (patternPiece literalSpecials literalGroup s) := by
    cases s with
    | literal text => exact flatMap hchar text
    | placeholder name => exact hgroup
  have hstart : Passes ['^'] := plain (by decide) (by decide)
  have hend : Passes ['$'] := plain (by decide) (by decide)
  exact hstart.append ((flatMap hpiece _).append hend)

end Passes

/-! ## The items of the source -/

section Items

variable {c : Char} {rest : List Char}

theorem readItems?_escaped (h : c ∈ literalSpecials) :
    readItems? ('\\' :: c :: rest) = (readItems? rest).map (.char c :: ·) := by
  rw [readItems?]
  exact if_pos h

theorem readItems?_plain (h : c ∉ literalSpecials) :
    readItems? (c :: rest) = (readItems? rest).map (.char c :: ·) := by
  -- a character that begins anything else is one of those that are escaped
  have hne {d : Char} (hd : d ∈ literalSpecials) : c ≠ d := fun hc => h (hc ▸ hd)
  rw [readItems?]
  · exact if_neg h
  · exact fun hc => absurd hc (hne (by decide))
  · exact fun _ _ hc => absurd hc (hne (by decide))
  · exact fun _ hc => absurd hc (hne (by decide))

theorem readItems?_text (text : List Char) :
    readItems? (text.flatMap (escapeChar literalSpecials) ++ rest) =
      (readItems? rest).map (text.map .char ++ ·) := by
  induction text with
  | nil => simp
  | cons c text ih =>
    have hchar : readItems? (escapeChar literalSpecials c ++
        (text.flatMap (escapeChar literalSpecials) ++ rest)) =
        (readItems? (text.flatMap (escapeChar literalSpecials) ++ rest)).map (.char c :: ·) := by
      unfold escapeChar
      split
      · exact readItems?_escaped ‹_›
      · exact readItems?_plain ‹_›
    rw [List.flatMap_cons, List.append_assoc, hchar, ih, Option.map_map]
    rfl

theorem readItems?_pieces (segs : List Segment) :
    readItems? (segs.flatMap (patternPiece literalSpecials literalGroup) ++ rest) =
      (readItems? rest).map (segs.flatMap segmentItems ++ ·) := by
  induction segs with
  | nil => simp
  | cons s segs ih =>
    have hpiece : readItems? (patternPiece literalSpecials literalGroup s ++
        (segs.flatMap (patternPiece literalSpecials literalGroup) ++ rest)) =
        (readItems? (segs.flatMap (patternPiece literalSpecials literalGroup) ++ rest)).map
          (segmentItems s ++ ·) := by
      cases s with
      | literal text => exact readItems?_text text
      | placeholder name => rfl
    rw [List.flatMap_cons, List.append_assoc, hpiece, ih, Option.map_map]
    simp [Function.comp_def]

end Items

/-- **The source of a literal is read as the items of the path.** -/
theorem readSource?_patternOf (path : String) :
    readSource? (patternOf literalSpecials literalGroup path.toList) = some (matchItems path) := by
  have hread : readItems? (_ ++ ['$']) = _ := readItems?_pieces (segments path.toList)
  rw [patternOf, readSource?, hread, readItems?]
  simp [matchItems]

/-! ## The two matchers -/

theorem toList_jsRegexLiteral (path : String) : (jsRegexLiteral path).toList =
    '/' :: (patternOf literalSpecials literalGroup path.toList ++ ['/']) := by
  rw [← replaceAll_patternOf (by decide), jsRegexLiteral, String.toList_ofList]
  rfl

theorem matcherParts_eq (path : String) : matcherParts (segments path.toList) =
    .anchor .lineStart :: ((matchItems path).map MatchItem.expr ++ [.anchor .lineEnd]) := by
  rw [matcherParts, matchItems, List.map_flatMap, funext exprs_eq]

/-- **The literal and the pattern of a path describe the same matcher.** What stands between the
delimiters of the literal is read up to the second one, since every slash in it is escaped. It is
read as the characters and groups of the segments of the path, between anchors, and so is the
pattern. The replacement has changed the groups only: what literal text is written as is the same
without it. -/
theorem jsRegexLiteral_agrees (path : String) :
    ∃ source, (jsRegexLiteral path).toList = '/' :: (source ++ ['/']) ∧
      (∀ rest, splitSlash? (source ++ '/' :: rest) = some (source, rest)) ∧
      readSource? source = some (matchItems path) ∧
      Regex.parse (pattern path).toList = .ok (.concat
        (.anchor .lineStart :: ((matchItems path).map MatchItem.expr ++ [.anchor .lineEnd]))) ∧
      source = replaceAll groupClass literalClass
        (patternOf literalSpecials groupSource path.toList) ∧
      source = patternOf literalSpecials literalGroup path.toList := by
  refine ⟨patternOf literalSpecials literalGroup path.toList, toList_jsRegexLiteral path,
    fun rest => ?_, readSource?_patternOf path, ?_, (replaceAll_patternOf (by decide) _).symm, rfl⟩
  · rw [Passes.patternOf, splitSlash?]
    simp
  · rw [parse_pattern, matcherParts_eq]

/-- Text that looks like the class of a group is escaped, and not replaced. -/
example : jsRegexLiteral "/[^/]\\\x7bid\x7d" = "/^\\/\\[\\^\\/\\]\\\\([^\\/]+)$/" := by
  decide +kernel

end Specloom.Route
