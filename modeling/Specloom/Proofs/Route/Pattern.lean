import Mathlib.Algebra.GroupWithZero.Nat
import Specloom.Proofs.Checked
import Specloom.Regex.Capture
import Specloom.Route.Pattern

/-!
# The matcher of a path

The source of a matcher is read back as it was meant: every character of a literal stands for
itself, whether it is escaped or not, every placeholder is a group of its own, and nothing else is a
group. So the source always compiles.

## Main definitions

* `matcher`: the compiled pattern of segments

## Main results

* `parse_pattern`: the source of a matcher as an expression
* `compile_pattern`: the source of a matcher compiles
-/

namespace Specloom.Route

open Specloom.Path Regex

variable {fuel : Nat} {names : List (List Char)} {frames : List GroupFrame} {parts : List Expr}

/-! ## Reading the pieces of the source -/

/-- The characters that are escaped in the source of a matcher. -/
def specialChars : List Char :=
  "\\.+*?()|[]\x7b\x7d^$#&-~".toList

/-- The group of a placeholder in the source of a matcher. -/
def groupSource : List Char :=
  "([^/]+)".toList

/-- The group of a placeholder, as written. -/
def groupExpr : Expr :=
  .group true [] (.repetition (.class true (.literal '/' false)) 1 none true)

/-- A segment as it stands in an expression, part by part. -/
def exprs : Segment → List Expr
  | .literal text => text.map (.literal · false)
  | .placeholder _ => [groupExpr]

/-- The steps of reading a segment: a character at a time, and the group with its class, its
repetition and its end. -/
def readingSteps : Segment → Nat
  | .literal text => text.length
  | .placeholder _ => 4

/-- A special character is read behind a backslash. -/
theorem parseFrom_escaped {c : Char} (hc : c ∈ specialChars) (rest : List Char) :
    parseFrom (fuel + 1) false names frames parts ('\\' :: c :: rest) =
      parseFrom fuel false names frames (.literal c false :: parts) rest := by
  have hmem : c ∈ ['\\', '.', '+', '*', '?', '(', ')', '|', '[', ']', '{', '}', '^', '$', '#', '&',
    '-', '~'] := hc
  simp only [List.mem_cons, List.not_mem_nil, or_false] at hmem
  rcases hmem with rfl | rfl | rfl | rfl | rfl | rfl | rfl | rfl | rfl | rfl | rfl | rfl | rfl |
    rfl | rfl | rfl | rfl | rfl <;> rfl

/-- Any other character has no meaning of its own. -/
theorem parseFrom_plain {c : Char} (hc : c ∉ specialChars) (rest : List Char) :
    parseFrom (fuel + 1) false names frames parts (c :: rest) =
      parseFrom fuel false names frames (.literal c false :: parts) rest := by
  rw [parseFrom]
  simp only [skipBlanks, Bool.false_eq_true, if_false]
  split
  case h_14 =>
    rename_i heq
    cases heq
    rfl
  -- in all other cases the character has a meaning
  all_goals
    rename_i heq
    cases heq <;> exact absurd (by decide +kernel) hc

/-- The characters of a literal stand for themselves. -/
theorem parseFrom_literal (text rest : List Char) :
    parseFrom (fuel + text.length) false names frames parts
        (text.flatMap (escapeChar specialChars) ++ rest) =
      parseFrom fuel false names frames ((text.map (.literal · false)).reverse ++ parts) rest := by
  induction text generalizing parts with
  | nil => rfl
  | cons c text ih =>
    have hc : parseFrom (fuel + text.length + 1) false names frames parts
        (escapeChar specialChars c ++ (text.flatMap (escapeChar specialChars) ++ rest)) =
        parseFrom (fuel + text.length) false names frames (.literal c false :: parts)
          (text.flatMap (escapeChar specialChars) ++ rest) := by
      unfold escapeChar
      split
      · exact parseFrom_escaped ‹_› _
      · exact parseFrom_plain ‹_› _
    rw [List.flatMap_cons, List.append_assoc, List.length_cons, ← Nat.add_assoc, hc, ih,
      List.map_cons, List.reverse_cons, List.append_assoc, List.singleton_append]

/-- The group of a placeholder. -/
theorem parseFrom_group (rest : List Char) :
    parseFrom (fuel + 4) false names frames parts (groupSource ++ rest) =
      parseFrom fuel false names frames (groupExpr :: parts) rest := by
  rfl

theorem parseFrom_segments (segs : List Segment) (rest : List Char) :
    parseFrom (fuel + (segs.map readingSteps).sum) false names frames parts
        (segs.flatMap (patternPiece specialChars groupSource) ++ rest) =
      parseFrom fuel false names frames ((segs.flatMap exprs).reverse ++ parts) rest := by
  induction segs generalizing parts with
  | nil => rfl
  | cons segment segs ih =>
    rw [List.map_cons, List.sum_cons, Nat.add_comm (readingSteps _), ← Nat.add_assoc,
      List.flatMap_cons, List.append_assoc, List.flatMap_cons, List.reverse_append,
      List.append_assoc, ← ih]
    cases segment with
    | literal text => exact parseFrom_literal text _
    | placeholder name => exact parseFrom_group _

theorem length_escapeChar (c : Char) : 1 ≤ (escapeChar specialChars c).length := by
  unfold escapeChar
  split <;> simp

/-- No step reads less than one character. -/
theorem sum_readingSteps_le (segs : List Segment) : (segs.map readingSteps).sum ≤
    (segs.flatMap (patternPiece specialChars groupSource)).length := by
  induction segs with
  | nil => exact Nat.le_refl 0
  | cons segment segs ih =>
    have hsegment : readingSteps segment ≤
        (patternPiece specialChars groupSource segment).length := by
      cases segment with
      | placeholder name =>
        show 4 ≤ groupSource.length
        decide
      | literal text =>
        induction text with
        | nil => exact Nat.le_refl 0
        | cons c text ih =>
          have hc := length_escapeChar c
          simp only [readingSteps, patternPiece, List.flatMap_cons, List.length_append,
            List.length_cons] at ih ⊢
          omega
    rw [List.map_cons, List.sum_cons, List.flatMap_cons, List.length_append]
    omega

/-! ## The expression -/

/-- The parts of the expression of a matcher. -/
def matcherParts (segs : List Segment) : List Expr :=
  .anchor .lineStart :: (segs.flatMap exprs ++ [.anchor .lineEnd])

theorem nestingOfParts_le {bound : Nat} {parts : List Expr}
    (h : ∀ e ∈ parts, e.nesting ≤ bound) : nestingOfParts parts ≤ bound := by
  induction parts with
  | nil => exact Nat.zero_le bound
  | cons e parts ih =>
    rw [List.forall_mem_cons] at h
    rw [nestingOfParts]
    exact Nat.max_le.mpr ⟨h.1, ih h.2⟩

theorem nesting_of_mem_matcherParts {segs : List Segment} {e : Expr} (h : e ∈ matcherParts segs) :
    e.nesting ≤ 3 := by
  rcases List.mem_cons.mp h with rfl | h
  · decide
  rcases List.mem_append.mp h with h | h
  · obtain ⟨segment, -, he⟩ := List.mem_flatMap.mp h
    cases segment with
    | literal text =>
      obtain ⟨c, -, rfl⟩ := List.mem_map.mp he
      exact Nat.zero_le 3
    | placeholder name =>
      rw [List.mem_singleton.mp he]
      decide
  · rw [List.mem_singleton.mp h]
    decide

/-- Two parts and more make a sequence. -/
theorem concatOf_reverse (first last : Expr) (parts : List Expr) :
    concatOf (last :: (parts.reverse ++ [first])) = .concat (first :: (parts ++ [last])) := by
  have hconcat : concatOf (last :: (parts.reverse ++ [first])) =
      .concat (last :: (parts.reverse ++ [first])).reverse := by
    cases parts.reverse <;> rfl
  rw [hconcat, List.reverse_cons, List.reverse_append, List.reverse_reverse]
  rfl

theorem toList_pattern (path : String) : (pattern path).toList =
    '^' :: ((segments path.toList).flatMap (patternPiece specialChars groupSource) ++ ['$']) := by
  rw [pattern, String.toList_ofList]
  rfl

/-- **The source of a matcher is read as it was meant**: between the anchors, every character of a
literal stands for itself and every placeholder is a group. -/
theorem parse_pattern (path : String) :
    parse (pattern path).toList = .ok (.concat (matcherParts (segments path.toList))) := by
  have hread : parseFrom ((pattern path).toList.length + 1) false [] [] [] (pattern path).toList =
      .ok (.concat (matcherParts (segments path.toList))) := by
    obtain ⟨fuel, hfuel⟩ := Nat.exists_eq_add_of_le' (sum_readingSteps_le (segments path.toList))
    rw [toList_pattern, List.length_cons, List.length_append, List.length_singleton, hfuel,
      Nat.add_right_comm fuel, Nat.add_right_comm (fuel + 1)]
    -- the first anchor, the segments, the last anchor and the end
    change parseFrom (fuel + 2 + _) false [] [] [.anchor .lineStart] _ = _
    rw [parseFrom_segments]
    change Except.ok (concatOf (.anchor .lineEnd :: (_ ++ [.anchor .lineStart]))) = _
    rw [concatOf_reverse, matcherParts]
  have hnesting : (Expr.concat (matcherParts (segments path.toList))).nesting ≤ maxNesting :=
    Nat.le_trans (Nat.succ_le_succ (nestingOfParts_le fun _ => nesting_of_mem_matcherParts))
      (by decide)
  rw [parse, bind_eq_ok]
  exact ⟨_, hread, if_pos hnesting⟩

/-! ## The compiled pattern -/

/-- Patterns one after the other. -/
def seqOf (patterns : List Pattern) : Pattern :=
  patterns.foldr .seq .empty

/-- The pattern of a character. -/
def charPattern (c : Char) : Pattern :=
  .set (.between c c)

/-- The pattern of a placeholder. -/
def groupPattern : Pattern :=
  .group (.repeated (.set (.compl (.between '/' '/'))) 1 none true)

/-- The patterns of a segment, part by part. -/
def patterns : Segment → List Pattern
  | .literal text => text.map charPattern
  | .placeholder _ => [groupPattern]

/-- The compiled pattern of segments. -/
def matcher (segs : List Segment) : Pattern :=
  seqOf (.look .start :: (segs.flatMap patterns ++ [.look .stop]))

/-- Parts without flags are compiled one by one. -/
theorem parts_eq_ok {parts : List Expr} {ps : List Pattern}
    (h : List.Forall₂ (fun e p => ({} : Flags).pattern e = .ok (p, {})) parts ps) :
    ({} : Flags).parts parts = .ok (seqOf ps, {}) := by
  induction h with
  | nil => rfl
  | cons he _ ih =>
    rw [Flags.parts, he]
    change ({} : Flags).parts _ >>= _ = _
    rw [ih]
    rfl

theorem forall₂_patterns (segment : Segment) :
    List.Forall₂ (fun e p => ({} : Flags).pattern e = .ok (p, {})) (exprs segment)
      (patterns segment) := by
  cases segment with
  | literal text =>
    induction text with
    | nil => exact .nil
    | cons c text ih => exact .cons rfl ih
  | placeholder name => exact .cons rfl .nil

/-- **The source of a matcher compiles.** -/
theorem compile_pattern (path : String) :
    Pattern.compile (pattern path) = .ok (matcher (segments path.toList)) := by
  have hsegments (segs : List Segment) :
      List.Forall₂ (fun e p => ({} : Flags).pattern e = .ok (p, {})) (segs.flatMap exprs)
        (segs.flatMap patterns) := by
    induction segs with
    | nil => exact .nil
    | cons segment segs ih => exact List.rel_append (forall₂_patterns segment) ih
  have hparts : ({} : Flags).parts (matcherParts (segments path.toList)) =
      .ok (matcher (segments path.toList), {}) :=
    parts_eq_ok (.cons rfl (List.rel_append (hsegments _) (.cons rfl .nil)))
  rw [Pattern.compile, parse_pattern]
  change ({} : Flags).parts _ >>= _ = _
  rw [hparts]
  rfl

end Specloom.Route
