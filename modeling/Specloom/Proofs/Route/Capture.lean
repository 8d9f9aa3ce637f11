import Specloom.Route.Basic

/-!
# What placeholders capture

A placeholder captures a piece of the path without a slash. If a slash stands between any two
placeholders, at most one choice of pieces fits the literals: the literal after a placeholder ends
either at a slash or at the end of the path, so the place of that slash fixes where the piece ends.
Trying longer pieces first therefore finds the pieces that the path was made of.

## Main definitions

* `slashBetween`: a slash stands between any two placeholders
* `fill`: a segment with a value in place
* `reach`: how far a piece without a slash can go

## Main results

* `reach_eq_of_capture`: paths that fit the same segments have their first slash at the same place
* `capture?_flatMap_fill`: the pieces of a path made of values are those values
-/

namespace Specloom.Route

open Specloom.Path

/-- Whether a slash comes before the next placeholder, if there is one. -/
def slashFirst : List Segment → Bool
  | [] => true
  | .placeholder _ :: _ => false
  | .literal text :: rest => text.contains '/' || slashFirst rest

/-- Whether a slash stands between any two consecutive placeholders. -/
def slashBetween : List Segment → Bool
  | [] => true
  | .literal _ :: rest => slashBetween rest
  | .placeholder _ :: rest => slashFirst rest && slashBetween rest

/-- A segment with the value of its placeholder in place. -/
def fill (value : List Char → List Char) : Segment → List Char
  | .literal text => text
  | .placeholder name => value name

/-- The length of the longest piece without a slash at the front of a text. -/
def reach (cs : List Char) : Nat :=
  (cs.takeWhile (· ≠ '/')).length

/-! ## The longest piece without a slash -/

theorem reach_append_of_not_mem {piece : List Char} (h : '/' ∉ piece) (rest : List Char) :
    reach (piece ++ rest) = piece.length + reach rest := by
  -- the whole piece is taken, and the count goes on behind it
  have hall : ∀ c ∈ piece, decide (c ≠ '/') = true := by
    intro c hc
    simpa using fun he : c = '/' => h (he ▸ hc)
  rw [reach, List.takeWhile_append_of_pos hall, List.length_append, reach]

/-- A slash in the text hides what comes after it. -/
theorem reach_append_of_mem {text : List Char} (h : '/' ∈ text) (rest : List Char) :
    reach (text ++ rest) = reach text := by
  unfold reach
  induction text with
  | nil => cases h
  | cons c cs ih =>
    by_cases hc : c = '/'
    -- the text begins with the slash: nothing is counted, with or without the rest
    · simp [hc]
    · have hcs : '/' ∈ cs := (List.mem_cons.mp h).resolve_left (Ne.symm hc)
      simpa [hc] using ih hcs

theorem reach_drop {cs : List Char} {n : Nat} (h : n ≤ reach cs) :
    reach (cs.drop n) = reach cs - n := by
  unfold reach at h ⊢
  induction cs generalizing n with
  | nil => simp
  | cons c cs ih =>
    cases n with
    | zero => rfl
    | succ n =>
      by_cases hc : c = '/'
      -- at a slash the reach is zero, so no character can be dropped
      · simp [hc] at h
      · have hn : n ≤ (cs.takeWhile (· ≠ '/')).length := by simpa [hc] using h
        simpa [hc] using ih hn

/-! ## Uniqueness -/

theorem capture?_nil {cs : List Char} {pieces : List (List Char)}
    (h : capture? [] cs = some pieces) : cs = [] := by
  rw [capture?] at h
  split at h
  · assumption
  · cases h

theorem capture?_literal {text cs : List Char} {rest : List Segment} {pieces : List (List Char)} :
    capture? (.literal text :: rest) cs = some pieces ↔
      ∃ after, cs = text ++ after ∧ capture? rest after = some pieces := by
  rw [capture?]
  constructor
  · intro h
    split at h
    · rename_i hpre
      obtain ⟨after, rfl⟩ := List.isPrefixOf_iff_prefix.mp hpre
      exact ⟨after, rfl, by simpa using h⟩
    · cases h
  · rintro ⟨after, rfl, h⟩
    rw [if_pos (by simp)]
    simpa using h

/-- **Two paths that fit the same segments have their first slash at the same place**, if a slash
comes before the first placeholder. Without a placeholder the paths are even equal. -/
theorem reach_eq_of_capture {segs : List Segment} (hs : slashFirst segs = true)
    {cs cs' : List Char} {pieces pieces' : List (List Char)} (h : capture? segs cs = some pieces)
    (h' : capture? segs cs' = some pieces') : reach cs = reach cs' := by
  induction segs generalizing cs cs' with
  | nil =>
    rw [capture?_nil h, capture?_nil h']
  | cons segment rest ih =>
    cases segment with
    | placeholder name => cases hs
    | literal text =>
      obtain ⟨after, rfl, hrest⟩ := capture?_literal.mp h
      obtain ⟨after', rfl, hrest'⟩ := capture?_literal.mp h'
      by_cases hmem : '/' ∈ text
      -- the slash is in this literal, which both paths begin with
      · rw [reach_append_of_mem hmem, reach_append_of_mem hmem]
      · -- the slash is in a later literal, and this one shifts it by the same amount
        have hs' : slashFirst rest = true := by simpa [slashFirst, hmem] using hs
        rw [reach_append_of_not_mem hmem, reach_append_of_not_mem hmem, ih hs' hrest hrest']

/-! ## Existence -/

/-- The numbers from a bound downwards are the bound and those from one below it. -/
theorem map_range_sub_succ (bound : Nat) : (List.range (bound + 1)).map (bound + 1 - ·) =
    (bound + 1) :: (List.range bound).map (bound - ·) := by
  rw [List.range_succ_eq_map, List.map_cons, List.map_map, Nat.sub_zero]
  refine congrArg _ (List.map_congr_left fun i _ => ?_)
  simp only [Function.comp]
  omega

/-- Trying numbers from a bound downwards finds the first that gives a result. -/
theorem findSome?_descending {β : Type} {f : Nat → Option β} {bound k : Nat} {b : β}
    (hpos : 0 < k) (hk : k ≤ bound) (hf : f k = some b)
    (hnone : ∀ n, k < n → n ≤ bound → f n = none) :
    ((List.range bound).map (bound - ·)).findSome? f = some b := by
  induction bound with
  | zero => omega
  | succ bound ih =>
    rw [map_range_sub_succ, List.findSome?_cons]
    rcases Nat.lt_or_ge k (bound + 1) with hlt | hge
    -- the bound is too large: it gives nothing, and the search goes on below it
    · rw [hnone (bound + 1) hlt (Nat.le_refl _)]
      exact ih (by omega) fun n hn hle => hnone n hn (by omega)
    · rw [show bound + 1 = k by omega, hf]

/-- **A placeholder takes the piece it is meant to take**: a longer piece would leave a rest whose
first slash comes too early. -/
theorem capture?_placeholder {name piece after : List Char} {rest : List Segment}
    {pieces : List (List Char)} (hne : piece ≠ []) (hslash : '/' ∉ piece)
    (hs : slashFirst rest = true) (h : capture? rest after = some pieces) :
    capture? (.placeholder name :: rest) (piece ++ after) = some (piece :: pieces) := by
  have hreach : reach (piece ++ after) = piece.length + reach after :=
    reach_append_of_not_mem hslash after
  -- The search for a piece tries the lengths from the reach downwards.
  show ((List.range (reach (piece ++ after))).map (reach (piece ++ after) - ·)).findSome?
    (fun n => (capture? rest ((piece ++ after).drop n)).map ((piece ++ after).take n :: ·)) = _
  refine findSome?_descending (List.length_pos_iff.mpr hne) (by omega) (by simp [h]) ?_
  intro n hlt hle
  -- A longer piece takes some of what comes after this one ...
  have hdrop : (piece ++ after).drop n = after.drop (n - piece.length) := by
    rw [List.drop_append, List.drop_of_length_le (Nat.le_of_lt hlt), List.nil_append]
  rw [hdrop]
  cases hc : capture? rest (after.drop (n - piece.length)) with
  | none => rfl
  | some pieces' =>
    -- ... so the first slash of the rest comes sooner than it does after this piece ...
    have hshort : reach (after.drop (n - piece.length)) = reach after - (n - piece.length) :=
      reach_drop (by omega)
    -- ... while both rests fit the same segments, which fixes the place of that slash.
    have hsame := reach_eq_of_capture hs hc h
    omega

/-- **The pieces of a path made of values are those values**, if values are neither empty nor hold
a slash and a slash stands between any two placeholders. -/
theorem capture?_flatMap_fill {value : List Char → List Char} {segs : List Segment}
    (hs : slashBetween segs = true)
    (hv : ∀ name ∈ segs.filterMap Segment.name?, value name ≠ [] ∧ '/' ∉ value name) :
    capture? segs (segs.flatMap (fill value)) =
      some ((segs.filterMap Segment.name?).map value) := by
  induction segs with
  | nil => rfl
  | cons segment rest ih =>
    cases segment with
    | literal text =>
      exact capture?_literal.mpr ⟨_, rfl, ih hs hv⟩
    | placeholder name =>
      simp only [slashBetween, Bool.and_eq_true] at hs
      simp only [List.filterMap_cons, Segment.name?, List.forall_mem_cons] at hv
      obtain ⟨⟨hne, hslash⟩, hv⟩ := hv
      exact capture?_placeholder hne hslash hs.1 (ih hs.2 hv)

end Specloom.Route
