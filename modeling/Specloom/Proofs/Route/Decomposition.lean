import Specloom.Proofs.Route.Capture

/-!
# Paths made of segments

A path fits the segments of a template if it is made of the literals as they stand and of a piece
for each placeholder, which is not empty and holds no slash. Several choices of pieces can make the
same path. The pieces that a route captures are the choice with the longest first piece, among these
the one with the longest second piece, and so on.

## Main definitions

* `Decomposes`: a path made of segments, with the pieces for its placeholders
* `Precedes`: one choice of pieces is tried before another

## Main results

* `capture?_eq_none_iff`: nothing is captured exactly if a path is not made of the segments
* `precedes_of_capture`: what is captured precedes every other choice of pieces
-/

namespace Specloom.Route

open Specloom.Path

variable {segs rest : List Segment} {cs : List Char} {pieces other : List (List Char)}

/-! ## Decompositions -/

/-- A path made of segments: literals as they stand, and for each placeholder a piece that is not
empty and holds no slash. -/
inductive Decomposes : List Segment → List Char → List (List Char) → Prop
  | nil : Decomposes [] [] []
  | literal {rest : List Segment} {cs : List Char} {pieces : List (List Char)} (text : List Char) :
      Decomposes rest cs pieces → Decomposes (.literal text :: rest) (text ++ cs) pieces
  | placeholder {rest : List Segment} {cs : List Char} {pieces : List (List Char)}
      (name : List Char) {piece : List Char} : piece ≠ [] → '/' ∉ piece →
      Decomposes rest cs pieces →
      Decomposes (.placeholder name :: rest) (piece ++ cs) (piece :: pieces)

/-- One choice of pieces comes before another if the first piece of a different length is longer. -/
def Precedes (pieces other : List (List Char)) : Prop :=
  other.map List.length < pieces.map List.length

/-! ## Trying the longer pieces first -/

/-- Trying numbers from a bound downwards gives a result exactly for the first that has one. -/
theorem findSome?_descending_eq_some {β : Type} {f : Nat → Option β} {bound : Nat} {b : β}
    (h : ((List.range bound).map (bound - ·)).findSome? f = some b) :
    ∃ k, 0 < k ∧ k ≤ bound ∧ f k = some b ∧ ∀ n, k < n → n ≤ bound → f n = none := by
  induction bound with
  | zero => cases h
  | succ bound ih =>
    rw [map_range_sub_succ, List.findSome?_cons] at h
    split at h
    · rename_i hbound
      cases h
      exact ⟨bound + 1, by omega, Nat.le_refl _, hbound, fun n hn hle => by omega⟩
    · rename_i hbound
      obtain ⟨k, hpos, hk, hf, hnone⟩ := ih h
      refine ⟨k, hpos, by omega, hf, fun n hn hle => ?_⟩
      rcases Nat.lt_or_ge n (bound + 1) with hlt | hge
      · exact hnone n hn (by omega)
      · rwa [show n = bound + 1 by omega]

/-- What a placeholder captures: the longest piece that leaves a rest which fits the segments behind
it. -/
theorem exists_of_capture?_placeholder {name : List Char} {found : List (List Char)}
    (h : capture? (.placeholder name :: rest) cs = some found) :
    ∃ n pieces, 0 < n ∧ n ≤ reach cs ∧ capture? rest (cs.drop n) = some pieces ∧
      found = cs.take n :: pieces ∧
        ∀ k, n < k → k ≤ reach cs → capture? rest (cs.drop k) = none := by
  obtain ⟨n, hpos, hle, hfound, hlonger⟩ := findSome?_descending_eq_some h
  obtain ⟨pieces, hpieces, rfl⟩ := Option.map_eq_some_iff.mp hfound
  exact ⟨n, pieces, hpos, hle, hpieces, rfl, fun k hk hle' =>
    Option.map_eq_none_iff.mp (hlonger k hk hle')⟩

theorem reach_le_length (cs : List Char) : reach cs ≤ cs.length :=
  (List.takeWhile_prefix _).length_le

/-- A piece up to the first slash holds none. -/
theorem not_mem_take_of_le_reach {n : Nat} (h : n ≤ reach cs) : '/' ∉ cs.take n := by
  have hprefix : cs.takeWhile (· ≠ '/') = cs.take (reach cs) :=
    List.prefix_iff_eq_take.mp (List.takeWhile_prefix _)
  intro hmem
  rw [← Nat.min_eq_left h, ← List.take_take, ← hprefix] at hmem
  simpa using List.all_eq_true.mp List.all_takeWhile '/' (List.mem_of_mem_take hmem)

/-! ## What is captured -/

/-- What is captured makes the path. -/
theorem decomposes_of_capture (h : capture? segs cs = some pieces) :
    Decomposes segs cs pieces := by
  induction segs generalizing cs pieces with
  | nil =>
    obtain rfl := capture?_nil h
    cases h
    exact .nil
  | cons segment rest ih =>
    cases segment with
    | literal text =>
      obtain ⟨after, rfl, hafter⟩ := capture?_literal.mp h
      exact .literal text (ih hafter)
    | placeholder name =>
      obtain ⟨n, pieces, hpos, hle, hrest, rfl, -⟩ := exists_of_capture?_placeholder h
      have hne : cs.take n ≠ [] := by
        have hlength := reach_le_length cs
        rw [ne_eq, List.take_eq_nil_iff, not_or, ← List.length_eq_zero_iff]
        omega
      have hwhole := Decomposes.placeholder name hne (not_mem_take_of_le_reach hle) (ih hrest)
      rwa [List.take_append_drop] at hwhole

/-- A path made of segments is captured: if no longer piece fits, the one that it is made of
does. -/
theorem exists_capture_of_decomposes (h : Decomposes segs cs pieces) :
    ∃ found, capture? segs cs = some found := by
  induction h with
  | nil => exact ⟨[], rfl⟩
  | literal text _ ih =>
    obtain ⟨found, hfound⟩ := ih
    exact ⟨found, capture?_literal.mpr ⟨_, rfl, hfound⟩⟩
  | @placeholder rest cs pieces name piece hne hslash _ ih =>
    obtain ⟨found, hfound⟩ := ih
    cases h : capture? (.placeholder name :: rest) (piece ++ cs) with
    | some found => exact ⟨found, rfl⟩
    | none =>
      -- the length of the piece is among those that are tried
      have hreach : piece.length ≤ reach (piece ++ cs) := by
        rw [reach_append_of_not_mem hslash]
        omega
      have hpos := List.length_pos_iff.mpr hne
      have hnone := List.findSome?_eq_none_iff.mp h piece.length
        (List.mem_map.mpr ⟨reach (piece ++ cs) - piece.length,
          List.mem_range.mpr (Nat.sub_lt (by omega) hpos), Nat.sub_sub_self hreach⟩)
      simp [hfound] at hnone

/-- **Nothing is captured exactly if the path is not made of the segments.** -/
theorem capture?_eq_none_iff :
    capture? segs cs = none ↔ ∀ pieces, ¬ Decomposes segs cs pieces := by
  constructor
  · intro h pieces hpieces
    obtain ⟨found, hfound⟩ := exists_capture_of_decomposes hpieces
    rw [h] at hfound
    cases hfound
  · intro h
    cases hc : capture? segs cs with
    | none => rfl
    | some pieces => exact absurd (decomposes_of_capture hc) (h pieces)

/-- **What is captured precedes every other choice of pieces.** -/
theorem precedes_of_capture (h : capture? segs cs = some pieces) (hother : Decomposes segs cs other)
    (hne : other ≠ pieces) : Precedes pieces other := by
  induction hother generalizing pieces with
  | nil =>
    cases h
    exact absurd rfl hne
  | literal text _ ih =>
    obtain ⟨after, hafter, hrest⟩ := capture?_literal.mp h
    rw [List.append_cancel_left hafter] at ih
    exact ih hrest hne
  | @placeholder rest cs others name piece hpiece hslash hothers ih =>
    obtain ⟨n, pieces, -, hle, hrest, rfl, hlonger⟩ := exists_of_capture?_placeholder h
    have hlength : ((piece ++ cs).take n).length = n :=
      List.length_take_of_le (Nat.le_trans hle (reach_le_length _))
    rcases Nat.lt_trichotomy piece.length n with hlt | rfl | hgt
    · refine List.Lex.rel ?_
      rwa [hlength]
    · rw [List.drop_left] at hrest
      rw [List.take_left] at hne ⊢
      refine List.Lex.cons (ih hrest ?_)
      rintro rfl
      exact hne rfl
    · -- a longer piece that fits would have been captured
      obtain ⟨found, hfound⟩ := exists_capture_of_decomposes hothers
      have hreach : piece.length ≤ reach (piece ++ cs) := by
        rw [reach_append_of_not_mem hslash]
        omega
      have hnone := hlonger piece.length hgt hreach
      rw [List.drop_left, hfound] at hnone
      cases hnone

end Specloom.Route
