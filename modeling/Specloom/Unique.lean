/-!
# Repeated elements of a list

Documents are refused for the first name that repeats an earlier one.

## Main definitions

* `firstRepeat?`: the first element that occurs before

## Main results

* `firstRepeat?_eq_none_iff`: there is none exactly when the elements are distinct
* `firstRepeat?_eq_some_iff`: it occurs among elements before it that are distinct
-/

namespace Specloom

variable {α : Type} [DecidableEq α]

/-- The first element that is among `seen` or occurs earlier in the list. -/
def firstRepeatFrom? (seen : List α) : List α → Option α
  | [] => none
  | x :: xs => if x ∈ seen then some x else firstRepeatFrom? (x :: seen) xs

/-- The first element that occurs earlier in the list. -/
def firstRepeat? (xs : List α) : Option α :=
  firstRepeatFrom? [] xs

theorem firstRepeatFrom?_eq_none_iff (seen xs : List α) :
    firstRepeatFrom? seen xs = none ↔ xs.Nodup ∧ ∀ x ∈ xs, x ∉ seen := by
  induction xs generalizing seen with
  | nil => simp [firstRepeatFrom?]
  | cons x xs ih => by_cases h : x ∈ seen <;> grind [firstRepeatFrom?]

/-- No element repeats exactly when the elements are distinct. -/
theorem firstRepeat?_eq_none_iff (xs : List α) : firstRepeat? xs = none ↔ xs.Nodup := by
  simp [firstRepeat?, firstRepeatFrom?_eq_none_iff]

theorem firstRepeatFrom?_eq_some_iff {seen xs : List α} {x : α} :
    firstRepeatFrom? seen xs = some x ↔ ∃ before after, xs = before ++ x :: after ∧
      (x ∈ seen ∨ x ∈ before) ∧ before.Nodup ∧ ∀ y ∈ before, y ∉ seen := by
  induction xs generalizing seen with
  | nil => simp [firstRepeatFrom?]
  | cons y ys ih =>
    rw [firstRepeatFrom?]
    by_cases hy : y ∈ seen
    · rw [if_pos hy]
      constructor
      · rintro ⟨⟩
        exact ⟨[], ys, rfl, Or.inl hy, List.nodup_nil, by simp⟩
      · -- nothing can stand before an element that was seen
        rintro ⟨_ | ⟨z, before⟩, after, heq, -, -, hseen⟩
        · rw [(List.cons.inj heq).1]
        · exact absurd ((List.cons.inj heq).1 ▸ hy) (hseen z List.mem_cons_self)
    · rw [if_neg hy, ih]
      constructor
      · rintro ⟨before, after, rfl, hx, hnodup, hseen⟩
        simp only [List.mem_cons, not_or] at hseen
        refine ⟨y :: before, after, rfl, ?_, ?_, ?_⟩
        · grind
        · exact List.nodup_cons.mpr ⟨fun h => (hseen y h).1 rfl, hnodup⟩
        · simpa [hy] using fun z hz => (hseen z hz).2
      · rintro ⟨_ | ⟨z, before⟩, after, heq, hx, hnodup, hseen⟩
        · obtain ⟨rfl, -⟩ := List.cons.inj heq
          simp [hy] at hx
        · obtain ⟨rfl, rfl⟩ := List.cons.inj heq
          rw [List.nodup_cons] at hnodup
          rw [List.forall_mem_cons] at hseen
          refine ⟨before, after, rfl, ?_, hnodup.2, ?_⟩
          · grind
          · intro w hw hmem
            rcases List.mem_cons.mp hmem with rfl | hmem
            · exact hnodup.1 hw
            · exact hseen.2 w hw hmem

/-- The first repeated element occurs before, and the elements before it are distinct. -/
theorem firstRepeat?_eq_some_iff {xs : List α} {x : α} :
    firstRepeat? xs = some x ↔
      ∃ before after, xs = before ++ x :: after ∧ x ∈ before ∧ before.Nodup := by
  simp [firstRepeat?, firstRepeatFrom?_eq_some_iff]

end Specloom
