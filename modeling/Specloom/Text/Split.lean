/-!
# Splitting a text at separators

A text is cut at every separator, at the first one or at the last one. The separators themselves
are dropped.

## Main definitions

* `splitWhere`, `splitOn`: the pieces between separators, of which there is always at least one
* `splitFirst?`, `splitLast?`: the parts around one separator

## Main results

* `intercalate_splitOn`: the pieces, joined by the separator, are the text
* `splitFirst?_eq_some_iff`, `splitLast?_eq_some_iff`: where the cut is
-/

namespace Specloom.Text

/-- The pieces between the characters that satisfy `p`. -/
def splitWhere (p : Char → Bool) : List Char → List (List Char)
  | [] => [[]]
  | c :: cs =>
    if p c then [] :: splitWhere p cs
    else
      match splitWhere p cs with
      | [] => [[c]]
      | piece :: pieces => (c :: piece) :: pieces

/-- The pieces between the occurrences of one character. -/
def splitOn (sep : Char) (cs : List Char) : List (List Char) :=
  splitWhere (· == sep) cs

/-- The parts before and after the first occurrence of a character. -/
def splitFirst? (sep : Char) : List Char → Option (List Char × List Char)
  | [] => none
  | c :: cs =>
    if c = sep then some ([], cs)
    else (splitFirst? sep cs).map fun (before, after) => (c :: before, after)

/-- The parts before and after the last occurrence of a character. -/
def splitLast? (sep : Char) : List Char → Option (List Char × List Char)
  | [] => none
  | c :: cs =>
    match splitLast? sep cs with
    | some (before, after) => some (c :: before, after)
    | none => if c = sep then some ([], cs) else none

theorem splitWhere_ne_nil (p : Char → Bool) (cs : List Char) : splitWhere p cs ≠ [] := by
  cases cs with
  | nil => simp [splitWhere]
  | cons c cs =>
    simp only [splitWhere]
    split
    · simp
    · split <;> simp

/-- Splitting loses nothing but the separators. -/
theorem intercalate_splitOn (sep : Char) (cs : List Char) :
    List.intercalate [sep] (splitOn sep cs) = cs := by
  induction cs with
  | nil => rfl
  | cons c cs ih =>
    unfold splitOn at ih ⊢
    have hne := splitWhere_ne_nil (· == sep) cs
    simp only [splitWhere]
    cases h : splitWhere (· == sep) cs with
    | nil => exact absurd h hne
    | cons piece pieces =>
      rw [h] at ih
      by_cases hc : c = sep
      · cases pieces <;> simp_all [List.intercalate]
      · cases pieces <;> simp_all [List.intercalate]

/-- The first cut leaves no separator before it. -/
theorem splitFirst?_eq_some_iff {sep : Char} {cs before after : List Char} :
    splitFirst? sep cs = some (before, after) ↔ cs = before ++ sep :: after ∧ sep ∉ before := by
  induction cs generalizing before with
  | nil => simp [splitFirst?]
  | cons c cs ih =>
    by_cases hc : c = sep
    · subst hc
      cases before <;> grind [splitFirst?]
    · cases before with
      | nil => simp [splitFirst?, hc]
      | cons b bs =>
        simp only [splitFirst?, hc, if_false, Option.map_eq_some_iff, Prod.exists, Prod.mk.injEq,
          List.cons.injEq, List.cons_append, List.mem_cons, not_or]
        constructor
        · rintro ⟨x, y, hxy, ⟨rfl, rfl⟩, rfl⟩
          obtain ⟨h, hn⟩ := ih.1 hxy
          exact ⟨⟨rfl, h⟩, fun h => hc h.symm, hn⟩
        · rintro ⟨⟨rfl, h⟩, _, hn⟩
          exact ⟨bs, after, ih.2 ⟨h, hn⟩, ⟨rfl, rfl⟩, rfl⟩

/-- There is no cut exactly when the separator does not occur. -/
theorem splitFirst?_eq_none_iff {sep : Char} {cs : List Char} :
    splitFirst? sep cs = none ↔ sep ∉ cs := by
  induction cs with
  | nil => simp [splitFirst?]
  | cons c cs ih =>
    by_cases hc : c = sep
    · simp [splitFirst?, hc]
    · simp [splitFirst?, hc, ih, Ne.symm hc]

/-- There is no last cut exactly when the separator does not occur. -/
theorem splitLast?_eq_none_iff {sep : Char} {cs : List Char} :
    splitLast? sep cs = none ↔ sep ∉ cs := by
  induction cs with
  | nil => simp [splitLast?]
  | cons c cs ih =>
    cases h : splitLast? sep cs with
    | none =>
      have hn := ih.1 h
      by_cases hc : c = sep
      · simp [splitLast?, h, hc]
      · simp [splitLast?, h, hc, hn, Ne.symm hc]
    | some p =>
      have hmem : sep ∈ cs := by
        by_cases hm : sep ∈ cs
        · exact hm
        · rw [ih.2 hm] at h; cases h
      simp [splitLast?, h, hmem]

/-- The last cut leaves no separator after it. -/
theorem splitLast?_eq_some_iff {sep : Char} {cs before after : List Char} :
    splitLast? sep cs = some (before, after) ↔ cs = before ++ sep :: after ∧ sep ∉ after := by
  induction cs generalizing before after with
  | nil => simp [splitLast?]
  | cons c cs ih =>
    cases h : splitLast? sep cs with
    | none =>
      have hn := splitLast?_eq_none_iff.1 h
      cases before with
      | nil =>
        by_cases hc : c = sep
        · subst hc
          simp only [splitLast?, h, if_true, Option.some.injEq, Prod.mk.injEq, true_and,
            List.nil_append, List.cons.injEq]
          exact ⟨fun e => ⟨e, e ▸ hn⟩, fun e => e.1⟩
        · simp [splitLast?, h, hc]
      | cons b bs =>
        constructor
        · intro e
          by_cases hc : c = sep <;> simp [splitLast?, h, hc] at e
        · rintro ⟨e, _⟩
          injection e with _ e
          exact absurd (by rw [e]; simp) hn
    | some p =>
      obtain ⟨x, y⟩ := p
      obtain ⟨hxy, hy⟩ := ih.1 h
      simp only [splitLast?, h, Option.some.injEq, Prod.mk.injEq]
      constructor
      · rintro ⟨rfl, rfl⟩
        exact ⟨by rw [hxy]; rfl, hy⟩
      · rintro ⟨e, hn⟩
        cases before with
        | nil =>
          injection e with _ e
          exact absurd (by rw [← e, hxy]; simp) hn
        | cons b bs =>
          injection e with hb e
          have := ih.2 ⟨e, hn⟩
          rw [h, Option.some.injEq, Prod.mk.injEq] at this
          exact ⟨by rw [hb, this.1], this.2⟩

end Specloom.Text
