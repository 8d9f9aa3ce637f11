/-!
# Replacing texts

Every occurrence of a text is replaced by another, from left to right. Occurrences do not overlap,
and what has been put in is not looked at again.

## Main definitions

* `replaceAll`: replaces a text

## Main results

* `replaceAll_append`, `replaceAll_cons`: an occurrence, and a character where none begins
* `replaceAll_cons_of_head?`: where the second character does not follow, none begins
* `replaceAll_singleton`: one character is replaced wherever it stands
-/

namespace Specloom.Text

/-- Replaces each occurrence of a text from the character after the next `skip` ones on, which
belong to an occurrence that has been replaced. -/
def replaceFrom (old new : List Char) : Nat → List Char → List Char
  | _, [] => []
  | skip + 1, _ :: rest => replaceFrom old new skip rest
  | 0, c :: rest =>
    if old.isPrefixOf (c :: rest) then new ++ replaceFrom old new (old.length - 1) rest
    else c :: replaceFrom old new 0 rest

/-- Replaces each occurrence of a text, which is not empty. -/
def replaceAll (old new text : List Char) : List Char :=
  replaceFrom old new 0 text

variable {old new : List Char}

@[simp] theorem replaceAll_nil : replaceAll old new [] = [] :=
  rfl

theorem replaceFrom_append (skipped rest : List Char) :
    replaceFrom old new skipped.length (skipped ++ rest) = replaceAll old new rest := by
  induction skipped with
  | nil => rfl
  | cons c skipped ih => exact ih

/-- Where the text begins, it is replaced. -/
theorem replaceAll_append (h : old ≠ []) (rest : List Char) :
    replaceAll old new (old ++ rest) = new ++ replaceAll old new rest := by
  cases old with
  | nil => exact absurd rfl h
  | cons c old =>
    rw [← replaceFrom_append old rest, replaceAll, List.cons_append, replaceFrom, if_pos (by simp)]
    rfl

/-- Where the text does not begin, a character is kept. -/
theorem replaceAll_cons {c : Char} {rest : List Char} (h : ¬ old <+: c :: rest) :
    replaceAll old new (c :: rest) = c :: replaceAll old new rest := by
  rw [replaceAll, replaceFrom, if_neg (by simpa using h)]
  rfl

/-- The first character of the text is kept too, if the second one does not follow. -/
theorem replaceAll_cons_of_head? {first second c : Char} {rest : List Char}
    (h : c = first → rest.head? ≠ some second) :
    replaceAll (first :: second :: old) new (c :: rest) =
      c :: replaceAll (first :: second :: old) new rest := by
  refine replaceAll_cons fun hprefix => ?_
  obtain ⟨rfl, hsecond⟩ := List.cons_prefix_cons.mp hprefix
  obtain ⟨rest, rfl⟩ := hsecond
  exact h rfl rfl

/-- One character is replaced wherever it stands. -/
theorem replaceAll_singleton (mark : Char) (text : List Char) :
    replaceAll [mark] new text = text.flatMap fun c => if c = mark then new else [c] := by
  induction text with
  | nil => rfl
  | cons c text ih =>
    rw [List.flatMap_cons, ← ih]
    by_cases hc : c = mark
    · subst hc
      rw [if_pos rfl]
      exact replaceAll_append (List.cons_ne_nil _ _) text
    · rw [if_neg hc]
      exact replaceAll_cons (by simpa [List.cons_prefix_cons] using Ne.symm hc)

end Specloom.Text
