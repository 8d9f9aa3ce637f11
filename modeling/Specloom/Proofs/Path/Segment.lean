import Specloom.Path.Segment

/-!
# Reading segments

A brace begins a placeholder only where a whole one stands, so literal text without braces and
placeholders are found again wherever they are written. Conversely the names that are found are
identifiers.

## Main results

* `segmentsFrom_char`, `segmentsFrom_placeholder`: what stands in front of a text
* `segments_placeholder`: a placeholder alone
* `isIdent_of_mem_segments`: the names of placeholders
-/

namespace Specloom.Path

theorem isIdentPart_of_isIdent {cs : List Char} (h : isIdent cs = true) :
    ∀ c ∈ cs, isIdentPart c = true := by
  cases cs with
  | nil => cases h
  | cons c rest =>
    simp only [isIdent, Bool.and_eq_true, List.all_eq_true] at h
    rw [List.forall_mem_cons]
    exact ⟨by rw [isIdentPart, h.1, Bool.true_or], h.2⟩

/-- No character outside of identifiers occurs in one. -/
theorem not_mem_of_isIdent {c : Char} (hc : isIdentPart c = false) {cs : List Char}
    (h : isIdent cs = true) : c ∉ cs := by
  intro hmem
  rw [isIdentPart_of_isIdent h c hmem] at hc
  cases hc

/-- An identifier goes on with the characters that may follow it. -/
theorem isIdent_append_singleton {name : List Char} {c : Char} :
    isIdent (name ++ [c]) = true ↔
      (name = [] ∨ isIdent name = true) ∧ extendsIdent name c = true := by
  cases name with
  | nil => simp [isIdent, extendsIdent]
  | cons d name => simp [isIdent, extendsIdent, and_assoc]

/-! ## What stands in front -/

/-- A character other than an opening brace joins the literal before it. -/
theorem segmentsFrom_char {c : Char} (hc : c ≠ '{') (literal rest : List Char) :
    segmentsFrom literal none (c :: rest) = segmentsFrom (literal ++ [c]) none rest := by
  rw [segmentsFrom, if_neg hc]

/-- The rest of an identifier is read up to the closing brace. -/
theorem segmentsFrom_ident {read name : List Char} (h : isIdent (read ++ name) = true)
    (literal rest : List Char) : segmentsFrom literal (some read) (name ++ '}' :: rest) =
      consLiteral literal (.placeholder (read ++ name) :: segmentsFrom [] none rest) := by
  induction name generalizing read with
  | nil =>
    have hne : read ≠ [] := by
      rintro rfl
      cases h
    rw [List.nil_append, segmentsFrom, if_pos ⟨rfl, hne⟩, List.append_nil]
  | cons c name ih =>
    rw [List.append_cons] at h
    -- the character is part of the identifier, so it is no closing brace and may come next
    have hpart : isIdentPart c = true :=
      isIdentPart_of_isIdent h c (by simp)
    have hbrace : c ≠ '}' := by
      rintro rfl
      cases hpart
    have hextends : extendsIdent read c = true := by
      cases read with
      | nil =>
        simp only [List.nil_append, List.singleton_append, isIdent, Bool.and_eq_true] at h
        exact h.1
      | cons d read => exact hpart
    rw [List.cons_append, segmentsFrom, if_neg fun he => hbrace he.1, if_pos hextends, ih h,
      List.append_assoc, List.singleton_append]

/-- A placeholder ends the literal before it. -/
theorem segmentsFrom_placeholder {name : List Char} (h : isIdent name = true)
    (literal rest : List Char) : segmentsFrom literal none ('{' :: (name ++ '}' :: rest)) =
      consLiteral literal (.placeholder name :: segmentsFrom [] none rest) := by
  rw [segmentsFrom, if_pos rfl]
  exact segmentsFrom_ident (List.nil_append name ▸ h) literal rest

theorem segments_placeholder {name : List Char} (h : isIdent name = true) :
    segments (Segment.placeholder name).written = [.placeholder name] :=
  segmentsFrom_placeholder h [] []

/-! ## Names -/

theorem mem_consLiteral {s : Segment} {text : List Char} {rest : List Segment}
    (h : s ∈ consLiteral text rest) : s = .literal text ∨ s ∈ rest := by
  rw [consLiteral] at h
  split at h
  · exact Or.inr h
  · exact List.mem_cons.mp h

theorem isIdent_of_mem_segmentsFrom {name literal rest : List Char} {read : Option (List Char)}
    (hread : ∀ r ∈ read, r = [] ∨ isIdent r = true)
    (h : .placeholder name ∈ segmentsFrom literal read rest) : isIdent name = true := by
  -- along the text, what has been read after an opening brace is empty or an identifier
  fun_induction segmentsFrom literal read rest with
  | case1 literal =>
    rcases mem_consLiteral h with h | h <;> cases h
  | case2 literal read =>
    rcases mem_consLiteral h with h | h <;> cases h
  | case3 literal rest ih => exact ih (by simp) h
  | case4 literal c rest hc ih => exact ih (by simp) h
  | case5 literal read c rest hclose ih =>
    rcases mem_consLiteral h with h | h
    · cases h
    · rcases List.mem_cons.mp h with h | h
      · cases h
        exact (hread name rfl).resolve_left hclose.2
      · exact ih (by simp) h
  | case6 literal read c rest hclose hextends ih =>
    refine ih ?_ h
    rintro _ ⟨⟩
    exact Or.inr (isIdent_append_singleton.mpr ⟨hread read rfl, hextends⟩)
  | case7 literal read rest hclose hextends ih => exact ih (by simp) h
  | case8 literal read c rest hclose hextends hopen ih => exact ih (by simp) h

/-- **The names of placeholders are identifiers.** -/
theorem isIdent_of_mem_segments {name text : List Char} (h : .placeholder name ∈ segments text) :
    isIdent name = true :=
  isIdent_of_mem_segmentsFrom (by simp) h

end Specloom.Path
