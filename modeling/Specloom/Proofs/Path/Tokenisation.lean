import Mathlib.Data.List.Chain
import Mathlib.Data.List.Infix
import Specloom.Proofs.Path.Segment

/-!
# The segments of a text as its tokens

A text can be cut into literals and placeholders in one way only, if no literal is empty, no two
literals are neighbours, and no placeholder is left inside a literal. Its segments are this cut: a
placeholder that stands in a text ends what is before it, whatever was being read there, and a text
without placeholders is one literal. So the segments on both sides of a placeholder are read apart.

## Main definitions

* `HasPlaceholder`: a placeholder stands in a text
* `IsTokenisation`: a text cut into literals and placeholders

## Main results

* `segments_append_placeholder`: the segments on both sides of a placeholder
* `segments_of_not_hasPlaceholder`: a text without placeholders
* `placeholderInduction`: induction along the placeholders of a text
* `segments_eq_iff`: the segments are the only tokenisation
* `placeholders_append_cons`: placeholders on both sides of a character that occurs in none
-/

namespace Specloom.Path

/-- A placeholder stands somewhere in a text. -/
def HasPlaceholder (text : List Char) : Prop :=
  ∃ name, isIdent name = true ∧ (Segment.placeholder name).written <:+: text

/-- A text cut into literals and placeholders, the longest literals and all placeholders. -/
structure IsTokenisation (text : List Char) (ss : List Segment) : Prop where
  /-- The segments, as they stand one after the other, are the text. -/
  written : ss.flatMap Segment.written = text
  isIdent : ∀ name, .placeholder name ∈ ss → isIdent name = true
  literal_ne_nil : ∀ t, .literal t ∈ ss → t ≠ []
  /-- Of two neighbours, one at least is a placeholder. -/
  apart : ss.IsChain fun s s' => s.name?.isSome ∨ s'.name?.isSome
  not_hasPlaceholder : ∀ t, .literal t ∈ ss → ¬ HasPlaceholder t

/-! ## What is read -/

theorem consLiteral_append (text : List Char) (ss ss' : List Segment) :
    consLiteral text ss ++ ss' = consLiteral text (ss ++ ss') := by
  rw [consLiteral, consLiteral]
  split <;> rfl

/-- **A placeholder ends what is before it**, at whatever place the reading is. An identifier that
was begun is literal text, since a brace does not go on with it. -/
theorem segmentsFrom_append_placeholder {name : List Char} (h : isIdent name = true)
    (literal : List Char) (read : Option (List Char)) (before after : List Char) :
    segmentsFrom literal read (before ++ ((Segment.placeholder name).written ++ after)) =
      segmentsFrom literal read before ++ .placeholder name :: segments after := by
  have hwritten : (Segment.placeholder name).written ++ after = '{' :: (name ++ '}' :: after) := by
    simp [Segment.written]
  rw [hwritten]
  fun_induction segmentsFrom literal read before with
  | case1 literal =>
    rw [List.nil_append, segmentsFrom_placeholder h, consLiteral_append]
    rfl
  | case2 literal read =>
    have hextends : extendsIdent read '{' = false := by cases read <;> rfl
    rw [List.nil_append, segmentsFrom, if_neg (by simp), if_neg (by simp [hextends]), if_pos rfl,
      segmentsFrom_ident (List.nil_append name ▸ h), consLiteral_append]
    rfl
  | case3 literal rest ih => rw [List.cons_append, segmentsFrom, if_pos rfl, ih]
  | case4 literal c rest hc ih => rw [List.cons_append, segmentsFrom, if_neg hc, ih]
  | case5 literal read c rest hclose ih =>
    rw [List.cons_append, segmentsFrom, if_pos hclose, ih, consLiteral_append, List.cons_append]
  | case6 literal read c rest hclose hextends ih =>
    rw [List.cons_append, segmentsFrom, if_neg hclose, if_pos hextends, ih]
  | case7 literal read rest hclose hextends ih =>
    rw [List.cons_append, segmentsFrom, if_neg hclose, if_neg hextends, if_pos rfl, ih]
  | case8 literal read c rest hclose hextends hopen ih =>
    rw [List.cons_append, segmentsFrom, if_neg hclose, if_neg hextends, if_neg hopen, ih]

/-- **The segments on both sides of a placeholder** are read apart. -/
theorem segments_append_placeholder {name : List Char} (h : isIdent name = true)
    (before after : List Char) :
    segments (before ++ ((Segment.placeholder name).written ++ after)) =
      segments before ++ .placeholder name :: segments after :=
  segmentsFrom_append_placeholder h [] none before after

/-- What is read first is a literal, which may be empty, and then nothing or a placeholder. -/
theorem exists_segmentsFrom_eq (literal : List Char) (read : Option (List Char))
    (rest : List Char) : ∃ t, segmentsFrom literal read rest = consLiteral t [] ∨
      ∃ name ss, segmentsFrom literal read rest = consLiteral t (.placeholder name :: ss) := by
  fun_induction segmentsFrom literal read rest with
  | case1 literal => exact ⟨_, Or.inl rfl⟩
  | case2 literal read => exact ⟨_, Or.inl rfl⟩
  | case5 literal read c rest hclose ih => exact ⟨_, Or.inr ⟨_, _, rfl⟩⟩
  | case3 literal rest ih => exact ih
  | case4 literal c rest hc ih => exact ih
  | case6 literal read c rest hclose hextends ih => exact ih
  | case7 literal read rest hclose hextends ih => exact ih
  | case8 literal read c rest hclose hextends hopen ih => exact ih

/-- A placeholder that is read stands in the text. -/
theorem hasPlaceholder_of_mem_segments {name text : List Char}
    (h : .placeholder name ∈ segments text) : HasPlaceholder text := by
  refine ⟨name, isIdent_of_mem_segments h, ?_⟩
  rw [← flatMap_written_segments text, List.flatMap_def]
  exact List.infix_of_mem_flatten (List.mem_map_of_mem h)

/-- **A text without placeholders** is a literal, unless it is empty. -/
theorem segments_of_not_hasPlaceholder {text : List Char} (h : ¬ HasPlaceholder text) :
    segments text = consLiteral text [] := by
  have hread := exists_segmentsFrom_eq [] none text
  rw [← segments] at hread
  obtain ⟨t, heq | ⟨name, ss, heq⟩⟩ := hread
  · have hwritten := flatMap_written_segments text
    rw [heq, written_consLiteral, List.flatMap_nil, List.append_nil] at hwritten
    rw [heq, hwritten]
  · have hmem : .placeholder name ∈ segments text := by
      rw [heq, consLiteral]
      split <;> simp
    exact absurd (hasPlaceholder_of_mem_segments hmem) h

/-! ## Along the placeholders -/

/-- **Induction along the placeholders of a text**: a text has none, or it is cut by one. -/
theorem placeholderInduction {motive : List Char → Prop}
    (plain : ∀ text, ¬ HasPlaceholder text → motive text)
    (placeholder : ∀ before name after, isIdent name = true → motive before → motive after →
      motive (before ++ ((Segment.placeholder name).written ++ after)))
    (text : List Char) : motive text := by
  by_cases h : HasPlaceholder text
  · obtain ⟨name, hname, before, after, htext⟩ := h
    -- both parts are shorter by the braces at least
    have hlength : before.length + (name.length + 2) + after.length = text.length := by
      simp only [← htext, Segment.written, List.length_append, List.length_cons, List.length_nil]
    rw [← htext, List.append_assoc]
    exact placeholder before name after hname (placeholderInduction plain placeholder before)
      (placeholderInduction plain placeholder after)
  · exact plain text h
termination_by text.length
decreasing_by all_goals omega

/-! ## Tokenisations -/

namespace IsTokenisation

/-- A text without placeholders as one token. -/
theorem of_not_hasPlaceholder {text : List Char} (h : ¬ HasPlaceholder text) :
    IsTokenisation text (consLiteral text []) := by
  rw [consLiteral]
  split
  · rename_i hnil
    exact ⟨by simp [hnil], by simp, by simp, .nil, by simp⟩
  · rename_i hne
    exact ⟨by simp [Segment.written], by simp, by simp [hne], .singleton _, by simp [h]⟩

/-- Tokens on both sides of a placeholder. -/
theorem append_placeholder {before name after : List Char} {ss ss' : List Segment}
    (hbefore : IsTokenisation before ss) (hname : Path.isIdent name = true)
    (hafter : IsTokenisation after ss') :
    IsTokenisation (before ++ ((Segment.placeholder name).written ++ after))
      (ss ++ .placeholder name :: ss') where
  written := by
    rw [List.flatMap_append, List.flatMap_cons, hbefore.written, hafter.written]
  isIdent other hother := by
    rcases List.mem_append.mp hother with hother | hother
    · exact hbefore.isIdent other hother
    · rcases List.mem_cons.mp hother with heq | hother
      · cases heq
        exact hname
      · exact hafter.isIdent other hother
  literal_ne_nil t ht := by
    have ht : .literal t ∈ ss ∨ .literal t ∈ ss' := by simpa using ht
    exact ht.elim (hbefore.literal_ne_nil t) (hafter.literal_ne_nil t)
  apart := by
    have hright : (Segment.placeholder name :: ss').IsChain
        fun s s' => s.name?.isSome ∨ s'.name?.isSome :=
      List.isChain_cons.mpr ⟨fun _ _ => Or.inl rfl, hafter.apart⟩
    refine hbefore.apart.append hright fun s _ s' hs' => ?_
    cases hs'
    exact Or.inr rfl
  not_hasPlaceholder t ht := by
    have ht : .literal t ∈ ss ∨ .literal t ∈ ss' := by simpa using ht
    exact ht.elim (hbefore.not_hasPlaceholder t) (hafter.not_hasPlaceholder t)

/-- The tokens after the first. -/
theorem tail {text : List Char} {s : Segment} {ss : List Segment}
    (h : IsTokenisation text (s :: ss)) : IsTokenisation (ss.flatMap Segment.written) ss where
  written := rfl
  isIdent name hname := h.isIdent name (List.mem_cons_of_mem _ hname)
  literal_ne_nil t ht := h.literal_ne_nil t (List.mem_cons_of_mem _ ht)
  apart := h.apart.tail
  not_hasPlaceholder t ht := h.not_hasPlaceholder t (List.mem_cons_of_mem _ ht)

/-- A literal of a tokenisation is read as it is, since no placeholder stands in it. -/
theorem segments_literal {text t : List Char} {ss : List Segment}
    (h : IsTokenisation text (.literal t :: ss)) : segments t = [.literal t] := by
  rw [segments_of_not_hasPlaceholder (h.not_hasPlaceholder t List.mem_cons_self), consLiteral,
    if_neg (h.literal_ne_nil t List.mem_cons_self)]

/-- **There is one tokenisation only**, by induction on its tokens up to each placeholder. -/
theorem segments_eq : (ss : List Segment) → {text : List Char} → IsTokenisation text ss →
    segments text = ss
  | [], _, h => by
    rw [← h.written]
    rfl
  | .placeholder name :: ss, _, h => by
    have hname := h.isIdent name List.mem_cons_self
    rw [← h.written, List.flatMap_cons]
    refine (segments_append_placeholder hname [] _).trans ?_
    rw [segments_eq ss h.tail]
    rfl
  | [.literal t], _, h => by
    rw [← h.written, List.flatMap_singleton]
    exact h.segments_literal
  | .literal t :: .placeholder name :: ss, _, h => by
    have hname := h.tail.isIdent name List.mem_cons_self
    rw [← h.written, List.flatMap_cons, List.flatMap_cons]
    refine (segments_append_placeholder hname t _).trans ?_
    rw [segments_eq ss h.tail.tail, h.segments_literal]
    rfl
  | .literal t :: .literal u :: ss, _, h => by
    -- two literals would be one
    have hapart := (List.isChain_cons_cons.mp h.apart).1
    simp [Segment.name?] at hapart

end IsTokenisation

/-- The segments of a text are a tokenisation. -/
theorem isTokenisation_segments (text : List Char) : IsTokenisation text (segments text) := by
  induction text using placeholderInduction with
  | plain text h =>
    rw [segments_of_not_hasPlaceholder h]
    exact .of_not_hasPlaceholder h
  | placeholder before name after hname hbefore hafter =>
    rw [segments_append_placeholder hname]
    exact hbefore.append_placeholder hname hafter

/-- **The segments of a text are its only tokenisation.** -/
theorem segments_eq_iff {text : List Char} {ss : List Segment} :
    segments text = ss ↔ IsTokenisation text ss :=
  ⟨fun h => h ▸ isTokenisation_segments text, IsTokenisation.segments_eq ss⟩

/-! ## Placeholders -/

theorem placeholders_append_placeholder {name : List Char} (h : isIdent name = true)
    (before after : List Char) :
    placeholders (before ++ ((Segment.placeholder name).written ++ after)) =
      placeholders before ++ name :: placeholders after := by
  rw [placeholders, segments_append_placeholder h, List.filterMap_append, List.filterMap_cons]
  rfl

theorem placeholders_of_not_hasPlaceholder {text : List Char} (h : ¬ HasPlaceholder text) :
    placeholders text = [] := by
  rw [placeholders, segments_of_not_hasPlaceholder h, consLiteral]
  split <;> rfl

variable {c : Char}

/-- Around a character that occurs in no placeholder, each placeholder stands on one side. -/
theorem hasPlaceholder_append_cons (hc : c ∉ ['{', '}']) (hpart : isIdentPart c = false)
    {text more : List Char} (h : HasPlaceholder (text ++ c :: more)) :
    HasPlaceholder text ∨ HasPlaceholder more := by
  obtain ⟨name, hname, hinfix⟩ := h
  have hmem : c ∉ (Segment.placeholder name).written := by
    have := not_mem_of_isIdent hpart hname
    simp_all [Segment.written]
  -- it stands on the left, or from the character on, or it begins on the left and goes on to it
  rcases List.infix_append_iff.mp hinfix with hinfix | hinfix | ⟨l, l', hl, hsuffix, hprefix⟩
  · exact Or.inl ⟨name, hname, hinfix⟩
  · rcases List.infix_cons_iff.mp hinfix with hprefix | hinfix
    · rcases List.prefix_cons_iff.mp hprefix with hnil | ⟨t, ht, -⟩
      · simp [Segment.written] at hnil
      · exact absurd (ht ▸ List.mem_cons_self) hmem
    · exact Or.inr ⟨name, hname, hinfix⟩
  · rcases List.prefix_cons_iff.mp hprefix with rfl | ⟨t, rfl, -⟩
    · rw [List.append_nil] at hl
      exact Or.inl ⟨name, hname, hl ▸ hsuffix.isInfix⟩
    · exact absurd (hl ▸ by simp) hmem

/-- **The placeholders on both sides of a character that occurs in none** are those of the text. -/
theorem placeholders_append_cons (hc : c ∉ ['{', '}']) (hpart : isIdentPart c = false)
    (text more : List Char) :
    placeholders (text ++ c :: more) = placeholders text ++ placeholders more := by
  induction text using placeholderInduction with
  | plain text htext =>
    induction more using placeholderInduction with
    | plain more hmore =>
      have hboth : ¬ HasPlaceholder (text ++ c :: more) := fun h =>
        (hasPlaceholder_append_cons hc hpart h).elim htext hmore
      rw [placeholders_of_not_hasPlaceholder hboth, placeholders_of_not_hasPlaceholder htext,
        placeholders_of_not_hasPlaceholder hmore, List.append_nil]
    | placeholder before name after hname hbefore _ =>
      rw [← List.cons_append, ← List.append_assoc text, placeholders_append_placeholder hname,
        hbefore, placeholders_append_placeholder hname, List.append_assoc]
  | placeholder before name after hname _ hafter =>
    rw [List.append_assoc, List.append_assoc, placeholders_append_placeholder hname, hafter,
      placeholders_append_placeholder hname, List.append_assoc, List.cons_append]

/-- **What the segments of a text are.** They are its one tokenisation: as they stand they are the
text, no literal is empty, no two literals are neighbours, and no placeholder stands in a literal.
Every placeholder that stands in the text is one of them, at its place. So the placeholders of two
texts with a slash between them are those of the one and of the other. -/
theorem segments_tokenise (text : List Char) :
    (∀ ss, segments text = ss ↔ IsTokenisation text ss) ∧
      (∀ before name after, isIdent name = true →
        text = before ++ (Segment.placeholder name).written ++ after →
          segments text = segments before ++ .placeholder name :: segments after) ∧
      ∀ more, placeholders (text ++ '/' :: more) = placeholders text ++ placeholders more := by
  refine ⟨fun ss => segments_eq_iff, ?_, placeholders_append_cons (by decide) (by decide) text⟩
  rintro before name after hname rfl
  rw [List.append_assoc, segments_append_placeholder hname]

/-- Braces around a placeholder, and one that is not closed, are literal text. -/
theorem segments_tokenise_braces : isIdent ['i', 'd'] = true ∧
    ['{', 'a', '{', 'i', 'd', '}', '}', '/', '{', 'b'] =
      ['{', 'a'] ++ (Segment.placeholder ['i', 'd']).written ++ ['}', '/', '{', 'b'] ∧
    segments ['{', 'a', '{', 'i', 'd', '}', '}', '/', '{', 'b'] =
      [.literal ['{', 'a'], .placeholder ['i', 'd'], .literal ['}', '/', '{', 'b']] ∧
    IsTokenisation ['{', 'a', '{', 'i', 'd', '}', '}', '/', '{', 'b']
      [.literal ['{', 'a'], .placeholder ['i', 'd'], .literal ['}', '/', '{', 'b']] := by
  obtain ⟨hiff, hplace, -⟩ :=
    segments_tokenise ['{', 'a', '{', 'i', 'd', '}', '}', '/', '{', 'b']
  have hsegments := hplace ['{', 'a'] ['i', 'd'] ['}', '/', '{', 'b'] (by decide) (by decide)
  have hsides : segments ['{', 'a'] = [.literal ['{', 'a']] ∧
      segments ['}', '/', '{', 'b'] = [.literal ['}', '/', '{', 'b']] := by
    decide
  rw [hsides.1, hsides.2] at hsegments
  exact ⟨by decide, by decide, hsegments, (hiff _).mp hsegments⟩

end Specloom.Path
