import Mathlib.Data.List.TakeWhile
import Specloom.Text.Split

/-!
# Pieces between separators

Pieces are joined with a separator between them and cut apart again. What is in the joined text is
in a piece or is the separator, and every piece stands in it as it is.

## Main results

* `splitOn_intercalate`: pieces without the separator are found again
* `splitWhere_append_cons_append`, `splitOn_append_cons`: the pieces on both sides of a separator
* `splitWhere_append`, `splitWhere_eq_singleton_iff`: the first piece, and when it is the only one
* `not_mem_of_mem_splitOn`: no piece has the separator in it
* `mem_intercalate`, `infix_intercalate`: what is in a joined text
* `mem_or_exists_mem_splitOn`: what is in a text that is cut
-/

namespace Specloom.Text

theorem splitWhere_eq_splitOnP (p : Char → Bool) (cs : List Char) :
    splitWhere p cs = cs.splitOnP p := by
  induction cs with
  | nil => rfl
  | cons c cs ih =>
    rw [splitWhere, List.splitOnP_cons_eq_if_modifyHead, ih]
    split
    · rfl
    · cases h : cs.splitOnP p with
      | nil => exact absurd h (List.splitOnP_ne_nil _ _)
      | cons piece pieces => rfl

theorem splitOn_eq_list (sep : Char) (cs : List Char) : splitOn sep cs = cs.splitOn sep := by
  rw [splitOn, splitWhere_eq_splitOnP, List.splitOn_eq_splitOnP]

/-- A text in two parts around a separator. -/
theorem splitWhere_append_cons_append {p : Char → Bool} (before after : List Char) {c : Char}
    (hc : p c = true) :
    splitWhere p (before ++ c :: after) = splitWhere p before ++ splitWhere p after := by
  simp only [splitWhere_eq_splitOnP]
  exact List.splitOnP_append_cons before after hc

/-- Characters that separate nothing belong to the first piece. -/
theorem splitWhere_append {p : Char → Bool} {lead : List Char} (hlead : ∀ c ∈ lead, p c = false)
    {cs first : List Char} {rest : List (List Char)} (h : splitWhere p cs = first :: rest) :
    splitWhere p (lead ++ cs) = (lead ++ first) :: rest := by
  induction lead with
  | nil => exact h
  | cons c lead ih =>
    rw [List.forall_mem_cons] at hlead
    simp [splitWhere, hlead.1, ih hlead.2]

/-- There is one piece exactly if nothing separates. -/
theorem splitWhere_eq_singleton_iff {p : Char → Bool} {cs first : List Char}
    {rest : List (List Char)} (h : splitWhere p cs = first :: rest) :
    rest = [] ↔ ∀ c ∈ cs, p c = false := by
  constructor
  · rintro rfl c hc
    by_contra hsep
    obtain ⟨before, after, rfl⟩ := List.append_of_mem hc
    rw [splitWhere_append_cons_append before after (by simpa using hsep)] at h
    have hlength := congrArg List.length h
    have hbefore := List.length_pos_iff.mpr (splitWhere_ne_nil p before)
    have hafter := List.length_pos_iff.mpr (splitWhere_ne_nil p after)
    rw [List.length_append, List.length_singleton] at hlength
    omega
  · intro hcs
    rw [splitWhere_eq_splitOnP, List.splitOnP_eq_singleton hcs] at h
    exact (List.cons.inj h).2.symm

/-- Pieces without the separator are found again between its occurrences. -/
theorem splitOn_intercalate {sep : Char} {pieces : List (List Char)} (hne : pieces ≠ [])
    (h : ∀ piece ∈ pieces, sep ∉ piece) :
    splitOn sep (List.intercalate [sep] pieces) = pieces := by
  rw [splitOn_eq_list]
  exact List.splitOn_intercalate sep h hne

theorem splitOn_append_cons (sep : Char) (before after : List Char) :
    splitOn sep (before ++ sep :: after) = splitOn sep before ++ splitOn sep after := by
  simp only [splitOn_eq_list]
  exact List.splitOn_append_cons_of_beq before after (beq_self_eq_true sep)

theorem splitOn_of_not_mem {sep : Char} {cs : List Char} (h : sep ∉ cs) :
    splitOn sep cs = [cs] := by
  rw [splitOn_eq_list, List.splitOn_eq_singleton h]

/-- No piece has the separator in it. -/
theorem not_mem_of_mem_splitOn {sep : Char} {cs piece : List Char} (h : piece ∈ splitOn sep cs) :
    sep ∉ piece := by
  induction cs generalizing piece with
  | nil => simp_all [splitOn, splitWhere]
  | cons c cs ih =>
    unfold splitOn at ih h
    rw [splitWhere] at h
    split at h
    · rcases List.mem_cons.mp h with rfl | h
      · exact List.not_mem_nil
      · exact ih h
    · rename_i hc
      have hne : sep ≠ c := fun he => hc (by simp [he])
      split at h
      · simpa [List.mem_singleton.mp h] using hne
      · rename_i first pieces hpieces
        rw [hpieces] at ih
        -- the character joins the first piece; the others are as they were
        rcases List.mem_cons.mp h with rfl | h
        · exact fun hmem => (List.mem_cons.mp hmem).elim hne (ih List.mem_cons_self)
        · exact ih (List.mem_cons_of_mem _ h)

/-- With nothing between them, texts are joined. -/
theorem intercalate_empty (texts : List String) : "".intercalate texts = String.join texts := by
  rw [← String.toList_inj, String.toList_intercalate, String.toList_join]
  induction texts with
  | nil => rfl
  | cons text texts ih =>
    cases texts with
    | nil => simp
    | cons text' texts => simpa [List.intercalate_cons_cons] using ih

theorem mem_intercalate {α : Type} {sep x : α} {lists : List (List α)}
    (h : x ∈ List.intercalate [sep] lists) : x = sep ∨ ∃ list ∈ lists, x ∈ list := by
  induction lists with
  | nil => simp at h
  | cons list lists ih =>
    cases lists with
    | nil => simp_all
    | cons list' lists =>
      rw [List.intercalate_cons_cons, List.append_assoc, List.mem_append, List.mem_append] at h
      rcases h with h | h | h
      · exact Or.inr ⟨list, List.mem_cons_self, h⟩
      · exact Or.inl (List.mem_singleton.mp h)
      · exact (ih h).imp_right fun ⟨l, hl, hx⟩ => ⟨l, List.mem_cons_of_mem _ hl, hx⟩

theorem infix_intercalate {α : Type} (sep : List α) {list : List α} {lists : List (List α)}
    (h : list ∈ lists) : list <:+: List.intercalate sep lists := by
  induction lists with
  | nil => cases h
  | cons list' lists ih =>
    cases lists with
    | nil =>
      obtain rfl := List.mem_singleton.mp h
      simp
    | cons list'' lists =>
      rw [List.intercalate_cons_cons, List.append_assoc]
      rcases List.mem_cons.mp h with rfl | h
      · exact (List.prefix_append _ _).isInfix
      · exact (ih h).trans (List.suffix_append_of_suffix (List.suffix_append _ _)).isInfix

/-- A joined text is as long as each of the texts at least. -/
theorem length_le_length_intercalate {sep text : String} {texts : List String} (h : text ∈ texts) :
    text.toList.length ≤ (sep.intercalate texts).toList.length := by
  rw [String.toList_intercalate]
  exact (infix_intercalate _ (List.mem_map_of_mem h)).length_le

theorem mem_or_exists_mem_splitOn (sep : Char) {c : Char} {cs : List Char} (h : c ∈ cs) :
    c = sep ∨ ∃ piece ∈ splitOn sep cs, c ∈ piece := by
  rw [← intercalate_splitOn sep cs] at h
  exact mem_intercalate h

end Specloom.Text
