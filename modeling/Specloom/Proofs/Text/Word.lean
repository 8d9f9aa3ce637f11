import Specloom.Proofs.Text.Case
import Specloom.Text.Word

/-!
# Zeros in words

The words of a text have all its characters but the separators, and capitalizing them neither makes
nor drops a zero. So the identifier of a text has as many zeros as the text.

## Main results

* `count_nul_words`: the words of a text
* `count_nul_pascal`: the identifier of a text
-/

namespace Specloom.Text

/-- A separator is one character, and that is no zero. -/
theorem count_nul_of_separator {cluster : List Char} (h : letterKind cluster = .separator) :
    cluster.count '\x00' = 0 := by
  unfold letterKind at h
  split at h
  · rename_i hcluster
    rcases hcluster with rfl | rfl | rfl <;> decide
  · split at h
    · cases h
    · repeat' split at h
      all_goals cases h

/-- The words of clusters to come: what is dropped between words are separators. -/
theorem count_nul_wordsFrom (current : List Char) (items : List (LetterKind × List Char))
    (hitems : ∀ item ∈ items, item.1 = .separator → item.2.count '\x00' = 0) :
    (wordsFrom current items).flatten.count '\x00' =
      (current ++ items.flatMap (·.2)).count '\x00' := by
  fun_induction wordsFrom current items with
  | case1 current => simp
  | case2 current cluster rest ih =>
    rw [List.forall_mem_cons] at hitems
    simp [ih hitems.2, hitems.1 rfl]
  | case3 current kind cluster hkind => simp
  | case4 current kind cluster hkind next following after hends ih =>
    rw [List.flatten_cons, List.count_append, ih (List.forall_mem_cons.mp hitems).2]
    simp [Nat.add_assoc]
  | case5 current kind cluster hkind next following after hends ih =>
    rw [ih (List.forall_mem_cons.mp hitems).2, List.append_assoc]
    rfl

/-- **The words of a text** have all its zeros. -/
theorem count_nul_words (cs : List Char) : (words cs).flatten.count '\x00' = cs.count '\x00' := by
  have hitems : ∀ item ∈ (clusters cs).map fun g => (letterKind g, g),
      item.1 = .separator → item.2.count '\x00' = 0 :=
    List.forall_mem_map.mpr fun _ _ => count_nul_of_separator
  have hwords := count_nul_wordsFrom [] _ hitems
  rw [List.nil_append, List.flatMap_map, List.flatMap_id', flatten_clusters] at hwords
  rw [words, List.flatten_filter_ne_nil, hwords]

theorem count_nul_capitalized (word : List Char) :
    (capitalized word).count '\x00' = word.count '\x00' := by
  cases word with
  | nil => rfl
  | cons c rest =>
    rw [capitalized, List.count_append, count_nul_upper, count_nul_lowerAll, ← List.count_append,
      List.singleton_append]

/-- **The identifier of a text** has as many zeros as the text. -/
theorem count_nul_pascal (cs : List Char) : (pascal cs).count '\x00' = cs.count '\x00' := by
  rw [pascal, ← count_nul_words cs, List.count_flatMap, List.count_flatten]
  simp only [Function.comp_def, count_nul_capitalized]

end Specloom.Text
