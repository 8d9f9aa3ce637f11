import Specloom.Command.Compiled
import Specloom.Proofs.Go.Token
import Specloom.Proofs.Name

/-!
# Names made of identifiers

Where the keys of a command are identifiers, the names that generated code makes of them are words:
changes of case and splits into words keep to letters, digits and underscores.

## Main results

* `isIdentPart_pascal`, `isIdentPart_ofKey`: the characters of an identifier and of a struct name
* `isWord_goName`, `isWord_regexpName`: the names of a field and of its regular expression
* `regexpName_inj`: fields with different names have different regular expressions
-/

namespace Specloom

open Specloom.Path Text

/-! ## Words -/

theorem isIdentPart_lowerFrom {before cs : List Char} (h : ∀ c ∈ cs, isIdentPart c = true)
    {d : Char} (hd : d ∈ lowerFrom before cs) : isIdentPart d = true := by
  induction cs generalizing before with
  | nil => cases hd
  | cons c cs ih =>
    rw [List.forall_mem_cons] at h
    -- the one letter whose small form depends on its neighbours is not ASCII
    have hsigma : c ≠ 'Σ' := by
      rintro rfl
      cases h.1
    rw [lowerFrom, if_neg hsigma] at hd
    rcases List.mem_append.mp hd with hd | hd
    · exact (isIdentPart_case h.1).2.2 d hd
    · exact ih h.2 hd

theorem mem_wordsFrom {current w : List Char} {clusters : List (LetterKind × List Char)}
    (hw : w ∈ wordsFrom current clusters) {c : Char} (hc : c ∈ w) :
    c ∈ current ++ clusters.flatMap (·.2) := by
  -- in every case a word is made of the open word and of clusters to come
  fun_induction wordsFrom current clusters with
  | case1 current =>
    rw [List.mem_singleton.mp hw] at hc
    exact List.mem_append_left _ hc
  | case2 current separator rest ih =>
    rcases List.mem_cons.mp hw with rfl | hw
    · exact List.mem_append_left _ hc
    · exact List.mem_append_right _ (List.mem_append_right _ (ih hw))
  | case3 current kind cluster hkind =>
    rw [List.mem_singleton.mp hw] at hc
    simpa using hc
  | case4 current kind cluster hkind next following after hends ih =>
    rcases List.mem_cons.mp hw with rfl | hw
    · rw [List.flatMap_cons, ← List.append_assoc]
      exact List.mem_append_left _ hc
    · rw [List.flatMap_cons, ← List.append_assoc]
      exact List.mem_append_right _ (ih hw)
  | case5 current kind cluster hkind next following after hends ih =>
    rw [List.flatMap_cons, ← List.append_assoc]
    exact ih hw

/-- The characters of a word are characters of the text. -/
theorem mem_of_mem_words {cs w : List Char} (hw : w ∈ words cs) {c : Char} (hc : c ∈ w) :
    c ∈ cs := by
  have hmem := mem_wordsFrom (List.mem_filter.mp hw).1 hc
  rwa [List.nil_append, List.flatMap_map, List.flatMap_id', flatten_clusters] at hmem

theorem isIdentPart_pascal {cs : List Char} (h : ∀ c ∈ cs, isIdentPart c = true) {d : Char}
    (hd : d ∈ Text.pascal cs) : isIdentPart d = true := by
  obtain ⟨w, hw, hd⟩ := List.mem_flatMap.mp hd
  have hword : ∀ c ∈ w, isIdentPart c = true := fun c hc => h c (mem_of_mem_words hw hc)
  cases w with
  | nil => cases hd
  | cons c rest =>
    rw [List.forall_mem_cons] at hword
    rcases List.mem_append.mp hd with hd | hd
    · exact (isIdentPart_case hword.1).2.1 d hd
    · exact isIdentPart_lowerFrom hword.2 hd

/-! ## Keys -/

theorem isIdentPart_ofKey {key : String}
    (h : ∀ part ∈ splitOn '.' key.toList, isIdent part = true) :
    ∀ c ∈ (Name.ofKey key).toList, isIdentPart c = true := by
  intro c hc
  rw [Name.ofKey, String.toList_ofList] at hc
  obtain ⟨part, hpart, hc⟩ := List.mem_flatMap.mp hc
  exact isIdentPart_pascal (isIdentPart_of_isIdent (h part (List.mem_filter.mp hpart).1)) hc

theorem isIdentPart_lowerFirst {s : String} (h : ∀ c ∈ s.toList, isIdentPart c = true) :
    ∀ c ∈ (Name.lowerFirst s).toList, isIdentPart c = true := by
  unfold Name.lowerFirst
  cases hs : s.toList with
  | nil => exact List.forall_mem_nil _
  | cons c rest =>
    rw [hs, List.forall_mem_cons] at h
    intro d hd
    rw [String.toList_ofList] at hd
    rcases List.mem_append.mp hd with hd | hd
    · exact (isIdentPart_case h.1).2.2 d hd
    · exact h.2 d hd

/-- The name of a field is a word. -/
theorem isWord_goName {f : CommandField} (h : isIdent f.key.toList = true) :
    Go.IsWord f.goName := by
  have hname := isIdent_upperFirst h
  refine ⟨fun hnil => ?_, isIdentPart_of_isIdent hname⟩
  rw [CommandField.goName] at hnil
  rw [hnil] at hname
  cases hname

/-- The name of the regular expression of a field is a word. -/
theorem isWord_regexpName {c : CompiledCommand} {f : CommandField}
    (hkey : ∀ part ∈ splitOn '.' c.command.key.toList, isIdent part = true)
    (hf : isIdent f.key.toList = true) : Go.IsWord (c.regexpName f) := by
  unfold Go.IsWord CompiledCommand.regexpName
  rw [String.toList_append, String.toList_append]
  refine ⟨List.append_ne_nil_of_right_ne_nil _ (by decide), fun d hd => ?_⟩
  rcases List.mem_append.mp hd with hd | hd
  · rcases List.mem_append.mp hd with hd | hd
    · exact isIdentPart_lowerFirst (isIdentPart_ofKey hkey) d hd
    · exact (isWord_goName hf).2 d hd
  · have hsuffix : "Regexp".toList.all isIdentPart = true := by decide +kernel
    exact List.all_eq_true.mp hsuffix d hd

/-- Fields with different names have different regular expressions. -/
theorem regexpName_inj {c : CompiledCommand} {f g : CommandField} :
    c.regexpName f = c.regexpName g ↔ f.goName = g.goName := by
  simp [CompiledCommand.regexpName]

end Specloom
