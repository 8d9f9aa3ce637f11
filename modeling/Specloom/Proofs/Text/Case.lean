import Mathlib.Data.List.Basic
import Specloom.Text.CaseMap

/-!
# Where case mapping leads

Case mapping keeps ASCII and the characters above it apart but for a few letters: from above U+007F
only `i` and `k` are reached by a small form, and only letters by a capital one. So no character
becomes a zero, and a zero stays one.

## Main definitions

* `CaseRun.LeadsTo`: where the characters of a run are mapped to

## Main results

* `eq_or_le_of_mem_lower`, `le_of_mem_upper`: the images of a character above U+007F
* `exists_lower_eq`: the small form in ASCII, and its capital form
* `count_nul_upper`, `count_nul_lowerAll`: case mapping keeps the number of zeros
-/

namespace Specloom.Text

/-! ## Characters above U+007F -/

/-- The images of a run are characters, all of them above U+007F or the only one a letter. -/
def CaseRun.LeadsTo (letters : List Nat) (run : CaseRun) : Prop :=
  (0 ≤ run.lo + run.delta ∧ run.hi + run.delta < 0xd800 ∨
    0xdfff < run.lo + run.delta ∧ run.hi + run.delta < 0x110000) ∧
  (0x80 ≤ run.lo + run.delta ∨ run.lo = run.hi ∧ (run.lo + run.delta).toNat ∈ letters)

instance (letters : List Nat) (run : CaseRun) : Decidable (run.LeadsTo letters) :=
  inferInstanceAs (Decidable (_ ∧ _))

theorem toNat_ofNat_of_isValidChar {n : Nat} (h : n.isValidChar) : (Char.ofNat n).toNat = n := by
  rw [Char.ofNat, dif_pos h]
  rfl

theorem CaseRun.LeadsTo.toNat_of_map? {letters : List Nat} {run : CaseRun}
    (h : run.LeadsTo letters) {n m : Nat} (hm : run.map? n = some m) :
    (Char.ofNat m).toNat = m ∧ (0x80 ≤ m ∨ m ∈ letters) := by
  rw [map?, Option.ite_none_right_eq_some, Option.some_inj] at hm
  obtain ⟨⟨hlo, hhi, -⟩, rfl⟩ := hm
  obtain ⟨hvalid, hletter⟩ := h
  have himage : (n + run.delta).toNat.isValidChar := by
    unfold Nat.isValidChar
    omega
  refine ⟨toNat_ofNat_of_isValidChar himage, ?_⟩
  rcases hletter with hletter | ⟨hone, hletter⟩
  · exact .inl (by omega)
  · obtain rfl : run.lo = n := by omega
    exact .inr hletter

/-- The image of a character in one of some runs. -/
theorem toNat_of_findSome? {letters : List Nat} {runs : List CaseRun}
    (hruns : ∀ run ∈ runs, run.LeadsTo letters) {n m : Nat}
    (hm : runs.findSome? (·.map? n) = some m) :
    (Char.ofNat m).toNat = m ∧ (0x80 ≤ m ∨ m ∈ letters) := by
  obtain ⟨run, hrun, hm⟩ := List.exists_of_findSome?_eq_some hm
  exact (hruns run hrun).toNat_of_map? hm

/-- **The small form of a character above U+007F** is above it too, but for two letters. -/
theorem eq_or_le_of_mem_lower {c d : Char} (hc : 0x80 ≤ c.toNat) (h : d ∈ lower c) :
    d = 'i' ∨ d = 'k' ∨ 0x80 ≤ d.toNat := by
  have hruns : ∀ run ∈ lowerRuns, run.LeadsTo ['k'.toNat] := by decide +kernel
  rw [lower, if_neg (by omega)] at h
  split at h
  · rcases List.mem_pair.mp h with rfl | rfl
    · exact .inl rfl
    · exact .inr (.inr (by decide))
  · rw [List.mem_singleton] at h
    subst h
    cases hm : lowerRuns.findSome? (·.map? c.toNat) with
    | none => exact .inr (.inr hc)
    | some m =>
      obtain ⟨hvalue, hm | hm⟩ := toNat_of_findSome? hruns hm
      · exact .inr (.inr (hvalue.symm ▸ hm))
      · rw [List.mem_singleton] at hm
        subst hm
        exact .inr (.inl rfl)

/-- The small form of a character is never empty. -/
theorem lower_ne_nil (c : Char) : lower c ≠ [] := by
  unfold lower
  split
  · exact List.cons_ne_nil _ _
  · split <;> exact List.cons_ne_nil _ _

/-- The capital form of a character above U+007F is made of capitals and characters above it. -/
theorem le_of_mem_upper {c d : Char} (hc : 0x80 ≤ c.toNat) (h : d ∈ upper c) :
    'A'.toNat ≤ d.toNat := by
  have hruns : ∀ run ∈ upperRuns, run.LeadsTo ['I'.toNat, 'S'.toNat] := by decide +kernel
  have hsequences : ∀ entry ∈ upperSequences, ∀ n ∈ entry.2, 'A'.toNat ≤ (Char.ofNat n).toNat := by
    decide +kernel
  rw [upper, if_neg (by omega)] at h
  split at h
  · rename_i n cs hfind
    obtain ⟨m, hm, rfl⟩ := List.mem_map.mp h
    exact hsequences _ (List.mem_of_find?_eq_some hfind) m hm
  · rw [List.mem_singleton] at h
    subst h
    cases hm : upperRuns.findSome? (·.map? c.toNat) with
    | none => exact Nat.le_trans (by decide) hc
    | some m =>
      obtain ⟨hvalue, hm | hm⟩ := toNat_of_findSome? hruns hm
      · exact Nat.le_trans (by decide) (hvalue.symm ▸ hm)
      · rw [← hvalue] at hm
        rcases List.mem_pair.mp hm with hm | hm <;>
          exact Nat.le_trans (by decide) (Nat.le_of_eq hm.symm)

/-! ## ASCII -/

/-- **The small form in ASCII** is one character, with the same capital form. -/
theorem exists_lower_eq {c : Char} (h : c.toNat < 0x80) :
    ∃ d, lower c = [d] ∧ d.toNat < 0x80 ∧ upper d = upper c := by
  have hall : (List.range 0x80).all fun n => (lower (Char.ofNat n)).length == 1 &&
      (lower (Char.ofNat n)).all fun d => d.toNat < 0x80 && upper d == upper (Char.ofNat n) := by
    decide +kernel
  have hc := List.all_eq_true.mp hall c.toNat (List.mem_range.mpr h)
  rw [Char.ofNat_toNat, Bool.and_eq_true, beq_iff_eq] at hc
  obtain ⟨d, hd⟩ := List.length_eq_one_iff.mp hc.1
  have hd' := List.all_eq_true.mp hc.2 d (hd ▸ List.mem_singleton_self d)
  rw [Bool.and_eq_true, decide_eq_true_iff, beq_iff_eq] at hd'
  exact ⟨d, hd, hd'⟩

/-! ## Zeros -/

theorem count_nul_of_forall_ne {cs : List Char} (h : ∀ d ∈ cs, d.toNat ≠ 0) :
    cs.count '\x00' = 0 :=
  List.count_eq_zero.mpr fun hmem => h _ hmem rfl

/-- Case mapping of one character keeps a zero and makes none. -/
theorem count_nul_case (c : Char) :
    (upper c).count '\x00' = [c].count '\x00' ∧ (lower c).count '\x00' = [c].count '\x00' := by
  by_cases hc : c.toNat < 0x80
  · have hall : (List.range 0x80).all fun n =>
        let c := Char.ofNat n
        (upper c).count '\x00' == [c].count '\x00' && (lower c).count '\x00' == [c].count '\x00' := by
      decide +kernel
    have hcounts := List.all_eq_true.mp hall c.toNat (List.mem_range.mpr hc)
    simpa only [Char.ofNat_toNat, Bool.and_eq_true, beq_iff_eq] using hcounts
  · rw [Nat.not_lt] at hc
    have hzero : [c].count '\x00' = 0 := count_nul_of_forall_ne fun d hd => by
      rw [List.mem_singleton.mp hd]
      omega
    rw [hzero]
    refine ⟨count_nul_of_forall_ne fun d hd => ?_, count_nul_of_forall_ne fun d hd => ?_⟩
    · have hle := le_of_mem_upper hc hd
      exact Nat.ne_of_gt (Nat.lt_of_lt_of_le (by decide) hle)
    · rcases eq_or_le_of_mem_lower hc hd with rfl | rfl | hle
      · decide
      · decide
      · omega

theorem count_nul_upper (c : Char) : (upper c).count '\x00' = [c].count '\x00' :=
  (count_nul_case c).1

theorem count_nul_lower (c : Char) : (lower c).count '\x00' = [c].count '\x00' :=
  (count_nul_case c).2

theorem count_nul_lowerFrom (before cs : List Char) :
    (lowerFrom before cs).count '\x00' = cs.count '\x00' := by
  induction cs generalizing before with
  | nil => rfl
  | cons c cs ih =>
    change _ = ([c] ++ cs).count '\x00'
    rw [lowerFrom, List.count_append, List.count_append, ih]
    congr 1
    -- both small sigmas stand for a capital one
    split
    · rename_i hsigma
      subst hsigma
      split <;> rfl
    · exact count_nul_lower c

/-- **The small form of a text** has as many zeros as the text. -/
theorem count_nul_lowerAll (cs : List Char) : (lowerAll cs).count '\x00' = cs.count '\x00' :=
  count_nul_lowerFrom [] cs

end Specloom.Text
