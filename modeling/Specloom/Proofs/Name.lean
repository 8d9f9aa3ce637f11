import Mathlib.Data.List.Nodup
import Specloom.Name
import Specloom.Proofs.Path.Segment

/-!
# Case of identifiers

The capital and the small form of a character of identifiers are made of such characters again, and
an identifier with a capital first letter is an identifier.

Two keys become one name only if their first letters differ in case. The capital form of a letter
can be several letters, so the keys need not have the same length.

## Main definitions

* `Name.DifferInCase`: two keys with one name

## Main results

* `isIdentPart_case`: the characters of identifiers
* `isIdent_upperFirst`: whole identifiers
* `Name.upperFirst_eq_iff`: keys with one name
* `Name.nodup_map_upperFirst_iff`: keys whose names are distinct
-/

namespace Specloom

open Specloom.Path Text

theorem toNat_lt_of_isIdentPart {c : Char} (h : isIdentPart c = true) : c.toNat < 128 := by
  simp only [isIdentPart, isIdentStart, Bool.or_eq_true, Bool.and_eq_true, decide_eq_true_eq,
    beq_iff_eq] at h
  rcases h with ((h | h) | rfl) | h
  · exact Nat.lt_of_le_of_lt h.2 (by decide)
  · exact Nat.lt_of_le_of_lt h.2 (by decide)
  · decide
  · exact Nat.lt_of_le_of_lt h.2 (by decide)

/-- Case keeps to the characters of identifiers. -/
theorem isIdentPart_case {c : Char} (h : isIdentPart c = true) : upper c ≠ [] ∧
    (∀ d ∈ upper c, isIdentPart d = true) ∧ ∀ d ∈ lower c, isIdentPart d = true := by
  -- a bounded check over ASCII, to which the characters of identifiers belong
  have key : (List.range 128).all fun n =>
      let c := Char.ofNat n
      !isIdentPart c || !(upper c).isEmpty && (upper c).all isIdentPart &&
        (lower c).all isIdentPart := by
    decide +kernel
  have hc := List.all_eq_true.mp key c.toNat (List.mem_range.mpr (toNat_lt_of_isIdentPart h))
  simpa [h, and_assoc] using hc

/-- The capital form of a first character is an identifier. -/
theorem isIdent_upper {c : Char} (h : isIdentStart c = true) : isIdent (upper c) = true := by
  have hpart : isIdentPart c = true := by rw [isIdentPart, h, Bool.true_or]
  have key : (List.range 128).all fun n =>
      !isIdentStart (Char.ofNat n) || isIdent (upper (Char.ofNat n)) := by
    decide +kernel
  have hc := List.all_eq_true.mp key c.toNat (List.mem_range.mpr (toNat_lt_of_isIdentPart hpart))
  simpa [h] using hc

/-- **An identifier with a capital first letter** is an identifier. -/
theorem isIdent_upperFirst {s : String} (h : isIdent s.toList = true) :
    isIdent (Name.upperFirst s).toList = true := by
  unfold Name.upperFirst
  cases hs : s.toList with
  | nil =>
    rw [hs] at h
    cases h
  | cons c rest =>
    rw [hs, isIdent, Bool.and_eq_true] at h
    have hupper := isIdent_upper h.1
    rw [String.toList_ofList]
    cases hcs : upper c with
    | nil =>
      rw [hcs] at hupper
      cases hupper
    | cons d ds =>
      rw [hcs, isIdent, Bool.and_eq_true] at hupper
      rw [List.cons_append, isIdent, List.all_append, hupper.1, hupper.2, h.2]
      rfl

/-! ## Keys with one name -/

/-- The capital form of a character is never empty. -/
theorem upper_ne_nil (c : Char) : upper c ≠ [] := by
  have htable : ∀ entry ∈ upperSequences, entry.2 ≠ [] := by decide +kernel
  unfold upper
  split
  · exact List.cons_ne_nil _ _
  · split
    · rename_i n cs hfind
      simpa using htable _ (List.mem_of_find?_eq_some hfind)
    · exact List.cons_ne_nil _ _

namespace Name

/-- Two keys differ at the beginning, and there only in case: the capital form of the first letter
of one is what the other one begins with, in capital form too. -/
def DifferInCase (key other : String) : Prop :=
  ∃ c c' more rest, key.toList = c :: rest ∧ other.toList = c' :: (more ++ rest) ∧ c ≠ c' ∧
    upper c = upper c' ++ more

theorem toList_upperFirst_cons {s : String} {c : Char} {rest : List Char}
    (h : s.toList = c :: rest) : (upperFirst s).toList = upper c ++ rest := by
  simp [upperFirst, h]

theorem DifferInCase.upperFirst_eq {key other : String} (h : DifferInCase key other) :
    upperFirst key = upperFirst other := by
  obtain ⟨c, c', more, rest, hkey, hother, -, hupper⟩ := h
  rw [← String.toList_inj, toList_upperFirst_cons hkey, toList_upperFirst_cons hother, hupper,
    List.append_assoc]

/-- The capital form of one first letter begins with that of the other. -/
theorem eq_or_differInCase {key other : String} {c c' : Char} {more rest : List Char}
    (hkey : key.toList = c :: rest) (hother : other.toList = c' :: (more ++ rest))
    (hupper : upper c = upper c' ++ more) : key = other ∨ DifferInCase key other := by
  by_cases hc : c = c'
  · subst hc
    obtain rfl : more = [] := by simpa using hupper
    exact .inl (String.toList_inj.mp (hkey.trans hother.symm))
  · exact .inr ⟨c, c', more, rest, hkey, hother, hc, hupper⟩

/-- **Which keys become one name**: equal ones, and those that differ in the case of their first
letters. -/
theorem upperFirst_eq_iff {key other : String} : upperFirst key = upperFirst other ↔
    key = other ∨ DifferInCase key other ∨ DifferInCase other key := by
  constructor
  · intro h
    cases hkey : key.toList with
    | nil =>
      cases hother : other.toList with
      | nil => exact .inl (String.toList_inj.mp (hkey.trans hother.symm))
      | cons c' rest' =>
        have hnil := toList_upperFirst_cons hother
        rw [← h, upperFirst, hkey] at hnil
        exact absurd (List.append_eq_nil_iff.mp hnil.symm).1 (upper_ne_nil c')
    | cons c rest =>
      cases hother : other.toList with
      | nil =>
        have hnil := toList_upperFirst_cons hkey
        rw [h, upperFirst, hother] at hnil
        exact absurd (List.append_eq_nil_iff.mp hnil.symm).1 (upper_ne_nil c)
      | cons c' rest' =>
        have happend : upper c ++ rest = upper c' ++ rest' := by
          rw [← toList_upperFirst_cons hkey, ← toList_upperFirst_cons hother, h]
        -- one of the capital forms begins with the other, and what it has more is in the other key
        rcases List.append_eq_append_iff.mp happend with ⟨more, hupper, rfl⟩ | ⟨more, hupper, rfl⟩
        · rcases eq_or_differInCase hother hkey hupper with heq | hdiffer
          · exact .inl heq.symm
          · exact .inr (.inr hdiffer)
        · exact (eq_or_differInCase hkey hother hupper).imp_right .inl
  · rintro (rfl | h | h)
    · rfl
    · exact h.upperFirst_eq
    · exact h.upperFirst_eq.symm

/-- **The names of distinct keys are distinct** exactly if no two keys differ in case only. -/
theorem nodup_map_upperFirst_iff {keys : List String} (h : keys.Nodup) :
    (keys.map upperFirst).Nodup ↔ ∀ key ∈ keys, ∀ other ∈ keys, ¬ DifferInCase key other := by
  rw [List.nodup_map_iff_inj_on h]
  constructor
  · intro hinj key hkey other hother hdiffer
    obtain rfl := hinj key hkey other hother hdiffer.upperFirst_eq
    -- a key has only one first letter
    obtain ⟨c, c', more, rest, hc, hc', hne, -⟩ := hdiffer
    exact hne (List.cons.inj (hc.symm.trans hc')).1
  · intro hdiffer key hkey other hother heq
    rcases upperFirst_eq_iff.mp heq with heq | h | h
    · exact heq
    · exact absurd h (hdiffer key hkey other hother)
    · exact absurd h (hdiffer other hother key hkey)

example : upperFirst "name" = upperFirst "Name" ∧ upperFirst "ßx" = upperFirst "sSx" := by
  decide +kernel

end Name

end Specloom
