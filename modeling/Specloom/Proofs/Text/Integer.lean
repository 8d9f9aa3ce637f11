import Mathlib.Data.Nat.Digits.Defs
import Specloom.Text.Integer

/-!
# Integers as text

A text stands for an integer if it is an optional sign with decimal digits behind it, of which there
is at least one. The reader accepts exactly these texts, up to the bounds of 64 bits.

## Main definitions

* `IsNatural`: digits, with the number they stand for
* `IsSigned`: digits after an optional sign, with the integer they stand for

## Main results

* `integer?_eq_some_iff`: the integers that are read
-/

namespace Specloom.Text

/-- Decimal digits, at least one, with the number they stand for: the last digit counts least. -/
def IsNatural (cs : List Char) (n : Nat) : Prop :=
  cs ≠ [] ∧ (∀ c ∈ cs, c.isDigit = true) ∧
    Nat.ofDigits 10 (cs.reverse.map fun c => c.toNat - '0'.toNat) = n

/-- Decimal digits after an optional sign, with the integer they stand for. -/
inductive IsSigned : List Char → Int → Prop
  | plain {digits : List Char} {n : Nat} : IsNatural digits n → IsSigned digits n
  | plus {digits : List Char} {n : Nat} : IsNatural digits n → IsSigned ('+' :: digits) n
  | minus {digits : List Char} {n : Nat} : IsNatural digits n → IsSigned ('-' :: digits) (-n)

/-- An integer of 64 bits, written as decimal digits after an optional sign. -/
def IsSigned64 (cs : List Char) (n : Int) : Prop :=
  IsSigned cs n ∧ -2 ^ 63 ≤ n ∧ n ≤ 2 ^ 63 - 1

/-- Reading digits from the left gives the number that they stand for from the right. -/
theorem foldl_digits (cs : List Char) :
    cs.foldl (fun n c => 10 * n + (c.toNat - '0'.toNat)) 0 =
      Nat.ofDigits 10 (cs.reverse.map fun c => c.toNat - '0'.toNat) := by
  rw [Nat.ofDigits_eq_foldr, List.foldr_map, List.foldr_reverse]
  refine congrArg (fun f => cs.foldl f 0) (funext fun n => funext fun c => ?_)
  exact Nat.add_comm _ _

theorem natural?_eq_some_iff {cs : List Char} {n : Nat} :
    natural? cs = some n ↔ IsNatural cs n := by
  rw [natural?, foldl_digits, IsNatural]
  split
  · rename_i h
    rw [Option.some.injEq, and_iff_right h.1, and_iff_right (List.all_eq_true.mp h.2)]
  · rename_i h
    exact iff_of_false nofun fun hn => h ⟨hn.1, List.all_eq_true.mpr hn.2.1⟩

/-- A sign is no digit. -/
theorem not_isNatural_cons {c : Char} (hc : c.isDigit = false) (cs : List Char) (n : Nat) :
    ¬ IsNatural (c :: cs) n := by
  rintro ⟨-, hdigits, -⟩
  rw [hdigits c List.mem_cons_self] at hc
  cases hc

theorem isSigned_plus_iff {digits : List Char} {n : Int} :
    IsSigned ('+' :: digits) n ↔ (natural? digits).map Int.ofNat = some n := by
  simp only [Option.map_eq_some_iff, natural?_eq_some_iff]
  constructor
  · rintro (h | h)
    · exact absurd h (not_isNatural_cons (by decide) _ _)
    · exact ⟨_, h, rfl⟩
  · rintro ⟨m, hm, rfl⟩
    exact .plus hm

theorem isSigned_minus_iff {digits : List Char} {n : Int} :
    IsSigned ('-' :: digits) n ↔ ((natural? digits).map fun m => -Int.ofNat m) = some n := by
  simp only [Option.map_eq_some_iff, natural?_eq_some_iff]
  constructor
  · rintro (h | _ | h)
    · exact absurd h (not_isNatural_cons (by decide) _ _)
    · exact ⟨_, h, rfl⟩
  · rintro ⟨m, hm, rfl⟩
    exact .minus hm

theorem isSigned_plain_iff {digits : List Char} (hplus : ∀ cs, digits ≠ '+' :: cs)
    (hminus : ∀ cs, digits ≠ '-' :: cs) {n : Int} :
    IsSigned digits n ↔ (natural? digits).map Int.ofNat = some n := by
  simp only [Option.map_eq_some_iff, natural?_eq_some_iff]
  constructor
  · rintro (h | h | h)
    · exact ⟨_, h, rfl⟩
    · exact absurd rfl (hplus _)
    · exact absurd rfl (hminus _)
  · rintro ⟨m, hm, rfl⟩
    exact .plain hm

/-- **The integers that are read** are those of 64 bits, written as digits after an optional
sign. -/
theorem integer?_eq_some_iff {cs : List Char} {n : Int} :
    integer? cs = some n ↔ IsSigned64 cs n := by
  have hfits : fits64 n = true ↔ -2 ^ 63 ≤ n ∧ n ≤ 2 ^ 63 - 1 := by
    simp [fits64]
  unfold integer?
  rw [Option.filter_eq_some_iff, hfits, IsSigned64]
  refine and_congr_left fun _ => ?_
  split
  · exact isSigned_plus_iff.symm
  · exact isSigned_minus_iff.symm
  · rename_i hplus hminus
    exact (isSigned_plain_iff hplus hminus).symm

theorem integer?_eq_none_iff {cs : List Char} :
    integer? cs = none ↔ ∀ n, ¬ IsSigned64 cs n := by
  rw [Option.eq_none_iff_forall_ne_some]
  exact forall_congr' fun n => not_congr integer?_eq_some_iff

end Specloom.Text
