/-!
# Hexadecimal digits

The value of a hexadecimal digit and the digits of a byte or a word, as percent-encoding, string
escapes, digests and code point tables need them.

## Main definitions

* `hexValue?`: the value of a digit, either case
* `hexDigit`, `lowerHex`, `upperHex`: digits of a number
-/

namespace Specloom.Text

/-- The value of a hexadecimal digit of either case. -/
def hexValue? (c : Char) : Option Nat :=
  if '0' ≤ c ∧ c ≤ '9' then some (c.toNat - '0'.toNat)
  else if 'a' ≤ c ∧ c ≤ 'f' then some (c.toNat - 'a'.toNat + 10)
  else if 'A' ≤ c ∧ c ≤ 'F' then some (c.toNat - 'A'.toNat + 10)
  else none

/-- Whether a character is a hexadecimal digit. -/
def isHexDigit (c : Char) : Bool :=
  (hexValue? c).isSome

/-- The digit of a value below sixteen, with the letters starting at `ten`. -/
def hexDigit (ten : Char) (n : Nat) : Char :=
  if n < 10 then Char.ofNat ('0'.toNat + n) else Char.ofNat (ten.toNat + (n - 10))

/-- The last `count` hexadecimal digits of a number, most significant first. -/
def hexDigits (ten : Char) : Nat → Nat → List Char
  | 0, _ => []
  | count + 1, n => hexDigits ten count (n / 16) ++ [hexDigit ten (n % 16)]

/-- The last `count` digits in lower case. -/
def lowerHex (count n : Nat) : List Char :=
  hexDigits 'a' count n

/-- The last `count` digits in upper case. -/
def upperHex (count n : Nat) : List Char :=
  hexDigits 'A' count n

@[simp] theorem length_hexDigits (ten : Char) (count n : Nat) :
    (hexDigits ten count n).length = count := by
  induction count generalizing n with
  | zero => rfl
  | succ k ih => simp [hexDigits, ih]

end Specloom.Text
